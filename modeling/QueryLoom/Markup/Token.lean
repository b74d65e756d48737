import QueryLoom.KeyMap
import QueryLoom.Markup.Entity
import QueryLoom.Text.Trim

/-!
# Markup tokens

The text of a document is cut into tags, texts and asides (comments, instructions, declarations).
Character references are resolved in texts and attribute values, not in CDATA sections.
-/

namespace QueryLoom.Markup

/-- A token of a document. -/
inductive Token where
  | opening (name : String) (attributes : KeyMap String)
  | childless (name : String) (attributes : KeyMap String)
  | closing (name : String)
  | text (s : String)
  | aside

namespace Token

/-- The white space of markup. -/
def isSpace (c : Char) : Bool :=
  c == ' ' || c == '\t' || c == '\n' || c == '\r'

/-! ### Attributes -/

/-- The value of an attribute after its equals sign, and what follows it. -/
def readValue? (cs : List Char) : Option (List Char × List Char) :=
  match cs.dropWhile isSpace with
  | quote :: rest =>
    if quote == '"' || quote == '\'' then Text.cutAt? [quote] rest else none
  | [] => none

/-- One attribute at the start of a text that does not begin with white space: its key, its value
as written, and what follows. -/
def readAttribute? : List Char → Option (List Char × List Char × List Char)
  | [] => none
  | c :: cs => do
    let key := c :: cs.takeWhile fun c => c != '=' && !isSpace c
    match (cs.drop (key.length - 1)).dropWhile isSpace with
    | '=' :: rest =>
      let (value, rest) ← readValue? rest
      return (key, value, rest)
    | _ => none

/-- The attributes of a tag, each key once; `budget` bounds their number. -/
def readAttributes (known : KeyMap String) :
    (budget : Nat) → List Char → Except String (KeyMap String)
  | 0, _ => .error "too many attributes"
  | budget + 1, cs =>
    match cs.dropWhile isSpace with
    | [] => .ok known
    | c :: cs =>
      match readAttribute? (c :: cs) with
      | none => .error "attribute without a quoted value"
      | some (key, value, rest) =>
        let key := String.ofList key
        if KeyMap.has key known then .error "duplicate attribute"
        else
          match Entity.resolve none value with
          | .error reason => .error reason
          | .ok value => readAttributes (known.insert key (String.ofList value)) budget rest

/-! ### Tags -/

/-- The text of a tag up to the first `>` outside quotes, and what follows. -/
def cutTag? (quote : Option Char) : List Char → Option (List Char × List Char)
  | [] => none
  | c :: cs =>
    match quote with
    | some q =>
      (cutTag? (if c == q then none else some q) cs).map fun (tag, rest) => (c :: tag, rest)
    | none =>
      if c == '>' then some ([], cs)
      else
        let quote := if c == '"' || c == '\'' then some c else none
        (cutTag? quote cs).map fun (tag, rest) => (c :: tag, rest)

/-- The token of an opening tag, from what stands between its brackets. -/
def ofTag (tag : List Char) : Except String Token := do
  let childless := tag.getLast? == some '/'
  let tag := if childless then tag.dropLast else tag
  let name := tag.takeWhile fun c => !isSpace c
  let attributes ← readAttributes [] (tag.length + 1) (tag.drop name.length)
  return if childless then .childless (String.ofList name) attributes
    else .opening (String.ofList name) attributes

/-- The token of a closing tag, from what stands after its slash. White space after the name does
not count; white space alone is the name. -/
def ofClosingTag (tag : List Char) : Token :=
  let name := Text.dropEndWhile isSpace tag
  .closing (String.ofList (if name.isEmpty then tag else name))

/-- What follows a declaration: brackets may nest inside it. -/
def cutDeclaration? (depth : Nat) : List Char → Option (List Char × List Char)
  | [] => none
  | c :: cs =>
    match c, depth with
    | '>', 0 => some ([], cs)
    | '>', depth + 1 => (cutDeclaration? depth cs).map fun (body, rest) => (c :: body, rest)
    | '<', depth => (cutDeclaration? (depth + 1) cs).map fun (body, rest) => (c :: body, rest)
    | c, depth => (cutDeclaration? depth cs).map fun (body, rest) => (c :: body, rest)

/-- A comment, a CDATA section or a document type, after `<!`. -/
def readBang (cs : List Char) : Except String (Token × List Char) :=
  match Text.stripLead? "--".toList cs with
  | some rest =>
    match Text.cutAt? "-->".toList rest with
    | some (_, rest) => .ok (.aside, rest)
    | none => .error "unclosed comment"
  | none =>
    match Text.stripLead? "[CDATA[".toList cs with
    | some rest =>
      match Text.cutAt? "]]>".toList rest with
      | some (body, rest) => .ok (.text (String.ofList body), rest)
      | none => .error "unclosed CDATA section"
    | none =>
      if (cs.take 7).map Char.toUpper == "DOCTYPE".toList then
        match cutDeclaration? 0 (cs.drop 7) with
        | some (body, rest) =>
          if body.all isSpace then .error "document type without a name" else .ok (.aside, rest)
        | none => .error "unclosed document type"
      else .error "unknown declaration"

/-- The token after a `<`, and what follows it. -/
def readMarkup (cs : List Char) : Except String (Token × List Char) :=
  match cs with
  | [] => .error "unclosed tag"
  | '!' :: rest => readBang rest
  | '?' :: rest =>
    if rest.head? == some '>' then .error "unclosed instruction"
    else
      match Text.cutAt? "?>".toList rest with
      | some (_, rest) => .ok (.aside, rest)
      | none => .error "unclosed instruction"
  | '/' :: rest =>
    match cutTag? none rest with
    | some (tag, rest) => .ok (ofClosingTag tag, rest)
    | none => .error "unclosed tag"
  | cs =>
    match cutTag? none cs with
    | some (tag, rest) => (ofTag tag).map fun token => (token, rest)
    | none => .error "unclosed tag"

/-- The first token of a text that is not empty, and what follows it. -/
def next (c : Char) (cs : List Char) : Except String (Token × List Char) :=
  if c == '<' then readMarkup cs
  else do
    let text := (c :: cs).takeWhile (· != '<')
    let resolved ← Entity.resolve none text
    return (.text (String.ofList resolved), (c :: cs).drop text.length)

/-! ### Whole documents -/

/-- The tokens of a text; `budget` bounds their number. -/
def readAll : (budget : Nat) → List Char → Except String (List Token)
  | _, [] => .ok []
  | 0, _ => .error "too many tokens"
  | budget + 1, c :: cs => do
    let (token, rest) ← next c cs
    let tokens ← readAll budget rest
    return token :: tokens

/-- Whether every closing tag names the innermost open element. -/
def closesInOrder (opened : List String) : List Token → Bool
  | [] => true
  | .opening name _ :: tokens => closesInOrder (name :: opened) tokens
  | .closing name :: tokens =>
    match opened with
    | [] => false
    | o :: outer => o == name && closesInOrder outer tokens
  | _ :: tokens => closesInOrder opened tokens

/-- The tokens of a document. A byte order mark in front of it does not count. -/
def ofText (cs : List Char) : Except String (List Token) := do
  let cs := (Text.stripLead? [Char.ofNat 0xfeff] cs).getD cs
  let tokens ← readAll cs.length cs
  if closesInOrder [] tokens then return tokens else throw "tags are not properly nested"

end Token

end QueryLoom.Markup
