import QueryLoom.Template.Render

/-!
# Stores of templates

Templates are registered by name, and any of them can insert any other. A template that would
insert itself, directly or through others, is refused when it is registered, and so is one that
would nest too deep; for that the store knows which names each template mentions.
-/

namespace QueryLoom.Template

/-! ### Mentions -/

/-- A character of a name that is looked for in insertions. -/
def isMentionChar (c : Char) : Bool :=
  Text.isAsciiAlphanumeric c || c == '_' || c == '.' || c == '-' || c == '/'

/-- The name mentioned by an insertion at the start of a text. -/
def mention? (cs : List Char) : Option String := do
  let rest ← Text.stripLead? "\x7b\x7b".toList cs
  let rest := match rest with
    | '~' :: rest => rest
    | rest => rest
  let rest ← Text.stripLead? ['>'] rest
  let name := (Text.trimStart rest).takeWhile isMentionChar
  if name.isEmpty then none else some (String.ofList name)

/-- The names mentioned by insertions, in the order of the text. -/
def mentions : List Char → List String
  | [] => []
  | c :: cs => (mention? (c :: cs)).toList ++ mentions cs

/-- Every name of a list once, in order. -/
def sortedNames (names : List String) : List String :=
  KeyMap.keys (KeyMap.ofEntries (names.map fun name => (name, ())))

/-! ### Stores -/

/-- A registered template: what it was read to, and the names it mentions. -/
structure Registered where
  nodes : List Node
  references : List String

/-- Templates by name. -/
abbrev Store := KeyMap Registered

namespace Store

/-- How deep insertions may nest. -/
def maxDepth : Nat := 32

/-- The names that a template mentions. -/
def references (s : Store) (name : String) : List String :=
  match KeyMap.get? name s with
  | some r => r.references
  | none => []

/-- Whether a name may be mentioned by the template `name`, with `room` more levels below it: the
last mention is looked at first, and what it mentions before the mention in front of it. -/
def checkMention (s : Store) (name : String) : (room : Nat) → String → Except ParseFault Unit
  | 0, mentioned =>
    .error (if mentioned = name then .includesItself name else .nestsTooDeep name maxDepth)
  | room + 1, mentioned =>
    if mentioned = name then .error (.includesItself name)
    else (s.references mentioned).reverse.forM (checkMention s name room)

/-- The names that a text mentions. -/
def namesIn (text : String) : List String := sortedNames (mentions text.toList)

/-- What is checked before the text of a template is read. -/
def checkAll (s : Store) (name : String) (names : List String) : Except ParseFault Unit :=
  names.reverse.forM (s.checkMention name maxDepth)

/-- Remove a template. -/
def unregister (name : String) (s : Store) : Store := KeyMap.erase name s

end Store

/-! ### Changes -/

/-- A change of a store that can fail. What was changed before an error stays changed. -/
abbrev StoreEdit := ExceptT SqlError (StateM Store)

namespace StoreEdit

variable {α : Type}

/-- The result of a change, and the store after it, also after an error. -/
def apply (edit : StoreEdit α) (s : Store) : SqlResult α × Store := edit.run.run s

/-- The store after a change, if it does not fail. -/
def accepted (edit : StoreEdit α) (s : Store) : SqlResult Store :=
  match edit.apply s with
  | (.ok _, s') => .ok s'
  | (.error e, _) => .error e

/-- Register a template, in place of the one of that name. -/
def register (name text : String) : StoreEdit Unit := do
  let mentioned := Store.namesIn text
  match (← get).checkAll name mentioned with
  | .error fault => throw (.parse [] fault)
  | .ok _ =>
    match Node.parse text with
    | .error reason => throw (.parse [name] (.template reason))
    | .ok nodes => modify (KeyMap.insert name ⟨nodes, mentioned⟩)

/-- Remove a template. -/
def unregister (name : String) : StoreEdit Unit := modify (Store.unregister name)

end StoreEdit

namespace Store

/-- The store with a template registered, if it is not refused. -/
def register (name text : String) (s : Store) : SqlResult Store :=
  (StoreEdit.register name text).accepted s

/-- Whether there is a template of a name. -/
def contains (name : String) (s : Store) : Bool := KeyMap.has name s

/-- The nodes of a template. -/
def nodes? (s : Store) (name : String) : Option (List Node) :=
  (KeyMap.get? name s).map (·.nodes)

/-! ### Rendering -/

/-- Render a registered template. -/
def render (s : Store) (name : String) (view : Json) (x : Expansion) :
    SqlResult (String × Expansion) :=
  match s.nodes? name with
  | none => .error (.parse [name] (.template "unknown template"))
  | some nodes =>
    match Template.render s.nodes? (some name) nodes view x with
    | .ok found => .ok found
    | .error reason => .error (.parse [name] (.template reason))

/-- Render the text of a template. A text without braces stays. -/
def renderText (s : Store) (text : String) (view : Json) (x : Expansion) :
    SqlResult (String × Expansion) :=
  if !Text.contains text "\x7b\x7b" then .ok (text, x)
  else
    match (Node.parse text).bind fun nodes => Template.render s.nodes? none nodes view x with
    | .ok found => .ok found
    | .error reason => .error (.parse [] (.template reason))

end Store

/-! ### Order clauses -/

/-- Whether the last line of a text may hold a comment that reaches to its end. -/
def mayEndInComment (cs : List Char) : Bool :=
  let line := (cs.reverse.takeWhile (· != '\n')).reverse
  Text.hasPiece "--".toList line || line.contains '#'

/-- The text with the order clause that is still to be written. -/
def appendOrder (text : String) (x : Expansion) : String :=
  match x.pendingOrder? with
  | none => text
  | some order =>
    text ++ (if mayEndInComment text.toList then "\n" else "") ++ " ORDER BY " ++ order

/-- The text of a request: what `f` renders, with the order clause that is still to be written. -/
def expandWith (r : Request) (d : Dialect) (enums : Clause.EnumTable)
    (f : Expansion → SqlResult (String × Expansion)) : SqlResult String :=
  (f (.ofRequest r d enums)).map fun (text, x) => appendOrder text x

/-- The text of a registered template for a request. -/
def Store.expand (s : Store) (enums : Clause.EnumTable) (name : String) (r : Request)
    (d : Dialect) : SqlResult String :=
  expandWith r d enums (s.render name r.view)

/-- The text of a template that is not registered, for a request. -/
def Store.expandText (s : Store) (enums : Clause.EnumTable) (text : String) (r : Request)
    (d : Dialect) : SqlResult String :=
  expandWith r d enums (s.renderText text r.view)

/-- The texts of templates one after the other, rendered for one request. -/
def Store.renderTexts (s : Store) (view : Json) (x : Expansion) :
    List String → SqlResult (String × Expansion)
  | [] => .ok ("", x)
  | text :: texts => do
    let (first, x) ← s.renderText text view x
    let (rest, x) ← s.renderTexts view x texts
    return (first ++ rest, x)

/-- A store as it is shown in messages. -/
def Store.shown (s : Store) : String :=
  "MacroEngine \x7b templates: " ++ toString s.length ++ ", .. \x7d"

end QueryLoom.Template
