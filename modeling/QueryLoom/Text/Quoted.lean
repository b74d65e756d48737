/-!
# Doubled quotes

Inside quotes a quote character is written twice. Reading stops at a quote that stands alone.
-/

namespace QueryLoom.Text

/-- The characters between the quotes: every quote character twice. -/
def doubled (quote : Char) : List Char → List Char
  | [] => []
  | c :: cs => if c = quote then quote :: quote :: doubled quote cs else c :: doubled quote cs

/-- A text between quotes. -/
def enclosed (quote : Char) (cs : List Char) : List Char :=
  quote :: doubled quote cs ++ [quote]

/-- Read up to the closing quote: the text with doubled quotes undone, and what follows. -/
def readEnclosed? (quote : Char) : List Char → Option (List Char × List Char)
  | [] => none
  | [c] => if c = quote then some ([], []) else none
  | c :: d :: rest =>
    if c = quote then
      if d = quote then (readEnclosed? quote rest).map fun (cs, rest) => (quote :: cs, rest)
      else some ([], d :: rest)
    else (readEnclosed? quote (d :: rest)).map fun (cs, rest) => (c :: cs, rest)

/-- What reading leaves over is shorter than the input. -/
theorem length_of_readEnclosed? {quote : Char} {cs text rest : List Char}
    (h : readEnclosed? quote cs = some (text, rest)) : rest.length < cs.length := by
  fun_induction readEnclosed? quote cs generalizing text rest <;>
    grind [Option.map_eq_some_iff]

end QueryLoom.Text
