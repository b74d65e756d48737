import QueryLoom.Text.CharClass

/-!
# Words of an identifier

An identifier is read as a sequence of words: runs of letters and numbers, cut again where a small
letter meets a capital (`userName`) and before the last capital of a run that goes on small
(`HTTPServer`). The spellings of a name are ways of writing that sequence.
-/

namespace QueryLoom.Text

/-! ### The words -/

/-- What the characters of the current word end in, as far as letter case goes. -/
inductive CaseRun where
  | start
  | small
  | capital
  deriving DecidableEq

/-- The case after one more character; a character without case changes nothing. -/
def CaseRun.next (run : CaseRun) (c : Char) : CaseRun :=
  if isSmall c then .small else if isCapital c then .capital else run

/-- Cut a run of letters and numbers into words. `word` is the current word, last character
first. -/
def humps (run : CaseRun) (word : List Char) : List Char → List (List Char)
  | [] => if word.isEmpty then [] else [word.reverse]
  | [c] => [(c :: word).reverse]
  | c :: d :: cs =>
    if run.next c = .small && isCapital d then
      (c :: word).reverse :: humps .start [] (d :: cs)
    else if run = .capital && isCapital c && isSmall d then
      word.reverse :: humps .start [c] (d :: cs)
    else humps (run.next c) (c :: word) (d :: cs)

/-- The words of an identifier. -/
def words (cs : List Char) : List (List Char) :=
  (cs.splitOnP fun c => !isAlphanumeric c).flatMap (humps .start [])

/-! ### Spellings -/

/-- A word in small letters; a sigma at the end of the word takes its final form. -/
def smallWord : List Char → List Char
  | [] => []
  | [c] => if c == 'Σ' then ['ς'] else toSmall c
  | c :: cs => toSmall c ++ smallWord cs

/-- A word in small letters after a capital. -/
def capitalWord : List Char → List Char
  | [] => []
  | c :: cs => toCapital c ++ smallWord cs

/-- The first word small, the others capitalised, with nothing between them. -/
def camelCase (cs : List Char) : List Char :=
  match words cs with
  | [] => []
  | w :: ws => smallWord w ++ ws.flatMap capitalWord

/-- All words capitalised, with nothing between them. -/
def pascalCase (cs : List Char) : List Char :=
  (words cs).flatMap capitalWord

/-- All words small, with underscores between them. -/
def snakeCase (cs : List Char) : List Char :=
  ['_'].intercalate ((words cs).map smallWord)

/-- All words small, with hyphens between them. -/
def kebabCase (cs : List Char) : List Char :=
  ['-'].intercalate ((words cs).map smallWord)

/-- The camel spelling of a name with underscores; other names stay. -/
def snakeToCamel (name : String) : String :=
  if name.toList.contains '_' then String.ofList (camelCase name.toList) else name

/-- The snake spelling of a name with ASCII capitals; other names stay. -/
def camelToSnake (name : String) : String :=
  if name.toList.any fun c => 'A' ≤ c && c ≤ 'Z' then String.ofList (snakeCase name.toList)
  else name

end QueryLoom.Text
