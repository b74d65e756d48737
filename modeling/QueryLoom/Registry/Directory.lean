import QueryLoom.Registry.Basic

/-!
# Directories of documents

All documents below a directory are loaded, in the order of their paths. A document is filed under
the name of the folder it lies in; one that lies directly in the directory is filed under its own
name.
-/

namespace QueryLoom

/-- A file below a directory. -/
structure DocumentFile where
  /-- The folders between the directory and the file. -/
  folders : List String
  name : String
  text : String

namespace DocumentFile

/-! ### Names -/

/-- The stem of a name and what follows its last dot. A dot in front belongs to the stem. -/
def splitName (name : String) : String × Option String :=
  match Text.cutAt? ['.'] name.toList.reverse with
  | some (after, before) =>
    if before.isEmpty then (name, none)
    else (String.ofList before.reverse, some (String.ofList after.reverse))
  | none => (name, none)

/-- Whether a file is loaded. -/
def isDocument (f : DocumentFile) : Bool :=
  f.name.endsWith ".mu" || f.name.endsWith ".xml"

/-- Whether a file holds a mapper, and not queries under headings. -/
def isMapper (f : DocumentFile) : Bool :=
  (splitName f.name).2 == some "xml"

/-- The namespace that a file is filed under. -/
def namespaceName (f : DocumentFile) : String :=
  f.folders.getLast?.getD (splitName f.name).1

/-- The names on the way to a file. -/
def steps (f : DocumentFile) : List String := f.folders ++ [f.name]

/-- The path of a file in a directory. -/
def path (root : String) (f : DocumentFile) : String :=
  "/".intercalate (root :: f.steps)

/-- Whether a path comes before another one, step by step. -/
def comesBefore (f g : DocumentFile) : Bool :=
  !List.lex g.steps f.steps (· < ·)

end DocumentFile

namespace Edit

/-! ### Loading -/

/-- Load one document. -/
def loadFile (root : String) (f : DocumentFile) : Edit Nat := do
  let load := if f.isMapper then loadMapper else loadMarkdown
  let count ← tryCatch (load f.namespaceName f.text) fun e => throw (e.within (f.path root))
  Logged.record (.fileLoaded (f.path root) f.namespaceName count)
  return count

/-- Load all documents among the files of a directory; the result is the number of templates. -/
def loadDirectory (root : String) (files : List DocumentFile) : Edit Nat := do
  let documents := (files.filter (·.isDocument)).mergeSort DocumentFile.comesBefore
  let counts ← documents.mapM (loadFile root)
  return counts.foldl (· + ·) 0

end Edit

end QueryLoom
