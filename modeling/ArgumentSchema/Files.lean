import ArgumentSchema.Text.Split

/-!
# Files

The files that a run can see are a tree of directories and a current directory in it. A file name
is a path from the root or from the current directory; it is followed step by step, and fails at
the first step that does not exist or goes through a file. Nothing here is written. Main
definitions: `FileTree`, `Files`, `FileName`, `Files.find`, `Files.read`.
-/

namespace ArgumentSchema

/-- A file or a directory. -/
inductive FileTree where
  | file (contents : List UInt8)
  | directory (entries : List (String × FileTree))

namespace FileTree

/-- What a directory holds under a name. -/
def child? (name : String) : FileTree → Option FileTree
  | file _ => none
  | directory entries => entries.lookup name

/-- Whether this is a directory. -/
def isDirectory : FileTree → Bool
  | file _ => false
  | directory _ => true

/-- Whether this is a file. -/
def isFile (t : FileTree) : Bool := !t.isDirectory

/-- Puts a tree under a row of names; the directories on the way are created. -/
def put : FileTree → List String → FileTree → FileTree
  | _, [], new => new
  | file _, name :: rest, new => directory [(name, put (directory []) rest new)]
  | directory entries, name :: rest, new =>
    let inner := (entries.lookup name).getD (directory [])
    directory ((name, put inner rest new) :: entries.filter fun e => e.1 != name)
termination_by _ names _ => names.length

end FileTree

/-- Why a file name leads nowhere. -/
inductive FileFault where
  | missing
  | isDirectory
  | notDirectory
deriving DecidableEq, Repr

/-- The phrase for a fault. -/
def FileFault.message : FileFault → String
  | missing => "No such file or directory"
  | isDirectory => "Is a directory"
  | notDirectory => "Not a directory"

/-- The files that a run can see, and the names of the directories that lead to the current one. -/
structure Files where
  root : FileTree
  current : List String

/-- A file name in its shortest written form: without empty and idle steps. -/
structure FileName where
  absolute : Bool
  steps : List String
deriving DecidableEq, Repr

namespace FileName

/-- The steps of a written file name. -/
def writtenSteps (text : String) : List String :=
  (Text.splitOn ['/'] text.toList).map String.ofList

/-- Reads a file name. -/
def ofText (text : String) : FileName where
  absolute := text.toList.head? == some '/'
  steps := (writtenSteps text).filter fun s => s != "" && s != "."

/-- A file name as text. -/
def text (n : FileName) : String :=
  let joined := "/".intercalate n.steps
  if n.absolute then "/" ++ joined else if n.steps.isEmpty then "." else joined

/-- The absolute name of a row of directories. -/
def ofSteps (steps : List String) : FileName := ⟨true, steps⟩

/-- A file name one step further. -/
def child (n : FileName) (name : String) : FileName := { n with steps := n.steps ++ [name] }

/-- The ending of a file name from its last dot on. A dot at either end of the name starts none. -/
def ending (n : FileName) : List Char :=
  let name := (n.steps.getLast?.getD "").toList
  let after := (name.reverse.takeWhile (· != '.')).reverse
  let before := name.length - after.length - 1
  if after.isEmpty || after.length == name.length || before == 0 then [] else '.' :: after

end FileName

namespace Files

/-- Follows steps from a directory: the directories on the way, and what stands at the end. -/
def follow (root : FileTree) : List String → FileTree → List String →
    Except FileFault (List String × FileTree)
  | here, t, [] => .ok (here, t)
  | here, t, step :: rest =>
    if !t.isDirectory then .error .notDirectory
    else if step = "" ∨ step = "." then follow root here t rest
    else if step = ".." then
      let above := here.dropLast
      let parent := above.foldl (fun t s => (t.child? s).getD (.directory [])) root
      follow root above parent rest
    else
      match t.child? step with
      | some c => follow root (here ++ [step]) c rest
      | none => .error .missing

/-- The current directory. -/
def here (f : Files) : FileTree :=
  f.current.foldl (fun t s => (t.child? s).getD (.directory [])) f.root

/-- What stands behind a row of steps, from the root or from the current directory. -/
def walk (f : Files) (absolute : Bool) (steps : List String) : Except FileFault FileTree :=
  let start := if absolute then ([], f.root) else (f.current, f.here)
  (follow f.root start.1 start.2 steps).map (·.2)

/-- What a file name leads to. -/
def find (f : Files) (n : FileName) : Except FileFault FileTree := f.walk n.absolute n.steps

/-- What a written file name leads to. An ending stroke asks for a directory, and the empty text
leads nowhere. -/
def findWritten (f : Files) (text : String) : Except FileFault FileTree :=
  if text.isEmpty then .error .missing
  else f.walk (text.toList.head? == some '/') (FileName.writtenSteps text)

/-- Whether a file name leads to a file. -/
def isFile (f : Files) (n : FileName) : Bool :=
  match f.find n with
  | .ok t => t.isFile
  | .error _ => false

/-- The bytes of a found file. -/
def contents : Except FileFault FileTree → Except FileFault (List UInt8)
  | .ok (.file bytes) => .ok bytes
  | .ok (.directory _) => .error .isDirectory
  | .error e => .error e

/-- The bytes of a file. -/
def read (f : Files) (n : FileName) : Except FileFault (List UInt8) := contents (f.find n)

/-- The directory that a file name means, whether it exists or not: steps upward are taken off. -/
def directoryOf (f : Files) (n : FileName) : List String :=
  n.steps.foldl (fun here s => if s = ".." then here.dropLast else here ++ [s])
    (if n.absolute then [] else f.current)

end Files

end ArgumentSchema
