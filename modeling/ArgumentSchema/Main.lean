import ArgumentSchema.Calendar
import ArgumentSchema.CommandLine.Run
import Std.Time.DateTime.Timestamp

/-!
# The program

The program collects what a run may look at, the files that its words name, the environment, and the
standard input if the run reads it, and prints what the run ends with. Everything in between is
decided by `Program.run`.
-/

namespace ArgumentSchema.Shell

/-- The bytes between zero bytes, as text where they are text. -/
def zeroEnded (data : ByteArray) : List String :=
  let parts := data.toList.splitOnP (· == 0)
  parts.filterMap fun part => String.fromUTF8? part.toByteArray

/-- A variable of the form in which an environment is handed over. -/
def assignment? (s : String) : Option (String × String) :=
  match Text.cutAt '=' s.toList with
  | (name, some value) => some (String.ofList name, String.ofList value)
  | (_, none) => none

/-- The environment of this process. -/
def environment : IO Environment := do
  try
    let data ← IO.FS.readBinFile "/proc/self/environ"
    pure ((zeroEnded data).filterMap assignment?)
  catch _ => pure []

/-- The files of the given names that can be read, and the directories that can be found. -/
def filesNamed (names : List String) (current : List String) : IO Files := do
  let here ← IO.currentDir
  let root := (FileTree.directory []).put current (.directory [])
  names.foldlM (fun files (name : String) => do
    let path := here / name
    let place := files.directoryOf (FileName.ofText name)
    let known := (files.findWritten name).isOk
    if known then pure files
    else if ← path.isDir then
      pure { files with root := files.root.put place (.directory []) }
    else
      try
        let data ← IO.FS.readBinFile path
        pure { files with root := files.root.put place (.file data.toList) }
      catch _ => pure files) ⟨root, current⟩

/-- The time now, as log records carry it. -/
def timeNow : IO String := do
  let now ← Std.Time.Timestamp.now
  let microseconds := now.toNanosecondsSinceUnixEpoch.toInt.toNat / 1000
  pure ((Moment.ofMicroseconds microseconds).iso "T" ++ "Z")

/-- What a run with the given words finds around it. -/
def surroundings (words : List String) : IO Surroundings := do
  let env ← environment
  let here ← IO.currentDir
  let current := (FileName.ofText here.toString).steps
  let files ← filesNamed (Program.namedFiles words env current) current
  let input ←
    if Program.readsInput words then (← IO.getStdin).readBinToEnd else pure ByteArray.empty
  pure ⟨Commands.program.name, files, env, input.toList, ← timeNow⟩

end ArgumentSchema.Shell

open ArgumentSchema in
/-- Runs the program with the words of its command line. -/
def main (words : List String) : IO UInt32 := do
  let ending := Program.run (← Shell.surroundings words) words
  IO.print ending.output
  IO.eprint ending.errors
  match ending.unforeseen with
  | some name => IO.eprintln ("Unforeseen fault: " ++ name)
  | none => pure ()
  pure ending.status.toUInt32
