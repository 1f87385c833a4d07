import VerilogLibrary.Program

/-!
# The command

Runs the program on the files of the machine.
-/

namespace VerilogLibrary.Machine

/-- The reason of a failed action on a file. -/
def fileError (e : IO.Error) : FileError :=
  match e with
  | .noFileOrDirectory _ _ _ => .notFound
  | .alreadyExists _ 17 _ => .alreadyExists
  | .inappropriateType _ 20 _ => .notADirectory
  | .inappropriateType _ 21 _ => .isADirectory
  | e => .other (toString e)

/-- Runs an action, and brings the reason if it fails. -/
def attempt {α : Type} (action : IO α) : IO (Except FileError α) := do
  try return .ok (← action)
  catch e => return .error (fileError e)

/-- What a path leads to on the machine. -/
def kind? (path : String) : IO (Option FileKind) := do
  if path.isEmpty then return none
  let absolute := (← IO.currentDir) / path
  if ← absolute.isDir then return some .directory
  else if ← absolute.pathExists then return some .file
  else return none

/-- The files of the machine. -/
def files : Files IO where
  kind? := kind?
  read path := attempt do return (← IO.FS.readBinFile path).data.toList
  write path content := attempt (IO.FS.writeBinFile path ⟨content.toArray⟩)
  makeDirectory path := attempt (IO.FS.createDir path)
  workingDirectory := do return (← IO.currentDir).toString

end VerilogLibrary.Machine

def main (args : List String) : IO UInt32 := do
  let outcome ← VerilogLibrary.Program.run VerilogLibrary.Machine.files args
  IO.print outcome.stdout
  IO.eprint outcome.stderr
  return outcome.code
