import VerilogLibrary.Path

/-!
# Access to files

The program looks at files, reads and writes them whole, and makes directories.
`Files` holds these actions for some monad, so that one and the same program runs
on the files of the machine and on a file tree in memory. An action that fails
says why.

A directory is made by making its parent first wherever the parent is missing.
Someone else's directory in the place is as good as one's own. The parent of a
path is a shorter path, so the length of the path bounds the depth of the
recursion.
-/

namespace VerilogLibrary

/-- Why an action on a file fails. -/
inductive FileError where
  | notFound
  | alreadyExists
  | notADirectory
  | isADirectory
  | nameTooLong
  /-- The path holds a character that no path can hold. -/
  | invalidPath
  /-- Any other reason, in the words of the system. -/
  | other (reason : String)
  deriving DecidableEq, Repr

/-- The message for a failed action, with the number that the system has for it. -/
def FileError.message : FileError → String
  | .notFound => "No such file or directory (os error 2)"
  | .alreadyExists => "File exists (os error 17)"
  | .notADirectory => "Not a directory (os error 20)"
  | .isADirectory => "Is a directory (os error 21)"
  | .nameTooLong => "File name too long (os error 36)"
  | .invalidPath => "file name contained an unexpected NUL byte"
  | .other reason => reason

/-- What a path leads to. -/
inductive FileKind where
  | directory
  | file
  deriving DecidableEq, Repr

/-- The actions on files. -/
structure Files (m : Type → Type) where
  /-- What is there, if anything. -/
  kind? : String → m (Option FileKind)
  /-- The content of a file. -/
  read : String → m (Except FileError (List UInt8))
  /-- Gives a file this content, and makes the file if it is not there. -/
  write : String → List UInt8 → m (Except FileError Unit)
  /-- Makes a directory in one that is there. -/
  makeDirectory : String → m (Except FileError Unit)
  /-- The absolute path of the working directory. -/
  workingDirectory : m String

namespace Files

variable {m : Type → Type} [Monad m]

/-- Whether a path leads to a directory. -/
def isDirectory (files : Files m) (path : String) : m Bool := do
  return (← files.kind? path) == some .directory

/-- Whether a path leads to anything. -/
def exists? (files : Files m) (path : String) : m Bool := do
  return (← files.kind? path).isSome

/-! ## Making directories with their parents -/

/-- A directory that could not be made is no failure if there is one. -/
def unlessDirectory (files : Files m) (path : String) (e : FileError) :
    m (Except FileError Unit) := do
  return if ← files.isDirectory path then .ok () else .error e

/-- Makes a directory whose parent should be there. -/
def makeLast (files : Files m) (path : String) : m (Except FileError Unit) := do
  match ← files.makeDirectory path with
  | .ok () => return .ok ()
  | .error e => files.unlessDirectory path e

/-- Makes a directory and its parents, to a depth. -/
def makeDirectoriesWithin (files : Files m) : Nat → String → m (Except FileError Unit)
  | 0, _ => return .error .nameTooLong
  | depth + 1, path => do
    if path.isEmpty then return .ok ()
    match ← files.makeDirectory path with
    | .ok () => return .ok ()
    | .error .notFound =>
      match Path.parent? path with
      | none => return .error (.other "failed to create whole tree")
      | some parent =>
        match ← files.makeDirectoriesWithin depth parent with
        | .error e => return .error e
        | .ok () => files.makeLast path
    | .error e => files.unlessDirectory path e

/-- Makes a directory and its parents. -/
def makeDirectories (files : Files m) (path : String) : m (Except FileError Unit) :=
  files.makeDirectoriesWithin (path.length + 1) path

end Files

end VerilogLibrary
