import VerilogLibrary.Listing

/-!
# Invocations

The program has three commands, two flags and an option that hold for all of
them, and an option or an argument for each command. An invocation is what a
command line says once it is read.
-/

namespace VerilogLibrary

/-- A command with its own options. -/
inductive Command where
  /-- Writes the library, to the given path if there is one. -/
  | generate (output? : Option String)
  /-- Checks a library, at the given path if there is one. -/
  | check (path? : Option String)
  /-- Lists the modules of the library. -/
  | list (format : ListingFormat)
  deriving DecidableEq, Repr

/-- What a command line says. -/
structure Invocation where
  /-- Whether messages about success are suppressed. -/
  quiet : Bool := false
  /-- How often more log messages are asked for, at most 255 times. -/
  verbosity : Nat := 0
  /-- The path of the configuration. -/
  config? : Option String := none
  command : Command
  deriving DecidableEq, Repr

/-- The names of commands. Each has options of its own. -/
inductive CommandName where
  | generate
  | check
  | list
  deriving DecidableEq, Repr

namespace CommandName

/-- All commands. -/
def all : List CommandName :=
  [.generate, .check, .list]

/-- The word for a command. -/
def word : CommandName → String
  | .generate => "generate"
  | .check => "check"
  | .list => "list"

/-- The command that a word stands for. -/
def ofWord? (s : String) : Option CommandName :=
  all.find? (·.word == s)

end CommandName

/-- Why a command line says nothing that can be done. -/
inductive UsageError where
  /-- There is no argument at all. -/
  | nothingGiven
  /-- There are options but no command. -/
  | missingCommand
  /-- The word in the place of a command is none. -/
  | unknownCommand
  /-- An option or an argument is not known where it stands. -/
  | unknownArgument
  /-- An option lacks its value, or the value is not among those it can have. -/
  | invalidValue
  /-- A flag or an option is given twice. -/
  | repeatedArgument
  /-- A flag is given a value. -/
  | unexpectedValue
  /-- The help was asked for. -/
  | helpRequested
  /-- The version was asked for. -/
  | versionRequested
  deriving DecidableEq, Repr

end VerilogLibrary
