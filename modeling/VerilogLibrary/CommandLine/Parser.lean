import VerilogLibrary.CommandLine.Basic

/-!
# Reading command lines

A command line has two levels: that of the program, up to the command, and that
of the command. The common flags and options may stand on either level; where
both have one, the level of the command wins.

An option takes its value from the same argument, `--output=v`, `-ov` or `-o=v`,
or from the next one. In the second case it waits. The next argument is its value
unless it looks like an option; it is not even looked at as a command. A waiting
option is settled when the next option or argument comes, or at the end, and it is
then that a missing value, a value out of range or a repetition is noticed.
Behind `--` no argument is an option.
-/

namespace VerilogLibrary.CommandLine

/-- A flag, which has no value. -/
inductive Flag where
  | quiet
  | verbose
  | help
  | version
  deriving DecidableEq, Repr

/-- A setting, which has a value. The path to check is one too, though no option sets it. -/
inductive Setting where
  | config
  | output
  | format
  | path
  deriving DecidableEq, Repr

/-- An option. -/
inductive Switch where
  | flag (f : Flag)
  | setting (s : Setting)
  deriving DecidableEq, Repr

/-- The level of the program, or of a command. -/
abbrev Level := Option CommandName

/-- The options of a level, each with its long name and its letter, if it has one. -/
def switches (level : Level) : List (String × Option Char × Switch) :=
  [("quiet", some 'q', .flag .quiet),
   ("verbose", some 'v', .flag .verbose),
   ("config", none, .setting .config),
   ("help", some 'h', .flag .help)]
  ++ match level with
    | none => [("version", some 'V', .flag .version)]
    | some .generate => [("output", some 'o', .setting .output)]
    | some .check => []
    | some .list => [("format", some 'f', .setting .format)]

/-- The option of a long name. -/
def switchOfName? (level : Level) (name : List Char) : Option Switch :=
  ((switches level).find? (·.1.toList == name)).map (·.2.2)

/-- The option of a letter. -/
def switchOfLetter? (level : Level) (letter : Char) : Option Switch :=
  ((switches level).find? (·.2.1 == some letter)).map (·.2.2)

/-- What has been read of a level. -/
structure Reading where
  quiet : Bool := false
  verbosity : Nat := 0
  /-- The settings that are settled. -/
  values : List (Setting × String) := []
  /-- The setting that waits to be settled, with its value once that is known. -/
  waiting? : Option (Setting × Option String) := none
  deriving DecidableEq, Repr

namespace Reading

/-- The value of a setting. -/
def value? (r : Reading) (s : Setting) : Option String :=
  r.values.lookup s

/-- Whether an option waits for the next argument. -/
def wantsValue (r : Reading) : Bool :=
  match r.waiting? with
  | some (_, none) => true
  | _ => false

/-- Whether a setting can have a value. -/
def admits : Setting → String → Bool
  | .format, v => (ListingFormat.ofLabel? v).isSome
  | _, _ => true

/-- Settles what is waiting. -/
def settle (r : Reading) : Except UsageError Reading :=
  match r.waiting? with
  | none => .ok r
  | some (_, none) => .error .invalidValue
  | some (s, some v) =>
    if (r.value? s).isSome then .error .repeatedArgument
    else if !admits s v then .error .invalidValue
    else .ok { r with values := (s, v) :: r.values, waiting? := none }

/-- Takes a flag. -/
def flag (r : Reading) (f : Flag) : Except UsageError Reading := do
  let r ← r.settle
  match f with
  | .quiet => if r.quiet then .error .repeatedArgument else .ok { r with quiet := true }
  | .verbose => .ok { r with verbosity := min 255 (r.verbosity + 1) }
  | .help => .error .helpRequested
  | .version => .error .versionRequested

/-- Lets a setting wait, with its value or for it. -/
def await (r : Reading) (s : Setting) (v? : Option String) : Except UsageError Reading := do
  return { ← r.settle with waiting? := some (s, v?) }

/-- Takes a setting together with its value. -/
def set (r : Reading) (s : Setting) (v : List Char) : Except UsageError Reading := do
  (← r.await s (some (String.ofList v))).settle

/-- Takes a long option: a name, perhaps with a value behind an equals sign. -/
def long (level : Level) (r : Reading) (arg : List Char) : Except UsageError Reading :=
  let name := arg.takeWhile (· != '=')
  match switchOfName? level name, arg.drop name.length with
  | none, _ => .error .unknownArgument
  | some (.flag f), [] => r.flag f
  | some (.flag _), _ :: _ => .error .unexpectedValue
  | some (.setting s), [] => r.await s none
  | some (.setting s), _ :: v => r.set s v

/-- Takes a value behind a letter, with or without an equals sign between them. -/
def attached (r : Reading) (s : Setting) : List Char → Except UsageError Reading
  | [] => r.await s none
  | '=' :: v => r.set s v
  | v => r.set s v

/-- Takes letters that stand together: flags, and at the end perhaps a setting. -/
def letters (level : Level) (r : Reading) : List Char → Except UsageError Reading
  | [] => .ok r
  | c :: rest =>
    match switchOfLetter? level c with
    | none => .error .unknownArgument
    | some (.flag f) => do letters level (← r.flag f) rest
    | some (.setting s) => r.attached s rest

end Reading

/-- What an argument looks like. -/
inductive Shape where
  /-- Two hyphens: the end of the options. -/
  | endOfOptions
  | long (arg : List Char)
  | letters (arg : List Char)
  | plain
  deriving DecidableEq, Repr

/-- The shape of an argument. A single hyphen is plain. -/
def shape (arg : String) : Shape :=
  match arg.toList with
  | ['-', '-'] => .endOfOptions
  | '-' :: '-' :: rest => .long rest
  | '-' :: c :: rest => .letters (c :: rest)
  | _ => .plain

/-- Takes an argument that is no option on the level of a command. -/
def positional (command : CommandName) (r : Reading) (arg : String) :
    Except UsageError Reading :=
  let taken := (r.value? .path).isSome || r.waiting?.any (·.1 == .path)
  if command = .check ∧ !taken then r.await .path (some arg)
  else .error .unknownArgument

/-- Gives the waiting option its value. -/
def giveValue (r : Reading) (arg : String) : Reading :=
  { r with waiting? := r.waiting?.map fun (s, _) => (s, some arg) }

/-- Reads the arguments of a command; `options` tells whether options are still expected. -/
def readCommand (command : CommandName) (options : Bool) (r : Reading) :
    List String → Except UsageError Reading
  | [] => r.settle
  | arg :: rest =>
    if options then
      match shape arg with
      | .endOfOptions => readCommand command false r rest
      | .long body => do readCommand command true (← r.long (some command) body) rest
      | .letters body => do readCommand command true (← r.letters (some command) body) rest
      | .plain =>
        if r.wantsValue then readCommand command true (giveValue r arg) rest
        else do readCommand command true (← positional command r arg) rest
    else do readCommand command false (← positional command r arg) rest

/-- The command that a reading of its level stands for. -/
def commandOf (r : Reading) : CommandName → Command
  | .generate => .generate (r.value? .output)
  | .check => .check (r.value? .path)
  | .list => .list (((r.value? .format).bind ListingFormat.ofLabel?).getD .text)

/-- Brings the two levels together. -/
def combine (program command : Reading) (name : CommandName) : Invocation where
  quiet := program.quiet || command.quiet
  verbosity := if command.verbosity = 0 then program.verbosity else command.verbosity
  config? := command.value? .config <|> program.value? .config
  command := commandOf command name

/-- The word that asks for help on a command. -/
def helpWord : String := "help"

/-- Whether the words behind `help` lead to something that has help: at most one command. -/
def isHelpTopic : List String → Bool
  | [] => true
  | [word] => word == helpWord || (CommandName.ofWord? word).isSome
  | _ => false

/-- The level of the program at the end of the arguments, where a command is missing. -/
def withoutCommand (r : Reading) : UsageError :=
  match r.settle with
  | .error e => e
  | .ok r => if r = {} then .nothingGiven else .missingCommand

/-- Reads the arguments of the program; `options` tells whether options are still expected. -/
def readProgram (options : Bool) (r : Reading) : List String → Except UsageError Invocation
  | [] => .error (withoutCommand r)
  | arg :: rest =>
    if options then
      match shape arg with
      | .endOfOptions => readProgram false r rest
      | .long body => do readProgram true (← r.long none body) rest
      | .letters body => do readProgram true (← r.letters none body) rest
      | .plain =>
        if r.wantsValue then readProgram true (giveValue r arg) rest
        else match CommandName.ofWord? arg with
          | some name => do
            let command ← readCommand name true {} rest
            return combine (← r.settle) command name
          | none =>
            if arg = helpWord then
              .error (if isHelpTopic rest then .helpRequested else .unknownCommand)
            else .error .unknownCommand
    else if arg = helpWord || (CommandName.ofWord? arg).isSome then .error .unknownArgument
    else .error .unknownCommand

/-- The invocation that arguments say. -/
def parse (args : List String) : Except UsageError Invocation :=
  readProgram true {} args

end VerilogLibrary.CommandLine
