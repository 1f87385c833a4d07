import VerilogLibrary.CommandLine.Parser
import VerilogLibrary.Session

/-!
# The program

A run of the program reads its arguments, opens the session that they select,
carries out the command, and ends with a text on each of its two outputs and an
exit code: 0 where all is well, 1 where the command failed or a library is not up
to date, 2 where the arguments make no sense.
-/

namespace VerilogLibrary.Program

/-- The end of a run. -/
structure Outcome where
  code : UInt32
  stdout : String := ""
  stderr : String := ""
  deriving DecidableEq, Repr

/-- The version of the program. -/
def version : String := "vgen 0.1.0"

/-- The help of the program. -/
def help : String :=
  "Verilog standard library generator\n\n" ++
  "Usage: vgen [OPTIONS] <COMMAND>\n\n" ++
  "Commands:\n" ++
  "  generate  Write the library file (-o, --output <OUTPUT>)\n" ++
  "  check     Verify that a library file is up to date ([PATH])\n" ++
  "  list      List the modules the library contains (-f, --format text|json)\n" ++
  "  help      Print this message\n\n" ++
  "Options:\n" ++
  "  -q, --quiet            Suppress all output except errors\n" ++
  "  -v, --verbose...       Increase log verbosity (repeat for more detail)\n" ++
  "      --config <CONFIG>  Path to a configuration file or its directory\n" ++
  "  -h, --help             Print help\n" ++
  "  -V, --version          Print version\n"

/-- The complaint about arguments that make no sense. -/
def complaint : UsageError → String
  | .nothingGiven => help
  | .missingCommand => "error: a command is required\n"
  | .unknownCommand => "error: there is no such command\n"
  | .unknownArgument => "error: an argument was not expected\n"
  | .invalidValue => "error: an option has no value or an invalid one\n"
  | .repeatedArgument => "error: an option cannot be used more than once\n"
  | .unexpectedValue => "error: a flag takes no value\n"
  | .helpRequested => help
  | .versionRequested => version

/-- The end of a run whose arguments ask for no command. -/
def Outcome.ofUsage : UsageError → Outcome
  | .helpRequested => { code := 0, stdout := help }
  | .versionRequested => { code := 0, stdout := version ++ "\n" }
  | e => { code := 2, stderr := complaint e }

/-- The end of a run that failed. -/
def Outcome.ofError (e : CommandError) : Outcome where
  code := 1
  stderr := s!"error: {e.message}\n"

/-- A message that a quiet run leaves out. -/
def unlessQuiet (quiet : Bool) (message : String) : String :=
  if quiet then "" else message

/-- The end of a run that wrote a library. -/
def Outcome.ofSummary (quiet : Bool) (path : String) (s : Summary) : Outcome where
  code := 0
  stderr := unlessQuiet quiet
    s!"   Generated {path} ({s.modules.length} modules, {s.bytes} bytes, {s.hash.short})\n"

/-- The end of a run that checked a library. -/
def Outcome.ofFreshness (quiet : Bool) (path : String) : Freshness → Outcome
  | .upToDate hash =>
    { code := 0, stderr := unlessQuiet quiet s!"  Up to date {path} ({hash.short})\n" }
  | .stale expected found =>
    { code := 1
      stderr := s!"       Stale {path} (expected {expected.short}, found {found.short})\n" }
  | .missing => { code := 1, stderr := s!"     Missing {path}\n" }

variable {m : Type → Type} [Monad m]

/-- The session that an invocation selects. -/
def openSession (files : Files m) (i : Invocation) : m (Except CommandError Session) :=
  match i.config? with
  | some path => files.openSession path
  | none => files.openSessionHere

/-- Carries out a command in a session. -/
def execute (files : Files m) (s : Session) (quiet : Bool) : Command → m Outcome
  | .generate output? => do
    let path := s.outputPath output?
    match ← files.generate s.catalog s.options path with
    | .ok summary => return .ofSummary quiet path summary
    | .error e => return .ofError e
  | .check path? => do
    let path := s.outputPath path?
    match ← files.check s.catalog s.options path with
    | .ok freshness => return .ofFreshness quiet path freshness
    | .error e => return .ofError e
  | .list format => return { code := 0, stdout := listing (plan s.catalog s.options) format }

/-- Runs the program on its arguments. -/
def run (files : Files m) (args : List String) : m Outcome := do
  match CommandLine.parse args with
  | .error e => return .ofUsage e
  | .ok i =>
    match ← openSession files i with
    | .error e => return .ofError e
    | .ok s => execute files s i.quiet i.command

end VerilogLibrary.Program
