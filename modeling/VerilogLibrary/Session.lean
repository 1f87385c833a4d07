import VerilogLibrary.Artifact
import VerilogLibrary.Config.Load
import VerilogLibrary.Files.Basic
import VerilogLibrary.Listing

/-!
# Sessions

All commands start alike: they find the configuration, and make of it a catalog
and the options of a library. The configuration is a given file, or the file
`vgen.toml` in a given directory or in the working directory; a directory without
that file has the default configuration. An output path that is not absolute
counts from the directory of the configuration.

`generate` writes the library to a file and `check` tells whether a file holds
what `generate` would write. Both compare by content only, so whatever a file held
before does not matter.
-/

namespace VerilogLibrary

/-- The name of the configuration file in a directory. -/
def configFileName : String := "vgen.toml"

/-- Why a command fails. -/
inductive CommandError where
  | config (cause : ConfigError)
  | library (cause : LibraryError)
  | configNotFound (path : String)
  | cannotCreate (path : String) (cause : FileError)
  | cannotRead (path : String) (cause : FileError)
  deriving DecidableEq, Repr

/-- The message for a failed command. -/
def CommandError.message : CommandError → String
  | .config cause => cause.message
  | .library cause => cause.message
  | .configNotFound path => s!"config file not found: {path}"
  | .cannotCreate path cause => s!"cannot create {path}: {cause.message}"
  | .cannotRead path cause => s!"cannot read {path}: {cause.message}"

/-- A configuration, with what is made of it. -/
structure Session where
  config : Config
  catalog : Catalog
  options : Options
  /-- The directory from which relative output paths count. -/
  root : String
  deriving DecidableEq, Repr

namespace Session

/-- The session of a configuration. -/
def ofConfig (config : Config) (root : String) : Except CommandError Session :=
  match config.catalog with
  | .ok catalog => .ok ⟨config, catalog, config.options, root⟩
  | .error collision => .error (.library (.collision collision))

/-- The session of a configuration that may not have been loaded. -/
def ofLoaded (root : String) : Except ConfigError Config → Except CommandError Session
  | .ok config => ofConfig config root
  | .error cause => .error (.config cause)

/-- The path of the library: the one given, or that of the configuration. -/
def outputPath (s : Session) (given? : Option String) : String :=
  given?.getD (Path.join s.root s.config.library.output)

end Session

/-- The configuration that the bytes of a file describe. -/
def Config.ofBytes (bytes : List UInt8) : Except ConfigError Config :=
  match Text.Utf8.decode? bytes with
  | some text => Config.ofText text
  | none => .error (.unreadable "stream did not contain valid UTF-8")

/-- How a file compares with the library that it should hold. -/
inductive Freshness where
  | upToDate (hash : ContentHash)
  | stale (expected found : ContentHash)
  | missing
  deriving DecidableEq, Repr

namespace Files

variable {m : Type → Type} [Monad m]

/-- Loads a configuration file, which has to be there. -/
def loadConfigFile (files : Files m) (path : String) : m (Except ConfigError Config) := do
  match ← files.read path with
  | .ok bytes => return Config.ofBytes bytes
  | .error e => return .error (.unreadable e.message)

/-- Loads the configuration of a directory. -/
def loadConfigOf (files : Files m) (directory : String) : m (Except ConfigError Config) := do
  let path := Path.join directory configFileName
  if ← files.exists? path then files.loadConfigFile path
  else return .ok {}

/-- The session of a configuration file or of a directory. -/
def openSession (files : Files m) (path : String) : m (Except CommandError Session) := do
  match ← files.kind? path with
  | some .directory => return Session.ofLoaded path (← files.loadConfigOf path)
  | none => return .error (.configNotFound path)
  | some .file =>
    return Session.ofLoaded ((Path.parent? path).getD ".") (← files.loadConfigFile path)

/-- The session of the working directory. -/
def openSessionHere (files : Files m) : m (Except CommandError Session) := do
  let directory ← files.workingDirectory
  return Session.ofLoaded directory (← files.loadConfigOf directory)

/-- Makes the directory of a file, where it is missing. -/
def makeParent (files : Files m) (path : String) : m (Except CommandError Unit) := do
  match Path.parent? path with
  | none => return .ok ()
  | some parent =>
    if parent.isEmpty || (← files.exists? parent) then return .ok ()
    else return (← files.makeDirectories parent).mapError (.cannotCreate parent)

/--
Writes a library to a file. If a module is faulty, the file holds the text before
that module.
-/
def generate (files : Files m) (catalog : Catalog) (o : Options) (path : String) :
    m (Except CommandError Summary) := do
  match ← files.makeParent path with
  | .error e => return .error e
  | .ok () =>
    let (sink, result) := writeLibrary catalog o .unlimited
    match ← files.write path sink.received with
    | .error e => return .error (.cannotCreate path e)
    | .ok () => return result.mapError .library

/-- Compares a file with the library that it should hold. -/
def check (files : Files m) (catalog : Catalog) (o : Options) (path : String) :
    m (Except CommandError Freshness) := do
  if !(← files.exists? path) then return .ok .missing
  match renderLibrary catalog o with
  | .error e => return .error (.library e)
  | .ok text =>
    match ← files.read path with
    | .error e => return .error (.cannotRead path e)
    | .ok bytes =>
      let expected := ContentHash.ofText text
      let found := ContentHash.ofBytes bytes
      return .ok (if expected = found then .upToDate found else .stale expected found)

end Files

end VerilogLibrary
