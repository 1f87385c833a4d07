import VerilogLibrary.Catalog
import VerilogLibrary.Config.Basic
import VerilogLibrary.Toml.Document
import VerilogLibrary.Toml.Record

/-!
# Loading configurations

A configuration is the record of a TOML document. What the document leaves out
has its default. The document is read as a whole before anyone looks whether the
configuration makes sense, so a document that cannot be read is reported as such,
whatever else is wrong.
-/

namespace VerilogLibrary

/-- Why there is no configuration. -/
inductive ConfigError where
  /-- The file could not be read, for the given reason. -/
  | unreadable (reason : String)
  /-- The text is not TOML, or not the record of a configuration. -/
  | malformed
  /-- The configuration has a fault. -/
  | faulty (fault : ConfigFault)
  deriving DecidableEq, Repr

/-- The message for a configuration that could not be loaded. -/
def ConfigError.message : ConfigError → String
  | .unreadable reason => s!"failed to read configuration: {reason}"
  | .malformed => "failed to parse configuration:"
  | .faulty fault => s!"validation error: {fault.message}"

open Toml (Node)

/-- Reads an operation. -/
def Operation.ofToml? (node : Node) : Option Operation :=
  match node.record? ["category", "name", "expr"] with
  | some [some category, some name, some expr] => do
    return {
      category := ← Category.ofLabel? (← category.label?)
      name := ← name.text?
      expr := ← expr.text? }
  | _ => none

/-- Reads the settings of the library. -/
def LibrarySettings.ofToml? (node : Node) : Option LibrarySettings :=
  let standard : LibrarySettings := {}
  match node.record? ["output", "width", "init", "arithmetic"] with
  | some [output?, width?, init?, arithmetic?] => do
    let width ← Node.orDefault standard.width.toNat (Node.natBelow? UInt32.size) width?
    let init ← Node.orDefault standard.init.toNat (Node.natBelow? UInt64.size) init?
    return {
      output := ← Node.orDefault standard.output Node.text? output?
      width := width.toUInt32
      init := init.toUInt64
      arithmetic := ← Node.orDefault standard.arithmetic Node.boolean? arithmetic? }
  | _ => none

namespace Config

/-- Reads a list of operations. -/
def operationsOfToml? (node : Node) : Option (List Operation) := do
  (← node.items?).mapM Operation.ofToml?

/-- Reads the entries of a document. -/
def ofToml? (entries : Toml.Entries) : Option Config := do
  return {
    library := ← Node.orDefault {} LibrarySettings.ofToml? (entries.get? "library")
    operations := ← Node.orDefault [] operationsOfToml? (entries.get? "operations") }

/-- Refuses a configuration that has a fault. -/
def validate (c : Config) : Except ConfigError Config :=
  match c.fault? with
  | some fault => .error (.faulty fault)
  | none => .ok c

/-- The configuration that a text describes. -/
def ofText (s : String) : Except ConfigError Config :=
  match (Toml.parse? s).bind ofToml? with
  | none => .error .malformed
  | some c => c.validate

/-- The operations that a configuration asks for beyond the standard ones. -/
def additions (c : Config) : List Operation :=
  (if c.library.arithmetic then Catalog.arithmeticOperations else []) ++ c.operations

/-- The catalog of a configuration: standard, then arithmetic, then its own operations. -/
def catalog (c : Config) : Except Collision Catalog :=
  match Catalog.standard.pushAll c.additions with
  | (catalog, none) => .ok catalog
  | (_, some collision) => .error collision

end Config

end VerilogLibrary
