import VerilogLibrary.ModuleDecl.Basic
import VerilogLibrary.Text.Classes
import VerilogLibrary.Text.Quoted

/-!
# Faults of a module declaration

A declaration can be rendered when its name is an identifier, it has ports and a
body that is not blank, and every port has an identifier of its own for a name
and a width that means something: a positive number, or the name of a parameter.
`ModuleDecl.check` looks in this order and reports the first fault it meets;
among the ports, the first faulty one.
-/

namespace VerilogLibrary

/-- The text of a width in a message: a number, or a quoted name. -/
def Width.describe : Width → String
  | .literal bits => toString bits.toNat
  | .parameter name => Text.quoted name

/-- Whether a port can have this width. -/
def Width.isMeaningful : Width → Bool
  | .literal bits => bits != 0
  | .parameter name => Text.isIdentifier name

/-- Why a declaration cannot be rendered. `decl` is the name of the module. -/
inductive ModuleDecl.Fault where
  | invalidName (decl : String)
  | missingPorts (decl : String)
  | missingBody (decl : String)
  | invalidPortName (decl port : String)
  | duplicatePort (decl port : String)
  | invalidWidth (decl port : String) (width : Width)
  deriving DecidableEq, Repr

/-- The message for a fault. -/
def ModuleDecl.Fault.message : ModuleDecl.Fault → String
  | .invalidName decl => s!"invalid module name '{decl}'"
  | .missingPorts decl => s!"module '{decl}' has no ports"
  | .missingBody decl => s!"module '{decl}' has no body"
  | .invalidPortName decl port => s!"module '{decl}': invalid port name '{port}'"
  | .duplicatePort decl port => s!"module '{decl}': port '{port}' declared more than once"
  | .invalidWidth decl port width =>
    s!"module '{decl}': port '{port}' has unsupported width {width.describe}"

namespace ModuleDecl

/-- Whether the declaration has no body, or a blank one. -/
def lacksBody (m : ModuleDecl) : Bool :=
  m.body?.all Text.isBlank

/-- The fault of a port that stands behind ports of the names `earlier`, if it has one. -/
def portFault? (decl : String) (earlier : List String) (p : Port) : Option Fault :=
  if !Text.isIdentifier p.name then some (.invalidPortName decl p.name)
  else if p.name ∈ earlier then some (.duplicatePort decl p.name)
  else if !p.width.isMeaningful then some (.invalidWidth decl p.name p.width)
  else none

/-- The fault of the first faulty port behind ports of the names `earlier`. -/
def portsFault? (decl : String) (earlier : List String) : List Port → Option Fault
  | [] => none
  | p :: rest =>
    match portFault? decl earlier p with
    | some fault => some fault
    | none => portsFault? decl (p.name :: earlier) rest

/-- The first fault of a declaration. -/
def fault? (m : ModuleDecl) : Option Fault :=
  if !Text.isIdentifier m.name then some (.invalidName m.name)
  else if m.ports.isEmpty then some (.missingPorts m.name)
  else if m.lacksBody then some (.missingBody m.name)
  else portsFault? m.name [] m.ports

/-- Succeeds when the declaration can be rendered, and reports the first fault otherwise. -/
def check (m : ModuleDecl) : Except Fault Unit :=
  match m.fault? with
  | some fault => .error fault
  | none => .ok ()

end ModuleDecl

end VerilogLibrary
