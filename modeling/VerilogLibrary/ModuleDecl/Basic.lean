/-!
# Module declarations

A module of the library is declared by its name, its parameters, its ports and
its body. Parameters and ports keep the order in which they are declared; the
body is Verilog text that nobody looks into. A declaration may well be faulty:
whether it can be rendered is a question of its own.
-/

namespace VerilogLibrary

/-- Which way data flow through a port. -/
inductive Direction where
  | input
  | output
  deriving DecidableEq, Repr

/-- The Verilog keyword of a direction. -/
def Direction.keyword : Direction → String
  | .input => "input"
  | .output => "output"

/-- The width of a port: a number of bits, or the name of a parameter that holds it. -/
inductive Width where
  | literal (bits : UInt32)
  | parameter (name : String)
  deriving DecidableEq, Repr

/-- Whether the width is the literal one. -/
def Width.isSingleBit : Width → Bool
  | .literal bits => bits == 1
  | .parameter _ => false

/-- A parameter, perhaps with the text of its default. -/
structure Parameter where
  name : String
  default? : Option String
  deriving DecidableEq, Repr

/-- A port of a module. -/
structure Port where
  direction : Direction
  name : String
  width : Width
  deriving DecidableEq, Repr

/-- The declaration of one module. -/
structure ModuleDecl where
  name : String
  parameters : List Parameter
  ports : List Port
  body? : Option String
  deriving DecidableEq, Repr

namespace ModuleDecl

/-- A declaration that so far has only a name. -/
def named (name : String) : ModuleDecl :=
  ⟨name, [], [], none⟩

/-- Declares a parameter with a default. -/
def param (m : ModuleDecl) (name default : String) : ModuleDecl :=
  { m with parameters := m.parameters ++ [⟨name, some default⟩] }

/-- Declares a parameter without a default. -/
def bareParam (m : ModuleDecl) (name : String) : ModuleDecl :=
  { m with parameters := m.parameters ++ [⟨name, none⟩] }

/-- Declares a port. -/
def port (m : ModuleDecl) (direction : Direction) (name : String) (width : Width) : ModuleDecl :=
  { m with ports := m.ports ++ [⟨direction, name, width⟩] }

/-- Declares an input port. -/
def input (m : ModuleDecl) (name : String) (width : Width) : ModuleDecl :=
  m.port .input name width

/-- Declares an output port. -/
def output (m : ModuleDecl) (name : String) (width : Width) : ModuleDecl :=
  m.port .output name width

/-- Sets the body, in place of any earlier one. -/
def body (m : ModuleDecl) (text : String) : ModuleDecl :=
  { m with body? := some text }

/-- The first port of the given name. -/
def findPort? (m : ModuleDecl) (name : String) : Option Port :=
  m.ports.find? (·.name == name)

end ModuleDecl

end VerilogLibrary
