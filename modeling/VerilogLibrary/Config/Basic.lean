import VerilogLibrary.Operation
import VerilogLibrary.Text.Classes

/-!
# Configurations

A configuration says where the library goes, which defaults its parameters have,
whether it has the arithmetic operations, and which operations it has besides.
Every setting has a default, and the defaults together describe the standard
library.

`Config.fault?` looks for what makes a configuration useless, in a fixed order:
the output, the width, then the operations one by one. Operations of one name are
told apart here as Verilog users do not, by ignoring the case of ASCII letters.
-/

namespace VerilogLibrary

/-- The settings of a library as a whole. -/
structure LibrarySettings where
  output : String := "stdlib.v"
  width : UInt32 := 16
  init : UInt64 := 0
  arithmetic : Bool := false
  deriving DecidableEq, Repr

/-- A configuration. -/
structure Config where
  library : LibrarySettings := {}
  operations : List Operation := []
  deriving DecidableEq, Repr

/-- A text with its ASCII letters in lower case. -/
def Text.asciiLower (s : String) : String :=
  String.ofList (s.toList.map Char.toLower)

/-- What is wrong with a configuration. -/
inductive ConfigFault where
  | emptyOutput
  | zeroWidth
  | illegalName (name : String)
  | emptyExpression (name : String)
  | repeatedName (name : String)
  deriving DecidableEq, Repr

/-- The message for a fault. -/
def ConfigFault.message : ConfigFault → String
  | .emptyOutput => "library.output must not be empty"
  | .zeroWidth => "library.width must be positive"
  | .illegalName name => s!"operation name '{name}' is not a legal identifier"
  | .emptyExpression name => s!"operation '{name}' has an empty expression"
  | .repeatedName name => s!"operation '{name}' is defined more than once"

namespace Config

/-- The defaults of the parameters. -/
def options (c : Config) : Options where
  width := c.library.width
  init := c.library.init

/-- The fault of an operation behind operations of the lower-case names `earlier`. -/
def operationFault? (earlier : List String) (op : Operation) : Option ConfigFault :=
  if !Text.isIdentifier op.name then some (.illegalName op.name)
  else if Text.isBlank op.expr then some (.emptyExpression op.name)
  else if Text.asciiLower op.name ∈ earlier then some (.repeatedName op.name)
  else none

/-- The first fault of operations behind operations of the lower-case names `earlier`. -/
def operationsFault? (earlier : List String) : List Operation → Option ConfigFault
  | [] => none
  | op :: rest =>
    match operationFault? earlier op with
    | some fault => some fault
    | none => operationsFault? (Text.asciiLower op.name :: earlier) rest

/-- The first fault of a configuration. -/
def fault? (c : Config) : Option ConfigFault :=
  if Text.isBlank c.library.output then some .emptyOutput
  else if c.library.width == 0 then some .zeroWidth
  else operationsFault? [] c.operations

end Config

end VerilogLibrary
