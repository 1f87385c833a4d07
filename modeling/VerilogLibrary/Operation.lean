import VerilogLibrary.Category
import VerilogLibrary.ModuleDecl.Basic
import VerilogLibrary.Text.Capitalize

/-!
# Options and combinational modules

Every module has a parameter for the width of its words, and registers that can
be reset have one for the value they take then. The options are the defaults of
these two parameters throughout a library.

A combinational operation is given by its category, a name, and the expression
that its output is assigned, written in terms of the input ports. Its module is
named after it in capitalized form. The multiplexer has three inputs and so falls
outside the categories; it has a module of its own.
-/

namespace VerilogLibrary

/-! ## Options -/

/-- The parameter that holds the width of a word. -/
def widthParameter : String := "WIDTH"

/-- The parameter that holds the value after a reset or a clear. -/
def initParameter : String := "INIT"

/-- The defaults of the parameters. -/
structure Options where
  width : UInt32 := 16
  init : UInt64 := 0
  deriving DecidableEq, Repr

/-- The default of the width parameter as text. -/
def Options.widthText (o : Options) : String :=
  toString o.width.toNat

/-- The default of the reset value as text. -/
def Options.initText (o : Options) : String :=
  toString o.init.toNat

/-! ## Combinational modules -/

/-- A combinational operation. -/
structure Operation where
  category : Category
  name : String
  expr : String
  deriving DecidableEq, Repr

namespace Operation

/-- The name of the module of an operation. -/
def moduleName (op : Operation) : String :=
  Text.capitalize op.name

/-- The width of the output. -/
def outputWidth (op : Operation) : Width :=
  if op.category.isReduction then .literal 1 else .parameter widthParameter

/-- The module of an operation. -/
def decl (op : Operation) (o : Options) : ModuleDecl :=
  let inputs := op.category.inputs.foldl (fun (m : ModuleDecl) name =>
    m.input name (.parameter widthParameter))
    ((ModuleDecl.named op.moduleName).param widthParameter o.widthText)
  (inputs.output "out" op.outputWidth).body s!"  assign out = {op.expr};"

end Operation

/-- The name of the multiplexer. -/
def multiplexerName : String := "Mux"

/-- The multiplexer: the output is `d0` where `sel` is high, and `d1` elsewhere. -/
def multiplexer (o : Options) : ModuleDecl :=
  ModuleDecl.named multiplexerName
    |>.param widthParameter o.widthText
    |>.input "d0" (.parameter widthParameter)
    |>.input "d1" (.parameter widthParameter)
    |>.input "sel" (.literal 1)
    |>.output "out" (.parameter widthParameter)
    |>.body "  assign out = sel ? d0 : d1;"

end VerilogLibrary
