import VerilogLibrary.ModuleDecl.Fault
import VerilogLibrary.Text.Utf8

/-!
# The text of a module

A module is written with its parameters on the first line, one line for each
port, and the body as it stands:

    module Add #(parameter WIDTH=16) (
      input [WIDTH-1:0] in0,
      input [WIDTH-1:0] in1,
      output [WIDTH-1:0] out
    );
      assign out = in0 + in1;
    endmodule

followed by an empty line. The port lines are in the order of their bytes,
whatever the order of declaration, so that declarations that differ only in that
order have one text.
-/

namespace VerilogLibrary

/-- The range of a width in brackets. A single bit has none. -/
def Width.range : Width → String
  | .literal bits => if bits == 1 then "" else s!"[{bits.toNat - 1}:0]"
  | .parameter name => s!"[{name}-1:0]"

/-- The line of a port, without the comma or the line break that follows it. -/
def Port.line (p : Port) : String :=
  if p.width.isSingleBit then s!"  {p.direction.keyword} {p.name}"
  else s!"  {p.direction.keyword} {p.width.range} {p.name}"

/-- The declaration of a parameter. -/
def Parameter.text (p : Parameter) : String :=
  match p.default? with
  | some default => s!"parameter {p.name}={default}"
  | none => s!"parameter {p.name}"

namespace ModuleDecl

/-- The order of port lines: that of their UTF-8 bytes. -/
def lineLE (a b : String) : Bool :=
  Text.utf8 a ≤ Text.utf8 b

/-- The port lines in the order in which they are written. -/
def portLines (m : ModuleDecl) : List String :=
  (m.ports.map Port.line).mergeSort lineLE

/-- The block of parameters, with the blank behind it. Without parameters there is none. -/
def parameterBlock (m : ModuleDecl) : String :=
  if m.parameters.isEmpty then ""
  else "#(" ++ ",".intercalate (m.parameters.map Parameter.text) ++ ") "

/-- The text of a declaration, faulty or not. -/
def text (m : ModuleDecl) : String :=
  "module " ++ m.name ++ " " ++ m.parameterBlock
    ++ "(\n" ++ ",\n".intercalate m.portLines ++ "\n);\n"
    ++ m.body?.getD "" ++ "\nendmodule\n\n"

/-- The text of a declaration, unless it has a fault. -/
def render (m : ModuleDecl) : Except Fault String :=
  match m.fault? with
  | some fault => .error fault
  | none => .ok m.text

end ModuleDecl

end VerilogLibrary
