import VerilogLibrary.Json.Basic
import VerilogLibrary.ModuleDecl.Basic

/-!
# Module declarations in JSON

A declaration is written as an object of its name, parameters, ports and body.
The width of a port is a number or the name of a parameter, a missing default or
body is null. Reading accepts what writing gives, and the freedoms of records
besides.
-/

namespace VerilogLibrary

open Json (record record?)

/-- An optional text, null if there is none. -/
def Json.ofOption : Option String → Json
  | some s => .text s
  | none => .null

/-- The direction as its keyword. -/
def Direction.toJson (d : Direction) : Json :=
  .text d.keyword

/-- Reads a direction. -/
def Direction.ofJson? (j : Json) : Option Direction := do
  let label ← j.label?
  [Direction.input, .output].find? (·.keyword == label)

/-- The width as a number or as a name. -/
def Width.toJson : Width → Json
  | .literal bits => .nat bits.toNat
  | .parameter name => .text name

/-- Reads a width. -/
def Width.ofJson? (j : Json) : Option Width :=
  match j.text? with
  | some name => some (.parameter name)
  | none => (j.natBelow? UInt32.size).map fun bits => .literal bits.toUInt32

/-- The parameter as an object. -/
def Parameter.toJson (p : Parameter) : Json :=
  record [("name", .text p.name), ("default", .ofOption p.default?)]

/-- Reads a parameter. -/
def Parameter.ofJson? (j : Json) : Option Parameter :=
  match record? ["name", "default"] j with
  | some [some name, default?] => do
    return { name := ← name.text?, default? := ← Json.optionalText? default? }
  | _ => none

/-- The port as an object. -/
def Port.toJson (p : Port) : Json :=
  record [("direction", p.direction.toJson), ("name", .text p.name), ("width", p.width.toJson)]

/-- Reads a port. -/
def Port.ofJson? (j : Json) : Option Port :=
  match record? ["direction", "name", "width"] j with
  | some [some direction, some name, some width] => do
    return {
      direction := ← Direction.ofJson? direction
      name := ← name.text?
      width := ← Width.ofJson? width }
  | _ => none

namespace ModuleDecl

/-- The members of the object of a declaration. -/
def jsonMembers (m : ModuleDecl) : List (String × Json) :=
  [("name", .text m.name), ("parameters", .array (m.parameters.map Parameter.toJson)),
    ("ports", .array (m.ports.map Port.toJson)), ("body", .ofOption m.body?)]

/-- The declaration as an object. -/
def toJson (m : ModuleDecl) : Json :=
  record m.jsonMembers

/-- Reads a declaration. -/
def ofJson? (j : Json) : Option ModuleDecl :=
  match record? ["name", "parameters", "ports", "body"] j with
  | some [some name, some parameters, some ports, body?] => do
    return {
      name := ← name.text?
      parameters := ← (← parameters.array?).mapM Parameter.ofJson?
      ports := ← (← ports.array?).mapM Port.ofJson?
      body? := ← Json.optionalText? body? }
  | _ => none

end ModuleDecl

end VerilogLibrary
