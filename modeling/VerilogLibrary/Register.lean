import VerilogLibrary.Operation

/-!
# Registers

A register stores a word on one edge of the clock. It may have an asynchronous
reset, a synchronous clear and an enable. The four choices are the bits of an
index, from the edge in bit 0 to the enable in bit 3. The library leaves out the
registers that have both a reset and a clear, and has the other twelve in the
order of their indices.

The name of a register spells its choices, `Reg_` followed by one letter for the
edge and then by `R`, `C` and `E` for what it has, so it can be read back.
-/

namespace VerilogLibrary

/-- The edge of the clock on which a register stores. -/
inductive Edge where
  | falling
  | rising
  deriving DecidableEq, Repr

/-- The Verilog keyword of an edge. -/
def Edge.keyword : Edge → String
  | .falling => "negedge"
  | .rising => "posedge"

/-- The letter of an edge in a name. -/
def Edge.letter : Edge → Char
  | .falling => 'N'
  | .rising => 'P'

/-- The edge of a letter. -/
def Edge.ofLetter? : Char → Option Edge
  | 'N' => some .falling
  | 'P' => some .rising
  | _ => none

/-- A register. -/
structure Register where
  edge : Edge
  /-- An active-low `rst` sets the register at any time. -/
  asyncReset : Bool
  /-- An active `clr` sets the register on the edge. -/
  syncClear : Bool
  /-- The register stores only while `en` is high. -/
  enable : Bool
  deriving DecidableEq, Repr

namespace Register

/-- How many indices there are. -/
def indexCount : Nat := 16

/-- The register of an index. Bits above the fourth do not count. -/
def ofIndex (index : Nat) : Register where
  edge := if index.testBit 0 then .rising else .falling
  asyncReset := index.testBit 1
  syncClear := index.testBit 2
  enable := index.testBit 3

/-- The index of a register. -/
def index (r : Register) : Nat :=
  (if r.edge = .rising then 1 else 0) + (if r.asyncReset then 2 else 0)
    + (if r.syncClear then 4 else 0) + (if r.enable then 8 else 0)

/-- Whether the library has the register: it has not both a reset and a clear. -/
def isAdmitted (r : Register) : Bool :=
  !(r.asyncReset && r.syncClear)

/-- The registers of the library, by ascending index. -/
def variants : List Register :=
  ((List.range indexCount).map ofIndex).filter isAdmitted

/-- Whether the register ever takes the reset value. -/
def hasInit (r : Register) : Bool :=
  r.asyncReset || r.syncClear

/-- A letter that stands in a name where a choice is made. -/
def letterIf (choice : Bool) (letter : Char) : List Char :=
  if choice then [letter] else []

/-- The letters of a name behind `Reg_`. -/
def letters (r : Register) : List Char :=
  r.edge.letter :: (letterIf r.asyncReset 'R' ++ letterIf r.syncClear 'C' ++ letterIf r.enable 'E')

/-- The name of the module of a register. -/
def moduleName (r : Register) : String :=
  String.ofList ('R' :: 'e' :: 'g' :: '_' :: r.letters)

/-- Whether the letter comes next, and the characters behind it. -/
def takeLetter (letter : Char) : List Char → Bool × List Char
  | c :: rest => if c = letter then (true, rest) else (false, c :: rest)
  | [] => (false, [])

/-- The register that the letters of a name spell, admitted or not. -/
def ofLetters? : List Char → Option Register
  | [] => none
  | c :: rest =>
    match Edge.ofLetter? c with
    | none => none
    | some edge =>
      let (asyncReset, rest) := takeLetter 'R' rest
      let (syncClear, rest) := takeLetter 'C' rest
      let (enable, rest) := takeLetter 'E' rest
      if rest.isEmpty then some { edge, asyncReset, syncClear, enable } else none

/-- The register of the library that has the characters for a name. -/
def ofNameChars? : List Char → Option Register
  | 'R' :: 'e' :: 'g' :: '_' :: rest => (ofLetters? rest).filter isAdmitted
  | _ => none

/-- The register of the library that has the given name. -/
def ofName? (name : String) : Option Register :=
  ofNameChars? name.toList

/-- The value that is stored on an active edge. -/
def nextValue (r : Register) : String :=
  let data := if r.syncClear then s!"(clr ? {initParameter} : D)" else "D"
  if r.enable then s!"en ? {data} : r" else data

/-- The body of the module: the storage, one process, and the output. -/
def body (r : Register) : String :=
  s!"  reg [{widthParameter}-1:0] r;\n"
    ++ s!"  always @({r.edge.keyword} clk"
    ++ (if r.asyncReset then ", negedge rst" else "") ++ ") begin\n"
    ++ (if r.asyncReset then
          s!"    if (!rst) r <= {initParameter};\n    else r <= {r.nextValue};\n"
        else s!"    r <= {r.nextValue};\n")
    ++ "  end\n  assign Q = r;"

/-- Declares a control input of one bit if the register has it. -/
def control (m : ModuleDecl) (present : Bool) (name : String) : ModuleDecl :=
  if present then m.input name (.literal 1) else m

/-- The module of a register. -/
def decl (r : Register) (o : Options) : ModuleDecl :=
  let m := (ModuleDecl.named r.moduleName).param widthParameter o.widthText
  let m := if r.hasInit then m.param initParameter o.initText else m
  let m := m.input "D" (.parameter widthParameter)
    |>.input "clk" (.literal 1)
    |>.output "Q" (.parameter widthParameter)
  let m := control m r.asyncReset "rst"
  let m := control m r.syncClear "clr"
  let m := control m r.enable "en"
  m.body r.body

end Register

end VerilogLibrary
