import VerilogLibrary.Operation

/-!
# Catalogs

A catalog is a list of operations in the order in which they were added. An
operation is refused when its module would bear the name of the multiplexer or
of a module that the catalog already has. Names are compared in capitalized
form, since it is the modules that must not collide; `ult` and `ULT` are the
same. Registers have upper-case letters behind the first and cannot collide.
-/

namespace VerilogLibrary

/-- Why an operation is refused. -/
inductive Collision where
  /-- The module name belongs to a module outside the catalog. -/
  | reserved (name moduleName : String)
  /-- The module name belongs to another operation. -/
  | duplicate (category : Category) (name : String)
  deriving DecidableEq, Repr

/-- The message for a refused operation. -/
def Collision.message : Collision → String
  | .reserved name moduleName =>
    s!"operation '{name}' collides with the built-in module '{moduleName}'"
  | .duplicate category name => s!"duplicate {category.label} operation '{name}'"

/-- An ordered collection of operations. -/
structure Catalog where
  operations : List Operation
  deriving DecidableEq, Repr

namespace Catalog

/-- The catalog without operations. -/
def empty : Catalog :=
  ⟨[]⟩

/-- The operations that a library has by default. -/
def standardOperations : List Operation :=
  [⟨.unary, "not", "~in"⟩,
   ⟨.unary, "neg", "-in"⟩,
   ⟨.unaryReduce, "andr", "&in"⟩,
   ⟨.unaryReduce, "orr", "|in"⟩,
   ⟨.unaryReduce, "xorr", "^in"⟩,
   ⟨.binary, "and", "in0 & in1"⟩,
   ⟨.binary, "or", "in0 | in1"⟩,
   ⟨.binary, "xor", "in0 ^ in1"⟩,
   ⟨.binary, "dshl", "in0 << in1"⟩,
   ⟨.binary, "dlshr", "in0 >> in1"⟩,
   ⟨.binary, "dashr", "$signed(in0) >>> in1"⟩,
   ⟨.binary, "add", "in0 + in1"⟩,
   ⟨.binary, "sub", "in0 - in1"⟩,
   ⟨.binaryReduce, "eq", "in0 == in1"⟩,
   ⟨.binaryReduce, "slt", "$signed(in0) < $signed(in1)"⟩,
   ⟨.binaryReduce, "sgt", "$signed(in0) > $signed(in1)"⟩,
   ⟨.binaryReduce, "sle", "$signed(in0) <= $signed(in1)"⟩,
   ⟨.binaryReduce, "sge", "$signed(in0) >= $signed(in1)"⟩,
   ⟨.binaryReduce, "ult", "in0 < in1"⟩,
   ⟨.binaryReduce, "ugt", "in0 > in1"⟩,
   ⟨.binaryReduce, "uge", "in0 >= in1"⟩]

/-- The operations that need a multiplier or a divider. -/
def arithmeticOperations : List Operation :=
  [⟨.binary, "mul", "in0 * in1"⟩,
   ⟨.binary, "udiv", "in0 / in1"⟩,
   ⟨.binary, "urem", "in0 % in1"⟩,
   ⟨.binary, "sdiv", "$signed(in0) / $signed(in1)"⟩,
   ⟨.binary, "srem", "$signed(in0) % $signed(in1)"⟩]

/-- The catalog of the default operations. -/
def standard : Catalog :=
  ⟨standardOperations⟩

/-- The names of the modules, in the order of the operations. -/
def moduleNames (c : Catalog) : List String :=
  c.operations.map Operation.moduleName

/-- What stands in the way of adding an operation. -/
def collision? (c : Catalog) (op : Operation) : Option Collision :=
  if op.moduleName = multiplexerName then some (.reserved op.name op.moduleName)
  else if op.moduleName ∈ c.moduleNames then some (.duplicate op.category op.name)
  else none

/-- Adds an operation at the end, unless it collides. -/
def push (c : Catalog) (op : Operation) : Except Collision Catalog :=
  match c.collision? op with
  | some collision => .error collision
  | none => .ok ⟨c.operations ++ [op]⟩

/-- Adds operations in order up to the first that collides, and says what it collides with. -/
def pushAll (c : Catalog) : List Operation → Catalog × Option Collision
  | [] => (c, none)
  | op :: rest =>
    match c.push op with
    | .error collision => (c, some collision)
    | .ok c => c.pushAll rest

/-- Adds the operations that need a multiplier or a divider. -/
def addArithmetic (c : Catalog) : Catalog × Option Collision :=
  c.pushAll arithmeticOperations

/-- The operations of a category, in the order in which they were added. -/
def entries (c : Catalog) (category : Category) : List Operation :=
  c.operations.filter (·.category == category)

/-- All operations in the order of the library: by category, then as they were added. -/
def inOrder (c : Catalog) : List Operation :=
  Category.all.flatMap c.entries

/-- The first operation of a name, as it is written. -/
def get? (c : Catalog) (name : String) : Option Operation :=
  c.operations.find? (·.name == name)

/-- The number of operations. -/
def size (c : Catalog) : Nat :=
  c.operations.length

/-- Whether there is no operation. -/
def isEmpty (c : Catalog) : Bool :=
  c.operations.isEmpty

end Catalog

end VerilogLibrary
