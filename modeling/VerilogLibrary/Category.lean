import VerilogLibrary.Json.Basic

/-!
# Categories of operations

A combinational operation takes one or two words and gives a word or, if it is a
reduction, a single bit. Its category fixes the ports of its module, and the
library lists operations category by category.
-/

namespace VerilogLibrary

/-- The port shape of a combinational operation. -/
inductive Category where
  /-- One word in, a word out. -/
  | unary
  /-- One word in, a bit out. -/
  | unaryReduce
  /-- Two words in, a word out. -/
  | binary
  /-- Two words in, a bit out. -/
  | binaryReduce
  deriving DecidableEq, Repr

namespace Category

/-- All categories in the order of the library. -/
def all : List Category :=
  [.unary, .unaryReduce, .binary, .binaryReduce]

/-- The word for a category in configurations and section headers. -/
def label : Category → String
  | .unary => "unary"
  | .unaryReduce => "unaryReduce"
  | .binary => "binary"
  | .binaryReduce => "binaryReduce"

/-- The category that a word stands for. -/
def ofLabel? (s : String) : Option Category :=
  all.find? (·.label == s)

/-- The category as its label. -/
def toJson (c : Category) : Json :=
  .text c.label

/-- Reads a category. -/
def ofJson? (j : Json) : Option Category :=
  j.label?.bind ofLabel?

/-- The names of the input ports, in declaration order. -/
def inputs : Category → List String
  | .unary | .unaryReduce => ["in"]
  | .binary | .binaryReduce => ["in0", "in1"]

/-- Whether the output is a single bit. -/
def isReduction : Category → Bool
  | .unary | .binary => false
  | .unaryReduce | .binaryReduce => true

theorem mem_all (c : Category) : c ∈ all := by
  cases c <;> decide

theorem ofLabel?_label (c : Category) : ofLabel? c.label = some c := by
  cases c <;> decide

end Category

end VerilogLibrary
