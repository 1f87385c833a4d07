import VerilogLibrary.Toml.Tree

/-!
# Reading records out of TOML

A record is written as a table, in which the order of the fields is free and keys
that nobody knows are passed over, or as an array of its first fields in the
order of their declaration, in which more items than fields do no harm. A date
counts as a record without any field. `record?` brings the forms into one: a slot
for each declared field, empty where the field is missing.

An enumeration is written as the label of its value, or as a table whose only
key is the label, with an empty array or table for a value.
-/

namespace VerilogLibrary.Toml.Node

/-- The text of a string. -/
def text? : Node → Option String
  | .string s => some s
  | _ => none

/-- The truth value. -/
def boolean? : Node → Option Bool
  | .boolean b => some b
  | _ => none

/-- The integer, if it is not negative and below a bound. -/
def natBelow? (bound : Nat) : Node → Option Nat
  | .integer n => if 0 ≤ n ∧ n < bound then some n.toNat else none
  | _ => none

/-- The items of an array, or the elements of an array of tables. -/
def items? : Node → Option (List Node)
  | .array items => some items
  | .tables elements => some (elements.map (.table .headed))
  | _ => none

/-- The fields of a record, in the order of `names`. -/
def record? (names : List String) : Node → Option (List (Option Node))
  | .table _ entries => some (names.map (Entries.get? entries))
  | .moment _ => some (names.map fun _ => none)
  | node => node.items?.map fun items => (List.range names.length).map fun i => items[i]?

/-- Whether a node is an array or a table without content. -/
def isEmpty : Node → Bool
  | .array items => items.isEmpty
  | .table _ entries => entries.isEmpty
  | .tables elements => elements.isEmpty
  | _ => false

/-- The label of a value of an enumeration. -/
def label? : Node → Option String
  | .string s => some s
  | .table _ [(label, content)] => if content.isEmpty then some label else none
  | _ => none

/-- Reads a field that has a default. -/
def orDefault {α : Type} (default : α) (read : Node → Option α) : Option Node → Option α
  | none => some default
  | some node => read node

end VerilogLibrary.Toml.Node
