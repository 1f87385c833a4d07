/-!
# JSON values and records

A value keeps what the text says and no more than a reader needs. A number keeps
its literal, because whether it is an integer in range depends on who reads it.
A string literal can escape one half of a surrogate pair without the other; such
a literal is well-formed and denotes no text. It is harmless where nobody looks
and an error where somebody does, so a literal is kept as an optional text.
An object keeps its members in order, repeated names included.

A record is written as an object, or as the array of all its fields in the order
of their declaration. In an object the order of the fields is free, fields that
nobody knows are passed over whatever they hold, and a field that is known may
not be repeated. `record?` brings both forms into one: a slot for each declared
field, empty if the object does not have it.

An enumeration is written as the label of its value, or as an object whose only
member has the label for a name and holds null.
-/

namespace VerilogLibrary

/-- A JSON value. -/
inductive Json where
  | null
  | bool (value : Bool)
  /-- A number, as its literal. -/
  | number (literal : String)
  /-- A string literal, with the text that it denotes, if it denotes one. -/
  | string (text? : Option String)
  | array (items : List Json)
  | object (members : List (Option String × Json))
  deriving Repr

namespace Json

/-- The string of a text. -/
def text (s : String) : Json :=
  .string (some s)

/-- The number of a natural number. -/
def nat (n : Nat) : Json :=
  .number (toString n)

/-- The object with these members. -/
def record (members : List (String × Json)) : Json :=
  .object (members.map fun (name, value) => (some name, value))

/-! ## Reading records -/

/-- The text of a string. -/
def text? : Json → Option String
  | .string text? => text?
  | _ => none

/-- The items of an array. -/
def array? : Json → Option (List Json)
  | .array items => some items
  | _ => none

/-- The number of a literal that is an unsigned integer below a bound. -/
def natBelow? (bound : Nat) : Json → Option Nat
  | .number literal =>
    let digits := literal.toList
    if digits.all Char.isDigit then
      let n := digits.foldl (fun n d => 10 * n + (d.toNat - '0'.toNat)) 0
      if n < bound then some n else none
    else none
  | _ => none

/-- The text of an optional field: it may be absent or null. -/
def optionalText? : Option Json → Option (Option String)
  | none => some none
  | some .null => some none
  | some j => j.text?.map some

/-- The names of the members, if each of them denotes a text. -/
def memberNames? (members : List (Option String × Json)) : Option (List String) :=
  members.mapM (·.1)

/-- The value of the first member of a name. -/
def member? (members : List (Option String × Json)) (name : String) : Option Json :=
  (members.find? (·.1 == some name)).map (·.2)

/-- The fields of a record, in the order of `names`. -/
def record? (names : List String) : Json → Option (List (Option Json))
  | .array items => if items.length = names.length then some (items.map some) else none
  | .object members => do
    let present ← memberNames? members
    if names.any (fun name => 1 < present.count name) then none
    else return names.map (member? members)
  | _ => none

/-- The label of a value of an enumeration. -/
def label? : Json → Option String
  | .string text? => text?
  | .object [(name, .null)] => name
  | _ => none

end Json

end VerilogLibrary
