/-!
# The tree of a TOML document

A TOML document is a table of named nodes. Where tables may still be extended
depends on how they came into being: by a header of their own, by being on the
way to the table of another header, by a dotted key, or between braces. An array
of tables grows by an element with each of its headers, and whatever goes
through it afterwards goes to its last element.

The functions here put one thing into a tree: `put` a value under a dotted key,
`openTable` and `openElement` the table of a header. Each fails where TOML says
that a table or a key would be defined twice.
-/

namespace VerilogLibrary.Toml

/-- How a table came into being. -/
inductive TableKind where
  /-- By its own header. The document as a whole is such a table too. -/
  | headed
  /-- On the way to the table of a longer header. -/
  | implied
  /-- By a dotted key. -/
  | dotted
  /-- Between braces. -/
  | inline
  deriving DecidableEq, Repr

/-- A value of a document. -/
inductive Node where
  | string (s : String)
  | integer (n : Int)
  /-- A floating-point number, as its literal. -/
  | float (literal : String)
  | boolean (b : Bool)
  /-- A date, a time, or both, as its literal. -/
  | moment (literal : String)
  | array (items : List Node)
  | table (kind : TableKind) (entries : List (String × Node))
  /-- An array of tables, each of which has a header. -/
  | tables (elements : List (List (String × Node)))
  deriving Repr

/-- The entries of a table, in order. -/
abbrev Entries := List (String × Node)

/-- The node of a key. -/
def Entries.get? (es : Entries) (key : String) : Option Node :=
  (es.find? (·.1 == key)).map (·.2)

/-- Replaces the node of a key, or adds one at the end if there is none. -/
def Entries.alter (key : String) (f : Option Node → Option Node) : Entries → Option Entries
  | [] => (f none).map fun node => [(key, node)]
  | (k, node) :: rest =>
    if k = key then (f (some node)).map fun node => (k, node) :: rest
    else (Entries.alter key f rest).map ((k, node) :: ·)

/-- Changes the last element of an array of tables. -/
def modifyLast (f : Entries → Option Entries) : List Entries → Option (List Entries)
  | [] => none
  | [es] => (f es).map fun es => [es]
  | es :: rest => (modifyLast f rest).map (es :: ·)

/-- A node where no node may be yet. -/
def vacant (node : Node) : Option Node → Option Node
  | none => some node
  | some _ => none

/--
Puts a value under a dotted key. The tables on the way are made by need. Those
that are there already must not have a header or braces, and the one that takes
the value must itself stem from a dotted key, unless it is the table at the start;
`takes` says whether the table at hand may take the value.
-/
def put (takes : Bool) : List String → Node → Entries → Option Entries
  | [], _, _ => none
  | [key], value, es => if takes then es.alter key (vacant value) else none
  | key :: path, value, es =>
    es.alter key fun
      | none => (put true path value []).map (.table .dotted)
      | some (.table .dotted sub) => (put true path value sub).map (.table .dotted)
      | some (.table .implied sub) => (put false path value sub).map (.table .implied)
      | some (.tables elements) => (modifyLast (put false path value) elements).map .tables
      | some _ => none

/-- Changes the table that a path leads to. The tables on the way are made by need. -/
def within : List String → (Entries → Option Entries) → Entries → Option Entries
  | [], f, es => f es
  | key :: path, f, es =>
    es.alter key fun
      | none => (within path f []).map (.table .implied)
      | some (.table .inline _) => none
      | some (.table kind sub) => (within path f sub).map (.table kind)
      | some (.tables elements) => (modifyLast (within path f) elements).map .tables
      | some _ => none

/-- The table of a header: a new one, or one that so far was only on the way to others. -/
def headedNode : Option Node → Option Node
  | none => some (.table .headed [])
  | some (.table .implied sub) => some (.table .headed sub)
  | some _ => none

/-- The array of tables of a header, with a new element. -/
def extendedNode : Option Node → Option Node
  | none => some (.tables [[]])
  | some (.tables elements) => some (.tables (elements ++ [[]]))
  | some _ => none

/-- Makes a change at the node that a path leads to. -/
def alterAt (path : List String) (f : Option Node → Option Node) (es : Entries) : Option Entries :=
  match path.getLast? with
  | none => none
  | some key => within path.dropLast (Entries.alter key f) es

/-- Opens the table of a header. -/
def openTable (path : List String) (es : Entries) : Option Entries :=
  alterAt path headedNode es

/-- Opens a new element of the array of tables of a header. -/
def openElement (path : List String) (es : Entries) : Option Entries :=
  alterAt path extendedNode es

/-- A key, perhaps dotted, and its value. -/
abbrev Pair := List String × Node

/-- Puts pairs into a table, one after the other. -/
def putAll : List Pair → Entries → Option Entries
  | [], es => some es
  | (path, value) :: rest, es => do putAll rest (← put true path value es)

/-- The table of the pairs between braces. -/
def inlineTable? (pairs : List Pair) : Option Node :=
  (putAll pairs []).map (.table .inline)

/-- A statement of a document. -/
inductive Statement where
  | pair (path : List String) (value : Node)
  | header (path : List String)
  | elementHeader (path : List String)
  deriving Repr

/-- Executes statements, where pairs go to the table that the path `current` leads to. -/
def execute (current : List String) : List Statement → Entries → Option Entries
  | [], es => some es
  | .pair path value :: rest, es => do
    execute current rest (← within current (put true path value) es)
  | .header path :: rest, es => do execute path rest (← openTable path es)
  | .elementHeader path :: rest, es => do execute path rest (← openElement path es)

/-- The entries of the document that consists of the statements. -/
def entriesOf? (statements : List Statement) : Option Entries :=
  execute [] statements []

end VerilogLibrary.Toml
