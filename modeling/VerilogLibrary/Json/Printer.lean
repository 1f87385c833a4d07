import VerilogLibrary.Json.Basic

/-!
# Printing JSON

Two layouts: the compact one has no space at all; the pretty one puts every item
and member on a line of its own, indented by two blanks for each level, and
leaves an empty array or object in one piece.

Inside a string the quote, the backslash and the characters below U+0020 are
escaped and nothing else is. A literal that denotes no text is written as half
of a surrogate pair.
-/

namespace VerilogLibrary.Json

/-- The two lower-case hexadecimal digits of a number below 256. -/
def hexPair (n : Nat) : List Char :=
  [Nat.digitChar (n / 16), Nat.digitChar (n % 16)]

/-- How a character stands inside a string literal. -/
def escapedChar (c : Char) : List Char :=
  match c with
  | '"' => ['\\', '"']
  | '\\' => ['\\', '\\']
  | '\n' => ['\\', 'n']
  | '\r' => ['\\', 'r']
  | '\t' => ['\\', 't']
  | '\x08' => ['\\', 'b']
  | '\x0c' => ['\\', 'f']
  | _ => if c.toNat < 0x20 then '\\' :: 'u' :: '0' :: '0' :: hexPair c.toNat else [c]

/-- The literal of a text. -/
def stringLiteral : Option String → List Char
  | some s => '"' :: (s.toList.flatMap escapedChar ++ ['"'])
  | none => ['"', '\\', 'u', 'd', '8', '0', '0', '"']

/-- The literal of a truth value. -/
def boolLiteral : Bool → List Char
  | true => ['t', 'r', 'u', 'e']
  | false => ['f', 'a', 'l', 's', 'e']

mutual

/-- The characters of a value in compact layout. -/
def compactChars : Json → List Char
  | .null => ['n', 'u', 'l', 'l']
  | .bool value => boolLiteral value
  | .number literal => literal.toList
  | .string text? => stringLiteral text?
  | .array items => '[' :: (compactItems items ++ [']'])
  | .object members => '\x7b' :: (compactMembers members ++ ['\x7d'])

/-- The items of an array, with commas between them. -/
def compactItems : List Json → List Char
  | [] => []
  | [item] => compactChars item
  | item :: rest => compactChars item ++ ',' :: compactItems rest

/-- The members of an object, with commas between them. -/
def compactMembers : List (Option String × Json) → List Char
  | [] => []
  | [(name, value)] => stringLiteral name ++ ':' :: compactChars value
  | (name, value) :: rest =>
    stringLiteral name ++ ':' :: compactChars value ++ ',' :: compactMembers rest

end

/-- The text of a value in compact layout. -/
def compact (j : Json) : String :=
  String.ofList j.compactChars

/-- A line break, and the indentation of a level. -/
def breakLine (level : Nat) : List Char :=
  '\n' :: List.replicate (2 * level) ' '

mutual

/-- The characters of a value in pretty layout at a level of indentation. -/
def prettyChars (level : Nat) : Json → List Char
  | .null => ['n', 'u', 'l', 'l']
  | .bool value => boolLiteral value
  | .number literal => literal.toList
  | .string text? => stringLiteral text?
  | .array [] => ['[', ']']
  | .array (item :: rest) =>
    '[' :: (prettyItems (level + 1) (item :: rest) ++ breakLine level ++ [']'])
  | .object [] => ['\x7b', '\x7d']
  | .object (first :: rest) =>
    '\x7b' :: (prettyMembers (level + 1) (first :: rest) ++ breakLine level ++ ['\x7d'])

/-- The items of an array, each on its line. -/
def prettyItems (level : Nat) : List Json → List Char
  | [] => []
  | [item] => breakLine level ++ prettyChars level item
  | item :: rest => breakLine level ++ prettyChars level item ++ ',' :: prettyItems level rest

/-- The members of an object, each on its line. -/
def prettyMembers (level : Nat) : List (Option String × Json) → List Char
  | [] => []
  | [(name, value)] =>
    breakLine level ++ stringLiteral name ++ ':' :: ' ' :: prettyChars level value
  | (name, value) :: rest =>
    breakLine level ++ stringLiteral name ++ ':' :: ' ' :: prettyChars level value
      ++ ',' :: prettyMembers level rest

end

/-- The text of a value in pretty layout. -/
def pretty (j : Json) : String :=
  String.ofList (j.prettyChars 0)

end VerilogLibrary.Json
