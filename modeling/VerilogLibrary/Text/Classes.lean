/-!
# Blank texts and identifiers

Two kinds of text are told apart by their characters alone.

A text is blank when each of its characters is white space, which here is the
Unicode property `White_Space`: the ASCII controls from tab to carriage return,
the space, and nineteen others outside ASCII. The empty text is blank.

Verilog knows two kinds of identifier. A simple one opens with a letter or an
underscore and goes on with letters, digits, underscores and dollar signs, all
of them ASCII; an escaped one opens with a backslash. Only simple identifiers
are used for the names of modules, ports and parameters, so that a name never
needs a separator of its own in the text around it.
-/

namespace VerilogLibrary.Text

/-! ## Blank texts -/

/-- The characters with the property `White_Space`, as inclusive ranges of code points. -/
def whiteSpaceRanges : List (Nat × Nat) :=
  [(0x09, 0x0D), (0x20, 0x20), (0x85, 0x85), (0xA0, 0xA0), (0x1680, 0x1680), (0x2000, 0x200A),
   (0x2028, 0x2029), (0x202F, 0x202F), (0x205F, 0x205F), (0x3000, 0x3000)]

/-- Whether a character is white space. -/
def isWhiteSpace (c : Char) : Bool :=
  whiteSpaceRanges.any fun (first, last) => first ≤ c.toNat && c.toNat ≤ last

/-- Whether a text has no character but white space. -/
def isBlank (s : String) : Bool :=
  s.toList.all isWhiteSpace

/-! ## Simple identifiers -/

/-- A character that may open an identifier: an ASCII letter or an underscore. -/
def isIdentifierStart (c : Char) : Bool :=
  c.isAlpha || c == '_'

/-- A character that may stand inside an identifier. -/
def isIdentifierPart (c : Char) : Bool :=
  c.isAlphanum || c == '_' || c == '$'

/-- Whether the characters form a simple identifier. The empty text does not. -/
def isIdentifierChars : List Char → Bool
  | [] => false
  | c :: rest => isIdentifierStart c && rest.all isIdentifierPart

/-- Whether the text is a simple identifier. -/
def isIdentifier (s : String) : Bool :=
  isIdentifierChars s.toList

end VerilogLibrary.Text
