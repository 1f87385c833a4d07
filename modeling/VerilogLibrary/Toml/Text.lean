/-!
# Characters and strings of TOML

TOML has four forms of string. Basic strings stand between double quotes and
know escapes; literal strings stand between single quotes and take every
character as it is. Both have a multi-line form between tripled quotes, in which
a line break right after the opening is dropped, every line break counts as a
line feed, and one or two quotes may stand anywhere, even before the closing.
In a multi-line basic string a backslash at the end of a line takes away the
break and all blanks and breaks after it.
-/

namespace VerilogLibrary.Toml

/-- The blanks inside a line. -/
def isBlankChar (c : Char) : Bool :=
  c == ' ' || c == '\t'

/-- The characters from the first that is no blank. -/
def skipBlanks (cs : List Char) : List Char :=
  cs.dropWhile isBlankChar

/-- The characters that may stand in a comment and, quotes and backslashes apart, in a string. -/
def isTextChar (c : Char) : Bool :=
  c == '\t' || (0x20 ≤ c.toNat && c.toNat ≠ 0x7F)

/-- The characters of a key that stands without quotes. -/
def isBareKeyChar (c : Char) : Bool :=
  c.isAlphanum || c == '_' || c == '-'

/-- What follows a line break, if there is one. -/
def lineBreak? : List Char → Option (List Char)
  | '\n' :: rest => some rest
  | '\r' :: '\n' :: rest => some rest
  | _ => none

/-- The value of a digit in a base up to sixteen, in either case. -/
def digitValue (c : Char) : Nat :=
  if c.isDigit then c.toNat - '0'.toNat else c.toLower.toNat - 'a'.toNat + 10

/-- A hexadecimal digit. -/
def isHexDigit (c : Char) : Bool :=
  c.isDigit || ('a' ≤ c && c ≤ 'f') || ('A' ≤ c && c ≤ 'F')

/-- The number that digits denote. -/
def numberOf (base : Nat) (digits : List Char) : Nat :=
  digits.foldl (fun n d => base * n + digitValue d) 0

/-- The character whose number is given by hexadecimal digits. -/
def numberedChar? (digits : List Char) : Option Char :=
  let n := numberOf 16 digits
  if digits.all isHexDigit && n.isValidChar then some (Char.ofNat n) else none

/-- The character of an escape of one letter. -/
def escape? : Char → Option Char
  | 'b' => some '\x08'
  | 't' => some '\t'
  | 'n' => some '\n'
  | 'f' => some '\x0c'
  | 'r' => some '\r'
  | '"' => some '"'
  | '\\' => some '\\'
  | _ => none

/-- Puts a character in front of a text that has been read. -/
def cons (c : Char) : List Char × List Char → List Char × List Char
  | (text, rest) => (c :: text, rest)

/-- The text of a basic string behind its opening quote, and what follows the closing one. -/
def basicBody? : List Char → Option (List Char × List Char)
  | [] => none
  | '"' :: rest => some ([], rest)
  | '\\' :: 'u' :: a :: b :: c :: d :: rest => do
    let char ← numberedChar? [a, b, c, d]
    (basicBody? rest).map (cons char)
  | '\\' :: 'U' :: a :: b :: c :: d :: e :: f :: g :: h :: rest => do
    let char ← numberedChar? [a, b, c, d, e, f, g, h]
    (basicBody? rest).map (cons char)
  | '\\' :: letter :: rest => do
    let char ← escape? letter
    (basicBody? rest).map (cons char)
  | c :: rest => if isTextChar c && c != '\\' then (basicBody? rest).map (cons c) else none

/-- The text of a literal string behind its opening quote, and what follows the closing one. -/
def literalBody? : List Char → Option (List Char × List Char)
  | [] => none
  | '\'' :: rest => some ([], rest)
  | c :: rest => if isTextChar c then (literalBody? rest).map (cons c) else none

/--
The text of a multi-line basic string behind its opening, and what follows the
closing. While `trimming`, blanks and line breaks are dropped.
-/
def longBasicBody? (trimming : Bool) : List Char → Option (List Char × List Char)
  | [] => none
  | '"' :: '"' :: '"' :: '"' :: '"' :: rest => some (['"', '"'], rest)
  | '"' :: '"' :: '"' :: '"' :: rest => some (['"'], rest)
  | '"' :: '"' :: '"' :: rest => some ([], rest)
  | '\r' :: '\n' :: rest =>
    if trimming then longBasicBody? true rest else (longBasicBody? false rest).map (cons '\n')
  | '\n' :: rest =>
    if trimming then longBasicBody? true rest else (longBasicBody? false rest).map (cons '\n')
  | '\\' :: 'u' :: a :: b :: c :: d :: rest => do
    let char ← numberedChar? [a, b, c, d]
    (longBasicBody? false rest).map (cons char)
  | '\\' :: 'U' :: a :: b :: c :: d :: e :: f :: g :: h :: rest => do
    let char ← numberedChar? [a, b, c, d, e, f, g, h]
    (longBasicBody? false rest).map (cons char)
  | '\\' :: letter :: rest =>
    if (lineBreak? (skipBlanks (letter :: rest))).isSome then longBasicBody? true (letter :: rest)
    else do
      let char ← escape? letter
      (longBasicBody? false rest).map (cons char)
  | c :: rest =>
    if trimming && isBlankChar c then longBasicBody? true rest
    else if isTextChar c && c != '\\' then (longBasicBody? false rest).map (cons c)
    else none

/-- The text of a multi-line literal string behind its opening, and what follows the closing. -/
def longLiteralBody? : List Char → Option (List Char × List Char)
  | [] => none
  | '\'' :: '\'' :: '\'' :: '\'' :: '\'' :: rest => some (['\'', '\''], rest)
  | '\'' :: '\'' :: '\'' :: '\'' :: rest => some (['\''], rest)
  | '\'' :: '\'' :: '\'' :: rest => some ([], rest)
  | '\r' :: '\n' :: rest => (longLiteralBody? rest).map (cons '\n')
  | '\n' :: rest => (longLiteralBody? rest).map (cons '\n')
  | c :: rest => if isTextChar c then (longLiteralBody? rest).map (cons c) else none

/-- Drops a line break at the front. -/
def dropLineBreak (cs : List Char) : List Char :=
  (lineBreak? cs).getD cs

/-- A string in one of its four forms, and what follows it. -/
def string? : List Char → Option (List Char × List Char)
  | '"' :: '"' :: '"' :: rest => longBasicBody? false (dropLineBreak rest)
  | '\'' :: '\'' :: '\'' :: rest => longLiteralBody? (dropLineBreak rest)
  | '"' :: rest => basicBody? rest
  | '\'' :: rest => literalBody? rest
  | _ => none

end VerilogLibrary.Toml
