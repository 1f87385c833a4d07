import VerilogLibrary.Toml.Number

/-!
# Reading TOML

A document is a sequence of lines: a pair of a key and a value, a header in one
or two pairs of brackets, or nothing, each perhaps with a comment behind it. A
value may span lines inside an array or a multi-line string.

Values nest at most 79 deep, and a dotted key has at most 79 parts. The readers
work on the characters and hand on those that are left. They are given fuel, of
which every call takes one; the length of the text bounds what they need.
-/

namespace VerilogLibrary.Toml

/-- How deep arrays and inline tables may nest. -/
def maxDepth : Nat := 79

/-- How many parts a dotted key may have. -/
def maxKeyParts : Nat := 79

/-- One part of a key: bare, or a string on one line. -/
def keyPart? : List Char → Option (String × List Char)
  | '"' :: rest => (basicBody? rest).map fun (text, rest) => (String.ofList text, rest)
  | '\'' :: rest => (literalBody? rest).map fun (text, rest) => (String.ofList text, rest)
  | cs =>
    match cs.span isBareKeyChar with
    | ([], _) => none
    | (text, rest) => some (String.ofList text, rest)

/-- The parts of a key, with points between them and blanks around each. -/
def keyParts? : Nat → List Char → Option (List String × List Char)
  | 0, _ => none
  | fuel + 1, cs => do
    let (part, cs) ← keyPart? (skipBlanks cs)
    match skipBlanks cs with
    | '.' :: cs => do
      let (parts, rest) ← keyParts? fuel cs
      return (part :: parts, rest)
    | rest => return ([part], rest)

/-- A key and the blanks around it. -/
def key? (cs : List Char) : Option (List String × List Char) :=
  keyParts? maxKeyParts cs

/-- What follows the comment at the front. Without a comment nothing is dropped. -/
def dropComment : List Char → List Char
  | '#' :: rest => rest.dropWhile isTextChar
  | cs => cs

/-- Drops blanks, line breaks and comments. A carriage return needs a line feed behind it. -/
def skipLines : Nat → List Char → List Char
  | 0, cs => cs
  | fuel + 1, cs =>
    match dropComment (skipBlanks cs) with
    | '\n' :: rest => skipLines fuel rest
    | '\r' :: '\n' :: rest => skipLines fuel rest
    | rest => rest

/-- What follows the end of a line: blanks, perhaps a comment, and a break or the end. -/
def endOfLine? (cs : List Char) : Option (List Char) :=
  match dropComment (skipBlanks cs) with
  | [] => some []
  | cs => lineBreak? cs

mutual

/-- A value at a depth of nesting, and what follows it. -/
def value? : Nat → Nat → List Char → Option (Node × List Char)
  | 0, _, _ => none
  | fuel + 1, depth, cs =>
    match cs with
    | '[' :: rest =>
      if depth < maxDepth then do
        let (items, rest) ← items? fuel (depth + 1) rest
        return (.array items, rest)
      else none
    | '\x7b' :: rest =>
      if depth < maxDepth then
        match skipBlanks rest with
        | '\x7d' :: rest => some (.table .inline [], rest)
        | _ => do
          let (pairs, rest) ← pairs? fuel (depth + 1) rest
          return (← inlineTable? pairs, rest)
      else none
    | 't' :: 'r' :: 'u' :: 'e' :: rest => some (.boolean true, rest)
    | 'f' :: 'a' :: 'l' :: 's' :: 'e' :: rest => some (.boolean false, rest)
    | cs =>
      match string? cs with
      | some (text, rest) => some (.string (String.ofList text), rest)
      | none => number? cs

/-- The items of an array up to its closing bracket. A comma may follow the last. -/
def items? : Nat → Nat → List Char → Option (List Node × List Char)
  | 0, _, _ => none
  | fuel + 1, depth, cs =>
    match skipLines fuel cs with
    | ']' :: rest => some ([], rest)
    | cs => do
      let (item, cs) ← value? fuel depth cs
      match skipLines fuel cs with
      | ',' :: cs => do
        let (items, rest) ← items? fuel depth cs
        return (item :: items, rest)
      | ']' :: rest => return ([item], rest)
      | _ => none

/-- The pairs of an inline table up to its closing brace. There is at least one. -/
def pairs? : Nat → Nat → List Char → Option (List Pair × List Char)
  | 0, _, _ => none
  | fuel + 1, depth, cs => do
    let (path, cs) ← key? cs
    let (value, cs) ← value? fuel depth (skipBlanks (← after? '=' cs))
    match skipBlanks cs with
    | ',' :: cs => do
      let (pairs, rest) ← pairs? fuel depth cs
      return ((path, value) :: pairs, rest)
    | '\x7d' :: rest => return ([(path, value)], rest)
    | _ => none

end

/-- The statement of a line that is not empty, up to what may follow it on the line. -/
def statement? (fuel : Nat) : List Char → Option (Statement × List Char)
  | '[' :: '[' :: cs => do
    let (path, cs) ← key? cs
    return (.elementHeader path, ← after? ']' (← after? ']' cs))
  | '[' :: cs => do
    let (path, cs) ← key? cs
    return (.header path, ← after? ']' cs)
  | cs => do
    let (path, cs) ← key? cs
    let (value, cs) ← value? fuel 0 (skipBlanks (← after? '=' cs))
    return (.pair path value, cs)

/-- The statements of a document. -/
def statements? : Nat → List Char → Option (List Statement)
  | 0, _ => none
  | fuel + 1, cs =>
    match endOfLine? cs with
    | some [] => some []
    | some rest => statements? fuel rest
    | none => do
      let (statement, cs) ← statement? fuel (skipBlanks cs)
      let rest ← endOfLine? cs
      let statements ← statements? fuel rest
      return statement :: statements

/-- Drops a byte order mark at the front. -/
def dropMark : List Char → List Char
  | c :: cs => if c = '\uFEFF' then cs else c :: cs
  | [] => []

/-- The entries of the document that a text writes. -/
def parse? (s : String) : Option Entries := do
  let cs := dropMark s.toList
  entriesOf? (← statements? (cs.length + 1) cs)

end VerilogLibrary.Toml
