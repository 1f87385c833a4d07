import VerilogLibrary.Toml.Text
import VerilogLibrary.Toml.Tree

/-!
# Numbers, dates and times of TOML

A literal that starts with a digit or a sign is tried as a date or a time, then
as a floating-point number, then as an integer. Digits may be separated by single
underscores. An integer has to fit into 64 bits; a floating-point number must not
round to positive infinity. A literal that is cut short by what is read here is
refused by what comes after it, for nothing but a blank, a comment, a line break
or a closing bracket may follow a value.
-/

namespace VerilogLibrary.Toml

/-- The digits that continue a run, each perhaps behind one underscore, and what follows them. -/
def moreDigits (isDigit : Char → Bool) : List Char → List Char × List Char
  | [] => ([], [])
  | '_' :: d :: rest =>
    if isDigit d then cons d (moreDigits isDigit rest) else ([], '_' :: d :: rest)
  | d :: rest => if isDigit d then cons d (moreDigits isDigit rest) else ([], d :: rest)

/-- A run of digits with underscores between them. -/
def digitRun? (isDigit : Char → Bool) : List Char → Option (List Char × List Char)
  | d :: rest => if isDigit d then some (cons d (moreDigits isDigit rest)) else none
  | [] => none

/-- A sign, and what follows it. Without a sign the number is not negative. -/
def sign : List Char → Bool × List Char
  | '-' :: rest => (true, rest)
  | '+' :: rest => (false, rest)
  | cs => (false, cs)

/-- The digits of a decimal integer. Zero stands alone. -/
def decimalDigits? : List Char → Option (List Char × List Char)
  | '0' :: rest => some (['0'], rest)
  | cs => digitRun? Char.isDigit cs

/-- The least integer that a document can hold. -/
def minInteger : Int := -9223372036854775808

/-- The greatest integer that a document can hold. -/
def maxInteger : Int := 9223372036854775807

/-- The node of an integer, if a document can hold it. -/
def integerNode? (n : Int) : Option Node :=
  if minInteger ≤ n ∧ n ≤ maxInteger then some (.integer n) else none

/-- An integer with a sign, in decimal. -/
def decimal? (cs : List Char) : Option (Node × List Char) := do
  let (negative, cs) := sign cs
  let (digits, rest) ← decimalDigits? cs
  let n : Int := numberOf 10 digits
  return (← integerNode? (if negative then -n else n), rest)

/-- A binary digit. -/
def isBinaryDigit (c : Char) : Bool :=
  c == '0' || c == '1'

/-- An octal digit. -/
def isOctalDigit (c : Char) : Bool :=
  '0' ≤ c && c ≤ '7'

/-- The integer of a run of digits in a base. -/
def integerIn? (base : Nat) (isDigit : Char → Bool) (cs : List Char) :
    Option (Node × List Char) := do
  let (digits, rest) ← digitRun? isDigit cs
  return (← integerNode? (numberOf base digits), rest)

/-- An integer. -/
def integer? : List Char → Option (Node × List Char)
  | '0' :: 'x' :: rest => integerIn? 16 isHexDigit rest
  | '0' :: 'o' :: rest => integerIn? 8 isOctalDigit rest
  | '0' :: 'b' :: rest => integerIn? 2 isBinaryDigit rest
  | cs => decimal? cs

/-- The fraction behind a point. -/
def fraction? : List Char → Option (List Char × List Char)
  | '.' :: rest => digitRun? Char.isDigit rest
  | _ => none

/-- The exponent behind its letter. -/
def exponent? : List Char → Option (Int × List Char)
  | c :: rest =>
    if c == 'e' || c == 'E' then do
      let (negative, rest) := sign rest
      let (digits, rest) ← digitRun? Char.isDigit rest
      let n : Int := numberOf 10 digits
      return (if negative then -n else n, rest)
    else none
  | [] => none

/--
Whether the number with the given digits, times a power of ten, is too large for a
double. Those from halfway between the largest double and the next power of two on are.
-/
def overflows (digits : List Char) (scale : Int) : Bool :=
  let digits := digits.dropWhile (· == '0')
  let magnitude := digits.length + scale
  if digits.isEmpty || magnitude < 309 then false
  else if 309 < magnitude then true
  else
    let n := numberOf 10 digits
    let bound := Nat.pow 2 1024 - Nat.pow 2 970
    let power := Nat.pow 10 scale.natAbs
    if scale < 0 then bound * power ≤ n else bound ≤ n * power

/-- The characters at the front of `cs` that are no longer in `rest`. -/
def consumed (cs rest : List Char) : String :=
  String.ofList (cs.take (cs.length - rest.length))

/-- A floating-point number: at least a fraction or an exponent follows the integer part. -/
def decimalFloat? (cs : List Char) : Option (Node × List Char) := do
  let (negative, afterSign) := sign cs
  let (whole, afterWhole) ← decimalDigits? afterSign
  let (digits, scale, rest) ← match fraction? afterWhole with
    | some (fraction, afterFraction) =>
      let (exponent, rest) := (exponent? afterFraction).getD (0, afterFraction)
      some (whole ++ fraction, exponent - fraction.length, rest)
    | none => (exponent? afterWhole).map fun (exponent, rest) => (whole, exponent, rest)
  if !negative && overflows digits scale then none
  else return (.float (consumed cs rest), rest)

/-- A number that is infinite or not a number. -/
def specialFloat? (cs : List Char) : Option (Node × List Char) :=
  match (sign cs).2 with
  | 'i' :: 'n' :: 'f' :: rest => some (.float (consumed cs rest), rest)
  | 'n' :: 'a' :: 'n' :: rest => some (.float (consumed cs rest), rest)
  | _ => none

/-- The number of two digits. -/
def twoDigits? : List Char → Option (Nat × List Char)
  | a :: b :: rest => if a.isDigit && b.isDigit then some (numberOf 10 [a, b], rest) else none
  | _ => none

/-- The number of two digits between two bounds. -/
def bounded? (least most : Nat) (cs : List Char) : Option (Nat × List Char) :=
  (twoDigits? cs).filter fun (n, _) => least ≤ n && n ≤ most

/-- What follows a given character. -/
def after? (c : Char) : List Char → Option (List Char)
  | d :: rest => if d = c then some rest else none
  | [] => none

/-- The days of a month. -/
def daysIn (year month : Nat) : Nat :=
  if month = 2 then
    if year % 4 = 0 ∧ (year % 100 ≠ 0 ∨ year % 400 = 0) then 29 else 28
  else if month ∈ [4, 6, 9, 11] then 30
  else 31

/-- A date. -/
def date? (cs : List Char) : Option (List Char) := do
  let (century, cs) ← twoDigits? cs
  let (year, cs) ← twoDigits? cs
  let (month, cs) ← bounded? 1 12 (← after? '-' cs)
  let (_, cs) ← bounded? 1 (daysIn (100 * century + year) month) (← after? '-' cs)
  return cs

/-- Drops the fraction of a second. -/
def dropFraction : List Char → List Char
  | '.' :: d :: rest => if d.isDigit then rest.dropWhile Char.isDigit else '.' :: d :: rest
  | cs => cs

/-- A time of day. The sixty-first second of a minute is a leap second. -/
def time? (cs : List Char) : Option (List Char) := do
  let (_, cs) ← bounded? 0 23 cs
  let (_, cs) ← bounded? 0 59 (← after? ':' cs)
  let (_, cs) ← bounded? 0 60 (← after? ':' cs)
  return dropFraction cs

/-- The distance of a time from universal time. -/
def offset? : List Char → Option (List Char)
  | c :: cs =>
    if c == 'Z' || c == 'z' then some cs
    else if c == '+' || c == '-' then do
      let (_, cs) ← bounded? 0 23 cs
      let (_, cs) ← bounded? 0 59 (← after? ':' cs)
      return cs
    else none
  | [] => none

/-- The time behind a date, if one follows. -/
def timeOfDate? : List Char → Option (List Char)
  | c :: cs =>
    if c == 'T' || c == 't' || c == ' ' then do
      let cs ← time? cs
      return (offset? cs).getD cs
    else none
  | [] => none

/-- A date, a time, or both. -/
def moment? (cs : List Char) : Option (Node × List Char) := do
  let rest ← match date? cs with
    | some rest => some ((timeOfDate? rest).getD rest)
    | none => time? cs
  return (.moment (consumed cs rest), rest)

/-- A value that starts with a digit or a sign. -/
def number? (cs : List Char) : Option (Node × List Char) :=
  moment? cs <|> decimalFloat? cs <|> specialFloat? cs <|> integer? cs

end VerilogLibrary.Toml
