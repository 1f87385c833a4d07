import Mathlib
import VerilogLibrary.Json.Parser
import VerilogLibrary.Json.Printer
import VerilogLibrary.Proofs.Digits

/-!
# The reader of JSON accepts what the grammar of JSON derives

`Writes cs j` says that the characters `cs` write the value `j`, without a
word about how they are read: blanks may stand around every item, name and
value, a character of a string may be escaped, and a number has the four parts
of the standard. The reader takes a value off the front of a text whenever
what follows cannot belong to the value, and only a number depends on that.

The reader runs on fuel, so the induction is on the fuel, for values, items
and members at once. A value never needs more fuel than it has characters,
since every level of nesting and every comma takes one.
-/

namespace VerilogLibrary.Json

/-! ## Blanks -/

/-- Blanks, or nothing. -/
def AreSpaces (cs : List Char) : Prop :=
  ∀ c ∈ cs, isSpace c = true

theorem areSpaces_nil : AreSpaces [] := List.forall_mem_nil _

theorem areSpaces_singleton {c : Char} (h : isSpace c = true) : AreSpaces [c] :=
  List.forall_mem_singleton.mpr h

/-- What may follow a value: a blank, the end of an item, or nothing. -/
def CanFollow (rest : List Char) : Prop :=
  ∀ c ∈ rest.head?, isSpace c = true ∨ c ∈ [',', ']', '\x7d']

theorem canFollow_nil : CanFollow [] := nofun

theorem canFollow_cons {c : Char} (h : isSpace c = true ∨ c ∈ [',', ']', '\x7d'])
    (rest : List Char) : CanFollow (c :: rest) := by
  intro d hd
  rwa [← Option.some.inj hd]

theorem canFollow_append {spaces rest : List Char} (hspaces : AreSpaces spaces)
    (h : CanFollow rest) : CanFollow (spaces ++ rest) := by
  cases spaces with
  | nil => exact h
  | cons c spaces => exact canFollow_cons (.inl (hspaces c List.mem_cons_self)) _

theorem skipSpace_append {spaces : List Char} (h : AreSpaces spaces) (rest : List Char) :
    skipSpace (spaces ++ rest) = skipSpace rest :=
  List.dropWhile_append_of_pos h

theorem skipSpace_cons {c : Char} (h : isSpace c = false) (rest : List Char) :
    skipSpace (c :: rest) = c :: rest :=
  List.dropWhile_cons_of_neg (ne_true_of_eq_false h)

/-! ## Strings -/

/-- The letters of escapes, each with the character that it stands for. -/
def escapeLetters : List (Char × Char) :=
  [('"', '"'), ('\\', '\\'), ('/', '/'), ('b', '\x08'), ('f', '\x0c'), ('n', '\n'), ('r', '\r'),
    ('t', '\t')]

/-- The characters of a string literal between its quotes, and the code points that they stand
for. -/
inductive WritesCodes : List Char → List Nat → Prop
  | nil : WritesCodes [] []
  | plain {c : Char} {cs : List Char} {codes : List Nat} :
      c ≠ '"' → c ≠ '\\' → 0x20 ≤ c.toNat → WritesCodes cs codes →
      WritesCodes (c :: cs) (c.toNat :: codes)
  | letter {letter c : Char} {cs : List Char} {codes : List Nat} :
      (letter, c) ∈ escapeLetters → WritesCodes cs codes →
      WritesCodes ('\\' :: letter :: cs) (c.toNat :: codes)
  | number {code : Nat} {digits cs : List Char} {codes : List Nat} :
      digits.length = 4 → HexDigitsOf code digits → WritesCodes cs codes →
      WritesCodes ('\\' :: 'u' :: (digits ++ cs)) (code :: codes)

theorem scanString_plain {c : Char} (hquote : c ≠ '"') (hbackslash : c ≠ '\\')
    (hcontrol : 0x20 ≤ c.toNat) (cs : List Char) :
    scanString (c :: cs) = (scanString cs).map fun (codes, rest) => (c.toNat :: codes, rest) := by
  have hplain : ¬ (c == '\\' || decide (c.toNat < 0x20)) = true := by
    simp [hbackslash, hcontrol]
  rw [scanString.eq_def]
  split
  · next h => cases h
  · next h => exact absurd (List.cons.inj h).1 hquote
  · next h => exact absurd (List.cons.inj h).1 hbackslash
  · next h => exact absurd (List.cons.inj h).1 hbackslash
  · next h =>
      obtain ⟨rfl, rfl⟩ := List.cons.inj h
      rw [if_neg hplain]
      cases scanString cs <;> rfl

theorem escape?_of_mem {letter c : Char} (h : (letter, c) ∈ escapeLetters) :
    escape? letter = some c := by
  fin_cases h <;> rfl

theorem scanString_letter {letter c : Char} (h : (letter, c) ∈ escapeLetters) (cs : List Char) :
    scanString ('\\' :: letter :: cs) =
      (scanString cs).map fun (codes, rest) => (c.toNat :: codes, rest) := by
  have hescape := escape?_of_mem h
  have hletter : letter ≠ 'u' := by
    rintro rfl
    cases hescape
  rw [scanString.eq_def]
  split
  · next heq => cases heq
  · next heq => exact absurd (List.cons.inj heq).1 (by decide)
  · next heq => exact absurd (List.cons.inj (List.cons.inj heq).2).1 hletter
  · next heq =>
      obtain ⟨rfl, rfl⟩ := List.cons.inj (List.cons.inj heq).2
      rw [hescape]
      cases scanString cs <;> rfl
  · next hno heq =>
      obtain ⟨rfl, rfl⟩ := List.cons.inj heq
      exact absurd rfl (hno _ _ rfl)

theorem hexValue?_of_hexDigit {d : Char} {v : Nat} (h : HexDigit d v) : hexValue? d = some v := by
  have hv := h.lt
  rcases h with h | h
  all_goals interval_cases v <;> cases h <;> rfl

theorem hexValue4?_of_hexDigitsOf {code : Nat} {a b c d : Char}
    (h : HexDigitsOf code [a, b, c, d]) : hexValue4? a b c d = some code := by
  obtain ⟨values, hdigits, rfl⟩ := h
  match hdigits with
  | .cons ha (.cons hb (.cons hc (.cons hd .nil))) =>
      simp only [hexValue4?, hexValue?_of_hexDigit ha, hexValue?_of_hexDigit hb,
        hexValue?_of_hexDigit hc, hexValue?_of_hexDigit hd, bind, Option.bind]
      simp [Nat.ofDigits_cons]
      ring

theorem scanString_number {code : Nat} {digits : List Char} (hlength : digits.length = 4)
    (h : HexDigitsOf code digits) (cs : List Char) :
    scanString ('\\' :: 'u' :: (digits ++ cs)) =
      (scanString cs).map fun (codes, rest) => (code :: codes, rest) := by
  match digits, hlength with
  | [a, b, c, d], _ =>
      simp only [List.cons_append, List.nil_append]
      rw [scanString, hexValue4?_of_hexDigitsOf h]
      cases scanString cs <;> rfl

theorem scanString_of_writesCodes {cs : List Char} {codes : List Nat} (h : WritesCodes cs codes)
    (rest : List Char) : scanString (cs ++ '"' :: rest) = some (codes, rest) := by
  induction h with
  | nil => rfl
  | plain hquote hbackslash hcontrol _ ih =>
      rw [List.cons_append, scanString_plain hquote hbackslash hcontrol, ih]
      rfl
  | letter hletter _ ih =>
      rw [List.cons_append, List.cons_append, scanString_letter hletter, ih]
      rfl
  | number hlength hdigits _ ih =>
      rw [List.cons_append, List.cons_append, List.append_assoc,
        scanString_number hlength hdigits, ih]
      rfl

theorem stringBody?_of_writesCodes {cs : List Char} {codes : List Nat} (h : WritesCodes cs codes)
    (rest : List Char) :
    stringBody? (cs ++ '"' :: rest) =
      some ((joinSurrogates? codes).map String.ofList, rest) := by
  rw [stringBody?, scanString_of_writesCodes h]
  rfl

/-! ## Numbers -/

/-- A run of digits, of which there is at least one. -/
def AreDigits (cs : List Char) : Prop :=
  cs ≠ [] ∧ ∀ c ∈ cs, c.isDigit = true

/-- The fraction of a number, or nothing. -/
inductive IsFraction : List Char → Prop
  | none : IsFraction []
  | some {digits : List Char} : AreDigits digits → IsFraction ('.' :: digits)

/-- One of the given signs, or none. -/
inductive IsSign (signs : List Char) : List Char → Prop
  | none : IsSign signs []
  | some {c : Char} : c ∈ signs → IsSign signs [c]

/-- The exponent of a number, or nothing. -/
inductive IsExponent : List Char → Prop
  | none : IsExponent []
  | some {letter : Char} {sign digits : List Char} :
      letter = 'e' ∨ letter = 'E' → IsSign ['+', '-'] sign → AreDigits digits →
      IsExponent (letter :: (sign ++ digits))

/-- The literal of a number. -/
inductive IsNumber : List Char → Prop
  | mk {sign whole fraction exponent : List Char} :
      IsSign ['-'] sign → IsDecimal whole → IsFraction fraction → IsExponent exponent →
      IsNumber (sign ++ whole ++ fraction ++ exponent)

/-- What a number may open with: its sign or a digit. -/
def OpensNumber (c : Char) : Prop :=
  c = '-' ∨ c.isDigit = true

instance (c : Char) : Decidable (OpensNumber c) :=
  inferInstanceAs (Decidable (c = '-' ∨ c.isDigit = true))

theorem isSpace_of_opensNumber {c : Char} (h : OpensNumber c) : isSpace c = false := by
  rw [Bool.eq_false_iff]
  intro hspace
  simp only [isSpace, Bool.or_eq_true, beq_iff_eq] at hspace
  obtain ((rfl | rfl) | rfl) | rfl := hspace <;> exact absurd h (by decide)

theorem IsNumber.exists_cons {cs : List Char} (h : IsNumber cs) :
    ∃ c tail, cs = c :: tail ∧ OpensNumber c := by
  obtain ⟨hsign, hwhole, -, -⟩ := h
  cases hsign with
  | some hc => exact ⟨_, _, rfl, .inl (List.mem_singleton.mp hc)⟩
  | none =>
      obtain ⟨d, tail, rfl, hd⟩ := hwhole.exists_cons
      exact ⟨d, _, rfl, .inr hd⟩

theorem areDigits_of_isDecimal {digits : List Char} (h : IsDecimal digits) : AreDigits digits :=
  ⟨h.ne_nil, h.isDigit⟩

theorem digits?_append {digits rest : List Char} (h : AreDigits digits)
    (hrest : ∀ c ∈ rest.head?, c.isDigit = false) :
    digits? (digits ++ rest) = some (digits, rest) := by
  have hdrop : rest.dropWhile Char.isDigit = rest ∧ rest.takeWhile Char.isDigit = [] := by
    cases rest with
    | nil => exact ⟨rfl, rfl⟩
    | cons c rest =>
        have hc := ne_true_of_eq_false (hrest c rfl)
        exact ⟨List.dropWhile_cons_of_neg hc, List.takeWhile_cons_of_neg hc⟩
  rw [digits?, List.span_eq_takeWhile_dropWhile, List.takeWhile_append_of_pos h.2,
    List.dropWhile_append_of_pos h.2, hdrop.1, hdrop.2, List.append_nil]
  cases digits with
  | nil => exact absurd rfl h.1
  | cons d digits => rfl

theorem integerPart?_append {whole rest : List Char} (h : IsDecimal whole)
    (hrest : ∀ c ∈ rest.head?, c.isDigit = false) :
    integerPart? (whole ++ rest) = some (whole, rest) := by
  rw [integerPart?, digits?_append (areDigits_of_isDecimal h) hrest]
  simp only [bind, Option.bind]
  split
  · cases h.zero rfl
  · rfl

theorem fractionPart?_append {fraction rest : List Char} (h : IsFraction fraction)
    (hrest : ∀ c ∈ rest.head?, c.isDigit = false ∧ c ≠ '.') :
    fractionPart? (fraction ++ rest) = some (fraction, rest) := by
  cases h with
  | none =>
      cases rest with
      | nil => rfl
      | cons c rest =>
          rw [List.nil_append, fractionPart?.eq_def]
          split
          · next heq => exact absurd (List.cons.inj heq).1 (hrest c rfl).2
          · rfl
  | some hdigits =>
      rw [List.cons_append, fractionPart?, digits?_append hdigits fun c hc => (hrest c hc).1]
      rfl

theorem signPart_append {signs sign rest : List Char} (h : IsSign signs sign)
    (hrest : ∀ c ∈ rest.head?, c ∉ signs) : signPart signs (sign ++ rest) = (sign, rest) := by
  cases h with
  | none =>
      cases rest with
      | nil => rfl
      | cons c rest => exact if_neg (hrest c rfl)
  | some hc => exact if_pos hc

/-- What may follow a number: nothing that could continue it. -/
def EndsNumber (rest : List Char) : Prop :=
  ∀ c ∈ rest.head?, c.isDigit = false ∧ c ≠ '.' ∧ c ≠ 'e' ∧ c ≠ 'E'

theorem CanFollow.endsNumber {rest : List Char} (h : CanFollow rest) : EndsNumber rest := by
  intro c hc
  rcases h c hc with hspace | hmem
  · simp only [isSpace, Bool.or_eq_true, beq_iff_eq] at hspace
    obtain ((rfl | rfl) | rfl) | rfl := hspace <;> decide
  · fin_cases hmem <;> decide

theorem head?_digits_append {digits rest : List Char} (h : AreDigits digits) {c : Char}
    (hc : c ∈ (digits ++ rest).head?) : c.isDigit = true := by
  cases digits with
  | nil => exact absurd rfl h.1
  | cons d digits =>
      rw [← Option.some.inj hc]
      exact h.2 d List.mem_cons_self

theorem exponentPart?_append {exponent rest : List Char} (h : IsExponent exponent)
    (hrest : EndsNumber rest) :
    exponentPart? (exponent ++ rest) = some (exponent, rest) := by
  cases h with
  | none =>
      cases rest with
      | nil => rfl
      | cons c rest =>
          obtain ⟨-, -, hlower, hupper⟩ := hrest c rfl
          rw [List.nil_append, exponentPart?, if_neg (by simp [hlower, hupper])]
  | @some letter sign digits hletter hsign hdigits =>
      have hnosign : ∀ c ∈ (digits ++ rest).head?, c ∉ ['+', '-'] := by
        rintro c hc hmem
        have hdigit := head?_digits_append hdigits hc
        obtain rfl | rfl := List.mem_pair.mp hmem <;> cases hdigit
      rw [List.cons_append, List.append_assoc, exponentPart?, if_pos (by simpa using hletter),
        signPart_append hsign hnosign]
      simp only [digits?_append hdigits fun c hc => (hrest c hc).1]
      rfl

/-- No digit stands in front of what ends a number, a fraction or an exponent. -/
theorem head?_exponent_append {exponent rest : List Char} (h : IsExponent exponent)
    (hrest : EndsNumber rest) : ∀ c ∈ (exponent ++ rest).head?, c.isDigit = false ∧ c ≠ '.' := by
  intro c hc
  cases h with
  | none => exact ⟨(hrest c hc).1, (hrest c hc).2.1⟩
  | some hletter =>
      rw [← Option.some.inj hc]
      obtain rfl | rfl := hletter <;> decide

theorem head?_fraction_append {fraction rest : List Char} (h : IsFraction fraction)
    (hrest : ∀ c ∈ rest.head?, c.isDigit = false) :
    ∀ c ∈ (fraction ++ rest).head?, c.isDigit = false := by
  intro c hc
  cases h with
  | none => exact hrest c hc
  | some =>
      rw [← Option.some.inj hc]
      rfl

theorem number?_append {cs rest : List Char} (h : IsNumber cs) (hrest : EndsNumber rest) :
    number? (cs ++ rest) = some (.number (String.ofList cs), rest) := by
  obtain ⟨hsign, hwhole, hfraction, hexponent⟩ := h
  rename_i sign whole fraction exponent
  have hnosign : ∀ c ∈ (whole ++ (fraction ++ (exponent ++ rest))).head?, c ∉ ['-'] := by
    rintro c hc hmem
    have hdigit := head?_digits_append (areDigits_of_isDecimal hwhole) hc
    obtain rfl := List.mem_singleton.mp hmem
    cases hdigit
  have hexp := head?_exponent_append hexponent hrest
  rw [number?, List.append_assoc, List.append_assoc, List.append_assoc,
    signPart_append hsign hnosign]
  simp only [integerPart?_append hwhole
      (head?_fraction_append hfraction fun c hc => (hexp c hc).1),
    fractionPart?_append hfraction hexp, exponentPart?_append hexponent hrest, bind, Option.bind]
  rfl

/-! ## Values -/

mutual

/-- The characters of a value. -/
inductive Writes : List Char → Json → Prop
  | null : Writes ['n', 'u', 'l', 'l'] .null
  | bool (value : Bool) : Writes (boolLiteral value) (.bool value)
  | number {cs : List Char} : IsNumber cs → Writes cs (.number (String.ofList cs))
  | string {cs : List Char} {codes : List Nat} : WritesCodes cs codes →
      Writes ('"' :: (cs ++ ['"'])) (.string ((joinSurrogates? codes).map String.ofList))
  | emptyArray {spaces : List Char} : AreSpaces spaces →
      Writes ('[' :: (spaces ++ [']'])) (.array [])
  | array {cs : List Char} {items : List Json} : WritesItems cs items →
      Writes ('[' :: (cs ++ [']'])) (.array items)
  | emptyObject {spaces : List Char} : AreSpaces spaces →
      Writes ('\x7b' :: (spaces ++ ['\x7d'])) (.object [])
  | object {cs : List Char} {members : List (Option String × Json)} : WritesMembers cs members →
      Writes ('\x7b' :: (cs ++ ['\x7d'])) (.object members)

/-- The characters of a value and of the blanks around it. -/
inductive WritesPadded : List Char → Json → Prop
  | mk {before cs after : List Char} {j : Json} : AreSpaces before → Writes cs j →
      AreSpaces after → WritesPadded (before ++ (cs ++ after)) j

/-- The characters of the items of an array, of which there is at least one. -/
inductive WritesItems : List Char → List Json → Prop
  | last {cs : List Char} {j : Json} : WritesPadded cs j → WritesItems cs [j]
  | more {cs rest : List Char} {j : Json} {items : List Json} : WritesPadded cs j →
      WritesItems rest items → WritesItems (cs ++ ',' :: rest) (j :: items)

/-- The characters of a member of an object. -/
inductive WritesMember : List Char → Option String × Json → Prop
  | mk {before name gap cs : List Char} {codes : List Nat} {j : Json} : AreSpaces before →
      WritesCodes name codes → AreSpaces gap → WritesPadded cs j →
      WritesMember (before ++ '"' :: (name ++ '"' :: (gap ++ ':' :: cs)))
        ((joinSurrogates? codes).map String.ofList, j)

/-- The characters of the members of an object, of which there is at least one. -/
inductive WritesMembers : List Char → List (Option String × Json) → Prop
  | last {cs : List Char} {member : Option String × Json} : WritesMember cs member →
      WritesMembers cs [member]
  | more {cs rest : List Char} {member : Option String × Json}
      {members : List (Option String × Json)} : WritesMember cs member →
      WritesMembers rest members → WritesMembers (cs ++ ',' :: rest) (member :: members)

end

/-- A value opens with a character that is no blank and does not close an array. -/
theorem Writes.exists_cons {cs : List Char} {j : Json} (h : Writes cs j) :
    ∃ c tail, cs = c :: tail ∧ isSpace c = false ∧ c ≠ ']' := by
  cases h with
  | bool value => cases value <;> exact ⟨_, _, rfl, by decide, by decide⟩
  | number hnumber =>
      obtain ⟨c, tail, rfl, hc⟩ := hnumber.exists_cons
      exact ⟨c, tail, rfl, isSpace_of_opensNumber hc, by rintro rfl; exact absurd hc (by decide)⟩
  | _ => exact ⟨_, _, rfl, by decide, by decide⟩

theorem value?_append (fuel : Nat) {before cs : List Char} (hbefore : AreSpaces before) :
    value? fuel (before ++ cs) = value? fuel cs := by
  cases fuel with
  | zero => rfl
  | succ fuel => rw [value?, value?, skipSpace_append hbefore]

theorem value?_of_opensNumber (fuel : Nat) {c : Char} (h : OpensNumber c) (cs : List Char) :
    value? (fuel + 1) (c :: cs) = number? (c :: cs) := by
  rw [value?, skipSpace_cons (isSpace_of_opensNumber h)]
  split
  case h_7 => rfl
  all_goals
    next heq =>
      obtain ⟨rfl, -⟩ := List.cons.inj heq
      exact absurd h (by decide)

/-- With this fuel the reader takes any value off a text that is not longer. -/
def ReadsValues (fuel : Nat) : Prop :=
  ∀ {cs rest : List Char} {j : Json}, Writes cs j → cs.length ≤ fuel → CanFollow rest →
    value? fuel (cs ++ rest) = some (j, rest)

/-- With this fuel the reader takes the items of an array off a text that is shorter. -/
def ReadsItems (fuel : Nat) : Prop :=
  ∀ {cs : List Char} {items : List Json}, WritesItems cs items → cs.length < fuel →
    ∀ rest, items? fuel (cs ++ ']' :: rest) = some (items, rest)

/-- With this fuel the reader takes the members of an object off a text that is shorter. -/
def ReadsMembers (fuel : Nat) : Prop :=
  ∀ {cs : List Char} {members : List (Option String × Json)}, WritesMembers cs members →
    cs.length < fuel → ∀ rest, members? fuel (cs ++ '\x7d' :: rest) = some (members, rest)

theorem ReadsValues.padded {fuel : Nat} (h : ReadsValues fuel) {cs rest : List Char} {j : Json}
    (hcs : WritesPadded cs j) (hlength : cs.length ≤ fuel) (hrest : CanFollow rest) :
    ∃ after, skipSpace after = skipSpace rest ∧ value? fuel (cs ++ rest) = some (j, after) := by
  obtain ⟨hbefore, hvalue, hafter⟩ := hcs
  rename_i before cs after
  have hshort : cs.length ≤ fuel := by
    simp only [List.length_append] at hlength
    omega
  refine ⟨after ++ rest, skipSpace_append hafter rest, ?_⟩
  rw [List.append_assoc, value?_append fuel hbefore, List.append_assoc]
  exact h hvalue hshort (canFollow_append hafter hrest)

theorem ReadsValues.item {fuel : Nat} (h : ReadsValues fuel) {cs rest : List Char} {item : Json}
    (hitem : WritesPadded cs item) (hlength : cs.length ≤ fuel) (hrest : CanFollow rest) :
    items? (fuel + 1) (cs ++ rest) =
      match skipSpace rest with
      | ',' :: cs => do
        let (items, rest) ← items? fuel cs
        return (item :: items, rest)
      | ']' :: rest => return ([item], rest)
      | _ => none := by
  obtain ⟨after, hskip, hvalue⟩ := h.padded hitem hlength hrest
  rw [items?, hvalue, ← hskip]
  rfl

theorem readsItems_succ {fuel : Nat} (hvalues : ReadsValues fuel) (hitems : ReadsItems fuel) :
    ReadsItems (fuel + 1) := by
  intro cs items h hlength rest
  cases h with
  | last hitem =>
      rw [hvalues.item hitem (Nat.le_of_lt_succ hlength) (canFollow_cons (.inr (by decide)) _)]
      rfl
  | @more cs tail j items hitem htail =>
      simp only [List.length_append, List.length_cons] at hlength
      rw [List.append_assoc, List.cons_append,
        hvalues.item hitem (by omega) (canFollow_cons (.inr (by decide)) _), skipSpace_cons rfl]
      simp only [hitems htail (by omega) rest]
      rfl

theorem ReadsValues.member {fuel : Nat} (h : ReadsValues fuel) {cs rest : List Char}
    {member : Option String × Json} (hmember : WritesMember cs member) (hlength : cs.length ≤ fuel)
    (hrest : CanFollow rest) :
    members? (fuel + 1) (cs ++ rest) =
      match skipSpace rest with
      | ',' :: cs => do
        let (members, rest) ← members? fuel cs
        return (member :: members, rest)
      | '\x7d' :: rest => return ([member], rest)
      | _ => none := by
  obtain ⟨hbefore, hname, hgap, hpadded⟩ := hmember
  rename_i before name gap cs codes j
  have hshort : cs.length ≤ fuel := by
    simp only [List.length_append, List.length_cons] at hlength
    omega
  obtain ⟨after, hskip, hvalue⟩ := h.padded hpadded hshort hrest
  simp only [List.append_assoc, List.cons_append]
  conv_lhs =>
    rw [members?, skipSpace_append hbefore, skipSpace_cons rfl]
    simp only [stringBody?_of_writesCodes hname, bind, Option.bind]
    rw [skipSpace_append hgap, skipSpace_cons rfl]
    simp only [hvalue, hskip]
  rfl

theorem readsMembers_succ {fuel : Nat} (hvalues : ReadsValues fuel)
    (hmembers : ReadsMembers fuel) : ReadsMembers (fuel + 1) := by
  intro cs members h hlength rest
  cases h with
  | last hmember =>
      rw [hvalues.member hmember (Nat.le_of_lt_succ hlength)
        (canFollow_cons (.inr (by decide)) _)]
      rfl
  | @more cs tail member members hmember htail =>
      simp only [List.length_append, List.length_cons] at hlength
      rw [List.append_assoc, List.cons_append,
        hvalues.member hmember (by omega) (canFollow_cons (.inr (by decide)) _), skipSpace_cons rfl]
      simp only [hmembers htail (by omega) rest]
      rfl

theorem WritesItems.skipSpace_append {cs : List Char} {items : List Json}
    (h : WritesItems cs items) (rest : List Char) :
    ∃ c tail, skipSpace (cs ++ rest) = c :: tail ∧ c ≠ ']' := by
  have hpadded : ∃ front j tail, cs = front ++ tail ∧ WritesPadded front j := by
    cases h with
    | last hitem => exact ⟨_, _, [], (List.append_nil _).symm, hitem⟩
    | more hitem => exact ⟨_, _, _, rfl, hitem⟩
  obtain ⟨_, j, tail, rfl, hbefore, hvalue, -⟩ := hpadded
  obtain ⟨c, front, rfl, hc, hbracket⟩ := hvalue.exists_cons
  rw [List.append_assoc, List.append_assoc, Json.skipSpace_append hbefore]
  exact ⟨c, _, skipSpace_cons hc _, hbracket⟩

theorem WritesMembers.skipSpace_append {cs : List Char}
    {members : List (Option String × Json)} (h : WritesMembers cs members) (rest : List Char) :
    ∃ tail, skipSpace (cs ++ rest) = '"' :: tail := by
  have hmember : ∃ front member tail, cs = front ++ tail ∧ WritesMember front member := by
    cases h with
    | last hmember => exact ⟨_, _, [], (List.append_nil _).symm, hmember⟩
    | more hmember => exact ⟨_, _, _, rfl, hmember⟩
  obtain ⟨_, member, tail, rfl, hbefore, -, -, -⟩ := hmember
  rw [List.append_assoc, List.append_assoc, Json.skipSpace_append hbefore]
  exact ⟨_, skipSpace_cons rfl _⟩

theorem readsValues_succ {fuel : Nat} (hitems : ReadsItems fuel) (hmembers : ReadsMembers fuel) :
    ReadsValues (fuel + 1) := by
  intro cs rest j h hlength hrest
  cases h with
  | null => rfl
  | bool value => cases value <;> rfl
  | number hnumber =>
      obtain ⟨c, tail, rfl, hc⟩ := hnumber.exists_cons
      rw [List.cons_append, value?_of_opensNumber fuel hc, ← List.cons_append,
        number?_append hnumber hrest.endsNumber]
  | string hcodes =>
      rw [List.cons_append, List.append_assoc, value?, skipSpace_cons rfl]
      simp only [List.singleton_append, stringBody?_of_writesCodes hcodes]
      rfl
  | emptyArray hspaces =>
      rw [List.cons_append, List.append_assoc, value?, skipSpace_cons rfl]
      simp only [skipSpace_append hspaces]
      rfl
  | @array cs items harray =>
      obtain ⟨c, tail, hskip, hbracket⟩ := harray.skipSpace_append (']' :: rest)
      simp only [List.length_append, List.length_cons] at hlength
      rw [List.cons_append, List.append_assoc, List.singleton_append, value?, skipSpace_cons rfl]
      simp only [hskip]
      -- The reader looks for an empty array first.
      split
      · next heq => exact absurd (List.cons.inj heq).1 hbracket
      · simp only [hitems harray (by omega) rest]
        rfl
  | emptyObject hspaces =>
      rw [List.cons_append, List.append_assoc, value?, skipSpace_cons rfl]
      simp only [skipSpace_append hspaces]
      rfl
  | @object cs members hobject =>
      obtain ⟨tail, hskip⟩ := hobject.skipSpace_append ('\x7d' :: rest)
      simp only [List.length_append, List.length_cons] at hlength
      rw [List.cons_append, List.append_assoc, List.singleton_append, value?, skipSpace_cons rfl]
      simp only [hskip, hmembers hobject (by omega) rest]
      rfl

theorem reads (fuel : Nat) : ReadsValues fuel ∧ ReadsItems fuel ∧ ReadsMembers fuel := by
  induction fuel with
  | zero =>
      -- Without fuel nothing is read, but no value is so short.
      refine ⟨?_, fun _ h => absurd h (Nat.not_lt_zero _), fun _ h => absurd h (Nat.not_lt_zero _)⟩
      intro cs rest j h hlength
      obtain ⟨c, tail, rfl, -, -⟩ := h.exists_cons
      exact absurd hlength (Nat.not_succ_le_zero _)
  | succ fuel ih =>
      obtain ⟨hvalues, hitems, hmembers⟩ := ih
      exact ⟨readsValues_succ hitems hmembers, readsItems_succ hvalues hitems,
        readsMembers_succ hvalues hmembers⟩

/-- A text that writes a value, with any blanks around it, is read as that value. -/
theorem parse?_of_writesPadded {s : String} {j : Json} (h : WritesPadded s.toList j) :
    parse? s = some j := by
  have hvalues : ReadsValues (2 * s.toList.length + 2) := (reads _).1
  obtain ⟨after, hskip, hvalue⟩ := hvalues.padded h (by omega) canFollow_nil
  rw [List.append_nil] at hvalue
  rw [parse?, hvalue]
  simp only [bind, Option.bind, hskip]
  rfl

end VerilogLibrary.Json
