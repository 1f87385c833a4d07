import Mathlib
import VerilogLibrary.Toml.Document
import VerilogLibrary.Proofs.Digits

/-!
# Strings, integers and truth values of TOML

A basic string may be spelled in many ways, since a character can be escaped by a
letter or by its number in two lengths and with digits in either case; the
reader takes them all for the same text. An integer has to get past the readers
of dates, times and floating-point numbers, which all see the same digits first
and give up behind them.

Every lemma about a value has a line break and an arbitrary rest behind it. That
is how a value stands in a document with one pair on each line.
-/

namespace VerilogLibrary.Toml

/-! ## Strings -/

/-- The letters of escapes, each with the character that it stands for. -/
def escapeLetters : List (Char × Char) :=
  [('b', '\x08'), ('t', '\t'), ('n', '\n'), ('f', '\x0c'), ('r', '\r'), ('"', '"'), ('\\', '\\')]

/-- How a text can stand between the quotes of a basic string. -/
inductive Spells : List Char → List Char → Prop
  | nil : Spells [] []
  | plain {c : Char} {cs text : List Char} :
      c ≠ '"' → c ≠ '\\' → 0x20 ≤ c.toNat → c.toNat ≠ 0x7F → Spells cs text →
      Spells (c :: cs) (c :: text)
  | letter {letter c : Char} {cs text : List Char} :
      (letter, c) ∈ escapeLetters → Spells cs text → Spells ('\\' :: letter :: cs) (c :: text)
  | number {marker c : Char} {digits cs text : List Char} :
      (marker, digits.length) ∈ [('u', 4), ('U', 8)] → HexDigitsOf c.toNat digits →
      Spells cs text → Spells ('\\' :: marker :: (digits ++ cs)) (c :: text)

theorem digitValue_of_hexDigit {d : Char} {v : Nat} (h : HexDigit d v) :
    isHexDigit d = true ∧ digitValue d = v := by
  have hv := h.lt
  rcases h with h | h
  all_goals interval_cases v <;> cases h <;> decide

theorem numberOf_eq_ofDigits {digits : List Char} {values : List Nat}
    (h : List.Forall₂ HexDigit digits values) :
    numberOf 16 digits = Nat.ofDigits 16 values.reverse := by
  have hfold (n : Nat) : digits.foldl (fun n d => 16 * n + digitValue d) n =
      values.foldl (fun n v => v + 16 * n) n := by
    induction h generalizing n with
    | nil => rfl
    | cons hdigit _ ih =>
        rw [List.foldl_cons, List.foldl_cons, ih, (digitValue_of_hexDigit hdigit).2, Nat.add_comm]
  rw [numberOf, hfold, Nat.ofDigits_eq_foldr, List.foldr_reverse]
  rfl

theorem all_isHexDigit {digits : List Char} {values : List Nat}
    (h : List.Forall₂ HexDigit digits values) : digits.all isHexDigit = true := by
  induction h with
  | nil => rfl
  | cons hdigit _ ih => rw [List.all_cons, (digitValue_of_hexDigit hdigit).1, ih, Bool.and_self]

theorem numberedChar?_of_hexDigitsOf {c : Char} {digits : List Char}
    (h : HexDigitsOf c.toNat digits) : numberedChar? digits = some c := by
  obtain ⟨values, hdigits, hvalue⟩ := h
  have hvalid : c.toNat.isValidChar := c.valid
  rw [numberedChar?, numberOf_eq_ofDigits hdigits, hvalue]
  simp [all_isHexDigit hdigits, hvalid]

theorem basicBody?_plain {c : Char} (hquote : c ≠ '"') (hbackslash : c ≠ '\\')
    (hcontrol : 0x20 ≤ c.toNat) (hdelete : c.toNat ≠ 0x7F) (cs : List Char) :
    basicBody? (c :: cs) = (basicBody? cs).map (cons c) := by
  have hplain : (isTextChar c && c != '\\') = true := by
    simp [isTextChar, hcontrol, hdelete, hbackslash]
  rw [basicBody?.eq_def]
  split
  · next h => cases h
  · next h => exact absurd (List.cons.inj h).1 hquote
  · next h => exact absurd (List.cons.inj h).1 hbackslash
  · next h => exact absurd (List.cons.inj h).1 hbackslash
  · next h => exact absurd (List.cons.inj h).1 hbackslash
  · next h =>
      obtain ⟨rfl, rfl⟩ := List.cons.inj h
      rw [if_pos hplain]

theorem basicBody?_letter {letter c : Char} (h : (letter, c) ∈ escapeLetters) (cs : List Char) :
    basicBody? ('\\' :: letter :: cs) = (basicBody? cs).map (cons c) := by
  fin_cases h <;> rfl

theorem basicBody?_number {marker c : Char} {digits : List Char}
    (hmarker : (marker, digits.length) ∈ [('u', 4), ('U', 8)]) (h : HexDigitsOf c.toNat digits)
    (cs : List Char) :
    basicBody? ('\\' :: marker :: (digits ++ cs)) = (basicBody? cs).map (cons c) := by
  have hchar := numberedChar?_of_hexDigitsOf h
  rcases List.mem_pair.mp hmarker with hshort | hlong
  · obtain ⟨rfl, hlength⟩ := Prod.mk.inj hshort
    match digits, hlength with
    | [x₁, x₂, x₃, x₄], _ =>
        simp only [List.cons_append, List.nil_append]
        rw [basicBody?, hchar]
        rfl
  · obtain ⟨rfl, hlength⟩ := Prod.mk.inj hlong
    match digits, hlength with
    | [x₁, x₂, x₃, x₄, x₅, x₆, x₇, x₈], _ =>
        simp only [List.cons_append, List.nil_append]
        rw [basicBody?, hchar]
        rfl

theorem basicBody?_of_spells {cs text : List Char} (h : Spells cs text) (rest : List Char) :
    basicBody? (cs ++ '"' :: rest) = some (text, rest) := by
  induction h with
  | nil => rfl
  | plain hquote hbackslash hcontrol hdelete _ ih =>
      rw [List.cons_append, basicBody?_plain hquote hbackslash hcontrol hdelete, ih]
      rfl
  | letter hletter _ ih =>
      rw [List.cons_append, List.cons_append, basicBody?_letter hletter, ih]
      rfl
  | number hmarker hdigits _ ih =>
      rw [List.cons_append, List.cons_append, List.append_assoc,
        basicBody?_number hmarker hdigits, ih]
      rfl

/-- A way to write texts as basic strings. -/
structure Quoting where
  body : String → String
  spells : ∀ s, Spells (body s).toList s.toList

/-- The basic string of a text. -/
def Quoting.quoted (q : Quoting) (s : String) : String :=
  "\"" ++ q.body s ++ "\""

/-- How a character stands in a basic string that escapes no more than it has to. -/
def escapedChar (c : Char) : List Char :=
  match escapeLetters.find? (·.2 == c) with
  | some (letter, _) => ['\\', letter]
  | none =>
    if c.toNat < 0x20 ∨ c.toNat = 0x7F then
      '\\' :: 'u' :: '0' :: '0' :: [Nat.digitChar (c.toNat / 16), Nat.digitChar (c.toNat % 16)]
    else [c]

theorem spells_escapedChar (c : Char) {cs text : List Char} (h : Spells cs text) :
    Spells (escapedChar c ++ cs) (c :: text) := by
  unfold escapedChar
  split
  · next letter _ heq =>
      have hletter := List.find?_some heq
      obtain rfl := beq_iff_eq.mp hletter
      exact .letter (List.mem_of_find?_eq_some heq) h
  · next heq =>
      have hother := List.find?_eq_none.mp heq
      split
      · next hcontrol => exact .number List.mem_cons_self (hexDigitsOf_lt (by omega)) h
      · next hplain =>
          have hquote : c ≠ '"' := by
            rintro rfl
            exact hother ('"', '"') (by decide) rfl
          have hbackslash : c ≠ '\\' := by
            rintro rfl
            exact hother ('\\', '\\') (by decide) rfl
          exact .plain hquote hbackslash (by omega) (by omega) h

/-- The basic strings that escape no more than they have to. -/
def Quoting.standard : Quoting where
  body s := String.ofList (s.toList.flatMap escapedChar)
  spells s := by
    rw [String.toList_ofList]
    induction s.toList with
    | nil => exact .nil
    | cons c cs ih => exact spells_escapedChar c ih

/-! ## Values -/

/-- What the reader takes for a value at the end of a line. -/
structure IsValue (cs : List Char) (node : Node) : Prop where
  opens : ∀ c ∈ cs.head?, isBlankChar c = false
  reads : ∀ fuel depth rest,
    value? (fuel + 1) depth (cs ++ '\n' :: rest) = some (node, '\n' :: rest)

theorem isValue_boolean (b : Bool) : IsValue (toString b).toList (.boolean b) := by
  cases b
  all_goals exact ⟨fun c hc => by cases hc; decide, fun _ _ _ => rfl⟩

theorem value?_cons {c : Char} (h : c ∉ ['[', '\x7b', 't', 'f']) (fuel depth : Nat)
    (cs : List Char) :
    value? (fuel + 1) depth (c :: cs) =
      match string? (c :: cs) with
      | some (text, rest) => some (.string (String.ofList text), rest)
      | none => number? (c :: cs) := by
  rw [value?.eq_def]
  simp only
  split
  case h_5 => rfl
  all_goals
    next heq =>
      obtain ⟨rfl, -⟩ := List.cons.inj heq
      exact absurd h (by decide)

/-- Only an empty string opens with two quotes, and no third one follows there. -/
theorem string?_of_spells {cs text : List Char} (h : Spells cs text) (rest : List Char) :
    string? ('"' :: (cs ++ '"' :: '\n' :: rest)) = some (text, '\n' :: rest) := by
  rw [← basicBody?_of_spells h ('\n' :: rest)]
  -- A text that is not empty opens with a plain character or a backslash.
  cases h with
  | nil => rfl
  | plain hquote =>
      rw [string?.eq_def]
      split
      · next heq => exact absurd (List.cons.inj (List.cons.inj heq).2).1 hquote
      · next heq => cases heq
      · next heq => rw [← (List.cons.inj heq).2]
      · next heq => cases heq
      · next _ _ hno _ => exact absurd rfl (hno _)
  | letter => rfl
  | number => rfl

theorem isValue_quoted (q : Quoting) (s : String) : IsValue (q.quoted s).toList (.string s) := by
  have hquoted : (q.quoted s).toList = '"' :: ((q.body s).toList ++ ['"']) := by
    simp [Quoting.quoted]
  rw [hquoted]
  refine ⟨fun c hc => by cases hc; decide, fun fuel depth rest => ?_⟩
  rw [List.cons_append, List.append_assoc, List.singleton_append, value?_cons (by decide),
    string?_of_spells (q.spells s)]
  simp only [String.ofList_toList]

/-! ## Numbers

Digits in front of a line break, with no zero at the front unless it is alone.
-/

theorem after?_digits {digits : List Char} (h : ∀ c ∈ digits, c.isDigit = true) {c : Char}
    (hdigit : c.isDigit = false) (hbreak : c ≠ '\n') (rest : List Char) :
    after? c (digits ++ '\n' :: rest) = none := by
  cases digits with
  | nil => exact if_neg (Ne.symm hbreak)
  | cons d digits => exact if_neg (ne_of_class (h d List.mem_cons_self) hdigit)

theorem twoDigits?_digits {digits : List Char} (h : ∀ c ∈ digits, c.isDigit = true)
    {rest : List Char} {n : Nat} {left : List Char}
    (htwo : twoDigits? (digits ++ '\n' :: rest) = some (n, left)) :
    ∃ digits', (∀ c ∈ digits', c.isDigit = true) ∧ left = digits' ++ '\n' :: rest := by
  match digits with
  | [] => cases rest <;> cases htwo
  | [a] =>
      have ha : a.isDigit = true := h a List.mem_cons_self
      simp [twoDigits?, ha] at htwo
  | a :: b :: digits =>
      simp only [List.cons_append, twoDigits?] at htwo
      split at htwo
      · obtain ⟨-, rfl⟩ := Prod.mk.inj (Option.some.inj htwo)
        exact ⟨digits, fun c hc => h c (List.mem_cons_of_mem _ (List.mem_cons_of_mem _ hc)), rfl⟩
      · cases htwo

theorem date?_digits {digits : List Char} (h : ∀ c ∈ digits, c.isDigit = true)
    (rest : List Char) : date? (digits ++ '\n' :: rest) = none := by
  rw [date?]
  cases hcentury : twoDigits? (digits ++ '\n' :: rest) with
  | none => rfl
  | some found =>
      obtain ⟨century, left⟩ := found
      obtain ⟨digits', h', rfl⟩ := twoDigits?_digits h hcentury
      simp only [bind, Option.bind]
      cases hyear : twoDigits? (digits' ++ '\n' :: rest) with
      | none => rfl
      | some found =>
          obtain ⟨year, left⟩ := found
          obtain ⟨digits'', h'', rfl⟩ := twoDigits?_digits h' hyear
          simp only [after?_digits h'' (c := '-') rfl (by decide)]

theorem time?_digits {digits : List Char} (h : ∀ c ∈ digits, c.isDigit = true)
    (rest : List Char) : time? (digits ++ '\n' :: rest) = none := by
  rw [time?]
  cases hhour : bounded? 0 23 (digits ++ '\n' :: rest) with
  | none => rfl
  | some found =>
      obtain ⟨hour, left⟩ := found
      obtain ⟨digits', h', rfl⟩ := twoDigits?_digits h (Option.filter_eq_some_iff.mp hhour).1
      simp only [bind, Option.bind, after?_digits h' (c := ':') rfl (by decide)]

theorem moment?_digits {digits : List Char} (h : ∀ c ∈ digits, c.isDigit = true)
    (rest : List Char) : moment? (digits ++ '\n' :: rest) = none := by
  rw [moment?, date?_digits h, time?_digits h]
  rfl

theorem moreDigits_append {digits : List Char} (h : ∀ c ∈ digits, c.isDigit = true)
    (rest : List Char) :
    moreDigits Char.isDigit (digits ++ '\n' :: rest) = (digits, '\n' :: rest) := by
  induction digits with
  | nil => rfl
  | cons d digits ih =>
      obtain ⟨hd, hdigits⟩ := List.forall_mem_cons.mp h
      rw [List.cons_append, moreDigits.eq_def]
      split
      · next heq => cases heq
      · next heq => exact absurd (List.cons.inj heq).1 (ne_of_class hd rfl)
      · next heq =>
          obtain ⟨rfl, rfl⟩ := List.cons.inj heq
          rw [if_pos hd, ih hdigits]
          rfl

theorem decimalDigits?_append {digits : List Char} (h : IsDecimal digits) (rest : List Char) :
    decimalDigits? (digits ++ '\n' :: rest) = some (digits, '\n' :: rest) := by
  obtain ⟨d, digits, rfl⟩ := List.exists_cons_of_ne_nil h.ne_nil
  by_cases hd : d = '0'
  · subst hd
    rw [h.zero rfl]
    rfl
  · obtain ⟨hdigit, hdigits⟩ := List.forall_mem_cons.mp h.isDigit
    rw [List.cons_append, decimalDigits?.eq_def]
    split
    · next heq => exact absurd (List.cons.inj heq).1 hd
    · rw [digitRun?, if_pos hdigit, moreDigits_append hdigits]
      rfl

theorem sign_append {digits : List Char} (h : IsDecimal digits) (rest : List Char) :
    sign (digits ++ '\n' :: rest) = (false, digits ++ '\n' :: rest) := by
  obtain ⟨d, tail, rfl, hd⟩ := h.exists_cons
  rw [List.cons_append, sign.eq_def]
  split
  · next heq => exact absurd (List.cons.inj heq).1 (ne_of_class hd rfl)
  · next heq => exact absurd (List.cons.inj heq).1 (ne_of_class hd rfl)
  · rfl

theorem decimalFloat?_append {digits : List Char} (h : IsDecimal digits) (rest : List Char) :
    decimalFloat? (digits ++ '\n' :: rest) = none := by
  rw [decimalFloat?, sign_append h]
  simp only [decimalDigits?_append h, bind, Option.bind]
  rfl

theorem specialFloat?_append {digits : List Char} (h : IsDecimal digits) (rest : List Char) :
    specialFloat? (digits ++ '\n' :: rest) = none := by
  obtain ⟨d, tail, rfl, hd⟩ := h.exists_cons
  rw [specialFloat?, sign_append h, List.cons_append]
  split
  · next heq => exact absurd (List.cons.inj heq).1 (ne_of_class hd rfl)
  · next heq => exact absurd (List.cons.inj heq).1 (ne_of_class hd rfl)
  · rfl

/-- A zero in front of a letter would announce another base. -/
theorem integer?_append {digits : List Char} (h : IsDecimal digits) (rest : List Char) :
    integer? (digits ++ '\n' :: rest) = decimal? (digits ++ '\n' :: rest) := by
  obtain ⟨d, tail, rfl⟩ := List.exists_cons_of_ne_nil h.ne_nil
  have hbase {c : Char} {cs : List Char} (hc : c ≠ '\n') :
      d :: tail ++ '\n' :: rest ≠ '0' :: c :: cs := by
    intro heq
    obtain ⟨rfl, htail⟩ := List.cons.inj heq
    rw [List.append_eq, (List.cons.inj (h.zero rfl)).2] at htail
    exact hc (List.cons.inj htail).1.symm
  rw [integer?.eq_def]
  split
  · next heq => exact absurd heq (hbase (by decide))
  · next heq => exact absurd heq (hbase (by decide))
  · next heq => exact absurd heq (hbase (by decide))
  · rfl

theorem numberOf_toString (n : Nat) : numberOf 10 (toString n).toList = n := by
  have hdigit : ∀ c ∈ (toString n).toList, digitValue c = c.toNat - '0'.toNat :=
    fun c hc => if_pos (isDigit_of_mem_toString hc)
  calc numberOf 10 (toString n).toList
      = Nat.ofDigitChars 10 (toString n).toList 0 :=
        List.foldl_ext _ _ _ fun m c hc => by rw [hdigit c hc]
    _ = n := ofDigitChars_toString n

theorem decimal?_toString {n : Nat} (h : (n : Int) ≤ maxInteger) (rest : List Char) :
    decimal? ((toString n).toList ++ '\n' :: rest) = some (.integer n, '\n' :: rest) := by
  have hdecimal := isDecimal_toString n
  have hrange : minInteger ≤ (n : Int) ∧ (n : Int) ≤ maxInteger :=
    ⟨le_trans (by decide) (Int.natCast_nonneg n), h⟩
  rw [decimal?, sign_append hdecimal]
  simp only [decimalDigits?_append hdecimal, numberOf_toString, integerNode?, Bool.false_eq_true,
    if_false, if_pos hrange, bind, Option.bind]
  rfl

theorem number?_toString {n : Nat} (h : (n : Int) ≤ maxInteger) (rest : List Char) :
    number? ((toString n).toList ++ '\n' :: rest) = some (.integer n, '\n' :: rest) := by
  have hdecimal := isDecimal_toString n
  rw [number?, moment?_digits hdecimal.isDigit, decimalFloat?_append hdecimal,
    specialFloat?_append hdecimal, integer?_append hdecimal, decimal?_toString h]
  rfl

theorem string?_of_isDigit {d : Char} (hd : d.isDigit = true) (cs : List Char) :
    string? (d :: cs) = none := by
  rw [string?.eq_def]
  split
  case h_5 => rfl
  all_goals next heq => exact absurd (List.cons.inj heq).1 (ne_of_class hd rfl)

theorem isValue_integer {n : Nat} (h : (n : Int) ≤ maxInteger) :
    IsValue (toString n).toList (.integer n) := by
  have hdecimal := isDecimal_toString n
  obtain ⟨d, tail, hdigits, hd⟩ := hdecimal.exists_cons
  refine ⟨?_, fun fuel depth rest => ?_⟩
  · intro c hc
    rw [hdigits] at hc
    rw [← Option.some.inj hc, isBlankChar, beq_false_of_ne (ne_of_class hd rfl),
      beq_false_of_ne (ne_of_class hd rfl)]
    rfl
  · have hother : d ∉ ['[', '\x7b', 't', 'f'] := by
      simp [ne_of_class hd]
    rw [← number?_toString h rest, hdigits, List.cons_append, value?_cons hother,
      string?_of_isDigit hd]

end VerilogLibrary.Toml
