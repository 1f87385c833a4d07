import Mathlib

/-!
# Digits

Numbers stand in texts in two ways. In decimal they are written without zeros in
front, so that the digits determine the number and the other way round. The
number of an escaped character is written in hexadecimal. A reader has to take it
in either case and with zeros in front, so there the digits determine the number
only; a printer writes it in lower case and without such zeros.
-/

namespace VerilogLibrary

/-- A character of a class is none that is not. -/
theorem ne_of_class {p : Char → Bool} {c d : Char} (hc : p c = true) (hd : p d = false) :
    c ≠ d := by
  rintro rfl
  rw [hc] at hd
  cases hd

/-! ## Decimal -/

theorem isDigit_of_mem_toString {n : Nat} {c : Char} (h : c ∈ (toString n).toList) :
    c.isDigit = true := by
  rw [Nat.toString_eq_repr, Nat.toList_repr] at h
  exact Nat.isDigit_of_mem_toDigits (by decide) (by decide) h

theorem notMem_toString {n : Nat} {c : Char} (hc : c.isDigit = false) :
    c ∉ (toString n).toList := by
  intro h
  rw [isDigit_of_mem_toString h] at hc
  cases hc

/-- The decimal text of a number has no leading zero. -/
theorem eq_zero_of_head?_toString {n : Nat} (h : (toString n).toList.head? = some '0') :
    n = 0 := by
  rw [Nat.toString_eq_repr, Nat.toList_repr] at h
  induction n using Nat.strongRecOn with
  | ind n ih =>
      rcases Nat.lt_or_ge n 10 with hn | hn
      · rw [Nat.toDigits_of_lt_base hn] at h
        interval_cases n <;> first | rfl | cases h
      · rw [Nat.toDigits_of_base_le (by decide) hn,
          List.head?_append_of_ne_nil _ Nat.toDigits_ne_nil] at h
        have hzero := ih (n / 10) (by omega) h
        omega

theorem ofDigitChars_toString (n : Nat) :
    Nat.ofDigitChars 10 (toString n).toList 0 = n := by
  rw [Nat.toString_eq_repr, Nat.toList_repr]
  exact Nat.ofDigitChars_ten_toDigits

theorem toString_inj {m n : Nat} (h : (toString m).toList = (toString n).toList) : m = n := by
  rw [← ofDigitChars_toString m, h, ofDigitChars_toString]

/-- A number in decimal. -/
structure IsDecimal (digits : List Char) : Prop where
  ne_nil : digits ≠ []
  isDigit : ∀ c ∈ digits, c.isDigit = true
  zero : digits.head? = some '0' → digits = ['0']

theorem isDecimal_toString (n : Nat) : IsDecimal (toString n).toList where
  ne_nil := by
    rw [Nat.toString_eq_repr, Nat.toList_repr]
    exact Nat.toDigits_ne_nil
  isDigit _ hc := isDigit_of_mem_toString hc
  zero h := by
    rw [eq_zero_of_head?_toString h]
    rfl

theorem IsDecimal.exists_cons {digits : List Char} (h : IsDecimal digits) :
    ∃ d tail, digits = d :: tail ∧ d.isDigit = true := by
  obtain ⟨d, tail, rfl⟩ := List.exists_cons_of_ne_nil h.ne_nil
  exact ⟨d, tail, rfl, h.isDigit d List.mem_cons_self⟩

/-! ## Hexadecimal -/

/-- A hexadecimal digit in either case, and its value. -/
def HexDigit (d : Char) (v : Nat) : Prop :=
  "0123456789abcdef".toList[v]? = some d ∨ "0123456789ABCDEF".toList[v]? = some d

theorem HexDigit.lt {d : Char} {v : Nat} (h : HexDigit d v) : v < 16 := by
  rcases h with h | h
  all_goals exact (List.getElem?_eq_some_iff.mp h).1

theorem hexDigit_digitChar {v : Nat} (h : v < 16) : HexDigit (Nat.digitChar v) v := by
  interval_cases v <;> exact .inl rfl

/-- Hexadecimal digits of a number, perhaps with zeros in front. -/
def HexDigitsOf (n : Nat) (digits : List Char) : Prop :=
  ∃ values, List.Forall₂ HexDigit digits values ∧ Nat.ofDigits 16 values.reverse = n

theorem digitChar_inj : ∀ m < 16, ∀ n < 16, Nat.digitChar m = Nat.digitChar n → m = n := by
  decide

theorem HexDigit.toLower_eq {d : Char} {v : Nat} (h : HexDigit d v) :
    d.toLower = Nat.digitChar v := by
  have hv := h.lt
  rcases h with h | h
  all_goals interval_cases v <;> cases h <;> rfl

theorem HexDigit.isAlphanum {d : Char} {v : Nat} (h : HexDigit d v) : d.isAlphanum = true := by
  have hv := h.lt
  rcases h with h | h
  all_goals interval_cases v <;> cases h <;> rfl

theorem HexDigit.rightUnique : Relator.RightUnique HexDigit := by
  intro d v w hv hw
  exact digitChar_inj v hv.lt w hw.lt (hv.toLower_eq.symm.trans hw.toLower_eq)

theorem HexDigitsOf.unique {m n : Nat} {digits : List Char} (hm : HexDigitsOf m digits)
    (hn : HexDigitsOf n digits) : m = n := by
  obtain ⟨values, hvalues, rfl⟩ := hm
  obtain ⟨values', hvalues', rfl⟩ := hn
  rw [HexDigit.rightUnique.forall₂ hvalues hvalues']

theorem HexDigitsOf.notMem {n : Nat} {digits : List Char} (h : HexDigitsOf n digits) {c : Char}
    (hc : c.isAlphanum = false) : c ∉ digits := by
  obtain ⟨values, hvalues, -⟩ := h
  intro hmem
  obtain ⟨i, hi, rfl⟩ := List.getElem_of_mem hmem
  have hdigit := hvalues.get hi (hvalues.length_eq ▸ hi)
  exact ne_of_class hdigit.isAlphanum hc rfl

theorem hexDigitsOf_toDigits (n : Nat) : HexDigitsOf n (Nat.toDigits 16 n) := by
  induction n using Nat.strongRecOn with
  | ind n ih =>
      rcases Nat.lt_or_ge n 16 with hn | hn
      · rw [Nat.toDigits_of_lt_base hn]
        exact ⟨[n], .cons (hexDigit_digitChar hn) .nil, Nat.ofDigits_singleton⟩
      · rw [Nat.toDigits_of_base_le (by decide) hn]
        obtain ⟨values, hvalues, hvalue⟩ := ih (n / 16) (by omega)
        have hlast := hexDigit_digitChar (Nat.mod_lt n (by decide : 0 < 16))
        refine ⟨values ++ [n % 16], List.rel_append hvalues (.cons hlast .nil), ?_⟩
        rw [List.reverse_append, List.reverse_singleton, List.singleton_append, Nat.ofDigits_cons,
          hvalue]
        exact Nat.mod_add_div n 16

/-- A number of at most two digits, filled up to four. -/
theorem hexDigitsOf_lt {n : Nat} (h : n < 256) :
    HexDigitsOf n ['0', '0', Nat.digitChar (n / 16), Nat.digitChar (n % 16)] := by
  have hzero : HexDigit '0' 0 := .inl rfl
  have hhigh := hexDigit_digitChar (by omega : n / 16 < 16)
  have hlow := hexDigit_digitChar (by omega : n % 16 < 16)
  refine ⟨[0, 0, n / 16, n % 16], .cons hzero (.cons hzero (.cons hhigh (.cons hlow .nil))), ?_⟩
  simp only [List.reverse_cons, List.reverse_nil, List.nil_append, List.cons_append,
    Nat.ofDigits_cons, Nat.ofDigits_nil]
  push_cast
  omega

end VerilogLibrary
