import Mathlib
import VerilogLibrary.Config.Basic

/-!
# Upper and lower case in module names

Two facts about the case mappings decide everything that is said about the
names of modules. The first holds for every text: a lower-case form never
contains a capital of ASCII, and an upper-case form is at most three
characters long. So behind its third character a capitalized name has no
capital at all, which is what keeps it apart from the names of registers,
whose fifth character is one.

The second holds for identifiers, which are ASCII. There capitalization
works letter by letter, keeps identifiers what they are, and forgets no more
than the case: two identifiers with one capitalized form have one lower-case
form. The mappings are tables, so what is said about all characters is
checked once for each range of a table.
-/

namespace VerilogLibrary.Text

/-! ## Texts of any characters -/

theorem toNat_le_of_isUpper {c : Char} (h : c.isUpper = true) :
    65 ≤ c.toNat ∧ c.toNat ≤ 90 := by
  simp only [Char.isUpper, Bool.decide_and, Bool.and_eq_true, decide_eq_true_eq,
    ge_iff_le, UInt32.le_iff_toNat_le] at h
  exact h

theorem le_of_isUpper_ofNat {n : Nat} (h : (Char.ofNat n).isUpper = true) : 65 ≤ n ∧ n ≤ 90 := by
  have hle := toNat_le_of_isUpper h
  rw [Char.toNat_ofNat] at hle
  split at hle <;> omega

theorem isUpper_ofNat {n : Nat} (hn : 90 < n) : (Char.ofNat n).isUpper = false := by
  rw [← Bool.not_eq_true]
  intro h
  have hle := (le_of_isUpper_ofNat h).2
  omega

theorem mem_of_lookup {β : Type} {table : List (Nat × β)} {n : Nat} {b : β}
    (h : table.lookup n = some b) : (n, b) ∈ table := by
  obtain ⟨p, q, hpq, _⟩ := List.lookup_eq_some_iff.mp h
  rw [hpq]
  exact List.mem_append_right p List.mem_cons_self

theorem lowerRanges_image : ∀ r ∈ lowerRanges, 90 < (r.first : Int) + r.shift := by
  decide +kernel

theorem lowerExpansions_image : ∀ e ∈ lowerExpansions, ∀ n ∈ e.2, 90 < n := by
  decide +kernel

theorem upperExpansions_length : ∀ e ∈ upperExpansions, e.2.length ≤ 3 := by
  decide +kernel

theorem shiftBy_cases (ranges : List CaseRange) (n : Nat) :
    shiftBy ranges n = n ∨
      ∃ r ∈ ranges, r.first ≤ n ∧ n ≤ r.last ∧ shiftBy ranges n = ((n : Int) + r.shift).toNat := by
  unfold shiftBy
  split
  · next r hr =>
      have hcovers := List.find?_some hr
      simp only [CaseRange.covers, Bool.and_eq_true, decide_eq_true_eq] at hcovers
      exact .inr ⟨r, List.mem_of_find?_eq_some hr, hcovers.1.1, hcovers.1.2, rfl⟩
  · exact .inl rfl

theorem shiftBy_lowerRanges {n : Nat} (hn : 90 < n) : 90 < shiftBy lowerRanges n := by
  rcases shiftBy_cases lowerRanges n with h | ⟨r, hr, hfirst, hlast, h⟩
  · omega
  · have himage := lowerRanges_image r hr
    omega

/-- No lower-case form contains a capital of ASCII. -/
theorem isUpper_of_mem_lowerChars {c d : Char} (h : d ∈ lowerChars c) : d.isUpper = false := by
  unfold lowerChars at h
  split at h
  · rw [List.mem_singleton] at h
    rw [h]
    exact Char.isUpper_toLower_eq_false c
  · next hascii =>
      split at h
      · next form hform =>
          obtain ⟨n, hn, rfl⟩ := List.mem_map.mp h
          exact isUpper_ofNat (lowerExpansions_image _ (mem_of_lookup hform) n hn)
      · rw [List.mem_singleton] at h
        rw [h]
        exact isUpper_ofNat (shiftBy_lowerRanges (by omega))

theorem length_upperChars_le (c : Char) : (upperChars c).length ≤ 3 := by
  unfold upperChars
  split
  · simp
  · split
    · next form hform =>
        rw [List.length_map]
        exact upperExpansions_length _ (mem_of_lookup hform)
    · simp

/-- Behind its third character a capitalized name has no capital of ASCII. -/
theorem isUpper_of_capitalizeChars {cs p q : List Char} {d : Char}
    (h : capitalizeChars cs = p ++ d :: q) (hp : 3 ≤ p.length) : d.isUpper = false := by
  cases cs with
  | nil => simp [capitalizeChars] at h
  | cons c rest =>
      -- Three characters are past the form of `c`, so `d` is from a form of a later one.
      have hlower : d ∈ rest.flatMap lowerChars := by
        have hdrop := congrArg (List.drop p.length) h
        rw [capitalizeChars, List.drop_append,
          List.drop_eq_nil_of_le (Nat.le_trans (length_upperChars_le c) hp),
          List.nil_append, List.drop_left] at hdrop
        exact List.mem_of_mem_drop (hdrop ▸ List.mem_cons_self)
      obtain ⟨e, _, he⟩ := List.mem_flatMap.mp hlower
      exact isUpper_of_mem_lowerChars he

/-! ## Identifiers -/

theorem toNat_lt_of_isAlpha {c : Char} (h : c.isAlpha = true) : c.toNat < 128 := by
  simp only [Char.isAlpha, Char.isUpper, Char.isLower, Bool.decide_and, Bool.or_eq_true,
    Bool.and_eq_true, decide_eq_true_eq, ge_iff_le, UInt32.le_iff_toNat_le] at h
  have hZ : 'Z'.val.toNat = 90 := rfl
  have hz : 'z'.val.toNat = 122 := rfl
  rw [← Char.toNat_val]
  omega

theorem toNat_lt_of_isIdentifierPart {c : Char} (h : isIdentifierPart c = true) :
    c.toNat < 128 := by
  simp only [isIdentifierPart, Char.isAlphanum, Bool.or_eq_true, beq_iff_eq] at h
  rcases h with ((h | h) | rfl) | rfl
  · exact toNat_lt_of_isAlpha h
  · have hdigit := (Char.isDigit_iff_toNat.mp h).2
    have h9 : '9'.toNat = 57 := rfl
    omega
  · decide
  · decide

theorem isIdentifierPart_of_isIdentifierStart {c : Char} (h : isIdentifierStart c = true) :
    isIdentifierPart c = true := by
  simp only [isIdentifierStart, isIdentifierPart, Char.isAlphanum, Bool.or_eq_true] at h ⊢
  tauto

theorem isIdentifierStart_toUpper {c : Char} (h : isIdentifierStart c = true) :
    isIdentifierStart c.toUpper = true := by
  by_cases hlower : c.isLower = true
  · simp [isIdentifierStart, Char.isAlpha, hlower]
  · rwa [Char.toUpper_eq_of_not_isLower hlower]

theorem isIdentifierPart_toLower {c : Char} (h : isIdentifierPart c = true) :
    isIdentifierPart c.toLower = true := by
  by_cases hupper : c.isUpper = true
  · simp [isIdentifierPart, Char.isAlphanum, Char.isAlpha, hupper]
  · rwa [Char.toLower_eq_of_not_isUpper hupper]

theorem isIdentifierChars_cons {c : Char} {rest : List Char} :
    isIdentifierChars (c :: rest) = true ↔
      isIdentifierStart c = true ∧ ∀ d ∈ rest, isIdentifierPart d = true := by
  rw [isIdentifierChars, Bool.and_eq_true, List.all_eq_true]

theorem flatMap_lowerChars {cs : List Char} (h : ∀ c ∈ cs, isIdentifierPart c = true) :
    cs.flatMap lowerChars = cs.map Char.toLower := by
  induction cs with
  | nil => rfl
  | cons c rest ih =>
      have hc : lowerChars c = [c.toLower] :=
        if_pos (toNat_lt_of_isIdentifierPart (h c List.mem_cons_self))
      rw [List.flatMap_cons, hc, ih fun d hd => h d (List.mem_cons_of_mem c hd)]
      rfl

theorem capitalizeChars_of_isIdentifier {c : Char} {rest : List Char}
    (h : isIdentifierChars (c :: rest) = true) :
    capitalizeChars (c :: rest) = c.toUpper :: rest.map Char.toLower := by
  obtain ⟨hstart, hrest⟩ := isIdentifierChars_cons.mp h
  have hc : upperChars c = [c.toUpper] :=
    if_pos (toNat_lt_of_isIdentifierPart (isIdentifierPart_of_isIdentifierStart hstart))
  rw [capitalizeChars, hc, flatMap_lowerChars hrest]
  rfl

theorem isIdentifier_capitalize {s : String} (h : isIdentifier s = true) :
    isIdentifier (capitalize s) = true := by
  unfold isIdentifier at h ⊢
  rw [capitalize, String.toList_ofList]
  cases hs : s.toList with
  | nil => rw [hs] at h; cases h
  | cons c rest =>
      rw [hs] at h
      obtain ⟨hstart, hrest⟩ := isIdentifierChars_cons.mp h
      rw [capitalizeChars_of_isIdentifier h, isIdentifierChars_cons]
      refine ⟨isIdentifierStart_toUpper hstart, fun d hd => ?_⟩
      obtain ⟨e, he, rfl⟩ := List.mem_map.mp hd
      exact isIdentifierPart_toLower (hrest e he)

theorem map_toLower_map_toLower (cs : List Char) :
    (cs.map Char.toLower).map Char.toLower = cs.map Char.toLower := by
  rw [List.map_map]
  exact List.map_congr_left fun c _ => Char.toLower_toLower_eq_toLower c

/-- Capitalization changes nothing about an identifier but its case. -/
theorem asciiLower_capitalize {s : String} (h : isIdentifier s = true) :
    asciiLower (capitalize s) = asciiLower s := by
  unfold isIdentifier at h
  rw [asciiLower, asciiLower, capitalize, String.toList_ofList]
  cases hs : s.toList with
  | nil => rfl
  | cons c rest =>
      rw [hs] at h
      rw [capitalizeChars_of_isIdentifier h, List.map_cons, map_toLower_map_toLower,
        Char.toLower_toUpper_eq_toLower, List.map_cons]

end VerilogLibrary.Text
