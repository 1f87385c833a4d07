import Mathlib
import VerilogLibrary.Proofs.Capitalize
import VerilogLibrary.Proofs.Digits
import VerilogLibrary.Text.Classes

/-!
# Where a reader stops

A text that was put together from parts can be taken apart again where a part
ends at a character that it cannot contain. Each statement here keeps an
arbitrary rest behind what is read, so that they can be used one after the
other, from the front of a text to its end.
-/

namespace VerilogLibrary

/-- Two readers that stop at the first separator of several have read the same,
have stopped at the same, and have the same before them. -/
theorem eq_of_append_separators {seps x₁ x₂ r₁ r₂ : List Char} {a b : Char}
    (h₁ : ∀ c ∈ x₁, c ∉ seps) (h₂ : ∀ c ∈ x₂, c ∉ seps) (ha : a ∈ seps) (hb : b ∈ seps)
    (h : x₁ ++ a :: r₁ = x₂ ++ b :: r₂) : x₁ = x₂ ∧ a = b ∧ r₁ = r₂ := by
  induction x₁ generalizing x₂ with
  | nil =>
      cases x₂ with
      | nil =>
          obtain ⟨hab, hr⟩ := List.cons.inj h
          exact ⟨rfl, hab, hr⟩
      | cons d rest =>
          obtain ⟨rfl, -⟩ := List.cons.inj h
          exact absurd ha (h₂ a List.mem_cons_self)
  | cons c x ih =>
      cases x₂ with
      | nil =>
          obtain ⟨rfl, -⟩ := List.cons.inj h
          exact absurd hb (h₁ c List.mem_cons_self)
      | cons d rest =>
          obtain ⟨rfl, htail⟩ := List.cons.inj h
          obtain ⟨rfl, hab, hr⟩ := ih (List.forall_mem_cons.mp h₁).2 (List.forall_mem_cons.mp h₂).2
            htail
          exact ⟨rfl, hab, hr⟩

theorem eq_of_append_separator {sep : Char} {x₁ x₂ r₁ r₂ : List Char} (h₁ : sep ∉ x₁)
    (h₂ : sep ∉ x₂) (h : x₁ ++ sep :: r₁ = x₂ ++ sep :: r₂) : x₁ = x₂ ∧ r₁ = r₂ := by
  have hforall : ∀ {x : List Char}, sep ∉ x → ∀ c ∈ x, c ∉ [sep] := by
    intro x hx c hc hmem
    exact hx (List.mem_singleton.mp hmem ▸ hc)
  obtain ⟨hx, -, hr⟩ := eq_of_append_separators (hforall h₁) (hforall h₂)
    List.mem_cons_self List.mem_cons_self h
  exact ⟨hx, hr⟩

theorem takeWhile_ne_append {sep : Char} {x : List Char} (h : sep ∉ x) (r : List Char) :
    (x ++ sep :: r).takeWhile (· != sep) = x := by
  have hx : ∀ c ∈ x, (c != sep) = true := fun c hc => bne_iff_ne.mpr fun heq => h (heq ▸ hc)
  rw [List.takeWhile_append_of_pos hx, List.takeWhile_cons_of_neg (by simp), List.append_nil]

theorem dropWhile_ne_append {sep : Char} {x : List Char} (h : sep ∉ x) (r : List Char) :
    (x ++ sep :: r).dropWhile (· != sep) = sep :: r := by
  have hx : ∀ c ∈ x, (c != sep) = true := fun c hc => bne_iff_ne.mpr fun heq => h (heq ▸ hc)
  rw [List.dropWhile_append_of_pos hx, List.dropWhile_cons_of_neg (by simp)]

/-- A list with separators between its items and an end behind the last can be
read back, if the items contain neither the first character of the separator
nor that of the end. -/
theorem eq_of_intercalate_append {sep stop : Char} {gap : List Char} (hne : sep ≠ stop)
    {xs ys : List (List Char)} {r₁ r₂ : List Char} (hxs : xs ≠ []) (hys : ys ≠ [])
    (hx : ∀ x ∈ xs, sep ∉ x ∧ stop ∉ x) (hy : ∀ y ∈ ys, sep ∉ y ∧ stop ∉ y)
    (h : (sep :: gap).intercalate xs ++ stop :: r₁ = (sep :: gap).intercalate ys ++ stop :: r₂) :
    xs = ys ∧ r₁ = r₂ := by
  have hsep : sep ∈ [sep, stop] := List.mem_cons_self
  have hstop : stop ∈ [sep, stop] := List.mem_cons_of_mem _ List.mem_cons_self
  have hforall : ∀ {x : List Char}, sep ∉ x ∧ stop ∉ x → ∀ c ∈ x, c ∉ [sep, stop] := by
    rintro x ⟨hxsep, hxstop⟩ c hc hmem
    rcases List.mem_pair.mp hmem with rfl | rfl
    · exact hxsep hc
    · exact hxstop hc
  induction xs generalizing ys with
  | nil => exact absurd rfl hxs
  | cons x xs ih =>
      cases ys with
      | nil => exact absurd rfl hys
      | cons y ys =>
          obtain ⟨hx₀, hxs'⟩ := List.forall_mem_cons.mp hx
          obtain ⟨hy₀, hys'⟩ := List.forall_mem_cons.mp hy
          have hx₀ := hforall hx₀
          have hy₀ := hforall hy₀
          cases xs with
          | nil =>
              cases ys with
              | nil =>
                  rw [List.intercalate_singleton, List.intercalate_singleton] at h
                  obtain ⟨rfl, -, hr⟩ := eq_of_append_separators hx₀ hy₀ hstop hstop h
                  exact ⟨rfl, hr⟩
              | cons y' ys =>
                  rw [List.intercalate_singleton, List.intercalate_cons_cons, List.append_assoc,
                    List.append_assoc, List.cons_append] at h
                  exact absurd (eq_of_append_separators hx₀ hy₀ hstop hsep h).2.1 hne.symm
          | cons x' xs =>
              rw [List.intercalate_cons_cons, List.append_assoc, List.append_assoc,
                List.cons_append] at h
              cases ys with
              | nil =>
                  rw [List.intercalate_singleton] at h
                  exact absurd (eq_of_append_separators hx₀ hy₀ hsep hstop h).2.1 hne
              | cons y' ys =>
                  rw [List.intercalate_cons_cons, List.append_assoc, List.append_assoc,
                    List.cons_append] at h
                  obtain ⟨rfl, -, htail⟩ := eq_of_append_separators hx₀ hy₀ hsep hsep h
                  obtain ⟨hrest, hr⟩ := ih (List.cons_ne_nil _ _) (List.cons_ne_nil _ _) hxs' hys'
                    (List.append_cancel_left htail)
                  exact ⟨congrArg _ hrest, hr⟩

theorem notMem_intercalate {c : Char} {sep : List Char} {xs : List (List Char)} (hsep : c ∉ sep)
    (hxs : ∀ x ∈ xs, c ∉ x) : c ∉ sep.intercalate xs := by
  induction xs with
  | nil => exact List.not_mem_nil
  | cons x xs ih =>
      obtain ⟨hx, hrest⟩ := List.forall_mem_cons.mp hxs
      cases xs with
      | nil => rwa [List.intercalate_singleton]
      | cons y ys =>
          rw [List.intercalate_cons_cons, List.mem_append, List.mem_append, not_or, not_or]
          exact ⟨⟨hx, hsep⟩, ih hrest⟩

/-! ## What identifiers and numbers do not contain -/

theorem isIdentifierPart_of_mem {s : String} {c : Char} (h : Text.isIdentifier s = true)
    (hmem : c ∈ s.toList) : Text.isIdentifierPart c = true := by
  unfold Text.isIdentifier at h
  cases hs : s.toList with
  | nil => rw [hs] at hmem; cases hmem
  | cons b rest =>
      rw [hs] at h hmem
      obtain ⟨hstart, hrest⟩ := Text.isIdentifierChars_cons.mp h
      rcases List.mem_cons.mp hmem with rfl | hmem
      · exact Text.isIdentifierPart_of_isIdentifierStart hstart
      · exact hrest c hmem

theorem notMem_of_isIdentifier {s : String} {c : Char} (h : Text.isIdentifier s = true)
    (hc : Text.isIdentifierPart c = false) : c ∉ s.toList := by
  intro hmem
  rw [isIdentifierPart_of_mem h hmem] at hc
  cases hc

theorem isWhiteSpace_of_isIdentifierPart {c : Char} (h : Text.isIdentifierPart c = true) :
    Text.isWhiteSpace c = false := by
  have hascii : ∀ n < 128, Text.isIdentifierPart (Char.ofNat n) = true →
      Text.isWhiteSpace (Char.ofNat n) = false := by
    decide +kernel
  rw [← Char.ofNat_toNat c] at h ⊢
  exact hascii c.toNat (Text.toNat_lt_of_isIdentifierPart (Char.ofNat_toNat c ▸ h)) h

/-- A list is read if each of its items is. -/
theorem mapM_eq_some_iff {α β : Type} {read? : β → Option α} {bs : List β} {as : List α} :
    bs.mapM read? = some as ↔ List.Forall₂ (fun b a => read? b = some a) bs as := by
  induction bs generalizing as with
  | nil => cases as <;> simp
  | cons b bs ih =>
      rw [List.mapM_cons, List.forall₂_cons_left_iff]
      cases hb : read? b with
      | none => simp
      | some a =>
          simp only [← ih, Option.some.injEq]
          cases bs.mapM read? with
          | none => simp
          | some as' => simp [eq_comm]

theorem mapM_map_eq_some {α β : Type} {write : α → β} {read? : β → Option α}
    (h : ∀ a, read? (write a) = some a) (as : List α) : (as.map write).mapM read? = some as := by
  rw [mapM_eq_some_iff, List.forall₂_map_left_iff, List.forall₂_same]
  exact fun a _ => h a

theorem mapM_eq_some_of_forall₂ {α β : Type} {writes : α → β → Prop} {read? : β → Option α}
    (h : ∀ a b, writes a b → read? b = some a) {as : List α} {bs : List β}
    (hbs : List.Forall₂ writes as bs) : bs.mapM read? = some as :=
  mapM_eq_some_iff.mpr (hbs.flip.imp fun b a => h a b)

theorem mapM_eq_none_of_mem {α β : Type} {read? : β → Option α} {bs : List β} {b : β}
    (hmem : b ∈ bs) (h : read? b = none) : bs.mapM read? = none := by
  rw [Option.eq_none_iff_forall_ne_some]
  intro as has
  obtain ⟨hlength, hread⟩ := List.forall₂_iff_get.mp (mapM_eq_some_iff.mp has)
  obtain ⟨i, hi, rfl⟩ := List.getElem_of_mem hmem
  exact Option.some_ne_none _ ((hread i hi (hlength ▸ hi)).symm.trans h)

end VerilogLibrary
