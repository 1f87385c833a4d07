import Mathlib

/-!
# Checks in order

Declarations and configurations are checked in the same manner: a few checks
stand in a row, and the last of them walks over a list. The walk looks at each
item by itself and at the keys of the items in front of it, which it carries
along, and it ends at the first item that has a fault.

What the walk carries at index `i` are the keys of the first `i` items, so an
induction over the list gives its report as the report at an index behind which
nothing was found. From there on only one question about the items in front is
left, namely whether one of them has the same key.
-/

namespace VerilogLibrary

/-! ## Checks in a row -/

theorem ite_some_eq_none_iff {α : Type} {p : Prop} [Decidable p] {a : α} {o : Option α} :
    (if p then some a else o) = none ↔ ¬ p ∧ o = none := by
  split
  · next hp => exact ⟨nofun, fun ⟨hnot, _⟩ => absurd hp hnot⟩
  · next hp => rw [and_iff_right hp]

theorem ite_some_eq_some_iff {α : Type} {p : Prop} [Decidable p] {a b : α} {o : Option α} :
    (if p then some a else o) = some b ↔ p ∧ a = b ∨ ¬ p ∧ o = some b := by
  split
  · next hp => simp [hp]
  · next hp => simp [hp]

/-! ## A walk over items with keys -/

section Walk

variable {α β F : Type}

/-- The first fault of items behind items with the keys `earlier`. -/
def walkFault? (fault? : List β → α → Option F) (key : α → β) : List β → List α → Option F
  | _, [] => none
  | earlier, a :: rest =>
    match fault? earlier a with
    | some fault => some fault
    | none => walkFault? fault? key (key a :: earlier) rest

theorem forall_notMem_nodup_cons {P : α → Prop} {key : α → β} {earlier : List β} {a : α}
    {rest : List α} :
    ((∀ x ∈ a :: rest, P x ∧ key x ∉ earlier) ∧ ((a :: rest).map key).Nodup) ↔
      (P a ∧ key a ∉ earlier) ∧
        (∀ x ∈ rest, P x ∧ key x ∉ key a :: earlier) ∧ (rest.map key).Nodup := by
  simp only [List.mem_cons, not_or, List.map_cons, List.nodup_cons, List.mem_map, not_exists,
    not_and]
  constructor
  · intro h
    obtain ⟨hall, hnew, hnodup⟩ := h
    refine ⟨hall a (.inl rfl), fun x hx => ?_, hnodup⟩
    obtain ⟨hP, hearlier⟩ := hall x (.inr hx)
    exact ⟨hP, hnew x hx, hearlier⟩
  · intro h
    obtain ⟨hhead, hrest, hnodup⟩ := h
    refine ⟨fun x hx => ?_, fun x hx => (hrest x hx).2.1, hnodup⟩
    rcases hx with rfl | hx
    · exact hhead
    · exact ⟨(hrest x hx).1, (hrest x hx).2.2⟩

variable {fault? : List β → α → Option F} {key : α → β}

theorem walkFault?_eq_none_iff (P : α → Prop)
    (hfault : ∀ earlier a, fault? earlier a = none ↔ P a ∧ key a ∉ earlier)
    {earlier : List β} {as : List α} :
    walkFault? fault? key earlier as = none ↔
      (∀ a ∈ as, P a ∧ key a ∉ earlier) ∧ (as.map key).Nodup := by
  induction as generalizing earlier with
  | nil => simp [walkFault?]
  | cons a rest ih =>
      rw [walkFault?]
      cases ha : fault? earlier a with
      | some fault =>
          refine ⟨nofun, fun ⟨hall, _⟩ => ?_⟩
          rw [(hfault earlier a).mpr (hall a List.mem_cons_self)] at ha
          cases ha
      | none =>
          rw [forall_notMem_nodup_cons, ih, and_iff_right ((hfault earlier a).mp ha)]

theorem keys_take_succ (key : α → β) (earlier : List β) (a : α) (rest : List α) (i : Nat) :
    (((a :: rest).take (i + 1)).map key).reverse ++ earlier =
      ((rest.take i).map key).reverse ++ key a :: earlier := by
  rw [List.take_succ_cons, List.map_cons, List.reverse_cons, List.append_assoc,
    List.singleton_append]

theorem walkFault?_eq_some_iff {earlier : List β} {as : List α} {fault : F} :
    walkFault? fault? key earlier as = some fault ↔
      ∃ i, ∃ hi : i < as.length,
        (∀ j, ∀ hj : j < i, fault? (((as.take j).map key).reverse ++ earlier) as[j] = none) ∧
        fault? (((as.take i).map key).reverse ++ earlier) as[i] = some fault := by
  induction as generalizing earlier with
  | nil => exact ⟨nofun, fun ⟨_, hi, _⟩ => absurd hi (Nat.not_lt_zero _)⟩
  | cons a rest ih =>
      rw [walkFault?]
      cases ha : fault? earlier a with
      | some found =>
          constructor
          · intro h
            exact ⟨0, Nat.zero_lt_succ _, fun j hj => absurd hj (Nat.not_lt_zero j), ha.trans h⟩
          · intro h
            obtain ⟨i, hi, hbefore, hat⟩ := h
            cases i with
            | zero => exact ha.symm.trans hat
            | succ i =>
                have hnone : fault? earlier a = none := hbefore 0 (Nat.zero_lt_succ i)
                rw [hnone] at ha
                cases ha
      | none =>
          rw [ih]
          constructor
          · intro h
            obtain ⟨i, hi, hbefore, hat⟩ := h
            refine ⟨i + 1, Nat.succ_lt_succ hi, fun j hj => ?_, ?_⟩
            · cases j with
              | zero => exact ha
              | succ j =>
                  rw [keys_take_succ]
                  exact hbefore j (Nat.lt_of_succ_lt_succ hj)
            · rw [keys_take_succ]
              exact hat
          · intro h
            obtain ⟨i, hi, hbefore, hat⟩ := h
            cases i with
            | zero =>
                have hsome : fault? earlier a = some fault := hat
                rw [ha] at hsome
                cases hsome
            | succ i =>
                rw [keys_take_succ] at hat
                refine ⟨i, Nat.lt_of_succ_lt_succ hi, fun j hj => ?_, hat⟩
                have hj := hbefore (j + 1) (Nat.succ_lt_succ hj)
                rw [keys_take_succ] at hj
                exact hj

/-- An item in front of that at `i` has the same key. -/
def RepeatsKey (key : α → β) (as : List α) (i : Fin as.length) : Prop :=
  ∃ j < i, key as[j] = key as[i]

theorem mem_keys_take_iff {as : List α} (i : Fin as.length) :
    key as[i] ∈ ((as.take i).map key).reverse ++ [] ↔ RepeatsKey key as i := by
  rw [List.append_nil, List.mem_reverse, List.mem_map]
  constructor
  · intro h
    obtain ⟨a, ha, hkey⟩ := h
    obtain ⟨j, hj, rfl⟩ := List.mem_take_iff_getElem.mp ha
    exact ⟨⟨j, by omega⟩, Fin.mk_lt_of_lt_val (by omega), hkey⟩
  · intro h
    obtain ⟨j, hj, hkey⟩ := h
    exact ⟨as[j], List.mem_take_iff_getElem.mpr ⟨j, by omega, rfl⟩, hkey⟩

/-- Where an item is judged by itself and by whether its key repeats, the walk reports of the
first faulty item what there is to report of it. -/
theorem walkFault?_nil_eq_some_iff (Faulty : Prop → α → Prop) (Reports : Prop → α → F → Prop)
    (hnone : ∀ earlier a, fault? earlier a = none ↔ ¬ Faulty (key a ∈ earlier) a)
    (hsome : ∀ earlier a fault,
      fault? earlier a = some fault ↔ Reports (key a ∈ earlier) a fault)
    {as : List α} {fault : F} :
    walkFault? fault? key [] as = some fault ↔
      ∃ i : Fin as.length, (∀ j < i, ¬ Faulty (RepeatsKey key as j) as[j]) ∧
        Reports (RepeatsKey key as i) as[i] fault := by
  rw [walkFault?_eq_some_iff]
  constructor
  · intro h
    obtain ⟨i, hi, hbefore, hat⟩ := h
    refine ⟨⟨i, hi⟩, fun j hj => ?_, ?_⟩
    · rw [← mem_keys_take_iff]
      exact (hnone _ _).mp (hbefore j hj)
    · rw [← mem_keys_take_iff]
      exact (hsome _ _ _).mp hat
  · intro h
    obtain ⟨i, hbefore, hat⟩ := h
    refine ⟨i, i.isLt, fun j hj => (hnone _ _).mpr ?_, (hsome _ _ _).mpr ?_⟩
    · have hnot := hbefore ⟨j, by omega⟩ (Fin.mk_lt_of_lt_val hj)
      rw [← mem_keys_take_iff] at hnot
      exact hnot
    · rw [← mem_keys_take_iff] at hat
      exact hat

end Walk

end VerilogLibrary
