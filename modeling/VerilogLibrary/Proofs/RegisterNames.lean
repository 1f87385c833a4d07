import VerilogLibrary.Proofs.ModuleNames

/-!
# The names of registers are read back

A name spells the choices of a register in a fixed order, and is read by asking
for each letter in its turn. One can as well read letter by letter, and compare
each with the one before it: the letters have ranks, and the rank has to grow.
The two ways read the same, because to ask for a letter in vain is to pass over
its rank.

Letter by letter it is plain that nothing but a name is read. A register that
has no choice beyond a rank is written without the letters beyond that rank, so
the next letter comes at the end of what is written already. At the end of the
text the register is written as the text, whatever letters there were.
-/

namespace VerilogLibrary.Register

/-! ## Reading letter by letter -/

/-- The place of a letter in the order of the choices. -/
def rank? : Char → Option Nat
  | 'R' => some 1
  | 'C' => some 2
  | 'E' => some 3
  | _ => none

/-- The register with the choice of a letter. -/
def choose (r : Register) : Char → Register
  | 'R' => { r with asyncReset := true }
  | 'C' => { r with syncClear := true }
  | _ => { r with enable := true }

/-- Makes the choices of letters whose ranks grow from `last` on. -/
def readLetters (r : Register) (last : Nat) : List Char → Option Register
  | [] => some r
  | c :: rest =>
    match rank? c with
    | none => none
    | some rank => if rank ≤ last then none else (r.choose c).readLetters rank rest

/-- A register with no choice but that of the edge. -/
def plain (edge : Edge) : Register :=
  ⟨edge, false, false, false⟩

theorem rank?_cases {c : Char} {rank : Nat} (h : rank? c = some rank) :
    (c = 'R' ∧ rank = 1) ∨ (c = 'C' ∧ rank = 2) ∨ (c = 'E' ∧ rank = 3) := by
  unfold rank? at h
  split at h <;> simp_all

theorem rank?_inj {c d : Char} {rank : Nat} (hc : rank? c = some rank)
    (hd : rank? d = some rank) : c = d := by
  rcases rank?_cases hc with ⟨rfl, hrank⟩ | ⟨rfl, hrank⟩ | ⟨rfl, hrank⟩ <;>
    rcases rank?_cases hd with ⟨rfl, hrank'⟩ | ⟨rfl, hrank'⟩ | ⟨rfl, hrank'⟩ <;>
    first
      | rfl
      | omega

/-- To ask for the letter of the next rank is to read it, or to pass over its rank. -/
theorem readLetters_takeLetter {letter : Char} {last : Nat} (h : rank? letter = some (last + 1))
    (r : Register) (cs : List Char) :
    r.readLetters last cs =
      (if (takeLetter letter cs).1 then r.choose letter else r).readLetters (last + 1)
        (takeLetter letter cs).2 := by
  cases cs with
  | nil => rfl
  | cons c rest =>
      by_cases hc : c = letter
      · subst hc
        have hlast : ¬ last + 1 ≤ last := by omega
        simp only [takeLetter, readLetters, h, if_true, hlast, if_false]
      · simp only [takeLetter, hc, if_false, Bool.false_eq_true]
        rw [readLetters, readLetters]
        cases hrank : rank? c with
        | none => rfl
        | some rank =>
            -- Another letter has another rank, so both limits admit it or neither does.
            have hne : rank ≠ last + 1 := by
              intro heq
              rw [heq] at hrank
              exact hc (rank?_inj hrank h)
            have hiff : rank ≤ last ↔ rank ≤ last + 1 := by omega
            simp only [hiff]

theorem readLetters_three (r : Register) (cs : List Char) :
    r.readLetters 3 cs = if cs.isEmpty then some r else none := by
  cases cs with
  | nil => rfl
  | cons c rest =>
      rw [readLetters]
      cases hrank : rank? c with
      | none => rfl
      | some rank =>
          have hle : rank ≤ 3 := by
            rcases rank?_cases hrank with ⟨-, rfl⟩ | ⟨-, rfl⟩ | ⟨-, rfl⟩ <;> omega
          exact if_pos hle

theorem ofLetters?_cons (c : Char) (rest : List Char) :
    ofLetters? (c :: rest) =
      (Edge.ofLetter? c).bind fun edge => (plain edge).readLetters 0 rest := by
  rw [ofLetters?]
  cases Edge.ofLetter? c with
  | none => rfl
  | some edge =>
      rw [Option.bind_some, readLetters_takeLetter (show rank? 'R' = some (0 + 1) from rfl),
        readLetters_takeLetter (show rank? 'C' = some (1 + 1) from rfl),
        readLetters_takeLetter (show rank? 'E' = some (2 + 1) from rfl), readLetters_three]
      simp only []
      split
      · congr 1
        cases (takeLetter 'R' rest).1 <;>
          cases (takeLetter 'C' (takeLetter 'R' rest).2).1 <;>
          cases (takeLetter 'E' (takeLetter 'C' (takeLetter 'R' rest).2).2).1 <;> rfl
      · rfl

/-! ## What has been read is what is written -/

/-- No choice has a rank beyond `last`. -/
structure IsUpTo (r : Register) (last : Nat) : Prop where
  asyncReset : last < 1 → r.asyncReset = false
  syncClear : last < 2 → r.syncClear = false
  enable : last < 3 → r.enable = false

theorem isUpTo_plain (edge : Edge) : (plain edge).IsUpTo 0 :=
  ⟨fun _ => rfl, fun _ => rfl, fun _ => rfl⟩

/-- A letter beyond all choices so far comes behind their letters. -/
theorem IsUpTo.choose {r : Register} {last rank : Nat} {c : Char} (h : r.IsUpTo last)
    (hrank : rank? c = some rank) (hlt : last < rank) :
    (r.choose c).IsUpTo rank ∧ (r.choose c).letters = r.letters ++ [c] := by
  rcases rank?_cases hrank with ⟨rfl, rfl⟩ | ⟨rfl, rfl⟩ | ⟨rfl, rfl⟩
  · have hreset := h.asyncReset (by omega)
    have hclear := h.syncClear (by omega)
    have henable := h.enable (by omega)
    refine ⟨⟨fun hlast => absurd hlast (by omega), fun _ => hclear, fun _ => henable⟩, ?_⟩
    simp [letters, Register.choose, letterIf, hreset, hclear, henable]
  · have hclear := h.syncClear (by omega)
    have henable := h.enable (by omega)
    refine ⟨⟨fun hlast => absurd hlast (by omega), fun hlast => absurd hlast (by omega),
      fun _ => henable⟩, ?_⟩
    simp [letters, Register.choose, letterIf, hclear, henable]
  · have henable := h.enable (by omega)
    refine ⟨⟨fun hlast => absurd hlast (by omega), fun hlast => absurd hlast (by omega),
      fun hlast => absurd hlast (by omega)⟩, ?_⟩
    simp [letters, Register.choose, letterIf, henable]

theorem letters_of_readLetters {r s : Register} {last : Nat} {cs : List Char}
    (hupTo : r.IsUpTo last) (h : r.readLetters last cs = some s) :
    s.letters = r.letters ++ cs := by
  induction cs generalizing r last with
  | nil =>
      cases h
      rw [List.append_nil]
  | cons c rest ih =>
      rw [readLetters] at h
      split at h
      · cases h
      · next rank hrank =>
          split at h
          · cases h
          · next hle =>
              obtain ⟨hupTo', hletters⟩ := hupTo.choose hrank (Nat.lt_of_not_le hle)
              rw [ih hupTo' h, hletters, List.append_assoc, List.singleton_append]

theorem letter_of_ofLetter? {c : Char} {edge : Edge} (h : Edge.ofLetter? c = some edge) :
    edge.letter = c := by
  unfold Edge.ofLetter? at h
  split at h <;> cases h <;> rfl

theorem letters_of_ofLetters? {r : Register} {cs : List Char} (h : ofLetters? cs = some r) :
    r.letters = cs := by
  cases cs with
  | nil => cases h
  | cons c rest =>
      rw [ofLetters?_cons] at h
      obtain ⟨edge, hedge, hread⟩ := Option.bind_eq_some_iff.mp h
      rw [letters_of_readLetters (isUpTo_plain edge) hread, ← letter_of_ofLetter? hedge]
      rfl

theorem moduleName_of_ofName? {name : String} {r : Register} (h : ofName? name = some r) :
    r.isAdmitted = true ∧ r.moduleName = name := by
  unfold ofName? ofNameChars? at h
  split at h
  · next rest hname =>
      obtain ⟨hletters, hadmitted⟩ := Option.filter_eq_some_iff.mp h
      refine ⟨hadmitted, ?_⟩
      rw [moduleName, letters_of_ofLetters? hletters, ← hname, String.ofList_toList]
  · cases h

/-- A text is read as a register of the library exactly if it is the name of that register, so
nothing is read from a text that is the name of none of them. -/
theorem ofName?_iff_moduleName :
    (∀ (name : String) (r : Register),
      ofName? name = some r ↔ r.isAdmitted = true ∧ r.moduleName = name) ∧
    ∀ name : String, ofName? name = none ↔ name ∉ variants.map moduleName := by
  have hiff : ∀ (name : String) (r : Register),
      ofName? name = some r ↔ r.isAdmitted = true ∧ r.moduleName = name := by
    intro name r
    refine ⟨moduleName_of_ofName?, fun h => ?_⟩
    rw [← h.2]
    exact ofName?_moduleName r h.1
  refine ⟨hiff, fun name => ?_⟩
  rw [Option.eq_none_iff_forall_ne_some, List.mem_map, not_exists]
  refine forall_congr' fun r => not_congr ?_
  rw [hiff, mem_variants_iff]

/-- Letters that are missing, foreign, repeated, out of order, or at odds with each other. -/
example : (["Reg_", "Reg_PX", "Reg_PRR", "Reg_PER", "Reg_NRCE", "Reg_PCE"].map ofName?) =
    [none, none, none, none, none, some ⟨.rising, false, true, true⟩] := by
  decide

end VerilogLibrary.Register
