import VerilogLibrary.Proofs.DecodedText
import VerilogLibrary.Proofs.ModuleFaults
import VerilogLibrary.Proofs.Separators

/-!
# The lines of ports

The line of a legal port can be read back: the direction ends at a blank, a
range opens with a bracket, which no name does, and its bound ends at a colon.
A bound that is a number never looks like one that is taken from a parameter,
for only the latter has a minus in it.

The lines of a module are sorted by their bytes. The bytes determine the line,
so the order is a linear one, and the sorted lines depend on nothing but which
ports there are.
-/

namespace VerilogLibrary

/-! ## Widths -/

/-- The upper bound of the range of a width. -/
def Width.bound : Width → String
  | .literal bits => toString (bits.toNat - 1)
  | .parameter name => name ++ "-1"

/-- What a width puts in front of the name of a port. -/
def Width.front (w : Width) : List Char :=
  if w.isSingleBit then [] else '[' :: (w.bound.toList ++ ':' :: "0] ".toList)

theorem Width.eq_of_isSingleBit {w : Width} (h : w.isSingleBit = true) : w = .literal 1 := by
  cases w with
  | literal bits => rw [show bits = 1 by simpa [isSingleBit] using h]
  | parameter name => cases h

theorem Width.range_of_wide {w : Width} (h : w.isSingleBit = false) :
    w.range = "[" ++ w.bound ++ ":0]" := by
  cases w with
  | literal bits =>
      rw [range, if_neg (by rw [isSingleBit] at h; rw [h]; exact Bool.false_ne_true)]
      rfl
  | parameter name =>
      have hrange : (Width.parameter name).range = "[" ++ name ++ "-1:0]" := rfl
      rw [hrange, bound, String.append_assoc, String.append_assoc, String.append_assoc]
      rfl

theorem Width.toNat_pos_of_isMeaningful {bits : UInt32}
    (h : (Width.literal bits).isMeaningful = true) : 0 < bits.toNat := by
  rw [Nat.pos_iff_ne_zero]
  intro hzero
  rw [show bits = 0 from UInt32.toNat_inj.mp hzero] at h
  cases h

theorem Width.bound_literal_ne (bits : UInt32) (name : String) :
    (Width.literal bits).bound ≠ (Width.parameter name).bound := by
  intro heq
  have hmem : '-' ∈ (Width.parameter name).bound.toList := by
    rw [bound, String.toList_append]
    exact List.mem_append_right _ (by decide)
  rw [← heq] at hmem
  exact notMem_toString (by decide) hmem

theorem Width.bound_inj {w v : Width} (hw : w.isMeaningful = true) (hv : v.isMeaningful = true)
    (h : w.bound = v.bound) : w = v := by
  cases w with
  | literal bits =>
      cases v with
      | literal bits' =>
          have hpred : bits.toNat - 1 = bits'.toNat - 1 := toString_inj (congrArg String.toList h)
          have hpos := toNat_pos_of_isMeaningful hw
          have hpos' := toNat_pos_of_isMeaningful hv
          have heq : bits.toNat = bits'.toNat := by omega
          rw [UInt32.toNat_inj.mp heq]
      | parameter name => exact absurd h (bound_literal_ne bits name)
  | parameter name =>
      cases v with
      | literal bits => exact absurd h.symm (bound_literal_ne bits name)
      | parameter name' => rw [(String.append_left_inj "-1").mp h]

/-! ## One line -/

/-- A character that the line of a port may contain. -/
def isLinePart (c : Char) : Bool :=
  Text.isIdentifierPart c || [' ', '[', ']', ':', '-'].contains c

theorem isLinePart_of_isIdentifierPart {c : Char} (h : Text.isIdentifierPart c = true) :
    isLinePart c = true := by
  rw [isLinePart, h, Bool.true_or]

theorem Width.isLinePart_of_mem_bound {w : Width} (h : w.isMeaningful = true) {c : Char}
    (hc : c ∈ w.bound.toList) : Text.isIdentifierPart c = true ∨ c = '-' := by
  cases w with
  | literal bits =>
      refine .inl ?_
      have hdigit := isDigit_of_mem_toString hc
      simp [Text.isIdentifierPart, Char.isAlphanum, hdigit]
  | parameter name =>
      rw [bound, String.toList_append, List.mem_append] at hc
      rcases hc with hc | hc
      · exact .inl (isIdentifierPart_of_mem h hc)
      · rcases List.mem_cons.mp hc with rfl | hc
        · exact .inr rfl
        · exact .inl (List.mem_singleton.mp hc ▸ by decide)

theorem Width.front_append_inj {w v : Width} {s t : String} (hw : w.isMeaningful = true)
    (hv : v.isMeaningful = true) (hs : Text.isIdentifier s = true)
    (ht : Text.isIdentifier t = true) (h : w.front ++ s.toList = v.front ++ t.toList) :
    w = v ∧ s = t := by
  have hbracket : ∀ {s : String} {r : List Char}, Text.isIdentifier s = true →
      s.toList ≠ '[' :: r := by
    intro s r hs heq
    exact notMem_of_isIdentifier hs (by decide) (heq ▸ List.mem_cons_self)
  have hcolon : ∀ {w : Width}, w.isMeaningful = true → ':' ∉ w.bound.toList := by
    intro w hw hmem
    rcases isLinePart_of_mem_bound hw hmem with hpart | heq
    · exact absurd hpart (by decide)
    · exact absurd heq (by decide)
  rw [front, front] at h
  split at h <;> split at h
  · next hsingle hsingle' =>
      rw [eq_of_isSingleBit hsingle, eq_of_isSingleBit hsingle']
      exact ⟨rfl, String.toList_inj.mp h⟩
  · exact absurd h (hbracket hs)
  · exact absurd h.symm (hbracket ht)
  · rw [List.cons_append, List.cons_append, List.append_assoc, List.append_assoc] at h
    obtain ⟨hbound, hrest⟩ := eq_of_append_separator (hcolon hw) (hcolon hv)
      (List.tail_eq_of_cons_eq h)
    exact ⟨bound_inj hw hv (String.toList_inj.mp hbound),
      String.toList_inj.mp (List.append_cancel_left hrest)⟩

theorem Direction.keyword_inj {d e : Direction} (h : d.keyword = e.keyword) : d = e := by
  cases d <;> cases e <;> first | rfl | exact absurd h (by decide)

theorem Port.toList_line (p : Port) :
    p.line.toList =
      "  ".toList ++ (p.direction.keyword.toList ++ ' ' :: (p.width.front ++ p.name.toList)) := by
  cases hw : p.width.isSingleBit with
  | true =>
      have hline : p.line = "  " ++ p.direction.keyword ++ " " ++ p.name := by
        rw [line, if_pos hw]
        rfl
      rw [hline, Width.front, if_pos hw]
      simp only [String.toList_append, List.append_assoc]
      rfl
  | false =>
      have hwide : ¬ p.width.isSingleBit = true := by rw [hw]; exact Bool.false_ne_true
      have hline : p.line =
          "  " ++ p.direction.keyword ++ " " ++ p.width.range ++ " " ++ p.name := by
        rw [line, if_neg hwide]
        rfl
      rw [hline, Width.range_of_wide hw, Width.front, if_neg hwide]
      simp only [String.toList_append, List.append_assoc, List.cons_append]
      rfl

/-- The line of a legal port determines the port. -/
theorem Port.line_inj {p q : Port} (hp : p.IsLegal) (hq : q.IsLegal) (h : p.line = q.line) :
    p = q := by
  have hblank : ∀ d : Direction, ' ' ∉ d.keyword.toList := by
    intro d
    cases d <;> decide
  have h := congrArg String.toList h
  rw [toList_line, toList_line] at h
  obtain ⟨hdirection, hrest⟩ := eq_of_append_separator (hblank _) (hblank _)
    (List.append_cancel_left h)
  obtain ⟨hwidth, hname⟩ := Width.front_append_inj hp.width hq.width hp.name hq.name hrest
  obtain ⟨direction, name, width⟩ := p
  obtain ⟨direction', name', width'⟩ := q
  obtain rfl : direction = direction' := Direction.keyword_inj (String.toList_inj.mp hdirection)
  obtain rfl : name = name' := hname
  obtain rfl : width = width' := hwidth
  rfl

theorem Port.isLinePart_of_mem_line {p : Port} (hp : p.IsLegal) :
    ∀ c ∈ p.line.toList, isLinePart c = true := by
  have hkeyword : ∀ d : Direction, ∀ c ∈ d.keyword.toList, isLinePart c = true := by
    intro d
    cases d <;> exact List.all_eq_true.mp (by decide)
  have hfront : ∀ c ∈ p.width.front, isLinePart c = true := by
    intro c hc
    rw [Width.front] at hc
    split at hc
    · cases hc
    · rw [List.mem_cons, List.mem_append] at hc
      rcases hc with rfl | hc | hc
      · decide
      · rcases Width.isLinePart_of_mem_bound hp.width hc with hpart | rfl
        · exact isLinePart_of_isIdentifierPart hpart
        · decide
      · exact List.all_eq_true.mp (show (":0] ".toList).all isLinePart = true by decide) c hc
  rw [toList_line]
  simp only [List.forall_mem_append, List.forall_mem_cons]
  exact ⟨List.all_eq_true.mp (by decide), hkeyword _, by decide, hfront,
    fun c hc => isLinePart_of_isIdentifierPart (isIdentifierPart_of_mem hp.name hc)⟩

theorem Port.notMem_line {p : Port} (hp : p.IsLegal) {c : Char} (hc : isLinePart c = false) :
    c ∉ p.line.toList := by
  intro hmem
  rw [isLinePart_of_mem_line hp c hmem] at hc
  cases hc

/-! ## Sorted lines -/

namespace ModuleDecl

theorem lineLE_antisymm {a b : String} (hab : lineLE a b = true) (hba : lineLE b a = true) :
    a = b :=
  Text.utf8_inj (List.le_antisymm (of_decide_eq_true hab) (of_decide_eq_true hba))

theorem pairwise_lineLE (lines : List String) :
    (lines.mergeSort lineLE).Pairwise fun a b => lineLE a b = true := by
  apply List.pairwise_mergeSort
  · intro a b c hab hbc
    exact decide_eq_true (List.le_trans (of_decide_eq_true hab) (of_decide_eq_true hbc))
  · intro a b
    rw [Bool.or_eq_true, lineLE, lineLE, decide_eq_true_eq, decide_eq_true_eq]
    exact List.le_total _ _

/-- Sorted lines do not tell in which order they were given. -/
theorem mergeSort_lineLE_eq_iff {lines lines' : List String} :
    lines.mergeSort lineLE = lines'.mergeSort lineLE ↔ lines.Perm lines' := by
  constructor
  · intro h
    exact (List.mergeSort_perm lines lineLE).symm.trans
      (h ▸ List.mergeSort_perm lines' lineLE)
  · intro h
    have hperm : (lines.mergeSort lineLE).Perm (lines'.mergeSort lineLE) :=
      (List.mergeSort_perm lines lineLE).trans
        (h.trans (List.mergeSort_perm lines' lineLE).symm)
    exact hperm.eq_of_pairwise (fun a b _ _ => lineLE_antisymm) (pairwise_lineLE lines)
      (pairwise_lineLE lines')

/-- The port lines as a sort by insertion has them, which can be evaluated. -/
theorem portLines_eq_insertionSort (m : ModuleDecl) :
    m.portLines =
      (m.ports.map Port.line).insertionSort fun a b => Text.utf8 a ≤ Text.utf8 b := by
  have : IsTrans String fun a b => Text.utf8 a ≤ Text.utf8 b := ⟨fun _ _ _ => List.le_trans⟩
  have : Std.Total fun a b : String => Text.utf8 a ≤ Text.utf8 b := ⟨fun _ _ => List.le_total _ _⟩
  have : Std.Antisymm fun a b : String => Text.utf8 a ≤ Text.utf8 b :=
    ⟨fun _ _ hab hba => Text.utf8_inj (List.le_antisymm hab hba)⟩
  exact List.mergeSort_eq_insertionSort _ _

theorem IsLegal.nodup_ports {m : ModuleDecl} (h : m.IsLegal) : m.ports.Nodup :=
  h.nodup.of_map

/-- Legal declarations have the same sorted port lines exactly if they declare
the same ports. -/
theorem portLines_eq_iff {m₁ m₂ : ModuleDecl} (h₁ : m₁.IsLegal) (h₂ : m₂.IsLegal) :
    m₁.portLines = m₂.portLines ↔ m₁.ports.Perm m₂.ports := by
  rw [portLines, portLines, mergeSort_lineLE_eq_iff]
  refine ⟨fun h => ?_, fun h => h.map Port.line⟩
  have hsubset : ∀ {m₁ m₂ : ModuleDecl}, m₁.IsLegal → m₂.IsLegal →
      (m₁.ports.map Port.line).Perm (m₂.ports.map Port.line) → ∀ p ∈ m₁.ports, p ∈ m₂.ports := by
    intro m₁ m₂ h₁ h₂ h p hp
    obtain ⟨q, hq, hline⟩ := List.mem_map.mp (h.subset (List.mem_map_of_mem hp))
    rwa [← Port.line_inj (h₂.ports q hq) (h₁.ports p hp) hline]
  rw [List.perm_ext_iff_of_nodup h₁.nodup_ports h₂.nodup_ports]
  exact fun p => ⟨hsubset h₁ h₂ h p, hsubset h₂ h₁ h.symm p⟩

end ModuleDecl

end VerilogLibrary
