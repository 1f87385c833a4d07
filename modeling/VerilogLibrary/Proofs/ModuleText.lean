import VerilogLibrary.Proofs.PortLines

/-!
# The text of a module determines the module

A declaration without a fault can be read off its text, except for the order
of its ports. The text goes by lines. The first one has the name, up to a blank,
and the parameters, which a comma separates; the lines of the ports end at a
comma or, the last of them, at a line break. Nothing has to be known of the
body: what follows it is always the same, so the body is what remains.

Of the parameters the checker asks nothing. They are read back only if they are
plain, that is, without the characters at which a reader stops.
-/

namespace VerilogLibrary

/-! ## Parameters -/

/-- A parameter without the characters that end a name, a default or a line. -/
structure Parameter.IsPlain (p : Parameter) : Prop where
  name : '\n' ∉ p.name.toList ∧ ',' ∉ p.name.toList ∧ '=' ∉ p.name.toList
  default : ∀ d ∈ p.default?, '\n' ∉ d.toList ∧ ',' ∉ d.toList

theorem Parameter.toList_text (p : Parameter) :
    p.text.toList = "parameter ".toList
      ++ (p.name.toList ++ (p.default?.elim [] fun d => '=' :: d.toList)) := by
  obtain ⟨name, default?⟩ := p
  cases default? with
  | none =>
      have htext : Parameter.text ⟨name, none⟩ = "parameter " ++ name := rfl
      rw [htext, String.toList_append, Option.elim_none, List.append_nil]
  | some d =>
      have htext : Parameter.text ⟨name, some d⟩ = "parameter " ++ name ++ "=" ++ d := rfl
      rw [htext, Option.elim_some]
      simp only [String.toList_append, List.append_assoc]
      rfl

/-- A name and perhaps a default behind an equals sign, which no name contains. -/
theorem Parameter.name_default_inj {n₁ n₂ : String} {d₁? d₂? : Option String}
    (h₁ : '=' ∉ n₁.toList) (h₂ : '=' ∉ n₂.toList)
    (h : n₁.toList ++ (d₁?.elim [] fun d => '=' :: d.toList)
      = n₂.toList ++ (d₂?.elim [] fun d => '=' :: d.toList)) :
    n₁ = n₂ ∧ d₁? = d₂? := by
  cases d₁? with
  | none =>
      rw [Option.elim_none, List.append_nil] at h
      cases d₂? with
      | none =>
          rw [Option.elim_none, List.append_nil] at h
          exact ⟨String.toList_inj.mp h, rfl⟩
      | some d₂ => exact absurd (h ▸ List.mem_append_right _ List.mem_cons_self) h₁
  | some d₁ =>
      cases d₂? with
      | none =>
          rw [Option.elim_none, List.append_nil] at h
          exact absurd (h ▸ List.mem_append_right _ List.mem_cons_self) h₂
      | some d₂ =>
          obtain ⟨hname, hdefault⟩ := eq_of_append_separator h₁ h₂ h
          exact ⟨String.toList_inj.mp hname, congrArg some (String.toList_inj.mp hdefault)⟩

theorem Parameter.text_inj {p q : Parameter} (hp : p.IsPlain) (hq : q.IsPlain)
    (h : p.text = q.text) : p = q := by
  have h := congrArg String.toList h
  rw [toList_text, toList_text] at h
  obtain ⟨hname, hdefault⟩ := name_default_inj hp.name.2.2 hq.name.2.2 (List.append_cancel_left h)
  cases p
  cases q
  exact congrArg₂ Parameter.mk hname hdefault

theorem Parameter.texts_inj {ps qs : List Parameter} (hps : ∀ p ∈ ps, p.IsPlain)
    (hqs : ∀ q ∈ qs, q.IsPlain) (h : ps.map Parameter.text = qs.map Parameter.text) :
    ps = qs := by
  induction ps generalizing qs with
  | nil => exact (List.map_eq_nil_iff.mp h.symm).symm
  | cons p ps ih =>
      cases qs with
      | nil => cases h
      | cons q qs =>
          obtain ⟨htext, hrest⟩ := List.cons.inj h
          obtain ⟨hp, hps⟩ := List.forall_mem_cons.mp hps
          obtain ⟨hq, hqs⟩ := List.forall_mem_cons.mp hqs
          rw [text_inj hp hq htext, ih hps hqs hrest]

theorem Parameter.notMem_text {p : Parameter} {c : Char} (hkeyword : c ∉ "parameter ".toList)
    (hname : c ∉ p.name.toList) (heq : c ≠ '=') (hdefault : ∀ d ∈ p.default?, c ∉ d.toList) :
    c ∉ p.text.toList := by
  rw [toList_text, List.mem_append, List.mem_append, not_or, not_or]
  refine ⟨hkeyword, hname, ?_⟩
  cases hd : p.default? with
  | none => exact List.not_mem_nil
  | some d => exact List.not_mem_cons_of_ne_of_not_mem heq (hdefault d hd)

theorem Parameter.comma_notMem_text {p : Parameter} (h : p.IsPlain) : ',' ∉ p.text.toList :=
  notMem_text (by decide) h.name.2.1 (by decide) fun d hd => (h.default d hd).2

theorem Parameter.newline_notMem_text {p : Parameter} (h : p.IsPlain) : '\n' ∉ p.text.toList :=
  notMem_text (by decide) h.name.1 (by decide) fun d hd => (h.default d hd).1

/-! ## The first line -/

namespace ModuleDecl

/-- The parameters between their parentheses. -/
def parameterList (m : ModuleDecl) : List Char :=
  [','].intercalate ((m.parameters.map Parameter.text).map String.toList)

theorem toList_parameterBlock_of_ne_nil {m : ModuleDecl} (h : m.parameters ≠ []) :
    m.parameterBlock.toList = '#' :: '(' :: (m.parameterList ++ [')', ' ']) := by
  have hne : ¬ m.parameters.isEmpty = true := by rwa [List.isEmpty_iff]
  rw [parameterBlock, if_neg hne, String.toList_append, String.toList_append,
    String.toList_intercalate]
  rfl

theorem toList_parameterBlock_of_eq_nil {m : ModuleDecl} (h : m.parameters = []) :
    m.parameterBlock.toList = [] := by
  rw [parameterBlock, h]
  rfl

theorem newline_notMem_parameterList {m : ModuleDecl}
    (h : ∀ p ∈ m.parameters, '\n' ∉ p.text.toList) : '\n' ∉ m.parameterList := by
  refine notMem_intercalate (by decide) ?_
  rw [List.forall_mem_map, List.forall_mem_map]
  exact h

theorem newline_notMem_parameterBlock {m : ModuleDecl}
    (h : ∀ p ∈ m.parameters, '\n' ∉ p.text.toList) : '\n' ∉ m.parameterBlock.toList := by
  by_cases hnil : m.parameters = []
  · rw [toList_parameterBlock_of_eq_nil hnil]
    exact List.not_mem_nil
  · rw [toList_parameterBlock_of_ne_nil hnil]
    have hlist := newline_notMem_parameterList h
    simp [hlist]

theorem parameters_eq_of_parameterList {m₁ m₂ : ModuleDecl} (h₁ : m₁.parameters ≠ [])
    (h₂ : m₂.parameters ≠ []) (hp₁ : ∀ p ∈ m₁.parameters, p.IsPlain)
    (hp₂ : ∀ p ∈ m₂.parameters, p.IsPlain) (h : m₁.parameterList = m₂.parameterList) :
    m₁.parameters = m₂.parameters := by
  have hsplit : ∀ {m : ModuleDecl}, m.parameters ≠ [] → (∀ p ∈ m.parameters, p.IsPlain) →
      m.parameterList.splitOn ',' = (m.parameters.map Parameter.text).map String.toList := by
    intro m hne hp
    refine List.splitOn_intercalate ',' ?_ (by simpa using hne)
    rw [List.forall_mem_map, List.forall_mem_map]
    exact fun p hmem => Parameter.comma_notMem_text (hp p hmem)
  have htexts := congrArg (List.splitOn ',') h
  rw [hsplit h₁ hp₁, hsplit h₂ hp₂] at htexts
  exact Parameter.texts_inj hp₁ hp₂
    ((List.map_inj_right fun _ _ => String.toList_inj.mp).mp htexts)

/-- The parameters in front of the ports: without parameters the line ends at
once, and otherwise its end is the last parenthesis. -/
theorem parameterBlock_append_inj {m₁ m₂ : ModuleDecl} {r₁ r₂ : List Char}
    (hp₁ : ∀ p ∈ m₁.parameters, p.IsPlain) (hp₂ : ∀ p ∈ m₂.parameters, p.IsPlain)
    (h : m₁.parameterBlock.toList ++ '(' :: '\n' :: r₁
      = m₂.parameterBlock.toList ++ '(' :: '\n' :: r₂) :
    m₁.parameters = m₂.parameters ∧ r₁ = r₂ := by
  by_cases hnil₁ : m₁.parameters = []
  · rw [toList_parameterBlock_of_eq_nil hnil₁] at h
    by_cases hnil₂ : m₂.parameters = []
    · rw [toList_parameterBlock_of_eq_nil hnil₂] at h
      exact ⟨hnil₁.trans hnil₂.symm, List.tail_eq_of_cons_eq (List.tail_eq_of_cons_eq h)⟩
    · rw [toList_parameterBlock_of_ne_nil hnil₂] at h
      exact absurd (List.head_eq_of_cons_eq h) (by decide)
  · rw [toList_parameterBlock_of_ne_nil hnil₁] at h
    by_cases hnil₂ : m₂.parameters = []
    · rw [toList_parameterBlock_of_eq_nil hnil₂] at h
      exact absurd (List.head_eq_of_cons_eq h) (by decide)
    · rw [toList_parameterBlock_of_ne_nil hnil₂] at h
      have hline : ∀ {m : ModuleDecl}, (∀ p ∈ m.parameters, p.IsPlain) →
          '\n' ∉ m.parameterList ++ [')', ' ', '('] := by
        intro m hp hmem
        rcases List.mem_append.mp hmem with hmem | hmem
        · exact newline_notMem_parameterList
            (fun p hmem => Parameter.newline_notMem_text (hp p hmem)) hmem
        · exact absurd hmem (by decide)
      have h : (m₁.parameterList ++ [')', ' ', '(']) ++ '\n' :: r₁
          = (m₂.parameterList ++ [')', ' ', '(']) ++ '\n' :: r₂ := by
        simpa using h
      obtain ⟨hlist, hr⟩ := eq_of_append_separator (hline hp₁) (hline hp₂) h
      exact ⟨parameters_eq_of_parameterList hnil₁ hnil₂ hp₁ hp₂
        (List.append_cancel_right hlist), hr⟩

/-! ## The whole text -/

/-- The port lines with what separates them. -/
def portBlock (m : ModuleDecl) : List Char :=
  [',', '\n'].intercalate (m.portLines.map String.toList)

theorem text_append (m : ModuleDecl) (r : List Char) :
    m.text.toList ++ r =
      "module ".toList ++ (m.name.toList ++ ' ' :: (m.parameterBlock.toList
        ++ '(' :: '\n' :: (m.portBlock ++ '\n' :: (");\n".toList
          ++ ((m.body?.getD "").toList ++ ("\nendmodule\n\n".toList ++ r)))))) := by
  have hports : m.portBlock = (",\n".intercalate m.portLines).toList := by
    rw [String.toList_intercalate]
    rfl
  unfold text
  simp only [String.toList_append, List.append_assoc, hports]
  rfl

theorem portLines_ne_nil {m : ModuleDecl} (h : m.IsLegal) : m.portLines ≠ [] := by
  intro hnil
  have hlength : m.portLines.length = m.ports.length := by
    rw [portLines, List.length_mergeSort, List.length_map]
  rw [hnil, List.length_nil] at hlength
  exact h.ports_ne_nil (List.length_eq_zero_iff.mp hlength.symm)

theorem forall_mem_portLines {m : ModuleDecl} {P : List Char → Prop} :
    (∀ line ∈ m.portLines.map String.toList, P line) ↔ ∀ p ∈ m.ports, P p.line.toList := by
  simp only [portLines, List.forall_mem_map, List.mem_mergeSort]

theorem portBlock_append_inj {m₁ m₂ : ModuleDecl} (h₁ : m₁.IsLegal) (h₂ : m₂.IsLegal)
    {r₁ r₂ : List Char} (h : m₁.portBlock ++ '\n' :: r₁ = m₂.portBlock ++ '\n' :: r₂) :
    m₁.portLines = m₂.portLines ∧ r₁ = r₂ := by
  have hne : ∀ {m : ModuleDecl}, m.IsLegal → m.portLines.map String.toList ≠ [] := by
    intro m hm hnil
    exact portLines_ne_nil hm (List.map_eq_nil_iff.mp hnil)
  have hline : ∀ {m : ModuleDecl}, m.IsLegal → ∀ x ∈ m.portLines.map String.toList,
      ',' ∉ x ∧ '\n' ∉ x := by
    intro m hm
    refine forall_mem_portLines.mpr fun p hp => ?_
    have hlegal := hm.ports p hp
    exact ⟨Port.notMem_line hlegal (by decide), Port.notMem_line hlegal (by decide)⟩
  obtain ⟨hlines, hr⟩ := eq_of_intercalate_append (by decide) (hne h₁) (hne h₂)
    (hline h₁) (hline h₂) h
  exact ⟨(List.map_inj_right fun _ _ => String.toList_inj.mp).mp hlines, hr⟩

theorem body?_eq_some {m : ModuleDecl} (h : m.IsLegal) : m.body? = some (m.body?.getD "") := by
  cases hbody : m.body? with
  | none =>
      have hlacks := h.hasBody
      rw [lacksBody, hbody] at hlacks
      cases hlacks
  | some body => rfl

/-- Two legal declarations with plain parameters have one text exactly if they
differ at most in the order of their ports. -/
theorem text_eq_iff {m₁ m₂ : ModuleDecl} (h₁ : m₁.IsLegal) (h₂ : m₂.IsLegal)
    (hp₁ : ∀ p ∈ m₁.parameters, p.IsPlain) (hp₂ : ∀ p ∈ m₂.parameters, p.IsPlain) :
    m₁.text = m₂.text ↔
      m₁.name = m₂.name ∧ m₁.parameters = m₂.parameters ∧ m₁.body? = m₂.body?
        ∧ m₁.ports.Perm m₂.ports := by
  constructor
  · intro h
    have h : m₁.text.toList ++ [] = m₂.text.toList ++ [] := by rw [h]
    rw [text_append, text_append] at h
    obtain ⟨hname, h⟩ := eq_of_append_separator (notMem_of_isIdentifier h₁.name (by decide))
      (notMem_of_isIdentifier h₂.name (by decide)) (List.append_cancel_left h)
    obtain ⟨hparameters, h⟩ := parameterBlock_append_inj hp₁ hp₂ h
    obtain ⟨hports, h⟩ := portBlock_append_inj h₁ h₂ h
    have hbody := List.append_cancel_right (List.append_cancel_left h)
    refine ⟨String.toList_inj.mp hname, hparameters, ?_, (portLines_eq_iff h₁ h₂).mp hports⟩
    rw [body?_eq_some h₁, body?_eq_some h₂, String.toList_inj.mp hbody]
  · rintro ⟨hname, hparameters, hbody, hports⟩
    unfold text parameterBlock
    rw [hname, hparameters, hbody, (portLines_eq_iff h₁ h₂).mpr hports]

theorem IsLegal.of_perm {m : ModuleDecl} {ports : List Port} (hperm : m.ports.Perm ports)
    (h : m.IsLegal) : ({ m with ports } : ModuleDecl).IsLegal where
  name := h.name
  ports_ne_nil := fun hnil => h.ports_ne_nil (List.Perm.eq_nil (hnil ▸ hperm))
  hasBody := h.hasBody
  ports := fun p hp => h.ports p (hperm.mem_iff.mpr hp)
  nodup := (hperm.map Port.name).nodup_iff.mp h.nodup

/-- Rendering loses the order of the ports and nothing else, and that order has
no part in whether a declaration can be rendered. -/
theorem render_up_to_port_order :
    (∀ m₁ m₂ : ModuleDecl, m₁.check = .ok () → m₂.check = .ok () →
      (∀ p ∈ m₁.parameters, p.IsPlain) → (∀ p ∈ m₂.parameters, p.IsPlain) →
      ∃ t₁ t₂, m₁.render = .ok t₁ ∧ m₂.render = .ok t₂ ∧
        (t₁ = t₂ ↔ m₁.name = m₂.name ∧ m₁.parameters = m₂.parameters ∧ m₁.body? = m₂.body?
          ∧ m₁.ports.Perm m₂.ports)) ∧
    ∀ (m : ModuleDecl) (ports : List Port), m.ports.Perm ports →
      (({ m with ports } : ModuleDecl).check = .ok () ↔ m.check = .ok ()) := by
  constructor
  · intro m₁ m₂ h₁ h₂ hp₁ hp₂
    have h₁ := check_eq_ok_iff.mp h₁
    have h₂ := check_eq_ok_iff.mp h₂
    exact ⟨m₁.text, m₂.text, render_of_isLegal h₁, render_of_isLegal h₂,
      text_eq_iff h₁ h₂ hp₁ hp₂⟩
  · intro m ports hperm
    rw [check_eq_ok_iff, check_eq_ok_iff]
    exact ⟨fun h => IsLegal.of_perm (m := { m with ports }) hperm.symm h, IsLegal.of_perm hperm⟩

/-- A module with two ports, whose body looks like its end, and the same module
with the ports the other way round. -/
theorem render_of_swapped_ports :
    let ports : List Port := [⟨.input, "in", .literal 4294967295⟩, ⟨.output, "out", .literal 1⟩]
    let m : ModuleDecl := ⟨"Top", [⟨"WIDTH", some "8"⟩, ⟨"DEPTH", none⟩], ports, some "endmodule"⟩
    let m' : ModuleDecl := { m with ports := ports.reverse }
    m'.check = .ok () ∧ ∃ t₁ t₂, m.render = .ok t₁ ∧ m'.render = .ok t₂ ∧ t₁ = t₂ := by
  intro ports m m'
  have hplain : ∀ p ∈ m.parameters, p.IsPlain := by
    intro p hp
    rcases List.mem_pair.mp hp with rfl | rfl
    · exact ⟨by decide, fun d hd => by cases hd; decide⟩
    · exact ⟨by decide, nofun⟩
  have hperm : m.ports.Perm ports.reverse := ports.reverse_perm.symm
  have hcheck : m.check = .ok () := by decide
  have hcheck' : m'.check = .ok () := (render_up_to_port_order.2 m _ hperm).mpr hcheck
  obtain ⟨t₁, t₂, h₁, h₂, heq⟩ := render_up_to_port_order.1 m m' hcheck hcheck' hplain hplain
  exact ⟨hcheck', t₁, t₂, h₁, h₂, heq.mpr ⟨rfl, rfl, rfl, hperm⟩⟩

end ModuleDecl

end VerilogLibrary
