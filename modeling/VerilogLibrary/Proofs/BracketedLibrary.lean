import VerilogLibrary.Proofs.Outline
import VerilogLibrary.Proofs.StreamedLibrary

/-!
# A library is a well-bracketed sequence of modules

The outline of a library says which modules are where: each section has its
header, and then the first and the last line of each of its modules. Nothing
else is in it, whatever the names, the options and the expressions are, as long
as an expression has no line break in it.

From the outline one reads off what the lines of the text are like. Two views
of it are used. As a bracketed sequence, in which no module is open where the
next one opens, it tells how many modules are closed between two that open. As
a sequence of sections, it tells for every line that opens a module to which
entry of the plan and under which header it belongs.
-/

namespace VerilogLibrary

/-! ## The outline of a library -/

/-- The outline of a section: its header, and the ends of its modules. -/
def Section.outline (c : Catalog) (o : Options) (s : Section) : List String :=
  s.header :: (s.decls c o).flatMap ModuleDecl.ends

theorem outline_flatMap_text {ms : List ModuleDecl} (h : ∀ m ∈ ms, m.IsFramed) (r : List Char) :
    outline ((ms.flatMap fun m => m.text.toList) ++ r) =
      (ms.flatMap ModuleDecl.ends) ++ outline r := by
  induction ms with
  | nil => rfl
  | cons m ms ih =>
      obtain ⟨hm, hms⟩ := List.forall_mem_cons.mp h
      rw [List.flatMap_cons, List.append_assoc, ModuleDecl.outline_text_append hm, ih hms,
        List.flatMap_cons, List.append_assoc]

theorem Section.outline_header (s : Section) :
    VerilogLibrary.outline s.header.toList = [s.header] := by
  cases s with
  | operations k => cases k <;> decide
  | multiplexer => decide
  | registers => decide

theorem outline_sections {c : Catalog} {o : Options} (ss : List Section)
    (h : ∀ s : Section, ∀ m ∈ s.decls c o, m.IsFramed) :
    outline (ss.flatMap fun s =>
      s.header.toList ++ '\n' :: (s.decls c o).flatMap fun m => m.text.toList) =
      ss.flatMap (Section.outline c o) := by
  induction ss with
  | nil => exact outline_nil
  | cons s ss ih =>
      rw [List.flatMap_cons, List.append_assoc, List.cons_append, outline_append_newline,
        outline_flatMap_text (h s), ih, s.outline_header]
      rfl

theorem Section.isFramed_decls {c : Catalog} {o : Options}
    (hname : ∀ op ∈ c.operations, Text.isIdentifier op.moduleName = true)
    (hexpr : ∀ op ∈ c.operations, '\n' ∉ op.expr.toList) (s : Section) :
    ∀ m ∈ s.decls c o, m.IsFramed := by
  intro m hm
  cases s with
  | operations k =>
      obtain ⟨op, hop, rfl⟩ := List.mem_map.mp hm
      have hmem : op ∈ c.operations := (List.mem_filter.mp hop).1
      exact Operation.isFramed_decl o (hname op hmem) (hexpr op hmem)
  | multiplexer =>
      rw [List.mem_singleton.mp hm]
      exact isFramed_multiplexer o
  | registers =>
      obtain ⟨r, -, rfl⟩ := List.mem_map.mp hm
      exact r.isFramed_decl o

theorem outline_of_renderLibrary {c : Catalog} {o : Options} {t : String}
    (hexpr : ∀ op ∈ c.operations, '\n' ∉ op.expr.toList) (ht : renderLibrary c o = .ok t) :
    outline t.toList = Section.all.flatMap (Section.outline c o) := by
  obtain ⟨hname, rfl⟩ := renderLibrary_eq_ok_iff.mp ht
  rw [toList_libraryText, outline_sections _ (Section.isFramed_decls hname hexpr)]

/-! ## Kinds of lines -/

theorem opensModule_closingLine : opensModule closingLine = false := by decide

theorem isComment_closingLine : isComment closingLine = false := by decide

theorem closingLine_ne {line : String} (h : isComment line = true) : closingLine ≠ line := by
  rintro rfl
  rw [isComment_closingLine] at h
  cases h

theorem isComment_eq_false {line : String} (h : opensModule line = true) :
    isComment line = false := by
  rw [opensModule, List.isPrefixOf_iff_prefix] at h
  obtain ⟨rest, hrest⟩ := h
  rw [isComment, ← hrest]
  rfl

theorem Section.isComment_header (s : Section) : isComment s.header = true := by
  cases s with
  | operations k => cases k <;> decide
  | multiplexer => decide
  | registers => decide

theorem opensModule_eq_false {line : String} (h : isComment line = true) :
    opensModule line = false := by
  cases hopens : opensModule line with
  | false => rfl
  | true => rw [isComment_eq_false hopens] at h; cases h

/-! ## Brackets -/

/-- Comments, and modules that are closed right after they open. -/
inductive Bracketed : List String → Prop
  | nil : Bracketed []
  | comment {line : String} {lines : List String} :
      isComment line = true → Bracketed lines → Bracketed (line :: lines)
  | decl {line : String} {lines : List String} :
      opensModule line = true → Bracketed lines → Bracketed (line :: closingLine :: lines)

theorem Bracketed.append {lines more : List String} (h : Bracketed lines) (hmore : Bracketed more) :
    Bracketed (lines ++ more) := by
  induction h with
  | nil => exact hmore
  | comment hline _ ih => exact .comment hline ih
  | decl hline _ ih => exact .decl hline ih

theorem Bracketed.flatMap {α : Type} {f : α → List String} (h : ∀ a, Bracketed (f a))
    (xs : List α) : Bracketed (xs.flatMap f) := by
  induction xs with
  | nil => exact .nil
  | cons x xs ih => exact (h x).append ih

theorem Section.bracketed_outline (c : Catalog) (o : Options) (s : Section) :
    Bracketed (s.outline c o) :=
  .comment s.isComment_header (.flatMap (fun m => .decl m.opensModule_headline .nil) _)

/-- Where no module opens, none is closed. -/
theorem Bracketed.closingLine_notMem {lines front back : List String} (h : Bracketed lines)
    (heq : lines = front ++ back) (hfront : ∀ line ∈ front, opensModule line = false) :
    closingLine ∉ front := by
  induction h generalizing front with
  | nil =>
      rw [(List.append_eq_nil_iff.mp heq.symm).1]
      exact List.not_mem_nil
  | comment hline _ ih =>
      cases front with
      | nil => exact List.not_mem_nil
      | cons line front =>
          obtain ⟨rfl, htail⟩ := List.cons.inj heq
          exact List.not_mem_cons_of_ne_of_not_mem (closingLine_ne hline)
            (ih htail (List.forall_mem_cons.mp hfront).2)
  | decl hline _ ih =>
      cases front with
      | nil => exact List.not_mem_nil
      | cons line front =>
          obtain ⟨rfl, -⟩ := List.cons.inj heq
          rw [hfront _ List.mem_cons_self] at hline
          cases hline

/-- What follows a line that opens a module: the one that closes it, and again
a bracketed sequence. -/
theorem Bracketed.of_opensModule {lines front back : List String} {line : String}
    (h : Bracketed lines) (heq : lines = front ++ line :: back) (hline : opensModule line = true) :
    ∃ rest, back = closingLine :: rest ∧ Bracketed rest := by
  induction h generalizing front with
  | nil => exact absurd heq.symm (List.append_ne_nil_of_right_ne_nil _ (List.cons_ne_nil _ _))
  | comment hcomment _ ih =>
      cases front with
      | nil =>
          obtain ⟨rfl, -⟩ := List.cons.inj heq
          rw [opensModule_eq_false hcomment] at hline
          cases hline
      | cons _ front => exact ih (List.tail_eq_of_cons_eq heq)
  | decl _ hrest ih =>
      cases front with
      | nil => exact ⟨_, (List.tail_eq_of_cons_eq heq).symm, hrest⟩
      | cons _ front =>
          cases front with
          | nil =>
              obtain ⟨rfl, -⟩ := List.cons.inj (List.tail_eq_of_cons_eq heq)
              rw [opensModule_closingLine] at hline
              cases hline
          | cons _ front =>
              exact ih (List.tail_eq_of_cons_eq (List.tail_eq_of_cons_eq heq))

theorem Bracketed.count_closingLine {front between after : List String} {line : String}
    (h : Bracketed (front ++ line :: (between ++ after))) (hline : opensModule line = true)
    (hbetween : ∀ l ∈ between, opensModule l = false)
    (hafter : ∀ next ∈ after.head?, opensModule next = true) :
    between.count closingLine = 1 := by
  obtain ⟨rest, heq, hrest⟩ := h.of_opensModule rfl hline
  cases between with
  | nil =>
      rw [List.nil_append] at heq
      have hopens := hafter closingLine (by rw [heq]; rfl)
      rw [opensModule_closingLine] at hopens
      cases hopens
  | cons l between =>
      obtain ⟨rfl, htail⟩ := List.cons.inj heq
      have hnot := hrest.closingLine_notMem htail.symm (List.forall_mem_cons.mp hbetween).2
      rw [List.count_cons_self, List.count_eq_zero.mpr hnot]

/-! ## Sections -/

theorem filter_opensModule_ends (ms : List ModuleDecl) :
    (ms.flatMap ModuleDecl.ends).filter opensModule =
      ms.map ModuleDecl.headline := by
  have hends : ∀ m : ModuleDecl, m.ends.filter opensModule = [m.headline] := by
    intro m
    rw [ModuleDecl.ends, List.filter_cons_of_pos m.opensModule_headline, List.filter_singleton,
      opensModule_closingLine]
    rfl
  rw [List.filter_flatMap, List.map_eq_flatMap]
  simp only [hends]

theorem filter_isComment_ends (ms : List ModuleDecl) :
    (ms.flatMap ModuleDecl.ends).filter isComment = [] := by
  have hends : ∀ m : ModuleDecl, m.ends.filter isComment = [] := by
    intro m
    have hheadline := ne_true_of_eq_false (isComment_eq_false m.opensModule_headline)
    rw [ModuleDecl.ends, List.filter_cons_of_neg hheadline, List.filter_singleton,
      isComment_closingLine]
    rfl
  rw [List.filter_flatMap, List.flatMap_eq_nil_iff]
  exact fun m _ => hends m

namespace Section

variable (c : Catalog) (o : Options)

theorem filter_opensModule_outlines (ss : List Section) :
    (ss.flatMap (Section.outline c o)).filter opensModule =
      ss.flatMap fun s => (s.decls c o).map ModuleDecl.headline := by
  have hsection : ∀ s : Section, (s.outline c o).filter opensModule =
      (s.decls c o).map ModuleDecl.headline := by
    intro s
    rw [outline, List.filter_cons_of_neg
      (ne_true_of_eq_false (opensModule_eq_false s.isComment_header)), filter_opensModule_ends]
  rw [List.filter_flatMap]
  simp only [hsection]

theorem filter_isComment_outlines (ss : List Section) :
    (ss.flatMap (Section.outline c o)).filter isComment = ss.map Section.header := by
  have hsection : ∀ s : Section, (s.outline c o).filter isComment = [s.header] := by
    intro s
    rw [outline, List.filter_cons_of_pos s.isComment_header, filter_isComment_ends]
  rw [List.filter_flatMap, List.map_eq_flatMap]
  simp only [hsection]

end Section

/-- An item of a concatenation, at its place in one of the lists. -/
theorem exists_of_flatMap_eq_append_cons {α β : Type} {f : α → List β} {xs : List α}
    {front back : List β} {y : β} (h : xs.flatMap f = front ++ y :: back) :
    ∃ before x after left right, xs = before ++ x :: after ∧ f x = left ++ y :: right ∧
      front = before.flatMap f ++ left ∧ back = right ++ after.flatMap f := by
  induction xs generalizing front with
  | nil => exact absurd h.symm (List.append_ne_nil_of_right_ne_nil _ (List.cons_ne_nil _ _))
  | cons x xs ih =>
      have hlater : ∀ {front' : List β}, front = f x ++ front' →
          xs.flatMap f = front' ++ y :: back →
          ∃ before x' after left right, x :: xs = before ++ x' :: after ∧
            f x' = left ++ y :: right ∧ front = before.flatMap f ++ left ∧
            back = right ++ after.flatMap f := by
        intro front' hfront hrest
        obtain ⟨before, x', after, left, right, rfl, hx', rfl, hback⟩ := ih hrest
        refine ⟨x :: before, x', after, left, right, rfl, hx', ?_, hback⟩
        rw [hfront, List.flatMap_cons, List.append_assoc]
      rw [List.flatMap_cons] at h
      rcases List.append_eq_append_iff.mp h with ⟨front', hfront, hrest⟩ | ⟨rest, hx, hback⟩
      · exact hlater hfront hrest
      · -- The item is in `f x`, unless `f x` ends just where the front does.
        cases rest with
        | nil =>
            have hfront : front = f x ++ [] := by rw [hx, List.append_nil, List.append_nil]
            exact hlater hfront hback.symm
        | cons z right =>
            obtain ⟨rfl, htail⟩ := List.cons.inj hback
            exact ⟨[], x, xs, front, right, rfl, hx, rfl, htail⟩

/-- A line that opens a module in the outline of some sections: which module of
which section it opens, and what of the outline stands before and behind it. -/
theorem exists_section_of_opensModule {c : Catalog} {o : Options} {ss : List Section}
    {front back : List String} {line : String}
    (h : ss.flatMap (Section.outline c o) = front ++ line :: back)
    (hline : opensModule line = true) :
    ∃ earlier s later ms m ms', ss = earlier ++ s :: later ∧
      Section.decls c o s = ms ++ m :: ms' ∧ line = m.headline ∧
      front = earlier.flatMap (Section.outline c o)
        ++ s.header :: ms.flatMap ModuleDecl.ends ∧
      back = closingLine :: ms'.flatMap ModuleDecl.ends
        ++ later.flatMap (Section.outline c o) := by
  obtain ⟨earlier, s, later, left, right, hss, hs, rfl, rfl⟩ := exists_of_flatMap_eq_append_cons h
  rw [Section.outline] at hs
  -- Neither a header nor a closing line opens a module, so it is the first line of one.
  cases left with
  | nil =>
      rw [← List.head_eq_of_cons_eq hs, opensModule_eq_false s.isComment_header] at hline
      cases hline
  | cons header left =>
      obtain ⟨rfl, htail⟩ := List.cons.inj hs
      obtain ⟨ms, m, ms', left', right', hdecls, hm, rfl, rfl⟩ :=
        exists_of_flatMap_eq_append_cons htail
      rcases left' with _ | ⟨first, left'⟩
      · obtain ⟨rfl, rfl⟩ := List.cons.inj hm
        refine ⟨earlier, s, later, ms, m, ms', hss, hdecls, rfl, ?_, rfl⟩
        rw [List.append_nil]
      · rcases left' with _ | ⟨second, left'⟩
        · obtain ⟨rfl, -⟩ := List.cons.inj (List.tail_eq_of_cons_eq hm)
          rw [opensModule_closingLine] at hline
          cases hline
        · have hnil := List.tail_eq_of_cons_eq (List.tail_eq_of_cons_eq hm)
          exact absurd hnil.symm
            (List.append_ne_nil_of_right_ne_nil _ (List.cons_ne_nil _ _))

theorem getElem?_plan {c : Catalog} {o : Options} {earlier later : List Section} {s : Section}
    {ms ms' : List ModuleDecl} {m : ModuleDecl} (hall : Section.all = earlier ++ s :: later)
    (hdecls : s.decls c o = ms ++ m :: ms') :
    (plan c o)[(earlier.flatMap (Section.decls c o)).length + ms.length]? = some (s, m) := by
  have hplan : plan c o =
      ((earlier.flatMap fun s => (s.decls c o).map fun m => (s, m)) ++ ms.map fun m => (s, m))
        ++ (s, m) :: ((ms'.map fun m => (s, m))
          ++ later.flatMap fun s => (s.decls c o).map fun m => (s, m)) := by
    rw [plan, hall, List.flatMap_append, List.flatMap_cons, hdecls, List.map_append, List.map_cons]
    simp only [List.append_assoc, List.cons_append]
  have hlength : (earlier.flatMap (Section.decls c o)).length + ms.length =
      ((earlier.flatMap fun s => (s.decls c o).map fun m => (s, m))
        ++ ms.map fun m => (s, m)).length := by
    simp only [List.length_append, List.length_flatMap, List.length_map]
  rw [hplan, hlength, List.getElem?_append_right (Nat.le_refl _), Nat.sub_self]
  rfl

/-! ## The lines of a library -/

theorem isOutlined_of_opensModule {line : String} (h : opensModule line = true) :
    isOutlined line = true := by
  rw [isOutlined, h, Bool.true_or, Bool.true_or]

theorem isOutlined_of_isComment {line : String} (h : isComment line = true) :
    isOutlined line = true := by
  rw [isOutlined, h, Bool.or_true]

theorem filter_filter_isOutlined {p : String → Bool}
    (h : ∀ line, p line = true → isOutlined line = true) (lines : List String) :
    (lines.filter isOutlined).filter p = lines.filter p := by
  rw [List.filter_filter]
  refine List.filter_congr fun line _ => ?_
  cases hp : p line with
  | true => rw [h line hp, Bool.and_true]
  | false => rw [Bool.false_and]

/-- Lines whose outline is that of a library. -/
def AreLinesOf (c : Catalog) (o : Options) (lines : List String) : Prop :=
  lines.filter isOutlined = Section.all.flatMap (Section.outline c o)

namespace AreLinesOf

variable {c : Catalog} {o : Options} {lines : List String}

theorem filter_opensModule (h : AreLinesOf c o lines) :
    lines.filter opensModule = (plan c o).map fun entry => entry.2.headline := by
  rw [← filter_filter_isOutlined fun _ => isOutlined_of_opensModule, h,
    Section.filter_opensModule_outlines, map_plan ModuleDecl.headline]

theorem filter_isComment (h : AreLinesOf c o lines) :
    lines.filter isComment = Section.all.map Section.header := by
  rw [← filter_filter_isOutlined fun _ => isOutlined_of_isComment, h,
    Section.filter_isComment_outlines]

theorem count_closingLine (h : AreLinesOf c o lines) {before between after : List String}
    {line : String} (heq : lines = before ++ line :: (between ++ after))
    (hline : opensModule line = true) (hbetween : ∀ l ∈ between, opensModule l = false)
    (hafter : ∀ next ∈ after.head?, opensModule next = true) :
    between.count closingLine = 1 := by
  have hbracketed : Bracketed (lines.filter isOutlined) := by
    rw [h]
    exact .flatMap (Section.bracketed_outline c o) _
  rw [heq, List.filter_append, List.filter_cons_of_pos (isOutlined_of_opensModule hline),
    List.filter_append] at hbracketed
  have hafter' : ∀ next ∈ (after.filter isOutlined).head?, opensModule next = true := by
    cases after with
    | nil => exact nofun
    | cons next after =>
        have hnext : opensModule next = true := hafter next rfl
        rw [List.filter_cons_of_pos (isOutlined_of_opensModule hnext)]
        intro l hl
        obtain rfl : next = l := Option.some.inj hl
        exact hnext
  have hclosing : isOutlined closingLine = true := by decide
  rw [← List.count_filter hclosing]
  exact hbracketed.count_closingLine hline (fun l hl => hbetween l (List.mem_filter.mp hl).1)
    hafter'

theorem exists_entry (h : AreLinesOf c o lines) {before after : List String} {line : String}
    (heq : lines = before ++ line :: after) (hline : opensModule line = true) :
    ∃ earlier s later m, Section.all = earlier ++ s :: later ∧
      (plan c o)[(before.filter opensModule).length]? = some (s, m) ∧ line = m.headline ∧
      before.filter isComment = (earlier ++ [s]).map Section.header ∧
      after.filter isComment = later.map Section.header := by
  have hsplit := h.symm
  rw [heq, List.filter_append, List.filter_cons_of_pos (isOutlined_of_opensModule hline)] at hsplit
  obtain ⟨earlier, s, later, ms, m, ms', hall, hdecls, hm, hbefore, hafter⟩ :=
    exists_section_of_opensModule hsplit hline
  refine ⟨earlier, s, later, m, hall, ?_, hm, ?_, ?_⟩
  · have hcount : (before.filter opensModule).length =
        (earlier.flatMap (Section.decls c o)).length + ms.length := by
      rw [← filter_filter_isOutlined fun _ => isOutlined_of_opensModule, hbefore,
        List.filter_append, Section.filter_opensModule_outlines,
        List.filter_cons_of_neg (ne_true_of_eq_false (opensModule_eq_false s.isComment_header)),
        filter_opensModule_ends, ← List.map_flatMap, List.length_append, List.length_map,
        List.length_map]
    rw [hcount]
    exact getElem?_plan hall hdecls
  · rw [← filter_filter_isOutlined fun _ => isOutlined_of_isComment, hbefore, List.filter_append,
      Section.filter_isComment_outlines, List.filter_cons_of_pos s.isComment_header,
      filter_isComment_ends, List.map_append]
    rfl
  · rw [← filter_filter_isOutlined fun _ => isOutlined_of_isComment, hafter, List.filter_append,
      Section.filter_isComment_outlines,
      List.filter_cons_of_neg (ne_true_of_eq_false isComment_closingLine), filter_isComment_ends]
    rfl

end AreLinesOf

theorem areLinesOf_linesOf {c : Catalog} {o : Options} {t : String}
    (hexpr : ∀ op ∈ c.operations, '\n' ∉ op.expr.toList) (ht : renderLibrary c o = .ok t) :
    AreLinesOf c o (linesOf t) :=
  outline_of_renderLibrary hexpr ht

theorem moduleToken_of_mem_plan {c : Catalog} {o : Options} {t : String}
    (ht : renderLibrary c o = .ok t) {entry : Section × ModuleDecl} (h : entry ∈ plan c o) :
    moduleToken entry.2.headline = entry.2.name :=
  ModuleDecl.moduleToken_headline (isLegal_of_mem_plan ht h)

/-- The text of a library, line by line. The lines that open a module name the
modules of the report in order. From each of them to the next one, or to the
end, exactly one line closes a module. The comments are the headers of the
sections, and a line that opens the module of an entry of the plan stands behind
the header of its section and in front of all later ones. -/
theorem lines_of_writeLibrary {c : Catalog} {o : Options} {sink sink' : Sink} {summary : Summary}
    (hexpr : ∀ op ∈ c.operations, '\n' ∉ op.expr.toList)
    (hwrite : writeLibrary c o sink = (sink', .ok summary)) :
    ∃ t, sink'.received = sink.received ++ Text.utf8 t ∧
      ((linesOf t).filter opensModule).map moduleToken = summary.modules ∧
      (∀ before line between after, linesOf t = before ++ line :: (between ++ after) →
        opensModule line = true → (∀ l ∈ between, opensModule l = false) →
        (∀ next ∈ after.head?, opensModule next = true) → between.count closingLine = 1) ∧
      (linesOf t).filter isComment = Section.all.map Section.header ∧
      ∀ before line after, linesOf t = before ++ line :: after → opensModule line = true →
        ∃ earlier s later m, Section.all = earlier ++ s :: later ∧
          (plan c o)[(before.filter opensModule).length]? = some (s, m) ∧
          moduleToken line = m.name ∧
          before.filter isComment = (earlier ++ [s]).map Section.header ∧
          after.filter isComment = later.map Section.header := by
  obtain ⟨t, ht, hreceived, hmodules⟩ := renderLibrary_of_writeLibrary hwrite
  have hlines := areLinesOf_linesOf hexpr ht
  refine ⟨t, hreceived, ?_, ?_, hlines.filter_isComment, ?_⟩
  · rw [hlines.filter_opensModule, hmodules, List.map_map]
    exact List.map_congr_left fun entry hentry => moduleToken_of_mem_plan ht hentry
  · intro before line between after heq hline hbetween hafter
    exact hlines.count_closingLine heq hline hbetween hafter
  · intro before line after heq hline
    obtain ⟨earlier, s, later, m, hall, hentry, rfl, hbefore, hbehind⟩ :=
      hlines.exists_entry heq hline
    have htoken := moduleToken_of_mem_plan ht (List.mem_of_getElem? hentry)
    exact ⟨earlier, s, later, m, hall, hentry, htoken, hbefore, hbehind⟩

/-- An expression that ends like a module, written five bytes at a time. -/
theorem lines_of_writeLibrary_nand :
    let c := Catalog.empty.run [.push ⟨.binary, "nand", "~(in0 & in1); //\rendmodule"⟩]
    let sink : Sink := { perCall? := some 5 }
    ∃ sink' summary t, writeLibrary c {} sink = (sink', .ok summary) ∧
      sink'.received = sink.received ++ Text.utf8 t ∧
      ((linesOf t).filter opensModule).map moduleToken = summary.modules ∧
      (linesOf t).filter isComment = Section.all.map Section.header := by
  intro c sink
  have hexpr : ∀ op ∈ c.operations, '\n' ∉ op.expr.toList := by decide +kernel
  have hfault : firstFault? c {} = none := by
    rw [firstFault?_eq]
    decide +kernel
  have hflush : sink.flushFailure? = none := rfl
  have hroom : sink.HasRoom (soundBytes c {}).length := fun _ hsome => by cases hsome
  have hwrite := writeLibrary_of_hasRoom (by decide) hroom
  simp only [hfault, hflush] at hwrite
  obtain ⟨t, hreceived, hmodules, -, hcomments, -⟩ := lines_of_writeLibrary hexpr hwrite
  exact ⟨_, _, t, hwrite, hreceived, hmodules, hcomments⟩

end VerilogLibrary
