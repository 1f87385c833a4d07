import VerilogLibrary.Listing
import VerilogLibrary.Proofs.ModuleNames
import VerilogLibrary.Proofs.Outline
import VerilogLibrary.Proofs.StreamedLibrary

/-!
# What is listed is what is written

Three walks visit the modules of a library: the order of a catalog goes
through the categories, the plan through the sections, and the writer through
the pieces. They agree because the sections of the operations are the
categories in their order. The order of a catalog is said here without the
walk: it rearranges the operations, so that no category comes before an
earlier one, and leaves the operations of one category as they were.

A listing has a line for each entry of the plan. It can be read back, for
neither the label of a section nor the name of a module has a blank in it;
the blanks between the two are all there are, however many fill up the label.
-/

namespace VerilogLibrary

/-! ## The order of a catalog -/

/-- The place of a category in the order of the library. -/
def Category.rank (k : Category) : Nat :=
  Category.all.idxOf k

theorem Category.pairwise_rank_all : Category.all.Pairwise fun j k => j.rank ≤ k.rank := by
  decide

namespace Catalog

theorem category_of_mem_entries {c : Catalog} {k : Category} {op : Operation}
    (h : op ∈ c.entries k) : op.category = k := by
  simpa using (List.mem_filter.mp h).2

theorem pairwise_rank_inOrder (c : Catalog) :
    c.inOrder.Pairwise fun a b => a.category.rank ≤ b.category.rank := by
  rw [inOrder, List.pairwise_flatMap]
  refine ⟨fun k _ => ?_, Category.pairwise_rank_all.imp fun hle a ha b hb => ?_⟩
  · refine List.pairwise_of_forall_mem_list fun a ha b hb => ?_
    rw [category_of_mem_entries ha, category_of_mem_entries hb]
  · rwa [category_of_mem_entries ha, category_of_mem_entries hb]

theorem filter_entries (c : Catalog) (j k : Category) :
    (c.entries j).filter (·.category == k) = if j = k then c.entries k else [] := by
  split
  · next heq =>
      rw [heq, List.filter_eq_self]
      exact fun op hop => beq_iff_eq.mpr (category_of_mem_entries hop)
  · next hne =>
      rw [List.filter_eq_nil_iff]
      intro op hop heq
      exact hne ((category_of_mem_entries hop).symm.trans (beq_iff_eq.mp heq))

theorem filter_inOrder (c : Catalog) (k : Category) :
    c.inOrder.filter (·.category == k) = c.entries k := by
  rw [inOrder, List.filter_flatMap]
  simp only [filter_entries]
  cases k <;> simp [Category.all]

end Catalog

theorem Register.pairwise_index_variants : (variants.map index).Pairwise (· < ·) := by
  decide

/-! ## The lines of a listing -/

/-- The texts of a line between its blanks. -/
def columns (line : String) : List String :=
  ((line.toList.splitOn ' ').filter (!·.isEmpty)).map String.ofList

/-- The line of an entry without the line break. -/
def entryLine (entry : Section × ModuleDecl) : String :=
  entry.1.paddedLabel ++ " " ++ entry.2.name

theorem columns_append_blank (a b : String) : columns (a ++ " " ++ b) = columns a ++ columns b := by
  have hchars : (a ++ " " ++ b).toList = a.toList ++ ' ' :: b.toList := by
    rw [String.toList_append, String.toList_append, List.append_assoc]
    rfl
  rw [columns, hchars, List.splitOn_append_cons_self, List.filter_append, List.map_append]
  rfl

theorem columns_of_word {s : String} (hblank : ' ' ∉ s.toList) (hne : s.toList ≠ []) :
    columns s = [s] := by
  have hkept : (!s.toList.isEmpty) = true := by simpa using hne
  rw [columns, List.splitOn_eq_singleton hblank, List.filter_singleton, hkept]
  exact congrArg (fun s => [s]) String.ofList_toList

theorem Section.columns_paddedLabel (s : Section) : columns s.paddedLabel = [s.label] := by
  cases s with
  | operations k => cases k <;> decide
  | multiplexer => decide
  | registers => decide

theorem columns_entryLine {entry : Section × ModuleDecl} (h : entry.2.IsLegal) :
    columns (entryLine entry) = [entry.1.label, entry.2.name] := by
  have hname : columns entry.2.name = [entry.2.name] := by
    refine columns_of_word (notMem_of_isIdentifier h.name (by decide)) fun hnil => ?_
    have hidentifier := h.name
    rw [Text.isIdentifier, hnil] at hidentifier
    cases hidentifier
  rw [entryLine, columns_append_blank, Section.columns_paddedLabel, hname]
  rfl

theorem newline_notMem_entryLine {entry : Section × ModuleDecl} (h : entry.2.IsLegal) :
    '\n' ∉ (entryLine entry).toList := by
  have hlabel : ∀ s : Section, '\n' ∉ s.paddedLabel.toList := by
    intro s
    cases s with
    | operations k => cases k <;> decide
    | multiplexer => decide
    | registers => decide
  have hname := notMem_of_isIdentifier h.name (c := '\n') (by decide)
  rw [entryLine]
  simp only [String.toList_append, List.mem_append, not_or]
  exact ⟨⟨hlabel entry.1, by decide⟩, hname⟩

theorem linesOf_listing {entries : List (Section × ModuleDecl)}
    (h : ∀ entry ∈ entries, entry.2.IsLegal) :
    linesOf (listing entries .text) = entries.map entryLine ++ [""] := by
  induction entries with
  | nil => decide
  | cons entry rest ih =>
      obtain ⟨hentry, hrest⟩ := List.forall_mem_cons.mp h
      have hchars : (listing (entry :: rest) .text).toList =
          (entryLine entry).toList ++ '\n' :: (listing rest .text).toList := by
        rw [listing, List.map_cons, String.join_cons, String.toList_append, listing]
        have hline : listingLine entry = entryLine entry ++ "\n" := rfl
        rw [hline, String.toList_append, List.append_assoc]
        rfl
      rw [linesOf, hchars, List.splitOn_append_cons_self,
        List.splitOn_eq_singleton (newline_notMem_entryLine hentry), List.map_append,
        List.map_singleton, String.ofList_toList, List.singleton_append, List.map_cons,
        List.cons_append]
      exact congrArg _ (ih hrest)

/-! ## The agreement -/

/-- The order of a catalog has each operation once, by category, and within a
category as it was added. The names in a plan are those of the operations in
this order, then the multiplexer, then the registers by ascending index. A
library that is written reports just these names; and then the listing of its
plan has one line for each entry, which shows the label of the section and
the name of the module. -/
theorem listing_agrees (c : Catalog) (o : Options) :
    (c.inOrder.Perm c.operations ∧
      (c.inOrder.Pairwise fun a b => a.category.rank ≤ b.category.rank) ∧
      ∀ k, c.inOrder.filter (·.category == k) = c.operations.filter (·.category == k)) ∧
    (plan c o).map (·.2.name) =
      c.inOrder.map Operation.moduleName
        ++ multiplexerName :: Register.variants.map Register.moduleName ∧
    ((∀ r : Register, r ∈ Register.variants ↔ r.isAdmitted = true) ∧
      Register.variants.length = 12 ∧ (Register.variants.map Register.index).Pairwise (· < ·)) ∧
    ∀ sink sink' summary, writeLibrary c o sink = (sink', .ok summary) →
      summary.modules =
        c.inOrder.map Operation.moduleName
          ++ multiplexerName :: Register.variants.map Register.moduleName ∧
      ∃ lines, linesOf (listing (plan c o) .text) = lines ++ [""] ∧
        lines.map columns = (plan c o).map fun entry => [entry.1.label, entry.2.name] := by
  refine ⟨⟨c.inOrder_perm, c.pairwise_rank_inOrder, c.filter_inOrder⟩, map_name_plan c o,
    ⟨Register.mem_variants_iff, by decide, Register.pairwise_index_variants⟩, ?_⟩
  intro sink sink' summary hwrite
  obtain ⟨t, ht, -, hmodules⟩ := renderLibrary_of_writeLibrary hwrite
  have hlegal : ∀ entry ∈ plan c o, entry.2.IsLegal := fun entry => isLegal_of_mem_plan ht
  refine ⟨hmodules.trans (map_name_plan c o), _, linesOf_listing hlegal, ?_⟩
  rw [List.map_map]
  exact List.map_congr_left fun entry hentry => columns_entryLine (hlegal entry hentry)

/-- An operation of the last category is added first, and has a name that
changes its length when it is capitalized. -/
theorem listing_agrees_square :
    let c := Catalog.empty.run
      [.push ⟨.binaryReduce, "ßquare", "in0 * in0 == in1"⟩, .push ⟨.unary, "inc", "in + 1"⟩]
    ∃ sink' summary lines, writeLibrary c {} .unlimited = (sink', .ok summary) ∧
      summary.modules =
        ["Inc", "SSquare"] ++ multiplexerName :: Register.variants.map Register.moduleName ∧
      linesOf (listing (plan c {}) .text) = lines ++ [""] ∧
      lines.map columns = (plan c {}).map fun entry => [entry.1.label, entry.2.name] := by
  intro c
  have hfault : firstFault? c {} = none := by
    rw [firstFault?_eq]
    decide +kernel
  have hflush : Sink.unlimited.flushFailure? = none := rfl
  have hroom : Sink.unlimited.HasRoom (soundBytes c {}).length := fun _ hsome => by cases hsome
  have hwrite := writeLibrary_of_hasRoom (by decide) hroom
  simp only [hfault, hflush] at hwrite
  obtain ⟨hmodules, lines, hlines, hcolumns⟩ := (listing_agrees c {}).2.2.2 _ _ _ hwrite
  have hnames : c.inOrder.map Operation.moduleName = ["Inc", "SSquare"] := by decide +kernel
  rw [hnames] at hmodules
  exact ⟨_, _, lines, hwrite, hmodules, hlines, hcolumns⟩

end VerilogLibrary
