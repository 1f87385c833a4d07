import VerilogLibrary.Artifact
import VerilogLibrary.Proofs.GeneratedModules

/-!
# When a library has a text, and which one

Rendering a library goes through its pieces and gives up at the first module
with a fault. The only fault that a module of a library can have is its name,
and only the modules of operations can have it, so a library has a text just
when the modules of its operations are named by identifiers. The text is then
the contents of all pieces, one behind the other.
-/

namespace VerilogLibrary

/-- The text of a piece, faulty or not. -/
def Piece.content : Piece → String
  | .text s => s
  | .decl m => m.text

/-- Whether a piece can be rendered. -/
def Piece.IsLegal : Piece → Prop
  | .text _ => True
  | .decl m => m.IsLegal

/-- The text of a library if no module is faulty. -/
def libraryText (c : Catalog) (o : Options) : String :=
  String.join ((pieces c o).map Piece.content)

theorem Piece.render_of_isLegal {p : Piece} (h : p.IsLegal) : p.render = .ok p.content := by
  cases p with
  | text s => rfl
  | decl m => rw [render, ModuleDecl.render_of_isLegal h, content]

theorem Piece.isLegal_of_render {p : Piece} {s : String} (h : p.render = .ok s) :
    p.IsLegal := by
  cases p with
  | text _ => trivial
  | decl m =>
      rw [render, ModuleDecl.render] at h
      cases hfault : m.fault? with
      | none => exact ModuleDecl.fault?_eq_none_iff.mp hfault
      | some fault => rw [hfault] at h; cases h

theorem renderPieces_eq_none_iff {ps : List Piece} {t : String} :
    renderPieces ps = (t, none) ↔
      (∀ p ∈ ps, p.IsLegal) ∧ t = String.join (ps.map Piece.content) := by
  induction ps generalizing t with
  | nil =>
      rw [renderPieces, Prod.mk.injEq]
      exact ⟨fun h => ⟨fun _ hp => absurd hp List.not_mem_nil, h.1.symm⟩, fun h => ⟨h.2.symm, rfl⟩⟩
  | cons p rest ih =>
      rw [renderPieces, List.map_cons, String.join_cons]
      cases hp : p.render with
      | error e =>
          refine ⟨nofun, fun ⟨hlegal, _⟩ => ?_⟩
          rw [Piece.render_of_isLegal (hlegal p List.mem_cons_self)] at hp
          cases hp
      | ok s =>
          have hlegal := Piece.isLegal_of_render hp
          rw [Piece.render_of_isLegal hlegal] at hp
          cases hp
          constructor
          · intro h
            obtain ⟨htext, hnone⟩ := Prod.mk.inj h
            obtain ⟨hrest, heq⟩ := ih.mp (Prod.ext rfl hnone)
            refine ⟨List.forall_mem_cons.mpr ⟨hlegal, hrest⟩, ?_⟩
            rw [← heq, htext]
          · rintro ⟨hall, rfl⟩
            rw [ih.mpr ⟨(List.forall_mem_cons.mp hall).2, rfl⟩]

/-! ## The pieces of a library -/

theorem mem_pieces {c : Catalog} {o : Options} {p : Piece} :
    p ∈ pieces c o ↔ ∃ s : Section, p ∈ s.pieces c o := by
  rw [pieces, List.mem_flatMap]
  constructor
  · rintro ⟨s, _, hp⟩
    exact ⟨s, hp⟩
  · rintro ⟨s, hp⟩
    refine ⟨s, ?_, hp⟩
    cases s with
    | operations k =>
        exact List.mem_append_left _ (List.mem_map_of_mem k.mem_all)
    | multiplexer | registers => exact List.mem_append_right _ (by decide)

theorem Section.flatMap_content_pieces (s : Section) (c : Catalog) (o : Options) :
    (s.pieces c o).flatMap (fun p => p.content.toList) =
      s.header.toList ++ '\n' :: (s.decls c o).flatMap fun m => m.text.toList := by
  rw [pieces, List.flatMap_cons, List.flatMap_cons, List.flatMap_map]
  rfl

theorem toList_libraryText (c : Catalog) (o : Options) :
    (libraryText c o).toList = Section.all.flatMap fun s =>
      s.header.toList ++ '\n' :: (s.decls c o).flatMap fun m => m.text.toList := by
  rw [libraryText, String.toList_join, List.flatMap_map, pieces, List.flatMap_assoc]
  exact congrArg Section.all.flatMap (funext fun s => s.flatMap_content_pieces c o)

theorem isLegal_pieces_iff {c : Catalog} {o : Options} :
    (∀ p ∈ pieces c o, p.IsLegal) ↔
      ∀ op ∈ c.operations, Text.isIdentifier op.moduleName = true := by
  constructor
  · intro h op hop
    have hentry : op ∈ c.entries op.category :=
      List.mem_filter.mpr ⟨hop, beq_self_eq_true op.category⟩
    have hpiece : Piece.decl (op.decl o) ∈ (Section.operations op.category).pieces c o :=
      List.mem_cons_of_mem _ (List.mem_cons_of_mem _
        (List.mem_map_of_mem (List.mem_map_of_mem hentry)))
    exact Operation.isLegal_decl_iff.mp (h _ (mem_pieces.mpr ⟨_, hpiece⟩))
  · intro h p hp
    obtain ⟨s, hs⟩ := mem_pieces.mp hp
    rcases List.mem_cons.mp hs with rfl | hs
    · trivial
    rcases List.mem_cons.mp hs with rfl | hs
    · trivial
    obtain ⟨m, hm, rfl⟩ := List.mem_map.mp hs
    cases s with
    | operations k =>
        obtain ⟨op, hop, rfl⟩ := List.mem_map.mp hm
        exact Operation.isLegal_decl_iff.mpr (h op (List.mem_filter.mp hop).1)
    | multiplexer =>
        rw [List.mem_singleton.mp hm]
        exact isLegal_multiplexer o
    | registers =>
        obtain ⟨r, _, rfl⟩ := List.mem_map.mp hm
        exact r.isLegal_decl o

/-- A library has a text exactly when its operations name their modules by
identifiers. -/
theorem renderLibrary_eq_ok_iff {c : Catalog} {o : Options} {t : String} :
    renderLibrary c o = .ok t ↔
      (∀ op ∈ c.operations, Text.isIdentifier op.moduleName = true) ∧ t = libraryText c o := by
  rw [← isLegal_pieces_iff (o := o), libraryText, ← renderPieces_eq_none_iff, renderLibrary]
  split
  · next text heq => rw [heq, Except.ok.injEq, Prod.mk.injEq, and_iff_left rfl]
  · next text e heq => rw [heq]; exact ⟨nofun, nofun⟩

/-- Where a library has a text, no module of its plan is faulty. -/
theorem isLegal_of_mem_plan {c : Catalog} {o : Options} {t : String}
    (ht : renderLibrary c o = .ok t) {entry : Section × ModuleDecl} (h : entry ∈ plan c o) :
    entry.2.IsLegal := by
  obtain ⟨s, -, hs⟩ := List.mem_flatMap.mp h
  obtain ⟨m, hm, rfl⟩ := List.mem_map.mp hs
  have hlegal := (isLegal_pieces_iff (o := o)).mpr (renderLibrary_eq_ok_iff.mp ht).1
  exact hlegal (.decl m) (mem_pieces.mpr ⟨s,
    List.mem_cons_of_mem _ (List.mem_cons_of_mem _ (List.mem_map_of_mem hm))⟩)

end VerilogLibrary
