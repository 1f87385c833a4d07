import Mathlib
import VerilogLibrary.Proofs.CatalogRuns
import VerilogLibrary.Proofs.LibraryText

/-!
# Why a library has no text, and where its text ends

`renderPieces` stops at the first piece with a fault. Said without the walk,
the text it gives is that of the pieces in front, and the error is the first
that a search over all pieces finds. Headers have no fault, so the search may
as well go over the plan.

Among the modules of a plan only those of operations can have a fault, and
only their names: everything else about them is fixed by their category. So
the fault of a library is found by looking at names alone, in the order of the
library, which is not the order in which the operations were added.
-/

namespace VerilogLibrary

/-- What a library reports of a module. -/
def ModuleDecl.libraryFault? (m : ModuleDecl) : Option LibraryError :=
  m.fault?.map (.faulty m.name)

/-- Why a piece cannot be rendered. -/
def Piece.fault? : Piece → Option LibraryError
  | .text _ => none
  | .decl m => m.libraryFault?

/-- The pieces in front of the first one that cannot be rendered. -/
def soundPieces (ps : List Piece) : List Piece :=
  ps.takeWhile (·.fault?.isNone)

/-- The first fault among the modules of a library, in the order of the library. -/
def firstFault? (c : Catalog) (o : Options) : Option LibraryError :=
  (plan c o).findSome? (·.2.libraryFault?)

/-- What a library reports of an operation by its name alone. -/
def Operation.nameFault? (op : Operation) : Option LibraryError :=
  if Text.isIdentifier op.moduleName = true then none
  else some (.faulty op.moduleName (.invalidName op.moduleName))

/-! ## Pieces -/

theorem Piece.render_of_fault {p : Piece} {e : LibraryError} (h : p.fault? = some e) :
    p.render = .error e := by
  cases p with
  | text s => cases h
  | decl m =>
      obtain ⟨fault, hfault, rfl⟩ := Option.map_eq_some_iff.mp h
      rw [render, ModuleDecl.render, hfault]

theorem Piece.render_of_no_fault {p : Piece} (h : p.fault? = none) : p.render = .ok p.content := by
  cases p with
  | text s => rfl
  | decl m =>
      have hfault : m.fault? = none := Option.map_eq_none_iff.mp h
      rw [render, ModuleDecl.render, hfault, content]

theorem soundPieces_cons_of_fault {p : Piece} {e : LibraryError} (rest : List Piece)
    (h : p.fault? = some e) : soundPieces (p :: rest) = [] := by
  rw [soundPieces, List.takeWhile_cons_of_neg (by rw [h]; exact Bool.false_ne_true)]

theorem soundPieces_cons_of_no_fault {p : Piece} (rest : List Piece) (h : p.fault? = none) :
    soundPieces (p :: rest) = p :: soundPieces rest := by
  rw [soundPieces, List.takeWhile_cons_of_pos (by rw [h]; rfl), soundPieces]

theorem renderPieces_eq (ps : List Piece) :
    renderPieces ps =
      (String.join ((soundPieces ps).map Piece.content), ps.findSome? Piece.fault?) := by
  induction ps with
  | nil => rfl
  | cons p rest ih =>
      rw [renderPieces]
      cases hp : p.fault? with
      | some e =>
          rw [Piece.render_of_fault hp, soundPieces_cons_of_fault rest hp,
            List.findSome?_cons_of_isSome (by rw [hp]; rfl), hp]
          rfl
      | none =>
          rw [Piece.render_of_no_fault hp, soundPieces_cons_of_no_fault rest hp, ih,
            List.findSome?_cons_of_isNone (by rw [hp]; rfl), List.map_cons, String.join_cons]

theorem findSome?_fault?_pieces (c : Catalog) (o : Options) :
    (pieces c o).findSome? Piece.fault? = firstFault? c o := by
  have hsection : ∀ s : Section, (s.pieces c o).filterMap Piece.fault? =
      (s.decls c o).filterMap ModuleDecl.libraryFault? := by
    intro s
    rw [Section.pieces, List.filterMap_cons_none rfl, List.filterMap_cons_none rfl,
      List.filterMap_map]
    rfl
  rw [firstFault?, ← List.head?_filterMap, ← List.head?_filterMap,
    filterMap_plan ModuleDecl.libraryFault?, pieces, List.filterMap_flatMap]
  simp only [hsection]

/-! ## Modules -/

theorem Operation.fault?_decl (op : Operation) (o : Options) :
    (op.decl o).fault? =
      if Text.isIdentifier op.moduleName = true then none
      else some (.invalidName op.moduleName) := by
  split
  · next hname => exact ModuleDecl.fault?_eq_none_iff.mpr (isLegal_decl_iff.mpr hname)
  · next hname =>
      have hdecl : (op.decl o).name = op.moduleName := by rw [op.decl_eq]
      rw [ModuleDecl.fault?, hdecl, if_pos (by simpa using hname)]

theorem Operation.libraryFault?_decl (op : Operation) (o : Options) :
    (op.decl o).libraryFault? = op.nameFault? := by
  have hdecl : (op.decl o).name = op.moduleName := by rw [op.decl_eq]
  rw [ModuleDecl.libraryFault?, op.fault?_decl, hdecl, nameFault?]
  split <;> rfl

theorem fault?_multiplexer (o : Options) : (multiplexer o).fault? = none :=
  ModuleDecl.fault?_eq_none_iff.mpr (isLegal_multiplexer o)

theorem Register.fault?_decl (r : Register) (o : Options) : (r.decl o).fault? = none :=
  ModuleDecl.fault?_eq_none_iff.mpr (r.isLegal_decl o)

/-! ## Libraries -/

theorem filterMap_libraryFault?_decls (c : Catalog) (o : Options) (s : Section) :
    (s.decls c o).filterMap ModuleDecl.libraryFault? =
      match s with
      | .operations k => (c.entries k).filterMap Operation.nameFault?
      | .multiplexer | .registers => [] := by
  cases s with
  | operations k =>
      rw [Section.decls, List.filterMap_map]
      exact List.filterMap_congr fun op _ => op.libraryFault?_decl o
  | multiplexer =>
      rw [Section.decls, List.filterMap_cons_none, List.filterMap_nil]
      rw [ModuleDecl.libraryFault?, fault?_multiplexer, Option.map_none]
  | registers =>
      rw [Section.decls, List.filterMap_map, List.filterMap_eq_nil_iff]
      intro r _
      rw [Function.comp_apply, ModuleDecl.libraryFault?, r.fault?_decl, Option.map_none]

/-- Of the modules of a library, only those of operations are at fault, and
only for their names. -/
theorem firstFault?_eq (c : Catalog) (o : Options) :
    firstFault? c o = c.inOrder.findSome? Operation.nameFault? := by
  rw [firstFault?, ← List.head?_filterMap, ← List.head?_filterMap,
    filterMap_plan ModuleDecl.libraryFault?, Catalog.inOrder, List.filterMap_flatMap, Section.all,
    List.flatMap_append, List.flatMap_map]
  simp only [filterMap_libraryFault?_decls, List.flatMap_cons, List.flatMap_nil, List.append_nil]

theorem renderLibrary_of_firstFault?_some {c : Catalog} {o : Options} {e : LibraryError}
    (h : firstFault? c o = some e) : renderLibrary c o = .error e := by
  rw [renderLibrary, renderPieces_eq, findSome?_fault?_pieces, h]

theorem renderLibrary_of_firstFault?_none {c : Catalog} {o : Options}
    (h : firstFault? c o = none) : ∃ t, renderLibrary c o = .ok t := by
  rw [renderLibrary, renderPieces_eq, findSome?_fault?_pieces, h]
  exact ⟨_, rfl⟩

theorem Operation.nameFault?_eq_none_iff {op : Operation} :
    op.nameFault? = none ↔ Text.isIdentifier op.moduleName = true := by
  rw [nameFault?]
  split
  · next hname => exact iff_of_true rfl hname
  · next hname => exact iff_of_false nofun hname

theorem Operation.nameFault?_eq_some_iff {op : Operation} {e : LibraryError} :
    op.nameFault? = some e ↔
      Text.isIdentifier op.moduleName = false ∧
        e = .faulty op.moduleName (.invalidName op.moduleName) := by
  rw [nameFault?]
  split
  · next hname => simp [hname]
  · next hname =>
      rw [Option.some_inj, eq_comm, and_iff_right (Bool.eq_false_of_not_eq_true hname)]

theorem renderLibrary_eq_error_iff {c : Catalog} {o : Options} {e : LibraryError} :
    renderLibrary c o = .error e ↔ firstFault? c o = some e := by
  cases h : firstFault? c o with
  | some e' => rw [renderLibrary_of_firstFault?_some h, Except.error.injEq, Option.some_inj]
  | none =>
      obtain ⟨t, ht⟩ := renderLibrary_of_firstFault?_none h
      rw [ht]
      exact iff_of_false nofun nofun

/-- A library has a text unless an operation names its module by something that
is not an identifier. It then reports the first such name, in the order of the
library. No generator makes a module with any other fault, whatever expression
and options it is given. -/
theorem rejected_only_for_name (c : Catalog) (o : Options) :
    ((∃ t, renderLibrary c o = .ok t) ↔
      ∀ op ∈ c.operations, Text.isIdentifier op.moduleName = true) ∧
    (∀ e, renderLibrary c o = .error e ↔
      ∃ before op after, c.inOrder = before ++ op :: after ∧
        (∀ other ∈ before, Text.isIdentifier other.moduleName = true) ∧
        Text.isIdentifier op.moduleName = false ∧
        e = .faulty op.moduleName (.invalidName op.moduleName)) ∧
    (∀ op : Operation, (op.decl o).fault? =
      if Text.isIdentifier op.moduleName = true then none
      else some (.invalidName op.moduleName)) ∧
    (multiplexer o).fault? = none ∧ ∀ r : Register, (r.decl o).fault? = none := by
  refine ⟨?_, fun e => ?_, fun op => op.fault?_decl o, fault?_multiplexer o,
    fun r => r.fault?_decl o⟩
  · simp only [renderLibrary_eq_ok_iff, exists_and_left, exists_eq, and_true]
  · rw [renderLibrary_eq_error_iff, firstFault?_eq, List.findSome?_eq_some_iff]
    simp only [Operation.nameFault?_eq_none_iff, Operation.nameFault?_eq_some_iff]
    constructor
    · rintro ⟨before, op, after, horder, ⟨hname, he⟩, hbefore⟩
      exact ⟨before, op, after, horder, hbefore, hname, he⟩
    · rintro ⟨before, op, after, horder, hbefore, hname, he⟩
      exact ⟨before, op, after, horder, ⟨hname, he⟩, hbefore⟩

/-- Of two faulty names, the one that was added later stands in front. -/
theorem rejected_only_for_name_unary :
    let c := Catalog.standard.run
      [.push ⟨.binaryReduce, "9lives", "in0"⟩, .push ⟨.unary, "ßharp!", ""⟩]
    renderLibrary c { width := 0 } = .error (.faulty "SSharp!" (.invalidName "SSharp!")) := by
  intro c
  exact ((rejected_only_for_name c { width := 0 }).2.1 _).mpr
    ⟨c.inOrder.take 2, ⟨.unary, "ßharp!", ""⟩, c.inOrder.drop 3, by decide +kernel,
      by decide +kernel, by decide +kernel, by decide +kernel⟩

end VerilogLibrary
