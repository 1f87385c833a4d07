import VerilogLibrary.Proofs.Capitalize
import VerilogLibrary.Proofs.CatalogRuns
import VerilogLibrary.Proofs.GeneratedModules

/-!
# No module is defined twice

The names of a library's modules come from three places. Those of the
operations are distinct and none is the multiplexer's; that is the invariant
of catalogs. Those of the registers are twelve known texts. What the catalog
does not check is that an operation might be named like a register, and it
need not: the name of a register has a capital behind `Reg_`, where a
capitalized name has none, from whatever characters it was made.
-/

namespace VerilogLibrary

/-! ## Names of registers -/

theorem Edge.isUpper_of_ofLetter? {c : Char} {edge : Edge} (h : Edge.ofLetter? c = some edge) :
    c.isUpper = true := by
  unfold ofLetter? at h
  split at h
  · decide
  · decide
  · cases h

namespace Register

/-- A text that has a small letter or none at its fifth place names no register. -/
theorem ofNameChars?_eq_none {cs : List Char}
    (h : ∀ p c q, cs = p ++ c :: q → p.length = 4 → c.isUpper = false) :
    ofNameChars? cs = none := by
  unfold ofNameChars?
  split
  · next rest =>
      cases rest with
      | nil => rfl
      | cons c more =>
          cases hedge : Edge.ofLetter? c with
          | none => simp [ofLetters?, hedge]
          | some edge =>
              have hupper := Edge.isUpper_of_ofLetter? hedge
              rw [h ['R', 'e', 'g', '_'] c more rfl rfl] at hupper
              cases hupper
  · rfl

/-- No capitalized name is the name of a register. -/
theorem ofName?_capitalize (s : String) : ofName? (Text.capitalize s) = none := by
  rw [ofName?, Text.capitalize, String.toList_ofList]
  apply ofNameChars?_eq_none
  intro p c q hchars hlength
  exact Text.isUpper_of_capitalizeChars hchars (by omega)

theorem ofName?_moduleName : ∀ r : Register, r.isAdmitted = true →
    ofName? r.moduleName = some r :=
  forall_of_index (by decide)

theorem mem_variants_iff : ∀ r : Register, r ∈ variants ↔ r.isAdmitted = true :=
  forall_of_index (by decide)

theorem nodup_moduleName_variants : (variants.map moduleName).Nodup := by
  decide

theorem multiplexerName_notMem_variants : multiplexerName ∉ variants.map moduleName := by
  decide

end Register

/-! ## Names in a plan -/

/-- The order of the library lists every operation once. -/
theorem Catalog.inOrder_perm (c : Catalog) : c.inOrder.Perm c.operations := by
  unfold inOrder entries
  induction c.operations with
  | nil => exact .refl []
  | cons op rest ih =>
      obtain ⟨category, name, expr⟩ := op
      simp only [Category.all, List.flatMap_cons, List.flatMap_nil, List.append_nil] at ih ⊢
      -- The operation heads its own category, so only the categories before it are passed.
      cases category
      case unary => exact ih.cons _
      case unaryReduce => exact List.perm_middle.trans (ih.cons _)
      case binary =>
          rw [← List.append_assoc] at ih ⊢
          exact List.perm_middle.trans (ih.cons _)
      case binaryReduce =>
          rw [← List.append_assoc, ← List.append_assoc] at ih ⊢
          exact List.perm_middle.trans (ih.cons _)

/-- The modules of a plan are those of the operations, the multiplexer and the
registers, in this order. -/
theorem map_name_plan (c : Catalog) (o : Options) :
    (plan c o).map (fun entry => entry.2.name) =
      c.inOrder.map Operation.moduleName
        ++ multiplexerName :: Register.variants.map Register.moduleName := by
  have hop : ∀ k : Category, (Section.decls c o (.operations k)).map ModuleDecl.name
      = (c.entries k).map Operation.moduleName := by
    intro k
    rw [Section.decls, List.map_map]
    exact List.map_congr_left fun op _ => by rw [Function.comp_apply, op.decl_eq]
  have hregister : (Section.decls c o .registers).map ModuleDecl.name
      = Register.variants.map Register.moduleName := by
    rw [Section.decls, List.map_map]
    exact List.map_congr_left fun r _ => by rw [Function.comp_apply, r.decl_eq]
  rw [map_plan ModuleDecl.name, Catalog.inOrder, List.map_flatMap]
  simp only [Section.all, List.flatMap_append, List.flatMap_map, hop,
    List.flatMap_cons, List.flatMap_nil, List.append_nil, hregister]
  rfl

/-- In every plan of a catalog that can be reached, each module has a name of
its own, and no operation is named like a register. -/
theorem plan_names_distinct {c : Catalog} (h : c.Reachable) (o : Options) :
    ((plan c o).map fun entry => entry.2.name).Nodup ∧
      ∀ op ∈ c.operations, Register.ofName? op.moduleName = none := by
  have hregister : ∀ op : Operation, Register.ofName? op.moduleName = none :=
    fun op => Register.ofName?_capitalize op.name
  refine ⟨?_, fun op _ => hregister op⟩
  have hperm := c.inOrder_perm.map Operation.moduleName
  rw [map_name_plan, List.nodup_append, List.nodup_cons]
  refine ⟨hperm.nodup_iff.mpr h.distinct.nodup,
    ⟨Register.multiplexerName_notMem_variants, Register.nodup_moduleName_variants⟩, ?_⟩
  rintro name hname _ hother rfl
  have hmem : name ∈ c.moduleNames := hperm.subset hname
  obtain ⟨op, _, rfl⟩ := Catalog.mem_moduleNames.mp hmem
  rcases List.mem_cons.mp hother with hmux | hmem'
  · exact h.distinct.notMultiplexer (hmux ▸ hmem)
  · obtain ⟨r, hr, heq⟩ := List.mem_map.mp hmem'
    have hsome := Register.ofName?_moduleName r ((Register.mem_variants_iff r).mp hr)
    rw [heq, hregister op] at hsome
    cases hsome

/-- Neither the name of a register nor a letter of two capitals leads to a
module that the library has. -/
theorem plan_names_distinct_run :
    let c := Catalog.standard.run
      [.push ⟨.unary, "reg_PE", "in"⟩, .push ⟨.binary, "ßeg_P", "in0"⟩, .push ⟨.unary, "mux", "in"⟩]
    c.moduleNames.drop 21 = ["Reg_pe", "SSeg_p"] ∧
      ((plan c {}).map fun entry => entry.2.name).Nodup ∧
      ∀ op ∈ c.operations, Register.ofName? op.moduleName = none :=
  ⟨by decide +kernel, plan_names_distinct (Catalog.Reachable.standard.run _) {}⟩

end VerilogLibrary
