import VerilogLibrary.Proofs.ModuleFaults
import VerilogLibrary.Section

/-!
# The modules of a library

Three generators make the modules of a library. Each fixes its ports and all
of its body but an expression, so most of what can be wrong with a declaration
cannot be wrong here. The equations `decl_eq` say what a generator makes
without its builder steps; from them it follows that the only fault left is
the name of an operation.
-/

namespace VerilogLibrary

/-- The ports of an operation's module, in declaration order. -/
def Category.ports (k : Category) : List Port :=
  k.inputs.map (fun name => ⟨.input, name, .parameter widthParameter⟩)
    ++ [⟨.output, "out", if k.isReduction then .literal 1 else .parameter widthParameter⟩]

/-- The ports of a register's module, in declaration order. -/
def Register.ports (r : Register) : List Port :=
  [⟨.input, "D", .parameter widthParameter⟩, ⟨.input, "clk", .literal 1⟩,
    ⟨.output, "Q", .parameter widthParameter⟩]
    ++ (if r.asyncReset then [⟨.input, "rst", .literal 1⟩] else [])
    ++ (if r.syncClear then [⟨.input, "clr", .literal 1⟩] else [])
    ++ (if r.enable then [⟨.input, "en", .literal 1⟩] else [])

theorem Operation.decl_eq (op : Operation) (o : Options) :
    op.decl o =
      { name := op.moduleName
        parameters := [⟨widthParameter, some o.widthText⟩]
        ports := op.category.ports
        body? := some s!"  assign out = {op.expr};" } := by
  obtain ⟨category, name, expr⟩ := op
  cases category <;> rfl

theorem Register.decl_eq (r : Register) (o : Options) :
    r.decl o =
      { name := r.moduleName
        parameters :=
          ⟨widthParameter, some o.widthText⟩
            :: if r.hasInit then [⟨initParameter, some o.initText⟩] else []
        ports := r.ports
        body? := some r.body } := by
  obtain ⟨edge, asyncReset, syncClear, enable⟩ := r
  cases asyncReset <;> cases syncClear <;> cases enable <;> rfl

/-! ## No fault but a name -/

theorem Text.isBlank_eq_false {s : String} {c : Char} (hmem : c ∈ s.toList)
    (hc : Text.isWhiteSpace c = false) : Text.isBlank s = false := by
  rw [Text.isBlank, List.all_eq_false]
  exact ⟨c, hmem, by rw [hc]; exact Bool.false_ne_true⟩

theorem Category.isLegal_ports (k : Category) : ∀ p ∈ k.ports, p.IsLegal := by
  cases k <;> decide

theorem Category.nodup_ports (k : Category) : (k.ports.map Port.name).Nodup := by
  cases k <;> decide

/-- What holds at every index holds of every register. -/
theorem Register.forall_of_index {P : Register → Prop}
    (h : ∀ index < indexCount, P (ofIndex index)) (r : Register) : P r := by
  have hlt : r.index < indexCount ∧ ofIndex r.index = r := by
    obtain ⟨edge, asyncReset, syncClear, enable⟩ := r
    cases edge <;> cases asyncReset <;> cases syncClear <;> cases enable <;> decide
  rw [← hlt.2]
  exact h r.index hlt.1

theorem Register.isLegal_ports : ∀ r : Register, ∀ p ∈ r.ports, p.IsLegal :=
  forall_of_index (by decide)

theorem Register.nodup_ports : ∀ r : Register, (r.ports.map Port.name).Nodup :=
  forall_of_index (by decide)

theorem Operation.isLegal_decl_iff {op : Operation} {o : Options} :
    (op.decl o).IsLegal ↔ Text.isIdentifier op.moduleName = true := by
  rw [op.decl_eq]
  refine ⟨fun h => h.name, fun hname => ⟨hname, ?_, ?_, ?_, ?_⟩⟩
  · exact List.append_ne_nil_of_right_ne_nil _ (List.cons_ne_nil _ _)
  · refine Text.isBlank_eq_false (c := '=') ?_ (by decide)
    rw [String.toList_append, String.toList_append]
    exact List.mem_append_left _ (List.mem_append_left _ (by decide))
  · exact op.category.isLegal_ports
  · exact op.category.nodup_ports

theorem isLegal_multiplexer (o : Options) : (multiplexer o).IsLegal := by
  -- Only the default of the parameter depends on the options, and nobody checks it.
  have h : (multiplexer {}).IsLegal := by constructor <;> decide
  exact ⟨h.name, h.ports_ne_nil, h.hasBody, h.ports, h.nodup⟩

theorem Register.isIdentifier_moduleName :
    ∀ r : Register, Text.isIdentifier r.moduleName = true :=
  forall_of_index (by decide)

theorem Register.isBlank_body (r : Register) : Text.isBlank r.body = false := by
  refine Text.isBlank_eq_false (c := '=') ?_ (by decide)
  rw [body, String.toList_append]
  exact List.mem_append_right _ (by decide)

theorem Register.isLegal_decl (r : Register) (o : Options) : (r.decl o).IsLegal := by
  have hbody : (r.decl o).lacksBody = false := by
    rw [r.decl_eq, ModuleDecl.lacksBody, Option.all_some, r.isBlank_body]
  rw [r.decl_eq] at hbody ⊢
  exact ⟨r.isIdentifier_moduleName, List.cons_ne_nil _ _, hbody, r.isLegal_ports, r.nodup_ports⟩

/-! ## Over a whole plan

What concerns the modules alone need not look at the sections they stand in. -/

theorem map_plan {α : Type} (f : ModuleDecl → α) (c : Catalog) (o : Options) :
    (plan c o).map (fun entry => f entry.2) =
      Section.all.flatMap fun s => (s.decls c o).map f := by
  rw [plan, List.map_flatMap]
  simp only [List.map_map, Function.comp_def]

theorem filterMap_plan {α : Type} (f : ModuleDecl → Option α) (c : Catalog) (o : Options) :
    (plan c o).filterMap (fun entry => f entry.2) =
      Section.all.flatMap fun s => (s.decls c o).filterMap f := by
  rw [plan, List.filterMap_flatMap]
  simp only [List.filterMap_map, Function.comp_def]

end VerilogLibrary
