import VerilogLibrary.Config.Load
import VerilogLibrary.Proofs.CheckedInOrder

/-!
# Which configurations have a fault, and which fault is reported

Of all that is wrong with a configuration one thing is reported: the output
counts before the width, the width before the operations, an operation before
those behind it, and of one operation the name before the expression and the
expression before what stands in front. `Config.Violation` says so by the index
of the operation.

An operation repeats one in front of it if their names are the same in lower
case, whatever else is wrong with that one. The checker compares only with
operations that it has passed, but at the first fault it has passed all that
stand in front.
-/

namespace VerilogLibrary

/-- A text has a character that is not white space. -/
def Text.IsVisible (s : String) : Prop :=
  ∃ c ∈ s.toList, isWhiteSpace c = false

theorem Text.isBlank_eq_true_iff {s : String} : isBlank s = true ↔ ¬ IsVisible s := by
  simp [isBlank, IsVisible]

/-- What is reported of an operation, where `repeats` says whether one in front of it has its
name. -/
inductive Operation.Violation (repeats : Prop) (op : Operation) : ConfigFault → Prop
  | name : Text.isIdentifier op.name = false → Violation repeats op (.illegalName op.name)
  | expr : Text.isIdentifier op.name = true → ¬ Text.IsVisible op.expr →
      Violation repeats op (.emptyExpression op.name)
  | repeated : Text.isIdentifier op.name = true → Text.IsVisible op.expr → repeats →
      Violation repeats op (.repeatedName op.name)

namespace Config

/-! ## The operations -/

/-- An operation that a configuration may ask for. -/
structure Admits (op : Operation) : Prop where
  name : Text.isIdentifier op.name = true
  expr : Text.isBlank op.expr = false

theorem Admits.isVisible_expr {op : Operation} (h : Admits op) : Text.IsVisible op.expr := by
  have hexpr := h.expr
  rwa [← Bool.not_eq_true, Text.isBlank_eq_true_iff, not_not] at hexpr

theorem admits_iff {op : Operation} :
    Admits op ↔ Text.isIdentifier op.name = true ∧ Text.IsVisible op.expr := by
  refine ⟨fun h => ⟨h.name, h.isVisible_expr⟩, fun ⟨hname, hexpr⟩ => ⟨hname, ?_⟩⟩
  rwa [← Bool.not_eq_true, Text.isBlank_eq_true_iff, not_not]

theorem operationFault?_eq_none_iff {earlier : List String} {op : Operation} :
    operationFault? earlier op = none ↔ Admits op ∧ Text.asciiLower op.name ∉ earlier := by
  rw [operationFault?, ite_some_eq_none_iff, ite_some_eq_none_iff, ite_some_eq_none_iff]
  constructor
  · intro h
    obtain ⟨hname, hexpr, hmem, -⟩ := h
    exact ⟨⟨by simpa using hname, by simpa using hexpr⟩, hmem⟩
  · intro h
    obtain ⟨hop, hmem⟩ := h
    exact ⟨by simpa using hop.name, by simpa using hop.expr, hmem, rfl⟩

theorem operationFault?_eq_some_iff {earlier : List String} {op : Operation}
    {fault : ConfigFault} :
    operationFault? earlier op = some fault ↔
      op.Violation (Text.asciiLower op.name ∈ earlier) fault := by
  rw [operationFault?, ite_some_eq_some_iff, ite_some_eq_some_iff, ite_some_eq_some_iff,
    Text.isBlank_eq_true_iff]
  constructor
  · intro h
    rcases h with ⟨hname, rfl⟩ | ⟨hname, ⟨hexpr, rfl⟩ | ⟨hexpr, ⟨hmem, rfl⟩ | ⟨-, hnone⟩⟩⟩
    · exact .name (by simpa using hname)
    · exact .expr (by simpa using hname) hexpr
    · exact .repeated (by simpa using hname) (not_not.mp hexpr) hmem
    · cases hnone
  · intro h
    cases h with
    | name hname => exact .inl ⟨by simpa using hname, rfl⟩
    | expr hname hexpr => exact .inr ⟨by simpa using hname, .inl ⟨hexpr, rfl⟩⟩
    | repeated hname hexpr hmem =>
        exact .inr ⟨by simpa using hname, .inr ⟨not_not.mpr hexpr, .inl ⟨hmem, rfl⟩⟩⟩

theorem operationsFault?_eq_walkFault? (earlier : List String) (ops : List Operation) :
    operationsFault? earlier ops =
      walkFault? operationFault? (fun op => Text.asciiLower op.name) earlier ops := by
  induction ops generalizing earlier with
  | nil => rfl
  | cons op rest ih =>
      rw [operationsFault?, walkFault?, ih]
      cases operationFault? earlier op <;> rfl

theorem operationsFault?_eq_none_iff {earlier : List String} {ops : List Operation} :
    operationsFault? earlier ops = none ↔
      (∀ op ∈ ops, Admits op ∧ Text.asciiLower op.name ∉ earlier) ∧
        (ops.map fun op => Text.asciiLower op.name).Nodup := by
  rw [operationsFault?_eq_walkFault?]
  exact walkFault?_eq_none_iff Admits fun _ _ => operationFault?_eq_none_iff

/-! ## Violations by index -/

/-- An operation has the name of one in front of it, but for the case of ASCII letters. -/
def RepeatsName (c : Config) (i : Fin c.operations.length) : Prop :=
  ∃ j < i, Text.asciiLower c.operations[j].name = Text.asciiLower c.operations[i].name

/-- An operation has a bad name, no expression, or the name of one in front of it. -/
def IsFaultyOperation (c : Config) (i : Fin c.operations.length) : Prop :=
  Text.isIdentifier c.operations[i].name = false ∨ ¬ Text.IsVisible c.operations[i].expr ∨
    c.RepeatsName i

/-- The fault that counts, if there are several. -/
inductive Violation (c : Config) : ConfigFault → Prop
  | output : ¬ Text.IsVisible c.library.output → Violation c .emptyOutput
  | width : Text.IsVisible c.library.output → c.library.width.toNat = 0 → Violation c .zeroWidth
  | operation {fault : ConfigFault} (i : Fin c.operations.length) :
      Text.IsVisible c.library.output → 0 < c.library.width.toNat →
      (∀ j < i, ¬ c.IsFaultyOperation j) → c.operations[i].Violation (c.RepeatsName i) fault →
      Violation c fault

theorem operationsFault?_operations_eq_some_iff {c : Config} {fault : ConfigFault} :
    operationsFault? [] c.operations = some fault ↔
      ∃ i : Fin c.operations.length, (∀ j < i, ¬ c.IsFaultyOperation j) ∧
        c.operations[i].Violation (c.RepeatsName i) fault := by
  rw [operationsFault?_eq_walkFault?]
  refine walkFault?_nil_eq_some_iff
    (fun repeats (op : Operation) =>
      Text.isIdentifier op.name = false ∨ ¬ Text.IsVisible op.expr ∨ repeats)
    (fun repeats (op : Operation) => op.Violation repeats) (fun earlier op => ?_)
    fun _ _ _ => operationFault?_eq_some_iff
  rw [operationFault?_eq_none_iff, admits_iff, not_or, not_or, not_not, Bool.not_eq_false,
    and_assoc]

theorem width_beq_zero_iff {c : Config} :
    (c.library.width == 0) = true ↔ c.library.width.toNat = 0 := by
  rw [beq_iff_eq, ← UInt32.toNat_inj]
  exact Iff.rfl

theorem fault?_eq_some_iff {c : Config} {fault : ConfigFault} :
    c.fault? = some fault ↔ c.Violation fault := by
  rw [fault?, ite_some_eq_some_iff, ite_some_eq_some_iff,
    operationsFault?_operations_eq_some_iff, Text.isBlank_eq_true_iff, width_beq_zero_iff]
  constructor
  · intro h
    rcases h with ⟨houtput, rfl⟩ | ⟨houtput, ⟨hwidth, rfl⟩ | ⟨hwidth, i, hbefore, hat⟩⟩
    · exact .output houtput
    · exact .width (not_not.mp houtput) hwidth
    · exact .operation i (not_not.mp houtput) (by omega) hbefore hat
  · intro h
    cases h with
    | output houtput => exact .inl ⟨houtput, rfl⟩
    | width houtput hwidth => exact .inr ⟨not_not.mpr houtput, .inl ⟨hwidth, rfl⟩⟩
    | operation i houtput hwidth hbefore hat =>
        exact .inr ⟨not_not.mpr houtput, .inr ⟨by omega, i, hbefore, hat⟩⟩

/-- Nothing is wrong with a configuration. -/
structure IsLegal (c : Config) : Prop where
  output : Text.IsVisible c.library.output
  width : 0 < c.library.width.toNat
  names : ∀ op ∈ c.operations, Text.isIdentifier op.name = true
  exprs : ∀ op ∈ c.operations, Text.IsVisible op.expr
  nodup : (c.operations.map fun op => Text.asciiLower op.name).Nodup

theorem fault?_eq_none_iff {c : Config} : c.fault? = none ↔ c.IsLegal := by
  rw [fault?, ite_some_eq_none_iff, ite_some_eq_none_iff, operationsFault?_eq_none_iff,
    Text.isBlank_eq_true_iff, not_not, width_beq_zero_iff]
  constructor
  · intro ⟨houtput, hwidth, hops, hnodup⟩
    refine ⟨houtput, by omega, fun op hop => ?_, fun op hop => ?_, hnodup⟩
    · exact (hops op hop).1.name
    · exact (hops op hop).1.isVisible_expr
  · intro h
    refine ⟨h.output, ?_, fun op hop => ⟨?_, List.not_mem_nil⟩, h.nodup⟩
    · have hwidth := h.width
      omega
    · exact admits_iff.mpr ⟨h.names op hop, h.exprs op hop⟩

theorem validate_eq_ok_iff {c result : Config} :
    c.validate = .ok result ↔ result = c ∧ c.fault? = none := by
  rw [validate]
  cases c.fault? with
  | none => simp [eq_comm]
  | some fault => simp

theorem validate_eq_error_iff {c : Config} {e : ConfigError} :
    c.validate = .error e ↔ ∃ fault, e = .faulty fault ∧ c.fault? = some fault := by
  rw [validate]
  cases c.fault? with
  | none => simp
  | some found => simp [eq_comm]

/-- A configuration is accepted as it is if nothing is wrong with it, and otherwise the first
thing that is wrong with it is reported, in words that name the operation as it is written. -/
theorem validate_reports_first (c : Config) :
    (∀ result, c.validate = .ok result ↔ result = c ∧
      Text.IsVisible c.library.output ∧ 0 < c.library.width.toNat ∧
        (∀ op ∈ c.operations, Text.isIdentifier op.name = true) ∧
        (∀ op ∈ c.operations, Text.IsVisible op.expr) ∧
        c.operations.Pairwise fun op other =>
          Text.asciiLower op.name ≠ Text.asciiLower other.name) ∧
    (∀ e, c.validate = .error e ↔ ∃ fault, e = .faulty fault ∧ c.Violation fault) ∧
    (∀ fault, (ConfigError.faulty fault).message = "validation error: " ++ fault.message) ∧
    ConfigFault.emptyOutput.message = "library.output must not be empty" ∧
    ConfigFault.zeroWidth.message = "library.width must be positive" ∧
    (∀ name, (ConfigFault.illegalName name).message =
      "operation name '" ++ name ++ "' is not a legal identifier") ∧
    (∀ name, (ConfigFault.emptyExpression name).message =
      "operation '" ++ name ++ "' has an empty expression") ∧
    ∀ name, (ConfigFault.repeatedName name).message =
      "operation '" ++ name ++ "' is defined more than once" := by
  refine ⟨fun result => ?_, fun e => ?_, fun fault => rfl, rfl, rfl, fun name => rfl,
    fun name => rfl, fun name => rfl⟩
  · rw [validate_eq_ok_iff, fault?_eq_none_iff]
    constructor
    · intro ⟨hresult, h⟩
      exact ⟨hresult, h.output, h.width, h.names, h.exprs, List.pairwise_map.mp h.nodup⟩
    · intro ⟨hresult, houtput, hwidth, hnames, hexprs, hdistinct⟩
      exact ⟨hresult, houtput, hwidth, hnames, hexprs, List.pairwise_map.mpr hdistinct⟩
  · rw [validate_eq_error_iff]
    simp only [fault?_eq_some_iff]

/-- The case of letters does not tell names apart, and the expression counts before that. -/
example :
    let c : Config := ⟨{}, [⟨.binary, "ule", "in0 <= in1"⟩, ⟨.unary, "Ule", "\u3000"⟩,
      ⟨.binary, "ULE", "in0"⟩]⟩
    c.validate = .error (.faulty (.emptyExpression "Ule")) ∧
      { c with operations := c.operations.eraseIdx 1 }.validate =
        .error (.faulty (.repeatedName "ULE")) := by
  decide

end Config

end VerilogLibrary
