import VerilogLibrary.Config.Load
import VerilogLibrary.Proofs.Capitalize
import VerilogLibrary.Proofs.CatalogRuns
import VerilogLibrary.Proofs.ConfigurationFaults
import VerilogLibrary.Proofs.LibraryText

/-!
# What can go wrong behind a configuration

A configuration that was loaded has been checked: the names of its operations
are identifiers, and no two of them are the same but for the case of their
letters. The catalog is built later, with a check of its own that compares
capitalized names. On identifiers the two checks agree, so the operations of a
configuration never stand in each other's way, and the only thing left to
collide with is what the library brings along.

Such a collision is a matter of each operation by itself, so it can be told in
advance, and the error is that of the first operation that has one. When there
is none, all operations are in the catalog, and since their names are identifiers
the library has a text whatever its options are.
-/

namespace VerilogLibrary

/-! ## What the check of a configuration says -/

namespace Config

theorem fault?_of_ofText {s : String} {c : Config} (h : ofText s = .ok c) : c.fault? = none := by
  unfold ofText at h
  split at h
  · cases h
  · obtain ⟨rfl, hfault⟩ := validate_eq_ok_iff.mp h
    exact hfault

/-- The operations of a configuration that was loaded are admitted, and their
names differ by more than the case of ASCII letters. -/
theorem operations_of_ofText {s : String} {c : Config} (h : ofText s = .ok c) :
    (∀ op ∈ c.operations, Admits op) ∧
      (c.operations.map fun op => Text.asciiLower op.name).Nodup := by
  have hlegal := fault?_eq_none_iff.mp (fault?_of_ofText h)
  refine ⟨fun op hop => ?_, hlegal.nodup⟩
  exact admits_iff.mpr ⟨hlegal.names op hop, hlegal.exprs op hop⟩

/-- The names of operations that passed the check lead to distinct modules:
capitalization keeps apart what differs in lower case. -/
theorem nodup_moduleName {ops : List Operation} (hops : ∀ op ∈ ops, Admits op)
    (hnodup : (ops.map fun op => Text.asciiLower op.name).Nodup) :
    (ops.map Operation.moduleName).Nodup := by
  have hlower : (ops.map Operation.moduleName).map Text.asciiLower
      = ops.map fun op => Text.asciiLower op.name := by
    rw [List.map_map]
    exact List.map_congr_left fun op hop => Text.asciiLower_capitalize (hops op hop).name
  rw [← hlower] at hnodup
  exact hnodup.of_map

end Config

/-! ## Groups of operations with distinct names -/

namespace Catalog

theorem pushAll_append {c c' : Catalog} {ops : List Operation}
    (h : c.pushAll ops = (c', none)) (more : List Operation) :
    c.pushAll (ops ++ more) = c'.pushAll more := by
  induction ops generalizing c with
  | nil =>
      cases h
      rfl
  | cons op rest ih =>
      rw [List.cons_append, pushAll]
      rw [pushAll] at h
      cases hpush : c.push op with
      | error collision => rw [hpush] at h; cases h
      | ok next => rw [hpush] at h; exact ih h

theorem IsFree.extend_singleton {c : Catalog} {op other : Operation} (h : c.IsFree op)
    (hne : other.moduleName ≠ op.moduleName) : (c.extend [other]).IsFree op := by
  refine ⟨h.1, fun present hpresent => ?_⟩
  rcases List.mem_append.mp hpresent with hpresent | hpresent
  · exact h.2 present hpresent
  · rwa [List.mem_singleton.mp hpresent]

/-- Operations that are free at the beginning and differ among themselves are
all added. -/
theorem pushAll_of_forall_isFree {c : Catalog} {ops : List Operation}
    (hfree : ∀ op ∈ ops, c.IsFree op) (hnodup : (ops.map Operation.moduleName).Nodup) :
    c.pushAll ops = (c.extend ops, none) := by
  induction ops generalizing c with
  | nil => rw [pushAll, extend_nil]
  | cons op rest ih =>
      obtain ⟨hnew, hrest⟩ := List.nodup_cons.mp hnodup
      have hfree' : ∀ other ∈ rest, (c.extend [op]).IsFree other := by
        intro other hother
        refine (hfree other (List.mem_cons_of_mem op hother)).extend_singleton ?_
        intro heq
        exact hnew (heq ▸ List.mem_map_of_mem hother)
      rw [pushAll_cons_of_isFree rest (hfree op List.mem_cons_self), ih hfree' hrest,
        extend_extend, List.singleton_append]

/-- Where operations are free up to one that is not, this one is refused. -/
theorem pushAll_of_not_isFree {c : Catalog} {before after : List Operation} {op : Operation}
    (hfree : ∀ other ∈ before, c.IsFree other)
    (hnodup : (before.map Operation.moduleName).Nodup) (hop : ¬ c.IsFree op) :
    c.pushAll (before ++ op :: after) = (c.extend before, some (refusal op)) := by
  have hop' : ¬ (c.extend before).IsFree op := fun h =>
    hop ⟨h.1, fun other hother => h.2 other (List.mem_append_left before hother)⟩
  rw [pushAll_append (pushAll_of_forall_isFree hfree hnodup),
    pushAll_cons_of_error after (push_of_not_isFree hop')]

end Catalog

/-! ## The catalog of a configuration -/

namespace Config

/-- The operations that are in a library before those of the configuration. -/
def builtins (c : Config) : List Operation :=
  Catalog.standardOperations
    ++ if c.library.arithmetic then Catalog.arithmeticOperations else []

/-- The module name of an operation belongs to the multiplexer or to one of the
operations that come before those of the configuration. -/
def Clashes (c : Config) (op : Operation) : Prop :=
  op.moduleName = multiplexerName ∨ op.moduleName ∈ c.builtins.map Operation.moduleName

instance (c : Config) (op : Operation) : Decidable (c.Clashes op) :=
  inferInstanceAs (Decidable (_ ∨ _))

theorem not_clashes_iff {c : Config} {op : Operation} :
    ¬ c.Clashes op ↔ (Catalog.mk c.builtins).IsFree op := by
  rw [Clashes, not_or, List.mem_map, Catalog.IsFree]
  refine and_congr_right fun _ => ?_
  constructor
  · exact fun h other hother heq => h ⟨other, hother, heq⟩
  · rintro h ⟨other, hother, heq⟩
    exact h other hother heq

theorem pushAll_additions (c : Config) :
    Catalog.standard.pushAll c.additions = (Catalog.mk c.builtins).pushAll c.operations := by
  have harithmetic : Catalog.standard.pushAll Catalog.arithmeticOperations
      = (⟨Catalog.standardOperations ++ Catalog.arithmeticOperations⟩, none) := by
    decide +kernel
  rw [additions, builtins]
  cases c.library.arithmetic with
  | false => rfl
  | true => exact Catalog.pushAll_append harithmetic c.operations

theorem isIdentifier_moduleName_builtins (c : Config) :
    ∀ op ∈ c.builtins, Text.isIdentifier op.moduleName = true := by
  have hstandard : ∀ op ∈ Catalog.standardOperations, Text.isIdentifier op.moduleName = true := by
    decide +kernel
  have harithmetic : ∀ op ∈ Catalog.arithmeticOperations,
      Text.isIdentifier op.moduleName = true := by
    decide +kernel
  intro op hop
  rcases List.mem_append.mp hop with hop | hop
  · exact hstandard op hop
  · split at hop
    · exact harithmetic op hop
    · exact absurd hop List.not_mem_nil

/-- Among operations of which one clashes there is a first that does. -/
theorem exists_first_clash {c : Config} {ops : List Operation} (h : ∃ op ∈ ops, c.Clashes op) :
    ∃ before op after, ops = before ++ op :: after ∧
      (∀ other ∈ before, ¬ c.Clashes other) ∧ c.Clashes op := by
  cases hfind : ops.find? fun op => decide (c.Clashes op) with
  | none =>
      obtain ⟨op, hop, hclash⟩ := h
      exact absurd (decide_eq_true hclash) (List.find?_eq_none.mp hfind op hop)
  | some op =>
      obtain ⟨hclash, before, after, heq, hbefore⟩ := List.find?_eq_some_iff_append.mp hfind
      refine ⟨before, op, after, heq, fun other hother => ?_, of_decide_eq_true hclash⟩
      simpa using hbefore other hother

theorem catalog_of_first_clash {c : Config} {before after : List Operation} {op : Operation}
    (hnodup : (c.operations.map Operation.moduleName).Nodup)
    (heq : c.operations = before ++ op :: after)
    (hbefore : ∀ other ∈ before, ¬ c.Clashes other) (hop : c.Clashes op) :
    c.catalog = .error (Catalog.refusal op) := by
  have hfree : ∀ other ∈ before, (Catalog.mk c.builtins).IsFree other :=
    fun other hother => not_clashes_iff.mp (hbefore other hother)
  have hnodup' : (before.map Operation.moduleName).Nodup := by
    rw [heq, List.map_append] at hnodup
    exact hnodup.of_append_left
  rw [catalog, pushAll_additions, heq,
    Catalog.pushAll_of_not_isFree hfree hnodup' fun hop' => not_clashes_iff.mpr hop' hop]

theorem catalog_of_no_clash {c : Config}
    (hnodup : (c.operations.map Operation.moduleName).Nodup)
    (h : ∀ op ∈ c.operations, ¬ c.Clashes op) :
    c.catalog = .ok ⟨c.builtins ++ c.operations⟩ := by
  have hfree : ∀ op ∈ c.operations, (Catalog.mk c.builtins).IsFree op :=
    fun op hop => not_clashes_iff.mp (h op hop)
  rw [catalog, pushAll_additions, Catalog.pushAll_of_forall_isFree hfree hnodup]
  rfl

/-- For a configuration that was loaded: there is no catalog exactly if one of its
operations clashes with the multiplexer or a builtin operation, and then the
error is that of the first that does, in the order of the configuration.
Otherwise the catalog has the builtin operations and then all of the
configuration, and its library has a text under all options. -/
theorem catalog_of_ofText {s : String} {c : Config} (h : ofText s = .ok c) :
    ((∃ e, c.catalog = .error e) ↔ ∃ op ∈ c.operations, c.Clashes op) ∧
    (∀ before op after, c.operations = before ++ op :: after →
      (∀ other ∈ before, ¬ c.Clashes other) → c.Clashes op →
      c.catalog = .error (Catalog.refusal op)) ∧
    ((∀ op ∈ c.operations, ¬ c.Clashes op) →
      c.catalog = .ok ⟨c.builtins ++ c.operations⟩ ∧
      ∀ o, ∃ t, renderLibrary ⟨c.builtins ++ c.operations⟩ o = .ok t) := by
  obtain ⟨hadmits, hlower⟩ := operations_of_ofText h
  have hnodup := nodup_moduleName hadmits hlower
  refine ⟨⟨?_, ?_⟩, fun before op after => catalog_of_first_clash hnodup,
    fun hall => ⟨catalog_of_no_clash hnodup hall, fun o => ?_⟩⟩
  · rintro ⟨e, he⟩
    by_contra hno
    rw [catalog_of_no_clash hnodup fun op hop hop' => hno ⟨op, hop, hop'⟩] at he
    cases he
  · intro hexists
    obtain ⟨before, op, after, heq, hbefore, hop⟩ := exists_first_clash hexists
    exact ⟨_, catalog_of_first_clash hnodup heq hbefore hop⟩
  · refine ⟨_, renderLibrary_eq_ok_iff.mpr ⟨fun op hop => ?_, rfl⟩⟩
    rcases List.mem_append.mp hop with hop | hop
    · exact c.isIdentifier_moduleName_builtins op hop
    · exact Text.isIdentifier_capitalize (hadmits op hop).name

/-- An operation `SDIV` is refused where the arithmetic operations are asked for. -/
theorem catalog_of_ofText_sdiv :
    let s := "[library]\narithmetic = true\n"
      ++ "[[operations]]\ncategory = \"unary\"\nname = \"inc\"\nexpr = \"in + 1\"\n"
      ++ "[[operations]]\ncategory = \"binary\"\nname = \"SDIV\"\nexpr = \"in0\"\n"
    let inc : Operation := ⟨.unary, "inc", "in + 1"⟩
    let sdiv : Operation := ⟨.binary, "SDIV", "in0"⟩
    let c : Config := ⟨{ arithmetic := true }, [inc, sdiv]⟩
    ofText s = .ok c ∧ c.catalog = .error (.duplicate .binary "SDIV") := by
  intro s inc sdiv c
  have h : ofText s = .ok c := by decide +kernel
  have hcatalog : c.catalog = .error (Catalog.refusal sdiv) :=
    (catalog_of_ofText h).2.1 [inc] sdiv [] rfl (by decide +kernel) (by decide +kernel)
  have hrefusal : Catalog.refusal sdiv = .duplicate .binary "SDIV" := by decide +kernel
  rw [hrefusal] at hcatalog
  exact ⟨h, hcatalog⟩

end Config

end VerilogLibrary
