import Mathlib
import VerilogLibrary.Config.Load
import VerilogLibrary.Proofs.Separators
import VerilogLibrary.Proofs.TomlDocument

/-!
# A written configuration loads back

A configuration is written with a table for the settings of the library, in which
any of them may be left out, and a table for each operation. What the reader
makes of the lines is known for every document of that kind; here the entries
that come out are read as the record of a configuration again. A text is never
refused as malformed, so what is left for the loader to find is a fault of the
configuration itself.
-/

namespace VerilogLibrary

open Toml (Entries Node Statement IsBareKey IsLine IsValue Quoting isLine_header
  isLine_elementHeader isLine_pair isValue_quoted isValue_integer isValue_boolean pairStatement
  textOf tablesEntry)

/-! ## The document of a configuration -/

/-- The settings that a document may leave out. -/
inductive SettingKey where
  | output
  | width
  | init
  | arithmetic
  deriving DecidableEq, Repr

namespace SettingKey

/-- All settings, in the order of their declaration. -/
def all : List SettingKey :=
  [.output, .width, .init, .arithmetic]

/-- The key of a setting. -/
def name : SettingKey → String
  | .output => "output"
  | .width => "width"
  | .init => "init"
  | .arithmetic => "arithmetic"

/-- How the value of a setting is written. -/
def text (q : Quoting) (s : LibrarySettings) : SettingKey → String
  | .output => q.quoted s.output
  | .width => toString s.width.toNat
  | .init => toString s.init.toNat
  | .arithmetic => toString s.arithmetic

/-- The value of a setting in a document. -/
def node (s : LibrarySettings) : SettingKey → Node
  | .output => .string s.output
  | .width => .integer s.width.toNat
  | .init => .integer s.init.toNat
  | .arithmetic => .boolean s.arithmetic

end SettingKey

/-- A line with a key and a value. -/
def pairLine (key value : String) : String :=
  key ++ " = " ++ value ++ "\n"

/-- The table of the settings that are kept. Without a list there is no table at all. -/
def LibrarySettings.document (q : Quoting) (s : LibrarySettings) :
    Option (List SettingKey) → String
  | none => ""
  | some keys => "[library]\n" ++ String.join (keys.map fun k => pairLine k.name (k.text q s))

/-- The table of an operation. -/
def Operation.document (q : Quoting) (op : Operation) : String :=
  String.join ["[[operations]]\n", pairLine "category" (q.quoted op.category.label),
    pairLine "name" (q.quoted op.name), pairLine "expr" (q.quoted op.expr)]

namespace Config

/-- The document of a configuration. -/
def document (q : Quoting) (kept : Option (List SettingKey)) (c : Config) : String :=
  c.library.document q kept ++ String.join (c.operations.map (Operation.document q))

/-- The configuration with the standard settings in place of those that are not kept. -/
def keeping (keys : List SettingKey) (c : Config) : Config where
  library := {
    output := if .output ∈ keys then c.library.output else "stdlib.v"
    width := if .width ∈ keys then c.library.width else 16
    init := if .init ∈ keys then c.library.init else 0
    arithmetic := if .arithmetic ∈ keys then c.library.arithmetic else false }
  operations := c.operations

end Config

/-! ## Reading it line by line -/

/-- The entries of the table of the settings. -/
def settingEntries (s : LibrarySettings) (keys : List SettingKey) : Entries :=
  keys.map fun k => (k.name, k.node s)

/-- The entries of the table of an operation. -/
def operationEntries (op : Operation) : Entries :=
  [("category", .string op.category.label), ("name", .string op.name), ("expr", .string op.expr)]

theorem SettingKey.isValue_text (q : Quoting) {s : LibrarySettings}
    (hinit : s.init.toNat < 2 ^ 63) (k : SettingKey) : IsValue (k.text q s).toList (k.node s) := by
  cases k with
  | output => exact isValue_quoted q _
  | width =>
      have hwidth := s.width.toNat_lt
      refine isValue_integer ?_
      rw [Toml.maxInteger]
      omega
  | init =>
      refine isValue_integer ?_
      rw [Toml.maxInteger]
      omega
  | arithmetic => exact isValue_boolean _

theorem SettingKey.isBareKey_name (k : SettingKey) : IsBareKey k.name := by
  cases k <;> decide

theorem SettingKey.name_injective : Function.Injective SettingKey.name := by
  intro k k' h
  cases k <;> cases k' <;> first | rfl | exact absurd h (by decide)

/-- The lines of the table of the settings, with their statements. -/
def settingLines (q : Quoting) (s : LibrarySettings) :
    Option (List SettingKey) → List (String × Statement)
  | none => []
  | some keys =>
    ("[" ++ "library" ++ "]", .header ["library"]) ::
      keys.map fun k => (k.name ++ " = " ++ k.text q s, pairStatement (k.name, k.node s))

/-- The lines of the table of an operation, with their statements. -/
def operationLines (q : Quoting) (op : Operation) : List (String × Statement) :=
  [("[[" ++ "operations" ++ "]]", .elementHeader ["operations"]),
    ("category" ++ " = " ++ q.quoted op.category.label,
      pairStatement ("category", .string op.category.label)),
    ("name" ++ " = " ++ q.quoted op.name, pairStatement ("name", .string op.name)),
    ("expr" ++ " = " ++ q.quoted op.expr, pairStatement ("expr", .string op.expr))]

theorem textOf_settingLines (q : Quoting) (s : LibrarySettings)
    (kept : Option (List SettingKey)) : textOf (settingLines q s kept) = s.document q kept := by
  cases kept with
  | none => rfl
  | some keys =>
      rw [textOf, settingLines, List.map_cons, List.map_map, String.join_cons]
      rfl

theorem textOf_operationLines (q : Quoting) (op : Operation) :
    textOf (operationLines q op) = op.document q := by
  have hheader : "[[" ++ "operations" ++ "]]" ++ "\n" = "[[operations]]\n" := by decide
  rw [textOf, operationLines, List.map_cons, hheader]
  rfl

theorem textOf_document (q : Quoting) (kept : Option (List SettingKey)) (c : Config) :
    textOf (settingLines q c.library kept ++ c.operations.flatMap (operationLines q)) =
      c.document q kept := by
  have hoperations : textOf (c.operations.flatMap (operationLines q)) =
      String.join (c.operations.map (Operation.document q)) := by
    induction c.operations with
    | nil => rfl
    | cons op ops ih =>
        rw [List.flatMap_cons, Toml.textOf_append, ih, textOf_operationLines, List.map_cons,
          String.join_cons]
  rw [Toml.textOf_append, textOf_settingLines, hoperations, Config.document]

theorem isLine_of_mem_settingLines {q : Quoting} {s : LibrarySettings}
    (hinit : s.init.toNat < 2 ^ 63) {kept : Option (List SettingKey)} :
    ∀ line ∈ settingLines q s kept, IsLine line.1.toList line.2 := by
  cases kept with
  | none => exact List.forall_mem_nil _
  | some keys =>
      refine List.forall_mem_cons.mpr ⟨isLine_header (by decide), ?_⟩
      exact List.forall_mem_map.mpr fun k _ => isLine_pair k.isBareKey_name (k.isValue_text q hinit)

theorem isLine_of_mem_operationLines {q : Quoting} {op : Operation} :
    ∀ line ∈ operationLines q op, IsLine line.1.toList line.2 := by
  simp only [operationLines, List.forall_mem_cons]
  exact ⟨isLine_elementHeader (by decide), isLine_pair (by decide) (isValue_quoted q _),
    isLine_pair (by decide) (isValue_quoted q _), isLine_pair (by decide) (isValue_quoted q _),
    List.forall_mem_nil _⟩

/-- The entry of the table of the settings, if there is such a table. -/
def libraryEntry (s : LibrarySettings) : Option (List SettingKey) → Entries
  | none => []
  | some keys => [("library", .table .headed (settingEntries s keys))]

theorem nodup_settingEntries (s : LibrarySettings) {keys : List SettingKey} (h : keys.Nodup) :
    ((settingEntries s keys).map Prod.fst).Nodup := by
  rw [settingEntries, List.map_map]
  exact h.map SettingKey.name_injective

theorem execute_settingLines (q : Quoting) (s : LibrarySettings) {kept : Option (List SettingKey)}
    (hkept : ∀ keys ∈ kept, keys.Nodup) (rest : List Statement) :
    ∃ current, Toml.execute [] ((settingLines q s kept).map Prod.snd ++ rest) [] =
      Toml.execute current rest (libraryEntry s kept) := by
  cases kept with
  | none => exact ⟨[], rfl⟩
  | some keys =>
      have hnodup := nodup_settingEntries s (hkept keys rfl)
      have hfresh : "library" ∉ List.map Prod.fst ([] : Entries) := List.not_mem_nil
      have hpairs := Toml.execute_pairs (Toml.leads_table hfresh) [] hnodup rest
      have hstatements : (settingLines q s (some keys)).map Prod.snd =
          .header ["library"] :: (settingEntries s keys).map pairStatement := by
        rw [settingLines, List.map_cons, List.map_map, settingEntries, List.map_map]
        rfl
      refine ⟨["library"], ?_⟩
      rw [hstatements, List.cons_append, Toml.execute, Toml.openTable_of_notMem hfresh]
      exact hpairs

theorem parse?_document (q : Quoting) {c : Config} (hinit : c.library.init.toNat < 2 ^ 63)
    {kept : Option (List SettingKey)} (hkept : ∀ keys ∈ kept, keys.Nodup) :
    Toml.parse? (c.document q kept) = some (libraryEntry c.library kept ++
      tablesEntry "operations" (c.operations.map operationEntries)) := by
  have hlines : ∀ line ∈ settingLines q c.library kept ++ c.operations.flatMap (operationLines q),
      IsLine line.1.toList line.2 := by
    intro line hline
    rcases List.mem_append.mp hline with hline | hline
    · exact isLine_of_mem_settingLines hinit line hline
    · obtain ⟨op, -, hline⟩ := List.mem_flatMap.mp hline
      exact isLine_of_mem_operationLines line hline
  have hstatements : (c.operations.flatMap (operationLines q)).map Prod.snd =
      (c.operations.map operationEntries).flatMap
        fun table => .elementHeader ["operations"] :: table.map pairStatement := by
    rw [List.map_flatMap, List.flatMap_map]
    rfl
  have hfront : "operations" ∉ (libraryEntry c.library kept).map Prod.fst := by
    cases kept with
    | none => exact List.not_mem_nil
    | some keys => simp [libraryEntry]
  have htables : ∀ table ∈ c.operations.map operationEntries, (table.map Prod.fst).Nodup :=
    List.forall_mem_map.mpr fun op _ => by simp [operationEntries]
  -- Where the settings leave off does not matter: an operation opens a table of its own.
  obtain ⟨current, hsettings⟩ := execute_settingLines q c.library hkept
    ((c.operations.flatMap (operationLines q)).map Prod.snd)
  have hrun := Toml.execute_elements hfront htables current []
  rw [← textOf_document, Toml.parse?_textOf hlines, Toml.entriesOf?, List.map_append, hsettings,
    hstatements]
  rwa [tablesEntry, List.append_nil, List.nil_append] at hrun

/-! ## The record of the entries -/

theorem get?_cons (key name : String) (node : Node) (rest : Entries) :
    Entries.get? ((key, node) :: rest) name = if key = name then some node else rest.get? name := by
  by_cases h : key = name <;> simp [Entries.get?, h]

theorem get?_settingEntries (s : LibrarySettings) (keys : List SettingKey) (k : SettingKey) :
    (settingEntries s keys).get? k.name = if k ∈ keys then some (k.node s) else none := by
  induction keys with
  | nil => rfl
  | cons key keys ih =>
      have hcons : settingEntries s (key :: keys) =
          (key.name, key.node s) :: settingEntries s keys := rfl
      rw [hcons, get?_cons, ih]
      by_cases hkey : key = k
      · subst hkey
        rw [if_pos rfl, if_pos List.mem_cons_self]
      · rw [if_neg (SettingKey.name_injective.ne hkey)]
        simp only [List.mem_cons, Ne.symm hkey, false_or]

theorem orDefault_ite {α : Type} {p : Prop} [Decidable p] (read : Node → Option α) {node : Node}
    {a : α} (h : read node = some a) (default : α) :
    Node.orDefault default read (if p then some node else none) =
      some (if p then a else default) := by
  split
  · exact h
  · rfl

theorem natBelow?_natCast {n bound : Nat} (h : n < bound) :
    Node.natBelow? bound (.integer n) = some n := by
  simp [Node.natBelow?, h]

theorem LibrarySettings.ofToml?_settingEntries (c : Config) (keys : List SettingKey) :
    ofToml? (.table .headed (settingEntries c.library keys)) =
      some (c.keeping keys).library := by
  have hrecord : Node.record? ["output", "width", "init", "arithmetic"]
      (.table .headed (settingEntries c.library keys)) =
        some (SettingKey.all.map fun k => if k ∈ keys then some (k.node c.library) else none) :=
    congrArg some (List.map_congr_left (l := SettingKey.all)
      fun k _ => get?_settingEntries c.library keys k)
  rw [ofToml?, hrecord]
  simp only [SettingKey.all, List.map_cons, List.map_nil, SettingKey.node]
  rw [orDefault_ite _ (natBelow?_natCast c.library.width.toNat_lt_size),
    orDefault_ite _ (natBelow?_natCast c.library.init.toNat_lt_size),
    orDefault_ite Node.text? rfl, orDefault_ite Node.boolean? rfl]
  simp only [bind, Option.bind, apply_ite Nat.toUInt32, apply_ite Nat.toUInt64]
  simp [Config.keeping]

theorem Operation.ofToml?_operationEntries (op : Operation) :
    ofToml? (.table .headed (operationEntries op)) = some op := by
  simp [ofToml?, operationEntries, Toml.Node.record?, Toml.Entries.get?, Toml.Node.label?,
    Toml.Node.text?, Category.ofLabel?_label]

theorem operationsOfToml?_tables (ops : List Operation) :
    Config.operationsOfToml? (.tables (ops.map operationEntries)) = some ops := by
  rw [Config.operationsOfToml?, Node.items?, List.map_map]
  exact mapM_map_eq_some Operation.ofToml?_operationEntries ops

theorem keeping_nil (c : Config) : (c.keeping []).library = {} := by
  simp [Config.keeping]

theorem orDefault_library (c : Config) (kept : Option (List SettingKey)) (ops : List Entries) :
    Node.orDefault {} LibrarySettings.ofToml?
        (Entries.get? (libraryEntry c.library kept ++ tablesEntry "operations" ops) "library") =
      some (c.keeping (kept.getD [])).library := by
  cases kept with
  | some keys => exact LibrarySettings.ofToml?_settingEntries c keys
  | none =>
      rw [Option.getD_none, keeping_nil]
      cases ops <;> rfl

theorem orDefault_operations (s : LibrarySettings) (kept : Option (List SettingKey))
    (ops : List Operation) :
    Node.orDefault [] Config.operationsOfToml?
        (Entries.get? (libraryEntry s kept ++ tablesEntry "operations" (ops.map operationEntries))
          "operations") = some ops := by
  cases ops with
  | nil => cases kept <;> rfl
  | cons op ops =>
      have hread := operationsOfToml?_tables (op :: ops)
      cases kept <;> exact hread

theorem Config.ofToml?_entries (c : Config) (kept : Option (List SettingKey)) :
    ofToml? (libraryEntry c.library kept ++
      tablesEntry "operations" (c.operations.map operationEntries)) =
      some (c.keeping (kept.getD [])) := by
  rw [ofToml?, orDefault_library, orDefault_operations]
  rfl

namespace Config

/-- The text is refused for the fault of the configuration, or loads as the configuration. -/
def IsLoadedFrom (c : Config) (s : String) : Prop :=
  (c.fault? = none → ofText s = .ok c) ∧
    ∀ fault, c.fault? = some fault → ofText s = .error (.faulty fault)

theorem keeping_all (c : Config) : c.keeping SettingKey.all = c := by
  simp [keeping, SettingKey.all]

theorem isLoadedFrom_document (q : Quoting) {c : Config} (hinit : c.library.init.toNat < 2 ^ 63)
    {kept : Option (List SettingKey)} (hkept : ∀ keys ∈ kept, keys.Nodup) :
    (c.keeping (kept.getD [])).IsLoadedFrom (c.document q kept) := by
  have htext : ofText (c.document q kept) = (c.keeping (kept.getD [])).validate := by
    rw [ofText, parse?_document q hinit hkept, Option.bind_some, ofToml?_entries]
  constructor
  · intro hfault
    rw [htext, validate, hfault]
  · intro fault hfault
    rw [htext, validate, hfault]

/--
The document of a configuration loads as the configuration, or is refused for its fault. Where
settings are left out, or their table as a whole, the standard ones stand in for them.
-/
theorem document_loads (q : Quoting) (c : Config) (hinit : c.library.init.toNat < 2 ^ 63) :
    c.IsLoadedFrom (c.document q (some SettingKey.all)) ∧
    ∀ kept : Option (List SettingKey), (∀ keys ∈ kept, keys.Nodup) →
      (c.keeping (kept.getD [])).IsLoadedFrom (c.document q kept) := by
  refine ⟨?_, fun kept hkept => isLoadedFrom_document q hinit hkept⟩
  have hnodup : ∀ keys ∈ some SettingKey.all, keys.Nodup := by
    rintro _ ⟨⟩
    decide
  have hall := isLoadedFrom_document q hinit hnodup
  rwa [Option.getD_some, keeping_all] at hall

/-- Every character that has to be escaped, an integer at its bound, and two settings left out. -/
theorem document_loads_escapes :
    let c : Config := ⟨⟨"a\"b\\#[=\n\x7f\x00é", 16, 9223372036854775807, false⟩,
      [⟨.binaryReduce, "below", "in0 < in1 # ]]\t"⟩]⟩
    c.library.init.toNat < 2 ^ 63 ∧
    ofText (c.document .standard (some [.init, .output])) = .ok c := by
  intro c
  have hinit : c.library.init.toNat < 2 ^ 63 := by decide
  have hnodup : ∀ keys ∈ some [SettingKey.init, .output], keys.Nodup := by
    rintro _ ⟨⟩
    decide
  have hloads := (document_loads .standard c hinit).2 (some [.init, .output]) hnodup
  exact ⟨hinit, hloads.1 (by decide +kernel)⟩

end Config

end VerilogLibrary
