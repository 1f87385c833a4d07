import VerilogLibrary.Proofs.DeclarationJson

/-!
# How a declaration may be laid out in JSON

The reader of a record asks two things of an object: what stands under the
names that it knows, and that nothing stands there twice. Where in the object a
member stands, and what there is under other names, has no part in it, and the
array of all fields is read the same way. `Json.WritesRecord` puts this as a
relation between the fields of a record and the values that write it, and
`ModuleDecl.fields` uses it on three levels: for the declaration, for its
parameters and for its ports. The freedom of the text that writes a value is
that of the grammar of JSON.

What spoils a record is said by the same means: a known name with two members,
or a required one with none. A record that is spoiled spoils the declaration,
whatever else the declaration holds.
-/

namespace VerilogLibrary

/-! ## Fields and records -/

namespace Json

/-- A field of a record: its name, and what may stand for it. For a field that is left out stands
nothing. -/
structure Field where
  name : String
  IsWrittenAs : Option Json → Prop

/-- A field that holds a text. -/
def Field.text (name text : String) : Field :=
  ⟨name, fun value? => value? = some (.text text)⟩

/-- A field that may hold a text. Without one, it is null or left out. -/
def Field.optionalText (name : String) (text? : Option String) : Field :=
  ⟨name, fun value? => value? = some (.ofOption text?) ∨ value? = none ∧ text? = none⟩

/-- A field that holds a list. -/
def Field.list {α : Type} (name : String) (writes : α → Json → Prop) (as : List α) : Field :=
  ⟨name, fun value? => ∃ items, value? = some (.array items) ∧ List.Forall₂ writes as items⟩

/-- A value that writes a record: an object with one member for each field, or none for one that
is left out, among members of other names; or the array of all fields. -/
inductive WritesRecord (fields : List Field) : Json → Prop
  | object {members : List (Option String × Json)} : (∀ member ∈ members, member.1.isSome) →
      (∀ f ∈ fields, ∃ value?, f.IsWrittenAs value? ∧
        (Json.object members).membersNamed f.name = value?.toList) →
      WritesRecord fields (.object members)
  | array {items : List Json} :
      List.Forall₂ (fun f item => f.IsWrittenAs (some item)) fields items →
      WritesRecord fields (.array items)

/-- An object in which a known field is repeated, or a required one is missing. -/
def SpoilsRecord (known required : List String) (j : Json) : Prop :=
  ∃ members, j = .object members ∧
    ((∃ name ∈ known, 1 < (j.membersNamed name).length) ∨
      ∃ name ∈ required, j.membersNamed name = [])

/-- A value stands for the field at an index: as a member of its name, or in its place. -/
inductive StandsFor (names : List String) (index : Nat) (value : Json) : Json → Prop
  | object {members : List (Option String × Json)} {name : String} : names[index]? = some name →
      (some name, value) ∈ members → StandsFor names index value (.object members)
  | array {items : List Json} : items[index]? = some value →
      StandsFor names index value (.array items)

end Json

/-- The fields of a parameter. -/
def Parameter.fields (p : Parameter) : List Json.Field :=
  [.text "name" p.name, .optionalText "default" p.default?]

/-- The fields of a port. -/
def Port.fields (p : Port) : List Json.Field :=
  [⟨"direction", fun value? => value? = some p.direction.toJson⟩, .text "name" p.name,
    ⟨"width", fun value? => value? = some p.width.toJson⟩]

/-- The fields of a declaration. -/
def ModuleDecl.fields (m : ModuleDecl) : List Json.Field :=
  [.text "name" m.name,
    .list "parameters" (fun p item => Json.WritesRecord (Parameter.fields p) item) m.parameters,
    .list "ports" (fun p item => Json.WritesRecord (Port.fields p) item) m.ports,
    .optionalText "body" m.body?]

/-- A value in which the object of the declaration, of a parameter or of a port is spoiled. -/
inductive ModuleDecl.IsSpoiled (j : Json) : Prop
  | decl : j.SpoilsRecord ["name", "parameters", "ports", "body"] ["name", "parameters", "ports"] →
      IsSpoiled j
  | parameter {items : List Json} {item : Json} :
      Json.StandsFor ["name", "parameters", "ports", "body"] 1 (.array items) j → item ∈ items →
      item.SpoilsRecord ["name", "default"] ["name"] → IsSpoiled j
  | port {items : List Json} {item : Json} :
      Json.StandsFor ["name", "parameters", "ports", "body"] 2 (.array items) j → item ∈ items →
      item.SpoilsRecord ["direction", "name", "width"] ["direction", "name", "width"] → IsSpoiled j

/-! ## Reading a record -/

namespace Json

theorem member?_eq_head? (members : List (Option String × Json)) (name : String) :
    member? members name = ((Json.object members).membersNamed name).head? := by
  rw [member?, membersNamed, List.head?_map, List.head?_filter]

theorem memberNames?_eq_some_iff {members : List (Option String × Json)} {names : List String} :
    memberNames? members = some names ↔ members.map Prod.fst = names.map some := by
  rw [memberNames?, mapM_eq_some_iff, ← List.forall₂_eq_eq_eq, List.forall₂_map_left_iff,
    List.forall₂_map_right_iff]

theorem exists_memberNames? {members : List (Option String × Json)}
    (h : ∀ member ∈ members, member.1.isSome) : ∃ names, memberNames? members = some names := by
  induction members with
  | nil => exact ⟨[], rfl⟩
  | cons member rest ih =>
      obtain ⟨hmember, hrest⟩ := List.forall_mem_cons.mp h
      obtain ⟨name, hname⟩ := Option.isSome_iff_exists.mp hmember
      obtain ⟨names, hnames⟩ := ih hrest
      rw [memberNames?_eq_some_iff] at hnames
      refine ⟨name :: names, memberNames?_eq_some_iff.mpr ?_⟩
      rw [List.map_cons, hname, hnames, List.map_cons]

theorem count_eq_length_membersNamed {members : List (Option String × Json)}
    {names : List String} (h : memberNames? members = some names) (name : String) :
    names.count name = ((Json.object members).membersNamed name).length := by
  rw [memberNames?_eq_some_iff] at h
  rw [membersNamed, List.length_map, ← List.countP_eq_length_filter]
  have hcount : (names.map some).count (some name) = names.count name :=
    List.count_map_of_injective names some (Option.some_injective _) name
  rw [← hcount, ← h, List.count, List.countP_map]
  rfl

/-- Of an object the reader wants names that are texts, and none of its own twice. -/
theorem record?_object_eq_some_iff {names : List String} {members : List (Option String × Json)}
    {slots : List (Option Json)} :
    record? names (.object members) = some slots ↔
      (∃ present, memberNames? members = some present) ∧
        (∀ name ∈ names, ((Json.object members).membersNamed name).length ≤ 1) ∧
        slots = names.map fun name => ((Json.object members).membersNamed name).head? := by
  have hslots : names.map (member? members) =
      names.map fun name => ((Json.object members).membersNamed name).head? :=
    List.map_congr_left fun name _ => member?_eq_head? members name
  rw [record?]
  cases hpresent : memberNames? members with
  | none => simp
  | some present =>
      have hany : (names.any fun name => decide (1 < present.count name)) = false ↔
          ∀ name ∈ names, ((Json.object members).membersNamed name).length ≤ 1 := by
        simp [count_eq_length_membersNamed hpresent]
      simp only [Option.bind_eq_bind, Option.bind_some, hslots]
      split
      · next hrepeated =>
          refine iff_of_false (Option.some_ne_none slots).symm ?_
          rintro ⟨-, honce, -⟩
          rw [hany.mpr honce] at hrepeated
          cases hrepeated
      · next honce =>
          rw [Bool.not_eq_true, hany] at honce
          exact ⟨fun h => ⟨⟨present, rfl⟩, honce, (Option.some.inj h).symm⟩,
            fun h => congrArg some h.2.2.symm⟩

/-- The reader finds in each slot what stands for the field. -/
theorem WritesRecord.exists_slots {fields : List Field} {j : Json} (h : WritesRecord fields j) :
    ∃ slots, record? (fields.map Field.name) j = some slots ∧
      List.Forall₂ (fun f slot => f.IsWrittenAs slot) fields slots := by
  cases h with
  | @object members hnames hfields =>
      refine ⟨_, record?_object_eq_some_iff.mpr ⟨exists_memberNames? hnames, ?_, rfl⟩, ?_⟩
      · rw [List.forall_mem_map]
        intro f hf
        obtain ⟨value?, -, hvalue⟩ := hfields f hf
        rw [hvalue]
        cases value? <;> simp
      · rw [List.map_map, List.forall₂_map_right_iff, List.forall₂_same]
        intro f hf
        obtain ⟨value?, hwritten, hvalue⟩ := hfields f hf
        rw [Function.comp_apply, hvalue]
        cases value? <;> exact hwritten
  | @array items hitems =>
      refine ⟨items.map some, ?_, List.forall₂_map_right_iff.mpr hitems⟩
      rw [record?, if_pos (by rw [List.length_map, hitems.length_eq])]

/-- What is read of a spoiled record lacks a field. -/
theorem SpoilsRecord.exists_found {known required : List String} {j : Json}
    (h : j.SpoilsRecord known required) {slots : List (Option Json)}
    (hslots : record? known j = some slots) :
    ∃ found : String → Option Json, slots = known.map found ∧
      ∃ name ∈ required, found name = none := by
  obtain ⟨members, rfl, hspoiled⟩ := h
  obtain ⟨-, honce, rfl⟩ := record?_object_eq_some_iff.mp hslots
  refine ⟨_, rfl, ?_⟩
  rcases hspoiled with ⟨name, hname, hrepeated⟩ | ⟨name, hname, hmissing⟩
  · exact absurd (honce name hname) (Nat.not_le_of_lt hrepeated)
  · exact ⟨name, hname, by rw [hmissing, List.head?_nil]⟩

/-- What stands for a field is what the reader finds there. -/
theorem StandsFor.getElem?_slots {names : List String} {index : Nat} {value j : Json}
    (h : StandsFor names index value j) {slots : List (Option Json)}
    (hslots : record? names j = some slots) : slots[index]? = some (some value) := by
  cases h with
  | @object members name hname hmem =>
      obtain ⟨-, honce, rfl⟩ := record?_object_eq_some_iff.mp hslots
      have hvalue : value ∈ (Json.object members).membersNamed name :=
        List.mem_map.mpr ⟨_, List.mem_filter.mpr ⟨hmem, beq_self_eq_true (some name)⟩, rfl⟩
      -- Nothing else has the name, so the first member of the name is this one.
      have hle := honce name (List.mem_of_getElem? hname)
      rw [List.getElem?_map, hname, Option.map_some]
      match hnamed : (Json.object members).membersNamed name with
      | [] => rw [hnamed] at hvalue; cases hvalue
      | [found] =>
          rw [hnamed, List.mem_singleton] at hvalue
          rw [hvalue, List.head?_cons]
      | _ :: _ :: _ => rw [hnamed] at hle; exact absurd hle (by simp)
  | @array items hitem =>
      rw [record?] at hslots
      split at hslots
      · obtain rfl := Option.some.inj hslots
        rw [List.getElem?_map, hitem, Option.map_some]
      · cases hslots

theorem optionalText?_of_isWrittenAs {name : String} {text? : Option String}
    {value? : Option Json} (h : (Field.optionalText name text?).IsWrittenAs value?) :
    optionalText? value? = some text? := by
  obtain rfl | ⟨rfl, rfl⟩ := h
  · exact optionalText?_ofOption text?
  · rfl

end Json

/-! ## Declarations -/

theorem Parameter.ofJson?_of_writesRecord {p : Parameter} {j : Json}
    (h : Json.WritesRecord p.fields j) : ofJson? j = some p := by
  obtain ⟨slots, hrecord, hslots⟩ := h.exists_slots
  match hslots with
  | .cons hname (.cons hdefault .nil) =>
      obtain rfl := hname
      have hrecord : Json.record? ["name", "default"] j = _ := hrecord
      rw [ofJson?, hrecord]
      simp [Json.text, Json.text?, Json.optionalText?_of_isWrittenAs hdefault]

theorem Port.ofJson?_of_writesRecord {p : Port} {j : Json}
    (h : Json.WritesRecord p.fields j) : ofJson? j = some p := by
  obtain ⟨slots, hrecord, hslots⟩ := h.exists_slots
  match hslots with
  | .cons hdirection (.cons hname (.cons hwidth .nil)) =>
      obtain rfl := hdirection
      obtain rfl := hname
      obtain rfl := hwidth
      have hrecord : Json.record? ["direction", "name", "width"] j = _ := hrecord
      rw [ofJson?, hrecord]
      simp [Json.text, Json.text?, Direction.ofJson?_toJson, Width.ofJson?_toJson]

theorem ModuleDecl.ofJson?_of_writesRecord {m : ModuleDecl} {j : Json}
    (h : Json.WritesRecord m.fields j) : ofJson? j = some m := by
  obtain ⟨slots, hrecord, hslots⟩ := h.exists_slots
  match hslots with
  | .cons hname (.cons hparameters (.cons hports (.cons hbody .nil))) =>
      obtain rfl := hname
      obtain ⟨parameters, rfl, hparameters⟩ := hparameters
      obtain ⟨ports, rfl, hports⟩ := hports
      have hrecord : Json.record? ["name", "parameters", "ports", "body"] j = _ := hrecord
      have hparameters := mapM_eq_some_of_forall₂
        (fun _ _ h => Parameter.ofJson?_of_writesRecord h) hparameters
      have hports := mapM_eq_some_of_forall₂ (fun _ _ h => Port.ofJson?_of_writesRecord h) hports
      rw [ofJson?, hrecord]
      simp [Json.text, Json.text?, Json.array?, Json.optionalText?_of_isWrittenAs hbody,
        hparameters, hports]

theorem Parameter.ofJson?_of_spoilsRecord {j : Json}
    (h : j.SpoilsRecord ["name", "default"] ["name"]) : ofJson? j = none := by
  rw [ofJson?]
  cases hrecord : Json.record? ["name", "default"] j with
  | none => rfl
  | some slots =>
      obtain ⟨found, rfl, name, hname, hnone⟩ := h.exists_found hrecord
      obtain rfl := List.mem_singleton.mp hname
      simp [hnone]

theorem Port.ofJson?_of_spoilsRecord {j : Json}
    (h : j.SpoilsRecord ["direction", "name", "width"] ["direction", "name", "width"]) :
    ofJson? j = none := by
  rw [ofJson?]
  cases hrecord : Json.record? ["direction", "name", "width"] j with
  | none => rfl
  | some slots =>
      obtain ⟨found, rfl, name, hname, hnone⟩ := h.exists_found hrecord
      fin_cases hname <;> simp [hnone]

theorem ModuleDecl.ofJson?_of_isSpoiled {j : Json} (h : IsSpoiled j) : ofJson? j = none := by
  rw [ofJson?]
  split
  · next name parameters ports body? hrecord =>
      cases h with
      | decl hspoiled =>
          obtain ⟨found, hfound, name, hname, hnone⟩ := hspoiled.exists_found hrecord
          fin_cases hname <;> simp [hnone] at hfound
      | parameter hstands hitem hspoiled =>
          have hslot := hstands.getElem?_slots hrecord
          obtain rfl := Option.some.inj (Option.some.inj hslot)
          simp [Json.array?,
            mapM_eq_none_of_mem hitem (Parameter.ofJson?_of_spoilsRecord hspoiled)]
      | port hstands hitem hspoiled =>
          have hslot := hstands.getElem?_slots hrecord
          obtain rfl := Option.some.inj (Option.some.inj hslot)
          simp [Json.array?, mapM_eq_none_of_mem hitem (Port.ofJson?_of_spoilsRecord hspoiled)]
  · rfl

/--
A text that writes the fields of a declaration is read as the declaration, however the members and
the blanks stand, whatever other members there are, and whether a record is an object or an array.
A text that repeats a field in one of the objects, or leaves a required one out, is not read.
-/
theorem ModuleDecl.reads_any_layout :
    (∀ (m : ModuleDecl) (s : String) (j : Json), Json.WritesPadded s.toList j →
      Json.WritesRecord m.fields j → (Json.parse? s).bind ofJson? = some m) ∧
    ∀ (s : String) (j : Json), Json.WritesPadded s.toList j → IsSpoiled j →
      (Json.parse? s).bind ofJson? = none := by
  refine ⟨fun m s j hs hm => ?_, fun s j hs hspoiled => ?_⟩
  · rw [Json.parse?_of_writesPadded hs, Option.bind_some, ofJson?_of_writesRecord hm]
  · rw [Json.parse?_of_writesPadded hs, Option.bind_some, ofJson?_of_isSpoiled hspoiled]

/-- Members in an order of their own, one that nobody knows, no body and no default, and the port
as an array. With an object for the port that has its name twice, the text is not read. -/
theorem ModuleDecl.reads_turned_layout :
    let layout (port : Json) : Json := .record [("color", .array [.null]), ("ports", .array [port]),
      ("parameters", .array [.record [("name", .text "W")]]), ("name", .text "Top")]
    let fields : Json := .array [.text "input", .text "a", .nat 8]
    let twice : Json := .record [("name", .text "a"), ("direction", .text "input"),
      ("width", .nat 8), ("name", .text "a")]
    (Json.parse? ((layout fields).pretty ++ "\n")).bind ofJson? =
      some ⟨"Top", [⟨"W", none⟩], [⟨.input, "a", .literal 8⟩], none⟩ ∧
    (Json.parse? ((layout twice).pretty ++ "\n")).bind ofJson? = none := by
  intro layout fields twice
  have hwrites (port : Json) (h : Json.WellFormed port) :
      Json.WritesPadded ((layout port).pretty ++ "\n").toList (layout port) := by
    refine Json.writesPadded_pretty_append ?_ (Json.areSpaces_singleton rfl)
    refine Json.wellFormed_record fun member hmember => ?_
    fin_cases hmember
    · exact .array (List.forall_mem_singleton.mpr .null)
    · exact .array (List.forall_mem_singleton.mpr h)
    · exact .array (List.forall_mem_singleton.mpr
        (Json.wellFormed_record (List.forall_mem_singleton.mpr (.string _))))
    · exact .string _
  refine ⟨reads_any_layout.1 _ _ (layout fields) (hwrites fields ?_) ?_,
    reads_any_layout.2 _ (layout twice) (hwrites twice ?_) ?_⟩
  · refine .array fun item hitem => ?_
    fin_cases hitem
    · exact .string _
    · exact .string _
    · exact Json.wellFormed_nat 8
  · have hport : Json.WritesRecord (Port.fields ⟨.input, "a", .literal 8⟩) fields :=
      .array (.cons rfl (.cons rfl (.cons rfl .nil)))
    have hparameter : Json.WritesRecord (Parameter.fields ⟨"W", none⟩)
        (.record [("name", .text "W")]) := by
      refine .object (by simp) fun f hf => ?_
      fin_cases hf
      · exact ⟨_, rfl, rfl⟩
      · exact ⟨none, .inr ⟨rfl, rfl⟩, rfl⟩
    refine .object (by simp) fun f hf => ?_
    fin_cases hf
    · exact ⟨_, rfl, rfl⟩
    · exact ⟨_, ⟨_, rfl, .cons hparameter .nil⟩, rfl⟩
    · exact ⟨_, ⟨_, rfl, .cons hport .nil⟩, rfl⟩
    · exact ⟨none, .inr ⟨rfl, rfl⟩, rfl⟩
  · refine Json.wellFormed_record fun member hmember => ?_
    fin_cases hmember
    · exact .string _
    · exact .string _
    · exact Json.wellFormed_nat 8
    · exact .string _
  · refine .port (.object rfl (.tail _ (.head _))) (List.mem_singleton_self _) ?_
    exact ⟨_, rfl, .inl ⟨"name", by simp, by decide⟩⟩

end VerilogLibrary
