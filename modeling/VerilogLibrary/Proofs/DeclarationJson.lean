import Mathlib
import VerilogLibrary.Listing
import VerilogLibrary.Proofs.PrintedJson

/-!
# Declarations survive the passage through JSON

Reading undoes writing at every level, for a width, a parameter, a port and a
declaration, and nothing is asked of a declaration for that: a faulty one comes
back with its faults. An object whose members have different names reads as a
record by looking each field up, whatever other members stand among them. That
is why the entries of a listing, which have the label of their section in front,
are read by the same reader.
-/

namespace VerilogLibrary

/-! ## Records -/

namespace Json

theorem member?_map (members : List (String × Json)) (name : String) :
    member? (members.map fun (name, value) => (some name, value)) name = members.lookup name := by
  induction members with
  | nil => rfl
  | cons member rest ih =>
      obtain ⟨key, value⟩ := member
      by_cases h : name = key
      · subst h
        simp [member?]
      · rw [List.lookup_cons, beq_false_of_ne h, ← ih]
        simp [member?, Ne.symm h]

theorem memberNames?_map (members : List (String × Json)) :
    memberNames? (members.map fun (name, value) => (some name, value)) =
      some (members.map Prod.fst) := by
  induction members with
  | nil => rfl
  | cons member rest ih =>
      rw [memberNames?, List.map_cons, List.mapM_cons]
      rw [memberNames?] at ih
      rw [ih]
      rfl

/-- An object without repeated names has in each slot what stands under its name. -/
theorem record?_record (names : List String) {members : List (String × Json)}
    (h : (members.map Prod.fst).Nodup) :
    record? names (.record members) = some (names.map (List.lookup · members)) := by
  have hcount : names.any (fun name => 1 < (members.map Prod.fst).count name) = false := by
    rw [List.any_eq_false]
    intro name _
    have hle := List.nodup_iff_count_le_one.mp h name
    simpa using hle
  rw [record, record?, memberNames?_map]
  simp only [bind, Option.bind, hcount, Bool.false_eq_true, if_false]
  exact congrArg some (List.map_congr_left fun name _ => member?_map members name)

theorem natBelow?_nat {n bound : Nat} (h : n < bound) : natBelow? bound (.nat n) = some n := by
  have hdigits : (toString n).toList.all Char.isDigit = true :=
    List.all_eq_true.mpr fun c hc => isDigit_of_mem_toString hc
  have hvalue : (toString n).toList.foldl (fun n d => 10 * n + (d.toNat - '0'.toNat)) 0 = n :=
    ofDigitChars_toString n
  simp only [nat, natBelow?, hdigits, if_true, hvalue, if_pos h]

theorem optionalText?_ofOption (text? : Option String) :
    optionalText? (some (ofOption text?)) = some text? := by
  cases text? <;> rfl

theorem wellFormed_ofOption (text? : Option String) : WellFormed (ofOption text?) := by
  cases text? with
  | none => exact .null
  | some s => exact .string _

theorem wellFormed_record {members : List (String × Json)}
    (h : ∀ member ∈ members, WellFormed member.2) : WellFormed (record members) := by
  refine .object fun member hmember => ?_
  obtain ⟨named, hnamed, rfl⟩ := List.mem_map.mp hmember
  exact h named hnamed

end Json

open Json (WellFormed wellFormed_record)

/-! ## The parts of a declaration -/

theorem Direction.ofJson?_toJson (d : Direction) : ofJson? d.toJson = some d := by
  cases d <;> rfl

theorem Width.ofJson?_toJson (w : Width) : ofJson? w.toJson = some w := by
  cases w with
  | parameter name => rfl
  | literal bits =>
      show (Json.natBelow? UInt32.size (.nat bits.toNat)).map
        (fun bits => Width.literal bits.toUInt32) = some (.literal bits)
      rw [Json.natBelow?_nat bits.toNat_lt_size, Option.map_some]
      simp

theorem Parameter.ofJson?_toJson (p : Parameter) : ofJson? p.toJson = some p := by
  rw [ofJson?, toJson, Json.record?_record _ (by simp)]
  simp [List.lookup, Json.text, Json.text?, Json.optionalText?_ofOption]

theorem Port.ofJson?_toJson (p : Port) : ofJson? p.toJson = some p := by
  rw [ofJson?, toJson, Json.record?_record _ (by simp)]
  simp [List.lookup, Json.text, Json.text?, Direction.ofJson?_toJson, Width.ofJson?_toJson]

/-! ## Declarations -/

/-- Whatever else an object holds, it reads as a declaration if it has the members of one. -/
theorem ModuleDecl.ofJson?_record {m : ModuleDecl} {members : List (String × Json)}
    (hnames : (members.map Prod.fst).Nodup)
    (h : ∀ name ∈ ["name", "parameters", "ports", "body"],
      members.lookup name = m.jsonMembers.lookup name) :
    ofJson? (.record members) = some m := by
  rw [ofJson?, Json.record?_record _ hnames, List.map_congr_left h]
  simp [jsonMembers, List.lookup, Json.text, Json.text?, Json.array?, Json.optionalText?_ofOption,
    mapM_map_eq_some Parameter.ofJson?_toJson, mapM_map_eq_some Port.ofJson?_toJson]

theorem ModuleDecl.ofJson?_toJson (m : ModuleDecl) : ofJson? m.toJson = some m :=
  ofJson?_record (by simp [jsonMembers]) fun _ _ => rfl

theorem ModuleDecl.ofJson?_listingObject (entry : Section × ModuleDecl) :
    ofJson? (listingObject entry) = some entry.2 := by
  refine ofJson?_record (by simp [jsonMembers]) fun name hname => ?_
  have hother : (name == "section") = false := by
    rw [beq_eq_false_iff_ne]
    rintro rfl
    simp at hname
  rw [List.lookup_cons, hother]

theorem Parameter.wellFormed_toJson (p : Parameter) : WellFormed p.toJson := by
  refine wellFormed_record fun member hmember => ?_
  fin_cases hmember
  · exact .string _
  · exact Json.wellFormed_ofOption _

theorem Port.wellFormed_toJson (p : Port) : WellFormed p.toJson := by
  refine wellFormed_record fun member hmember => ?_
  fin_cases hmember
  · exact .string _
  · exact .string _
  · show WellFormed p.width.toJson
    cases p.width with
    | literal bits => exact Json.wellFormed_nat _
    | parameter name => exact .string _

theorem ModuleDecl.wellFormed_of_mem_jsonMembers {m : ModuleDecl} {member : String × Json}
    (h : member ∈ m.jsonMembers) : WellFormed member.2 := by
  fin_cases h
  · exact .string _
  · exact .array (List.forall_mem_map.mpr fun p _ => p.wellFormed_toJson)
  · exact .array (List.forall_mem_map.mpr fun p _ => p.wellFormed_toJson)
  · exact Json.wellFormed_ofOption _

theorem ModuleDecl.wellFormed_toJson (m : ModuleDecl) : WellFormed m.toJson :=
  wellFormed_record fun _ h => wellFormed_of_mem_jsonMembers h

theorem wellFormed_listingObject (entry : Section × ModuleDecl) :
    WellFormed (listingObject entry) := by
  refine wellFormed_record fun member h => ?_
  rcases List.mem_cons.mp h with rfl | h
  · exact .string _
  · exact ModuleDecl.wellFormed_of_mem_jsonMembers h

theorem parse?_listing (entries : List (Section × ModuleDecl)) :
    Json.parse? (listing entries .json) = some (.array (entries.map listingObject)) := by
  have hitems : WellFormed (.array (entries.map listingObject)) :=
    .array (List.forall_mem_map.mpr fun entry _ => wellFormed_listingObject entry)
  exact Json.parse?_pretty_append hitems (Json.areSpaces_singleton rfl)

/-- The members of an object that have a name. -/
def Json.membersNamed (name : String) : Json → List Json
  | .object members => (members.filter (·.1 == some name)).map (·.2)
  | _ => []

/--
A declaration in compact layout reads as itself. A listing reads as one array, which has an item
for each entry: an object in which the label of the section stands under `section`, and which
reads as the declaration.
-/
theorem declarations_survive_json :
    (∀ m : ModuleDecl, (Json.parse? m.toJson.compact).bind ModuleDecl.ofJson? = some m) ∧
    ∀ entries : List (Section × ModuleDecl), ∃ items,
      Json.parse? (listing entries .json) = some (.array items) ∧
      items.length = entries.length ∧
      ∀ i (hitem : i < items.length) (hentry : i < entries.length),
        items[i].membersNamed "section" = [.text entries[i].1.label] ∧
        ModuleDecl.ofJson? items[i] = some entries[i].2 := by
  refine ⟨fun m => ?_, fun entries => ?_⟩
  · rw [Json.parse?_compact m.wellFormed_toJson, Option.bind_some, m.ofJson?_toJson]
  · refine ⟨_, parse?_listing entries, List.length_map _, fun i hitem hentry => ?_⟩
    rw [List.getElem_map]
    refine ⟨?_, ModuleDecl.ofJson?_listingObject entries[i]⟩
    simp [listingObject, Json.record, Json.membersNamed, ModuleDecl.jsonMembers]

end VerilogLibrary
