import VerilogLibrary.ModuleDecl.Render
import VerilogLibrary.Proofs.CheckedInOrder

/-!
# Which declarations have no fault

The checker walks over a declaration with the names of the ports it has seen.
Here is what it accepts, said without the walk: `ModuleDecl.IsLegal` asks for
an identifier as a name, for ports, for a body with something in it, and that
each port is legal and no two ports share a name.
-/

namespace VerilogLibrary

/-- A port whose name and width can be written. -/
structure Port.IsLegal (p : Port) : Prop where
  name : Text.isIdentifier p.name = true
  width : p.width.isMeaningful = true

/-- A declaration that can be rendered. -/
structure ModuleDecl.IsLegal (m : ModuleDecl) : Prop where
  name : Text.isIdentifier m.name = true
  ports_ne_nil : m.ports ≠ []
  hasBody : m.lacksBody = false
  ports : ∀ p ∈ m.ports, p.IsLegal
  nodup : (m.ports.map Port.name).Nodup

instance (p : Port) : Decidable p.IsLegal :=
  decidable_of_iff (Text.isIdentifier p.name = true ∧ p.width.isMeaningful = true)
    ⟨fun ⟨hname, hwidth⟩ => ⟨hname, hwidth⟩, fun ⟨hname, hwidth⟩ => ⟨hname, hwidth⟩⟩

/-! ## The checker -/

namespace ModuleDecl

theorem portFault?_eq_none_iff {decl : String} {earlier : List String} {p : Port} :
    portFault? decl earlier p = none ↔ p.IsLegal ∧ p.name ∉ earlier := by
  rw [portFault?, ite_some_eq_none_iff, ite_some_eq_none_iff, ite_some_eq_none_iff]
  constructor
  · rintro ⟨hname, hmem, hwidth, -⟩
    exact ⟨⟨by simpa using hname, by simpa using hwidth⟩, hmem⟩
  · rintro ⟨hlegal, hmem⟩
    exact ⟨by simpa using hlegal.name, hmem, by simpa using hlegal.width, rfl⟩

theorem portsFault?_eq_walkFault? (decl : String) (earlier : List String) (ports : List Port) :
    portsFault? decl earlier ports = walkFault? (portFault? decl) Port.name earlier ports := by
  induction ports generalizing earlier with
  | nil => rfl
  | cons p rest ih =>
      rw [portsFault?, walkFault?, ih]
      cases portFault? decl earlier p <;> rfl

theorem portsFault?_eq_none_iff {decl : String} {earlier : List String} {ports : List Port} :
    portsFault? decl earlier ports = none ↔
      (∀ p ∈ ports, p.IsLegal ∧ p.name ∉ earlier) ∧ (ports.map Port.name).Nodup := by
  rw [portsFault?_eq_walkFault?]
  exact walkFault?_eq_none_iff Port.IsLegal fun _ _ => portFault?_eq_none_iff

/-- The checker accepts the legal declarations and no others. -/
theorem fault?_eq_none_iff {m : ModuleDecl} : m.fault? = none ↔ m.IsLegal := by
  rw [fault?, ite_some_eq_none_iff, ite_some_eq_none_iff, ite_some_eq_none_iff,
    portsFault?_eq_none_iff]
  constructor
  · rintro ⟨hname, hports, hbody, hall, hnodup⟩
    exact ⟨by simpa using hname, by simpa using hports, by simpa using hbody,
      fun p hp => (hall p hp).1, hnodup⟩
  · intro hlegal
    exact ⟨by simpa using hlegal.name, by simpa using hlegal.ports_ne_nil,
      by simpa using hlegal.hasBody, fun p hp => ⟨hlegal.ports p hp, List.not_mem_nil⟩,
      hlegal.nodup⟩

theorem check_eq_ok_iff {m : ModuleDecl} : m.check = .ok () ↔ m.IsLegal := by
  rw [← fault?_eq_none_iff, check]
  cases m.fault? with
  | none => exact ⟨fun _ => rfl, fun _ => rfl⟩
  | some fault => exact ⟨nofun, nofun⟩

theorem render_of_isLegal {m : ModuleDecl} (h : m.IsLegal) : m.render = .ok m.text := by
  rw [render, fault?_eq_none_iff.mpr h]

theorem render_eq_ok_iff {m : ModuleDecl} {text : String} :
    m.render = .ok text ↔ m.IsLegal ∧ text = m.text := by
  rw [← fault?_eq_none_iff, render]
  cases m.fault? with
  | none => simp [eq_comm]
  | some fault => exact ⟨nofun, fun h => nomatch h.1⟩

end ModuleDecl

end VerilogLibrary
