import Mathlib
import VerilogLibrary.Proofs.ModuleFaults

/-!
# Which fault is reported

A declaration can have many faults, and the checker reports one of them. It
looks at the name, at whether there are ports, at the body, and then at the
ports one after the other; of a port it looks at the name, at the ports in
front of it, and at the width. `ModuleDecl.Violation` says the same without a
walk: a port is faulty or not by its index alone, and what is reported is the
first thing in this order that is wrong.

The walk over the ports is one over items with keys, the names being the keys,
so what it reports is told by `walkFault?_nil_eq_some_iff`. What is left to do is
to say of one port when it is faulty, and what there is to report of it.
-/

namespace VerilogLibrary

/-! ## One port -/

/-- A width that can be written: a positive number of bits, or the name of a parameter. -/
def Width.IsWritable : Width → Prop
  | .literal bits => 0 < bits.toNat
  | .parameter name => Text.isIdentifier name = true

theorem Width.isMeaningful_iff {w : Width} : w.isMeaningful = true ↔ w.IsWritable := by
  cases w with
  | parameter name => exact Iff.rfl
  | literal bits =>
      rw [isMeaningful, IsWritable, bne_iff_ne, ne_eq, ← UInt32.toNat_inj, Nat.pos_iff_ne_zero]
      rfl

theorem Width.isMeaningful_eq_false_iff {w : Width} :
    (!w.isMeaningful) = true ↔ ¬ w.IsWritable := by
  rw [Bool.not_eq_true', ← isMeaningful_iff, Bool.not_eq_true]

/-- What is reported of a port, where `repeats` says whether a port in front of it has its name. -/
inductive Port.Violation (decl : String) (repeats : Prop) (p : Port) : ModuleDecl.Fault → Prop
  | name : Text.isIdentifier p.name = false →
      Violation decl repeats p (.invalidPortName decl p.name)
  | repeated : Text.isIdentifier p.name = true → repeats →
      Violation decl repeats p (.duplicatePort decl p.name)
  | width : Text.isIdentifier p.name = true → ¬ repeats → ¬ p.width.IsWritable →
      Violation decl repeats p (.invalidWidth decl p.name p.width)

namespace ModuleDecl

theorem portFault?_eq_some_iff {decl : String} {earlier : List String} {p : Port} {fault : Fault} :
    portFault? decl earlier p = some fault ↔ p.Violation decl (p.name ∈ earlier) fault := by
  rw [portFault?, ite_some_eq_some_iff, ite_some_eq_some_iff, ite_some_eq_some_iff,
    Width.isMeaningful_eq_false_iff]
  constructor
  · rintro (⟨hname, rfl⟩ | ⟨hname, ⟨hmem, rfl⟩ | ⟨hmem, ⟨hwidth, rfl⟩ | ⟨-, hnone⟩⟩⟩)
    · exact .name (by simpa using hname)
    · exact .repeated (by simpa using hname) hmem
    · exact .width (by simpa using hname) hmem hwidth
    · cases hnone
  · rintro (hname | ⟨hname, hmem⟩ | ⟨hname, hmem, hwidth⟩)
    · exact .inl ⟨by simpa using hname, rfl⟩
    · exact .inr ⟨by simpa using hname, .inl ⟨hmem, rfl⟩⟩
    · exact .inr ⟨by simpa using hname, .inr ⟨hmem, .inl ⟨hwidth, rfl⟩⟩⟩

/-! ## Violations by index -/

/-- A port has the name of a port in front of it. -/
def RepeatsName (m : ModuleDecl) (i : Fin m.ports.length) : Prop :=
  ∃ j < i, m.ports[j].name = m.ports[i].name

/-- A port has a bad name, the name of a port in front of it, or a bad width. -/
def IsFaultyPort (m : ModuleDecl) (i : Fin m.ports.length) : Prop :=
  Text.isIdentifier m.ports[i].name = false ∨ m.RepeatsName i ∨ ¬ m.ports[i].width.IsWritable

/-- There is a body, and a character in it that is not white space. -/
def HasBody (m : ModuleDecl) : Prop :=
  ∃ body ∈ m.body?, ∃ c ∈ body.toList, Text.isWhiteSpace c = false

/-- The fault that counts, if there are several. -/
inductive Violation (m : ModuleDecl) : Fault → Prop
  | name : Text.isIdentifier m.name = false → Violation m (.invalidName m.name)
  | ports : Text.isIdentifier m.name = true → m.ports = [] → Violation m (.missingPorts m.name)
  | body : Text.isIdentifier m.name = true → m.ports ≠ [] → ¬ m.HasBody →
      Violation m (.missingBody m.name)
  | port {fault : Fault} (i : Fin m.ports.length) : Text.isIdentifier m.name = true → m.HasBody →
      (∀ j < i, ¬ m.IsFaultyPort j) → m.ports[i].Violation m.name (m.RepeatsName i) fault →
      Violation m fault

theorem lacksBody_eq_false_iff {m : ModuleDecl} : m.lacksBody = false ↔ m.HasBody := by
  rw [lacksBody, HasBody]
  cases m.body? with
  | none => exact ⟨nofun, fun ⟨_, hbody, _⟩ => absurd hbody (Option.not_mem_none _)⟩
  | some body => simp [Text.isBlank]

theorem portFault?_eq_none_iff_not_faulty {decl : String} {earlier : List String} {p : Port} :
    portFault? decl earlier p = none ↔
      ¬ (Text.isIdentifier p.name = false ∨ p.name ∈ earlier ∨ ¬ p.width.IsWritable) := by
  rw [portFault?_eq_none_iff, not_or, not_or, Bool.not_eq_false, not_not,
    ← Width.isMeaningful_iff]
  exact ⟨fun ⟨hlegal, hnew⟩ => ⟨hlegal.name, hnew, hlegal.width⟩,
    fun ⟨hname, hnew, hwidth⟩ => ⟨⟨hname, hwidth⟩, hnew⟩⟩

theorem portsFault?_ports_eq_some_iff {m : ModuleDecl} {fault : Fault} :
    portsFault? m.name [] m.ports = some fault ↔
      ∃ i : Fin m.ports.length, (∀ j < i, ¬ m.IsFaultyPort j) ∧
        m.ports[i].Violation m.name (m.RepeatsName i) fault := by
  rw [portsFault?_eq_walkFault?]
  exact walkFault?_nil_eq_some_iff
    (fun repeats (p : Port) =>
      Text.isIdentifier p.name = false ∨ repeats ∨ ¬ p.width.IsWritable)
    (fun repeats (p : Port) => p.Violation m.name repeats)
    (fun _ _ => portFault?_eq_none_iff_not_faulty) fun _ _ _ => portFault?_eq_some_iff

theorem fault?_eq_some_iff {m : ModuleDecl} {fault : Fault} :
    m.fault? = some fault ↔ m.Violation fault := by
  rw [fault?, ite_some_eq_some_iff, ite_some_eq_some_iff, ite_some_eq_some_iff,
    portsFault?_ports_eq_some_iff]
  constructor
  · rintro (⟨hname, rfl⟩ | ⟨hname, ⟨hports, rfl⟩ | ⟨hports, ⟨hbody, rfl⟩ | ⟨hbody, hwalk⟩⟩⟩)
    · exact .name (by simpa using hname)
    · exact .ports (by simpa using hname) (List.isEmpty_iff.mp hports)
    · refine .body (by simpa using hname) (by simpa using hports) ?_
      rw [← lacksBody_eq_false_iff, hbody]
      exact Bool.noConfusion
    · obtain ⟨i, hbefore, hat⟩ := hwalk
      rw [Bool.not_eq_true, lacksBody_eq_false_iff] at hbody
      exact .port i (by simpa using hname) hbody hbefore hat
  · rintro (hname | ⟨hname, hports⟩ | ⟨hname, hports, hbody⟩ | ⟨i, hname, hbody, hbefore, hat⟩)
    · exact .inl ⟨by simpa using hname, rfl⟩
    · exact .inr ⟨by simpa using hname, .inl ⟨List.isEmpty_iff.mpr hports, rfl⟩⟩
    · rw [← lacksBody_eq_false_iff, Bool.not_eq_false] at hbody
      exact .inr ⟨by simpa using hname, .inr ⟨by simpa using hports, .inl ⟨hbody, rfl⟩⟩⟩
    · have hports : m.ports ≠ [] := List.ne_nil_of_length_pos (Nat.zero_lt_of_lt i.isLt)
      rw [← lacksBody_eq_false_iff, ← Bool.not_eq_true] at hbody
      exact .inr ⟨by simpa using hname, .inr ⟨by simpa using hports,
        .inr ⟨hbody, i, hbefore, hat⟩⟩⟩

theorem check_eq_error_iff {m : ModuleDecl} {fault : Fault} :
    m.check = .error fault ↔ m.fault? = some fault := by
  rw [check]
  cases m.fault? with
  | none => simp
  | some found => rw [Except.error.injEq, Option.some.injEq]

theorem render_eq_error_iff {m : ModuleDecl} {fault : Fault} :
    m.render = .error fault ↔ m.fault? = some fault := by
  rw [render]
  cases m.fault? with
  | none => simp
  | some found => rw [Except.error.injEq, Option.some.injEq]

/-- A width that cannot be written is shown as a zero or as a quoted name. -/
theorem Violation.describe_width {m : ModuleDecl} {decl port : String} {width : Width}
    (h : m.Violation (.invalidWidth decl port width)) :
    width = .literal 0 ∧ width.describe = "0" ∨
      ∃ name, width = .parameter name ∧ Text.isIdentifier name = false ∧
        width.describe = Text.quoted name := by
  cases h with
  | port i _ _ _ hat =>
      cases hat with
      | width _ _ hwidth =>
          cases hw : m.ports[i].width with
          | literal bits =>
              rw [hw, Width.IsWritable, Nat.not_lt, Nat.le_zero] at hwidth
              obtain rfl : bits = 0 := UInt32.toNat_inj.mp hwidth
              exact .inl ⟨rfl, rfl⟩
          | parameter name =>
              rw [hw, Width.IsWritable, Bool.not_eq_true] at hwidth
              exact .inr ⟨name, rfl, hwidth, rfl⟩

/--
The checker accepts a declaration exactly if nothing about it is wrong, and otherwise reports the
first thing that is; rendering fails where the checker does, and with the same fault. The message
about a width shows the zero, or the name in quotes.
-/
theorem check_reports_first (m : ModuleDecl) :
    (m.check = .ok () ↔
      Text.isIdentifier m.name = true ∧ m.ports ≠ [] ∧ m.HasBody ∧
        (∀ p ∈ m.ports, Text.isIdentifier p.name = true) ∧ (m.ports.map Port.name).Nodup ∧
        ∀ p ∈ m.ports, p.width.IsWritable) ∧
    (∀ fault, m.check = .error fault ↔ m.Violation fault) ∧
    (∀ fault, m.render = .error fault ↔ m.check = .error fault) ∧
    ∀ decl port width, m.check = .error (.invalidWidth decl port width) →
      ∃ shown,
        (width = .literal 0 ∧ shown = "0" ∨
          ∃ name, width = .parameter name ∧ Text.isIdentifier name = false ∧
            shown = Text.quoted name) ∧
        (Fault.invalidWidth decl port width).message =
          "module '" ++ decl ++ "': port '" ++ port ++ "' has unsupported width " ++ shown := by
  refine ⟨?_, fun fault => ?_, fun fault => ?_, fun decl port width h => ?_⟩
  · rw [check_eq_ok_iff, ← lacksBody_eq_false_iff]
    constructor
    · intro h
      exact ⟨h.name, h.ports_ne_nil, h.hasBody, fun p hp => (h.ports p hp).name, h.nodup,
        fun p hp => Width.isMeaningful_iff.mp (h.ports p hp).width⟩
    · rintro ⟨hname, hports, hbody, hnames, hnodup, hwidths⟩
      exact ⟨hname, hports, hbody,
        fun p hp => ⟨hnames p hp, Width.isMeaningful_iff.mpr (hwidths p hp)⟩, hnodup⟩
  · rw [check_eq_error_iff, fault?_eq_some_iff]
  · rw [render_eq_error_iff, check_eq_error_iff]
  · rw [check_eq_error_iff, fault?_eq_some_iff] at h
    exact ⟨width.describe, h.describe_width, rfl⟩

/-- The width of the second port counts, not the repeated name and the missing bits of the third. -/
theorem check_reports_first_of_three :
    let m : ModuleDecl := ⟨"Top", [], [⟨.input, "a", .literal 8⟩, ⟨.input, "b", .parameter ""⟩,
      ⟨.output, "a", .literal 0⟩], some "\u3000;"⟩
    m.check = .error (.invalidWidth "Top" "b" (.parameter "")) ∧
      m.Violation (.invalidWidth "Top" "b" (.parameter "")) ∧
      m.render = .error (.invalidWidth "Top" "b" (.parameter "")) ∧
      ∃ shown, (Fault.invalidWidth "Top" "b" (.parameter "")).message =
        "module '" ++ "Top" ++ "': port '" ++ "b" ++ "' has unsupported width " ++ shown := by
  intro m
  have hcheck : m.check = .error (.invalidWidth "Top" "b" (.parameter "")) := by decide
  obtain ⟨-, hviolation, hrender, hshown⟩ := check_reports_first m
  obtain ⟨shown, -, hmessage⟩ := hshown _ _ _ hcheck
  exact ⟨hcheck, (hviolation _).mp hcheck, (hrender _).mpr hcheck, shown, hmessage⟩

end ModuleDecl

end VerilogLibrary
