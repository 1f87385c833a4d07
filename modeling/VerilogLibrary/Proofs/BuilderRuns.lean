import VerilogLibrary.Proofs.ReportedFault

/-!
# Faults in the course of a declaration

A declaration comes about call by call, and it may be checked after each. Most
of what the check can report is settled early. The name is there from the
start, and a port is never taken back. So what is wrong with the ports so far
stays wrong: the first faulty port has the same ports in front of it whatever
is declared behind it, and the walk over the ports ends there.

Only the body can be replaced. A blank one hides the faults of the ports and one
with something in it brings them out again, always the same one. Parameters
are not looked at.

A run of calls is told by three things, the name, the ports that the calls
declare, in their order, and the last body; each call changes one of them by
itself.
-/

namespace VerilogLibrary

/-- A call that adds to a declaration. -/
inductive BuilderCall where
  | param (name default : String)
  | bareParam (name : String)
  | input (name : String) (width : Width)
  | output (name : String) (width : Width)
  | body (text : String)
  deriving DecidableEq, Repr

/-- The port that a call declares. -/
def BuilderCall.port? : BuilderCall → Option Port
  | .input name width => some ⟨.input, name, width⟩
  | .output name width => some ⟨.output, name, width⟩
  | _ => none

/-- The body that a call sets. -/
def BuilderCall.body? : BuilderCall → Option String
  | .body text => some text
  | _ => none

/-- The ports that calls declare, in order. -/
def declaredPorts (calls : List BuilderCall) : List Port :=
  calls.filterMap BuilderCall.port?

/-- The body that calls leave, which is the last that one of them sets. -/
def lastBody? (calls : List BuilderCall) : Option String :=
  (calls.filterMap BuilderCall.body?).getLast?

namespace ModuleDecl

/-- The declaration after a call. -/
def perform (m : ModuleDecl) : BuilderCall → ModuleDecl
  | .param name default => m.param name default
  | .bareParam name => m.bareParam name
  | .input name width => m.input name width
  | .output name width => m.output name width
  | .body text => m.body text

/-- The declaration of a name after calls. -/
def build (name : String) (calls : List BuilderCall) : ModuleDecl :=
  calls.foldl perform (named name)

/-! ## What a call changes -/

@[simp]
theorem name_perform (m : ModuleDecl) (call : BuilderCall) : (m.perform call).name = m.name := by
  cases call <;> rfl

@[simp]
theorem ports_perform (m : ModuleDecl) (call : BuilderCall) :
    (m.perform call).ports = m.ports ++ call.port?.toList := by
  cases call <;> simp [perform, param, bareParam, input, output, port, body, BuilderCall.port?]

@[simp]
theorem body?_perform (m : ModuleDecl) (call : BuilderCall) :
    (m.perform call).body? = call.body?.or m.body? := by
  cases call <;> rfl

theorem build_append (name : String) (calls more : List BuilderCall) :
    build name (calls ++ more) = more.foldl perform (build name calls) :=
  List.foldl_append

theorem name_foldl_perform (m : ModuleDecl) (calls : List BuilderCall) :
    (calls.foldl perform m).name = m.name := by
  induction calls generalizing m with
  | nil => rfl
  | cons call calls ih => rw [List.foldl_cons, ih, name_perform]

theorem ports_foldl_perform (m : ModuleDecl) (calls : List BuilderCall) :
    (calls.foldl perform m).ports = m.ports ++ declaredPorts calls := by
  induction calls generalizing m with
  | nil => exact (List.append_nil _).symm
  | cons call calls ih =>
      rw [List.foldl_cons, ih, ports_perform, declaredPorts, declaredPorts, List.filterMap_cons,
        List.append_assoc]
      cases call.port? <;> rfl

theorem body?_foldl_perform (m : ModuleDecl) (calls : List BuilderCall) :
    (calls.foldl perform m).body? = (lastBody? calls).or m.body? := by
  induction calls generalizing m with
  | nil => rfl
  | cons call calls ih =>
      rw [List.foldl_cons, ih, body?_perform, lastBody?, lastBody?, List.filterMap_cons]
      cases call.body? with
      | none => rfl
      | some text =>
          rw [List.getLast?_cons]
          cases (calls.filterMap BuilderCall.body?).getLast? <;> rfl

@[simp]
theorem name_build (name : String) (calls : List BuilderCall) : (build name calls).name = name :=
  name_foldl_perform _ calls

@[simp]
theorem ports_build (name : String) (calls : List BuilderCall) :
    (build name calls).ports = declaredPorts calls := by
  rw [build, ports_foldl_perform]
  exact List.nil_append _

@[simp]
theorem body?_build (name : String) (calls : List BuilderCall) :
    (build name calls).body? = lastBody? calls := by
  rw [build, body?_foldl_perform]
  exact Option.or_none

/-- The check looks at nothing but the name, the ports and the body. -/
theorem check_congr {m n : ModuleDecl} (hname : m.name = n.name) (hports : m.ports = n.ports)
    (hbody : m.body? = n.body?) : m.check = n.check := by
  rw [check, check, fault?, fault?, lacksBody, lacksBody, hname, hports, hbody]

/-! ## Faulty ports -/

/-- The fault is one of a port. -/
def Fault.blamesPort : Fault → Bool
  | .invalidPortName _ _ => true
  | .duplicatePort _ _ => true
  | .invalidWidth _ _ _ => true
  | _ => false

/-- The name is right, and among the ports the fault is the first. -/
structure HasFaultyPort (m : ModuleDecl) (fault : Fault) : Prop where
  name : Text.isIdentifier m.name = true
  ports : portsFault? m.name [] m.ports = some fault

theorem portsFault?_append_of_some {decl : String} {earlier : List String} {front : List Port}
    {fault : Fault} (h : portsFault? decl earlier front = some fault) (back : List Port) :
    portsFault? decl earlier (front ++ back) = some fault := by
  induction front generalizing earlier with
  | nil => cases h
  | cons p front ih =>
      rw [List.cons_append, portsFault?]
      rw [portsFault?] at h
      cases hp : portFault? decl earlier p with
      | some found => rwa [hp] at h
      | none =>
          rw [hp] at h
          exact ih h

/-- One more call does not help. -/
theorem HasFaultyPort.perform {m : ModuleDecl} {fault : Fault} (h : m.HasFaultyPort fault)
    (call : BuilderCall) : (m.perform call).HasFaultyPort fault := by
  constructor
  · rw [name_perform]
    exact h.name
  · rw [name_perform, ports_perform]
    exact portsFault?_append_of_some h.ports _

theorem HasFaultyPort.foldl_perform {m : ModuleDecl} {fault : Fault} (h : m.HasFaultyPort fault)
    (calls : List BuilderCall) : (calls.foldl ModuleDecl.perform m).HasFaultyPort fault := by
  induction calls generalizing m with
  | nil => exact h
  | cons call calls ih => exact ih (h.perform call)

/-- With a faulty port, only the want of a body can be reported in place of its fault. -/
theorem HasFaultyPort.fault?_eq {m : ModuleDecl} {fault : Fault} (h : m.HasFaultyPort fault) :
    m.fault? = some (if m.lacksBody then .missingBody m.name else fault) := by
  have hports : m.ports.isEmpty = false := by
    rw [List.isEmpty_eq_false_iff]
    intro hnil
    have hfault := h.ports
    rw [hnil] at hfault
    cases hfault
  rw [fault?, h.name, hports, h.ports]
  cases m.lacksBody <;> rfl

theorem hasFaultyPort_of_fault? {m : ModuleDecl} {fault : Fault} (h : m.fault? = some fault)
    (hport : fault.blamesPort = true) : m.HasFaultyPort fault ∧ m.lacksBody = false := by
  cases fault?_eq_some_iff.mp h with
  | port i hname hbody hbefore hat =>
      exact ⟨⟨hname, portsFault?_ports_eq_some_iff.mpr ⟨i, hbefore, hat⟩⟩,
        lacksBody_eq_false_iff.mpr hbody⟩
  | _ => cases hport

/-- What a check reports after more calls, when a port was faulty before them. -/
theorem exists_lastBody {name : String} {calls : List BuilderCall} {fault : Fault}
    (h : (build name calls).check = .error fault) (hport : fault.blamesPort = true)
    (more : List BuilderCall) :
    ∃ text, lastBody? (calls ++ more) = some text ∧
      (build name (calls ++ more)).check =
        .error (if Text.isBlank text then .missingBody name else fault) := by
  obtain ⟨hfaulty, hbody⟩ := hasFaultyPort_of_fault? (check_eq_error_iff.mp h) hport
  have hlater : (build name (calls ++ more)).HasFaultyPort fault := by
    rw [build_append]
    exact hfaulty.foldl_perform more
  -- A body was there, and no call takes it away without another.
  have hsome : (lastBody? (calls ++ more)).isSome := by
    rw [lastBody?, List.filterMap_append, List.getLast?_append, Option.isSome_or]
    rw [lacksBody, body?_build, lastBody?] at hbody
    cases hlast : (calls.filterMap BuilderCall.body?).getLast? with
    | none => rw [hlast] at hbody; cases hbody
    | some text => exact Bool.or_true _
  obtain ⟨text, htext⟩ := Option.isSome_iff_exists.mp hsome
  refine ⟨text, htext, check_eq_error_iff.mpr ?_⟩
  rw [hlater.fault?_eq, lacksBody, body?_build, htext, name_build, Option.all_some]

/-! ## Names and missing ports -/

theorem check_build_invalidName {name : String} (h : Text.isIdentifier name = false)
    (calls : List BuilderCall) : (build name calls).check = .error (.invalidName name) := by
  rw [check_eq_error_iff, fault?, name_build, h]
  rfl

theorem isIdentifier_of_invalidName {name decl : String} {calls : List BuilderCall}
    (h : (build name calls).check = .error (.invalidName decl)) :
    Text.isIdentifier name = false := by
  cases fault?_eq_some_iff.mp (check_eq_error_iff.mp h) with
  | name hname => rwa [name_build] at hname
  | port i _ _ _ hat => cases hat

theorem declaredPorts_of_missingPorts {name decl : String} {calls : List BuilderCall}
    (h : (build name calls).check = .error (.missingPorts decl)) : declaredPorts calls = [] := by
  cases fault?_eq_some_iff.mp (check_eq_error_iff.mp h) with
  | ports _ hnil => rwa [ports_build] at hnil
  | port i _ _ _ hat => cases hat

theorem declaredPorts_ne_nil {calls : List BuilderCall}
    (h : ∃ call ∈ calls, call.port?.isSome = true) : declaredPorts calls ≠ [] := by
  obtain ⟨call, hcall, hport⟩ := h
  obtain ⟨p, hp⟩ := Option.isSome_iff_exists.mp hport
  exact List.ne_nil_of_mem (List.mem_filterMap.mpr ⟨call, hcall, hp⟩)

/-! ## Parameters -/

theorem check_build_of_no_effect {name : String} {call : BuilderCall} (hport : call.port? = none)
    (hbody : call.body? = none) (front back : List BuilderCall) :
    (build name (front ++ call :: back)).check = (build name (front ++ back)).check := by
  apply check_congr
  · rw [name_build, name_build]
  · rw [ports_build, ports_build, declaredPorts, declaredPorts, List.filterMap_append,
      List.filterMap_append, List.filterMap_cons_none hport]
  · rw [body?_build, body?_build, lastBody?, lastBody?, List.filterMap_append,
      List.filterMap_append, List.filterMap_cons_none hbody]

/-! ## Ports by name -/

theorem findPort?_build (name : String) (calls : List BuilderCall) (n : String) :
    (build name calls).findPort? n = (declaredPorts calls).find? (·.name == n) := by
  rw [findPort?, ports_build]

theorem findPort?_build_eq_some_iff {name : String} {calls : List BuilderCall} {n : String}
    {p : Port} :
    (build name calls).findPort? n = some p ↔
      p.name = n ∧ ∃ before after, declaredPorts calls = before ++ p :: after ∧
        ∀ q ∈ before, q.name ≠ n := by
  rw [findPort?_build, List.find?_eq_some_iff_append]
  simp

theorem findPort?_build_eq_none_iff {name : String} {calls : List BuilderCall} {n : String} :
    (build name calls).findPort? n = none ↔ ∀ p ∈ declaredPorts calls, p.name ≠ n := by
  rw [findPort?_build, List.find?_eq_none]
  simp

theorem findPort?_build_append {name : String} {calls : List BuilderCall} {n : String} {p : Port}
    (h : (build name calls).findPort? n = some p) (more : List BuilderCall) :
    (build name (calls ++ more)).findPort? n = some p := by
  rw [findPort?_build] at h
  rw [findPort?_build, declaredPorts, List.filterMap_append, List.find?_append]
  rw [declaredPorts] at h
  rw [h, Option.some_or]

/-- The check after any of the calls that add to a declaration. The name is wrong always or never,
and ports are not missing once there is one. Behind a fault of a port the same fault is reported
after any more calls, except where the last body is blank, and there it is the body that is
missing. A parameter makes no difference wherever it is declared. The port that is found by a name
is the first of that name that was declared, and it goes on being found. -/
theorem check_along_calls (name : String) :
    ((∀ calls, (build name calls).check = .error (.invalidName name)) ∨
      ∀ calls decl, (build name calls).check ≠ .error (.invalidName decl)) ∧
    (∀ calls : List BuilderCall, (∃ call ∈ calls, call.port?.isSome = true) →
      ∀ decl, (build name calls).check ≠ .error (.missingPorts decl)) ∧
    (∀ calls fault, (build name calls).check = .error fault → fault.blamesPort = true →
      ∀ more, ∃ text, lastBody? (calls ++ more) = some text ∧
        (build name (calls ++ more)).check =
          .error (if Text.isBlank text then .missingBody name else fault)) ∧
    (∀ front back parameter default,
      (build name (front ++ .param parameter default :: back)).check =
        (build name (front ++ back)).check ∧
      (build name (front ++ .bareParam parameter :: back)).check =
        (build name (front ++ back)).check) ∧
    ∀ calls n,
      (∀ p, (build name calls).findPort? n = some p ↔
        p.name = n ∧ ∃ before after, declaredPorts calls = before ++ p :: after ∧
          ∀ q ∈ before, q.name ≠ n) ∧
      ((build name calls).findPort? n = none ↔ ∀ p ∈ declaredPorts calls, p.name ≠ n) ∧
      ∀ p, (build name calls).findPort? n = some p →
        ∀ more, (build name (calls ++ more)).findPort? n = some p := by
  refine ⟨?_, fun calls hport decl h => ?_, fun calls fault h hport more =>
    exists_lastBody h hport more, fun front back parameter default => ⟨?_, ?_⟩, fun calls n =>
    ⟨fun p => findPort?_build_eq_some_iff, findPort?_build_eq_none_iff, fun p h more =>
      findPort?_build_append h more⟩⟩
  · cases hname : Text.isIdentifier name with
    | false => exact .inl (check_build_invalidName hname)
    | true =>
        refine .inr fun calls decl h => ?_
        rw [isIdentifier_of_invalidName h] at hname
        cases hname
  · exact declaredPorts_ne_nil hport (declaredPorts_of_missingPorts h)
  · exact check_build_of_no_effect rfl rfl front back
  · exact check_build_of_no_effect rfl rfl front back

/-- A port without bits is the fault that counts, though the port behind it repeats its name, a
blank body hides it for a while, and ports of the name are found all along. -/
theorem check_along_calls_without_bits :
    let calls : List BuilderCall := [.input "a" (.literal 0), .body ";"]
    let more : List BuilderCall := [.body "\t", .output "a" (.literal 1), .bareParam "W"]
    (build "Top" calls).check = .error (.invalidWidth "Top" "a" (.literal 0)) ∧
      (build "Top" (calls ++ more)).check = .error (.missingBody "Top") ∧
      (build "Top" (calls ++ (more ++ [.body "x"]))).check =
        .error (.invalidWidth "Top" "a" (.literal 0)) ∧
      (build "Top" (calls ++ more)).findPort? "a" = some ⟨.input, "a", .literal 0⟩ := by
  intro calls more
  obtain ⟨-, -, hfault, -, hfind⟩ := check_along_calls "Top"
  have hcheck : (build "Top" calls).check = .error (.invalidWidth "Top" "a" (.literal 0)) := by
    decide
  obtain ⟨hidden, hlast, hblank⟩ := hfault calls _ hcheck rfl more
  obtain rfl : "\t" = hidden := Option.some.inj hlast
  rw [if_pos (by decide)] at hblank
  obtain ⟨shown, hlast, hagain⟩ := hfault calls _ hcheck rfl (more ++ [.body "x"])
  obtain rfl : "x" = shown := Option.some.inj hlast
  rw [if_neg (by decide)] at hagain
  exact ⟨hcheck, hblank, hagain, (hfind calls "a").2.2 _ rfl more⟩

end ModuleDecl

end VerilogLibrary
