import Mathlib
import VerilogLibrary.Catalog

/-!
# What a catalog holds after any calls

Only two calls change a catalog: `push` adds one operation, `addArithmetic`
five. Either may be refused, and a refused group keeps what it had added
before. Nothing is ever removed, so a run of calls appends a list of
operations to those that were there, and the whole question is which.

The answer needs one notion. An operation is free for a catalog when its
module name is neither the multiplexer's nor that of an operation already
there. A single operation is a group of one; a group is taken up to its first
operation that is not free, and a run adds what its calls take, one after the
other. `Takes` and `Grows` say just that, without the code, and the code is
shown to agree with them. That names stay distinct comes with it, because
only free operations are ever appended.
-/

namespace VerilogLibrary.Catalog

/-- A call that may change a catalog. -/
inductive Call where
  | push (op : Operation)
  | addArithmetic

/-- The operations that a call tries to add. -/
def Call.operations : Call → List Operation
  | .push op => [op]
  | .addArithmetic => arithmeticOperations

/-- The catalog that a call leaves behind, and the collision that it reports. -/
def perform (c : Catalog) : Call → Catalog × Option Collision
  | .push op =>
    match c.push op with
    | .ok c' => (c', none)
    | .error collision => (c, some collision)
  | .addArithmetic => c.addArithmetic

/-- The catalog after calls, whether they succeed or not. -/
def run (c : Catalog) : List Call → Catalog
  | [] => c
  | call :: calls => (c.perform call).1.run calls

/-- The catalogs that calls lead to from the two with which one may begin. -/
inductive Reachable : Catalog → Prop where
  | empty : Reachable empty
  | standard : Reachable standard
  | perform {c : Catalog} (call : Call) : Reachable c → Reachable (c.perform call).1

/-- A catalog with operations added at its end, checked by nobody. -/
def extend (c : Catalog) (ops : List Operation) : Catalog :=
  ⟨c.operations ++ ops⟩

/-- The module name of an operation belongs neither to the multiplexer nor to
an operation of the catalog. -/
def IsFree (c : Catalog) (op : Operation) : Prop :=
  op.moduleName ≠ multiplexerName ∧ ∀ other ∈ c.operations, other.moduleName ≠ op.moduleName

/-- Of a group that is pushed in order, a catalog takes the operations up to
the first that is not free when its turn comes. -/
inductive Takes : Catalog → List Operation → List Operation → Prop where
  | done {c : Catalog} : Takes c [] []
  | stop {c : Catalog} {op : Operation} {rest : List Operation} :
      ¬ c.IsFree op → Takes c (op :: rest) []
  | take {c : Catalog} {op : Operation} {rest taken : List Operation} :
      c.IsFree op → Takes (c.extend [op]) rest taken → Takes c (op :: rest) (op :: taken)

/-- What calls add to a catalog: what each takes when its turn comes, in the
order of the calls. -/
inductive Grows : Catalog → List Call → List Operation → Prop where
  | nil {c : Catalog} : Grows c [] []
  | cons {c : Catalog} {call : Call} {calls : List Call} {taken added : List Operation} :
      Takes c call.operations taken → Grows (c.extend taken) calls added →
      Grows c (call :: calls) (taken ++ added)

@[simp]
theorem operations_extend (c : Catalog) (ops : List Operation) :
    (c.extend ops).operations = c.operations ++ ops := rfl

@[simp]
theorem extend_nil (c : Catalog) : c.extend [] = c := by
  rw [extend, List.append_nil]

theorem extend_extend (c : Catalog) (ops more : List Operation) :
    (c.extend ops).extend more = c.extend (ops ++ more) := by
  rw [extend, extend, extend, List.append_assoc]

theorem extend_inj {c : Catalog} {ops more : List Operation} (h : c.extend ops = c.extend more) :
    ops = more :=
  List.append_cancel_left (congrArg Catalog.operations h)

/-! ## One operation -/

theorem mem_moduleNames {c : Catalog} {name : String} :
    name ∈ c.moduleNames ↔ ∃ op ∈ c.operations, op.moduleName = name :=
  List.mem_map

theorem push_of_isFree {c : Catalog} {op : Operation} (h : c.IsFree op) :
    c.push op = .ok (c.extend [op]) := by
  have hnames : op.moduleName ∉ c.moduleNames := by
    intro hmem
    obtain ⟨other, hother, heq⟩ := mem_moduleNames.mp hmem
    exact h.2 other hother heq
  rw [push, collision?, if_neg h.1, if_neg hnames]
  rfl

theorem push_of_reserved {c : Catalog} {op : Operation} (h : op.moduleName = multiplexerName) :
    c.push op = .error (.reserved op.name op.moduleName) := by
  rw [push, collision?, if_pos h]

theorem push_of_present {c : Catalog} {op : Operation} (h : op.moduleName ≠ multiplexerName)
    (hmem : ∃ other ∈ c.operations, other.moduleName = op.moduleName) :
    c.push op = .error (.duplicate op.category op.name) := by
  rw [push, collision?, if_neg h, if_pos (mem_moduleNames.mpr hmem)]

/-- The three things that a `push` can do, and when it does each. -/
theorem push_cases (c : Catalog) (op : Operation) :
    (op.moduleName = multiplexerName ∧
      c.push op = .error (.reserved op.name op.moduleName)) ∨
    (op.moduleName ≠ multiplexerName ∧
      (∃ other ∈ c.operations, other.moduleName = op.moduleName) ∧
      c.push op = .error (.duplicate op.category op.name)) ∨
    (c.IsFree op ∧ c.push op = .ok (c.extend [op])) := by
  by_cases hreserved : op.moduleName = multiplexerName
  · exact .inl ⟨hreserved, push_of_reserved hreserved⟩
  · by_cases hpresent : ∃ other ∈ c.operations, other.moduleName = op.moduleName
    · exact .inr (.inl ⟨hreserved, hpresent, push_of_present hreserved hpresent⟩)
    · have hfree : c.IsFree op :=
        ⟨hreserved, fun other hother heq => hpresent ⟨other, hother, heq⟩⟩
      exact .inr (.inr ⟨hfree, push_of_isFree hfree⟩)

/-- What is reported of an operation that is not free. -/
def refusal (op : Operation) : Collision :=
  if op.moduleName = multiplexerName then .reserved op.name op.moduleName
  else .duplicate op.category op.name

theorem push_of_not_isFree {c : Catalog} {op : Operation} (h : ¬ c.IsFree op) :
    c.push op = .error (refusal op) := by
  unfold refusal
  rcases push_cases c op with ⟨hreserved, hpush⟩ | ⟨hother, _, hpush⟩ | ⟨hfree, _⟩
  · rw [if_pos hreserved, hpush]
  · rw [if_neg hother, hpush]
  · exact absurd hfree h

/-! ## Groups -/

theorem pushAll_cons_of_isFree {c : Catalog} {op : Operation} (rest : List Operation)
    (h : c.IsFree op) : c.pushAll (op :: rest) = (c.extend [op]).pushAll rest := by
  rw [pushAll, push_of_isFree h]

theorem pushAll_cons_of_error {c : Catalog} {op : Operation} {collision : Collision}
    (rest : List Operation) (h : c.push op = .error collision) :
    c.pushAll (op :: rest) = (c, some collision) := by
  rw [pushAll, h]

/-- A group is taken up to its first operation that is not free. When there is
none, all is taken and nothing is reported; otherwise the collision of that
operation is reported. -/
theorem pushAll_spec (c : Catalog) (ops : List Operation) :
    ∃ taken, c.Takes ops taken ∧
      ((taken = ops ∧ c.pushAll ops = (c.extend taken, none)) ∨
        ∃ op rest collision, ops = taken ++ op :: rest ∧
          (c.extend taken).push op = .error collision ∧
          c.pushAll ops = (c.extend taken, some collision)) := by
  induction ops generalizing c with
  | nil => exact ⟨[], .done, .inl ⟨rfl, by rw [extend_nil, pushAll]⟩⟩
  | cons op rest ih =>
      by_cases hfree : c.IsFree op
      · -- What comes behind `op` meets a catalog that has `op` already.
        obtain ⟨taken, htakes, hcase⟩ := ih (c.extend [op])
        refine ⟨op :: taken, .take hfree htakes, ?_⟩
        rw [pushAll_cons_of_isFree rest hfree]
        rw [extend_extend, List.singleton_append] at hcase
        rcases hcase with ⟨rfl, hall⟩ | ⟨next, more, collision, rfl, hpush, hall⟩
        · exact .inl ⟨rfl, hall⟩
        · exact .inr ⟨next, more, collision, rfl, hpush, hall⟩
      · have hpush := push_of_not_isFree hfree
        refine ⟨[], .stop hfree, .inr ⟨op, rest, refusal op, rfl, ?_, ?_⟩⟩
        · rwa [extend_nil]
        · rw [extend_nil, pushAll_cons_of_error rest hpush]

theorem Takes.pushAll_fst {c : Catalog} {ops taken : List Operation} (h : c.Takes ops taken) :
    (c.pushAll ops).1 = c.extend taken := by
  induction h with
  | done => rw [extend_nil, pushAll]
  | stop hfree =>
      rw [pushAll_cons_of_error _ (push_of_not_isFree hfree), extend_nil]
  | take hfree _ ih =>
      rw [pushAll_cons_of_isFree _ hfree, ih, extend_extend, List.singleton_append]

theorem perform_fst (c : Catalog) (call : Call) :
    (c.perform call).1 = (c.pushAll call.operations).1 := by
  cases call with
  | addArithmetic => rfl
  | push op =>
      rw [perform, Call.operations, pushAll]
      cases c.push op <;> rfl

/-! ## Runs -/

theorem Grows.run_eq {c : Catalog} {calls : List Call} {added : List Operation}
    (h : c.Grows calls added) : c.run calls = c.extend added := by
  induction h with
  | nil => rw [extend_nil, run]
  | cons htakes _ ih => rw [run, perform_fst, htakes.pushAll_fst, ih, extend_extend]

theorem exists_grows (c : Catalog) (calls : List Call) : ∃ added, c.Grows calls added := by
  induction calls generalizing c with
  | nil => exact ⟨[], .nil⟩
  | cons call rest ih =>
      obtain ⟨taken, htakes, _⟩ := pushAll_spec c call.operations
      obtain ⟨added, hgrows⟩ := ih (c.extend taken)
      exact ⟨taken ++ added, .cons htakes hgrows⟩

theorem operations_run_eq_iff {c : Catalog} {calls : List Call} {added : List Operation} :
    (c.run calls).operations = c.operations ++ added ↔ c.Grows calls added := by
  obtain ⟨actual, hactual⟩ := exists_grows c calls
  rw [hactual.run_eq, operations_extend, List.append_cancel_left_eq]
  constructor
  · rintro rfl
    exact hactual
  · intro h
    exact extend_inj (hactual.run_eq.symm.trans h.run_eq)

theorem Reachable.run {c : Catalog} (h : c.Reachable) (calls : List Call) :
    (c.run calls).Reachable := by
  induction calls generalizing c with
  | nil => exact h
  | cons call rest ih => exact ih (.perform call h)

/-! ## Distinct names

The invariant of every catalog that can be reached: no module name occurs
twice, and none is the multiplexer's. A step appends free operations only, and
to be free is just what the invariant needs of one more operation. -/

/-- The modules of a catalog have names of their own. -/
structure Distinct (c : Catalog) : Prop where
  nodup : c.moduleNames.Nodup
  notMultiplexer : multiplexerName ∉ c.moduleNames

theorem distinct_empty : empty.Distinct :=
  ⟨List.nodup_nil, List.not_mem_nil⟩

theorem distinct_standard : standard.Distinct := by
  constructor <;> decide +kernel

theorem Distinct.extend_singleton {c : Catalog} {op : Operation} (h : c.Distinct)
    (hfree : c.IsFree op) : (c.extend [op]).Distinct := by
  have hnames : (c.extend [op]).moduleNames = c.moduleNames ++ [op.moduleName] := by
    rw [moduleNames, operations_extend, List.map_append]
    rfl
  constructor
  · rw [hnames, List.nodup_append]
    refine ⟨h.nodup, List.nodup_singleton _, ?_⟩
    rintro name hname _ hop rfl
    obtain ⟨other, hother, rfl⟩ := mem_moduleNames.mp hname
    exact hfree.2 other hother (List.mem_singleton.mp hop)
  · rw [hnames, List.mem_append, List.mem_singleton]
    rintro (hmem | heq)
    · exact h.notMultiplexer hmem
    · exact hfree.1 heq.symm

theorem Takes.distinct {c : Catalog} {ops taken : List Operation} (h : c.Takes ops taken)
    (hc : c.Distinct) : (c.extend taken).Distinct := by
  induction h with
  | done | stop => rwa [extend_nil]
  | take hfree _ ih =>
      have hrest := ih (hc.extend_singleton hfree)
      rwa [extend_extend, List.singleton_append] at hrest

theorem Distinct.perform {c : Catalog} (h : c.Distinct) (call : Call) :
    (c.perform call).1.Distinct := by
  obtain ⟨taken, htakes, _⟩ := pushAll_spec c call.operations
  rw [perform_fst, htakes.pushAll_fst]
  exact htakes.distinct h

theorem Reachable.distinct {c : Catalog} (h : c.Reachable) : c.Distinct := by
  induction h with
  | empty => exact distinct_empty
  | standard => exact distinct_standard
  | perform call _ ih => exact ih.perform call

/-- Where names are distinct, looking for the name of an operation finds that
operation: operations of one name would have one module name as well. -/
theorem Distinct.get?_name {c : Catalog} (h : c.Distinct) {op : Operation}
    (hop : op ∈ c.operations) : c.get? op.name = some op := by
  cases hfound : c.get? op.name with
  | none =>
      have hnone := List.find?_eq_none.mp hfound op hop
      exact absurd (beq_self_eq_true op.name) hnone
  | some found =>
      have hmem := List.mem_of_find?_eq_some hfound
      have hname : found.name = op.name := by simpa using List.find?_some hfound
      have hmodule : found.moduleName = op.moduleName := congrArg Text.capitalize hname
      rw [List.inj_on_of_nodup_map h.nodup hmem hop hmodule]

/-! ## The content of a catalog after a run -/

theorem push_eq_reserved_iff {c : Catalog} {op : Operation} :
    c.push op = .error (.reserved op.name op.moduleName) ↔ op.moduleName = multiplexerName := by
  rcases push_cases c op with ⟨h, hpush⟩ | ⟨h, _, hpush⟩ | ⟨h, hpush⟩
  · simp [h, hpush]
  · simp [h, hpush]
  · simp [h.1, hpush]

theorem push_eq_duplicate_iff {c : Catalog} {op : Operation} :
    c.push op = .error (.duplicate op.category op.name) ↔
      op.moduleName ≠ multiplexerName ∧
        ∃ other ∈ c.operations, other.moduleName = op.moduleName := by
  rcases push_cases c op with ⟨h, hpush⟩ | ⟨h, hpresent, hpush⟩ | ⟨h, hpush⟩
  · simp [h, hpush]
  · exact ⟨fun _ => ⟨h, hpresent⟩, fun _ => hpush⟩
  · refine ⟨fun heq => ?_, fun ⟨_, other, hother, heq⟩ => absurd heq (h.2 other hother)⟩
    rw [hpush] at heq
    cases heq

theorem push_eq_ok_iff {c : Catalog} {op : Operation} :
    c.push op = .ok (c.extend [op]) ↔ c.IsFree op := by
  refine ⟨fun heq => ?_, push_of_isFree⟩
  by_contra hfree
  rw [push_of_not_isFree hfree] at heq
  cases heq

theorem perform_push_of_error {c : Catalog} {op : Operation} {collision : Collision}
    (h : c.push op = .error collision) : c.perform (.push op) = (c, some collision) := by
  rw [perform, h]

/-- Whatever calls are made from one of the two catalogs to begin with, and
whatever they report: `Grows` says what has been added. In the catalog `c` that
they leave, `push` gives one of its three answers by the module name alone, and
a refused call leaves `c` as it is or, if it is a group, with the operations
that were taken before the refused one. Every operation is found by its name. -/
theorem run_content {start : Catalog} (hstart : start = .empty ∨ start = .standard)
    (calls : List Call) :
    let c := start.run calls
    (∀ added, c.operations = start.operations ++ added ↔ start.Grows calls added) ∧
    (∀ op,
      (c.push op = .error (.reserved op.name op.moduleName) ↔
        op.moduleName = multiplexerName) ∧
      (c.push op = .error (.duplicate op.category op.name) ↔
        op.moduleName ≠ multiplexerName ∧
          ∃ other ∈ c.operations, other.moduleName = op.moduleName) ∧
      (c.push op = .ok (c.extend [op]) ↔ c.IsFree op)) ∧
    (∀ op collision, c.push op = .error collision →
      c.perform (.push op) = (c, some collision)) ∧
    (∃ taken, c.Takes arithmeticOperations taken ∧
      ((taken = arithmeticOperations ∧ c.addArithmetic = (c.extend taken, none)) ∨
        ∃ op rest collision, arithmeticOperations = taken ++ op :: rest ∧
          (c.extend taken).push op = .error collision ∧
          c.addArithmetic = (c.extend taken, some collision))) ∧
    (∀ op ∈ c.operations, c.get? op.name = some op) := by
  intro c
  have hreachable : start.Reachable := by
    rcases hstart with rfl | rfl
    · exact .empty
    · exact .standard
  refine ⟨fun added => operations_run_eq_iff, fun op => ?_, fun op collision => ?_, ?_, ?_⟩
  · exact ⟨push_eq_reserved_iff, push_eq_duplicate_iff, push_eq_ok_iff⟩
  · exact perform_push_of_error
  · exact pushAll_spec c arithmeticOperations
  · exact fun op hop => (hreachable.run calls).distinct.get?_name hop

/-- An operation `UDIV` takes the place of the arithmetic `udiv`, so of the
arithmetic operations only the one before it is added. -/
theorem grows_udiv_addArithmetic :
    standard.Grows
      [.push ⟨.unary, "UDIV", "in"⟩, .push ⟨.unary, "mUX", "in"⟩, .addArithmetic]
      [⟨.unary, "UDIV", "in"⟩, ⟨.binary, "mul", "in0 * in1"⟩] :=
  ((run_content (.inr rfl) _).1 _).mp (by decide +kernel)

end VerilogLibrary.Catalog
