import Mathlib
import VerilogLibrary.CommandLine.Parser
import VerilogLibrary.Proofs.Separators

/-!
# The order of arguments does not matter

A command line can be put together from arguments that say one thing each:
`-q`, `-v`, a setting with its value in the same argument, and the path to
check. Of these, none but `-v` can be given twice. The reader keeps a record of
what has been said, and the record after some arguments is described by
membership and by counting alone (`Reading.Says`), so it is the same for every
order of them.

One argument adds itself to what has been said. The only thing that makes this
more than a case split is that a path is recorded late: it waits until the next
argument, or the end, settles it. Hence a reading records arguments
(`Reading.Records`) if it says them once it is settled, and if nothing but a
path waits. A run over several arguments is an induction on that, the same one
for the level of the program and for that of a command.
-/

namespace VerilogLibrary.CommandLine

/-! ## Arguments -/

/-- An argument that says one thing. -/
inductive Argument where
  | quiet
  | verbose
  | setting (s : Setting) (v : String)
  deriving DecidableEq

namespace Argument

/-- How an argument is written. -/
def text : Argument → String
  | .quiet => "-q"
  | .verbose => "-v"
  | .setting .config v => "--config=" ++ v
  | .setting .output v => "--output=" ++ v
  | .setting .format v => "--format=" ++ v
  | .setting .path v => v

/-- What an argument uses up. Only `-v` can be repeated. -/
def once? : Argument → Option Switch
  | .quiet => some (.flag .quiet)
  | .verbose => none
  | .setting s _ => some (.setting s)

/-- Whether an argument can stand on a level. -/
def IsAdmitted (level : Level) : Argument → Prop
  | .quiet | .verbose | .setting .config _ => True
  | .setting .output _ => level = some .generate
  | .setting .format v => level = some .list ∧ (ListingFormat.ofLabel? v).isSome
  | .setting .path v => level = some .check ∧ v.toList.head? ≠ some '-'

end Argument

/-! ## What a reading says -/

namespace Reading

/-- Nothing waits, and the reading says these arguments. -/
structure Says (r : Reading) (args : List Argument) : Prop where
  waiting? : r.waiting? = none
  quiet : r.quiet = true ↔ .quiet ∈ args
  verbosity : r.verbosity = min 255 (args.count .verbose)
  value? : ∀ s v, r.value? s = some v ↔ .setting s v ∈ args

/-- Once it is settled, the reading says these arguments. Nothing but a path waits. -/
def Records (r : Reading) (args : List Argument) : Prop :=
  ∃ settled, r.settle = .ok settled ∧ settled.Says args ∧
    ∀ w ∈ r.waiting?, ∃ v, w = (.path, some v) ∧ settled.value? .path = some v

theorem Says.records {r : Reading} {args : List Argument} (h : r.Says args) : r.Records args := by
  refine ⟨r, ?_, h, fun w hw => ?_⟩
  · rw [settle, h.waiting?]
  · rw [h.waiting?] at hw
    cases hw

theorem Says.of_perm {r : Reading} {args args' : List Argument} (h : r.Says args)
    (hperm : args.Perm args') : r.Says args' where
  waiting? := h.waiting?
  quiet := by rw [h.quiet, hperm.mem_iff]
  verbosity := by rw [h.verbosity, hperm.count_eq]
  value? s v := by rw [h.value?, hperm.mem_iff]

theorem says_nil : ({} : Reading).Says [] where
  waiting? := rfl
  quiet := ⟨nofun, fun h => absurd h List.not_mem_nil⟩
  verbosity := rfl
  value? _ _ := ⟨nofun, fun h => absurd h List.not_mem_nil⟩

theorem Records.wantsValue {r : Reading} {args : List Argument} (h : r.Records args) :
    r.wantsValue = false := by
  obtain ⟨_, -, -, hwaiting⟩ := h
  rw [Reading.wantsValue]
  split
  · next s heq =>
      obtain ⟨v, hv, -⟩ := hwaiting (s, none) heq
      cases hv
  · rfl

theorem value?_cons (r : Reading) (s s' : Setting) (v : String) :
    ({ r with values := (s, v) :: r.values, waiting? := none } : Reading).value? s' =
      if s' = s then some v else r.value? s' := by
  rw [value?, List.lookup_cons]
  by_cases h : s' = s
  · rw [if_pos h, beq_iff_eq.mpr h]
  · rw [if_neg h, beq_false_of_ne h]
    rfl

theorem settle_waiting {r : Reading} {s : Setting} {v : String} (hnew : r.value? s = none)
    (hadmits : admits s v = true) :
    ({ r with waiting? := some (s, some v) } : Reading).settle =
      .ok { r with values := (s, v) :: r.values, waiting? := none } := by
  have hvalue : ({ r with waiting? := some (s, some v) } : Reading).value? s = none := hnew
  rw [settle]
  simp only [hvalue, hadmits]
  rfl

/-! ## One argument -/

/-- What an argument does to a reading. -/
def take (r : Reading) : Argument → Except UsageError Reading
  | .quiet => r.flag .quiet
  | .verbose => r.flag .verbose
  | .setting .path v => r.await .path (some v)
  | .setting s v => r.set s v.toList

theorem Says.value?_eq_none {r : Reading} {args : List Argument} (h : r.Says args) {s : Setting}
    (hnew : .setting s ∉ args.filterMap Argument.once?) : r.value? s = none := by
  rw [Option.eq_none_iff_forall_ne_some]
  intro v hv
  exact hnew (List.mem_filterMap.mpr ⟨_, (h.value? s v).mp hv, rfl⟩)

theorem Says.quiet_eq_false {r : Reading} {args : List Argument} (h : r.Says args)
    (hnew : .flag .quiet ∉ args.filterMap Argument.once?) : r.quiet = false := by
  rw [Bool.eq_false_iff, ne_eq, h.quiet]
  exact fun hmem => hnew (List.mem_filterMap.mpr ⟨_, hmem, rfl⟩)

theorem Says.setting {r : Reading} {args : List Argument} (h : r.Says args) {s : Setting}
    (v : String) (hnew : .setting s ∉ args.filterMap Argument.once?) :
    ({ r with values := (s, v) :: r.values, waiting? := none } : Reading).Says
      (args ++ [.setting s v]) where
  waiting? := rfl
  quiet := by simpa using h.quiet
  verbosity := by simpa [List.count_append] using h.verbosity
  value? s' v' := by
    rw [value?_cons, List.mem_append, List.mem_singleton, ← h.value?]
    by_cases hs : s' = s
    · subst hs
      simp [h.value?_eq_none hnew, eq_comm]
    · simp [hs]

theorem Says.quieted {r : Reading} {args : List Argument} (h : r.Says args) :
    ({ r with quiet := true } : Reading).Says (args ++ [.quiet]) where
  waiting? := h.waiting?
  quiet := by simp
  verbosity := by simpa [List.count_append] using h.verbosity
  value? s v := by
    show r.value? s = some v ↔ _
    simpa using h.value? s v

theorem Says.louder {r : Reading} {args : List Argument} (h : r.Says args) :
    ({ r with verbosity := min 255 (r.verbosity + 1) } : Reading).Says (args ++ [.verbose]) where
  waiting? := h.waiting?
  quiet := by simpa using h.quiet
  verbosity := by
    show min 255 (r.verbosity + 1) = _
    rw [h.verbosity, List.count_append, List.count_singleton_self]
    omega
  value? s v := by
    show r.value? s = some v ↔ _
    simpa using h.value? s v

theorem Records.take {level : Level} {r : Reading} {args : List Argument} (h : r.Records args)
    {a : Argument} (hadmitted : a.IsAdmitted level)
    (hnew : ∀ k ∈ a.once?, k ∉ args.filterMap Argument.once?) :
    ∃ r', r.take a = .ok r' ∧ r'.Records (args ++ [a]) := by
  obtain ⟨settled, hsettle, htold, -⟩ := h
  cases a with
  | quiet =>
      refine ⟨_, ?_, htold.quieted.records⟩
      rw [Reading.take, flag, hsettle]
      simp only [bind, Except.bind, htold.quiet_eq_false (hnew _ rfl)]
      rfl
  | verbose =>
      refine ⟨_, ?_, htold.louder.records⟩
      rw [Reading.take, flag, hsettle]
      rfl
  | setting s v =>
      have hadmits : admits s v = true := by
        cases s <;> first | rfl | exact hadmitted.2
      have hsettled := settle_waiting (htold.value?_eq_none (hnew _ rfl)) hadmits
      have htold' := htold.setting v (hnew _ rfl)
      cases s with
      | path =>
          -- A path is taken with its value but waits all the same, and counts once it is settled.
          refine ⟨{ settled with waiting? := some (.path, some v) }, ?_, _, hsettled, htold', ?_⟩
          · rw [Reading.take, await, hsettle]
            rfl
          · intro w hw
            obtain rfl := Option.some.inj hw
            exact ⟨v, rfl, by rw [value?_cons, if_pos rfl]⟩
      | config | output | format =>
          refine ⟨_, ?_, htold'.records⟩
          show r.set _ v.toList = _
          rw [set, await, hsettle, String.ofList_toList]
          exact hsettled

theorem Records.settle {r : Reading} {args : List Argument} (h : r.Records args) :
    ∃ settled, r.settle = .ok settled ∧ settled.Says args := by
  obtain ⟨settled, hsettle, htold, -⟩ := h
  exact ⟨settled, hsettle, htold⟩

/-! ## Reading an argument -/

theorem letters_flag (level : Level) (r : Reading) {letter : Char} {f : Flag}
    (h : switchOfLetter? level letter = some (.flag f)) :
    r.letters level [letter] = r.flag f := by
  rw [letters, h]
  show (do letters level (← r.flag f) []) = _
  cases r.flag f <;> rfl

theorem long_setting (level : Level) (r : Reading) {name : List Char} {s : Setting}
    (h : switchOfName? level name = some (.setting s)) (heq : '=' ∉ name) (v : List Char) :
    r.long level (name ++ '=' :: v) = r.set s v := by
  rw [long, takeWhile_ne_append heq, h, List.drop_left]

theorem positional_path {r : Reading} {args : List Argument} (h : r.Records args)
    (hnew : .setting .path ∉ args.filterMap Argument.once?) (v : String) :
    positional .check r v = r.await .path (some v) := by
  obtain ⟨settled, hsettle, htold, hwaiting⟩ := h
  have hnone := htold.value?_eq_none hnew
  have hfree : r.waiting? = none := by
    rw [Option.eq_none_iff_forall_not_mem]
    intro w hw
    obtain ⟨v, -, hsome⟩ := hwaiting w hw
    rw [hnone] at hsome
    cases hsome
  rw [Reading.settle, hfree] at hsettle
  obtain rfl := Except.ok.inj hsettle
  rw [positional]
  simp [hnone, hfree]

end Reading

theorem shape_of_long {arg : String} {c : Char} {body : List Char}
    (h : arg.toList = '-' :: '-' :: c :: body) : shape arg = .long (c :: body) := by
  rw [shape, h]
  rfl

theorem shape_of_head? {arg : String} (h : arg.toList.head? ≠ some '-') : shape arg = .plain := by
  rw [shape]
  split
  · next heq => exact absurd (congrArg List.head? heq) h
  · next heq => exact absurd (congrArg List.head? heq) h
  · next heq => exact absurd (congrArg List.head? heq) h
  · rfl

/-- A setting is written with its long name, and the level knows it by that name. -/
theorem Argument.toList_text_setting {level : Level} {s : Setting} {v : String}
    (h : (Argument.setting s v).IsAdmitted level) (hpath : s ≠ .path) :
    ∃ c name, (Argument.setting s v).text.toList = '-' :: '-' :: c :: (name ++ '=' :: v.toList) ∧
      '=' ∉ c :: name ∧ switchOfName? level (c :: name) = some (.setting s) := by
  cases s with
  | config =>
      refine ⟨'c', "onfig".toList, String.toList_append, by decide, ?_⟩
      cases level with
      | none => rfl
      | some command => cases command <;> rfl
  | output =>
      obtain rfl : level = some .generate := h
      exact ⟨'o', "utput".toList, String.toList_append, by decide, rfl⟩
  | format =>
      obtain rfl : level = some .list := h.1
      exact ⟨'f', "ormat".toList, String.toList_append, by decide, rfl⟩
  | path => exact absurd rfl hpath

/-- An argument that is not a path looks like an option, and does what it says. -/
theorem Argument.shape_text {level : Level} {a : Argument} (h : a.IsAdmitted level)
    (hpath : ∀ v, a ≠ .setting .path v) (r : Reading) :
    (∃ body, shape a.text = .long body ∧ r.long level body = r.take a) ∨
      ∃ body, shape a.text = .letters body ∧ r.letters level body = r.take a := by
  cases a with
  | quiet =>
      refine .inr ⟨['q'], rfl, ?_⟩
      show _ = r.flag .quiet
      refine r.letters_flag level ?_
      cases level with
      | none => rfl
      | some command => cases command <;> rfl
  | verbose =>
      refine .inr ⟨['v'], rfl, ?_⟩
      show _ = r.flag .verbose
      refine r.letters_flag level ?_
      cases level with
      | none => rfl
      | some command => cases command <;> rfl
  | setting s v =>
      have hs : s ≠ .path := by
        rintro rfl
        exact hpath v rfl
      obtain ⟨c, name, htext, heq, hswitch⟩ := toList_text_setting h hs
      refine .inl ⟨_, shape_of_long htext, ?_⟩
      rw [← List.cons_append, r.long_setting level hswitch heq]
      cases s <;> first | rfl | exact absurd rfl hs

theorem readProgram_cons {r : Reading} {a : Argument} (h : a.IsAdmitted none)
    (rest : List String) :
    readProgram true r (a.text :: rest) = (r.take a).bind fun r => readProgram true r rest := by
  have hpath : ∀ v, a ≠ .setting .path v := by
    rintro v rfl
    cases h.1
  rw [readProgram, if_pos rfl]
  obtain ⟨body, hshape, htake⟩ | ⟨body, hshape, htake⟩ := Argument.shape_text h hpath r
  · rw [hshape, ← htake]
    rfl
  · rw [hshape, ← htake]
    rfl

theorem readCommand_cons {command : CommandName} {r : Reading} {args : List Argument}
    (hrecords : r.Records args) {a : Argument} (h : a.IsAdmitted (some command))
    (hnew : ∀ k ∈ a.once?, k ∉ args.filterMap Argument.once?) (rest : List String) :
    readCommand command true r (a.text :: rest) =
      (r.take a).bind fun r => readCommand command true r rest := by
  rw [readCommand, if_pos rfl]
  by_cases hpath : ∃ v, a = .setting .path v
  · obtain ⟨v, rfl⟩ := hpath
    obtain ⟨hcheck, hplain⟩ := h
    obtain rfl := Option.some.inj hcheck
    rw [Argument.text, shape_of_head? hplain]
    show (if r.wantsValue = true then _ else _) = _
    rw [hrecords.wantsValue, if_neg Bool.false_ne_true,
      Reading.positional_path hrecords (hnew _ rfl)]
    rfl
  · rw [not_exists] at hpath
    obtain ⟨body, hshape, htake⟩ | ⟨body, hshape, htake⟩ := Argument.shape_text h hpath r
    · rw [hshape, ← htake]
      rfl
    · rw [hshape, ← htake]
      rfl

/-! ## Reading several arguments -/

/-- A reader that takes the arguments of a level one after the other records all of them. -/
theorem exists_records_of_cons {α : Type} {level : Level}
    (read : Reading → List String → Except UsageError α)
    (hcons : ∀ {r : Reading} {args : List Argument} {a : Argument}, r.Records args →
      a.IsAdmitted level → (∀ k ∈ a.once?, k ∉ args.filterMap Argument.once?) →
      ∀ rest, read r (a.text :: rest) = (r.take a).bind fun r => read r rest)
    {r : Reading} {before args : List Argument} (hrecords : r.Records before)
    (hadmitted : ∀ a ∈ args, a.IsAdmitted level)
    (hnodup : ((before ++ args).filterMap Argument.once?).Nodup) (rest : List String) :
    ∃ r', read r (args.map Argument.text ++ rest) = read r' rest ∧
      r'.Records (before ++ args) := by
  induction args generalizing r before with
  | nil => exact ⟨r, rfl, by rwa [List.append_nil]⟩
  | cons a args ih =>
      obtain ⟨ha, hargs⟩ := List.forall_mem_cons.mp hadmitted
      have hnew : ∀ k ∈ a.once?, k ∉ before.filterMap Argument.once? := by
        intro k hk hmem
        rw [List.filterMap_append, List.nodup_append] at hnodup
        exact hnodup.2.2 k hmem k (List.mem_filterMap.mpr ⟨a, List.mem_cons_self, hk⟩) rfl
      obtain ⟨r', htake, hrecords'⟩ := hrecords.take ha hnew
      obtain ⟨r'', hread, hrecords''⟩ := ih hrecords' hargs (by simpa using hnodup)
      refine ⟨r'', ?_, by simpa using hrecords''⟩
      rw [List.map_cons, List.cons_append, hcons hrecords ha hnew, htake]
      exact hread

theorem exists_records_readProgram {args : List Argument}
    (hadmitted : ∀ a ∈ args, a.IsAdmitted none)
    (hnodup : (args.filterMap Argument.once?).Nodup) (rest : List String) :
    ∃ r : Reading, readProgram true {} (args.map Argument.text ++ rest) = readProgram true r rest ∧
      r.Records args :=
  exists_records_of_cons (readProgram true) (fun _ ha _ => readProgram_cons ha)
    Reading.says_nil.records hadmitted hnodup rest

theorem readCommand_eq_ok {command : CommandName} {args : List Argument}
    (hadmitted : ∀ a ∈ args, a.IsAdmitted (some command))
    (hnodup : (args.filterMap Argument.once?).Nodup) :
    ∃ r : Reading, readCommand command true {} (args.map Argument.text) = .ok r ∧ r.Says args := by
  obtain ⟨r, hread, hrecords⟩ := exists_records_of_cons (readCommand command true)
    (fun hrecords ha hnew => readCommand_cons hrecords ha hnew) Reading.says_nil.records hadmitted
    hnodup []
  obtain ⟨settled, hsettle, htold⟩ := hrecords.settle
  rw [List.append_nil] at hread
  exact ⟨settled, hread.trans hsettle, htold⟩

/-- At the word of a command the other level begins. -/
theorem readProgram_word {r : Reading} (h : r.wantsValue = false) (name : CommandName)
    (rest : List String) :
    readProgram true r (name.word :: rest) = do
      let command ← readCommand name true {} rest
      return combine (← r.settle) command name := by
  have hshape : shape name.word = .plain := by
    cases name <;> rfl
  have hname : CommandName.ofWord? name.word = some name := by
    cases name <;> rfl
  rw [readProgram, if_pos rfl, hshape]
  show (if r.wantsValue = true then _ else _) = _
  rw [h, if_neg Bool.false_ne_true, hname]

/-! ## The arguments of an invocation -/

/-- The options that stand on either level. -/
inductive CommonOption where
  | quiet
  | verbose
  | config

/-- What an invocation says of an option. -/
def CommonOption.arguments (i : Invocation) : CommonOption → List Argument
  | .quiet => if i.quiet then [.quiet] else []
  | .verbose => List.replicate i.verbosity .verbose
  | .config => i.config?.toList.map (.setting .config)

/-- What an invocation says of the options that are chosen. -/
def commonArguments (i : Invocation) (chosen : CommonOption → Bool) : List Argument :=
  [CommonOption.quiet, .verbose, .config].flatMap fun option =>
    if chosen option then option.arguments i else []

/-- The arguments that a command has for itself. A default can be left out. -/
inductive IsOwn : Command → List Argument → Prop
  | generate : IsOwn (.generate none) []
  | output (v : String) : IsOwn (.generate (some v)) [.setting .output v]
  | check : IsOwn (.check none) []
  | path {v : String} : v.toList.head? ≠ some '-' → IsOwn (.check (some v)) [.setting .path v]
  | list : IsOwn (.list .text) []
  | format (f : ListingFormat) : IsOwn (.list f) [.setting .format f.label]

/-- The name of a command. -/
def nameOf : Command → CommandName
  | .generate _ => .generate
  | .check _ => .check
  | .list _ => .list

section
variable {i : Invocation} {chosen : CommonOption → Bool}

theorem mem_commonArguments {a : Argument} :
    a ∈ commonArguments i chosen ↔
      ∃ option : CommonOption, chosen option = true ∧ a ∈ option.arguments i := by
  rw [commonArguments, List.mem_flatMap]
  constructor
  · rintro ⟨option, -, ha⟩
    split at ha
    · next hchosen => exact ⟨option, hchosen, ha⟩
    · cases ha
  · rintro ⟨option, hchosen, ha⟩
    exact ⟨option, by cases option <;> simp, by rwa [if_pos hchosen]⟩

theorem quiet_mem_commonArguments :
    .quiet ∈ commonArguments i chosen ↔ chosen .quiet = true ∧ i.quiet = true := by
  rw [mem_commonArguments]
  constructor
  · rintro ⟨option, hchosen, ha⟩
    cases option <;> simp_all [CommonOption.arguments]
  · rintro ⟨hchosen, hquiet⟩
    exact ⟨.quiet, hchosen, by simp [CommonOption.arguments, hquiet]⟩

theorem setting_mem_commonArguments {s : Setting} {v : String} :
    .setting s v ∈ commonArguments i chosen ↔
      chosen .config = true ∧ s = .config ∧ i.config? = some v := by
  rw [mem_commonArguments]
  constructor
  · rintro ⟨option, hchosen, ha⟩
    cases option <;> simp_all [CommonOption.arguments]
  · rintro ⟨hchosen, rfl, hconfig⟩
    exact ⟨.config, hchosen, by simp [CommonOption.arguments, hconfig]⟩

theorem count_verbose_commonArguments :
    (commonArguments i chosen).count .verbose = if chosen .verbose then i.verbosity else 0 := by
  have hquiet : (CommonOption.quiet.arguments i).count .verbose = 0 := by
    rw [CommonOption.arguments]
    split <;> rfl
  have hverbose : (CommonOption.verbose.arguments i).count .verbose = i.verbosity :=
    List.count_replicate_self
  have hconfig : (CommonOption.config.arguments i).count .verbose = 0 := by
    rw [CommonOption.arguments]
    cases i.config? <;> rfl
  have hcount : ∀ option : CommonOption,
      (if chosen option then option.arguments i else []).count .verbose =
        if chosen option then (option.arguments i).count .verbose else 0 :=
    fun option => by split <;> rfl
  rw [commonArguments, List.flatMap_cons, List.flatMap_cons, List.flatMap_cons, List.flatMap_nil,
    List.append_nil, List.count_append, List.count_append, hcount, hcount, hcount, hquiet, hverbose,
    hconfig, ite_self, ite_self, Nat.zero_add, Nat.add_zero]

/-- What can be said only once is not repeated. -/
theorem filterMap_once?_commonArguments :
    ((commonArguments i chosen).filterMap Argument.once?).Sublist
      [.flag .quiet, .setting .config] := by
  have hquiet : ((CommonOption.quiet.arguments i).filterMap Argument.once?).Sublist
      [.flag .quiet] := by
    rw [CommonOption.arguments]
    split
    · exact .refl _
    · exact List.nil_sublist _
  have hverbose : ((CommonOption.verbose.arguments i).filterMap Argument.once?).Sublist [] := by
    rw [CommonOption.arguments, List.filterMap_replicate_of_none rfl]
  have hconfig : ((CommonOption.config.arguments i).filterMap Argument.once?).Sublist
      [.setting .config] := by
    rw [CommonOption.arguments]
    cases i.config? with
    | none => exact List.nil_sublist _
    | some v => exact .refl _
  have hchosen : ∀ {option : CommonOption} {used : List Switch},
      ((option.arguments i).filterMap Argument.once?).Sublist used →
      ((if chosen option then option.arguments i else []).filterMap
        Argument.once?).Sublist used := by
    intro option used h
    split
    · exact h
    · exact List.nil_sublist _
  rw [commonArguments, List.flatMap_cons, List.flatMap_cons, List.flatMap_cons, List.flatMap_nil,
    List.append_nil, List.filterMap_append, List.filterMap_append]
  exact (hchosen hquiet).append ((hchosen hverbose).append (hchosen hconfig))

theorem isAdmitted_of_mem_commonArguments {level : Level} :
    ∀ a ∈ commonArguments i chosen, a.IsAdmitted level := by
  intro a ha
  cases a with
  | quiet | verbose => trivial
  | setting s v =>
      obtain ⟨-, rfl, -⟩ := setting_mem_commonArguments.mp ha
      trivial

end

theorem IsOwn.isAdmitted {command : Command} {own : List Argument} (h : IsOwn command own) :
    ∀ a ∈ own, a.IsAdmitted (some (nameOf command)) := by
  cases h with
  | generate | check | list => exact List.forall_mem_nil _
  | output v => exact List.forall_mem_singleton.mpr rfl
  | path hv => exact List.forall_mem_singleton.mpr ⟨rfl, hv⟩
  | format f => exact List.forall_mem_singleton.mpr ⟨rfl, by cases f <;> rfl⟩

/-- A command has a setting at most, and none that it shares. -/
theorem IsOwn.eq_nil_or {command : Command} {own : List Argument} (h : IsOwn command own) :
    own = [] ∨ ∃ s v, own = [.setting s v] ∧ s ≠ .config := by
  cases h with
  | generate | check | list => exact .inl rfl
  | output v => exact .inr ⟨_, _, rfl, by decide⟩
  | path _ => exact .inr ⟨_, _, rfl, by decide⟩
  | format f => exact .inr ⟨_, _, rfl, by decide⟩

theorem IsOwn.exists_setting {command : Command} {own : List Argument} (h : IsOwn command own) :
    ∀ a ∈ own, ∃ s v, a = .setting s v ∧ s ≠ .config := by
  obtain rfl | ⟨s, v, rfl, hs⟩ := h.eq_nil_or
  · exact List.forall_mem_nil _
  · exact List.forall_mem_singleton.mpr ⟨s, v, rfl, hs⟩

theorem IsOwn.nodup {command : Command} {own : List Argument} (h : IsOwn command own)
    (i : Invocation) (chosen : CommonOption → Bool) :
    ((own ++ commonArguments i chosen).filterMap Argument.once?).Nodup := by
  rw [List.filterMap_append]
  refine List.Nodup.sublist (.append (.refl _) filterMap_once?_commonArguments) ?_
  obtain rfl | ⟨s, v, rfl, hs⟩ := h.eq_nil_or
  · decide
  · show ([Switch.setting s] ++ [Switch.flag .quiet, Switch.setting .config]).Nodup
    cases s with
    | config => exact absurd rfl hs
    | output | format | path => decide

theorem commandOf_eq {command : Command} {own args : List Argument} (h : IsOwn command own)
    {r : Reading} (hr : r.Says args)
    (hown : ∀ s v, s ≠ .config → (.setting s v ∈ args ↔ .setting s v ∈ own)) :
    commandOf r (nameOf command) = command := by
  have hnone : own = [] → ∀ s, s ≠ .config → r.value? s = none := by
    rintro rfl s hs
    rw [Option.eq_none_iff_forall_ne_some]
    intro v hv
    exact absurd ((hown s v hs).mp ((hr.value? s v).mp hv)) List.not_mem_nil
  have hsome : ∀ s v, own = [.setting s v] → s ≠ .config → r.value? s = some v := by
    rintro s v rfl hs
    exact (hr.value? s v).mpr ((hown s v hs).mpr List.mem_cons_self)
  cases h with
  | generate =>
      show Command.generate (r.value? .output) = _
      rw [hnone rfl .output (by decide)]
  | output v =>
      show Command.generate (r.value? .output) = _
      rw [hsome .output v rfl (by decide)]
  | check =>
      show Command.check (r.value? .path) = _
      rw [hnone rfl .path (by decide)]
  | @path v _ =>
      show Command.check (r.value? .path) = _
      rw [hsome .path v rfl (by decide)]
  | list =>
      show Command.list (((r.value? .format).bind ListingFormat.ofLabel?).getD .text) = _
      rw [hnone rfl .format (by decide)]
      rfl
  | format f =>
      show Command.list (((r.value? .format).bind ListingFormat.ofLabel?).getD .text) = _
      rw [hsome .format f.label rfl (by decide)]
      cases f <;> rfl

/-! What a level says of the common options, next to other settings. -/

section
variable {i : Invocation} {chosen : CommonOption → Bool} {own : List Argument} {r : Reading}

theorem Reading.Says.quiet_eq (hr : r.Says (own ++ commonArguments i chosen))
    (hown : ∀ a ∈ own, ∃ s v, a = .setting s v ∧ s ≠ .config) :
    r.quiet = (chosen .quiet && i.quiet) := by
  have hfree : Argument.quiet ∉ own := by
    intro hmem
    obtain ⟨s, v, heq, -⟩ := hown _ hmem
    cases heq
  rw [Bool.eq_iff_iff, hr.quiet, List.mem_append, quiet_mem_commonArguments, or_iff_right hfree,
    Bool.and_eq_true]

theorem Reading.Says.verbosity_eq (hr : r.Says (own ++ commonArguments i chosen))
    (hown : ∀ a ∈ own, ∃ s v, a = .setting s v ∧ s ≠ .config) :
    r.verbosity = min 255 (if chosen .verbose then i.verbosity else 0) := by
  have hfree : own.count .verbose = 0 := by
    rw [List.count_eq_zero]
    intro hmem
    obtain ⟨s, v, heq, -⟩ := hown _ hmem
    cases heq
  rw [hr.verbosity, List.count_append, hfree, count_verbose_commonArguments, Nat.zero_add]

theorem Reading.Says.config_eq (hr : r.Says (own ++ commonArguments i chosen))
    (hown : ∀ a ∈ own, ∃ s v, a = .setting s v ∧ s ≠ .config) :
    r.value? .config = if chosen .config then i.config? else none := by
  refine Option.ext fun v => ?_
  have hfree : Argument.setting .config v ∉ own := by
    intro hmem
    obtain ⟨s, w, heq, hs⟩ := hown _ hmem
    cases heq
    exact hs rfl
  rw [hr.value?, List.mem_append, setting_mem_commonArguments, or_iff_right hfree]
  cases chosen .config <;> simp

end

/-- What the two levels say together is the invocation. -/
theorem combine_eq {i : Invocation} (hverbosity : i.verbosity ≤ 255) {own : List Argument}
    (hown : IsOwn i.command own) {inFront : CommonOption → Bool} {before after : Reading}
    (hbefore : before.Says (commonArguments i inFront))
    (hafter : after.Says (own ++ commonArguments i fun option => !inFront option)) :
    combine before after (nameOf i.command) = i := by
  have hbefore : before.Says ([] ++ commonArguments i inFront) := hbefore
  have hcommand : commandOf after (nameOf i.command) = i.command := by
    refine commandOf_eq hown hafter fun s v hs => ?_
    rw [List.mem_append, setting_mem_commonArguments]
    simp [hs]
  have hmin : min 255 i.verbosity = i.verbosity := Nat.min_eq_right hverbosity
  rw [combine, hcommand, hbefore.quiet_eq (List.forall_mem_nil _),
    hafter.quiet_eq hown.exists_setting, hbefore.verbosity_eq (List.forall_mem_nil _),
    hafter.verbosity_eq hown.exists_setting, hbefore.config_eq (List.forall_mem_nil _),
    hafter.config_eq hown.exists_setting]
  -- Every option is chosen for one of the levels, so the other level has its default.
  obtain ⟨quiet, verbosity, config?, command⟩ := i
  congr 1
  · cases inFront .quiet <;> simp
  · dsimp only at hmin ⊢
    cases inFront .verbose
    · rcases Nat.eq_zero_or_pos verbosity with rfl | hpos
      · rfl
      · simp [hmin, Nat.pos_iff_ne_zero.mp hpos]
    · simp [hmin]
  · cases inFront .config <;> simp

/--
A command line made of the word of a command, its own arguments, and what is to be said of the
common options, says just that. Each common option stands on one side of the word, all of it, and
on both sides the order is free; what is left out has its default.
-/
theorem parse_arguments_any_order {i : Invocation} (hverbosity : i.verbosity ≤ 255)
    {own before after : List Argument} (hown : IsOwn i.command own)
    (inFront : CommonOption → Bool) (hbefore : before.Perm (commonArguments i inFront))
    (hafter : after.Perm (own ++ commonArguments i fun option => !inFront option)) :
    parse (before.map Argument.text ++ (nameOf i.command).word :: after.map Argument.text) =
      .ok i := by
  have hadmitted : ∀ a ∈ before, a.IsAdmitted none := fun a ha =>
    isAdmitted_of_mem_commonArguments a (hbefore.mem_iff.mp ha)
  have hadmitted' : ∀ a ∈ after, a.IsAdmitted (some (nameOf i.command)) := by
    intro a ha
    rcases List.mem_append.mp (hafter.mem_iff.mp ha) with ha | ha
    · exact hown.isAdmitted a ha
    · exact isAdmitted_of_mem_commonArguments a ha
  have hnodup : (before.filterMap Argument.once?).Nodup := by
    rw [(hbefore.filterMap _).nodup_iff]
    exact IsOwn.nodup .generate i inFront
  have hnodup' : (after.filterMap Argument.once?).Nodup := by
    rw [(hafter.filterMap _).nodup_iff]
    exact hown.nodup i _
  obtain ⟨r, hprogram, hrecords⟩ := exists_records_readProgram hadmitted hnodup
    ((nameOf i.command).word :: after.map Argument.text)
  obtain ⟨settled, hsettle, htold⟩ := hrecords.settle
  obtain ⟨command, hcommand, htold'⟩ := readCommand_eq_ok hadmitted' hnodup'
  rw [parse, hprogram, readProgram_word hrecords.wantsValue, hcommand, hsettle]
  exact congrArg Except.ok (combine_eq hverbosity hown (htold.of_perm hbefore)
    (htold'.of_perm hafter))

/-- The options on both sides, and a path between those behind the word. -/
theorem parse_arguments_mixed :
    parse ["-v", "-v", "check", "--config=a=b c", "help", "-q"] =
      .ok { quiet := true, verbosity := 2, config? := some "a=b c"
            command := .check (some "help") } := by
  let i : Invocation :=
    { quiet := true, verbosity := 2, config? := some "a=b c", command := .check (some "help") }
  let inFront : CommonOption → Bool := fun
    | .verbose => true
    | .quiet | .config => false
  have hown : IsOwn i.command [.setting .path "help"] := .path (by decide)
  have hbefore : [Argument.verbose, .verbose].Perm (commonArguments i inFront) := by decide
  have hafter : [Argument.setting .config "a=b c", .setting .path "help", .quiet].Perm
      ([.setting .path "help"] ++ commonArguments i fun option => !inFront option) := by decide
  exact parse_arguments_any_order (i := i) (by decide) hown inFront hbefore hafter

end VerilogLibrary.CommandLine
