import VerilogLibrary.Proofs.LibraryFaults
import VerilogLibrary.Proofs.SinkWrites
import VerilogLibrary.Proofs.StreamedDigest

/-!
# What reaches a sink

One text decides what a sink receives of a library: that of all pieces in
front of the first faulty module. A sink with room for it receives all of it;
one without is filled with its front. Three things can end the writing, and
they come in this order: the sink runs full before the text is out, a module
turns out to be faulty behind it, the flush fails at the very end. How much a
single call takes makes no difference to any of this.

The induction over the pieces carries a record of what was written: the
hasher, the count of bytes and the names are those of the pieces so far. That
the hash at the end is that of the text is then the fact that a hasher does
not notice how its input is cut.
-/

namespace VerilogLibrary

/-- The bytes of pieces, faulty or not. -/
def bytesOf (ps : List Piece) : List UInt8 :=
  ps.flatMap fun p => Text.utf8 p.content

/-- The name of a piece that is a module. -/
def Piece.name? : Piece → Option String
  | .text _ => none
  | .decl m => some m.name

/-- The names of the modules among pieces. -/
def namesOf (ps : List Piece) : List String :=
  ps.filterMap Piece.name?

/-- The bytes of a library up to its first faulty module. -/
def soundBytes (c : Catalog) (o : Options) : List UInt8 :=
  bytesOf (soundPieces (pieces c o))

/-- A progress that accounts for the pieces that were written. -/
structure Progress.Records (p : Progress) (written : List Piece) : Prop where
  hasher : p.hasher = ContentHasher.empty.update (bytesOf written)
  bytes : p.bytes = (bytesOf written).length
  modules : p.modules.reverse = namesOf written

theorem bytesOf_append (ps qs : List Piece) : bytesOf (ps ++ qs) = bytesOf ps ++ bytesOf qs :=
  List.flatMap_append

theorem namesOf_append (ps qs : List Piece) : namesOf (ps ++ qs) = namesOf ps ++ namesOf qs :=
  List.filterMap_append

theorem bytesOf_cons (p : Piece) (ps : List Piece) :
    bytesOf (p :: ps) = Text.utf8 p.content ++ bytesOf ps :=
  List.flatMap_cons

theorem bytesOf_singleton (p : Piece) : bytesOf [p] = Text.utf8 p.content :=
  List.flatMap_singleton ..

/-! ## The record of what was written -/

theorem Progress.records_start : start.Records [] :=
  ⟨ContentHasher.update_nil_empty.symm, rfl, rfl⟩

theorem Progress.Records.add {p : Progress} {written : List Piece} (h : p.Records written)
    (piece : Piece) :
    (p.add piece (Text.utf8 piece.content)).Records (written ++ [piece]) := by
  constructor
  · show p.hasher.update (Text.utf8 piece.content) = _
    rw [h.hasher, ContentHasher.update_update, bytesOf_append, bytesOf_singleton]
  · show p.bytes + (Text.utf8 piece.content).length = _
    rw [h.bytes, bytesOf_append, bytesOf_singleton, List.length_append]
  · rw [namesOf_append, ← h.modules]
    cases piece with
    | text s => exact (List.append_nil _).symm
    | decl m => exact List.reverse_cons

theorem Progress.Records.summary {p : Progress} {written : List Piece} (h : p.Records written) :
    p.summary =
      { modules := namesOf written
        bytes := (bytesOf written).length
        hash := .ofBytes (bytesOf written) } := by
  rw [Progress.summary, h.hasher, h.bytes, h.modules, ContentHasher.finish_update_empty]

/-! ## Pieces -/

theorem writePieces_cons_of_fault {p : Piece} {e : LibraryError} (h : p.fault? = some e)
    (rest : List Piece) (s : Sink) (progress : Progress) :
    writePieces (p :: rest) s progress = (s, .error e) := by
  rw [writePieces, Piece.render_of_fault h]

theorem writePieces_cons_of_hasRoom {p : Piece} (h : p.fault? = none) (rest : List Piece)
    {s : Sink} (hcall : s.perCall? ≠ some 0) (hroom : s.HasRoom (Text.utf8 p.content).length)
    (progress : Progress) :
    writePieces (p :: rest) s progress =
      writePieces rest (s.take (Text.utf8 p.content))
        (progress.add p (Text.utf8 p.content)) := by
  rw [writePieces, Piece.render_of_no_fault h]
  simp only [Sink.writeAll_of_hasRoom hcall hroom]

theorem writePieces_cons_of_lt {p : Piece} (h : p.fault? = none) (rest : List Piece)
    {s : Sink} {room : Nat} (hcall : s.perCall? ≠ some 0) (hroom : s.room? = some room)
    (hlt : room < (Text.utf8 p.content).length) (progress : Progress) :
    writePieces (p :: rest) s progress =
      (s.take ((Text.utf8 p.content).take room), .error (.write s.whenFull)) := by
  rw [writePieces, Piece.render_of_no_fault h]
  simp only [Sink.writeAll_of_lt_length hcall hroom hlt]

theorem writePieces_of_hasRoom {ps : List Piece} {s : Sink} {progress : Progress}
    {written : List Piece} (hcall : s.perCall? ≠ some 0)
    (hroom : s.HasRoom (bytesOf (soundPieces ps)).length) (hrecords : progress.Records written) :
    ∃ final, final.Records (written ++ soundPieces ps) ∧
      writePieces ps s progress =
        (s.take (bytesOf (soundPieces ps)),
          match ps.findSome? Piece.fault? with
          | some e => .error e
          | none => .ok final) := by
  induction ps generalizing s progress written with
  | nil =>
      refine ⟨progress, ?_, ?_⟩
      · rwa [soundPieces, List.takeWhile_nil, List.append_nil]
      · exact Prod.ext s.take_nil.symm rfl
  | cons p rest ih =>
      cases hp : p.fault? with
      | some e =>
          refine ⟨progress, ?_, ?_⟩
          · rwa [soundPieces_cons_of_fault rest hp, List.append_nil]
          · rw [writePieces_cons_of_fault hp, soundPieces_cons_of_fault rest hp,
              List.findSome?_cons_of_isSome (by rw [hp]; rfl), hp]
            exact Prod.ext s.take_nil.symm rfl
      | none =>
          rw [soundPieces_cons_of_no_fault rest hp, bytesOf_cons] at hroom ⊢
          rw [List.length_append] at hroom
          have hfits : s.HasRoom (Text.utf8 p.content).length :=
            fun room h => Nat.le_trans (Nat.le_add_right _ _) (hroom room h)
          obtain ⟨final, hfinal, hwrite⟩ := ih (s := s.take (Text.utf8 p.content)) hcall
            (Sink.hasRoom_take hroom) (hrecords.add p)
          refine ⟨final, ?_, ?_⟩
          · rwa [List.append_assoc, List.singleton_append] at hfinal
          · rw [writePieces_cons_of_hasRoom hp rest hcall hfits, hwrite, Sink.take_take,
              List.findSome?_cons_of_isNone (by rw [hp]; rfl)]

theorem writePieces_of_lt {ps : List Piece} {s : Sink} {room : Nat} (progress : Progress)
    (hcall : s.perCall? ≠ some 0) (hroom : s.room? = some room)
    (hlt : room < (bytesOf (soundPieces ps)).length) :
    writePieces ps s progress =
      (s.take ((bytesOf (soundPieces ps)).take room), .error (.write s.whenFull)) := by
  induction ps generalizing s progress room with
  | nil => exact absurd hlt (Nat.not_lt_zero room)
  | cons p rest ih =>
      cases hp : p.fault? with
      | some e =>
          rw [soundPieces_cons_of_fault rest hp] at hlt
          exact absurd hlt (Nat.not_lt_zero room)
      | none =>
          rw [soundPieces_cons_of_no_fault rest hp, bytesOf_cons] at hlt ⊢
          rw [List.length_append] at hlt
          rcases Nat.lt_or_ge room (Text.utf8 p.content).length with hshort | hlong
          · rw [writePieces_cons_of_lt hp rest hcall hroom hshort,
              List.take_append_of_le_length (Nat.le_of_lt hshort)]
          · -- The piece still fits, and the room behind it is too small for the rest.
            have hfits : s.HasRoom (Text.utf8 p.content).length := by
              intro room' hroom'
              rw [hroom] at hroom'
              rwa [← Option.some.inj hroom']
            have hroom' : (s.take (Text.utf8 p.content)).room? =
                some (room - (Text.utf8 p.content).length) := by
              rw [Sink.room?_take, hroom, Option.map_some]
            rw [writePieces_cons_of_hasRoom hp rest hcall hfits,
              ih (s := s.take _) _ hcall hroom' (by omega), Sink.take_take, List.take_append,
              List.take_of_length_le hlong, Sink.whenFull_take]

/-! ## Libraries -/

theorem Section.namesOf_pieces (c : Catalog) (o : Options) (s : Section) :
    namesOf (s.pieces c o) = (s.decls c o).map ModuleDecl.name := by
  rw [namesOf, pieces, List.filterMap_cons_none rfl, List.filterMap_cons_none rfl,
    List.filterMap_map]
  exact congrFun (List.filterMap_eq_map (f := ModuleDecl.name)) _

theorem namesOf_pieces (c : Catalog) (o : Options) :
    namesOf (pieces c o) = (plan c o).map (·.2.name) := by
  rw [namesOf, pieces, List.filterMap_flatMap, map_plan ModuleDecl.name]
  exact congrArg Section.all.flatMap (funext fun s => s.namesOf_pieces c o)

theorem soundPieces_of_no_fault {ps : List Piece} (h : ps.findSome? Piece.fault? = none) :
    soundPieces ps = ps := by
  rw [soundPieces, List.takeWhile_eq_self_iff]
  intro p hp
  rw [List.findSome?_eq_none_iff.mp h p hp]
  rfl

/-- Where a library has a text, its bytes are what reaches a sink. -/
theorem soundBytes_of_renderLibrary {c : Catalog} {o : Options} {t : String}
    (h : renderLibrary c o = .ok t) : soundBytes c o = Text.utf8 t := by
  obtain ⟨hnames, rfl⟩ := renderLibrary_eq_ok_iff.mp h
  have hfault : (pieces c o).findSome? Piece.fault? = none := by
    rw [findSome?_fault?_pieces, ← Option.not_isSome_iff_eq_none]
    intro hsome
    obtain ⟨e, he⟩ := Option.isSome_iff_exists.mp hsome
    rw [renderLibrary_of_firstFault?_some he] at h
    cases h
  rw [soundBytes, soundPieces_of_no_fault hfault, bytesOf, libraryText, Text.utf8,
    String.toList_join, List.flatMap_map, List.flatMap_assoc]
  rfl

theorem writeLibrary_of_hasRoom {c : Catalog} {o : Options} {s : Sink}
    (hcall : s.perCall? ≠ some 0) (hroom : s.HasRoom (soundBytes c o).length) :
    writeLibrary c o s =
      (s.take (soundBytes c o),
        match firstFault? c o, s.flushFailure? with
        | some e, _ => .error e
        | none, some failure => .error (.write failure)
        | none, none => .ok
            { modules := (plan c o).map (·.2.name)
              bytes := (soundBytes c o).length
              hash := .ofBytes (soundBytes c o) }) := by
  obtain ⟨final, hfinal, hwrite⟩ := writePieces_of_hasRoom hcall hroom Progress.records_start
  rw [List.nil_append] at hfinal
  rw [writeLibrary, hwrite, ← findSome?_fault?_pieces]
  cases hfault : (pieces c o).findSome? Piece.fault? with
  | some e => rfl
  | none =>
      have hsummary := hfinal.summary
      rw [soundPieces_of_no_fault hfault] at hsummary
      rw [soundBytes, soundPieces_of_no_fault hfault, ← namesOf_pieces, ← hsummary]
      simp only [Sink.flushFailure?_take]
      cases s.flushFailure? <;> rfl

theorem writeLibrary_of_lt {c : Catalog} {o : Options} {s : Sink} {room : Nat}
    (hcall : s.perCall? ≠ some 0) (hroom : s.room? = some room)
    (hlt : room < (soundBytes c o).length) :
    writeLibrary c o s =
      (s.take ((soundBytes c o).take room), .error (.write s.whenFull)) := by
  rw [writeLibrary, writePieces_of_lt .start hcall hroom hlt, soundBytes]

theorem perCall?_of_writeLibrary {c : Catalog} {o : Options} {s s' : Sink} {summary : Summary}
    (h : writeLibrary c o s = (s', .ok summary)) : s.perCall? ≠ some 0 := by
  intro hzero
  have hheader : Text.utf8 (Section.operations .unary).header ≠ [] := by decide
  have hpieces : ∃ rest, pieces c o = .text (Section.operations .unary).header :: rest := ⟨_, rfl⟩
  obtain ⟨rest, hpieces⟩ := hpieces
  have hstuck : writePieces (pieces c o) s .start = (s, .error (.write s.whenFull)) := by
    rw [hpieces, writePieces, Piece.render]
    simp only [Sink.writeAll_of_stuck hzero hheader]
  rw [writeLibrary, hstuck] at h
  cases h

/-- A library that was written has a text, which the sink has received, and
the report names the modules of its plan. -/
theorem renderLibrary_of_writeLibrary {c : Catalog} {o : Options} {s s' : Sink}
    {summary : Summary} (h : writeLibrary c o s = (s', .ok summary)) :
    ∃ t, renderLibrary c o = .ok t ∧ s'.received = s.received ++ Text.utf8 t ∧
      summary.modules = (plan c o).map (·.2.name) := by
  have hcall := perCall?_of_writeLibrary h
  by_cases hroom : s.HasRoom (soundBytes c o).length
  · rw [writeLibrary_of_hasRoom hcall hroom] at h
    obtain ⟨rfl, hresult⟩ := Prod.mk.inj h
    cases hfault : firstFault? c o with
    | some e => rw [hfault] at hresult; cases hresult
    | none =>
        obtain ⟨t, ht⟩ := renderLibrary_of_firstFault?_none hfault
        cases hflush : s.flushFailure? with
        | some failure => rw [hfault, hflush] at hresult; cases hresult
        | none =>
            rw [hfault, hflush] at hresult
            refine ⟨t, ht, ?_, by rw [← Except.ok.inj hresult]⟩
            rw [Sink.received_take, soundBytes_of_renderLibrary ht]
  · obtain ⟨room, hlimit, hlt⟩ := Sink.not_hasRoom_iff.mp hroom
    rw [writeLibrary_of_lt hcall hlimit hlt] at h
    cases h

/-- What happens when a library is written to a sink whose calls take
something, be it ever so little. With room for the bytes up to the first faulty
module, the sink receives just these, and the outcome is the fault, else the
failure of the flush, else a report on them. With less room it is filled, and
the outcome is the failure of the sink. The most that a call takes does not
matter, and where the library has a text the bytes are those of the text. -/
theorem writeLibrary_outcome (c : Catalog) (o : Options) {s : Sink}
    (hcall : s.perCall? ≠ some 0) :
    (s.HasRoom (soundBytes c o).length →
      (writeLibrary c o s).1.received = s.received ++ soundBytes c o ∧
      (writeLibrary c o s).2 =
        match firstFault? c o, s.flushFailure? with
        | some e, _ => .error e
        | none, some failure => .error (.write failure)
        | none, none => .ok
            { modules := (plan c o).map (·.2.name)
              bytes := (soundBytes c o).length
              hash := .ofBytes (soundBytes c o) }) ∧
    (∀ limit, s.room? = some limit → limit < (soundBytes c o).length →
      (writeLibrary c o s).1.received = s.received ++ (soundBytes c o).take limit ∧
      (writeLibrary c o s).2 = .error (.write s.whenFull)) ∧
    (∀ perCall?, perCall? ≠ some 0 →
      (writeLibrary c o { s with perCall? }).1.received = (writeLibrary c o s).1.received ∧
      (writeLibrary c o { s with perCall? }).2 = (writeLibrary c o s).2) ∧
    ∀ t, renderLibrary c o = .ok t → soundBytes c o = Text.utf8 t := by
  refine ⟨fun hroom => ?_, fun limit hlimit hlt => ?_, fun perCall? hcall' => ?_,
    fun t => soundBytes_of_renderLibrary⟩
  · rw [writeLibrary_of_hasRoom hcall hroom]
    exact ⟨s.received_take _, rfl⟩
  · rw [writeLibrary_of_lt hcall hlimit hlt]
    exact ⟨s.received_take _, rfl⟩
  · by_cases hroom : s.HasRoom (soundBytes c o).length
    · rw [writeLibrary_of_hasRoom hcall hroom,
        writeLibrary_of_hasRoom (s := { s with perCall? }) hcall' hroom]
      exact ⟨rfl, rfl⟩
    · obtain ⟨limit, hlimit, hlt⟩ := Sink.not_hasRoom_iff.mp hroom
      rw [writeLibrary_of_lt hcall hlimit hlt,
        writeLibrary_of_lt (s := { s with perCall? }) hcall' hlimit hlt]
      exact ⟨rfl, rfl⟩

/-- Two headers fit and a faulty module follows. With just enough room the
fault is reported, before the flush is tried; with a byte less, the full sink. -/
theorem writeLibrary_outcome_at_limit :
    let c := Catalog.empty.run [.push ⟨.unaryReduce, "9lives", ""⟩]
    let s (room : Nat) : Sink :=
      { perCall? := some 7, room? := some room, whenFull := .refused "sink full"
        flushFailure? := some (.refused "flush failed") }
    (soundBytes c {}).length = 30 ∧
      (writeLibrary c {} (s 30)).1.received = soundBytes c {} ∧
      (writeLibrary c {} (s 30)).2 = .error (.faulty "9lives" (.invalidName "9lives")) ∧
      (writeLibrary c {} (s 29)).1.received = (soundBytes c {}).take 29 ∧
      (writeLibrary c {} (s 29)).2 = .error (.write (.refused "sink full")) := by
  intro c s
  have hlength : (soundBytes c {}).length = 30 := by decide +kernel
  have hfault : firstFault? c {} = some (.faulty "9lives" (.invalidName "9lives")) := by
    decide +kernel
  have hroom : (s 30).HasRoom (soundBytes c {}).length := by
    intro room heq
    rw [← Option.some.inj heq, hlength]
  obtain ⟨hreceived, hresult⟩ :=
    (writeLibrary_outcome c {} (s := s 30) (by decide)).1 hroom
  obtain ⟨hreceived', hresult'⟩ :=
    (writeLibrary_outcome c {} (s := s 29) (by decide)).2.1 29 rfl (by rw [hlength]; decide)
  rw [hfault] at hresult
  exact ⟨hlength, hreceived, hresult, hreceived', hresult'⟩

end VerilogLibrary
