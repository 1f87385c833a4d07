import Mathlib
import VerilogLibrary.Sink

/-!
# What a sink takes of a text

A text goes into a sink call by call, and each call takes a piece from its
front. How large the piece is depends on the most that a call takes and on the
room that is left, but as long as a call can take anything at all, the pieces
put together are the text, or as much of it as there is room for. So the
size of the calls is invisible from the outside: either the whole text is
taken, or the sink is filled to the last byte and the writing fails.
-/

namespace VerilogLibrary.Sink

/-- A sink can take so many bytes more. -/
def HasRoom (s : Sink) (n : Nat) : Prop :=
  ∀ room, s.room? = some room → n ≤ room

@[simp]
theorem whenFull_take (s : Sink) (bytes : List UInt8) : (s.take bytes).whenFull = s.whenFull := rfl

@[simp]
theorem flushFailure?_take (s : Sink) (bytes : List UInt8) :
    (s.take bytes).flushFailure? = s.flushFailure? := rfl

theorem room?_take (s : Sink) (bytes : List UInt8) :
    (s.take bytes).room? = s.room?.map (· - bytes.length) := rfl

theorem received_take (s : Sink) (bytes : List UInt8) :
    (s.take bytes).received = s.received ++ bytes := by
  rw [received, take, List.reverseAux_eq, List.reverse_append, List.reverse_reverse, received]

theorem take_nil (s : Sink) : s.take [] = s := by
  obtain ⟨perCall, room, whenFull, flushFailure, reversed⟩ := s
  cases room <;> rfl

theorem take_take (s : Sink) (bytes more : List UInt8) :
    (s.take bytes).take more = s.take (bytes ++ more) := by
  obtain ⟨perCall, room, whenFull, flushFailure, reversed⟩ := s
  cases room with
  | none => simp [take, List.reverseAux_eq]
  | some n => simp [take, List.reverseAux_eq, Nat.sub_sub]

theorem hasRoom_take {s : Sink} {bytes : List UInt8} {n : Nat} (h : s.HasRoom (bytes.length + n)) :
    (s.take bytes).HasRoom n := by
  intro room hroom
  rw [room?_take] at hroom
  obtain ⟨before, hbefore, rfl⟩ := Option.map_eq_some_iff.mp hroom
  have := h before hbefore
  omega

theorem not_hasRoom_iff {s : Sink} {n : Nat} :
    ¬ s.HasRoom n ↔ ∃ room, s.room? = some room ∧ room < n := by
  simp only [HasRoom, not_forall, exists_prop, Nat.not_le]

/-! ## One call -/

theorem takeAtMost_isPrefix (most? : Option Nat) (bytes : List UInt8) :
    takeAtMost most? bytes <+: bytes := by
  cases most? with
  | none => exact List.prefix_rfl
  | some n => exact List.take_prefix n bytes

theorem takeAtMost_ne_nil {most? : Option Nat} {bytes : List UInt8} (hmost : most? ≠ some 0)
    (hbytes : bytes ≠ []) : takeAtMost most? bytes ≠ [] := by
  cases most? with
  | none => exact hbytes
  | some n =>
      rw [takeAtMost, Ne, List.take_eq_nil_iff, not_or]
      exact ⟨fun hn => hmost (congrArg some hn), hbytes⟩

theorem portion_isPrefix (s : Sink) (bytes : List UInt8) : s.portion bytes <+: bytes :=
  (takeAtMost_isPrefix s.room? _).trans (takeAtMost_isPrefix s.perCall? bytes)

theorem portion_append_drop (s : Sink) (bytes : List UInt8) :
    s.portion bytes ++ bytes.drop (s.portion bytes).length = bytes :=
  List.prefix_iff_eq_append.mp (s.portion_isPrefix bytes)

theorem length_portion_le {s : Sink} {room : Nat} (h : s.room? = some room) (bytes : List UInt8) :
    (s.portion bytes).length ≤ room := by
  rw [portion, h, takeAtMost, List.length_take]
  exact Nat.min_le_left _ _

theorem portion_ne_nil {s : Sink} {bytes : List UInt8} (hcall : s.perCall? ≠ some 0)
    (hroom : s.room? ≠ some 0) (hbytes : bytes ≠ []) : s.portion bytes ≠ [] :=
  takeAtMost_ne_nil hroom (takeAtMost_ne_nil hcall hbytes)

theorem portion_of_full {s : Sink} (h : s.room? = some 0) (bytes : List UInt8) :
    s.portion bytes = [] := by
  rw [portion, h, takeAtMost, List.take_zero]

/-! ## All calls for a text -/

theorem writeAll_nil (s : Sink) : s.writeAll [] = (s, none) := by
  rw [writeAll, List.isEmpty_nil, if_pos rfl]

theorem writeAll_of_portion_ne_nil {s : Sink} {bytes : List UInt8} (h : s.portion bytes ≠ []) :
    s.writeAll bytes =
      (s.take (s.portion bytes)).writeAll (bytes.drop (s.portion bytes).length) := by
  have hbytes : bytes ≠ [] := by
    rintro rfl
    exact h (List.prefix_nil.mp (s.portion_isPrefix []))
  rw [writeAll, if_neg (by simpa using hbytes)]
  exact if_neg (by simpa using h)

theorem writeAll_of_portion_eq_nil {s : Sink} {bytes : List UInt8} (h : s.portion bytes = [])
    (hbytes : bytes ≠ []) : s.writeAll bytes = (s, some s.whenFull) := by
  rw [writeAll, if_neg (by simpa using hbytes)]
  exact if_pos (by rw [h, List.isEmpty_nil])

theorem writeAll_of_stuck {s : Sink} {bytes : List UInt8} (h : s.perCall? = some 0)
    (hbytes : bytes ≠ []) : s.writeAll bytes = (s, some s.whenFull) := by
  refine writeAll_of_portion_eq_nil ?_ hbytes
  rw [portion, h]
  exact List.prefix_nil.mp (takeAtMost_isPrefix s.room? [])

theorem writeAll_of_hasRoom {s : Sink} {bytes : List UInt8} (hcall : s.perCall? ≠ some 0)
    (hroom : s.HasRoom bytes.length) : s.writeAll bytes = (s.take bytes, none) := by
  induction hn : bytes.length using Nat.strongRecOn generalizing s bytes with
  | _ n ih =>
      by_cases hbytes : bytes = []
      · rw [hbytes, writeAll_nil, take_nil]
      · have hpos := List.length_pos_iff.mpr hbytes
        have hnotFull : s.room? ≠ some 0 := fun hzero => by
          have := hroom 0 hzero
          omega
        have hportion := portion_ne_nil hcall hnotFull hbytes
        have hlength := List.length_pos_iff.mpr hportion
        have hrest : (bytes.drop (s.portion bytes).length).length < n := by
          rw [List.length_drop]
          omega
        have hroom' : (s.take (s.portion bytes)).HasRoom
            (bytes.drop (s.portion bytes).length).length := by
          apply hasRoom_take
          rwa [← List.length_append, portion_append_drop]
        rw [writeAll_of_portion_ne_nil hportion, ih _ hrest (s := s.take _) hcall hroom' rfl,
          take_take, portion_append_drop]

theorem writeAll_of_lt_length {s : Sink} {bytes : List UInt8} {room : Nat}
    (hcall : s.perCall? ≠ some 0) (hroom : s.room? = some room) (hlt : room < bytes.length) :
    s.writeAll bytes = (s.take (bytes.take room), some s.whenFull) := by
  induction hn : bytes.length using Nat.strongRecOn generalizing s bytes room with
  | _ n ih =>
      have hbytes : bytes ≠ [] := List.length_pos_iff.mp (by omega)
      by_cases hfull : room = 0
      · rw [hfull] at hroom
        rw [writeAll_of_portion_eq_nil (portion_of_full hroom bytes) hbytes, hfull,
          List.take_zero, take_nil]
      · have hportion : s.portion bytes ≠ [] :=
          portion_ne_nil hcall (by rw [hroom]; exact fun h => hfull (Option.some.inj h)) hbytes
        have hpos := List.length_pos_iff.mpr hportion
        have hle := length_portion_le hroom bytes
        have hroom' : (s.take (s.portion bytes)).room? =
            some (room - (s.portion bytes).length) := by
          rw [room?_take, hroom, Option.map_some]
        have hlength : (bytes.drop (s.portion bytes).length).length =
            bytes.length - (s.portion bytes).length := List.length_drop
        -- What the call took and what the rest of the room takes are the front of the text.
        have htake : s.portion bytes ++
            (bytes.drop (s.portion bytes).length).take (room - (s.portion bytes).length) =
            bytes.take room := by
          conv_rhs => rw [← s.portion_append_drop bytes, List.take_append,
            List.take_of_length_le hle]
        rw [writeAll_of_portion_ne_nil hportion,
          ih _ (by omega) (s := s.take (s.portion bytes)) hcall hroom' (by omega) rfl,
          take_take, htake, whenFull_take]

end VerilogLibrary.Sink
