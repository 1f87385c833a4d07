import Mathlib
import VerilogLibrary.ContentHash

/-!
# The digest of a text that arrives in pieces

A stream absorbs stripes while more than 256 bytes wait, and the digest in one
shot while more than 64 are left. Both are `absorbBeyond`, and the whole matter
rests on one property of it: to run ahead under a larger limit, and then to go
on under a smaller one with more bytes behind, is the same as to run once over
all bytes under the smaller limit. What is absorbed early would have been
absorbed anyway, because a stripe of 64 bytes never reaches past a limit of 64
and more.

Taken with one limit, this says that two pieces are as good as one. Taken with
both, it says that the lanes come out right at the end. What is left is that
the stream still knows the length and the last stripe, and it does: stripes and
waiting bytes together make the input, and behind an absorbed stripe there wait
more than 192 bytes.
-/

namespace VerilogLibrary.Digest

namespace Lanes

theorem absorbBeyond_of_length_le {lanes : Lanes} {bytes : List UInt8} {keep : Nat}
    (h : bytes.length ≤ keep) : lanes.absorbBeyond keep bytes = (lanes, bytes) := by
  have hempty : (bytes.drop keep).isEmpty = true := by
    rw [List.drop_eq_nil_of_le h, List.isEmpty_nil]
  rw [absorbBeyond, if_pos hempty]

theorem absorbBeyond_of_lt_length {lanes : Lanes} {bytes : List UInt8} {keep : Nat}
    (h : keep < bytes.length) :
    lanes.absorbBeyond keep bytes =
      (lanes.absorb (bytes.take 64)).absorbBeyond keep (bytes.drop 64) := by
  have hmore : ¬ (bytes.drop keep).isEmpty = true := by
    rw [List.isEmpty_iff, List.drop_eq_nil_iff]
    omega
  rw [absorbBeyond, if_neg hmore]

/-- Running ahead under a larger limit changes nothing about a run under a
smaller one. -/
theorem absorbBeyond_append {keep keep' : Nat} (hstripe : 64 ≤ keep) (hkeep : keep' ≤ keep)
    (lanes : Lanes) (bytes more : List UInt8) :
    lanes.absorbBeyond keep' (bytes ++ more) =
      (lanes.absorbBeyond keep bytes).1.absorbBeyond keep'
        ((lanes.absorbBeyond keep bytes).2 ++ more) := by
  induction hn : bytes.length using Nat.strongRecOn generalizing lanes bytes with
  | _ n ih =>
      rcases Nat.lt_or_ge keep bytes.length with hlt | hle
      · have hlong : keep' < (bytes ++ more).length := by
          rw [List.length_append]
          omega
        have hshorter : (bytes.drop 64).length < n := by
          rw [List.length_drop]
          omega
        -- The stripe lies within `bytes`, so both runs absorb the same one.
        rw [absorbBeyond_of_lt_length hlong, absorbBeyond_of_lt_length hlt,
          List.take_append_of_le_length (by omega), List.drop_append_of_le_length (by omega)]
        exact ih _ hshorter _ _ rfl
      · rw [absorbBeyond_of_length_le hle]

/-- What waits is the end of the input, in front of it are whole stripes, and
where a stripe was absorbed all but 64 bytes of the limit wait. -/
theorem absorbBeyond_waiting {keep : Nat} (hstripe : 64 ≤ keep) (lanes : Lanes)
    (bytes : List UInt8) :
    ∃ absorbed, bytes = absorbed ++ (lanes.absorbBeyond keep bytes).2 ∧
      64 * (lanes.absorbBeyond keep bytes).1.stripes = 64 * lanes.stripes + absorbed.length ∧
      (absorbed = [] ∨ keep < (lanes.absorbBeyond keep bytes).2.length + 64) := by
  induction hn : bytes.length using Nat.strongRecOn generalizing lanes bytes with
  | _ n ih =>
      rcases Nat.lt_or_ge keep bytes.length with hlt | hle
      · have hshorter : (bytes.drop 64).length < n := by
          rw [List.length_drop]
          omega
        obtain ⟨absorbed, hbytes, hstripes, hwaiting⟩ :=
          ih _ hshorter (lanes.absorb (bytes.take 64)) _ rfl
        rw [absorbBeyond_of_lt_length hlt]
        refine ⟨bytes.take 64 ++ absorbed, ?_, ?_, .inr ?_⟩
        · rw [List.append_assoc, ← hbytes, List.take_append_drop]
        · have hone : (lanes.absorb (bytes.take 64)).stripes = lanes.stripes + 1 := rfl
          rw [hstripes, hone, List.length_append, List.length_take]
          omega
        · rcases hwaiting with rfl | hwaiting
          · rw [← List.nil_append (absorbBeyond _ _ _).2, ← hbytes, List.length_drop]
            omega
          · exact hwaiting
      · rw [absorbBeyond_of_length_le hle]
        exact ⟨[], rfl, rfl, .inl rfl⟩

end Lanes

theorem lastStripe_append {front bytes : List UInt8} (h : 64 ≤ bytes.length) :
    lastStripe (front ++ bytes) = lastStripe bytes := by
  have hdrop : (front ++ bytes).length - 64 = front.length + (bytes.length - 64) := by
    rw [List.length_append]
    omega
  rw [lastStripe, hdrop, List.drop_append, List.drop_eq_nil_of_le (Nat.le_add_right _ _),
    List.nil_append, Nat.add_sub_cancel_left, lastStripe]

namespace Stream

theorem update_nil_empty : empty.update [] = empty := by
  rw [update, empty, List.append_nil, Lanes.absorbBeyond_of_length_le (Nat.zero_le 256)]

/-- Two pieces are as good as one. -/
theorem update_update (s : Stream) (piece more : List UInt8) :
    (s.update piece).update more = s.update (piece ++ more) := by
  have h := Lanes.absorbBeyond_append (show 64 ≤ 256 by omega) (Nat.le_refl 256) s.lanes
    (s.waiting ++ piece) more
  rw [List.append_assoc] at h
  simp only [update, h]

/-- What a stream keeps of an input that arrived at once: whole stripes in the
lanes, and the end of the input. -/
theorem waiting_update_empty (bytes : List UInt8) :
    ∃ absorbed, bytes = absorbed ++ (empty.update bytes).waiting ∧
      64 * (empty.update bytes).lanes.stripes = absorbed.length ∧
      (absorbed = [] ∨ 192 < (empty.update bytes).waiting.length) := by
  obtain ⟨absorbed, hbytes, hstripes, hwaiting⟩ :=
    Lanes.absorbBeyond_waiting (show 64 ≤ 256 by omega) Lanes.initial bytes
  refine ⟨absorbed, hbytes, ?_, ?_⟩
  · rw [show Lanes.initial.stripes = 0 from rfl, Nat.mul_zero, Nat.zero_add] at hstripes
    exact hstripes
  · rcases hwaiting with hnone | hwaiting
    · exact .inl hnone
    · exact .inr (show 192 < (Lanes.initial.absorbBeyond 256 bytes).2.length by omega)

/-- To absorb what a stream has kept back leads to the lanes of the whole input. -/
theorem lanes_update_empty (bytes : List UInt8) :
    ((empty.update bytes).lanes.absorbBeyond 64 (empty.update bytes).waiting).1 =
      (Lanes.initial.absorbBeyond 64 bytes).1 := by
  have h := Lanes.absorbBeyond_append (show 64 ≤ 256 by omega) (show 64 ≤ 256 by omega)
    Lanes.initial bytes []
  rw [List.append_nil, List.append_nil] at h
  rw [h]
  rfl

/-- What a stream gives for an input that arrived at once is its digest. -/
theorem finish_update_empty (bytes : List UInt8) : (empty.update bytes).finish = digest bytes := by
  obtain ⟨absorbed, hbytes, hstripes, hwaiting⟩ := waiting_update_empty bytes
  have hlength : bytes.length = absorbed.length + (empty.update bytes).waiting.length := by
    rw [← List.length_append, ← hbytes]
  have hsize : (empty.update bytes).size = bytes.length := by
    rw [size, hstripes, hlength]
  rw [finish, hsize, digest]
  split
  · next hshort =>
      -- Of so short an input nothing was absorbed: a stripe and what waits behind it are longer.
      have hnone : absorbed = [] := by
        rcases hwaiting with hnone | hwaiting
        · exact hnone
        · exact List.length_eq_zero_iff.mp (by omega)
      rw [hnone, List.nil_append] at hbytes
      rw [← hbytes]
  · next hlong =>
      have hlast : lastStripe (empty.update bytes).waiting = lastStripe bytes := by
        rcases hwaiting with rfl | hwaiting
        · rw [List.nil_append] at hbytes
          rw [← hbytes]
        · conv_rhs => rw [hbytes]
          exact (lastStripe_append (by omega)).symm
      rw [digestLong, lanes_update_empty, hlast]

end Stream

end VerilogLibrary.Digest

namespace VerilogLibrary.ContentHasher

/-- A hasher that was fed is in the state of one that was fed everything at once. -/
theorem update_update (h : ContentHasher) (bytes more : List UInt8) :
    (h.update bytes).update more = h.update (bytes ++ more) := by
  rw [update, update, Digest.Stream.update_update, update]

theorem update_nil_empty : empty.update [] = empty := by
  rw [update, empty, Digest.Stream.update_nil_empty]

theorem finish_update_empty (bytes : List UInt8) :
    (empty.update bytes).finish = ContentHash.ofBytes bytes := by
  rw [update, finish, empty, Digest.Stream.finish_update_empty, ContentHash.ofBytes]

end VerilogLibrary.ContentHasher
