import VerilogLibrary.Proofs.StreamedDigest

/-!
# Hashing in pieces

A hasher can be asked for the hash at any time, in the middle of a text as well
as at its end. What it answers is the hash of the bytes it was fed before, cut
into pieces in whatever way, and to have been asked makes no difference to what
it answers later.

All of it comes from one invariant: after any calls the hasher is in the state of
one that was fed the same bytes at once. Of these bytes it holds no more than 256
back, however large the pieces were.
-/

namespace VerilogLibrary

/-- What is asked of a hasher. -/
inductive HasherCall where
  | feed (bytes : List UInt8)
  | ask
  deriving DecidableEq, Repr

/-- The bytes that a call feeds. -/
def HasherCall.bytes : HasherCall → List UInt8
  | .feed bytes => bytes
  | .ask => []

namespace Digest

theorem Lanes.length_absorbBeyond_le (keep : Nat) (lanes : Lanes) (bytes : List UInt8) :
    (lanes.absorbBeyond keep bytes).2.length ≤ keep := by
  induction hn : bytes.length using Nat.strongRecOn generalizing lanes bytes with
  | _ n ih =>
      rcases Nat.lt_or_ge keep bytes.length with hlt | hle
      · have hshorter : (bytes.drop 64).length < n := by
          rw [List.length_drop]
          omega
        rw [absorbBeyond_of_lt_length hlt]
        exact ih _ hshorter _ _ rfl
      · rw [absorbBeyond_of_length_le hle]
        exact hle

theorem Stream.length_waiting_update_le (s : Stream) (piece : List UInt8) :
    (s.update piece).waiting.length ≤ 256 :=
  Lanes.length_absorbBeyond_le 256 s.lanes (s.waiting ++ piece)

end Digest

namespace ContentHasher

/-! ## Calls in a row -/

/-- The hasher after a call. -/
def perform (h : ContentHasher) : HasherCall → ContentHasher
  | .feed bytes => h.update bytes
  | .ask => h

/-- What a hasher answers in the course of calls. -/
def answers (h : ContentHasher) : List HasherCall → List ContentHash
  | [] => []
  | .feed bytes :: calls => (h.update bytes).answers calls
  | .ask :: calls => h.finish :: h.answers calls

theorem perform_update_empty (bytes : List UInt8) (call : HasherCall) :
    (empty.update bytes).perform call = empty.update (bytes ++ call.bytes) := by
  cases call with
  | feed more => exact update_update empty bytes more
  | ask =>
      show empty.update bytes = empty.update (bytes ++ [])
      rw [List.append_nil]

theorem foldl_perform_update_empty (bytes : List UInt8) (calls : List HasherCall) :
    calls.foldl perform (empty.update bytes) =
      empty.update (bytes ++ calls.flatMap HasherCall.bytes) := by
  induction calls generalizing bytes with
  | nil =>
      show empty.update bytes = empty.update (bytes ++ [])
      rw [List.append_nil]
  | cons call calls ih =>
      rw [List.foldl_cons, perform_update_empty, ih, List.append_assoc, List.flatMap_cons]

theorem foldl_perform_empty (calls : List HasherCall) :
    calls.foldl perform empty = empty.update (calls.flatMap HasherCall.bytes) := by
  have h := foldl_perform_update_empty [] calls
  rwa [update_nil_empty, List.nil_append] at h

/-- The memory of a hasher is bounded: whatever the calls, and however large the pieces, at most
256 of the bytes that were fed are held back. This is a result of its own, which the hash does
not need. -/
theorem length_waiting_le (calls : List HasherCall) :
    (calls.foldl perform empty).stream.waiting.length ≤ 256 := by
  rw [foldl_perform_empty]
  exact Digest.Stream.length_waiting_update_le _ _

/-- An answer depends on the calls in front of it only through the state they lead to. -/
theorem answers_append (h : ContentHasher) (front back : List HasherCall) :
    h.answers (front ++ back) = h.answers front ++ (front.foldl perform h).answers back := by
  induction front generalizing h with
  | nil => rfl
  | cons call front ih =>
      cases call with
      | feed bytes => exact ih (h.update bytes)
      | ask => exact congrArg (h.finish :: ·) (ih h)

theorem length_answers (h : ContentHasher) (calls : List HasherCall) :
    (h.answers calls).length = calls.count .ask := by
  induction calls generalizing h with
  | nil => rfl
  | cons call calls ih =>
      cases call with
      | feed bytes =>
          rw [answers, ih]
          exact (List.count_cons_of_ne (by simp)).symm
      | ask => rw [answers, List.length_cons, ih, List.count_cons_self]

theorem foldl_update_empty (chunks : List (List UInt8)) :
    chunks.foldl update empty = empty.update chunks.flatten := by
  have h := foldl_perform_empty (chunks.map .feed)
  have hbytes : chunks.flatMap (fun chunk => (HasherCall.feed chunk).bytes) = chunks.flatten :=
    List.flatMap_id'
  rw [List.foldl_map, List.flatMap_map, hbytes] at h
  exact h

/-- However a text is cut into chunks, a hasher that is fed them in order has the hash of what
was fed, after every one of them and at the end. In a row of calls there is one answer for each
time it is asked, and this is the hash of what the calls in front have fed, whether or not it was
asked among them. -/
theorem finish_every_chunking (chunks : List (List UInt8)) :
    (∀ n, ((chunks.take n).foldl update empty).finish = .ofBytes (chunks.take n).flatten) ∧
    (chunks.foldl update empty).finish = .ofBytes chunks.flatten ∧
    (∀ calls : List HasherCall, (empty.answers calls).length = calls.count .ask) ∧
    ∀ front back : List HasherCall,
      (empty.answers (front ++ .ask :: back))[front.count .ask]? =
        some (.ofBytes (front.flatMap HasherCall.bytes)) := by
  have hfinish : ∀ pieces : List (List UInt8),
      (pieces.foldl update empty).finish = .ofBytes pieces.flatten := by
    intro pieces
    rw [foldl_update_empty, finish_update_empty]
  refine ⟨fun n => hfinish _, hfinish chunks, length_answers empty, fun front back => ?_⟩
  rw [answers_append, ← length_answers empty front, List.getElem?_append_right (Nat.le_refl _),
    Nat.sub_self, foldl_perform_empty, answers, finish_update_empty, List.getElem?_cons_zero]

end ContentHasher

end VerilogLibrary
