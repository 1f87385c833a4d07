/-!
# Sinks

A library is written to a sink, which takes bytes call by call. A call may take
only part of what it is offered. A sink that has run full either fails the call
or takes nothing; both end the writing, for a writer that has more to write and
makes no headway gives up. What was taken before stays taken.
-/

namespace VerilogLibrary

/-- Why a text could not be written. -/
inductive WriteFailure where
  /-- A call failed, for the given reason. -/
  | refused (reason : String)
  /-- A call took nothing. -/
  | tookNothing
  deriving DecidableEq, Repr

/-- The message for a failure to write. -/
def WriteFailure.message : WriteFailure → String
  | .refused reason => reason
  | .tookNothing => "failed to write whole buffer"

/-- A receiver of bytes. -/
structure Sink where
  /-- The most that one call takes. -/
  perCall? : Option Nat := none
  /-- How much the sink can still take. -/
  room? : Option Nat := none
  /-- How a call fails when the sink can take nothing. -/
  whenFull : WriteFailure := .tookNothing
  /-- How the final flush fails, if it does. -/
  flushFailure? : Option WriteFailure := none
  /-- The bytes taken so far, the latest first. -/
  reversed : List UInt8 := []
  deriving Repr

namespace Sink

/-- A sink that takes everything. -/
def unlimited : Sink := {}

/-- The bytes taken so far. -/
def received (s : Sink) : List UInt8 :=
  s.reversed.reverse

/-- At most the given number of items from the front. -/
def takeAtMost (most? : Option Nat) (bytes : List UInt8) : List UInt8 :=
  match most? with
  | some n => bytes.take n
  | none => bytes

/-- What one call takes of the bytes it is offered. -/
def portion (s : Sink) (bytes : List UInt8) : List UInt8 :=
  takeAtMost s.room? (takeAtMost s.perCall? bytes)

/-- The sink after a call that took the bytes. -/
def take (s : Sink) (bytes : List UInt8) : Sink :=
  { s with
    room? := s.room?.map (· - bytes.length)
    reversed := bytes.reverseAux s.reversed }

/-- Offers the bytes in as many calls as it takes. -/
def writeAll (s : Sink) (bytes : List UInt8) : Sink × Option WriteFailure :=
  if bytes.isEmpty then (s, none)
  else
    let portion := s.portion bytes
    if portion.isEmpty then (s, some s.whenFull)
    else (s.take portion).writeAll (bytes.drop portion.length)
termination_by bytes.length
decreasing_by
  next notEmpty some =>
    have : bytes ≠ [] := by simpa using notEmpty
    have : 0 < bytes.length := List.length_pos_iff.2 this
    have : 0 < (s.portion bytes).length := List.length_pos_iff.2 (by simpa using some)
    simp only [List.length_drop]
    omega

end Sink

end VerilogLibrary
