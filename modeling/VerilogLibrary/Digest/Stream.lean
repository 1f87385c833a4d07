import VerilogLibrary.Digest.Short
import VerilogLibrary.Digest.Long

/-!
# XXH3 in one shot and in pieces

`digest` hashes bytes that are all there. A `Stream` takes them in pieces of any
size and needs memory for 256 bytes only. It can be asked for the digest at any
time, and goes on unharmed afterwards.

A stream absorbs a stripe only while more than 256 bytes wait. So a short input
is still there as a whole when the digest is asked for, and behind an absorbed
stripe there always wait more than 192 bytes, among them the last 64.
-/

namespace VerilogLibrary.Digest

/-- The 128-bit digest of the bytes. -/
def digest (bytes : List UInt8) : Word128 :=
  if bytes.length ≤ 240 then digestShort bytes else digestLong bytes

/-- An input of which only a part has arrived. -/
structure Stream where
  lanes : Lanes
  waiting : List UInt8
  deriving Repr, DecidableEq

namespace Stream

/-- The stream before any input. -/
def empty : Stream :=
  ⟨Lanes.initial, []⟩

/-- How many bytes have arrived. -/
def size (s : Stream) : Nat :=
  64 * s.lanes.stripes + s.waiting.length

/-- Takes the next piece of the input. -/
def update (s : Stream) (piece : List UInt8) : Stream :=
  let (lanes, waiting) := s.lanes.absorbBeyond 256 (s.waiting ++ piece)
  ⟨lanes, waiting⟩

/-- The digest of everything that has arrived. -/
def finish (s : Stream) : Word128 :=
  if s.size ≤ 240 then digestShort s.waiting
  else (s.lanes.absorbBeyond 64 s.waiting).1.finish s.size (lastStripe s.waiting)

end Stream

end VerilogLibrary.Digest
