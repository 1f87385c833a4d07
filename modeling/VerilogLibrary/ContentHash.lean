import VerilogLibrary.Digest.Stream
import VerilogLibrary.Json.Basic
import VerilogLibrary.Text.Utf8

/-!
# Content hashes

The identity of a library text is the XXH3 digest of its bytes. Two runs of the
generator over the same catalog and options give the same hash, and a file is
stale when its hash differs from that of a fresh rendering.
-/

namespace VerilogLibrary

/-- A digest of sixteen bytes. -/
structure ContentHash where
  bytes : List UInt8
  length_bytes : bytes.length = 16
  deriving DecidableEq, Repr

namespace ContentHash

/-- The hash that a 128-bit value denotes, least significant byte first. -/
def ofWord (w : Digest.Word128) : ContentHash :=
  ⟨w.bytes, w.length_bytes⟩

/-- The hash of a byte sequence. -/
def ofBytes (bytes : List UInt8) : ContentHash :=
  ofWord (Digest.digest bytes)

/-- The hash of the UTF-8 bytes of a text. -/
def ofText (s : String) : ContentHash :=
  ofBytes (Text.utf8 s)

/-- The hash made of the given bytes, if there are sixteen. -/
def ofList? (bytes : List UInt8) : Option ContentHash :=
  if h : bytes.length = 16 then some ⟨bytes, h⟩ else none

/-- The two hexadecimal digits of a byte, the high one first. -/
def hexPair (b : UInt8) : List Char :=
  [Nat.digitChar (b.toNat / 16), Nat.digitChar (b.toNat % 16)]

/-- The 32 hexadecimal digits of a hash. -/
def hex (h : ContentHash) : String :=
  String.ofList (h.bytes.flatMap hexPair)

/-- The first eight hexadecimal digits, for messages. -/
def short (h : ContentHash) : String :=
  String.ofList ((h.bytes.take 4).flatMap hexPair)

/-- The hash as an array of its bytes. -/
def toJson (h : ContentHash) : Json :=
  .array (h.bytes.map fun b => .nat b.toNat)

/-- Reads a hash: an array of exactly sixteen integers below 256. -/
def ofJson? (j : Json) : Option ContentHash := do
  let items ← j.array?
  let bytes ← items.mapM (Json.natBelow? UInt8.size)
  ofList? (bytes.map Nat.toUInt8)

end ContentHash

/-- A content hash under way, for a text that is written piece by piece. -/
structure ContentHasher where
  stream : Digest.Stream
  deriving Repr

namespace ContentHasher

/-- A hasher without input. -/
def empty : ContentHasher :=
  ⟨.empty⟩

/-- Feeds the next bytes. -/
def update (h : ContentHasher) (bytes : List UInt8) : ContentHasher :=
  ⟨h.stream.update bytes⟩

/-- The hash of everything fed so far. -/
def finish (h : ContentHasher) : ContentHash :=
  .ofWord h.stream.finish

end ContentHasher

end VerilogLibrary
