/-!
# Words of a byte sequence

The digest works on 32-bit and 64-bit words that are read from the bytes in
little-endian order. A word that sticks out over the end reads as if zeros
followed; the digest itself never reads there.
-/

namespace VerilogLibrary.Digest

/-- The number that the bytes denote, least significant byte first. -/
def littleEndian (bytes : List UInt8) : Nat :=
  bytes.foldr (fun b n => b.toNat + 256 * n) 0

/-- The 32-bit word at the front. -/
def word32 (bytes : List UInt8) : UInt32 :=
  (littleEndian (bytes.take 4)).toUInt32

/-- The 64-bit word at the front. -/
def word64 : List UInt8 → UInt64
  | a :: b :: c :: d :: e :: f :: g :: h :: _ =>
    a.toUInt64 ||| b.toUInt64 <<< 8 ||| c.toUInt64 <<< 16 ||| d.toUInt64 <<< 24
      ||| e.toUInt64 <<< 32 ||| f.toUInt64 <<< 40 ||| g.toUInt64 <<< 48 ||| h.toUInt64 <<< 56
  | bytes => (littleEndian bytes).toUInt64

/-- The first `n` 64-bit words. -/
def words64 : Nat → List UInt8 → List UInt64
  | 0, _ => []
  | n + 1, bytes => word64 bytes :: words64 n (bytes.drop 8)

/-- The low `n` bytes of a number, least significant byte first. -/
def bytesOfNat : Nat → Nat → List UInt8
  | 0, _ => []
  | n + 1, value => value.toUInt8 :: bytesOfNat n (value / 256)

theorem length_bytesOfNat (n value : Nat) : (bytesOfNat n value).length = n := by
  induction n generalizing value with
  | zero => rfl
  | succ n ih => simp [bytesOfNat, ih]

/-- The 32-bit word with its bytes in the opposite order. -/
def swapBytes32 (w : UInt32) : UInt32 :=
  w <<< 24 ||| (w <<< 8 &&& (0xFF0000 : UInt32)) ||| (w >>> 8 &&& (0xFF00 : UInt32)) ||| w >>> 24

/-- The 64-bit word with its bytes in the opposite order. -/
def swapBytes64 (w : UInt64) : UInt64 :=
  (swapBytes32 w.toUInt32).toUInt64 <<< 32 ||| (swapBytes32 (w >>> 32).toUInt32).toUInt64

/-- Rotation to the left. The amount lies strictly between 0 and 32. -/
def rotateLeft32 (w amount : UInt32) : UInt32 :=
  w <<< amount ||| w >>> (32 - amount)

/-- A pair of 64-bit words: the low and the high half of a 128-bit value. -/
structure Word128 where
  low : UInt64
  high : UInt64
  deriving Repr, DecidableEq

/-- The full product of two 64-bit words. -/
def mulWide (a b : UInt64) : Word128 :=
  let product := a.toNat * b.toNat
  ⟨product.toUInt64, (product / UInt64.size).toUInt64⟩

/-- The two halves of the full product, combined by exclusive or. -/
def mulFold (a b : UInt64) : UInt64 :=
  let product := mulWide a b
  product.low ^^^ product.high

/-- The product of the low and the high 32 bits of a word. -/
def mulHalves (w : UInt64) : UInt64 :=
  (w &&& (0xFFFFFFFF : UInt64)) * w >>> 32

/-- The sixteen bytes of a 128-bit value, least significant byte first. -/
def Word128.bytes (w : Word128) : List UInt8 :=
  bytesOfNat 8 w.low.toNat ++ bytesOfNat 8 w.high.toNat

theorem Word128.length_bytes (w : Word128) : w.bytes.length = 16 := by
  simp [Word128.bytes, length_bytesOfNat]

end VerilogLibrary.Digest
