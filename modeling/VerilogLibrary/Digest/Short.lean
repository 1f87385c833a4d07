import VerilogLibrary.Digest.Secret

/-!
# XXH3 of short inputs

Inputs of at most 240 bytes are hashed as a whole, by one of six formulas that
are chosen by the length. Those from 17 bytes on mix pairs of 16-byte pieces,
taken from both ends towards the middle or, above 128 bytes, from the front.
-/

namespace VerilogLibrary.Digest

/-- The digest of the empty input. -/
def digestEmpty : Word128 where
  low := strongAvalanche (secret64 64 ^^^ secret64 72)
  high := strongAvalanche (secret64 80 ^^^ secret64 88)

/-- The digest of one to three bytes. -/
def digestUpTo3 (bytes : List UInt8) : Word128 :=
  let len := bytes.length
  let byte (i : Nat) : UInt32 := (bytes[i]?.getD 0).toUInt32
  let low := byte 0 <<< 16 ||| byte (len / 2) <<< 24 ||| byte (len - 1) ||| len.toUInt32 <<< 8
  let high := rotateLeft32 (swapBytes32 low) 13
  { low := strongAvalanche (low.toUInt64 ^^^ (secret32 0 ^^^ secret32 4).toUInt64)
    high := strongAvalanche (high.toUInt64 ^^^ (secret32 8 ^^^ secret32 12).toUInt64) }

/-- The digest of four to eight bytes. -/
def digestUpTo8 (bytes : List UInt8) : Word128 :=
  let len := bytes.length
  let first := (word32 bytes).toUInt64
  let last := (word32 (bytes.drop (len - 4))).toUInt64
  let keyed := (first + last <<< 32) ^^^ (secret64 16 ^^^ secret64 24)
  let product := mulWide keyed (prime64_1 + len.toUInt64 <<< 2)
  let high := product.high + product.low <<< 1
  let low := product.low ^^^ high >>> 3
  let low := (low ^^^ low >>> 35) * 0x9FB21C651E98DF25
  { low := low ^^^ low >>> 28, high := avalanche high }

/-- The digest of nine to sixteen bytes. -/
def digestUpTo16 (bytes : List UInt8) : Word128 :=
  let len := bytes.length
  let first := word64 bytes
  let last := word64 (bytes.drop (len - 8))
  let product := mulWide (first ^^^ last ^^^ (secret64 32 ^^^ secret64 40)) prime64_1
  let low := product.low + (len - 1).toUInt64 <<< 54
  let last := last ^^^ (secret64 48 ^^^ secret64 56)
  let high := product.high + last + (last &&& (0xFFFFFFFF : UInt64)) * (prime32_2 - 1)
  let low := low ^^^ swapBytes64 high
  let product := mulWide low prime64_2
  { low := avalanche product.low, high := avalanche (product.high + high * prime64_2) }

/-- Sixteen bytes of input folded under sixteen bytes of the secret. -/
def mix16 (bytes : List UInt8) (offset : Nat) : UInt64 :=
  mulFold (word64 bytes ^^^ secret64 offset) (word64 (bytes.drop 8) ^^^ secret64 (offset + 8))

/-- The sum of the two words at the front. -/
def sumOfTwo (bytes : List UInt8) : UInt64 :=
  word64 bytes + word64 (bytes.drop 8)

/-- Mixes two pieces of sixteen bytes into the state. -/
def mixPair (acc : Word128) (one other : List UInt8) (offset : Nat) : Word128 where
  low := (acc.low + mix16 one offset) ^^^ sumOfTwo other
  high := (acc.high + mix16 other (offset + 16)) ^^^ sumOfTwo one

/-- The digest of a state that has mixed in `len` bytes. -/
def finishPairs (len : Nat) (acc : Word128) : Word128 where
  low := avalanche (acc.low + acc.high)
  high := 0 - avalanche (acc.low * prime64_1 + acc.high * prime64_4 + len.toUInt64 * prime64_2)

/-- The digest of 17 to 128 bytes: pairs from both ends, the innermost first. -/
def digestUpTo128 (bytes : List UInt8) : Word128 :=
  let len := bytes.length
  let pairs := (len - 1) / 32
  let mix (acc : Word128) (i : Nat) : Word128 :=
    mixPair acc (bytes.drop (16 * i)) (bytes.drop (len - 16 * (i + 1))) (32 * i)
  finishPairs len <| (List.range (pairs + 1)).reverse.foldl mix ⟨len.toUInt64 * prime64_1, 0⟩

/-- The digest of 129 to 240 bytes: neighbouring pairs from the front, then the end. -/
def digestUpTo240 (bytes : List UInt8) : Word128 :=
  let len := bytes.length
  let mix (shift : Nat) (acc : Word128) (i : Nat) : Word128 :=
    mixPair acc (bytes.drop (32 * i)) (bytes.drop (32 * i + 16)) (32 * i - shift)
  let acc := [0, 1, 2, 3].foldl (mix 0) ⟨len.toUInt64 * prime64_1, 0⟩
  let acc : Word128 := ⟨avalanche acc.low, avalanche acc.high⟩
  let acc := ((List.range (len / 32)).drop 4).foldl (mix 125) acc
  finishPairs len <| mixPair acc (bytes.drop (len - 16)) (bytes.drop (len - 32)) 103

/-- The digest of at most 240 bytes. -/
def digestShort (bytes : List UInt8) : Word128 :=
  let len := bytes.length
  if len = 0 then digestEmpty
  else if len ≤ 3 then digestUpTo3 bytes
  else if len ≤ 8 then digestUpTo8 bytes
  else if len ≤ 16 then digestUpTo16 bytes
  else if len ≤ 128 then digestUpTo128 bytes
  else digestUpTo240 bytes

end VerilogLibrary.Digest
