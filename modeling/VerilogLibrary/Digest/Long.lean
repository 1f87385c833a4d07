import VerilogLibrary.Digest.Secret

/-!
# XXH3 of long inputs

An input of more than 240 bytes runs through eight lanes of 64 bits. It is cut
into stripes of 64 bytes. Each stripe is keyed by a window into the secret that
moves eight bytes further with every stripe; after sixteen stripes the lanes are
scrambled and the window returns to the front. As long as more than one stripe
of input is left, the next stripe goes in; the last 64 bytes, which may overlap
the stripe before them, go in under a window of their own. Two weighted sums of
the lanes are the digest.

How far to run ahead is a parameter: `absorbBeyond keep` leaves the last `keep`
bytes and less alone, so that an input that arrives in pieces can be absorbed
before its end is known.
-/

namespace VerilogLibrary.Digest

/-- The lanes, and how many stripes they have absorbed. -/
structure Lanes where
  values : List UInt64
  stripes : Nat
  deriving Repr, DecidableEq

/-- The lanes before any input. -/
def Lanes.initial : Lanes where
  values := [prime32_3, prime64_1, prime64_2, prime64_3, prime64_4, prime32_2, prime64_5, prime32_1]
  stripes := 0

/-- The words with the two of each pair exchanged. -/
def swapPairs : List UInt64 → List UInt64
  | a :: b :: rest => b :: a :: swapPairs rest
  | rest => rest

/-- Adds a stripe to the lanes under the window of the secret at an offset. -/
def accumulate (values : List UInt64) (stripe : List UInt8) (offset : Nat) : List UInt64 :=
  let words := words64 8 stripe
  let keyed := List.zipWith (· ^^^ ·) words (words64 8 (secret.drop offset))
  List.zipWith (· + ·) (List.zipWith (· + ·) values (swapPairs words)) (keyed.map mulHalves)

/-- Stirs the lanes at the end of a block of sixteen stripes. -/
def scramble (values : List UInt64) : List UInt64 :=
  List.zipWith (fun (v key : UInt64) => (v ^^^ v >>> 47 ^^^ key) * prime32_1) values
    (words64 8 (secret.drop 128))

/-- Absorbs the next stripe. -/
def Lanes.absorb (lanes : Lanes) (stripe : List UInt8) : Lanes where
  values :=
    let values := accumulate lanes.values stripe (8 * (lanes.stripes % 16))
    if lanes.stripes % 16 = 15 then scramble values else values
  stripes := lanes.stripes + 1

/-- Absorbs stripes as long as more than `keep` bytes are left, and returns what is left. -/
def Lanes.absorbBeyond (keep : Nat) (lanes : Lanes) (bytes : List UInt8) : Lanes × List UInt8 :=
  if (bytes.drop keep).isEmpty then (lanes, bytes)
  else (lanes.absorb (bytes.take 64)).absorbBeyond keep (bytes.drop 64)
termination_by bytes.length
decreasing_by
  next more =>
    cases bytes with
    | nil => simp at more
    | cons b rest => simp only [List.length_drop, List.length_cons]; omega

/-- The sum of the lanes under a window of the secret. -/
def merge : List UInt64 → Nat → UInt64 → UInt64
  | a :: b :: rest, offset, sum =>
    merge rest (offset + 16)
      (sum + mulFold (a ^^^ secret64 offset) (b ^^^ secret64 (offset + 8)))
  | _, _, sum => avalanche sum

/-- The digest of `len` bytes of which the last 64 are `last`, once all stripes are absorbed. -/
def Lanes.finish (lanes : Lanes) (len : Nat) (last : List UInt8) : Word128 :=
  let values := accumulate lanes.values last 121
  { low := merge values 11 (len.toUInt64 * prime64_1)
    high := merge values 117 (~~~(len.toUInt64 * prime64_2)) }

/-- The last 64 bytes of an input. -/
def lastStripe (bytes : List UInt8) : List UInt8 :=
  bytes.drop (bytes.length - 64)

/-- The digest of more than 240 bytes. -/
def digestLong (bytes : List UInt8) : Word128 :=
  (Lanes.initial.absorbBeyond 64 bytes).1.finish bytes.length (lastStripe bytes)

end VerilogLibrary.Digest
