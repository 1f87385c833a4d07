import VerilogLibrary.Text.Utf8

/-!
# A text is read back from its bytes

Of the two ways to a text, one keeps characters all along and the other writes
bytes and decodes them in the end. They agree because decoding gives back any
text that was written.

The argument is about one character with any bytes behind it. What the reader
asks of a lead byte and of the byte behind it are bounds on numbers, and the
numbers come from a code point by division. The bounds after `E0` and `F0` hold
because a character is written in as few bytes as it can be, those after `ED` and
`F4` because no character is a surrogate or lies above U+10FFFF. The text follows
by induction on its characters.
-/

namespace VerilogLibrary.Text

namespace Utf8

variable {lead second : UInt8} {rest : List UInt8} {n : Nat}

/-! ## Bytes as numbers -/

theorem between_of_toNat {low b high : UInt8} (hlow : low.toNat ≤ b.toNat)
    (hhigh : b.toNat ≤ high.toNat) : (low ≤ b && b ≤ high) = true := by
  rw [Bool.and_eq_true, decide_eq_true_eq, decide_eq_true_eq]
  exact ⟨UInt8.le_iff_toNat_le.mpr hlow, UInt8.le_iff_toNat_le.mpr hhigh⟩

/-- The second byte has to be a continuation byte, and to keep to one more bound after each of two
lead bytes. -/
theorem isSecond_of_toNat {first last low high : UInt8} (hlow : 0x80 ≤ second.toNat)
    (hhigh : second.toNat ≤ 0xBF)
    (hfirst : lead.toNat = first.toNat → low.toNat ≤ second.toNat)
    (hlast : lead.toNat = last.toNat → second.toNat ≤ high.toNat) :
    (if lead == first then low ≤ second && second ≤ 0xBF
      else if lead == last then 0x80 ≤ second && second ≤ high
      else isContinuation second) = true := by
  split
  · next hlead => exact between_of_toNat (hfirst (by rw [eq_of_beq hlead])) hhigh
  · split
    · next hlead => exact between_of_toNat hlow (hlast (by rw [eq_of_beq hlead]))
    · exact between_of_toNat hlow hhigh

/-- Where a lead byte leads, by its number. -/
theorem front_eq (lead : UInt8) (rest : List UInt8) :
    front lead rest =
      if lead.toNat < 0x80 then .char (Char.ofNat lead.toNat) rest
      else if 0xC2 ≤ lead.toNat ∧ lead.toNat ≤ 0xDF then frontOfTwo lead rest
      else if 0xE0 ≤ lead.toNat ∧ lead.toNat ≤ 0xEF then frontOfThree lead rest
      else if 0xF0 ≤ lead.toNat ∧ lead.toNat ≤ 0xF4 then frontOfFour lead rest
      else .malformed rest := by
  simp only [front, UInt8.lt_iff_toNat_lt, UInt8.le_iff_toNat_le, UInt8.reduceToNat,
    Bool.and_eq_true, decide_eq_true_eq]

/-! ## One character -/

/-- The byte behind a lead byte that carries the last six bits of a number. -/
def tailByte (n : Nat) : UInt8 :=
  .ofNat (n % 64 + 128)

theorem toNat_tailByte (n : Nat) : (tailByte n).toNat = n % 64 + 128 := by
  rw [tailByte, UInt8.toNat_ofNat']
  omega

theorem isContinuation_tailByte (n : Nat) : isContinuation (tailByte n) = true := by
  have hlow : 0x80 ≤ (tailByte n).toNat := by rw [toNat_tailByte]; omega
  have hhigh : (tailByte n).toNat ≤ 0xBF := by rw [toNat_tailByte]; omega
  exact between_of_toNat hlow hhigh

theorem payload_tailByte (n : Nat) : payload (tailByte n) = n % 64 := by
  rw [payload, toNat_tailByte]
  omega

theorem front_one (h : n ≤ 127) : front (.ofNat n) rest = .char (Char.ofNat n) rest := by
  have hlead : (UInt8.ofNat n).toNat = n := by
    rw [UInt8.toNat_ofNat']
    omega
  rw [front_eq, hlead, if_pos (by omega)]

theorem front_two (hlow : 127 < n) (hhigh : n ≤ 2047) :
    front (.ofNat (n / 64 % 32 + 192)) (tailByte n :: rest) = .char (Char.ofNat n) rest := by
  have hlead : (UInt8.ofNat (n / 64 % 32 + 192)).toNat = n / 64 + 192 := by
    rw [UInt8.toNat_ofNat']
    omega
  have hn : (n / 64 + 192) % 32 * 64 + n % 64 = n := by omega
  rw [front_eq, if_neg (by omega), if_pos (by omega), frontOfTwo,
    if_pos (isContinuation_tailByte n), hlead, payload_tailByte, hn]

theorem front_three (hlow : 2047 < n) (hhigh : n ≤ 65535) (hvalid : n.isValidChar) :
    front (.ofNat (n / 4096 % 16 + 224)) (tailByte (n / 64) :: tailByte n :: rest) =
      .char (Char.ofNat n) rest := by
  have hlead : (UInt8.ofNat (n / 4096 % 16 + 224)).toNat = n / 4096 + 224 := by
    rw [UInt8.toNat_ofNat']
    omega
  have hsecond : isSecondOfThree (.ofNat (n / 4096 % 16 + 224)) (tailByte (n / 64)) = true := by
    rw [Nat.isValidChar] at hvalid
    apply isSecond_of_toNat <;> simp only [toNat_tailByte, UInt8.reduceToNat] <;> omega
  have hn : ((n / 4096 + 224) % 16 * 64 + n / 64 % 64) * 64 + n % 64 = n := by omega
  rw [front_eq, if_neg (by omega), if_neg (by omega), if_pos (by omega), frontOfThree,
    if_pos hsecond]
  simp only [isContinuation_tailByte, if_true, hlead, payload_tailByte, hn]

theorem front_four (hlow : 65535 < n) (hvalid : n.isValidChar) :
    front (.ofNat (n / 262144 % 8 + 240))
        (tailByte (n / 4096) :: tailByte (n / 64) :: tailByte n :: rest) =
      .char (Char.ofNat n) rest := by
  rw [Nat.isValidChar] at hvalid
  have hlead : (UInt8.ofNat (n / 262144 % 8 + 240)).toNat = n / 262144 + 240 := by
    rw [UInt8.toNat_ofNat']
    omega
  have hsecond : isSecondOfFour (.ofNat (n / 262144 % 8 + 240)) (tailByte (n / 4096)) = true := by
    apply isSecond_of_toNat <;> simp only [toNat_tailByte, UInt8.reduceToNat] <;> omega
  have hn : (((n / 262144 + 240) % 8 * 64 + n / 4096 % 64) * 64 + n / 64 % 64) * 64 + n % 64 =
      n := by omega
  rw [front_eq, if_neg (by omega), if_neg (by omega), if_neg (by omega), if_pos (by omega),
    frontOfFour, if_pos hsecond]
  simp only [isContinuation_tailByte, if_true, hlead, payload_tailByte, hn]

/-- A character is read off the front of its bytes, whatever stands behind them. -/
theorem front_utf8EncodeChar (c : Char) (rest : List UInt8) :
    ∃ lead bytes, String.utf8EncodeChar c ++ rest = lead :: bytes ∧
      front lead bytes = .char c rest := by
  suffices ∃ lead bytes, String.utf8EncodeChar c ++ rest = lead :: bytes ∧
      front lead bytes = .char (Char.ofNat c.toNat) rest by
    rwa [Char.ofNat_toNat] at this
  have hvalid : c.toNat.isValidChar := c.valid
  rw [String.utf8EncodeChar]
  split
  · next hone => exact ⟨_, _, rfl, front_one hone⟩
  · next hone =>
      split
      · next htwo => exact ⟨_, _, rfl, front_two (Nat.lt_of_not_le hone) htwo⟩
      · next htwo =>
          split
          · next hthree => exact ⟨_, _, rfl, front_three (Nat.lt_of_not_le htwo) hthree hvalid⟩
          · next hthree => exact ⟨_, _, rfl, front_four (Nat.lt_of_not_le hthree) hvalid⟩

/-! ## A text -/

theorem decodeLossyChars_of_char {lead : UInt8} {bytes : List UInt8} {c : Char}
    (h : front lead bytes = .char c rest) :
    decodeLossyChars (lead :: bytes) = c :: decodeLossyChars rest := by
  rw [decodeLossyChars]
  split
  · next hfront _ =>
      rw [h] at hfront
      cases hfront
      rfl
  · next hfront _ =>
      rw [h] at hfront
      cases hfront

theorem decodeLossyChars_flatMap (cs : List Char) :
    decodeLossyChars (cs.flatMap String.utf8EncodeChar) = cs := by
  induction cs with
  | nil => rw [List.flatMap_nil, decodeLossyChars]
  | cons c cs ih =>
      obtain ⟨lead, bytes, hbytes, hfront⟩ :=
        front_utf8EncodeChar c (cs.flatMap String.utf8EncodeChar)
      rw [List.flatMap_cons, hbytes, decodeLossyChars_of_char hfront, ih]

/-- Decoding gives back the text whose bytes they are. -/
theorem decodeLossy_utf8 (s : String) : decodeLossy (utf8 s) = s := by
  rw [decodeLossy, utf8, decodeLossyChars_flatMap, String.ofList_toList]

end Utf8

theorem utf8_inj {s t : String} (h : utf8 s = utf8 t) : s = t := by
  rw [← Utf8.decodeLossy_utf8 s, h, Utf8.decodeLossy_utf8]

end VerilogLibrary.Text
