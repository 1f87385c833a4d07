/-!
# UTF-8

Texts are written to files and hashed as their UTF-8 bytes. Reading goes the
other way, and two readers are needed: a strict one, which refuses bytes that
are not UTF-8, and a lossy one, which puts the replacement character U+FFFD in
the place of each maximal piece that no text can hold.

Both readers take one character at a time. The first byte decides how many
bytes follow and what the second byte may be; from the third on every byte is
a continuation byte.
-/

namespace VerilogLibrary.Text

/-- The UTF-8 bytes of a text. -/
def utf8 (s : String) : List UInt8 :=
  s.toList.flatMap String.utf8EncodeChar

namespace Utf8

/-- What stands at the front of a byte sequence. -/
inductive Front where
  /-- A character, and the bytes after it. -/
  | char (c : Char) (rest : List UInt8)
  /-- A piece that begins no character, already removed from the bytes after it. -/
  | malformed (rest : List UInt8)
  deriving Repr, DecidableEq

/-- The bytes that are left once the front is taken away. -/
def Front.rest : Front → List UInt8
  | .char _ rest => rest
  | .malformed rest => rest

/-- A continuation byte, `10xxxxxx`. -/
def isContinuation (b : UInt8) : Bool :=
  0x80 ≤ b && b ≤ 0xBF

/-- The payload of a continuation byte. -/
def payload (b : UInt8) : Nat :=
  b.toNat % 64

/-- The range of the second byte after a three-byte lead: no overlong form, no surrogate. -/
def isSecondOfThree (lead second : UInt8) : Bool :=
  if lead == 0xE0 then 0xA0 ≤ second && second ≤ 0xBF
  else if lead == 0xED then 0x80 ≤ second && second ≤ 0x9F
  else isContinuation second

/-- The range of the second byte after a four-byte lead: no overlong form, nothing above
U+10FFFF. -/
def isSecondOfFour (lead second : UInt8) : Bool :=
  if lead == 0xF0 then 0x90 ≤ second && second ≤ 0xBF
  else if lead == 0xF4 then 0x80 ≤ second && second ≤ 0x8F
  else isContinuation second

/-- The character of a two-byte lead and what follows it. -/
def frontOfTwo (lead : UInt8) : List UInt8 → Front
  | [] => .malformed []
  | second :: rest =>
    if isContinuation second then
      .char (Char.ofNat (lead.toNat % 32 * 64 + payload second)) rest
    else .malformed (second :: rest)

/-- The character of a three-byte lead and what follows it. -/
def frontOfThree (lead : UInt8) : List UInt8 → Front
  | [] => .malformed []
  | second :: rest =>
    if isSecondOfThree lead second then
      match rest with
      | [] => .malformed []
      | third :: rest =>
        if isContinuation third then
          .char (Char.ofNat ((lead.toNat % 16 * 64 + payload second) * 64 + payload third)) rest
        else .malformed (third :: rest)
    else .malformed (second :: rest)

/-- The character of a four-byte lead and what follows it. -/
def frontOfFour (lead : UInt8) : List UInt8 → Front
  | [] => .malformed []
  | second :: rest =>
    if isSecondOfFour lead second then
      match rest with
      | [] => .malformed []
      | third :: rest =>
        if isContinuation third then
          match rest with
          | [] => .malformed []
          | fourth :: rest =>
            if isContinuation fourth then
              .char (Char.ofNat (((lead.toNat % 8 * 64 + payload second) * 64 + payload third) * 64
                + payload fourth)) rest
            else .malformed (fourth :: rest)
        else .malformed (third :: rest)
    else .malformed (second :: rest)

/-- Takes the first character, or the first malformed piece, off the bytes. -/
def front (lead : UInt8) (rest : List UInt8) : Front :=
  if lead < 0x80 then .char (Char.ofNat lead.toNat) rest
  else if 0xC2 ≤ lead && lead ≤ 0xDF then frontOfTwo lead rest
  else if 0xE0 ≤ lead && lead ≤ 0xEF then frontOfThree lead rest
  else if 0xF0 ≤ lead && lead ≤ 0xF4 then frontOfFour lead rest
  else .malformed rest

theorem length_rest_frontOfTwo (lead : UInt8) (bytes : List UInt8) :
    (frontOfTwo lead bytes).rest.length ≤ bytes.length := by
  unfold frontOfTwo
  repeat' split
  all_goals simp [Front.rest]

theorem length_rest_frontOfThree (lead : UInt8) (bytes : List UInt8) :
    (frontOfThree lead bytes).rest.length ≤ bytes.length := by
  unfold frontOfThree
  repeat' split
  all_goals simp [Front.rest]
  all_goals omega

theorem length_rest_frontOfFour (lead : UInt8) (bytes : List UInt8) :
    (frontOfFour lead bytes).rest.length ≤ bytes.length := by
  unfold frontOfFour
  repeat' split
  all_goals simp [Front.rest]
  all_goals omega

/-- The front takes at least the lead byte away. -/
theorem length_rest_front (lead : UInt8) (bytes : List UInt8) :
    (front lead bytes).rest.length ≤ bytes.length := by
  unfold front
  repeat' split
  · simp [Front.rest]
  · exact length_rest_frontOfTwo lead bytes
  · exact length_rest_frontOfThree lead bytes
  · exact length_rest_frontOfFour lead bytes
  · simp [Front.rest]

/-- The characters of the bytes, with U+FFFD for each malformed piece. -/
def decodeLossyChars : List UInt8 → List Char
  | [] => []
  | lead :: bytes =>
    match front lead bytes, length_rest_front lead bytes with
    | .char c rest, _ => c :: decodeLossyChars rest
    | .malformed rest, _ => '\uFFFD' :: decodeLossyChars rest
termination_by bytes => bytes.length
decreasing_by
  all_goals
    next shorter =>
      simp only [Front.rest] at shorter
      simp only [List.length_cons]
      omega

/-- The characters of the bytes, if they are UTF-8 throughout. -/
def decodeChars? : List UInt8 → Option (List Char)
  | [] => some []
  | lead :: bytes =>
    match front lead bytes, length_rest_front lead bytes with
    | .char c rest, _ => (decodeChars? rest).map (c :: ·)
    | .malformed _, _ => none
termination_by bytes => bytes.length
decreasing_by
  next shorter =>
    simp only [Front.rest] at shorter
    simp only [List.length_cons]
    omega

/-- The text of the bytes, with U+FFFD for each malformed piece. -/
def decodeLossy (bytes : List UInt8) : String :=
  String.ofList (decodeLossyChars bytes)

/-- The text of the bytes, if they are UTF-8 throughout. -/
def decode? (bytes : List UInt8) : Option String :=
  (decodeChars? bytes).map String.ofList

end Utf8

end VerilogLibrary.Text
