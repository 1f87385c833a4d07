import VerilogLibrary.ContentHash
import VerilogLibrary.Proofs.DeclarationJson

/-!
# The texts of a hash

A hash is shown in two ways. In hexadecimal every byte takes two digits, so the
bytes can be told from the text by their places, and the short form is cut off
at a byte. In JSON it is the array of its bytes, which are written in decimal
and take one to three digits each.

The reader of JSON takes an array for a hash by what stands in it. It only asks
of a number whether its literal is made of digits, and this is enough because a
text is read by the grammar before: a literal that the grammar admits and that
is made of digits has no sign, no fraction, no exponent and no zero in front.
-/

namespace VerilogLibrary

/-! ## Literals of natural numbers -/

namespace Json

/-- The literal of a natural number: an integer without sign, fraction or exponent. -/
def IsNatLiteral (n : Nat) (j : Json) : Prop :=
  ∃ digits, j = .number (String.ofList digits) ∧ IsDecimal digits ∧
    Nat.ofDigitChars 10 digits 0 = n

mutual

theorem Writes.wellFormed {cs : List Char} {j : Json} : Writes cs j → WellFormed j
  | .null => .null
  | .bool value => .bool value
  | .number hnumber => .number (by rwa [String.toList_ofList])
  | .string _ => .string _
  | .emptyArray _ => .array (List.forall_mem_nil _)
  | .array hitems => .array hitems.wellFormed
  | .emptyObject _ => .object (List.forall_mem_nil _)
  | .object hmembers => .object hmembers.wellFormed

theorem WritesPadded.wellFormed {cs : List Char} {j : Json} : WritesPadded cs j → WellFormed j
  | .mk _ hvalue _ => hvalue.wellFormed

theorem WritesItems.wellFormed {cs : List Char} {items : List Json} :
    WritesItems cs items → ∀ item ∈ items, WellFormed item
  | .last hitem => List.forall_mem_singleton.mpr hitem.wellFormed
  | .more hitem hrest => List.forall_mem_cons.mpr ⟨hitem.wellFormed, hrest.wellFormed⟩

theorem WritesMember.wellFormed {cs : List Char} {member : Option String × Json} :
    WritesMember cs member → WellFormed member.2
  | .mk _ _ _ hvalue => hvalue.wellFormed

theorem WritesMembers.wellFormed {cs : List Char} {members : List (Option String × Json)} :
    WritesMembers cs members → ∀ member ∈ members, WellFormed member.2
  | .last hmember => List.forall_mem_singleton.mpr hmember.wellFormed
  | .more hmember hrest => List.forall_mem_cons.mpr ⟨hmember.wellFormed, hrest.wellFormed⟩

end

/-- A sign, a point or the letter of an exponent is no digit. -/
theorem IsNumber.isDecimal {cs : List Char} (h : IsNumber cs)
    (hdigits : ∀ c ∈ cs, c.isDigit = true) : IsDecimal cs := by
  obtain ⟨hsign, hwhole, hfraction, hexponent⟩ := h
  simp only [List.mem_append, or_imp, forall_and] at hdigits
  obtain ⟨⟨⟨hsignDigits, -⟩, hfractionDigits⟩, hexponentDigits⟩ := hdigits
  cases hsign with
  | some hc =>
      have hdigit := hsignDigits _ List.mem_cons_self
      rw [List.mem_singleton.mp hc] at hdigit
      cases hdigit
  | none =>
      cases hfraction with
      | some => cases hfractionDigits _ List.mem_cons_self
      | none =>
          cases hexponent with
          | some hletter =>
              have hdigit := hexponentDigits _ List.mem_cons_self
              obtain rfl | rfl := hletter <;> cases hdigit
          | none => rwa [List.nil_append, List.append_nil, List.append_nil]

theorem isNatLiteral_number_iff {n : Nat} {literal : String} :
    IsNatLiteral n (.number literal) ↔
      IsDecimal literal.toList ∧ Nat.ofDigitChars 10 literal.toList 0 = n := by
  constructor
  · intro h
    obtain ⟨digits, hliteral, hdecimal, hvalue⟩ := h
    obtain rfl := Json.number.inj hliteral
    rw [String.toList_ofList]
    exact ⟨hdecimal, hvalue⟩
  · intro h
    exact ⟨literal.toList, by rw [String.ofList_toList], h⟩

theorem isNatLiteral_nat_iff {m n : Nat} : (nat m).IsNatLiteral n ↔ m = n := by
  rw [nat, isNatLiteral_number_iff, ofDigitChars_toString]
  exact and_iff_right (isDecimal_toString m)

theorem natBelow?_number (bound : Nat) (literal : String) :
    natBelow? bound (.number literal) =
      if literal.toList.all Char.isDigit then
        if Nat.ofDigitChars 10 literal.toList 0 < bound then
          some (Nat.ofDigitChars 10 literal.toList 0)
        else none
      else none := rfl

theorem natBelow?_eq_some_iff {bound n : Nat} {j : Json} (hj : WellFormed j) :
    natBelow? bound j = some n ↔ j.IsNatLiteral n ∧ n < bound := by
  cases hj with
  | @number literal hnumber =>
      rw [natBelow?_number, isNatLiteral_number_iff, Option.ite_none_right_eq_some,
        Option.ite_none_right_eq_some, Option.some.injEq, List.all_eq_true]
      constructor
      · intro h
        obtain ⟨hdigits, hbound, rfl⟩ := h
        exact ⟨⟨hnumber.isDecimal hdigits, rfl⟩, hbound⟩
      · intro h
        obtain ⟨⟨hdecimal, rfl⟩, hbound⟩ := h
        exact ⟨hdecimal.isDigit, hbound, rfl⟩
  | _ =>
      constructor
      · intro hread
        cases hread
      · intro hvalue
        obtain ⟨⟨_, hliteral, -⟩, -⟩ := hvalue
        cases hliteral

theorem mapM_natBelow?_eq_some_iff {bound : Nat} {items : List Json} {ns : List Nat}
    (hitems : ∀ item ∈ items, WellFormed item) :
    items.mapM (natBelow? bound) = some ns ↔
      List.Forall₂ (fun n item => item.IsNatLiteral n ∧ n < bound) ns items := by
  rw [mapM_eq_some_iff]
  constructor
  · intro h
    have hboth := (List.forall₂_and_left _ _).mpr ⟨hitems, h⟩
    exact (hboth.imp fun _ _ hitem => (natBelow?_eq_some_iff hitem.1).mp hitem.2).flip
  · intro h
    have hboth := (List.forall₂_and_left _ _).mpr ⟨hitems, h.flip⟩
    exact hboth.imp fun _ _ hitem => (natBelow?_eq_some_iff hitem.1).mpr hitem.2

end Json

/-- A list can be matched if each of its items can. -/
theorem exists_forall₂_iff {α β : Type} {R : β → α → Prop} {as : List α} :
    (∃ bs, List.Forall₂ R bs as) ↔ ∀ a ∈ as, ∃ b, R b a := by
  induction as with
  | nil => simp
  | cons a as ih =>
      rw [List.forall_mem_cons, ← ih]
      constructor
      · intro h
        obtain ⟨_, hbs⟩ := h
        cases hbs with
        | cons hb hrest => exact ⟨⟨_, hb⟩, _, hrest⟩
      · intro h
        obtain ⟨⟨b, hb⟩, bs, hbs⟩ := h
        exact ⟨b :: bs, .cons hb hbs⟩

namespace ContentHash

/-! ## Hexadecimal -/

theorem hexPair_inj {b c : UInt8} (h : hexPair b = hexPair c) : b = c := by
  have hb : b.toNat < 256 := b.toNat_lt
  have hc : c.toNat < 256 := c.toNat_lt
  obtain ⟨hhigh, hrest⟩ := List.cons.inj h
  obtain ⟨hlow, -⟩ := List.cons.inj hrest
  have hhigh := digitChar_inj _ (by omega) _ (by omega) hhigh
  have hlow := digitChar_inj _ (by omega) _ (by omega) hlow
  apply UInt8.toNat_inj.mp
  omega

theorem flatMap_hexPair_inj {bs cs : List UInt8} (h : bs.flatMap hexPair = cs.flatMap hexPair) :
    bs = cs := by
  induction bs generalizing cs with
  | nil =>
      cases cs with
      | nil => rfl
      | cons c cs => cases h
  | cons b bs ih =>
      cases cs with
      | nil => cases h
      | cons c cs =>
          obtain ⟨hpair, hrest⟩ := List.append_inj h rfl
          rw [hexPair_inj hpair, ih hrest]

theorem hex_injective {h₁ h₂ : ContentHash} (h : h₁.hex = h₂.hex) : h₁ = h₂ := by
  cases h₁
  cases h₂
  have hbytes := flatMap_hexPair_inj (String.ofList_injective h)
  simpa using hbytes

theorem length_flatMap_hexPair (bs : List UInt8) : (bs.flatMap hexPair).length = 2 * bs.length := by
  induction bs with
  | nil => rfl
  | cons b bs ih =>
      rw [List.flatMap_cons, List.length_append, ih, List.length_cons]
      simp [hexPair]
      omega

theorem length_hex (h : ContentHash) : h.hex.length = 32 := by
  rw [hex, String.length_ofList, length_flatMap_hexPair, h.length_bytes]

theorem digitChar_mem : ∀ n < 16, Nat.digitChar n ∈ "0123456789abcdef".toList := by
  decide

theorem mem_of_mem_hex {h : ContentHash} {c : Char} (hc : c ∈ h.hex.toList) :
    c ∈ "0123456789abcdef".toList := by
  rw [hex, String.toList_ofList] at hc
  obtain ⟨b, -, hpair⟩ := List.mem_flatMap.mp hc
  have hb : b.toNat < 256 := b.toNat_lt
  rcases List.mem_pair.mp hpair with rfl | rfl
  · exact digitChar_mem _ (by omega)
  · exact digitChar_mem _ (by omega)

theorem toList_short (h : ContentHash) : h.short.toList = h.hex.toList.take 8 := by
  have hlength : ((h.bytes.take 4).flatMap hexPair).length = 8 := by
    rw [length_flatMap_hexPair, List.length_take, h.length_bytes]
    rfl
  have hhex : h.hex.toList = h.short.toList ++ (h.bytes.drop 4).flatMap hexPair := by
    rw [hex, short, String.toList_ofList, String.toList_ofList, ← List.flatMap_append,
      List.take_append_drop]
  rw [hhex, short, String.toList_ofList, List.take_left' hlength]

/-! ## JSON -/

theorem wellFormed_toJson (h : ContentHash) : Json.WellFormed h.toJson :=
  .array (List.forall_mem_map.mpr fun b _ => Json.wellFormed_nat b.toNat)

theorem ofList?_eq_some_iff {bs : List UInt8} {h : ContentHash} :
    ofList? bs = some h ↔ bs = h.bytes := by
  constructor
  · intro hsome
    rw [ofList?] at hsome
    split at hsome
    · rw [← Option.some.inj hsome]
    · cases hsome
  · intro hbytes
    subst hbytes
    exact dif_pos h.length_bytes

/-- The hash of an array is made of the numbers that stand in it. -/
theorem ofJson?_eq_some_iff {h : ContentHash} {j : Json} (hj : Json.WellFormed j) :
    ofJson? j = some h ↔
      ∃ items, j = .array items ∧
        List.Forall₂ (fun (b : UInt8) item => item.IsNatLiteral b.toNat) h.bytes items := by
  cases hj with
  | @array items hitems =>
      have hread : ofJson? (.array items) = some h ↔
          ∃ ns, items.mapM (Json.natBelow? UInt8.size) = some ns ∧
            ns.map Nat.toUInt8 = h.bytes := by
        simp only [ofJson?, Json.array?, Option.bind_eq_bind, Option.bind_some,
          Option.bind_eq_some_iff, ofList?_eq_some_iff]
      rw [hread]
      simp only [Json.mapM_natBelow?_eq_some_iff hitems]
      constructor
      · intro h
        obtain ⟨ns, hns, hbytes⟩ := h
        refine ⟨items, rfl, ?_⟩
        rw [← hbytes, List.forall₂_map_left_iff]
        refine hns.imp fun n item hitem => ?_
        rw [Nat.toUInt8_eq, UInt8.toNat_ofNat_of_lt' hitem.2]
        exact hitem.1
      · intro h
        obtain ⟨_, harray, hbytes⟩ := h
        obtain rfl := Json.array.inj harray
        refine ⟨h.bytes.map UInt8.toNat, ?_, ?_⟩
        · rw [List.forall₂_map_left_iff]
          exact hbytes.imp fun b item hitem => ⟨hitem, b.toNat_lt⟩
        · rw [List.map_map]
          exact List.map_id'' (fun b => UInt8.ofNat_toNat) h.bytes
  | _ =>
      constructor
      · intro hread
        cases hread
      · intro hitems
        obtain ⟨_, harray, -⟩ := hitems
        cases harray

theorem exists_ofJson?_iff {j : Json} (hj : Json.WellFormed j) :
    (∃ h, ofJson? j = some h) ↔
      ∃ items, j = .array items ∧ items.length = 16 ∧
        ∀ item ∈ items, ∃ n ≤ 255, item.IsNatLiteral n := by
  simp only [ofJson?_eq_some_iff hj]
  constructor
  · intro h
    obtain ⟨h, items, harray, hbytes⟩ := h
    refine ⟨items, harray, by rw [← hbytes.length_eq, h.length_bytes], fun item hitem => ?_⟩
    obtain ⟨b, hb⟩ := exists_forall₂_iff.mp ⟨_, hbytes⟩ item hitem
    exact ⟨b.toNat, Nat.le_of_lt_succ b.toNat_lt, hb⟩
  · intro h
    obtain ⟨items, harray, hlength, hnumbers⟩ := h
    have hbytes : ∀ item ∈ items, ∃ b : UInt8, item.IsNatLiteral b.toNat := by
      intro item hitem
      obtain ⟨n, hn, hliteral⟩ := hnumbers item hitem
      refine ⟨n.toUInt8, ?_⟩
      rwa [Nat.toUInt8_eq, UInt8.toNat_ofNat_of_lt' (Nat.lt_succ_of_le hn)]
    obtain ⟨bs, hbs⟩ := exists_forall₂_iff.mpr hbytes
    exact ⟨⟨bs, hbs.length_eq.trans hlength⟩, items, harray, hbs⟩

theorem ofJson?_parse?_toJson (h : ContentHash) :
    (Json.parse? h.toJson.compact).bind ofJson? = some h := by
  rw [Json.parse?_compact h.wellFormed_toJson, Option.bind_some,
    ofJson?_eq_some_iff h.wellFormed_toJson]
  refine ⟨_, rfl, List.forall₂_map_right_iff.mpr (List.forall₂_same.mpr fun b _ => ?_)⟩
  exact Json.isNatLiteral_nat_iff.mpr rfl

/-- A hash is read back from its JSON text. It has 32 hexadecimal digits, of which the short form
has the first eight, and no other hash has the same. Of the texts of a JSON value just those are
read as a hash that write an array of sixteen integers up to 255, without sign, fraction or
exponent; the integers are the bytes of the hash, which is read back from its own text as well. -/
theorem texts_tell_hash :
    (∀ h : ContentHash, (Json.parse? h.toJson.compact).bind ofJson? = some h) ∧
    (∀ h : ContentHash, h.hex.length = 32 ∧
      (∀ c ∈ h.hex.toList, c ∈ "0123456789abcdef".toList) ∧
      h.short.toList = h.hex.toList.take 8) ∧
    (∀ h₁ h₂ : ContentHash, h₁.hex = h₂.hex → h₁ = h₂) ∧
    ∀ (s : String) (j : Json), Json.WritesPadded s.toList j →
      ((∃ h, (Json.parse? s).bind ofJson? = some h) ↔
        ∃ items, j = .array items ∧ items.length = 16 ∧
          ∀ item ∈ items, ∃ n ≤ 255, item.IsNatLiteral n) ∧
      ∀ h, (Json.parse? s).bind ofJson? = some h →
        (∃ items, j = .array items ∧
          List.Forall₂ (fun (b : UInt8) item => item.IsNatLiteral b.toNat) h.bytes items) ∧
        (Json.parse? h.toJson.compact).bind ofJson? = some h := by
  refine ⟨ofJson?_parse?_toJson, fun h => ⟨h.length_hex, fun c hc => mem_of_mem_hex hc,
    h.toList_short⟩, fun h₁ h₂ => hex_injective, fun s j hs => ?_⟩
  rw [Json.parse?_of_writesPadded hs, Option.bind_some]
  exact ⟨exists_ofJson?_iff hs.wellFormed, fun h hread =>
    ⟨(ofJson?_eq_some_iff hs.wellFormed).mp hread, ofJson?_parse?_toJson h⟩⟩

/-- Sixteen numbers up to 255 are read, each on a line of its own. With one more at the end, or with
256 there, they are not. -/
theorem texts_tell_hash_lines :
    let numbers : List Nat := (List.range 15).map (17 * ·)
    let lines (ns : List Nat) : String := (Json.array (ns.map .nat)).pretty ++ "\n"
    (∃ h, (Json.parse? (lines (numbers ++ [255]))).bind ofJson? = some h) ∧
    (¬ ∃ h, (Json.parse? (lines (numbers ++ [255, 0]))).bind ofJson? = some h) ∧
    ¬ ∃ h, (Json.parse? (lines (numbers ++ [256]))).bind ofJson? = some h := by
  intro numbers lines
  have hread (ns : List Nat) : (∃ h, (Json.parse? (lines ns)).bind ofJson? = some h) ↔
      ns.length = 16 ∧ ∀ n ∈ ns, n ≤ 255 := by
    have hwritten : Json.WritesPadded (lines ns).toList (.array (ns.map .nat)) :=
      Json.writesPadded_pretty_append
        (.array (List.forall_mem_map.mpr fun n _ => Json.wellFormed_nat n))
        (Json.areSpaces_singleton rfl)
    rw [(texts_tell_hash.2.2.2 _ _ hwritten).1]
    simp [Json.isNatLiteral_nat_iff]
  rw [hread, hread, hread]
  decide

end ContentHash

end VerilogLibrary
