import Mathlib
import VerilogLibrary.Proofs.JsonText
import VerilogLibrary.Proofs.Separators

/-!
# Printed JSON is read back

Both layouts write the value in the sense of the grammar, so one theorem about
the reader serves them both, and what is left to show is about the printers
alone. A string needs no condition: the escapes cover whatever a character can
be, a character is never half of a surrogate pair, and a literal that denotes no
text is printed as one that denotes none. A number is printed as its literal
stands, so the literal has to be one.
-/

namespace VerilogLibrary.Json

/-! ## Strings -/

theorem not_isSurrogate (c : Char) :
    isHighSurrogate c.toNat = false ∧ isLowSurrogate c.toNat = false := by
  have hvalid : c.toNat < 0xD800 ∨ 0xDFFF < c.toNat ∧ c.toNat < 0x110000 := c.valid
  simp only [isHighSurrogate, isLowSurrogate, Bool.and_eq_false_iff, decide_eq_false_iff_not]
  omega

theorem joinSurrogates?_map_toNat (cs : List Char) :
    joinSurrogates? (cs.map Char.toNat) = some cs := by
  induction cs with
  | nil => rfl
  | cons c cs ih =>
      obtain ⟨hhigh, hlow⟩ := not_isSurrogate c
      cases cs with
      | nil => simp [joinSurrogates?, hhigh, hlow]
      | cons d cs =>
          rw [List.map_cons] at ih
          simp [joinSurrogates?, hhigh, hlow, ih]

theorem writesCodes_escapedChar (c : Char) {cs : List Char} {codes : List Nat}
    (h : WritesCodes cs codes) : WritesCodes (escapedChar c ++ cs) (c.toNat :: codes) := by
  unfold escapedChar
  split
  case h_8 hquote hbackslash _ _ _ _ _ =>
    split
    · next hcontrol => exact .number rfl (hexDigitsOf_lt (by omega)) h
    · next hcontrol => exact .plain hquote hbackslash (Nat.le_of_not_lt hcontrol) h
  all_goals exact .letter (by decide) h

theorem writesCodes_escaped (cs : List Char) :
    WritesCodes (cs.flatMap escapedChar) (cs.map Char.toNat) := by
  induction cs with
  | nil => exact .nil
  | cons c cs ih => exact writesCodes_escapedChar c ih

/-- The literal of a text is what stands between two quotes. -/
theorem exists_writesCodes (text? : Option String) :
    ∃ cs codes, stringLiteral text? = '"' :: (cs ++ ['"']) ∧ WritesCodes cs codes ∧
      (joinSurrogates? codes).map String.ofList = text? := by
  cases text? with
  | none =>
      have hzero : HexDigit '0' 0 := .inl rfl
      have hdigits : HexDigitsOf 0xD800 ['d', '8', '0', '0'] :=
        ⟨[13, 8, 0, 0], .cons (.inl rfl) (.cons (.inl rfl) (.cons hzero (.cons hzero .nil))), rfl⟩
      exact ⟨['\\', 'u', 'd', '8', '0', '0'], [0xD800], rfl, .number rfl hdigits .nil, rfl⟩
  | some s =>
      refine ⟨_, _, rfl, writesCodes_escaped s.toList, ?_⟩
      rw [joinSurrogates?_map_toNat, Option.map_some, String.ofList_toList]

theorem writes_stringLiteral (text? : Option String) :
    Writes (stringLiteral text?) (.string text?) := by
  obtain ⟨cs, codes, hliteral, hcodes, rfl⟩ := exists_writesCodes text?
  rw [hliteral]
  exact .string hcodes

/-! ## Numbers -/

theorem isNumber_toString (n : Nat) : IsNumber (toString n).toList := by
  have h := IsNumber.mk .none (isDecimal_toString n) .none .none
  rwa [List.nil_append, List.append_nil, List.append_nil] at h

/-! ## Values -/

/-- The literals of the numbers in a value are numbers. -/
inductive WellFormed : Json → Prop
  | null : WellFormed .null
  | bool (value : Bool) : WellFormed (.bool value)
  | number {literal : String} : IsNumber literal.toList → WellFormed (.number literal)
  | string (text? : Option String) : WellFormed (.string text?)
  | array {items : List Json} : (∀ item ∈ items, WellFormed item) → WellFormed (.array items)
  | object {members : List (Option String × Json)} :
      (∀ member ∈ members, WellFormed member.2) → WellFormed (.object members)

theorem wellFormed_nat (n : Nat) : WellFormed (.nat n) :=
  .number (isNumber_toString n)

theorem Writes.padded {before cs : List Char} {j : Json} (h : Writes cs j)
    (hbefore : AreSpaces before) : WritesPadded (before ++ cs) j := by
  have hpadded := WritesPadded.mk hbefore h areSpaces_nil
  rwa [List.append_nil] at hpadded

theorem writesMember_stringLiteral (name : Option String) {before cs : List Char} {j : Json}
    (hbefore : AreSpaces before) (h : WritesPadded cs j) :
    WritesMember (before ++ (stringLiteral name ++ ':' :: cs)) (name, j) := by
  obtain ⟨letters, codes, hliteral, hcodes, rfl⟩ := exists_writesCodes name
  have hmember := WritesMember.mk hbefore hcodes areSpaces_nil h
  simp only [hliteral, List.cons_append, List.append_assoc, List.nil_append] at hmember ⊢
  exact hmember

theorem areSpaces_breakLine (level : Nat) : AreSpaces (breakLine level) := by
  intro c hc
  rcases List.mem_cons.mp hc with rfl | hc
  · rfl
  · rw [List.eq_of_mem_replicate hc]
    rfl

theorem writesItems_compactItems {items : List Json} (hne : items ≠ [])
    (h : ∀ item ∈ items, Writes item.compactChars item) :
    WritesItems (compactItems items) items := by
  induction items with
  | nil => exact absurd rfl hne
  | cons item rest ih =>
      have hitem := (h item List.mem_cons_self).padded areSpaces_nil
      cases rest with
      | nil => exact .last hitem
      | cons next rest =>
          exact .more hitem (ih (List.cons_ne_nil _ _) (List.forall_mem_cons.mp h).2)

theorem writesMembers_compactMembers {members : List (Option String × Json)} (hne : members ≠ [])
    (h : ∀ member ∈ members, Writes member.2.compactChars member.2) :
    WritesMembers (compactMembers members) members := by
  induction members with
  | nil => exact absurd rfl hne
  | cons member rest ih =>
      have hvalue := (h member List.mem_cons_self).padded areSpaces_nil
      have hmember := writesMember_stringLiteral member.1 areSpaces_nil hvalue
      cases rest with
      | nil => exact .last hmember
      | cons next rest =>
          exact .more hmember (ih (List.cons_ne_nil _ _) (List.forall_mem_cons.mp h).2)

theorem writes_compactChars {j : Json} (h : WellFormed j) : Writes j.compactChars j := by
  induction h with
  | null => exact .null
  | bool value => exact .bool value
  | @number literal h =>
      have hliteral := Writes.number h
      rwa [String.ofList_toList] at hliteral
  | string text? => exact writes_stringLiteral text?
  | @array items _ ih =>
      cases items with
      | nil => exact .emptyArray areSpaces_nil
      | cons item rest => exact .array (writesItems_compactItems (List.cons_ne_nil _ _) ih)
  | @object members _ ih =>
      cases members with
      | nil => exact .emptyObject areSpaces_nil
      | cons member rest => exact .object (writesMembers_compactMembers (List.cons_ne_nil _ _) ih)

/-! A line break stands in front of every item in pretty layout, and one more behind the last. -/

theorem writesItems_prettyItems (level : Nat) {after : List Char} (hafter : AreSpaces after)
    {items : List Json} (hne : items ≠ [])
    (h : ∀ item ∈ items, Writes (item.prettyChars level) item) :
    WritesItems (prettyItems level items ++ after) items := by
  induction items with
  | nil => exact absurd rfl hne
  | cons item rest ih =>
      have hitem := h item List.mem_cons_self
      cases rest with
      | nil =>
          show WritesItems (breakLine level ++ item.prettyChars level ++ after) [item]
          rw [List.append_assoc]
          exact .last (.mk (areSpaces_breakLine level) hitem hafter)
      | cons next rest =>
          show WritesItems (breakLine level ++ item.prettyChars level ++
            ',' :: prettyItems level (next :: rest) ++ after) (item :: next :: rest)
          rw [List.append_assoc, List.cons_append]
          exact .more (hitem.padded (areSpaces_breakLine level))
            (ih (List.cons_ne_nil _ _) (List.forall_mem_cons.mp h).2)

theorem writesMembers_prettyMembers (level : Nat) {after : List Char} (hafter : AreSpaces after)
    {members : List (Option String × Json)} (hne : members ≠ [])
    (h : ∀ member ∈ members, Writes (member.2.prettyChars level) member.2) :
    WritesMembers (prettyMembers level members ++ after) members := by
  have hblank : AreSpaces [' '] := areSpaces_singleton rfl
  induction members with
  | nil => exact absurd rfl hne
  | cons member rest ih =>
      obtain ⟨name, value⟩ := member
      have hvalue := h (name, value) List.mem_cons_self
      cases rest with
      | nil =>
          show WritesMembers (breakLine level ++ stringLiteral name ++
            ':' :: ' ' :: value.prettyChars level ++ after) [(name, value)]
          rw [List.append_assoc, List.append_assoc]
          exact .last (writesMember_stringLiteral name (areSpaces_breakLine level)
            (.mk hblank hvalue hafter))
      | cons next rest =>
          show WritesMembers (breakLine level ++ stringLiteral name ++
            ':' :: ' ' :: value.prettyChars level ++ ',' :: prettyMembers level (next :: rest) ++
            after) ((name, value) :: next :: rest)
          rw [List.append_assoc, List.append_assoc (breakLine level), List.cons_append]
          exact .more (writesMember_stringLiteral name (areSpaces_breakLine level)
            (hvalue.padded hblank)) (ih (List.cons_ne_nil _ _) (List.forall_mem_cons.mp h).2)

theorem writes_prettyChars {j : Json} (h : WellFormed j) (level : Nat) :
    Writes (j.prettyChars level) j := by
  induction h generalizing level with
  | null => exact .null
  | bool value => exact .bool value
  | @number literal h =>
      have hliteral := Writes.number h
      rwa [String.ofList_toList] at hliteral
  | string text? => exact writes_stringLiteral text?
  | @array items _ ih =>
      cases items with
      | nil => exact .emptyArray areSpaces_nil
      | cons item rest =>
          exact .array (writesItems_prettyItems (level + 1) (areSpaces_breakLine level)
            (List.cons_ne_nil _ _) fun item hmem => ih item hmem (level + 1))
  | @object members _ ih =>
      cases members with
      | nil => exact .emptyObject areSpaces_nil
      | cons member rest =>
          exact .object (writesMembers_prettyMembers (level + 1) (areSpaces_breakLine level)
            (List.cons_ne_nil _ _) fun member hmem => ih member hmem (level + 1))

/-! ## Texts -/

theorem writesPadded_compact {j : Json} (h : WellFormed j) : WritesPadded j.compact.toList j := by
  rw [compact, String.toList_ofList]
  exact (writes_compactChars h).padded areSpaces_nil

/-- Blanks behind the value do no harm, and a file ends with a line break. -/
theorem writesPadded_pretty_append {j : Json} (h : WellFormed j) {spaces : String}
    (hspaces : AreSpaces spaces.toList) : WritesPadded (j.pretty ++ spaces).toList j := by
  rw [String.toList_append, pretty, String.toList_ofList]
  exact .mk areSpaces_nil (writes_prettyChars h 0) hspaces

theorem parse?_compact {j : Json} (h : WellFormed j) : parse? j.compact = some j :=
  parse?_of_writesPadded (writesPadded_compact h)

theorem parse?_pretty_append {j : Json} (h : WellFormed j) {spaces : String}
    (hspaces : AreSpaces spaces.toList) : parse? (j.pretty ++ spaces) = some j :=
  parse?_of_writesPadded (writesPadded_pretty_append h hspaces)

end VerilogLibrary.Json
