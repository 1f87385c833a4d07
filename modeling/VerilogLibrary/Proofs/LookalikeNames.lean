import VerilogLibrary.Proofs.CatalogRuns
import VerilogLibrary.Proofs.LetterCase

/-!
# Module names that differ in case alone

A catalog tells the names of its modules apart as they stand, after they have
been capitalized. Whether it thereby also tells them apart without regard to
case is a question about the first character of a name, since behind the form
of this character a capitalized name has no capital of ASCII.

As a rule the form is one character long and no small letter. Then two names
that differ in case alone do not differ. But there are characters whose
upper-case form is several letters, like the sharp s with its two capitals. A
name that opens with one of them capitalizes to the capitals, while the same
letters written out capitalize to one capital and small letters behind it. So
for each name of this kind there is another, from which its module differs in
case alone, and a catalog takes both.
-/

namespace VerilogLibrary.Text

/-- Whether the form of the first character has a capital of ASCII behind its own first
character. -/
def opensWide (s : String) : Bool :=
  s.toList.head?.any fun c => (upperChars c).tail.any Char.isUpper

theorem opensWide_iff {s : String} :
    opensWide s = true ↔ ∃ c rest, s.toList = c :: rest ∧ ∃ d ∈ (upperChars c).tail,
      d.isUpper = true := by
  rw [opensWide]
  cases s.toList with
  | nil => exact ⟨nofun, fun ⟨_, _, h, _⟩ => nomatch h⟩
  | cons c rest => simp

/-! ## Upper-case forms -/

theorem isLower_ofNat {n : Nat} (h : n < 97 ∨ 122 < n) : (Char.ofNat n).isLower = false := by
  rw [← Bool.not_eq_true]
  intro hlower
  simp only [Char.isLower, Bool.and_eq_true, decide_eq_true_eq, ge_iff_le,
    UInt32.le_iff_toNat_le] at hlower
  have hle : 97 ≤ (Char.ofNat n).toNat ∧ (Char.ofNat n).toNat ≤ 122 := hlower
  rw [Char.toNat_ofNat] at hle
  split at hle <;> omega

theorem upperRanges_image : ∀ r ∈ upperRanges,
    (r.last : Int) + r.shift < 97 ∨ 122 < (r.first : Int) + r.shift := by
  decide +kernel

/-- No form in the table is empty, and none has a small letter. One with a capital behind its first
character has nothing but capitals there, and its first character is one of three. -/
theorem upperExpansions_form : ∀ e ∈ upperExpansions,
    (e.2 ≠ [] ∧ ∀ n ∈ e.2, n < 97 ∨ 122 < n) ∧
      ((∃ n ∈ e.2.tail, 65 ≤ n ∧ n ≤ 90) →
        (∀ n ∈ e.2.tail, 65 ≤ n ∧ n ≤ 90) ∧ ∀ n ∈ e.2.head?, n ∈ [0x46, 0x53, 0x2BC]) := by
  decide +kernel

theorem shiftBy_upperRanges {n : Nat} (hn : 122 < n) :
    shiftBy upperRanges n < 97 ∨ 122 < shiftBy upperRanges n := by
  rcases shiftBy_cases upperRanges n with h | ⟨r, hr, hfirst, hlast, h⟩
  · omega
  · have himage := upperRanges_image r hr
    omega

/-- An upper-case form is one character that is no small letter of ASCII, or it is in the table. -/
theorem upperChars_cases (c : Char) :
    (∃ d, upperChars c = [d] ∧ d.isLower = false) ∨
      ∃ form, (c.toNat, form) ∈ upperExpansions ∧ upperChars c = form.map Char.ofNat := by
  unfold upperChars
  split
  · exact .inl ⟨_, rfl, Char.isLower_toUpper_eq_false c⟩
  · next hascii =>
      split
      · next form hform => exact .inr ⟨form, mem_of_lookup hform, rfl⟩
      · exact .inl ⟨_, rfl, isLower_ofNat (shiftBy_upperRanges (by omega))⟩

theorem exists_upperChars (c : Char) :
    ∃ first rest, upperChars c = first :: rest ∧ first.isLower = false := by
  rcases upperChars_cases c with ⟨d, hc, hd⟩ | ⟨form, hform, hc⟩
  · exact ⟨d, [], hc, hd⟩
  · obtain ⟨⟨hne, hsmall⟩, -⟩ := upperExpansions_form _ hform
    obtain ⟨n, more, rfl⟩ := List.exists_cons_of_ne_nil hne
    exact ⟨Char.ofNat n, more.map Char.ofNat, hc, isLower_ofNat (hsmall n List.mem_cons_self)⟩

/-- Of a name that opens with no wide character, the first character of the capitalized form is no
small letter, and the others are no capitals. -/
theorem case_of_capitalize {s : String} (h : opensWide s = false) {a : Char} {x : List Char}
    (hcapital : (capitalize s).toList = a :: x) :
    a.isLower = false ∧ ∀ d ∈ x, d.isUpper = false := by
  rw [capitalize, String.toList_ofList] at hcapital
  cases hs : s.toList with
  | nil => rw [hs] at hcapital; cases hcapital
  | cons c tail =>
      obtain ⟨first, rest, hform, hfirst⟩ := exists_upperChars c
      rw [hs, capitalizeChars, hform] at hcapital
      obtain ⟨rfl, rfl⟩ := List.cons.inj hcapital
      refine ⟨hfirst, fun d hd => ?_⟩
      rcases List.mem_append.mp hd with hd | hd
      · rw [← Bool.not_eq_true]
        intro hupper
        rw [opensWide_iff.mpr ⟨c, tail, hs, d, by rwa [hform], hupper⟩] at h
        cases h
      · obtain ⟨e, -, he⟩ := List.mem_flatMap.mp hd
        exact isUpper_of_mem_lowerChars he

theorem eq_of_toLower_eq {a b : Char} (ha : a.isLower = false) (hb : b.isLower = false)
    (h : a.toLower = b.toLower) : a = b := by
  rw [← Char.toUpper_eq_of_not_isLower (ne_true_of_eq_false ha), ← Char.toUpper_toLower_eq_toUpper,
    h, Char.toUpper_toLower_eq_toUpper, Char.toUpper_eq_of_not_isLower (ne_true_of_eq_false hb)]

theorem map_toLower_eq_self {cs : List Char} (h : ∀ c ∈ cs, c.isUpper = false) :
    cs.map Char.toLower = cs := by
  rw [List.map_congr_left fun c hc =>
    Char.toLower_eq_of_not_isUpper (ne_true_of_eq_false (h c hc)), List.map_id']

theorem capitalize_eq_of_asciiLower_eq {s t : String} (hs : opensWide s = false)
    (ht : opensWide t = false)
    (h : asciiLower (capitalize s) = asciiLower (capitalize t)) : capitalize s = capitalize t := by
  have hchars := String.ofList_injective h
  apply String.toList_injective
  cases hx : (capitalize s).toList with
  | nil =>
      rw [hx, List.map_nil, eq_comm, List.map_eq_nil_iff] at hchars
      exact hchars.symm
  | cons a x =>
      cases hy : (capitalize t).toList with
      | nil => rw [hx, hy] at hchars; cases hchars
      | cons b y =>
          obtain ⟨ha, hsmall⟩ := case_of_capitalize hs hx
          obtain ⟨hb, hsmall'⟩ := case_of_capitalize ht hy
          rw [hx, hy, List.map_cons, List.map_cons, map_toLower_eq_self hsmall,
            map_toLower_eq_self hsmall'] at hchars
          obtain ⟨hhead, rfl⟩ := List.cons.inj hchars
          rw [eq_of_toLower_eq ha hb hhead]

/-! ## Names that open wide -/

theorem upperChars_of_mem {n : Nat} (h : n ∈ [0x46, 0x53, 0x2BC]) :
    Char.ofNat n ≠ 'M' ∧ upperChars (Char.ofNat n) = [Char.ofNat n] := by
  fin_cases h
  all_goals exact ⟨by decide, by cbv⟩

theorem isIdentifierPart_ofNat : ∀ n < 91, 65 ≤ n → isIdentifierPart (Char.ofNat n) = true := by
  decide

theorem exists_wide_form {c d : Char} (hd : d ∈ (upperChars c).tail) (hupper : d.isUpper = true) :
    ∃ first rest, upperChars c = first :: rest ∧ first ≠ 'M' ∧ upperChars first = [first] ∧
      ∀ x ∈ rest, isIdentifierPart x = true := by
  rcases upperChars_cases c with ⟨e, hc, -⟩ | ⟨form, hform, hc⟩
  · rw [hc] at hd
    cases hd
  · obtain ⟨⟨hne, -⟩, hwide⟩ := upperExpansions_form _ hform
    obtain ⟨n, more, rfl⟩ := List.exists_cons_of_ne_nil hne
    rw [hc] at hd
    obtain ⟨k, hk, rfl⟩ := List.mem_map.mp hd
    -- `d` alone settles that the form is wide, and the table has few of these.
    obtain ⟨hcapitals, hfirst⟩ := hwide ⟨k, hk, le_of_isUpper_ofNat hupper⟩
    obtain ⟨hother, hself⟩ := upperChars_of_mem (hfirst n rfl)
    refine ⟨Char.ofNat n, more.map Char.ofNat, hc, hother, hself, ?_⟩
    intro x hx
    obtain ⟨l, hl, rfl⟩ := List.mem_map.mp hx
    obtain ⟨hfrom, hto⟩ := hcapitals l hl
    exact isIdentifierPart_ofNat l (by omega) hfrom

/-- A name with its first character written out as the characters of its form. -/
def spelledOut (s : String) : String :=
  match s.toList with
  | [] => ""
  | c :: rest => String.ofList (upperChars c ++ rest)

/-- What a name that opens wide and the same name spelled out are capitalized to: in the one case
there are capitals behind the first character, in the other they are small. -/
theorem capitalize_of_opensWide {s : String} (h : opensWide s = true) :
    ∃ first rest tail, first ≠ 'M' ∧ upperChars first = [first] ∧ (∃ d ∈ rest, d.isUpper = true) ∧
      (spelledOut s).toList.head? = some first ∧
      (capitalize s).toList = first :: (rest ++ tail) ∧
      (capitalize (spelledOut s)).toList = first :: (rest.map Char.toLower ++ tail) := by
  obtain ⟨c, tail, hs, d, hd, hupper⟩ := opensWide_iff.mp h
  obtain ⟨first, rest, hform, hother, hself, hrest⟩ := exists_wide_form hd hupper
  have hspelled : (spelledOut s).toList = first :: (rest ++ tail) := by
    rw [spelledOut, hs]
    show (String.ofList (upperChars c ++ tail)).toList = _
    rw [String.toList_ofList, hform, List.cons_append]
  rw [hform] at hd
  refine ⟨first, rest, tail.flatMap lowerChars, hother, hself, ⟨d, hd, hupper⟩, ?_, ?_, ?_⟩
  · rw [hspelled, List.head?_cons]
  · rw [capitalize, String.toList_ofList, hs, capitalizeChars, hform, List.cons_append]
  · rw [capitalize, String.toList_ofList, hspelled, capitalizeChars, hself, List.flatMap_append,
      flatMap_lowerChars hrest, List.singleton_append]

theorem opensWide_spelledOut {s : String} (h : opensWide s = true) :
    opensWide (spelledOut s) = false := by
  obtain ⟨first, rest, tail, -, hself, -, hhead, -⟩ := capitalize_of_opensWide h
  rw [opensWide, hhead, Option.any_some, hself]
  rfl

theorem capitalize_spelledOut_ne {s : String} (h : opensWide s = true) :
    capitalize s ≠ capitalize (spelledOut s) := by
  obtain ⟨first, rest, tail, -, -, ⟨d, hd, hupper⟩, -, hs, hspelled⟩ := capitalize_of_opensWide h
  intro heq
  rw [heq, hspelled] at hs
  obtain ⟨-, happend⟩ := List.cons.inj hs
  rw [← List.append_cancel_right happend] at hd
  obtain ⟨e, -, rfl⟩ := List.mem_map.mp hd
  rw [Char.isUpper_toLower_eq_false] at hupper
  cases hupper

theorem asciiLower_capitalize_spelledOut {s : String} (h : opensWide s = true) :
    asciiLower (capitalize (spelledOut s)) = asciiLower (capitalize s) := by
  obtain ⟨first, rest, tail, -, -, -, -, hs, hspelled⟩ := capitalize_of_opensWide h
  rw [asciiLower, asciiLower, hs, hspelled, List.map_cons, List.map_cons, List.map_append,
    List.map_append, map_toLower_map_toLower]

end VerilogLibrary.Text

namespace VerilogLibrary.Catalog

open Text (opensWide spelledOut asciiLower)

theorem run_push_pair {op other : Operation} (hop : op.moduleName ≠ multiplexerName)
    (hother : other.moduleName ≠ multiplexerName) (hne : op.moduleName ≠ other.moduleName) :
    (empty.run [.push op, .push other]).operations = [op, other] := by
  have hfirst : empty.IsFree op := ⟨hop, List.forall_mem_nil _⟩
  have hsecond : (empty.extend [op]).IsFree other :=
    ⟨hother, List.forall_mem_singleton.mpr hne⟩
  have hgrows : empty.Grows [.push op, .push other] ([op] ++ ([other] ++ [])) :=
    .cons (.take hfirst .done) (.cons (.take hsecond .done) .nil)
  rw [hgrows.run_eq]
  rfl

theorem ne_multiplexerName {name : String} {c : Char} {rest : List Char} (hc : c ≠ 'M')
    (hname : name.toList = c :: rest) : name ≠ multiplexerName := by
  intro heq
  rw [heq] at hname
  exact hc (List.cons.inj hname).1.symm

theorem run_push_spelledOut {op : Operation} (h : opensWide op.name = true) :
    (empty.run [.push op, .push { op with name := spelledOut op.name }]).operations =
      [op, { op with name := spelledOut op.name }] := by
  obtain ⟨first, rest, tail, hother, -, -, -, hs, hspelled⟩ := Text.capitalize_of_opensWide h
  exact run_push_pair (ne_multiplexerName hother hs) (ne_multiplexerName hother hspelled)
    (Text.capitalize_spelledOut_ne h)

/-- In every catalog that can be reached, of two operations whose modules have names that differ in
case alone, one opens wide. No such name is free of danger: an operation of this name and the same
operation with its name spelled out are both taken, and their modules differ in case alone. -/
theorem lookalikes_open_wide {c : Catalog} (h : c.Reachable) :
    (c.operations.Pairwise fun op other =>
      asciiLower op.moduleName = asciiLower other.moduleName →
        opensWide op.name = true ∨ opensWide other.name = true) ∧
    ∀ op : Operation, opensWide op.name = true →
      opensWide (spelledOut op.name) = false ∧
      (empty.run [.push op, .push { op with name := spelledOut op.name }]).operations =
        [op, { op with name := spelledOut op.name }] ∧
      asciiLower (Text.capitalize (spelledOut op.name)) = asciiLower op.moduleName := by
  refine ⟨?_, fun op hop => ⟨Text.opensWide_spelledOut hop, run_push_spelledOut hop,
    Text.asciiLower_capitalize_spelledOut hop⟩⟩
  have hnodup := h.distinct.nodup
  rw [moduleNames, List.nodup_iff_pairwise_ne, List.pairwise_map] at hnodup
  refine hnodup.imp fun hne hlower => ?_
  by_contra hnarrow
  rw [not_or, Bool.not_eq_true, Bool.not_eq_true] at hnarrow
  exact hne (Text.capitalize_eq_of_asciiLower_eq hnarrow.1 hnarrow.2 hlower)

/-- Behind its first character the sharp s does no harm. At the front its two capitals are told
from the same letters spelled out, though the names differ in case alone. -/
theorem lookalikes_open_wide_sharp_s :
    let c := standard.run [.push ⟨.unary, "straße", "in"⟩, .push ⟨.unary, "STRASSE", "in"⟩,
      .push ⟨.unary, "ßum", "in"⟩, .push ⟨.unary, "ssum", "in"⟩]
    c.moduleNames.drop 21 = ["Straße", "Strasse", "SSum", "Ssum"] ∧
      (c.operations.Pairwise fun op other =>
        asciiLower op.moduleName = asciiLower other.moduleName →
          opensWide op.name = true ∨ opensWide other.name = true) ∧
      opensWide "ßum" = true ∧ opensWide (spelledOut "ßum") = false ∧
      asciiLower (Text.capitalize (spelledOut "ßum")) = asciiLower (Text.capitalize "ßum") := by
  intro c
  have hreachable : c.Reachable := Reachable.standard.run _
  have hwide : opensWide "ßum" = true := by decide
  obtain ⟨hpairs, hspelled⟩ := lookalikes_open_wide hreachable
  obtain ⟨hnarrow, -, hlower⟩ := hspelled ⟨.unary, "ßum", "in"⟩ hwide
  exact ⟨by decide +kernel, hpairs, hwide, hnarrow, hlower⟩

/-- A catalog takes two operations though the names of their modules differ in case alone. -/
theorem lookalikes_sharp_s_spelled_out :
    let c := empty.run [.push ⟨.unary, "ß", "in"⟩, .push ⟨.unary, "ss", "in"⟩]
    c.operations = [⟨.unary, "ß", "in"⟩, ⟨.unary, "ss", "in"⟩] ∧
      c.moduleNames = ["SS", "Ss"] ∧ asciiLower "SS" = asciiLower "Ss" ∧
      ¬ (c.operations.map fun op => asciiLower op.moduleName).Nodup := by
  intro c
  have hcapital : Text.capitalize "ß" = "SS" := by decide
  have hsmall : Text.capitalize "ss" = "Ss" := by decide
  have htaken : c.operations = [⟨.unary, "ß", "in"⟩, ⟨.unary, "ss", "in"⟩] := by
    apply run_push_pair
    · show Text.capitalize "ß" ≠ _
      rw [hcapital]
      decide
    · show Text.capitalize "ss" ≠ _
      rw [hsmall]
      decide
    · show Text.capitalize "ß" ≠ Text.capitalize "ss"
      rw [hcapital, hsmall]
      decide
  have hnames : c.moduleNames = ["SS", "Ss"] := by
    rw [moduleNames, htaken]
    show [Text.capitalize "ß", Text.capitalize "ss"] = _
    rw [hcapital, hsmall]
  have hlower : asciiLower "SS" = asciiLower "Ss" := by decide
  refine ⟨htaken, hnames, hlower, ?_⟩
  have hmap : (c.operations.map fun op => asciiLower op.moduleName) =
      c.moduleNames.map asciiLower := (List.map_map ..).symm
  rw [hmap, hnames]
  decide

end VerilogLibrary.Catalog
