import VerilogLibrary.Proofs.Capitalize

/-!
# Capitalization forgets the case of ASCII letters

Two checks for repeated names are made in different ways: a configuration
compares names in lower case, a catalog compares them capitalized. They agree
because both forget the same thing. In one direction this holds for every
text, since the full mappings give a letter and its capital the same forms, and
so `capitalize` gives the same for a text and for its lower-case form.

The other direction needs identifiers. These are ASCII, so that lower case can
still be had from the capitalized form. What else is said of an identifier
follows from the two directions and from one observation, that lower case keeps
the length of a text.
-/

namespace VerilogLibrary.Text

theorem toNat_lt_of_isUpper {c : Char} (h : c.isUpper = true) :
    c.toNat < 128 ∧ c.toLower.toNat < 128 := by
  have hlower : c.toLower.isLower = true := by
    rw [Char.isLower_toLower_eq_isAlpha, Char.isAlpha, h, Bool.true_or]
  constructor
  · exact toNat_lt_of_isAlpha (by rw [Char.isAlpha, h, Bool.true_or])
  · exact toNat_lt_of_isAlpha (by rw [Char.isAlpha, hlower, Bool.or_true])

theorem upperChars_toLower (c : Char) : upperChars c.toLower = upperChars c := by
  by_cases hupper : c.isUpper = true
  · obtain ⟨hc, hlower⟩ := toNat_lt_of_isUpper hupper
    rw [upperChars, upperChars, if_pos hc, if_pos hlower, Char.toUpper_toLower_eq_toUpper]
  · rw [Char.toLower_eq_of_not_isUpper hupper]

theorem lowerChars_toLower (c : Char) : lowerChars c.toLower = lowerChars c := by
  by_cases hupper : c.isUpper = true
  · obtain ⟨hc, hlower⟩ := toNat_lt_of_isUpper hupper
    rw [lowerChars, lowerChars, if_pos hc, if_pos hlower, Char.toLower_toLower_eq_toLower]
  · rw [Char.toLower_eq_of_not_isUpper hupper]

theorem capitalizeChars_map_toLower (cs : List Char) :
    capitalizeChars (cs.map Char.toLower) = capitalizeChars cs := by
  cases cs with
  | nil => rfl
  | cons c rest =>
      have hrest : (rest.map Char.toLower).flatMap lowerChars = rest.flatMap lowerChars := by
        rw [List.flatMap_map]
        exact List.flatMap_congr fun d _ => lowerChars_toLower d
      rw [List.map_cons, capitalizeChars, capitalizeChars, upperChars_toLower, hrest]

theorem capitalize_asciiLower (s : String) : capitalize (asciiLower s) = capitalize s := by
  rw [capitalize, capitalize, asciiLower, String.toList_ofList, capitalizeChars_map_toLower]

theorem length_asciiLower (s : String) : (asciiLower s).length = s.length := by
  rw [asciiLower, String.length_ofList, List.length_map, String.length_toList]

/-- Texts that differ in the case of ASCII letters alone have one capitalized form, and identifiers
that have one differ in nothing else. The capitalized form of an identifier is an identifier of its
length that differs from it in case alone, and to capitalize it again changes nothing. -/
theorem capitalize_forgets_case :
    (∀ s t, asciiLower s = asciiLower t → capitalize s = capitalize t) ∧
    (∀ s t, isIdentifier s = true → isIdentifier t = true →
      (asciiLower s = asciiLower t ↔ capitalize s = capitalize t)) ∧
    ∀ s, isIdentifier s = true →
      isIdentifier (capitalize s) = true ∧ (capitalize s).length = s.length ∧
      asciiLower (capitalize s) = asciiLower s ∧ capitalize (capitalize s) = capitalize s := by
  have hforgets : ∀ s t, asciiLower s = asciiLower t → capitalize s = capitalize t := by
    intro s t h
    rw [← capitalize_asciiLower s, h, capitalize_asciiLower t]
  refine ⟨hforgets, fun s t hs ht => ⟨hforgets s t, fun h => ?_⟩, fun s hs => ?_⟩
  · rw [← asciiLower_capitalize hs, h, asciiLower_capitalize ht]
  · have hlower := asciiLower_capitalize hs
    refine ⟨isIdentifier_capitalize hs, ?_, hlower, hforgets _ _ hlower⟩
    rw [← length_asciiLower, hlower, length_asciiLower]

/-- Of two texts with letters outside ASCII, and of two identifiers with one lower-case form. -/
theorem capitalize_forgets_case_mixed :
    (asciiLower "ǆOß" = asciiLower "ǆoß" ∧ capitalize "ǆOß" = capitalize "ǆoß") ∧
    (isIdentifier "dLSHR_$2" = true ∧ isIdentifier "DlshR_$2" = true ∧
      asciiLower "dLSHR_$2" = asciiLower "DlshR_$2") ∧
    isIdentifier "_dLSHR" = true ∧ isIdentifier (capitalize "_dLSHR") = true ∧
      (capitalize "_dLSHR").length = "_dLSHR".length ∧
      capitalize (capitalize "_dLSHR") = capitalize "_dLSHR" := by
  obtain ⟨hforgets, hiff, hidentifier⟩ := capitalize_forgets_case
  have hmixed : asciiLower "ǆOß" = asciiLower "ǆoß" := by decide
  have hname : isIdentifier "_dLSHR" = true := by decide
  have hfirst : isIdentifier "dLSHR_$2" = true := by decide
  have hsecond : isIdentifier "DlshR_$2" = true := by decide
  have hcapital : capitalize "dLSHR_$2" = capitalize "DlshR_$2" := by decide
  obtain ⟨hlegal, hlength, -, hidem⟩ := hidentifier "_dLSHR" hname
  exact ⟨⟨hmixed, hforgets _ _ hmixed⟩, ⟨hfirst, hsecond, (hiff _ _ hfirst hsecond).mpr hcapital⟩,
    hname, hlegal, hlength, hidem⟩

end VerilogLibrary.Text
