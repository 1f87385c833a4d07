import Mathlib
import VerilogLibrary.Proofs.ReportedFault
import VerilogLibrary.Proofs.Separators

/-!
# The texts of a width

A message shows a width as a number or as a name in quotes. A number is made of
digits and a name opens with a quote, so neither is taken for the other, and what
remains is to read a name out of its quotes.

No name is ruled out here, for the names that a message shows are just those that
are no identifiers. Between the quotes a character stands as itself, as a letter
behind a backslash, or by its number, and the front of the text leaves no choice
among the three. What stands as itself is no backslash; no escape by a letter
has a `u`; a number ends at the first brace, which is no digit. Thus a name that
spells out an escape is not taken for the character that is escaped, since its
backslash is escaped as well.

Characters take up to ten places, so two quoted names cannot be compared place by
place. The lemmas about a character keep an arbitrary rest behind it instead, and
in the induction over the names the rest is what follows, with the closing quote.
-/

namespace VerilogLibrary

/-! ## Quoted names -/

namespace Text

/-- The letters of escapes, each with the character that it stands for. -/
def quotedLetters : List (Char × Char) :=
  [('0', '\x00'), ('t', '\t'), ('n', '\n'), ('r', '\r'), ('"', '"'), ('\\', '\\')]

/-- How a character can stand between quotes. -/
inductive QuotedAs : Char → List Char → Prop
  | plain {c : Char} : c ≠ '"' → c ≠ '\\' → QuotedAs c [c]
  | letter {letter c : Char} : (letter, c) ∈ quotedLetters → QuotedAs c ['\\', letter]
  | number {c : Char} : QuotedAs c ('\\' :: 'u' :: '\x7b' :: (hexDigits c.toNat ++ ['\x7d']))

theorem quotedAs_quotedChar (c : Char) : QuotedAs c (quotedChar c) := by
  unfold quotedChar
  split
  case h_7 hquote hbackslash =>
    split
    · exact .number
    · exact .plain hquote hbackslash
  all_goals exact .letter (by decide)

theorem quotedLetters_inj : ∀ x ∈ quotedLetters, ∀ y ∈ quotedLetters, x.1 = y.1 → x.2 = y.2 := by
  decide

theorem ne_u_of_mem_quotedLetters : ∀ x ∈ quotedLetters, x.1 ≠ 'u' := by
  decide

theorem hexDigits_append_inj {m n : Nat} {r₁ r₂ : List Char}
    (h : hexDigits m ++ '\x7d' :: r₁ = hexDigits n ++ '\x7d' :: r₂) : m = n ∧ r₁ = r₂ := by
  have hm : HexDigitsOf m (hexDigits m) := hexDigitsOf_toDigits m
  have hn : HexDigitsOf n (hexDigits n) := hexDigitsOf_toDigits n
  obtain ⟨hdigits, hr⟩ := eq_of_append_separator (hm.notMem rfl) (hn.notMem rfl) h
  rw [hdigits] at hm
  exact ⟨hm.unique hn, hr⟩

/-- The front of a quoted text determines the character that stands there, and where it ends. -/
theorem QuotedAs.append_inj {c d : Char} {u v r₁ r₂ : List Char} (hc : QuotedAs c u)
    (hd : QuotedAs d v) (h : u ++ r₁ = v ++ r₂) : c = d ∧ r₁ = r₂ := by
  -- Where the characters stand in different ways, one of the first two places differs.
  cases hc with
  | plain _ hbackslash =>
      cases hd with
      | plain => exact List.cons.inj h
      | letter | number => exact absurd (List.cons.inj h).1 hbackslash
  | letter hletter =>
      cases hd with
      | plain _ hbackslash => exact absurd (List.cons.inj h).1.symm hbackslash
      | letter hletter' =>
          obtain ⟨heq, hr⟩ := List.cons.inj (List.cons.inj h).2
          exact ⟨quotedLetters_inj _ hletter _ hletter' heq, hr⟩
      | number =>
          have heq := (List.cons.inj (List.cons.inj h).2).1
          exact absurd heq (ne_u_of_mem_quotedLetters _ hletter)
  | number =>
      cases hd with
      | plain _ hbackslash => exact absurd (List.cons.inj h).1.symm hbackslash
      | letter hletter =>
          have heq := (List.cons.inj (List.cons.inj h).2).1
          exact absurd heq.symm (ne_u_of_mem_quotedLetters _ hletter)
      | number =>
          simp only [List.cons_append, List.append_assoc, List.cons.injEq, true_and,
            List.nil_append] at h
          obtain ⟨hnumber, hr⟩ := hexDigits_append_inj h
          exact ⟨Char.toNat_inj.mp hnumber, hr⟩

/-- The quote that ends a text is not the front of a character. -/
theorem QuotedAs.append_ne {c : Char} {u : List Char} (h : QuotedAs c u) (r₁ r₂ : List Char) :
    u ++ r₁ ≠ '"' :: r₂ := by
  intro heq
  have hfront := congrArg List.head? heq
  cases h with
  | plain hquote => exact hquote (Option.some.inj hfront)
  | letter | number => cases hfront

/-- The quote that ends a name is found, so names of different lengths are told apart as well. -/
theorem flatMap_quotedChar_append_inj {cs ds r₁ r₂ : List Char}
    (h : cs.flatMap quotedChar ++ '"' :: r₁ = ds.flatMap quotedChar ++ '"' :: r₂) :
    cs = ds ∧ r₁ = r₂ := by
  induction cs generalizing ds with
  | nil =>
      cases ds with
      | nil => exact ⟨rfl, (List.cons.inj h).2⟩
      | cons d ds =>
          rw [List.flatMap_cons, List.append_assoc] at h
          exact absurd h.symm ((quotedAs_quotedChar d).append_ne _ _)
  | cons c cs ih =>
      rw [List.flatMap_cons, List.append_assoc] at h
      cases ds with
      | nil => exact absurd h ((quotedAs_quotedChar c).append_ne _ _)
      | cons d ds =>
          rw [List.flatMap_cons, List.append_assoc] at h
          obtain ⟨rfl, hrest⟩ := (quotedAs_quotedChar c).append_inj (quotedAs_quotedChar d) h
          obtain ⟨rfl, hr⟩ := ih hrest
          exact ⟨rfl, hr⟩

theorem quoted_inj {s t : String} (h : quoted s = quoted t) : s = t := by
  have hchars := (List.cons.inj (String.ofList_injective h)).2
  exact String.toList_inj.mp (flatMap_quotedChar_append_inj hchars).1

end Text

/-! ## Widths -/

namespace Width

theorem describe_literal_ne (bits : UInt32) (name : String) :
    (literal bits).describe ≠ (parameter name).describe := by
  intro h
  have hquote : '"' ∈ (toString bits.toNat).toList := by
    rw [show toString bits.toNat = Text.quoted name from h, Text.quoted, String.toList_ofList]
    exact List.mem_cons_self
  exact notMem_toString (by decide) hquote

theorem describe_inj {w₁ w₂ : Width} (h : w₁.describe = w₂.describe) : w₁ = w₂ := by
  cases w₁ with
  | literal bits₁ =>
      cases w₂ with
      | literal bits₂ =>
          have hbits : bits₁.toNat = bits₂.toNat := toString_inj (congrArg String.toList h)
          rw [UInt32.toNat_inj.mp hbits]
      | parameter name₂ => exact absurd h (describe_literal_ne bits₁ name₂)
  | parameter name₁ =>
      cases w₂ with
      | literal bits₂ => exact absurd h.symm (describe_literal_ne bits₂ name₁)
      | parameter name₂ => rw [Text.quoted_inj h]

end Width

/-! ## Messages -/

namespace ModuleDecl

theorem Violation.isIdentifier_of_invalidWidth {m : ModuleDecl} {decl port : String} {w : Width}
    (h : m.Violation (.invalidWidth decl port w)) :
    Text.isIdentifier decl = true ∧ Text.isIdentifier port = true := by
  cases h with
  | port i hdecl _ _ hat =>
      cases hat with
      | width hport => exact ⟨hdecl, hport⟩

theorem Fault.toList_message_invalidWidth (decl port : String) (w : Width) :
    (invalidWidth decl port w).message.toList =
      "module '".toList ++ (decl.toList ++ '\x27' :: (": port '".toList ++
        (port.toList ++ '\x27' :: (" has unsupported width ".toList ++ w.describe.toList)))) := by
  have hmessage : (invalidWidth decl port w).message =
      "module '" ++ decl ++ "': port '" ++ port ++ "' has unsupported width " ++ w.describe := rfl
  rw [hmessage]
  simp only [String.toList_append, List.append_assoc]
  rfl

/-- The names end at the next apostrophe, for an identifier has none. -/
theorem Fault.message_invalidWidth_inj {decl₁ decl₂ port₁ port₂ : String} {w₁ w₂ : Width}
    (hdecl₁ : Text.isIdentifier decl₁ = true) (hdecl₂ : Text.isIdentifier decl₂ = true)
    (hport₁ : Text.isIdentifier port₁ = true) (hport₂ : Text.isIdentifier port₂ = true)
    (h : (invalidWidth decl₁ port₁ w₁).message = (invalidWidth decl₂ port₂ w₂).message) :
    decl₁ = decl₂ ∧ port₁ = port₂ ∧ w₁ = w₂ := by
  have hchars := congrArg String.toList h
  rw [toList_message_invalidWidth, toList_message_invalidWidth] at hchars
  obtain ⟨hdecl, hrest⟩ := eq_of_append_separator (notMem_of_isIdentifier hdecl₁ (by decide))
    (notMem_of_isIdentifier hdecl₂ (by decide)) (List.append_cancel_left hchars)
  obtain ⟨hport, hwidth⟩ := eq_of_append_separator (notMem_of_isIdentifier hport₁ (by decide))
    (notMem_of_isIdentifier hport₂ (by decide)) (List.append_cancel_left hrest)
  have hwidth := String.toList_inj.mp (List.append_cancel_left hwidth)
  exact ⟨String.toList_inj.mp hdecl, String.toList_inj.mp hport, Width.describe_inj hwidth⟩

end ModuleDecl

/-- Widths are shown alike only if they are the same: a number is shown like no name, and two names
are quoted alike only if they are one, whatever they consist of. So the message with which a
declaration is refused for a width tells the width, and the port and the module that it stands
in. -/
theorem Width.description_tells_width :
    (∀ w₁ w₂ : Width, w₁.describe = w₂.describe ↔ w₁ = w₂) ∧
    ∀ (m₁ m₂ : ModuleDecl) (decl₁ port₁ decl₂ port₂ : String) (w₁ w₂ : Width),
      m₁.check = .error (.invalidWidth decl₁ port₁ w₁) →
      m₂.check = .error (.invalidWidth decl₂ port₂ w₂) →
      ((ModuleDecl.Fault.invalidWidth decl₁ port₁ w₁).message =
          (ModuleDecl.Fault.invalidWidth decl₂ port₂ w₂).message ↔
        decl₁ = decl₂ ∧ port₁ = port₂ ∧ w₁ = w₂) := by
  refine ⟨fun w₁ w₂ => ⟨describe_inj, congrArg describe⟩, ?_⟩
  intro m₁ m₂ decl₁ port₁ decl₂ port₂ w₁ w₂ h₁ h₂
  rw [ModuleDecl.check_eq_error_iff, ModuleDecl.fault?_eq_some_iff] at h₁ h₂
  obtain ⟨hdecl₁, hport₁⟩ := h₁.isIdentifier_of_invalidWidth
  obtain ⟨hdecl₂, hport₂⟩ := h₂.isIdentifier_of_invalidWidth
  constructor
  · exact ModuleDecl.Fault.message_invalidWidth_inj hdecl₁ hdecl₂ hport₁ hport₂
  · intro h
    obtain ⟨rfl, rfl, rfl⟩ := h
    rfl

/-- A line break is told from the backslash and the letter that it is shown with. -/
theorem Width.description_tells_width_spelledOut :
    let m (w : Width) : ModuleDecl := ⟨"Top", [], [⟨.input, "a", w⟩], some ";"⟩
    let line := Width.parameter "\n"
    let spelledOut := Width.parameter "\\n"
    (m line).check = .error (.invalidWidth "Top" "a" line) ∧
    (m spelledOut).check = .error (.invalidWidth "Top" "a" spelledOut) ∧
    line.describe ≠ spelledOut.describe ∧
    (ModuleDecl.Fault.invalidWidth "Top" "a" line).message ≠
      (ModuleDecl.Fault.invalidWidth "Top" "a" spelledOut).message := by
  intro m line spelledOut
  have hline : (m line).check = .error (.invalidWidth "Top" "a" line) := by decide
  have hspelledOut : (m spelledOut).check = .error (.invalidWidth "Top" "a" spelledOut) := by
    decide
  have hne : line ≠ spelledOut := by decide
  refine ⟨hline, hspelledOut, ?_, ?_⟩
  · intro h
    exact hne ((description_tells_width.1 line spelledOut).mp h)
  · intro h
    exact hne ((description_tells_width.2 _ _ _ _ _ _ _ _ hline hspelledOut).mp h).2.2

end VerilogLibrary
