import Mathlib
import VerilogLibrary.Proofs.TomlValues

/-!
# Documents of TOML with one statement on each line

A line is a header, or a bare key and a value. The reader makes the lines into
statements and the statements into a tree, one after the other. Where the pairs
behind a header go is a place in that tree, and a place is described here by what
the tree is around it: `Leads` says that a change behind the header is a change
of that place alone. So the pairs of one table are put in by one induction,
whatever the table is and whatever the document holds besides.
-/

namespace VerilogLibrary.Toml

/-! ## Lines -/

/-- A key without quotes. -/
def IsBareKey (key : String) : Prop :=
  key ≠ "" ∧ key.toList.all isBareKeyChar = true

instance (key : String) : Decidable (IsBareKey key) :=
  inferInstanceAs (Decidable (key ≠ "" ∧ key.toList.all isBareKeyChar = true))

theorem IsBareKey.forall_mem {key : String} (h : IsBareKey key) :
    ∀ c ∈ key.toList, isBareKeyChar c = true :=
  List.all_eq_true.mp h.2

/-- What a line that is not empty opens with, unless a key stands in quotes. -/
def OpensLine (c : Char) : Prop :=
  c = '[' ∨ isBareKeyChar c = true

instance (c : Char) : Decidable (OpensLine c) :=
  inferInstanceAs (Decidable (c = '[' ∨ isBareKeyChar c = true))

theorem OpensLine.ne {c d : Char} (h : OpensLine c) (hd : ¬ OpensLine d) : c ≠ d := by
  rintro rfl
  exact hd h

theorem OpensLine.skipBlanks {c : Char} (h : OpensLine c) (cs : List Char) :
    skipBlanks (c :: cs) = c :: cs := by
  have hblank : isBlankChar c = false := by
    rw [isBlankChar, beq_false_of_ne (h.ne (by decide)), beq_false_of_ne (h.ne (by decide))]
    rfl
  exact List.dropWhile_cons_of_neg (ne_true_of_eq_false hblank)

theorem IsBareKey.exists_cons {key : String} (h : IsBareKey key) :
    ∃ c tail, key.toList = c :: tail ∧ isBareKeyChar c = true := by
  obtain ⟨c, tail, hkey⟩ := List.exists_cons_of_ne_nil (mt String.toList_eq_nil_iff.mp h.1)
  exact ⟨c, tail, hkey, h.forall_mem c (hkey ▸ List.mem_cons_self)⟩

theorem keyPart?_append {key : String} (h : IsBareKey key) {c : Char}
    (hend : isBareKeyChar c = false) (rest : List Char) :
    keyPart? (key.toList ++ c :: rest) = some (key, c :: rest) := by
  have hspan : (key.toList ++ c :: rest).span isBareKeyChar = (key.toList, c :: rest) := by
    have hstop := ne_true_of_eq_false hend
    rw [List.span_eq_takeWhile_dropWhile, List.takeWhile_append_of_pos h.forall_mem,
      List.dropWhile_append_of_pos h.forall_mem, List.takeWhile_cons_of_neg hstop,
      List.dropWhile_cons_of_neg hstop, List.append_nil]
  obtain ⟨d, tail, hkey, hbare⟩ := h.exists_cons
  rw [keyPart?.eq_def]
  split
  · next heq =>
      rw [hkey] at heq
      exact absurd (List.cons.inj heq).1 (ne_of_class hbare rfl)
  · next heq =>
      rw [hkey] at heq
      exact absurd (List.cons.inj heq).1 (ne_of_class hbare rfl)
  · rw [hspan, hkey]
    simp only
    rw [← hkey, String.ofList_toList]

/-- A key ends where its characters end, if no point follows. -/
theorem key?_append {key : String} (h : IsBareKey key) {c : Char}
    (hend : isBareKeyChar c = false) (rest : List Char)
    (hpoint : ∀ cs, skipBlanks (c :: rest) ≠ '.' :: cs) :
    key? (key.toList ++ c :: rest) = some ([key], skipBlanks (c :: rest)) := by
  have hskip : skipBlanks (key.toList ++ c :: rest) = key.toList ++ c :: rest := by
    obtain ⟨d, tail, hkey, hbare⟩ := h.exists_cons
    rw [hkey, List.cons_append, OpensLine.skipBlanks (.inr hbare)]
  show keyParts? (78 + 1) _ = _
  rw [keyParts?, hskip, keyPart?_append h hend]
  simp only [bind, Option.bind]
  rfl

/-- What the reader takes for a statement on a line of its own. -/
structure IsLine (cs : List Char) (statement : Statement) : Prop where
  opens : ∃ c tail, cs = c :: tail ∧ OpensLine c
  reads : ∀ fuel rest,
    statement? (fuel + 1) (cs ++ '\n' :: rest) = some (statement, '\n' :: rest)

theorem isLine_header {key : String} (h : IsBareKey key) :
    IsLine ("[" ++ key ++ "]").toList (.header [key]) := by
  have hchars : ("[" ++ key ++ "]").toList = '[' :: (key.toList ++ [']']) := by simp
  rw [hchars]
  refine ⟨⟨_, _, rfl, .inl rfl⟩, fun fuel rest => ?_⟩
  have hkey := key?_append h (c := ']') rfl ('\n' :: rest) nofun
  obtain ⟨d, tail, hcons, hbare⟩ := h.exists_cons
  rw [List.cons_append, List.append_assoc, List.singleton_append, statement?.eq_def]
  split
  · next heq =>
      rw [hcons] at heq
      exact absurd (List.cons.inj (List.cons.inj heq).2).1 (ne_of_class hbare rfl)
  · next heq =>
      obtain rfl := (List.cons.inj heq).2
      rw [hkey]
      rfl
  · next hno => exact absurd rfl (hno _)

theorem isLine_elementHeader {key : String} (h : IsBareKey key) :
    IsLine ("[[" ++ key ++ "]]").toList (.elementHeader [key]) := by
  have hchars : ("[[" ++ key ++ "]]").toList = '[' :: '[' :: (key.toList ++ [']', ']']) := by
    simp
  rw [hchars]
  refine ⟨⟨_, _, rfl, .inl rfl⟩, fun fuel rest => ?_⟩
  have hkey := key?_append h (c := ']') rfl (']' :: '\n' :: rest) nofun
  simp only [List.cons_append, List.append_assoc, List.nil_append]
  rw [statement?, hkey]
  rfl

theorem statement?_of_ne {cs : List Char} (h : ∀ tail, cs ≠ '[' :: tail) (fuel : Nat) :
    statement? fuel cs = do
      let (path, cs) ← key? cs
      let (value, cs) ← value? fuel 0 (skipBlanks (← after? '=' cs))
      return (.pair path value, cs) := by
  rw [statement?.eq_def]
  split
  · exact absurd rfl (h _)
  · exact absurd rfl (h _)
  · rfl

theorem IsValue.skipBlanks {cs : List Char} {node : Node} (h : IsValue cs node)
    (rest : List Char) :
    skipBlanks (' ' :: (cs ++ '\n' :: rest)) = cs ++ '\n' :: rest := by
  cases cs with
  | nil => rfl
  | cons c cs => exact List.dropWhile_cons_of_neg (ne_true_of_eq_false (h.opens c rfl))

theorem isLine_pair {key : String} (h : IsBareKey key) {value : String} {node : Node}
    (hvalue : IsValue value.toList node) :
    IsLine (key ++ " = " ++ value).toList (.pair [key] node) := by
  have hchars : (key ++ " = " ++ value).toList =
      key.toList ++ ' ' :: '=' :: ' ' :: value.toList := by
    simp
  rw [hchars]
  generalize value.toList = cs at hvalue
  obtain ⟨d, tail, hcons, hbare⟩ := h.exists_cons
  refine ⟨⟨d, _, congrArg (· ++ _) hcons, .inr hbare⟩, fun fuel rest => ?_⟩
  have hkey := key?_append h (c := ' ') rfl ('=' :: ' ' :: (cs ++ '\n' :: rest)) nofun
  have hother : ∀ cs', key.toList ++ ' ' :: '=' :: ' ' :: (cs ++ '\n' :: rest) ≠ '[' :: cs' := by
    intro cs' heq
    rw [hcons] at heq
    exact absurd (List.cons.inj heq).1 (ne_of_class hbare rfl)
  simp only [List.append_assoc, List.cons_append]
  rw [statement?_of_ne hother, hkey]
  show (value? (fuel + 1) 0 (skipBlanks (' ' :: (cs ++ '\n' :: rest)))).bind _ = _
  rw [hvalue.skipBlanks, hvalue.reads]
  rfl

/-! ## Documents -/

/-- The text of lines, each with its break. -/
def textOf (lines : List (String × Statement)) : String :=
  String.join (lines.map fun line => line.1 ++ "\n")

theorem OpensLine.endOfLine? {c : Char} (h : OpensLine c) (cs : List Char) :
    endOfLine? (c :: cs) = none := by
  have hcomment : dropComment (c :: cs) = c :: cs := by
    rw [dropComment.eq_def]
    split
    · next heq => exact absurd (List.cons.inj heq).1 (h.ne (by decide))
    · rfl
  rw [Toml.endOfLine?, h.skipBlanks, hcomment]
  simp only
  rw [lineBreak?.eq_def]
  split
  · next heq => exact absurd (List.cons.inj heq).1 (h.ne (by decide))
  · next heq => exact absurd (List.cons.inj heq).1 (h.ne (by decide))
  · rfl

theorem textOf_append (lines₁ lines₂ : List (String × Statement)) :
    textOf (lines₁ ++ lines₂) = textOf lines₁ ++ textOf lines₂ := by
  rw [textOf, List.map_append, String.join_append, textOf, textOf]

theorem toList_textOf_cons (line : String × Statement) (lines : List (String × Statement)) :
    (textOf (line :: lines)).toList = line.1.toList ++ '\n' :: (textOf lines).toList := by
  simp [textOf, String.join_cons]

theorem length_le_length_textOf (lines : List (String × Statement)) :
    lines.length ≤ (textOf lines).toList.length := by
  induction lines with
  | nil => exact Nat.zero_le _
  | cons line lines ih =>
      rw [toList_textOf_cons, List.length_append, List.length_cons, List.length_cons]
      omega

variable {lines : List (String × Statement)}

/-- Every line takes one from the fuel, and so does the end of the text. -/
theorem statements?_textOf (h : ∀ line ∈ lines, IsLine line.1.toList line.2) {fuel : Nat}
    (hfuel : lines.length < fuel) :
    statements? fuel (textOf lines).toList = some (lines.map Prod.snd) := by
  induction lines generalizing fuel with
  | nil =>
      obtain ⟨fuel, rfl⟩ := Nat.exists_eq_succ_of_ne_zero (Nat.ne_zero_of_lt hfuel)
      rfl
  | cons line lines ih =>
      obtain ⟨hline, hlines⟩ := List.forall_mem_cons.mp h
      obtain ⟨c, tail, hcs, hopens⟩ := hline.opens
      rw [List.length_cons] at hfuel
      -- One goes for the line; the value on it needs another, which the end of the text has left.
      obtain ⟨fuel, rfl⟩ : ∃ k, fuel = k + 2 := ⟨fuel - 2, by omega⟩
      have hrest := ih hlines (by omega : lines.length < fuel + 1)
      have hread := hline.reads fuel (textOf lines).toList
      rw [toList_textOf_cons]
      generalize (textOf lines).toList = rest at hrest hread
      rw [hcs, List.cons_append] at hread ⊢
      rw [statements?, hopens.endOfLine?]
      simp only [hopens.skipBlanks, hread, bind, Option.bind]
      rw [show endOfLine? ('\n' :: rest) = some rest from rfl]
      simp only [hrest]
      rfl

/-- A document of such lines has the entries that its statements make. -/
theorem parse?_textOf (h : ∀ line ∈ lines, IsLine line.1.toList line.2) :
    parse? (textOf lines) = entriesOf? (lines.map Prod.snd) := by
  have hmark : dropMark (textOf lines).toList = (textOf lines).toList := by
    cases lines with
    | nil => rfl
    | cons line lines =>
        obtain ⟨c, tail, hcs, hopens⟩ := (h line List.mem_cons_self).opens
        rw [toList_textOf_cons, hcs]
        exact if_neg (hopens.ne (by decide))
  rw [parse?, hmark]
  simp only [statements?_textOf h (Nat.lt_succ_of_le (length_le_length_textOf lines)), bind,
    Option.bind]

/-! ## Tables -/

theorem alter_append {front : Entries} {key : String} (h : key ∉ front.map Prod.fst)
    (f : Option Node → Option Node) (back : Entries) :
    Entries.alter key f (front ++ back) = (Entries.alter key f back).map (front ++ ·) := by
  induction front with
  | nil => simp
  | cons entry front ih =>
      rw [List.map_cons, List.mem_cons, not_or] at h
      obtain ⟨hkey, hfront⟩ := h
      rw [List.cons_append, Entries.alter, if_neg (Ne.symm hkey), ih hfront, Option.map_map]
      rfl

theorem put_of_notMem {key : String} {es : Entries} (h : key ∉ es.map Prod.fst) (value : Node) :
    put true [key] value es = some (es ++ [(key, value)]) := by
  have hput := alter_append h (vacant value) []
  rw [List.append_nil] at hput
  rw [put, if_pos rfl, hput]
  rfl

/-- The path leads to the place that the tree is around. -/
def Leads (path : List String) (around : Entries → Entries) : Prop :=
  ∀ f place, within path f (around place) = (f place).map around

theorem leads_table {front : Entries} {key : String} (h : key ∉ front.map Prod.fst) :
    Leads [key] fun place => front ++ [(key, .table .headed place)] := by
  intro f place
  rw [within, alter_append h, Entries.alter, if_pos rfl]
  simp only [within, Option.map_map]
  rfl

theorem modifyLast_append (f : Entries → Option Entries) (elements : List Entries)
    (last : Entries) :
    modifyLast f (elements ++ [last]) = (f last).map fun last => elements ++ [last] := by
  induction elements with
  | nil => rfl
  | cons element elements ih =>
      obtain ⟨next, rest, hnext⟩ := List.exists_cons_of_ne_nil
        (List.append_ne_nil_of_right_ne_nil elements (List.cons_ne_nil last []))
      rw [List.cons_append, hnext, modifyLast, ← hnext, ih, Option.map_map]
      · rfl
      · exact List.cons_ne_nil _ _

theorem leads_tables {front : Entries} {key : String} (h : key ∉ front.map Prod.fst)
    (elements : List Entries) :
    Leads [key] fun place => front ++ [(key, .tables (elements ++ [place]))] := by
  intro f place
  rw [within, alter_append h, Entries.alter, if_pos rfl]
  simp only [modifyLast_append, within, Option.map_map]
  rfl

/-- The statement of an entry. -/
def pairStatement (entry : String × Node) : Statement :=
  .pair [entry.1] entry.2

theorem execute_pairs {path : List String} {around : Entries → Entries}
    (h : Leads path around) (place : Entries) {pairs : Entries}
    (hnodup : ((place ++ pairs).map Prod.fst).Nodup) (rest : List Statement) :
    execute path (pairs.map pairStatement ++ rest) (around place) =
      execute path rest (around (place ++ pairs)) := by
  induction pairs generalizing place with
  | nil => rw [List.append_nil]; rfl
  | cons entry pairs ih =>
      have hfresh : entry.1 ∉ place.map Prod.fst := by
        rw [List.map_append, List.map_cons] at hnodup
        exact fun hmem => List.disjoint_of_nodup_append hnodup hmem List.mem_cons_self
      rw [List.map_cons, List.cons_append, pairStatement, execute, h, put_of_notMem hfresh]
      simp only [Option.map_some, bind, Option.bind]
      rw [ih (place ++ [entry]) (by rwa [List.append_assoc]), List.append_assoc]
      rfl

theorem openTable_of_notMem {es : Entries} {key : String} (h : key ∉ es.map Prod.fst) :
    openTable [key] es = some (es ++ [(key, .table .headed [])]) := by
  have halter := alter_append h headedNode []
  rw [List.append_nil] at halter
  exact halter

/-- The entry of an array of tables, which is missing as long as there is no table. -/
def tablesEntry (key : String) : List Entries → Entries
  | [] => []
  | elements => [(key, .tables elements)]

theorem openElement_tablesEntry {front : Entries} {key : String} (h : key ∉ front.map Prod.fst)
    (elements : List Entries) :
    openElement [key] (front ++ tablesEntry key elements) =
      some (front ++ [(key, .tables (elements ++ [[]]))]) := by
  have halter := alter_append h extendedNode (tablesEntry key elements)
  cases elements with
  | nil => exact halter
  | cons element elements =>
      rw [tablesEntry, Entries.alter, if_pos rfl] at halter
      · exact halter
      · exact List.cons_ne_nil _ _

/-- Each header opens a new last table, and the pairs behind it go there. -/
theorem execute_elements {front : Entries} {key : String} (h : key ∉ front.map Prod.fst)
    {tables : List Entries} (hnodup : ∀ table ∈ tables, (table.map Prod.fst).Nodup)
    (current : List String) (elements : List Entries) :
    execute current (tables.flatMap fun table => .elementHeader [key] :: table.map pairStatement)
        (front ++ tablesEntry key elements) =
      some (front ++ tablesEntry key (elements ++ tables)) := by
  induction tables generalizing current elements with
  | nil =>
      rw [List.append_nil]
      rfl
  | cons table tables ih =>
      obtain ⟨htable, htables⟩ := List.forall_mem_cons.mp hnodup
      -- The new element is empty, and the tree around it holds all the elements before.
      have hpairs := execute_pairs (leads_tables h elements) [] htable
        (tables.flatMap fun table => .elementHeader [key] :: table.map pairStatement)
      have hentry : tablesEntry key (elements ++ [table]) =
          [(key, .tables (elements ++ [table]))] := by
        cases elements <;> rfl
      rw [List.flatMap_cons, List.cons_append, execute, openElement_tablesEntry h]
      simp only [bind, Option.bind]
      rw [hpairs, List.nil_append, ← hentry, ih htables, List.append_assoc, List.singleton_append]

end VerilogLibrary.Toml
