import VerilogLibrary.Proofs.Outline

/-!
# The port block of a module

Between its first line and the line that closes the parenthesis a module has a
line for each port. A reader who knows only that line gets the port back: the
direction stands up to a blank, a range in brackets says the width up to a
colon, and the rest is the name. `Port.ofLine?` is such a reader.

Ports with different names have different lines, since the reader tells them
apart, so lines in the order of their bytes are in strict order. The order puts
the inputs first because all lines agree up to the keyword, and the keywords
differ in their first letter.
-/

namespace VerilogLibrary

/-! ## Reading a line -/

/-- The width of a range, from its upper bound. A single bit has no range. -/
def Width.ofBound? (bound : List Char) : Option Width :=
  if bound.all Char.isDigit then
    let top := Nat.ofDigitChars 10 bound 0
    if 1 ≤ top ∧ top ≤ 2 ^ 32 - 2 then some (.literal (top + 1).toUInt32) else none
  else match bound.reverse with
    | '1' :: '-' :: name => some (.parameter (String.ofList name.reverse))
    | _ => none

/-- The direction of a keyword. -/
def Direction.ofKeyword? (keyword : List Char) : Option Direction :=
  [Direction.input, .output].find? (·.keyword.toList == keyword)

/-- The width and the name of a port, from what stands behind the direction. -/
def Port.widthAndName? : List Char → Option (Width × String)
  | '[' :: range => do
    let width ← Width.ofBound? (range.takeWhile (· != ':'))
    match range.dropWhile (· != ':') with
    | ':' :: '0' :: ']' :: ' ' :: name => return (width, String.ofList name)
    | _ => none
  | name => some (.literal 1, String.ofList name)

/-- The port of a line. -/
def Port.ofLine? (line : String) : Option Port :=
  match line.toList with
  | ' ' :: ' ' :: text => do
    let direction ← Direction.ofKeyword? (text.takeWhile (· != ' '))
    let (width, name) ← widthAndName? ((text.dropWhile (· != ' ')).drop 1)
    return ⟨direction, name, width⟩
  | _ => none

theorem Width.ofBound?_bound {w : Width} (h : w.isMeaningful = true)
    (hwide : w.isSingleBit = false) : ofBound? w.bound.toList = some w := by
  cases w with
  | literal bits =>
      have hpos := toNat_pos_of_isMeaningful h
      have hone : bits.toNat ≠ 1 := by
        intro heq
        rw [isSingleBit, show bits = 1 from UInt32.toNat_inj.mp heq] at hwide
        cases hwide
      have hlt := bits.toNat_lt
      have hdigits : (toString (bits.toNat - 1)).toList.all Char.isDigit = true :=
        List.all_eq_true.mpr fun c hc => isDigit_of_mem_toString hc
      rw [bound, ofBound?, if_pos hdigits, ofDigitChars_toString, if_pos (by omega),
        Nat.sub_add_cancel hpos]
      simp
  | parameter name =>
      have hnot : ¬ (name ++ "-1").toList.all Char.isDigit = true := by
        rw [List.all_eq_true, not_forall]
        refine ⟨'-', fun hdigit => absurd (hdigit ?_) (by decide)⟩
        rw [String.toList_append]
        exact List.mem_append_right _ (by decide)
      have hreverse : (name ++ "-1").toList.reverse = '1' :: '-' :: name.toList.reverse := by
        rw [String.toList_append, List.reverse_append]
        rfl
      rw [bound, ofBound?, if_neg hnot, hreverse]
      show some (Width.parameter (String.ofList name.toList.reverse.reverse)) = _
      rw [List.reverse_reverse, String.ofList_toList]

theorem Width.notMem_bound {w : Width} (h : w.isMeaningful = true) {c : Char}
    (hc : Text.isIdentifierPart c = false) (hminus : c ≠ '-') : c ∉ w.bound.toList := by
  intro hmem
  rcases isLinePart_of_mem_bound h hmem with hpart | heq
  · rw [hpart] at hc
    cases hc
  · exact hminus heq

theorem Port.widthAndName?_front_append {p : Port} (h : p.IsLegal) :
    widthAndName? (p.width.front ++ p.name.toList) = some (p.width, p.name) := by
  rw [Width.front]
  split
  · next hsingle =>
      have hbracket : ∀ range, p.name.toList ≠ '[' :: range := by
        intro range heq
        exact notMem_of_isIdentifier h.name (by decide) (heq ▸ List.mem_cons_self)
      rw [List.nil_append, widthAndName?.eq_def, Width.eq_of_isSingleBit hsingle]
      split
      · next heq => exact absurd heq (hbracket _)
      · rw [String.ofList_toList]
  · next hwide =>
      have hcolon := Width.notMem_bound h.width (c := ':') (by decide) (by decide)
      rw [List.cons_append, List.append_assoc, List.cons_append, widthAndName?,
        takeWhile_ne_append hcolon, dropWhile_ne_append hcolon,
        Width.ofBound?_bound h.width (Bool.eq_false_iff.mpr hwide)]
      show some (p.width, String.ofList p.name.toList) = _
      rw [String.ofList_toList]

theorem Direction.ofKeyword?_keyword (d : Direction) : ofKeyword? d.keyword.toList = some d := by
  cases d <;> rfl

theorem Port.ofLine?_line {p : Port} (h : p.IsLegal) : ofLine? p.line = some p := by
  have hblank : ' ' ∉ p.direction.keyword.toList := by
    cases p.direction <;> decide
  rw [ofLine?, p.toList_line]
  show (do
    let direction ← Direction.ofKeyword? (List.takeWhile (· != ' ')
      (p.direction.keyword.toList ++ ' ' :: (p.width.front ++ p.name.toList)))
    let (width, name) ← widthAndName? ((List.dropWhile (· != ' ')
      (p.direction.keyword.toList ++ ' ' :: (p.width.front ++ p.name.toList))).drop 1)
    return (⟨direction, name, width⟩ : Port)) = _
  rw [takeWhile_ne_append hblank, dropWhile_ne_append hblank, Direction.ofKeyword?_keyword,
    List.drop_one, List.tail_cons, widthAndName?_front_append h]
  rfl

example : Port.ofLine? "  input [4294967294:0] d" = some ⟨.input, "d", .literal 4294967295⟩ := by
  decide

/-! ## The order of the lines -/

namespace ModuleDecl

/-- The ports in the order in which their lines are written. -/
def writtenPorts (m : ModuleDecl) : List Port :=
  m.ports.mergeSort fun p q => lineLE p.line q.line

theorem writtenPorts_perm (m : ModuleDecl) : m.writtenPorts.Perm m.ports :=
  List.mergeSort_perm m.ports _

theorem portLines_eq_map (m : ModuleDecl) : m.portLines = m.writtenPorts.map Port.line := by
  exact (List.map_mergeSort (f := Port.line) fun _ _ _ _ => rfl).symm

theorem map_ofLine?_portLines {m : ModuleDecl} (h : m.IsLegal) :
    m.portLines.map Port.ofLine? = m.writtenPorts.map some := by
  rw [portLines_eq_map, List.map_map]
  refine List.map_congr_left fun p hp => ?_
  exact Port.ofLine?_line (h.ports p (m.writtenPorts_perm.mem_iff.mp hp))

theorem nodup_portLines {m : ModuleDecl} (h : m.IsLegal) : m.portLines.Nodup := by
  rw [portLines, (List.mergeSort_perm _ _).nodup_iff]
  exact h.nodup_ports.map_on fun p hp q hq => Port.line_inj (h.ports p hp) (h.ports q hq)

theorem pairwise_utf8_portLines {m : ModuleDecl} (h : m.IsLegal) :
    m.portLines.Pairwise fun a b => Text.utf8 a < Text.utf8 b := by
  refine (pairwise_lineLE _).imp₂ (fun a b hle hne => ?_) (nodup_portLines h)
  exact Std.lt_of_le_of_ne (of_decide_eq_true hle) fun heq => hne (Text.utf8_inj heq)

theorem utf8_line (p : Port) : ∃ bytes, Text.utf8 p.line =
    0x20 :: 0x20 :: (match p.direction with | .input => 0x69 | .output => 0x6F) :: bytes := by
  rw [Text.utf8, p.toList_line]
  cases p.direction <;> exact ⟨_, rfl⟩

/-- No input comes behind an output. -/
theorem input_of_lineLE {p q : Port} (hle : lineLE p.line q.line = true)
    (hq : q.direction = .input) : p.direction = .input := by
  cases hp : p.direction with
  | input => rfl
  | output =>
      obtain ⟨bytes, hbytes⟩ := utf8_line p
      obtain ⟨bytes', hbytes'⟩ := utf8_line q
      rw [lineLE, hbytes, hbytes', hp, hq, decide_eq_true_eq, List.cons_le_cons_iff,
        List.cons_le_cons_iff, List.cons_le_cons_iff] at hle
      exact absurd hle (by simp)

/-- Where no input comes behind an output, the inputs come first. -/
theorem exists_inputs_append_outputs {ports : List Port}
    (h : ports.Pairwise fun p q => q.direction = .input → p.direction = .input) :
    ∃ inputs outputs, ports = inputs ++ outputs ∧ (∀ p ∈ inputs, p.direction = .input) ∧
      ∀ p ∈ outputs, p.direction = .output := by
  induction ports with
  | nil => exact ⟨[], [], rfl, List.forall_mem_nil _, List.forall_mem_nil _⟩
  | cons p rest ih =>
      obtain ⟨hp, hrest⟩ := List.pairwise_cons.mp h
      cases hdirection : p.direction with
      | input =>
          obtain ⟨inputs, outputs, rfl, hinputs, houtputs⟩ := ih hrest
          exact ⟨p :: inputs, outputs, rfl, List.forall_mem_cons.mpr ⟨hdirection, hinputs⟩,
            houtputs⟩
      | output =>
          refine ⟨[], p :: rest, rfl, List.forall_mem_nil _,
            List.forall_mem_cons.mpr ⟨hdirection, fun q hq => ?_⟩⟩
          cases hq' : q.direction with
          | output => rfl
          | input => rw [hp q hq hq'] at hdirection; cases hdirection

theorem exists_writtenPorts_eq (m : ModuleDecl) :
    ∃ inputs outputs, m.writtenPorts = inputs ++ outputs ∧
      (∀ p ∈ inputs, p.direction = .input) ∧ ∀ p ∈ outputs, p.direction = .output := by
  have hsorted := pairwise_lineLE (m.ports.map Port.line)
  rw [← portLines, portLines_eq_map, List.pairwise_map] at hsorted
  exact exists_inputs_append_outputs (hsorted.imp fun hle hq => input_of_lineLE hle hq)

end ModuleDecl

/-! ## The lines of the text -/

/-- Lines with a comma behind each but the last. -/
def withCommas : List String → List String
  | [] => []
  | [line] => [line]
  | line :: next :: rest => (line ++ ",") :: withCommas (next :: rest)

theorem exists_of_mem_withCommas {l : String} {lines : List String} (h : l ∈ withCommas lines) :
    ∃ line ∈ lines, l = line ∨ l = line ++ "," := by
  induction lines with
  | nil => cases h
  | cons line rest ih =>
      cases rest with
      | nil => exact ⟨line, List.mem_cons_self, .inl (List.mem_singleton.mp h)⟩
      | cons next rest =>
          rcases List.mem_cons.mp h with heq | hrest
          · exact ⟨line, List.mem_cons_self, .inr heq⟩
          · obtain ⟨found, hfound, heq⟩ := ih hrest
            exact ⟨found, List.mem_cons_of_mem _ hfound, heq⟩

theorem map_ofList_splitOn_intercalate {lines : List String} (hne : lines ≠ [])
    (h : ∀ line ∈ lines, '\n' ∉ line.toList) :
    (([',', '\n'].intercalate (lines.map String.toList)).splitOn '\n').map String.ofList =
      withCommas lines := by
  induction lines with
  | nil => exact absurd rfl hne
  | cons line rest ih =>
      obtain ⟨hline, hrest⟩ := List.forall_mem_cons.mp h
      cases rest with
      | nil =>
          rw [List.map_singleton, List.intercalate_singleton, List.splitOn_eq_singleton hline,
            List.map_singleton, String.ofList_toList]
          rfl
      | cons next rest =>
          have hcomma : '\n' ∉ (line ++ ",").toList := by
            rw [String.toList_append, List.mem_append, not_or]
            exact ⟨hline, by decide⟩
          have hsplit : [',', '\n'].intercalate ((line :: next :: rest).map String.toList) =
              (line ++ ",").toList
                ++ '\n' :: [',', '\n'].intercalate ((next :: rest).map String.toList) := by
            rw [List.map_cons, List.map_cons, List.intercalate_cons_cons, String.toList_append]
            simp only [List.append_assoc]
            rfl
          rw [hsplit, List.splitOn_append_cons_self, List.splitOn_eq_singleton hcomma,
            List.map_append, ih (List.cons_ne_nil _ _) hrest, List.map_singleton,
            String.ofList_toList]
          rfl

namespace ModuleDecl

/-- The lines of a module up to the one that closes the parenthesis. -/
theorem exists_linesOf_text {m : ModuleDecl} (h : m.IsLegal)
    (hparameters : ∀ p ∈ m.parameters, '\n' ∉ p.text.toList) :
    ∃ rest, linesOf m.text = m.headline :: (withCommas m.portLines ++ ");" :: rest) := by
  have hlines : ∀ line ∈ m.portLines, '\n' ∉ line.toList := by
    have hports := forall_mem_portLines (m := m) (P := ('\n' ∉ ·)).mpr
      fun p hp => Port.notMem_line (h.ports p hp) (by decide)
    exact fun line hline => hports _ (List.mem_map_of_mem hline)
  have htext := m.text_append_headline []
  rw [List.append_nil] at htext
  rw [linesOf, htext, List.splitOn_append_cons_self,
    List.splitOn_eq_singleton (newline_notMem_headline h hparameters),
    List.splitOn_append_cons_self, List.splitOn_append_cons_self, portBlock, List.map_append,
    List.map_append, List.map_append,
    map_ofList_splitOn_intercalate (portLines_ne_nil h) hlines]
  simp only [List.map_singleton, String.ofList_toList, List.singleton_append]
  exact ⟨_, rfl⟩

theorem headline_ne_closing (m : ModuleDecl) : m.headline ≠ ");" := by
  intro heq
  have hopens := m.opensModule_headline
  rw [heq] at hopens
  exact absurd hopens (by decide)

theorem closing_notMem_withCommas (m : ModuleDecl) : ");" ∉ withCommas m.portLines := by
  intro hmem
  obtain ⟨line, hline, heq⟩ := exists_of_mem_withCommas hmem
  rw [portLines_eq_map] at hline
  obtain ⟨p, -, rfl⟩ := List.mem_map.mp hline
  have hblank : p.line.toList.head? = some ' ' := by
    rw [p.toList_line]
    rfl
  rcases heq with heq | heq
  · rw [← heq] at hblank
    exact absurd hblank (by decide)
  · have hhead := congrArg (fun s => s.toList.head?) heq
    simp only [String.toList_append, List.head?_append, hblank] at hhead
    exact absurd hhead (by decide)

/--
Between the first line of a module and the first line that closes the parenthesis stand the port
lines, with a comma behind each but the last. Their bytes increase strictly, and they are read as
the declared ports, each of them once, the inputs before the outputs.
-/
theorem portBlock_reads_as_ports {m : ModuleDecl} {text : String} (hrender : m.render = .ok text)
    (hplain : ∀ p ∈ m.parameters, '\n' ∉ p.name.toList ∧ ∀ d ∈ p.default?, '\n' ∉ d.toList) :
    ∃ (first : String) (lines rest : List String),
      linesOf text = first :: (withCommas lines ++ ");" :: rest) ∧
      ");" ∉ first :: withCommas lines ∧
      lines.Pairwise (fun a b => Text.utf8 a < Text.utf8 b) ∧
      lines.length = m.ports.length ∧
      ∃ inputs outputs : List Port,
        lines.map Port.ofLine? = (inputs ++ outputs).map some ∧
        (inputs ++ outputs).Perm m.ports ∧ m.ports.Nodup ∧
        (∀ p ∈ inputs, p.direction = .input) ∧ ∀ p ∈ outputs, p.direction = .output := by
  obtain ⟨hlegal, rfl⟩ := render_eq_ok_iff.mp hrender
  have hparameters : ∀ p ∈ m.parameters, '\n' ∉ p.text.toList := fun p hp =>
    Parameter.notMem_text (by decide) (hplain p hp).1 (by decide) (hplain p hp).2
  obtain ⟨rest, hlines⟩ := exists_linesOf_text hlegal hparameters
  obtain ⟨inputs, outputs, hports, hinputs, houtputs⟩ := m.exists_writtenPorts_eq
  refine ⟨m.headline, m.portLines, rest, hlines, ?_, pairwise_utf8_portLines hlegal, ?_,
    inputs, outputs, ?_, ?_, hlegal.nodup_ports, hinputs, houtputs⟩
  · rw [List.mem_cons, not_or]
    exact ⟨m.headline_ne_closing.symm, m.closing_notMem_withCommas⟩
  · rw [portLines, List.length_mergeSort, List.length_map]
  · rw [← hports]
    exact map_ofLine?_portLines hlegal
  · rw [← hports]
    exact m.writtenPorts_perm

/-- A module with widths of all three kinds, the largest number among them, and a body that looks
like the line that closes the parenthesis. -/
theorem portBlock_reads_as_three_ports :
    let m : ModuleDecl := ⟨"Top", [⟨"W", some "8,9"⟩], [⟨.output, "q", .literal 1⟩,
      ⟨.input, "d", .literal 4294967295⟩, ⟨.input, "D", .parameter "W"⟩], some ");"⟩
    ∃ text first lines rest, m.render = .ok text ∧
      linesOf text = first :: (withCommas lines ++ ");" :: rest) ∧
      lines.Pairwise (fun a b => Text.utf8 a < Text.utf8 b) ∧ lines.length = 3 ∧
      ∃ ports : List Port, lines.map Port.ofLine? = ports.map some ∧ ports.Perm m.ports := by
  intro m
  have hrender : m.render = .ok m.text :=
    render_eq_ok_iff.mpr ⟨check_eq_ok_iff.mp (by decide), rfl⟩
  have hplain : ∀ p ∈ m.parameters, '\n' ∉ p.name.toList ∧ ∀ d ∈ p.default?, '\n' ∉ d.toList := by
    intro p hp
    obtain rfl := List.mem_singleton.mp hp
    exact ⟨by decide, fun d hd => by cases hd; decide⟩
  obtain ⟨first, lines, rest, hlines, -, hsorted, hlength, inputs, outputs, hread, hperm, -⟩ :=
    portBlock_reads_as_ports hrender hplain
  exact ⟨m.text, first, lines, rest, hrender, hlines, hsorted, hlength, inputs ++ outputs, hread,
    hperm⟩

end ModuleDecl

end VerilogLibrary
