import VerilogLibrary.Proofs.LibraryText
import VerilogLibrary.Proofs.ModuleText

/-!
# The outline of a text

Whoever looks for the modules in a text goes through its lines and heeds three
kinds of them: those that open a module, those that close one, and comments.
They make up the outline of the text. The outline of a text with a line break in
it is that of what stands before and of what stands behind, so it can be taken
piece by piece.

The outline of a module is its first line and its last one, provided that its
body has no such lines and its parameters have no line breaks. The lines of the
ports all begin with a blank. What the generators make is of this kind.
-/

namespace VerilogLibrary

/-- The lines of a text, without the line breaks. -/
def linesOf (s : String) : List String :=
  (s.toList.splitOn '\n').map String.ofList

/-- Whether a line opens a module. -/
def opensModule (line : String) : Bool :=
  "module ".toList.isPrefixOf line.toList

/-- The token behind `module`. -/
def moduleToken (line : String) : String :=
  String.ofList ((line.toList.drop "module ".length).takeWhile fun c => !Text.isWhiteSpace c)

/-- The line that closes a module. -/
def closingLine : String := "endmodule"

/-- Whether a line is a comment. -/
def isComment (line : String) : Bool :=
  "//".toList.isPrefixOf line.toList

/-- Whether a line belongs to the outline. -/
def isOutlined (line : String) : Bool :=
  opensModule line || line == closingLine || isComment line

/-- The lines that open or close a module, and the comments. -/
def outline (text : List Char) : List String :=
  ((text.splitOn '\n').map String.ofList).filter isOutlined

theorem outline_nil : outline [] = [] := by decide

theorem outline_append_newline (a b : List Char) :
    outline (a ++ '\n' :: b) = outline a ++ outline b := by
  rw [outline, List.splitOn_append_cons_self, List.map_append, List.filter_append]
  rfl

theorem outline_of_line {line : List Char} (h : '\n' ∉ line) :
    outline line = [String.ofList line].filter isOutlined := by
  rw [outline, List.splitOn_eq_singleton h]
  rfl

/-- A line that begins with a blank. -/
def IsIndented (line : List Char) : Prop :=
  line.head? = some ' ' ∧ '\n' ∉ line

instance : DecidablePred IsIndented := fun line =>
  inferInstanceAs (Decidable (line.head? = some ' ' ∧ '\n' ∉ line))

theorem IsIndented.append {a b : List Char} (ha : IsIndented a) (hb : '\n' ∉ b) :
    IsIndented (a ++ b) := by
  refine ⟨?_, fun hmem => ?_⟩
  · rw [List.head?_append, ha.1, Option.some_or]
  · rcases List.mem_append.mp hmem with hmem | hmem
    · exact ha.2 hmem
    · exact hb hmem

/-- A line that begins with a blank has no place in the outline. -/
theorem outline_of_isIndented {line : List Char} (h : IsIndented line) : outline line = [] := by
  obtain ⟨hhead, hline⟩ := h
  obtain ⟨rest, rfl⟩ := List.head?_eq_some_iff.mp hhead
  have hlist : (String.ofList (' ' :: rest)).toList = ' ' :: rest := String.toList_ofList
  have hclosing : String.ofList (' ' :: rest) ≠ closingLine := by
    intro h
    rw [h] at hlist
    exact absurd (List.head_eq_of_cons_eq hlist) (by decide)
  have hnot : isOutlined (String.ofList (' ' :: rest)) = false := by
    rw [isOutlined, opensModule, isComment, hlist, beq_eq_false_iff_ne.mpr hclosing]
    rfl
  rw [outline_of_line hline, List.filter_singleton, hnot]
  rfl

theorem outline_intercalate (gap : List Char) (hgap : '\n' ∉ gap) {lines : List (List Char)}
    (h : ∀ line ∈ lines, IsIndented line) : outline ((gap ++ ['\n']).intercalate lines) = [] := by
  induction lines with
  | nil => exact outline_nil
  | cons line lines ih =>
      obtain ⟨hline, hlines⟩ := List.forall_mem_cons.mp h
      cases lines with
      | nil => rw [List.intercalate_singleton, outline_of_isIndented hline]
      | cons next lines =>
          have hsplit : (gap ++ ['\n']).intercalate (line :: next :: lines) =
              (line ++ gap) ++ '\n' :: (gap ++ ['\n']).intercalate (next :: lines) := by
            rw [List.intercalate_cons_cons]
            simp only [List.append_assoc, List.cons_append, List.nil_append]
          rw [hsplit, outline_append_newline, outline_of_isIndented (hline.append hgap), ih hlines,
            List.append_nil]

/-! ## Modules -/

namespace ModuleDecl

/-- The first line of a module. -/
def headline (m : ModuleDecl) : String :=
  "module " ++ m.name ++ " " ++ m.parameterBlock ++ "("

/-- The first line of a module, and the last. -/
def ends (m : ModuleDecl) : List String :=
  [m.headline, closingLine]

/-- A legal declaration whose lines, but for the first and the last, are not outlined. -/
structure IsFramed (m : ModuleDecl) : Prop where
  legal : m.IsLegal
  parameters : ∀ p ∈ m.parameters, '\n' ∉ p.text.toList
  body : outline (m.body?.getD "").toList = []

theorem text_append_headline (m : ModuleDecl) (r : List Char) :
    m.text.toList ++ r =
      m.headline.toList ++ '\n' :: (m.portBlock ++ '\n' :: (");".toList
        ++ '\n' :: ((m.body?.getD "").toList
          ++ '\n' :: (closingLine.toList ++ '\n' :: ([] ++ '\n' :: r))))) := by
  rw [text_append, headline]
  simp only [String.toList_append, List.append_assoc]
  rfl

theorem opensModule_headline (m : ModuleDecl) : opensModule m.headline = true := by
  rw [opensModule, headline]
  simp only [String.toList_append, List.append_assoc]
  rfl

theorem moduleToken_headline {m : ModuleDecl} (h : m.IsLegal) :
    moduleToken m.headline = m.name := by
  have hlist : m.headline.toList.drop "module ".length =
      m.name.toList ++ ' ' :: (m.parameterBlock.toList ++ ['(']) := by
    rw [headline]
    simp only [String.toList_append, List.append_assoc]
    rfl
  have hname : ∀ c ∈ m.name.toList, (!Text.isWhiteSpace c) = true := by
    intro c hc
    rw [isWhiteSpace_of_isIdentifierPart (isIdentifierPart_of_mem h.name hc), Bool.not_false]
  rw [moduleToken, hlist, List.takeWhile_append_of_pos hname,
    List.takeWhile_cons_of_neg (by decide), List.append_nil, String.ofList_toList]

theorem newline_notMem_headline {m : ModuleDecl} (h : m.IsLegal)
    (hparameters : ∀ p ∈ m.parameters, '\n' ∉ p.text.toList) : '\n' ∉ m.headline.toList := by
  have hname := notMem_of_isIdentifier h.name (c := '\n') (by decide)
  have hblock := newline_notMem_parameterBlock hparameters
  rw [headline]
  simp only [String.toList_append, List.mem_append, not_or]
  exact ⟨⟨⟨⟨by decide, hname⟩, by decide⟩, hblock⟩, by decide⟩

theorem outline_portBlock {m : ModuleDecl} (h : m.IsLegal) : outline m.portBlock = [] := by
  refine outline_intercalate [','] (by decide) (forall_mem_portLines.mpr fun p hp => ⟨?_, ?_⟩)
  · rw [p.toList_line]
    rfl
  · exact Port.notMem_line (h.ports p hp) (by decide)

theorem outline_text_append {m : ModuleDecl} (h : m.IsFramed) (r : List Char) :
    outline (m.text.toList ++ r) = m.ends ++ outline r := by
  have hhead : outline m.headline.toList = [m.headline] := by
    rw [outline_of_line (newline_notMem_headline h.legal h.parameters), String.ofList_toList,
      List.filter_singleton, isOutlined, opensModule_headline]
    rfl
  have hparenthesis : outline ");".toList = [] := by decide
  have hclosing : outline closingLine.toList = [closingLine] := by decide
  rw [text_append_headline]
  simp only [outline_append_newline, hhead, outline_portBlock h.legal, hparenthesis, h.body,
    hclosing, outline_nil]
  rfl

end ModuleDecl

/-! ## The modules of a library -/

theorem newline_notMem_numeric {name : String} (h : '\n' ∉ name.toList) (n : Nat) :
    '\n' ∉ (Parameter.text ⟨name, some (toString n)⟩).toList := by
  refine Parameter.notMem_text (by decide) h (by decide) fun d hd => ?_
  obtain rfl : toString n = d := Option.some.inj hd
  exact notMem_toString (by decide)

theorem Operation.isFramed_decl {op : Operation} (o : Options)
    (hname : Text.isIdentifier op.moduleName = true) (hexpr : '\n' ∉ op.expr.toList) :
    (op.decl o).IsFramed := by
  have hlegal := Operation.isLegal_decl_iff (o := o).mpr hname
  have hbody : outline (s!"  assign out = {op.expr};").toList = [] := by
    rw [String.toList_append, String.toList_append]
    exact outline_of_isIndented (.append (.append (by decide) hexpr) (by decide))
  rw [op.decl_eq] at hlegal ⊢
  exact ⟨hlegal, List.forall_mem_singleton.mpr (newline_notMem_numeric (by decide) _), hbody⟩

theorem isFramed_multiplexer (o : Options) : (multiplexer o).IsFramed where
  legal := isLegal_multiplexer o
  parameters := List.forall_mem_singleton.mpr (newline_notMem_numeric (by decide) _)
  body := by
    have hbody : (multiplexer o).body?.getD "" = "  assign out = sel ? d0 : d1;" := rfl
    rw [hbody]
    exact outline_of_isIndented (by decide)

/-- The body of a register, line by line. -/
def Register.bodyLines (r : Register) : List String :=
  ["  reg [WIDTH-1:0] r;",
    "  always @(" ++ (r.edge.keyword
      ++ if r.asyncReset then " clk, negedge rst) begin" else " clk) begin")]
    ++ (if r.asyncReset then ["    if (!rst) r <= INIT;", "    else r <= " ++ (r.nextValue ++ ";")]
      else ["    r <= " ++ (r.nextValue ++ ";")])
    ++ ["  end", "  assign Q = r;"]

theorem Register.body_eq (r : Register) : r.body = "\n".intercalate r.bodyLines := by
  rw [← String.toList_inj, String.toList_intercalate, body, bodyLines]
  cases r.asyncReset
  all_goals
    simp only [Bool.false_eq_true, reduceIte, String.toList_append, List.cons_append,
      List.nil_append, List.map_cons, List.map_nil, List.intercalate_cons_cons,
      List.intercalate_singleton, List.append_assoc]
    rfl

theorem Register.newline_notMem_nextValue (r : Register) : '\n' ∉ r.nextValue.toList := by
  rw [nextValue]
  cases r.syncClear <;> cases r.enable <;> decide

theorem Register.isIndented_bodyLines (r : Register) :
    ∀ line ∈ r.bodyLines.map String.toList, IsIndented line := by
  have hkeyword : '\n' ∉ r.edge.keyword.toList := by
    cases r.edge <;> decide
  have hvalue := r.newline_notMem_nextValue
  rw [bodyLines]
  split
  all_goals
    simp only [List.cons_append, List.nil_append, List.map_cons, List.map_nil,
      List.forall_mem_cons, String.toList_append]
  · exact ⟨by decide, .append (by decide) (by simp [hkeyword]), by decide,
      .append (by decide) (by simp [hvalue]), by decide, by decide, nofun⟩
  · exact ⟨by decide, .append (by decide) (by simp [hkeyword]),
      .append (by decide) (by simp [hvalue]), by decide, by decide, nofun⟩

theorem Register.isFramed_decl (r : Register) (o : Options) : (r.decl o).IsFramed := by
  have hlegal := r.isLegal_decl o
  have hbody : outline r.body.toList = [] := by
    rw [r.body_eq, String.toList_intercalate]
    exact outline_intercalate [] List.not_mem_nil r.isIndented_bodyLines
  rw [r.decl_eq] at hlegal ⊢
  refine ⟨hlegal, List.forall_mem_cons.mpr ⟨newline_notMem_numeric (by decide) _, ?_⟩, hbody⟩
  split
  · exact List.forall_mem_singleton.mpr (newline_notMem_numeric (by decide) _)
  · exact fun p hp => absurd hp List.not_mem_nil

end VerilogLibrary
