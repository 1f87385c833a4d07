import VerilogLibrary.Proofs.CatalogRuns
import VerilogLibrary.Proofs.LibraryText
import VerilogLibrary.Proofs.Separators

/-!
# The text of a library determines the library

Read from the front, a text leaves no choice. A section opens with a slash
and a module with an `m`, so after each module it is clear whether another one
follows. Within a module a name ends at the first blank, for an identifier has
none; a default at the first comma or parenthesis, for a number has neither;
and an expression, with the semicolon behind it, at the first line break, for
that is what is asked of it. Everything else is fixed by the section. The
cancellation lemmas say this for a text with any rest behind it, and three
inductions put them together: over the modules of a section, over the
sections of the operations, and over the registers, of which the first that
can be reset shows the reset value.

The same view shows what the text does not say. Of an operation only the name
of its module and its expression are written, category by category, so it is
invisible how the operations of different categories were interleaved.
-/

namespace VerilogLibrary

/-- What a library shows of the operations of a category, in order: the name of
the module, and the expression. -/
def Catalog.signature (c : Catalog) (k : Category) : List (String × String) :=
  (c.entries k).map fun op => (op.moduleName, op.expr)

/-- The module of an operation, from what a library shows of it. -/
def Category.decl (k : Category) (o : Options) (shown : String × String) : ModuleDecl where
  name := shown.1
  parameters := [⟨widthParameter, some o.widthText⟩]
  ports := k.ports
  body? := some s!"  assign out = {shown.2};"

/-! ## Modules in front of a rest -/

/-- The text of a module behind its parameters. -/
def ModuleDecl.tailText (m : ModuleDecl) : String :=
  "(\n" ++ ",\n".intercalate m.portLines ++ "\n);\n" ++ m.body?.getD "" ++ "\nendmodule\n\n"

theorem ModuleDecl.text_eq (m : ModuleDecl) :
    m.text = "module " ++ m.name ++ " " ++ m.parameterBlock ++ m.tailText := by
  unfold text tailText
  simp only [String.append_assoc]

/-- A module whose only parameter is the width: its name ends at a blank, the
default at a parenthesis. -/
theorem ModuleDecl.text_append_of_width {m : ModuleDecl} {width : String}
    (h : m.parameters = [⟨widthParameter, some width⟩]) (r : List Char) :
    m.text.toList ++ r =
      "module ".toList ++ (m.name.toList ++ ' ' :: ("#(parameter WIDTH=".toList
        ++ (width.toList ++ ')' :: ' ' :: (m.tailText.toList ++ r)))) := by
  have hblock : m.parameterBlock = "#(" ++ ("parameter WIDTH=" ++ width) ++ ") " := by
    rw [parameterBlock, h]
    rfl
  rw [text_eq, hblock]
  simp only [String.toList_append, List.append_assoc]
  rfl

theorem ModuleDecl.text_append_of_init {m : ModuleDecl} {width init : String}
    (h : m.parameters = [⟨widthParameter, some width⟩, ⟨initParameter, some init⟩])
    (r : List Char) :
    m.text.toList ++ r =
      "module ".toList ++ (m.name.toList ++ (" #(parameter WIDTH=".toList
        ++ (width.toList ++ (",parameter INIT=".toList
          ++ (init.toList ++ ')' :: ' ' :: (m.tailText.toList ++ r)))))) := by
  have hblock : m.parameterBlock =
      "#(" ++ ("parameter WIDTH=" ++ width ++ "," ++ ("parameter INIT=" ++ init)) ++ ") " := by
    rw [parameterBlock, h]
    rfl
  rw [text_eq, hblock]
  simp only [String.toList_append, List.append_assoc]
  rfl

/-! ## The sections of the operations -/

/-- An operation as a library can show it: its module is named by an identifier,
and its expression stays on one line. -/
structure IsShown (shown : String × String) : Prop where
  name : Text.isIdentifier shown.1 = true
  expr : '\n' ∉ shown.2.toList

/-- What stands between the parameters of an operation's module and its expression. -/
def Category.frame (k : Category) : List Char :=
  "(\n".toList ++ (",\n".intercalate ((k.ports.map Port.line).mergeSort ModuleDecl.lineLE)).toList
    ++ "\n);\n  assign out = ".toList

theorem Category.tailText_append (k : Category) (o : Options) (shown : String × String)
    (r : List Char) :
    (k.decl o shown).tailText.toList ++ r =
      k.frame ++ ((shown.2.toList ++ [';']) ++ '\n' :: ("endmodule\n\n".toList ++ r)) := by
  have htail : (k.decl o shown).tailText =
      "(\n" ++ ",\n".intercalate ((k.ports.map Port.line).mergeSort ModuleDecl.lineLE) ++ "\n);\n"
        ++ ("  assign out = " ++ shown.2 ++ ";") ++ "\nendmodule\n\n" := rfl
  rw [htail, frame]
  simp only [String.toList_append, List.append_assoc]
  rfl

theorem Category.text_append_inj {k : Category} {o₁ o₂ : Options}
    {shown₁ shown₂ : String × String} {r₁ r₂ : List Char} (h₁ : IsShown shown₁)
    (h₂ : IsShown shown₂)
    (h : (k.decl o₁ shown₁).text.toList ++ r₁ = (k.decl o₂ shown₂).text.toList ++ r₂) :
    shown₁ = shown₂ ∧ r₁ = r₂ := by
  rw [ModuleDecl.text_append_of_width rfl, ModuleDecl.text_append_of_width rfl] at h
  obtain ⟨hname, h⟩ := eq_of_append_separator (notMem_of_isIdentifier h₁.name (by decide))
    (notMem_of_isIdentifier h₂.name (by decide)) (List.append_cancel_left h)
  -- The widths are read past: they come out equal, but only the multiplexer is asked for them.
  obtain ⟨-, h⟩ := eq_of_append_separator (notMem_toString (by decide))
    (notMem_toString (by decide)) (List.append_cancel_left h)
  rw [tailText_append, tailText_append] at h
  have hline : ∀ {shown : String × String}, IsShown shown → '\n' ∉ shown.2.toList ++ [';'] := by
    intro shown hshown hmem
    rcases List.mem_append.mp hmem with hmem | hmem
    · exact hshown.expr hmem
    · exact absurd (List.mem_singleton.mp hmem) (by decide)
  obtain ⟨hexpr, h⟩ := eq_of_append_separator (hline h₁) (hline h₂)
    (List.append_cancel_left (List.tail_eq_of_cons_eq h))
  exact ⟨Prod.ext (String.toList_inj.mp hname)
    (String.toList_inj.mp (List.append_cancel_right hexpr)), List.append_cancel_left h⟩

theorem Category.head?_text_append (k : Category) (o : Options) (shown : String × String)
    (r : List Char) : ((k.decl o shown).text.toList ++ r).head? = some 'm' := by
  rw [ModuleDecl.text_append_of_width rfl]
  rfl

/-- The modules of a section, in front of a text that opens with a slash. -/
theorem Category.flatMap_text_append_inj {k : Category} {o₁ o₂ : Options}
    {shown₁ shown₂ : List (String × String)} {r₁ r₂ : List Char}
    (h₁ : ∀ x ∈ shown₁, IsShown x) (h₂ : ∀ x ∈ shown₂, IsShown x)
    (hr₁ : r₁.head? = some '/') (hr₂ : r₂.head? = some '/')
    (h : (shown₁.flatMap fun x => (k.decl o₁ x).text.toList) ++ r₁
      = (shown₂.flatMap fun x => (k.decl o₂ x).text.toList) ++ r₂) :
    shown₁ = shown₂ ∧ r₁ = r₂ := by
  induction shown₁ generalizing shown₂ with
  | nil =>
      cases shown₂ with
      | nil => exact ⟨rfl, h⟩
      | cons y rest =>
          have hhead := congrArg List.head? h
          rw [List.flatMap_nil, List.nil_append, hr₁, List.flatMap_cons, List.append_assoc,
            head?_text_append] at hhead
          exact absurd hhead (by decide)
  | cons x rest ih =>
      cases shown₂ with
      | nil =>
          have hhead := congrArg List.head? h
          rw [List.flatMap_nil, List.nil_append, hr₂, List.flatMap_cons, List.append_assoc,
            head?_text_append] at hhead
          exact absurd hhead (by decide)
      | cons y rest' =>
          rw [List.flatMap_cons, List.flatMap_cons, List.append_assoc, List.append_assoc] at h
          obtain ⟨hx, hrest⟩ := List.forall_mem_cons.mp h₁
          obtain ⟨hy, hrest'⟩ := List.forall_mem_cons.mp h₂
          obtain ⟨rfl, htail⟩ := text_append_inj hx hy h
          obtain ⟨rfl, hr⟩ := ih hrest hrest' htail
          exact ⟨rfl, hr⟩

/-- The section of a category, from what it shows. -/
def Category.sectionText (k : Category) (o : Options) (shown : List (String × String)) :
    List Char :=
  (Section.operations k).header.toList
    ++ '\n' :: shown.flatMap fun x => (k.decl o x).text.toList

theorem Category.head?_sectionText_append (k : Category) (o : Options)
    (shown : List (String × String)) (r : List Char) :
    (k.sectionText o shown ++ r).head? = some '/' := by
  cases k <;> rfl

theorem sections_append_inj {o₁ o₂ : Options} {f₁ f₂ : Category → List (String × String)}
    {r₁ r₂ : List Char} (h₁ : ∀ k, ∀ x ∈ f₁ k, IsShown x) (h₂ : ∀ k, ∀ x ∈ f₂ k, IsShown x)
    (hr₁ : r₁.head? = some '/') (hr₂ : r₂.head? = some '/') (ks : List Category)
    (h : (ks.flatMap fun k => k.sectionText o₁ (f₁ k)) ++ r₁
      = (ks.flatMap fun k => k.sectionText o₂ (f₂ k)) ++ r₂) :
    (∀ k ∈ ks, f₁ k = f₂ k) ∧ r₁ = r₂ := by
  have hhead : ∀ (o : Options) (f : Category → List (String × String)) (ks : List Category)
      {r : List Char}, r.head? = some '/' →
      ((ks.flatMap fun k => k.sectionText o (f k)) ++ r).head? = some '/' := by
    intro o f ks r hr
    cases ks with
    | nil => exact hr
    | cons k rest =>
        rw [List.flatMap_cons, List.append_assoc]
        exact k.head?_sectionText_append o (f k) _
  induction ks with
  | nil => exact ⟨fun k hk => absurd hk List.not_mem_nil, h⟩
  | cons k rest ih =>
      simp only [List.flatMap_cons, Category.sectionText, List.append_assoc,
        List.cons_append] at h
      have h := List.tail_eq_of_cons_eq (List.append_cancel_left h)
      obtain ⟨hk, h⟩ := Category.flatMap_text_append_inj (h₁ k) (h₂ k)
        (hhead o₁ f₁ rest hr₁) (hhead o₂ f₂ rest hr₂) h
      obtain ⟨hrest, hr⟩ := ih h
      exact ⟨List.forall_mem_cons.mpr ⟨hk, hrest⟩, hr⟩

/-! ## The sections of the multiplexer and of the registers

Both depend on the options only, and both options can be read off: the width
from the multiplexer, the reset value from any register that takes it. -/

/-- The text behind the sections of the operations. -/
def closingText (o : Options) : List Char :=
  Section.multiplexer.header.toList ++ '\n' :: ((multiplexer o).text.toList
    ++ (Section.registers.header.toList
      ++ '\n' :: Register.variants.flatMap fun r => (r.decl o).text.toList))

theorem head?_closingText (o : Options) : (closingText o).head? = some '/' := rfl

theorem multiplexer_append_inj {o₁ o₂ : Options} {r₁ r₂ : List Char}
    (h : (multiplexer o₁).text.toList ++ r₁ = (multiplexer o₂).text.toList ++ r₂) :
    o₁.width = o₂.width := by
  rw [ModuleDecl.text_append_of_width rfl, ModuleDecl.text_append_of_width rfl] at h
  have hname := List.append_cancel_left (List.append_cancel_left h)
  have hwidth := List.append_cancel_left (List.tail_eq_of_cons_eq hname)
  obtain ⟨heq, -⟩ := eq_of_append_separator (notMem_toString (by decide))
    (notMem_toString (by decide)) hwidth
  exact UInt32.toNat_inj.mp (toString_inj heq)

theorem multiplexer_congr {o₁ o₂ : Options} (h : o₁.width = o₂.width) :
    multiplexer o₁ = multiplexer o₂ := by
  rw [multiplexer, multiplexer, Options.widthText, Options.widthText, h]

theorem Register.parameters_decl {r : Register} (h : r.hasInit = true) (o : Options) :
    (r.decl o).parameters =
      [⟨widthParameter, some o.widthText⟩, ⟨initParameter, some o.initText⟩] := by
  rw [r.decl_eq, if_pos h]

theorem Register.decl_congr {r : Register} (h : r.hasInit = false) {o₁ o₂ : Options}
    (hwidth : o₁.width = o₂.width) : r.decl o₁ = r.decl o₂ := by
  rw [r.decl_eq, r.decl_eq, Options.widthText, Options.widthText, hwidth, h]
  rfl

theorem Register.text_append_inj {r : Register} (hinit : r.hasInit = true) {o₁ o₂ : Options}
    (hwidth : o₁.width = o₂.width) {r₁ r₂ : List Char}
    (h : (r.decl o₁).text.toList ++ r₁ = (r.decl o₂).text.toList ++ r₂) :
    o₁.init = o₂.init := by
  have hname : ∀ o, (r.decl o).name = r.moduleName := fun o => by rw [r.decl_eq]
  rw [ModuleDecl.text_append_of_init (r.parameters_decl hinit o₁),
    ModuleDecl.text_append_of_init (r.parameters_decl hinit o₂), hname, hname,
    Options.widthText, Options.widthText, hwidth] at h
  have hfront := List.append_cancel_left (List.append_cancel_left (List.append_cancel_left h))
  have hvalue := List.append_cancel_left (List.append_cancel_left hfront)
  obtain ⟨heq, -⟩ := eq_of_append_separator (notMem_toString (by decide))
    (notMem_toString (by decide)) hvalue
  exact UInt64.toNat_inj.mp (toString_inj heq)

theorem init_eq_of_registers {rs : List Register} (hrs : ∃ r ∈ rs, r.hasInit = true)
    {o₁ o₂ : Options} (hwidth : o₁.width = o₂.width)
    (h : (rs.flatMap fun r => (r.decl o₁).text.toList)
      = rs.flatMap fun r => (r.decl o₂).text.toList) :
    o₁.init = o₂.init := by
  induction rs with
  | nil =>
      obtain ⟨r, hr, _⟩ := hrs
      exact absurd hr List.not_mem_nil
  | cons r rest ih =>
      rw [List.flatMap_cons, List.flatMap_cons] at h
      by_cases hinit : r.hasInit = true
      · exact Register.text_append_inj hinit hwidth h
      · -- The module does not show the reset value, so it is the same in both texts.
        rw [Register.decl_congr (Bool.eq_false_of_not_eq_true hinit) hwidth] at h
        refine ih ?_ (List.append_cancel_left h)
        obtain ⟨s, hs, hsinit⟩ := hrs
        rcases List.mem_cons.mp hs with rfl | hs
        · exact absurd hsinit hinit
        · exact ⟨s, hs, hsinit⟩

theorem closingText_inj {o₁ o₂ : Options} (h : closingText o₁ = closingText o₂) : o₁ = o₂ := by
  have hmux := List.tail_eq_of_cons_eq (List.append_cancel_left h)
  have hwidth := multiplexer_append_inj hmux
  rw [multiplexer_congr hwidth] at hmux
  have hregisters := List.append_cancel_left (List.append_cancel_left hmux)
  have hinit := init_eq_of_registers (by decide) hwidth (List.tail_eq_of_cons_eq hregisters)
  obtain ⟨width₁, init₁⟩ := o₁
  obtain ⟨width₂, init₂⟩ := o₂
  exact congrArg₂ Options.mk hwidth hinit

/-! ## Libraries -/

theorem decls_operations (c : Catalog) (o : Options) (k : Category) :
    Section.decls c o (.operations k) = (c.signature k).map (k.decl o) := by
  rw [Section.decls, Catalog.signature, List.map_map]
  refine List.map_congr_left fun op hop => ?_
  have hcategory : op.category = k := by simpa using (List.mem_filter.mp hop).2
  rw [op.decl_eq, hcategory]
  rfl

/-- Only what is shown of a catalog matters for its libraries, whether they
have a text or a fault. -/
theorem renderLibrary_congr {c₁ c₂ : Catalog} (h : ∀ k, c₁.signature k = c₂.signature k)
    (o : Options) : renderLibrary c₁ o = renderLibrary c₂ o := by
  have hpieces : pieces c₁ o = pieces c₂ o := by
    refine congrArg Section.all.flatMap (funext fun s => ?_)
    cases s with
    | operations k => rw [Section.pieces, Section.pieces, decls_operations, decls_operations, h k]
    | multiplexer | registers => rfl
  rw [renderLibrary, renderLibrary, hpieces]

theorem toList_libraryText_signature (c : Catalog) (o : Options) :
    (libraryText c o).toList =
      (Category.all.flatMap fun k => k.sectionText o (c.signature k)) ++ closingText o := by
  have hoperations : ∀ k : Category, k.sectionText o (c.signature k) =
      (Section.operations k).header.toList ++ '\n' ::
        (Section.decls c o (.operations k)).flatMap fun m => m.text.toList := by
    intro k
    rw [decls_operations, List.flatMap_map, Category.sectionText]
  have hclosing : closingText o = [Section.multiplexer, Section.registers].flatMap fun s =>
      s.header.toList ++ '\n' :: (s.decls c o).flatMap fun m => m.text.toList := by
    rw [List.flatMap_cons, List.flatMap_singleton, Section.decls, Section.decls,
      List.flatMap_singleton, List.flatMap_map, List.append_assoc]
    rfl
  rw [toList_libraryText, Section.all, List.flatMap_append, List.flatMap_map, hclosing]
  simp only [hoperations]

theorem isShown_of_mem_signature {c : Catalog} {o : Options} {t : String}
    (hexpr : ∀ op ∈ c.operations, '\n' ∉ op.expr.toList) (ht : renderLibrary c o = .ok t)
    (k : Category) : ∀ shown ∈ c.signature k, IsShown shown := by
  intro shown hshown
  obtain ⟨op, hop, rfl⟩ := List.mem_map.mp hshown
  have hmem : op ∈ c.operations := (List.mem_filter.mp hop).1
  exact ⟨(renderLibrary_eq_ok_iff.mp ht).1 op hmem, hexpr op hmem⟩

/-- Two libraries have one text exactly if they have the same options and show,
category by category, the same operations in the same order. This is asked of
any catalogs whose expressions stay on one line, whether or not calls lead to
them. -/
theorem renderLibrary_text_eq_iff {c₁ c₂ : Catalog} {o₁ o₂ : Options} {t₁ t₂ : String}
    (hexpr₁ : ∀ op ∈ c₁.operations, '\n' ∉ op.expr.toList)
    (hexpr₂ : ∀ op ∈ c₂.operations, '\n' ∉ op.expr.toList)
    (ht₁ : renderLibrary c₁ o₁ = .ok t₁) (ht₂ : renderLibrary c₂ o₂ = .ok t₂) :
    t₁ = t₂ ↔ o₁ = o₂ ∧ ∀ k, c₁.signature k = c₂.signature k := by
  constructor
  · intro heq
    have htext : (libraryText c₁ o₁).toList = (libraryText c₂ o₂).toList := by
      rw [← (renderLibrary_eq_ok_iff.mp ht₁).2, ← (renderLibrary_eq_ok_iff.mp ht₂).2, heq]
    rw [toList_libraryText_signature, toList_libraryText_signature] at htext
    obtain ⟨hsignature, hclosing⟩ := sections_append_inj (isShown_of_mem_signature hexpr₁ ht₁)
      (isShown_of_mem_signature hexpr₂ ht₂) (head?_closingText o₁) (head?_closingText o₂) _ htext
    exact ⟨closingText_inj hclosing, fun k => hsignature k k.mem_all⟩
  · rintro ⟨rfl, hsignature⟩
    rw [renderLibrary_congr hsignature, ht₂] at ht₁
    exact (Except.ok.inj ht₁).symm

/-- Operations of two categories, added in either order. -/
theorem renderLibrary_text_eq_interleaved :
    let inc : Operation := ⟨.unary, "inc", "in + 1"⟩
    let nand : Operation := ⟨.binary, "nand", "~(in0 & in1)"⟩
    ∃ t₁ t₂, renderLibrary (Catalog.standard.run [.push inc, .push nand]) {} = .ok t₁ ∧
      renderLibrary (Catalog.standard.run [.push nand, .push inc]) {} = .ok t₂ ∧ t₁ = t₂ := by
  intro inc nand
  have ht₁ := renderLibrary_eq_ok_iff (c := Catalog.standard.run [.push inc, .push nand])
    (o := {}).mpr ⟨by decide +kernel, rfl⟩
  have ht₂ := renderLibrary_eq_ok_iff (c := Catalog.standard.run [.push nand, .push inc])
    (o := {}).mpr ⟨by decide +kernel, rfl⟩
  refine ⟨_, _, ht₁, ht₂, ?_⟩
  refine (renderLibrary_text_eq_iff (by decide +kernel) (by decide +kernel) ht₁ ht₂).mpr ⟨rfl, ?_⟩
  intro k
  cases k <;> decide +kernel

end VerilogLibrary
