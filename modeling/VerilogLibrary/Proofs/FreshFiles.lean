import VerilogLibrary.Proofs.DecodedText
import VerilogLibrary.Proofs.FileWrites
import VerilogLibrary.Proofs.Outline
import VerilogLibrary.Proofs.PortLines
import VerilogLibrary.Proofs.StreamedLibrary
import VerilogLibrary.Session

/-!
# A file that was generated is up to date

Generating and checking come to the text of a library in two ways: one streams
it into the file and hashes it on the way, the other renders it as a whole and
hashes it at once. Both hash the bytes of one text, since to render a library is
to stream it into memory and to decode the bytes again. So a file that was just
generated is up to date, and any other content is judged by its hash alone.
Where a module is faulty, the file holds what stands before it, and the check
reports the same fault without a look at the content.

What the file held before plays no part, and neither does how its directory
came to be there. All that is asked is that the file can be created.
-/

namespace VerilogLibrary

namespace FileTree

/-- The file of a path can be created: its directory is there or can be made, and a file of no
content can be put into it. -/
def CanCreate (t : FileTree) (cwd : Place) (path : String) : Prop :=
  ∃ t₁ t₂, ((files cwd).makeParent path).run t = (.ok (), t₁) ∧ t₁.write cwd path [] = .ok t₂

theorem exists_ok_of_isOk {ε α : Type} {x : Except ε α} (h : x.isOk = true) : ∃ a, x = .ok a := by
  cases x with
  | error e => cases h
  | ok a => exact ⟨a, rfl⟩

theorem canCreate_of_isOk {t : FileTree} {cwd : Place} {path : String}
    (hparent : (((files cwd).makeParent path).run t).1.isOk = true)
    (hwrite : ((((files cwd).makeParent path).run t).2.write cwd path []).isOk = true) :
    t.CanCreate cwd path := by
  obtain ⟨⟨⟩, hparent⟩ := exists_ok_of_isOk hparent
  obtain ⟨t₂, hwrite⟩ := exists_ok_of_isOk hwrite
  exact ⟨_, t₂, Prod.ext hparent rfl, hwrite⟩

end FileTree

open FileTree (files)

/-! ## The two ways to the text -/

theorem writeLibrary_unlimited (c : Catalog) (o : Options) :
    writeLibrary c o .unlimited =
      (Sink.unlimited.take (soundBytes c o),
        match firstFault? c o with
        | some e => .error e
        | none => .ok
            { modules := (plan c o).map (·.2.name)
              bytes := (soundBytes c o).length
              hash := .ofBytes (soundBytes c o) }) := by
  have hroom : Sink.unlimited.HasRoom (soundBytes c o).length := fun _ hsome => by cases hsome
  have hflush : Sink.unlimited.flushFailure? = none := rfl
  rw [writeLibrary_of_hasRoom (by decide) hroom, hflush]
  cases firstFault? c o <;> rfl

theorem writeLibrary_unlimited_of_error {c : Catalog} {o : Options} {e : LibraryError}
    (h : renderLibrary c o = .error e) :
    writeLibrary c o .unlimited = (Sink.unlimited.take (soundBytes c o), .error e) := by
  rw [writeLibrary_unlimited, renderLibrary_eq_error_iff.mp h]

theorem writeLibrary_unlimited_of_ok {c : Catalog} {o : Options} {text : String}
    (h : renderLibrary c o = .ok text) :
    ∃ summary, writeLibrary c o .unlimited =
        (Sink.unlimited.take (soundBytes c o), .ok summary) ∧
      summary.hash = .ofText text := by
  have hfault : firstFault? c o = none := by
    cases hfault : firstFault? c o with
    | none => rfl
    | some e =>
        rw [renderLibrary_eq_error_iff.mpr hfault] at h
        cases h
  rw [writeLibrary_unlimited, hfault]
  refine ⟨_, rfl, ?_⟩
  rw [soundBytes_of_renderLibrary h, ContentHash.ofText]

theorem received_unlimited_take (bytes : List UInt8) :
    (Sink.unlimited.take bytes).received = bytes :=
  (Sink.unlimited.received_take bytes).trans (List.nil_append bytes)

/-- Rendering gives what one gets by writing to a sink that takes everything and
decoding the bytes that it has received. -/
theorem renderLibrary_eq_decodeLossy (c : Catalog) (o : Options) :
    renderLibrary c o =
      (writeLibrary c o .unlimited).2.map fun _ =>
        Text.Utf8.decodeLossy (writeLibrary c o .unlimited).1.received := by
  cases hrender : renderLibrary c o with
  | error e =>
      rw [writeLibrary_unlimited_of_error hrender]
      rfl
  | ok text =>
      obtain ⟨summary, hlibrary, -⟩ := writeLibrary_unlimited_of_ok hrender
      rw [hlibrary, received_unlimited_take, soundBytes_of_renderLibrary hrender]
      exact congrArg Except.ok (Text.Utf8.decodeLossy_utf8 text).symm

/-! ## The two commands -/

variable {t t₁ t₂ : FileTree} {cwd : Place} {path : String} {c : Catalog} {o : Options}

theorem run_generate (hparent : ((files cwd).makeParent path).run t = (.ok (), t₁))
    (hwrite : t₁.write cwd path (soundBytes c o) = .ok t₂) :
    ((files cwd).generate c o path).run t =
      ((writeLibrary c o .unlimited).2.mapError .library, t₂) := by
  have hfile : ((files cwd).write path (soundBytes c o)).run t₁ = (.ok (), t₂) := by
    simp only [files, FileTree.update, StateT.run_bind, StateT.run_get, pure_bind, hwrite]
    rfl
  rw [Files.generate, run_bind_of_run hparent]
  simp only [writeLibrary_unlimited, received_unlimited_take]
  rw [run_bind_of_run hfile]
  rfl

/-- Where a file can be created, generating puts the sound bytes into it and
reports what writing the library to an unlimited sink reports. -/
theorem exists_run_generate (h : t.CanCreate cwd path) (c : Catalog) (o : Options) :
    ∃ t', t'.Holds cwd path (soundBytes c o) ∧
      ((files cwd).generate c o path).run t =
        ((writeLibrary c o .unlimited).2.mapError .library, t') := by
  obtain ⟨t₁, t₂, hparent, hcreate⟩ := h
  obtain ⟨t', hwrite⟩ := FileTree.exists_write hcreate (soundBytes c o)
  exact ⟨t', FileTree.holds_of_write hwrite, run_generate hparent hwrite⟩

theorem hash_of_run_generate {t' : FileTree} {summary : Summary} {text : String}
    (h : t.CanCreate cwd path) (hrender : renderLibrary c o = .ok text)
    (hrun : ((files cwd).generate c o path).run t = (.ok summary, t')) :
    summary.hash = .ofText text := by
  obtain ⟨t₁, -, hgenerate⟩ := exists_run_generate h c o
  obtain ⟨summary', hlibrary, hhash⟩ := writeLibrary_unlimited_of_ok hrender
  rw [hlibrary, hrun] at hgenerate
  cases hgenerate
  exact hhash

theorem run_exists? {content : List UInt8} (h : t.Holds cwd path content) :
    ((files cwd).exists? path).run t = (true, t) :=
  FileTree.run_exists?_of_kind? h.kind

theorem run_check_of_error {content : List UInt8} {e : LibraryError}
    (h : t.Holds cwd path content) (hrender : renderLibrary c o = .error e) :
    ((files cwd).check c o path).run t = (.error (.library e), t) := by
  rw [Files.check, run_bind_of_run (run_exists? h), hrender]
  rfl

theorem run_check_of_ok {content : List UInt8} {text : String} (h : t.Holds cwd path content)
    (hrender : renderLibrary c o = .ok text) :
    ((files cwd).check c o path).run t =
      (.ok (if .ofText text = ContentHash.ofBytes content then .upToDate (.ofBytes content)
        else .stale (.ofText text) (.ofBytes content)), t) := by
  have hread := FileTree.run_read t cwd path
  rw [h.read] at hread
  rw [Files.check, run_bind_of_run (run_exists? h), hrender]
  exact run_bind_of_run hread

/-! ## The agreement -/

/-- What generating leaves behind where the file can be created, whatever was
there before. The file holds the bytes in front of the first faulty module. A
library with a fault is reported alike by generating and by checking. Of any
other the file holds the text, checking finds it up to date with the hash that
generating reported, and finds other bytes put into the file up to date exactly
if they have the same hash. -/
theorem check_after_generate {t : FileTree} {cwd : Place} {path : String}
    (h : t.CanCreate cwd path) (c : Catalog) (o : Options) :
    ∃ t' result, ((files cwd).generate c o path).run t = (result, t') ∧
      t'.read cwd path = .ok (soundBytes c o) ∧
      match renderLibrary c o with
      | .error e =>
        result = .error (.library e) ∧
          ((files cwd).check c o path).run t' = (.error (.library e), t')
      | .ok text =>
        soundBytes c o = Text.utf8 text ∧
          ∃ summary, result = .ok summary ∧
            ((files cwd).check c o path).run t' = (.ok (.upToDate summary.hash), t') ∧
            ∀ bytes, ∃ t'', t'.write cwd path bytes = .ok t'' ∧
              t''.read cwd path = .ok bytes ∧
              ((files cwd).check c o path).run t'' =
                (.ok (if .ofBytes bytes = summary.hash then .upToDate (.ofBytes bytes)
                  else .stale summary.hash (.ofBytes bytes)), t'') := by
  obtain ⟨t', hholds, hgenerate⟩ := exists_run_generate h c o
  cases hrender : renderLibrary c o with
  | error e =>
      rw [writeLibrary_unlimited_of_error hrender] at hgenerate
      exact ⟨t', _, hgenerate, hholds.read, rfl, run_check_of_error hholds hrender⟩
  | ok text =>
      obtain ⟨summary, hlibrary, hhash⟩ := writeLibrary_unlimited_of_ok hrender
      have htext := soundBytes_of_renderLibrary hrender
      rw [hlibrary] at hgenerate
      refine ⟨t', _, hgenerate, hholds.read, htext, summary, rfl, ?_, fun bytes => ?_⟩
      · have hsame : ContentHash.ofBytes (soundBytes c o) = .ofText text := by
          rw [htext, ContentHash.ofText]
        rw [run_check_of_ok hholds hrender, hsame, if_pos rfl, hhash]
      · obtain ⟨t'', hwrite⟩ := hholds.rewritable bytes
        have hholds' := FileTree.holds_of_write hwrite
        refine ⟨t'', hwrite, hholds'.read, ?_⟩
        rw [run_check_of_ok hholds' hrender, hhash]
        simp only [eq_comm]

/-- The path of the first run makes a detour through a directory that is there, into one that is
not, and a module has a name that is no identifier. The second run replaces an older and longer
file. It is up to date then, and is stale once the older content is back. -/
theorem check_after_generate_detour :
    let nested : FileTree := ⟨.directory [("tmp", .directory [("old", .directory [])])]⟩
    let faulty := Catalog.empty.run [.push ⟨.unary, "not", "~in"⟩, .push ⟨.binary, "1st", "in0"⟩]
    let e : LibraryError := .faulty "1st" (.invalidName "1st")
    let older : List UInt8 := List.replicate 3500 0x20
    let filled : FileTree := ⟨.directory [("lib.v", .file older)]⟩
    let sound := Catalog.empty.run [.push ⟨.unary, "not", "~in"⟩]
    (nested.CanCreate ["tmp"] "old/../new/lib.v" ∧
      ∃ t', ((files ["tmp"]).generate faulty {} "old/../new/lib.v").run nested =
          (.error (.library e), t') ∧
        t'.read ["tmp"] "old/../new/lib.v" = .ok (soundBytes faulty {}) ∧
        ((files ["tmp"]).check faulty {} "old/../new/lib.v").run t' =
          (.error (.library e), t')) ∧
    filled.CanCreate [] "lib.v" ∧ (soundBytes sound {}).length < older.length ∧
      ∃ t' summary, ((files []).generate sound {} "lib.v").run filled = (.ok summary, t') ∧
        t'.read [] "lib.v" = .ok (soundBytes sound {}) ∧
        ((files []).check sound {} "lib.v").run t' = (.ok (.upToDate summary.hash), t') ∧
        ∃ t'', t'.write [] "lib.v" older = .ok t'' ∧
          ((files []).check sound {} "lib.v").run t'' =
            (.ok (.stale summary.hash (.ofBytes older)), t'') := by
  intro nested faulty e older filled sound
  refine ⟨?_, ?_⟩
  · have hcreate : nested.CanCreate ["tmp"] "old/../new/lib.v" :=
      FileTree.canCreate_of_isOk (by decide +kernel) (by decide +kernel)
    have hrender : renderLibrary faulty {} = .error e := by
      rw [renderLibrary_eq_error_iff, firstFault?_eq]
      decide +kernel
    obtain ⟨t', result, hgenerate, hread, hcase⟩ := check_after_generate hcreate faulty {}
    rw [hrender] at hcase
    obtain ⟨rfl, hcheck⟩ := hcase
    exact ⟨hcreate, t', hgenerate, hread, hcheck⟩
  · have hcreate : filled.CanCreate [] "lib.v" :=
      FileTree.canCreate_of_isOk (by decide +kernel) (by decide +kernel)
    have hrender : renderLibrary sound {} = .ok (libraryText sound {}) :=
      renderLibrary_eq_ok_iff.mpr ⟨by decide +kernel, rfl⟩
    obtain ⟨hlonger, hdiffers⟩ : (Text.utf8 (libraryText sound {})).length < older.length ∧
        ContentHash.ofBytes older ≠ .ofText (libraryText sound {}) := by
      rw [ContentHash.ofText, Text.utf8, toList_libraryText]
      -- Merging is by well-founded recursion and does not evaluate, and a string evaluates
      -- slowly; so the text is put as a list of characters, with the ports sorted by insertion.
      simp only [Section.all, Category.all, List.map_cons, List.map_nil, List.cons_append,
        List.nil_append, List.flatMap_cons, List.flatMap_nil, Section.decls, List.flatMap_map,
        ModuleDecl.text, ModuleDecl.portLines_eq_insertionSort, ModuleDecl.parameterBlock,
        List.isEmpty_cons, Bool.false_eq_true, reduceIte, Option.getD_some, Register.decl_eq,
        Register.body_eq, Register.bodyLines, List.map_append, apply_ite (List.map String.toList),
        String.toList_intercalate, String.toList_append, String.reduceToList, List.append_assoc]
      decide +kernel
    have hrun := check_after_generate hcreate sound {}
    rw [hrender] at hrun
    obtain ⟨t', _, hgenerate, hread, hbytes, summary, rfl, hcheck, hother⟩ := hrun
    obtain ⟨t'', hwrite, -, hcheck'⟩ := hother older
    have hhash := hash_of_run_generate hcreate hrender hgenerate
    rw [hhash, if_neg hdiffers, ← hhash] at hcheck'
    rw [← hbytes] at hlonger
    exact ⟨hcreate, hlonger, t', summary, hgenerate, hread, hcheck, t'', hwrite, hcheck'⟩

end VerilogLibrary
