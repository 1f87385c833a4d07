import VerilogLibrary.Program
import VerilogLibrary.Proofs.JoinedPaths

/-!
# One configuration by several names

A session can be opened by a directory or by the configuration file in it, and in
the working directory by the bare name of the file or by no name at all. The
program comes to the directory of the session in three ways: it takes it as it is
given, it takes the parent of the file, or it asks the system. The texts that
come out differ; the parent of a bare name is even empty. But they are spellings
of one directory, so that an output path counts from the same place, and all else
about the session depends on the content of the file alone.

A directory holds a configuration file if the path that joins the two leads to
one, which is how the program looks for it. Of the working directory this is asked
by the path that the system gives for it as well, since a system takes no paths
beyond a certain length and that one can be long.
-/

namespace VerilogLibrary

open FileTree (files)

namespace Session

/-- Two attempts that fail for the same reason, or that open sessions of one configuration, one
catalog and the same options. -/
inductive Alike (related : Session → Session → Prop) :
    Except CommandError Session → Except CommandError Session → Prop
  | failed (e : CommandError) : Alike related (.error e) (.error e)
  | opened {s s' : Session} : s'.config = s.config → s'.catalog = s.catalog →
      s'.options = s.options → related s s' → Alike related (.ok s) (.ok s')

theorem alike_ofLoaded {related : Session → Session → Prop} {root root' : String}
    (h : ∀ config catalog options,
      related ⟨config, catalog, options, root⟩ ⟨config, catalog, options, root'⟩)
    (loaded : Except ConfigError Config) :
    Alike related (ofLoaded root loaded) (ofLoaded root' loaded) := by
  cases loaded with
  | error e => exact .failed _
  | ok config =>
      show Alike related (ofConfig config root) (ofConfig config root')
      rw [ofConfig, ofConfig]
      cases config.catalog with
      | error collision => exact .failed _
      | ok catalog => exact .opened rfl rfl rfl (h _ _ _)

/-- What holds of all that is joined to two roots holds of the output paths. -/
theorem outputPath_of_join {P : String → String → Prop} (hrefl : ∀ path, P path path)
    {s s' : Session} (hconfig : s'.config = s.config)
    (hjoin : ∀ path, P (Path.join s.root path) (Path.join s'.root path))
    (given? : Option String) : P (s.outputPath given?) (s'.outputPath given?) := by
  cases given? with
  | none =>
      rw [outputPath, outputPath, Option.getD_none, Option.getD_none, hconfig]
      exact hjoin _
  | some path => exact hrefl path

/-- Sessions with one root, in whatever spelling, and with the same output paths. -/
def SharesPaths (s s' : Session) : Prop :=
  Path.components s.root = Path.components s'.root ∧
    ∀ given?, Path.components (s.outputPath given?) = Path.components (s'.outputPath given?)

end Session

namespace FileTree

variable {t : FileTree} {cwd : Place}

/-- A directory with a configuration file. -/
structure HoldsConfig (t : FileTree) (cwd : Place) (base : String) : Prop where
  directory : t.kind? cwd base = some .directory
  file : t.kind? cwd (Path.join base configFileName) = some .file

/-- Output paths of two sessions name the same file. -/
def SharesOutputs (t : FileTree) (cwd : Place) (s s' : Session) : Prop :=
  ∀ given?, t.NamesSame cwd (s.outputPath given?) (s'.outputPath given?)

/-- Opening a session leaves the files as they are, and comes out as it did another time. -/
def OpensAlike (t : FileTree) (related : Session → Session → Prop)
    (outcome : Except CommandError Session)
    (opening : StateM FileTree (Except CommandError Session)) : Prop :=
  ∃ outcome', opening.run t = (outcome', t) ∧ Session.Alike related outcome outcome'

theorem exists_locate_of_kind? {path : String} {kind : FileKind}
    (h : t.kind? cwd path = some kind) :
    ∃ place node, t.locate cwd path = .ok (place, node) ∧ node.kind = kind := by
  rw [kind?] at h
  split at h
  · next place node hlocate => exact ⟨place, node, hlocate, Option.some.inj h⟩
  · cases h

theorem isWithinLimits_of_kind? {path : String} {kind : FileKind}
    (h : t.kind? cwd path = some kind) : IsWithinLimits path := by
  obtain ⟨place, node, hlocate, -⟩ := exists_locate_of_kind? h
  exact (exists_follow_of_locate hlocate).1

theorem exists_read_of_kind? {path : String} (h : t.kind? cwd path = some .file) :
    ∃ content, t.read cwd path = .ok content := by
  obtain ⟨place, node, hlocate, hkind⟩ := exists_locate_of_kind? h
  cases node with
  | file content => exact ⟨content, by rw [read, hlocate]; rfl⟩
  | directory entries => cases hkind

theorem isHere_of_kind? {path : String} (h : t.kind? cwd path = some .directory)
    (hplace : (t.locate cwd path).toOption.map (·.1) = some cwd) : t.IsHere cwd path := by
  obtain ⟨place, node, hlocate, hkind⟩ := exists_locate_of_kind? h
  obtain ⟨-, trail, hfollow, htrail, harrival⟩ := exists_follow_of_locate hlocate
  rw [hlocate] at hplace
  refine ⟨trail, hfollow, htrail.trans (Option.some.inj hplace), ?_⟩
  rw [harrival]
  cases node with
  | file content => cases hkind
  | directory entries => exact ⟨entries, rfl⟩

/-! ## Opening a session -/

theorem run_loadConfigFile {path : String} {content : List UInt8}
    (h : t.read cwd path = .ok content) :
    ((files cwd).loadConfigFile path).run t = (Config.ofBytes content, t) := by
  have hread := run_read t cwd path
  rw [h] at hread
  exact run_bind_of_run hread

theorem run_loadConfigOf {base : String} {content : List UInt8}
    (hfile : t.kind? cwd (Path.join base configFileName) = some .file)
    (hread : t.read cwd (Path.join base configFileName) = .ok content) :
    ((files cwd).loadConfigOf base).run t = (Config.ofBytes content, t) := by
  rw [Files.loadConfigOf, run_bind_of_run (run_exists?_of_kind? hfile), if_pos rfl]
  exact run_loadConfigFile hread

theorem run_openSession_directory {base : String} {content : List UInt8}
    (h : t.HoldsConfig cwd base)
    (hread : t.read cwd (Path.join base configFileName) = .ok content) :
    ((files cwd).openSession base).run t =
      (Session.ofLoaded base (Config.ofBytes content), t) := by
  have hkind := run_kind? t cwd base
  rw [h.directory] at hkind
  rw [Files.openSession, run_bind_of_run hkind]
  exact run_bind_of_run (run_loadConfigOf h.file hread)

theorem run_openSession_file {path : String} {content : List UInt8}
    (hfile : t.kind? cwd path = some .file) (hread : t.read cwd path = .ok content) :
    ((files cwd).openSession path).run t =
      (Session.ofLoaded ((Path.parent? path).getD ".") (Config.ofBytes content), t) := by
  have hkind := run_kind? t cwd path
  rw [hfile] at hkind
  rw [Files.openSession, run_bind_of_run hkind]
  exact run_bind_of_run (run_loadConfigFile hread)

theorem run_openSessionHere {content : List UInt8}
    (hfile : t.kind? cwd (Path.join (pathOf cwd) configFileName) = some .file)
    (hread : t.read cwd (Path.join (pathOf cwd) configFileName) = .ok content) :
    (files cwd).openSessionHere.run t =
      (Session.ofLoaded (pathOf cwd) (Config.ofBytes content), t) := by
  have hhere : (files cwd).workingDirectory.run t = (pathOf cwd, t) := rfl
  rw [Files.openSessionHere, run_bind_of_run hhere]
  exact run_bind_of_run (run_loadConfigOf hfile hread)

/-! ## The names of one configuration -/

theorem steps_configFileName :
    Path.steps (Path.segments configFileName.toList) = [.name configFileName.toList] := by
  decide

theorem isWithinLimits_configFileName : IsWithinLimits configFileName where
  nonempty := by decide
  noNul := by decide
  short := by decide

/-- The file in a directory has the directory for its parent, so it makes no difference which of
the two is given. -/
theorem opensAlike_file {base : String} {content : List UInt8} (h : t.HoldsConfig cwd base)
    (hread : t.read cwd (Path.join base configFileName) = .ok content) :
    t.OpensAlike Session.SharesPaths (Session.ofLoaded base (Config.ofBytes content))
      ((files cwd).openSession (Path.join base configFileName)) := by
  obtain ⟨parent, hparent, hsame⟩ := Path.components_parent_join
    (isWithinLimits_of_kind? h.directory).nonempty (by decide) steps_configFileName
  have hopening := run_openSession_file h.file hread
  rw [hparent, Option.getD_some] at hopening
  refine ⟨_, hopening, Session.alike_ofLoaded (fun config catalog options => ?_) _⟩
  have hjoin := Path.components_join_congr hsame.symm
  exact ⟨hsame.symm, Session.outputPath_of_join
    (P := fun path path' => Path.components path = Path.components path') (fun _ => rfl) rfl hjoin⟩

theorem sharesOutputs_of_isHere {base base' : String} (h : t.IsHere cwd base)
    (h' : t.IsHere cwd base') (config : Config) (catalog : Catalog) (options : Options) :
    t.SharesOutputs cwd ⟨config, catalog, options, base⟩ ⟨config, catalog, options, base'⟩ :=
  Session.outputPath_of_join (NamesSame.refl t cwd) rfl fun path => h.namesSame_join h' path

theorem locate_config {base base' : String} (h : t.IsHere cwd base) (h' : t.IsHere cwd base')
    (hpath : IsWithinLimits (Path.join base configFileName))
    (hpath' : IsWithinLimits (Path.join base' configFileName)) :
    t.locate cwd (Path.join base' configFileName) = t.locate cwd (Path.join base configFileName) :=
  (h'.namesSame_join h configFileName).locate (.refl t) hpath' hpath

theorem opensAlike_here {base : String} {content : List UInt8} (h : t.HoldsConfig cwd base)
    (hread : t.read cwd (Path.join base configFileName) = .ok content)
    (hhere : t.HoldsConfig cwd (pathOf cwd)) (hroot : t.IsHere cwd (pathOf cwd))
    (hbase : t.IsHere cwd base) :
    t.OpensAlike (t.SharesOutputs cwd) (Session.ofLoaded base (Config.ofBytes content))
      (files cwd).openSessionHere := by
  have hlocate := locate_config hbase hroot (isWithinLimits_of_kind? h.file)
    (isWithinLimits_of_kind? hhere.file)
  have hcontent : t.read cwd (Path.join (pathOf cwd) configFileName) = .ok content := by
    rw [← hread, read, hlocate, read]
  exact ⟨_, run_openSessionHere hhere.file hcontent,
    Session.alike_ofLoaded (sharesOutputs_of_isHere hbase hroot) _⟩

theorem opensAlike_name {base : String} {content : List UInt8} (h : t.HoldsConfig cwd base)
    (hread : t.read cwd (Path.join base configFileName) = .ok content)
    (hbase : t.IsHere cwd base) :
    t.OpensAlike (t.SharesOutputs cwd) (Session.ofLoaded base (Config.ofBytes content))
      ((files cwd).openSession configFileName) := by
  have hlocate := locate_config hbase hbase.empty (isWithinLimits_of_kind? h.file)
    (by rw [Path.join_empty]; exact isWithinLimits_configFileName)
  rw [Path.join_empty] at hlocate
  have hcontent : t.read cwd configFileName = .ok content := by
    rw [← hread, read, hlocate, read]
  have hfile : t.kind? cwd configFileName = some .file := by
    rw [← h.file, kind?, hlocate, kind?]
  -- The bare name has the empty path for its parent, which becomes the root of the session.
  have hparent : Path.parent? configFileName = some "" := by decide
  have hopening := run_openSession_file hfile hcontent
  rw [hparent, Option.getD_some] at hopening
  exact ⟨_, hopening, Session.alike_ofLoaded (sharesOutputs_of_isHere hbase hbase.empty) _⟩

/--
A directory with a configuration file opens the session that the content of the file describes, or
fails as that content does. The file opens the same session, in all but the spelling of its paths.
Where the directory is the working directory, so do the bare name of the file and no name at all,
and their outputs are the same files. A path that is given for the output is taken as it is.
-/
theorem sessions_agree_by_any_name {base : String} (h : t.HoldsConfig cwd base) :
    ∃ content outcome, t.read cwd (Path.join base configFileName) = .ok content ∧
      outcome = Session.ofLoaded base (Config.ofBytes content) ∧
      ((files cwd).openSession base).run t = (outcome, t) ∧
      t.OpensAlike Session.SharesPaths outcome
        ((files cwd).openSession (Path.join base configFileName)) ∧
      (∀ (s : Session) (path : String), s.outputPath (some path) = path) ∧
      (t.IsHere cwd base →
        t.OpensAlike (t.SharesOutputs cwd) outcome ((files cwd).openSession configFileName) ∧
        (t.HoldsConfig cwd (pathOf cwd) → t.IsHere cwd (pathOf cwd) →
          ∀ i : Invocation, i.config? = none →
            t.OpensAlike (t.SharesOutputs cwd) outcome (Program.openSession (files cwd) i))) := by
  obtain ⟨content, hread⟩ := exists_read_of_kind? h.file
  refine ⟨content, _, hread, rfl, run_openSession_directory h hread, opensAlike_file h hread,
    fun _ _ => rfl, fun hbase => ⟨opensAlike_name h hread hbase, fun hhere hroot i hi => ?_⟩⟩
  rw [Program.openSession, hi]
  exact opensAlike_here h hread hhere hroot hbase

/-- The directory is left and entered again on the way. -/
theorem sessions_agree_detour :
    let content := Text.utf8 "[library]\noutput = \"gen/lib.v\"\n"
    let t : FileTree := ⟨.directory [("hw", .directory [("vgen.toml", .file content)])]⟩
    let outcome := Session.ofLoaded "../hw/." (Config.ofBytes content)
    ((files ["hw"]).openSession "../hw/.").run t = (outcome, t) ∧
      t.OpensAlike Session.SharesPaths outcome ((files ["hw"]).openSession "../hw/./vgen.toml") ∧
      t.OpensAlike (t.SharesOutputs ["hw"]) outcome ((files ["hw"]).openSession "vgen.toml") ∧
      t.OpensAlike (t.SharesOutputs ["hw"]) outcome
        (Program.openSession (files ["hw"]) { command := .generate none }) := by
  intro content t outcome
  have hbase : t.HoldsConfig ["hw"] "../hw/." := ⟨by decide +kernel, by decide +kernel⟩
  have hroot : t.HoldsConfig ["hw"] (pathOf ["hw"]) := ⟨by decide +kernel, by decide +kernel⟩
  have hread : t.read ["hw"] (Path.join "../hw/." configFileName) = .ok content := by rfl
  obtain ⟨content', outcome', hread', rfl, hopening, hfile, -, hhere⟩ :=
    sessions_agree_by_any_name hbase
  obtain rfl : content' = content := Except.ok.inj (hread'.symm.trans hread)
  obtain ⟨hname, hdefault⟩ := hhere (isHere_of_kind? hbase.directory (by decide +kernel))
  have hroot' := isHere_of_kind? hroot.directory (by decide +kernel)
  exact ⟨hopening, hfile, hname, hdefault hroot hroot' _ rfl⟩

end FileTree

end VerilogLibrary
