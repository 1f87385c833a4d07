import VerilogLibrary.Proofs.FileWrites

/-!
# Where joined paths lead

A path that is joined to a base leads on from where the base leads. From which
spelling of a base it is taken makes no difference to where it ends, for a walk
in a tree is known by its place: two walks to one place have entered the same
nodes. This goes further than the steps of a path, since a base may come to its
place by way of other directories and back.

Files that are to be made are not there yet, so paths are compared in all trees
that still have the directories of the one at hand. In these trees a base leads
to the place where it led before.

A path that is too long leads nowhere. That has nothing to do with where it
would lead, and `way` leaves it aside.
-/

namespace VerilogLibrary.FileTree

/-! ## Walks in parts -/

theorem exists_follow_of_append {t : FileTree} {trail last : Trail}
    {front behind : List (List Char)} (h : t.follow trail (front ++ behind) = .ok last) :
    ∃ mid, t.follow trail front = .ok mid ∧ t.follow mid behind = .ok last := by
  induction front generalizing trail with
  | nil => exact ⟨trail, rfl, h⟩
  | cons segment front ih =>
      rw [List.cons_append] at h
      obtain ⟨hdir, hcase⟩ := follow_cons h
      rcases hcase with ⟨htrivial, hrest⟩ | ⟨-, rfl, hrest⟩
        | ⟨htrivial, hup, hlong, node, hnode, hrest⟩
      · rw [follow_trivial hdir htrivial]
        exact ih hrest
      · rw [follow_up hdir]
        exact ih hrest
      · rw [follow_name htrivial hup hlong hnode]
        exact ih hrest

theorem follow_empty {t : FileTree} {trail last : Trail} (h : t.follow trail [[]] = .ok last) :
    last = trail := by
  obtain ⟨hdir, -⟩ := follow_cons h
  rw [follow_trivial hdir rfl] at h
  exact (Except.ok.inj h).symm

/-- A name that a walk can enter. -/
structure IsEntry (name : String) : Prop where
  notTrivial : Path.isTrivial name.toList = false
  notUp : name.toList ≠ ['.', '.']
  short : isTooLong name = false

theorem isEntry_of_follow {t : FileTree} {trail last : Trail} {segs : List (List Char)}
    (htrail : ∀ name ∈ trail.place, IsEntry name) (h : t.follow trail segs = .ok last) :
    ∀ name ∈ last.place, IsEntry name := by
  induction segs generalizing trail with
  | nil =>
      cases h
      exact htrail
  | cons segment rest ih =>
      obtain ⟨-, ⟨-, hrest⟩ | ⟨-, -, hrest⟩ | ⟨htrivial, hup, hlong, node, -, hrest⟩⟩ :=
        follow_cons h
      · exact ih htrail hrest
      · refine ih (fun name hname => ?_) hrest
        rw [place_tail] at hname
        exact htrail name (List.mem_of_mem_dropLast hname)
      · refine ih (fun name hname => ?_) hrest
        rw [place_cons, List.mem_append, List.mem_singleton] at hname
        rcases hname with hname | rfl
        · exact htrail name hname
        · exact ⟨by rwa [String.toList_ofList], by rwa [String.toList_ofList], hlong⟩

/-- Whatever detours a walk took, its place can be reached without any. -/
theorem IsTrail.follow_place {t : FileTree} {trail : Trail} (h : t.IsTrail trail)
    (hnames : ∀ name ∈ trail.place, IsEntry name) :
    t.follow [] (trail.place.map String.toList) = .ok trail := by
  induction h with
  | nil => rfl
  | @cons trail name node _ hchild ih =>
      rw [place_cons] at hnames
      have hname := hnames name (List.mem_append_right _ (List.mem_singleton_self name))
      have hshort := hname.short
      rw [← String.ofList_toList (s := name)] at hchild hshort
      rw [place_cons, List.map_append, List.map_singleton,
        follow_append (ih fun other hother => hnames other (List.mem_append_left _ hother)),
        follow_name hname.notTrivial hname.notUp hshort hchild, String.ofList_toList]
      rfl

/-- Walks to one place have entered the same nodes. -/
theorem IsTrail.eq_of_place {t : FileTree} {trail trail' : Trail} (h : t.IsTrail trail)
    (h' : t.IsTrail trail') (hplace : trail.place = trail'.place) : trail = trail' := by
  induction h generalizing trail' with
  | nil =>
      cases h' with
      | nil => rfl
      | cons _ _ =>
          rw [place_cons] at hplace
          exact absurd hplace.symm (List.append_ne_nil_of_right_ne_nil _ (List.cons_ne_nil _ _))
  | @cons trail name node _ hchild ih =>
      cases h' with
      | nil =>
          rw [place_cons] at hplace
          exact absurd hplace (List.append_ne_nil_of_right_ne_nil _ (List.cons_ne_nil _ _))
      | @cons trail' name' node' h' hchild' =>
          rw [place_cons, place_cons] at hplace
          obtain ⟨hplace, hname⟩ := List.append_inj' hplace rfl
          obtain rfl := ih h' hplace
          cases hname
          rw [hchild] at hchild'
          cases hchild'
          rfl

/-! ## Joining -/

theorem isAbsolute_of_toList {base path : String} {behind : List Char} (hbase : base ≠ "")
    (h : path.toList = base.toList ++ behind) : Path.isAbsolute path = Path.isAbsolute base := by
  rw [Path.isAbsolute, Path.isAbsolute, h]
  cases hchars : base.toList with
  | nil => exact absurd (String.toList_eq_nil_iff.mp hchars) hbase
  | cons c cs =>
      rw [List.cons_append]
      by_cases hc : c = '/'
      · subst hc
        rfl
      · simp [hc]

/-- Joining puts the segments of a path behind those of its base, without the empty segment that
stands behind a slash at the end of the base. -/
theorem way_join (cwd : Place) (base : String) {path : String}
    (hpath : Path.isAbsolute path = false) :
    ∃ front, way cwd (Path.join base path) = front ++ Path.segments path.toList ∧
      (way cwd base = front ∨ way cwd base = front ++ [[]]) := by
  by_cases hbase : base = ""
  · subst hbase
    refine ⟨cwd.map String.toList, ?_, .inr rfl⟩
    rw [Path.join_empty, way, hpath, if_neg Bool.false_ne_true]
  · have hjoin := Path.toList_join hbase hpath
    split at hjoin
    · next hslash =>
        obtain ⟨front, hfront⟩ := List.getLast?_eq_some_iff.mp hslash
        rw [way, way, isAbsolute_of_toList hbase hjoin, hjoin, hfront, List.append_assoc,
          List.singleton_append, Path.segments_append_slash, Path.segments_append_slash]
        exact ⟨_, (List.append_assoc _ _ _).symm, .inr (List.append_assoc _ _ _).symm⟩
    · rw [way, way, isAbsolute_of_toList hbase hjoin, hjoin, Path.segments_append_slash]
      exact ⟨_, (List.append_assoc _ _ _).symm, .inl rfl⟩

theorem follow_join {t : FileTree} {cwd : Place} {base path : String} {trail : Trail}
    (hbase : t.follow [] (way cwd base) = .ok trail) (hpath : Path.isAbsolute path = false) :
    t.follow [] (way cwd (Path.join base path)) =
      t.follow trail (Path.segments path.toList) := by
  obtain ⟨front, hjoin, hfront | hfront⟩ := way_join cwd base hpath
  · rw [hfront] at hbase
    rw [hjoin, follow_append hbase]
  · rw [hfront] at hbase
    obtain ⟨mid, hmid, hlast⟩ := exists_follow_of_append hbase
    obtain rfl := follow_empty hlast
    rw [hjoin, follow_append hmid]

/-! ## Paths that name the same -/

/-- Two paths lead to the same, or fail alike, in every tree that still has the directories of
this one, whatever files it has. -/
def NamesSame (t : FileTree) (cwd : Place) (path path' : String) : Prop :=
  ∀ t', t.KeepsDirectories t' → t'.follow [] (way cwd path) = t'.follow [] (way cwd path')

/-- A path leads to the working directory. -/
def IsHere (t : FileTree) (cwd : Place) (path : String) : Prop :=
  ∃ trail, t.follow [] (way cwd path) = .ok trail ∧ trail.place = cwd ∧
    (t.arrival trail).IsDirectory

theorem KeepsDirectories.refl (t : FileTree) : t.KeepsDirectories t :=
  fun _ n hn hdir => ⟨n, hn, hdir⟩

theorem NamesSame.refl (t : FileTree) (cwd : Place) (path : String) : t.NamesSame cwd path path :=
  fun _ _ => rfl

/-- Two paths that name the same have the same file, if neither is refused for its text. -/
theorem NamesSame.locate {t t' : FileTree} {cwd : Place} {path path' : String}
    (h : t.NamesSame cwd path path') (hkeeps : t.KeepsDirectories t')
    (hpath : IsWithinLimits path) (hpath' : IsWithinLimits path') :
    t'.locate cwd path = t'.locate cwd path' := by
  have hroute : route cwd path = .ok (way cwd path) := route_eq_ok_iff.mpr ⟨hpath, rfl⟩
  have hroute' : route cwd path' = .ok (way cwd path') := route_eq_ok_iff.mpr ⟨hpath', rfl⟩
  simp only [FileTree.locate, hroute, hroute', bind, Except.bind, h t' hkeeps]

theorem exists_follow_of_locate {t : FileTree} {cwd place : Place} {path : String}
    {node : FileNode} (h : t.locate cwd path = .ok (place, node)) :
    IsWithinLimits path ∧ ∃ trail, t.follow [] (way cwd path) = .ok trail ∧
      trail.place = place ∧ t.arrival trail = node := by
  cases hroute : route cwd path with
  | error e =>
      rw [FileTree.locate, hroute] at h
      cases h
  | ok segs =>
      obtain ⟨hwithin, rfl⟩ := route_eq_ok_iff.mp hroute
      simp only [FileTree.locate, hroute, bind, Except.bind] at h
      cases hfollow : t.follow [] (way cwd path) with
      | error e =>
          rw [hfollow] at h
          cases h
      | ok trail =>
          rw [hfollow] at h
          cases h
          exact ⟨hwithin, trail, rfl, rfl, rfl⟩

theorem IsHere.of_keepsDirectories {t t' : FileTree} {cwd : Place} {path : String}
    (h : t.IsHere cwd path) (hkeeps : t.KeepsDirectories t') :
    ∃ trail, t'.follow [] (way cwd path) = .ok trail ∧ t'.IsTrail trail ∧ trail.place = cwd := by
  obtain ⟨trail, hfollow, hplace, hdir⟩ := h
  obtain ⟨trail', hfollow', htrail', hplace'⟩ := hkeeps.follow .nil .nil rfl hfollow hdir
  exact ⟨trail', hfollow', htrail', hplace'.trans hplace⟩

/-- From whichever path to the working directory a path is taken, it names the same. -/
theorem IsHere.namesSame_join {t : FileTree} {cwd : Place} {base base' : String}
    (h : t.IsHere cwd base) (h' : t.IsHere cwd base') (path : String) :
    t.NamesSame cwd (Path.join base path) (Path.join base' path) := by
  intro t' hkeeps
  cases hpath : Path.isAbsolute path with
  | true => rw [Path.join_of_isAbsolute hpath, Path.join_of_isAbsolute hpath]
  | false =>
      obtain ⟨trail, hfollow, htrail, hplace⟩ := h.of_keepsDirectories hkeeps
      obtain ⟨trail', hfollow', htrail', hplace'⟩ := h'.of_keepsDirectories hkeeps
      obtain rfl := htrail.eq_of_place htrail' (hplace.trans hplace'.symm)
      rw [follow_join hfollow hpath, follow_join hfollow' hpath]

/-- The empty path is no path for the system, but what is joined to it counts from here. -/
theorem IsHere.empty {t : FileTree} {cwd : Place} {path : String} (h : t.IsHere cwd path) :
    t.IsHere cwd "" := by
  obtain ⟨trail, hfollow, hplace, hdir⟩ := h
  have htrail := IsTrail.nil.follow hfollow
  have hnames := isEntry_of_follow (fun name hname => absurd hname List.not_mem_nil) hfollow
  have hdirect := htrail.follow_place hnames
  rw [hplace] at hdirect
  refine ⟨trail, ?_, hplace, hdir⟩
  show t.follow [] (cwd.map String.toList ++ [[]]) = .ok trail
  rw [follow_append hdirect, follow_trivial hdir rfl]
  rfl

end VerilogLibrary.FileTree
