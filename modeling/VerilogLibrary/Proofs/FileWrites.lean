import VerilogLibrary.Files.Walk
import VerilogLibrary.Proofs.PathSteps

/-!
# A file that was written is there

A path is followed through directories only, and to write a file takes none
of them away: what stood under its name, if anything, was a file too. So a
path that led to a directory before leads to one at the same place after,
whatever detours it takes, and the last name of the path of the file then
finds the new content. That the tree is changed along the whole way from the
root is no obstacle, for the way is described by places and not by nodes.
-/

namespace VerilogLibrary

namespace FileNode

theorem lookup_filter_ne {β : Type} {entries : List (String × β)} {name x : String}
    (h : x ≠ name) : (entries.filter (·.1 != name)).lookup x = entries.lookup x := by
  induction entries with
  | nil => rfl
  | cons entry rest ih =>
      obtain ⟨key, b⟩ := entry
      by_cases hkey : key = name
      · have hx : (x == key) = false := beq_eq_false_iff_ne.mpr (hkey ▸ h)
        rw [List.filter_cons_of_neg (by simpa using hkey), ih, List.lookup_cons, hx]
      · rw [List.filter_cons_of_pos (by simpa using hkey), List.lookup_cons, List.lookup_cons, ih]

theorem child?_setChild (entries : List (String × FileNode)) (name : String) (child : FileNode)
    (x : String) :
    ((FileNode.directory entries).setChild name child).child? x =
      if x = name then some child else (FileNode.directory entries).child? x := by
  rw [setChild, child?, List.lookup_cons]
  by_cases hx : x = name
  · rw [beq_iff_eq.mpr hx, if_pos hx]
  · rw [beq_eq_false_iff_ne.mpr hx, if_neg hx, child?, lookup_filter_ne hx]

theorem descendant?_append (n : FileNode) (place more : Place) :
    n.descendant? (place ++ more) = (n.descendant? place).bind (·.descendant? more) := by
  induction place generalizing n with
  | nil => rfl
  | cons name place ih =>
      rw [List.cons_append, descendant?, descendant?, Option.bind_assoc]
      exact congrArg _ (funext ih)

/-- A directory, which is what a name can be looked up in. -/
def IsDirectory (n : FileNode) : Prop :=
  ∃ entries, n = .directory entries

theorem isDirectory_of_child? {n child : FileNode} {name : String}
    (h : n.child? name = some child) : n.IsDirectory := by
  cases n with
  | file content => cases h
  | directory entries => exact ⟨entries, rfl⟩

theorem isDirectory_setChild {n : FileNode} (h : n.IsDirectory) (name : String)
    (child : FileNode) : (n.setChild name child).IsDirectory := by
  obtain ⟨entries, rfl⟩ := h
  exact ⟨_, rfl⟩

theorem modify_cons {change : FileNode → FileNode} {n child : FileNode} {name : String}
    (h : n.child? name = some child) (place : Place) :
    n.modify change (name :: place) = n.setChild name (child.modify change place) := by
  rw [modify, h]

/-- The step of a place that is there. -/
theorem child?_of_descendant? {n d : FileNode} {name : String} {place : Place}
    (h : n.descendant? (name :: place) = some d) :
    ∃ entries child, n = .directory entries ∧ n.child? name = some child ∧
      child.descendant? place = some d := by
  obtain ⟨child, hchild, hd⟩ := Option.bind_eq_some_iff.mp h
  obtain ⟨entries, hn⟩ := isDirectory_of_child? hchild
  exact ⟨entries, child, hn, hchild, hd⟩

theorem descendant?_modify {change : FileNode → FileNode} {n d : FileNode} {place : Place}
    (h : n.descendant? place = some d) :
    (n.modify change place).descendant? place = some (change d) := by
  induction place generalizing n with
  | nil =>
      obtain rfl : n = d := Option.some.inj h
      rfl
  | cons name place ih =>
      obtain ⟨entries, child, rfl, hchild, hd⟩ := child?_of_descendant? h
      rw [modify_cons hchild, descendant?, child?_setChild, if_pos rfl, Option.bind_some, ih hd]

/-- To put a file where no directory is leaves every directory in its place. -/
theorem isDirectory_modify {n d : FileNode} {place : Place} {name : String}
    {content : List UInt8} (hd : n.descendant? place = some d)
    (hfree : ∀ child, d.child? name = some child → ¬ child.IsDirectory)
    {other : Place} {e : FileNode} (he : n.descendant? other = some e) (hdir : e.IsDirectory) :
    ∃ e', (n.modify (·.setChild name (.file content)) place).descendant? other = some e' ∧
      e'.IsDirectory := by
  induction place generalizing n other with
  | nil =>
      obtain rfl : n = d := Option.some.inj hd
      cases other with
      | nil =>
          obtain rfl : n = e := Option.some.inj he
          exact ⟨_, rfl, isDirectory_setChild hdir name _⟩
      | cons x other =>
          obtain ⟨entries, child, rfl, hchild, hrest⟩ := child?_of_descendant? he
          have hx : x ≠ name := by
            rintro rfl
            cases other with
            | nil =>
                obtain rfl : child = e := Option.some.inj hrest
                exact hfree child hchild hdir
            | cons y other =>
                obtain ⟨inner, -, hinner, -⟩ := child?_of_descendant? hrest
                exact hfree child hchild ⟨inner, hinner⟩
          refine ⟨e, ?_, hdir⟩
          rw [modify, descendant?, child?_setChild, if_neg hx]
          exact he
  | cons step place ih =>
      obtain ⟨entries, child, rfl, hchild, hrest⟩ := child?_of_descendant? hd
      rw [modify_cons hchild]
      cases other with
      | nil => exact ⟨_, rfl, isDirectory_setChild ⟨entries, rfl⟩ step _⟩
      | cons x other =>
          rw [descendant?, child?_setChild]
          split
          · next hx =>
              rw [descendant?, hx, hchild, Option.bind_some] at he
              rw [Option.bind_some]
              exact ih hrest he
          · exact ⟨e, he, hdir⟩

end FileNode

namespace FileTree

/-! ## Trails -/

/-- A trail whose nodes are what their names lead to in a tree. -/
inductive IsTrail (t : FileTree) : Trail → Prop
  | nil : IsTrail t []
  | cons {trail : Trail} {name : String} {node : FileNode} :
      IsTrail t trail → (t.arrival trail).child? name = some node →
      IsTrail t ((name, node) :: trail)

theorem IsTrail.tail {t : FileTree} {trail : Trail} (h : t.IsTrail trail) :
    t.IsTrail trail.tail := by
  cases h with
  | nil => exact .nil
  | cons h _ => exact h

theorem place_cons (name : String) (node : FileNode) (trail : Trail) :
    Trail.place ((name, node) :: trail) = trail.place ++ [name] := by
  rw [Trail.place, List.map_cons, List.reverse_cons, Trail.place]

theorem place_tail (trail : Trail) : Trail.place trail.tail = trail.place.dropLast := by
  rw [Trail.place, Trail.place, List.dropLast_reverse, List.map_tail]

theorem IsTrail.node?_place {t : FileTree} {trail : Trail} (h : t.IsTrail trail) :
    t.node? trail.place = some (t.arrival trail) := by
  induction h with
  | nil => rfl
  | cons _ hchild ih =>
      rw [place_cons, node?, FileNode.descendant?_append]
      rw [node?] at ih
      rw [ih, Option.bind_some, FileNode.descendant?, hchild]
      rfl

/-- What a single segment does to a trail. -/
theorem follow_cons {t : FileTree} {trail last : Trail} {segment : List Char}
    {rest : List (List Char)} (h : t.follow trail (segment :: rest) = .ok last) :
    (t.arrival trail).IsDirectory ∧
      ((Path.isTrivial segment = true ∧ t.follow trail rest = .ok last) ∨
       (Path.isTrivial segment = false ∧ segment = ['.', '.'] ∧
          t.follow trail.tail rest = .ok last) ∨
       (Path.isTrivial segment = false ∧ segment ≠ ['.', '.'] ∧
          isTooLong (String.ofList segment) = false ∧
          ∃ node, (t.arrival trail).child? (String.ofList segment) = some node ∧
            t.follow ((String.ofList segment, node) :: trail) rest = .ok last)) := by
  rw [follow] at h
  split at h
  · cases h
  · next entries harrival =>
      refine ⟨⟨entries, harrival⟩, ?_⟩
      split at h
      · next htrivial => exact .inl ⟨htrivial, h⟩
      · next htrivial =>
          have htrivial := Bool.eq_false_of_not_eq_true htrivial
          split at h
          · next hup => exact .inr (.inl ⟨htrivial, hup, h⟩)
          · next hup =>
              simp only [] at h
              split at h
              · cases h
              · next hlong =>
                  split at h
                  · cases h
                  · next node hnode =>
                      exact .inr (.inr ⟨htrivial, hup, Bool.eq_false_of_not_eq_true hlong, node,
                        by rw [harrival]; exact hnode, h⟩)

theorem follow_trivial {t : FileTree} {trail : Trail} {segment : List Char}
    (hdir : (t.arrival trail).IsDirectory) (h : Path.isTrivial segment = true)
    (rest : List (List Char)) : t.follow trail (segment :: rest) = t.follow trail rest := by
  obtain ⟨entries, hdir⟩ := hdir
  rw [follow, hdir]
  exact if_pos h

theorem follow_up {t : FileTree} {trail : Trail} (hdir : (t.arrival trail).IsDirectory)
    (rest : List (List Char)) :
    t.follow trail (['.', '.'] :: rest) = t.follow trail.tail rest := by
  obtain ⟨entries, hdir⟩ := hdir
  rw [follow, hdir]
  rfl

theorem follow_name {t : FileTree} {trail : Trail} {segment : List Char} {node : FileNode}
    (htrivial : Path.isTrivial segment = false) (hup : segment ≠ ['.', '.'])
    (hlong : isTooLong (String.ofList segment) = false)
    (hnode : (t.arrival trail).child? (String.ofList segment) = some node)
    (rest : List (List Char)) :
    t.follow trail (segment :: rest) = t.follow ((String.ofList segment, node) :: trail) rest := by
  obtain ⟨entries, hdir⟩ := FileNode.isDirectory_of_child? hnode
  rw [hdir, FileNode.child?] at hnode
  rw [follow, hdir]
  simp only [htrivial, hup, hlong, hnode, Bool.false_eq_true, if_false]

theorem follow_append {t : FileTree} {trail mid : Trail} {segs : List (List Char)}
    (h : t.follow trail segs = .ok mid) (more : List (List Char)) :
    t.follow trail (segs ++ more) = t.follow mid more := by
  induction segs generalizing trail with
  | nil =>
      cases h
      rfl
  | cons segment rest ih =>
      rw [List.cons_append]
      obtain ⟨hdir, hcase⟩ := follow_cons h
      rcases hcase with ⟨htrivial, hrest⟩ | ⟨-, rfl, hrest⟩
        | ⟨htrivial, hup, hlong, node, hnode, hrest⟩
      · rw [follow_trivial hdir htrivial, ih hrest]
      · rw [follow_up hdir, ih hrest]
      · rw [follow_name htrivial hup hlong hnode, ih hrest]

theorem IsTrail.follow {t : FileTree} {trail last : Trail} {segs : List (List Char)}
    (htrail : t.IsTrail trail) (h : t.follow trail segs = .ok last) : t.IsTrail last := by
  induction segs generalizing trail with
  | nil =>
      cases h
      exact htrail
  | cons segment rest ih =>
      obtain ⟨-, ⟨-, hrest⟩ | ⟨-, -, hrest⟩ | ⟨-, -, -, node, hnode, hrest⟩⟩ := follow_cons h
      · exact ih htrail hrest
      · exact ih htrail.tail hrest
      · exact ih (.cons htrail hnode) hrest

/-- Where one tree has a directory, the other has one too. -/
def KeepsDirectories (t t' : FileTree) : Prop :=
  ∀ place n, t.node? place = some n → n.IsDirectory →
    ∃ n', t'.node? place = some n' ∧ n'.IsDirectory

/-- A way to a directory is a way to the same place in a tree that keeps the
directories: it leads through directories only, so there is always a step. -/
theorem KeepsDirectories.follow {t t' : FileTree} (hkeeps : t.KeepsDirectories t')
    {trail trail' last : Trail} {segs : List (List Char)} (htrail : t.IsTrail trail)
    (htrail' : t'.IsTrail trail') (hplace : trail'.place = trail.place)
    (h : t.follow trail segs = .ok last) (hlast : (t.arrival last).IsDirectory) :
    ∃ last', t'.follow trail' segs = .ok last' ∧ t'.IsTrail last' ∧
      last'.place = last.place := by
  have hdir' : ∀ {trail trail' : Trail}, t.IsTrail trail → t'.IsTrail trail' →
      trail'.place = trail.place → (t.arrival trail).IsDirectory →
      (t'.arrival trail').IsDirectory := by
    intro trail trail' htrail htrail' hplace hdir
    obtain ⟨n', hn', hdir'⟩ := hkeeps _ _ htrail.node?_place hdir
    rw [← hplace, htrail'.node?_place] at hn'
    rwa [Option.some.inj hn']
  induction segs generalizing trail trail' with
  | nil =>
      cases h
      exact ⟨trail', rfl, htrail', hplace⟩
  | cons segment rest ih =>
      obtain ⟨hdir, hcase⟩ := follow_cons h
      have hdir' := hdir' htrail htrail' hplace hdir
      rcases hcase with ⟨htrivial, hrest⟩ | ⟨-, rfl, hrest⟩
        | ⟨htrivial, hup, hlong, node, hnode, hrest⟩
      · rw [follow_trivial hdir' htrivial]
        exact ih htrail htrail' hplace hrest
      · rw [follow_up hdir']
        exact ih htrail.tail htrail'.tail (by rw [place_tail, place_tail, hplace]) hrest
      · -- Where the way goes on from the node, or ends, it is a directory and so is kept.
        have hstep := IsTrail.cons htrail hnode
        have hnodeDir : node.IsDirectory := by
          cases rest with
          | nil =>
              cases hrest
              exact hlast
          | cons next rest => exact (follow_cons hrest).1
        obtain ⟨node', hnode', -⟩ := hkeeps _ _ hstep.node?_place hnodeDir
        have hchild' : (t'.arrival trail').child? (String.ofList segment) = some node' := by
          rw [place_cons, ← hplace, node?, FileNode.descendant?_append] at hnode'
          have harrival := htrail'.node?_place
          rw [node?] at harrival
          rw [harrival, Option.bind_some] at hnode'
          obtain ⟨-, child, -, hchild, hdescendant⟩ := FileNode.child?_of_descendant? hnode'
          rw [hchild]
          exact hdescendant
        rw [follow_name htrivial hup hlong hchild']
        exact ih hstep (.cons htrail' hchild') (by rw [place_cons, place_cons, hplace]) hrest

/-! ## Ways -/

/-- The segments that lead from the root to where a path leads, were it not for the limits that
the system sets to paths. -/
def way (cwd : Place) (path : String) : List (List Char) :=
  (if Path.isAbsolute path then [] else cwd.map String.toList) ++ Path.segments path.toList

/-- A path within the limits. -/
structure IsWithinLimits (path : String) : Prop where
  nonempty : path ≠ ""
  noNul : '\x00' ∉ path.toList
  short : (Text.utf8 path).length ≤ maxPathBytes

theorem route_eq_ok_iff {cwd : Place} {path : String} {segs : List (List Char)} :
    route cwd path = .ok segs ↔ IsWithinLimits path ∧ segs = way cwd path := by
  constructor
  · intro h
    rw [route] at h
    split at h
    · cases h
    · next hempty =>
        split at h
        · cases h
        · next hnul =>
            split at h
            · cases h
            · next hlong =>
                have hwithin : IsWithinLimits path :=
                  ⟨mt String.isEmpty_iff.mpr hempty, mt List.contains_iff_mem.mpr hnul, by omega⟩
                refine ⟨hwithin, ?_⟩
                rw [← Except.ok.inj h, way]
                split <;> rfl
  · intro h
    obtain ⟨hwithin, hsegs⟩ := h
    have hshort := hwithin.short
    rw [route, if_neg (mt String.isEmpty_iff.mp hwithin.nonempty),
      if_neg (mt List.contains_iff_mem.mp hwithin.noNul), if_neg (by omega), hsegs, way]
    split <;> rfl

/-! ## The last name of a path -/

theorem withoutEndSlashes_append {front : List (List Char)} {last : List Char} (h : last ≠ []) :
    withoutEndSlashes (front ++ [last]) = front ++ [last] := by
  have hlast : ¬ last.isEmpty = true := by simpa using h
  rw [withoutEndSlashes, List.reverse_append, List.reverse_singleton, List.singleton_append,
    List.dropWhile_cons_of_neg hlast, List.reverse_cons, List.reverse_reverse]

/-- A path without a slash at its end is a way, and a name behind it. -/
theorem exists_last_of_route {cwd : Place} {path : String} {segs : List (List Char)}
    (hslash : endsInSlash path = false) (h : route cwd path = .ok segs) :
    ∃ front last, segs = front ++ [last] ∧ last ≠ [] := by
  obtain ⟨hwithin, rfl⟩ := route_eq_ok_iff.mp h
  obtain ⟨front, hway⟩ : ∃ front, way cwd path = front ++ Path.segments path.toList :=
    ⟨_, rfl⟩
  rw [hway]
  refine ⟨front ++ (Path.segments path.toList).dropLast,
    (Path.segments path.toList).getLast (Path.segments_ne_nil _), ?_, fun hlast => ?_⟩
  · rw [List.append_assoc, List.dropLast_append_getLast]
  · have hne : path.toList ≠ [] := mt String.toList_eq_nil_iff.mp hwithin.nonempty
    have hget : (Path.segments path.toList).getLast? = some [] := by
      rw [List.getLast?_eq_some_getLast (Path.segments_ne_nil _), hlast]
    rw [endsInSlash, Path.getLast?_segments hne hget] at hslash
    cases hslash

/-! ## Writing -/

/-- The way to the directory of a file and the name of the file there: what a path says, as far
as a tree goes along with it. -/
structure Leads (t : FileTree) (cwd : Place) (path : String) (trail : Trail) (name : List Char) :
    Prop where
  route : ∃ front, route cwd path = .ok (front ++ [name]) ∧ t.follow [] front = .ok trail
  isDirectory : (t.arrival trail).IsDirectory
  notTrivial : Path.isTrivial name = false
  notUp : name ≠ ['.', '.']

/-- A file can be put under a name. -/
structure Accepts (t : FileTree) (cwd : Place) (path : String) (trail : Trail)
    (name : List Char) : Prop extends t.Leads cwd path trail name where
  noSlash : endsInSlash path = false
  free : ∀ node, (t.arrival trail).child? (String.ofList name) = some node → ¬ node.IsDirectory
  short : isTooLong (String.ofList name) = false

/-- The slot of a name behind a trail. -/
def slotOf (t : FileTree) (trail : Trail) (name : List Char) : Slot :=
  ⟨trail.place, String.ofList name, (t.arrival trail).child? (String.ofList name)⟩

theorem Leads.slot?_eq {t : FileTree} {cwd : Place} {path : String} {trail : Trail}
    {name : List Char} (h : t.Leads cwd path trail name) :
    t.slot? cwd path = .ok (some (t.slotOf trail name)) := by
  obtain ⟨front, hroute, hfollow⟩ := h.route
  obtain ⟨entries, hdir⟩ := h.isDirectory
  have hne : name ≠ [] := by
    rintro rfl
    exact absurd h.notTrivial (by decide)
  have hnotTrivial := h.notTrivial
  have hnotUp := h.notUp
  simp only [slot?, hroute, bind, Except.bind, withoutEndSlashes_append hne,
    List.dropLast_concat, List.getLast?_concat, Option.getD_some, hfollow, hdir, hnotTrivial,
    hnotUp, slotOf, FileNode.child?]
  rfl

theorem leads_of_slot? {t : FileTree} {cwd : Place} {path : String} {slot : Slot}
    (hslash : endsInSlash path = false) (h : t.slot? cwd path = .ok (some slot)) :
    ∃ trail name, t.Leads cwd path trail name ∧ slot = t.slotOf trail name := by
  cases hroute : route cwd path with
  | error e =>
      rw [slot?, hroute] at h
      cases h
  | ok segs =>
      obtain ⟨front, name, rfl, hne⟩ := exists_last_of_route hslash hroute
      simp only [slot?, hroute, bind, Except.bind, withoutEndSlashes_append hne,
        List.dropLast_concat, List.getLast?_concat, Option.getD_some] at h
      cases hfollow : t.follow [] front with
      | error e =>
          rw [hfollow] at h
          cases h
      | ok trail =>
          rw [hfollow] at h
          simp only [] at h
          split at h
          · cases h
          · next entries hdir =>
              split at h
              · cases h
              · next hproper =>
                  rw [Bool.or_eq_true, decide_eq_true_iff, not_or] at hproper
                  obtain ⟨htrivial, hup⟩ := hproper
                  refine ⟨trail, name, ⟨⟨front, hroute, hfollow⟩, ⟨entries, hdir⟩,
                    Bool.eq_false_of_not_eq_true htrivial, hup⟩, ?_⟩
                  cases h
                  rw [slotOf, hdir, FileNode.child?]

theorem kind_eq_directory_iff (n : FileNode) : n.kind = .directory ↔ n.IsDirectory := by
  cases n with
  | file content => exact iff_of_false nofun fun ⟨_, h⟩ => by cases h
  | directory entries => exact iff_of_true rfl ⟨entries, rfl⟩

theorem any_isDirectory_eq_false_iff {node? : Option FileNode} :
    node?.any (·.kind == .directory) = false ↔ ∀ node, node? = some node → ¬ node.IsDirectory := by
  cases node? with
  | none => exact iff_of_true rfl nofun
  | some node =>
      rw [Option.any_some, beq_eq_false_iff_ne, Ne, kind_eq_directory_iff]
      exact ⟨fun h other heq => Option.some.inj heq ▸ h, fun h => h node rfl⟩

/-- A file is written exactly where it is accepted, whatever its content. -/
theorem write_eq_ok_iff {t t' : FileTree} {cwd : Place} {path : String} {content : List UInt8} :
    t.write cwd path content = .ok t' ↔
      ∃ trail name, t.Accepts cwd path trail name ∧
        t' = t.insert trail.place (String.ofList name) (.file content) := by
  constructor
  · intro h
    cases hslot : t.slot? cwd path with
    | error e =>
        rw [write, hslot] at h
        cases h
    | ok slot? =>
        simp only [write, hslot, bind, Except.bind] at h
        cases slot? with
        | none => cases h
        | some slot =>
            simp only [] at h
            split at h
            · cases h
            · next hfree =>
                rw [Bool.or_eq_true, not_or] at hfree
                obtain ⟨hslash, hfree⟩ := hfree
                split at h
                · cases h
                · next hshort =>
                    have hslash := Bool.eq_false_of_not_eq_true hslash
                    obtain ⟨trail, name, hleads, rfl⟩ := leads_of_slot? hslash hslot
                    refine ⟨trail, name, ⟨hleads, hslash, ?_,
                      Bool.eq_false_of_not_eq_true hshort⟩, ?_⟩
                    · exact any_isDirectory_eq_false_iff.mp (Bool.eq_false_of_not_eq_true hfree)
                    · cases h
                      rfl
  · rintro ⟨trail, name, h, rfl⟩
    have hfree := any_isDirectory_eq_false_iff.mpr h.free
    have hshort := h.short
    simp only [write, h.toLeads.slot?_eq, bind, Except.bind, h.noSlash, slotOf, hfree, hshort,
      Bool.or_self, Bool.false_eq_true, if_false]
    rfl

theorem Accepts.keepsDirectories {t : FileTree} {cwd : Place} {path : String} {trail : Trail}
    {name : List Char} (h : t.Accepts cwd path trail name) (content : List UInt8) :
    t.KeepsDirectories (t.insert trail.place (String.ofList name) (.file content)) := by
  obtain ⟨front, -, hfollow⟩ := h.route
  have htrail := IsTrail.nil.follow hfollow
  intro place n hn hdir
  exact FileNode.isDirectory_modify htrail.node?_place h.free hn hdir

/-- The path of a file that was written is accepted again, and leads to the file. -/
theorem Accepts.accepts_insert {t : FileTree} {cwd : Place} {path : String} {trail : Trail}
    {name : List Char} (h : t.Accepts cwd path trail name) (content : List UInt8) :
    ∃ trail', (t.insert trail.place (String.ofList name) (.file content)).Accepts cwd path trail'
        name ∧
      ((t.insert trail.place (String.ofList name) (.file content)).arrival trail').child?
        (String.ofList name) = some (.file content) := by
  obtain ⟨front, hroute, hfollow⟩ := h.route
  have htrail := IsTrail.nil.follow hfollow
  obtain ⟨trail', hfollow', htrail', hplace⟩ :=
    (h.keepsDirectories content).follow .nil .nil rfl hfollow h.isDirectory
  obtain ⟨entries, hdir⟩ := h.isDirectory
  have harrival : (t.insert trail.place (String.ofList name) (.file content)).arrival trail' =
      (t.arrival trail).setChild (String.ofList name) (.file content) := by
    have hnode := htrail'.node?_place
    rw [hplace, insert, node?, FileNode.descendant?_modify htrail.node?_place] at hnode
    exact (Option.some.inj hnode).symm
  have hchild : ((t.insert trail.place (String.ofList name) (.file content)).arrival trail').child?
      (String.ofList name) = some (.file content) := by
    rw [harrival, hdir, FileNode.child?_setChild, if_pos rfl]
  refine ⟨trail', ⟨⟨⟨front, hroute, hfollow'⟩, ?_, h.notTrivial, h.notUp⟩, h.noSlash, ?_, h.short⟩,
    hchild⟩
  · exact FileNode.isDirectory_of_child? hchild
  · rintro node hnode ⟨inner, rfl⟩
    rw [hchild] at hnode
    cases hnode

/-- Where a path is accepted, it leads to what has its name. -/
theorem Accepts.locate {t : FileTree} {cwd : Place} {path : String} {trail : Trail}
    {name : List Char} (h : t.Accepts cwd path trail name) {node : FileNode}
    (hnode : (t.arrival trail).child? (String.ofList name) = some node) :
    t.locate cwd path = .ok (trail.place ++ [String.ofList name], node) := by
  obtain ⟨front, hroute, hfollow⟩ := h.route
  have hlast : t.follow [] (front ++ [name]) = .ok ((String.ofList name, node) :: trail) := by
    rw [follow_append hfollow, follow_name h.notTrivial h.notUp h.short hnode, follow]
  simp only [FileTree.locate, hroute, bind, Except.bind, hlast, pure, Except.pure, place_cons]
  rfl

/-- The file of a path as it stands in a tree. -/
structure Holds (t : FileTree) (cwd : Place) (path : String) (content : List UInt8) : Prop where
  read : t.read cwd path = .ok content
  kind : t.kind? cwd path = some .file
  rewritable : ∀ content', ∃ t', t.write cwd path content' = .ok t'

/-- What was written to a file is what it holds, and it can be written again. -/
theorem holds_of_write {t t' : FileTree} {cwd : Place} {path : String} {content : List UInt8}
    (h : t.write cwd path content = .ok t') : t'.Holds cwd path content := by
  obtain ⟨trail, name, haccepts, rfl⟩ := write_eq_ok_iff.mp h
  obtain ⟨trail', haccepts', hchild⟩ := haccepts.accepts_insert content
  have hlocate := haccepts'.locate hchild
  constructor
  · rw [read, hlocate]
    rfl
  · rw [kind?, hlocate]
    rfl
  · exact fun content' => ⟨_, write_eq_ok_iff.mpr ⟨trail', name, haccepts', rfl⟩⟩

theorem exists_write {t t' : FileTree} {cwd : Place} {path : String} {content : List UInt8}
    (h : t.write cwd path content = .ok t') (content' : List UInt8) :
    ∃ t'', t.write cwd path content' = .ok t'' := by
  obtain ⟨trail, name, haccepts, -⟩ := write_eq_ok_iff.mp h
  exact ⟨_, write_eq_ok_iff.mpr ⟨trail, name, haccepts, rfl⟩⟩

/-! ## Actions -/

theorem run_kind? (t : FileTree) (cwd : Place) (path : String) :
    ((files cwd).kind? path).run t = (t.kind? cwd path, t) := rfl

theorem run_read (t : FileTree) (cwd : Place) (path : String) :
    ((files cwd).read path).run t = (t.read cwd path, t) := rfl

end FileTree

/-- An action goes on with the value and in the tree that its first step leaves. -/
theorem run_bind_of_run {α β : Type} {x : StateM FileTree α} {f : α → StateM FileTree β}
    {t t' : FileTree} {a : α} (h : x.run t = (a, t')) : (x >>= f).run t = (f a).run t' := by
  rw [StateT.run_bind, h]
  rfl

theorem FileTree.run_exists?_of_kind? {t : FileTree} {cwd : Place} {path : String}
    {kind : FileKind} (h : t.kind? cwd path = some kind) :
    ((files cwd).exists? path).run t = (true, t) := by
  have hkind := run_kind? t cwd path
  rw [h] at hkind
  exact run_bind_of_run hkind

end VerilogLibrary
