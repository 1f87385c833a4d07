import Mathlib
import VerilogLibrary.Path

/-!
# The steps of joined paths and of parents

Two paths are the same if they have the same steps, however many slashes and dots
they are written with. To join a path to a base adds its steps to those of the
base, and to take the parent drops the last step. So a file that is joined to a
directory has this directory for its parent, and it does not matter from which
spelling of a base a path is taken.

Texts are compared by their segments. A slash cuts the segments of a text in two,
and this is all that is needed about joining. The start of a path is settled by
its first segment; only in the empty path would a segment behind it change what
the first one says.
-/

namespace VerilogLibrary.Path

/-! ## Segments -/

theorem segments_ne_nil (cs : List Char) : segments cs ≠ [] := by
  cases cs with
  | nil => exact List.cons_ne_nil _ _
  | cons c cs =>
      rw [segments]
      split
      · exact List.cons_ne_nil _ _
      · split <;> exact List.cons_ne_nil _ _

/-- A character that is no slash goes to the front of the first segment. -/
theorem segments_cons_of_ne {c : Char} (hc : c ≠ '/') (cs : List Char) :
    ∃ segment rest, segments cs = segment :: rest ∧
      segments (c :: cs) = (c :: segment) :: rest := by
  cases hcs : segments cs with
  | nil => exact absurd hcs (segments_ne_nil cs)
  | cons segment rest =>
      refine ⟨segment, rest, rfl, ?_⟩
      rw [segments, if_neg hc, hcs]

theorem segments_slash (cs : List Char) : segments ('/' :: cs) = [] :: segments cs := by
  rw [segments, if_pos rfl]

/-- The last segment of a path is empty only behind a slash. -/
theorem getLast?_segments {cs : List Char} (hne : cs ≠ [])
    (h : (segments cs).getLast? = some []) : cs.getLast? = some '/' := by
  induction cs with
  | nil => exact absurd rfl hne
  | cons c cs ih =>
      by_cases hc : c = '/'
      · subst hc
        cases cs with
        | nil => rfl
        | cons d cs =>
            rw [segments_slash, List.getLast?_cons_of_ne_nil (segments_ne_nil _)] at h
            rw [List.getLast?_cons_cons]
            exact ih (List.cons_ne_nil d cs) h
      · obtain ⟨segment, rest, hcs, hsegments⟩ := segments_cons_of_ne hc cs
        rw [hsegments] at h
        cases rest with
        | nil => cases h
        | cons next rest =>
            cases cs with
            | nil => cases hcs
            | cons d cs =>
                rw [List.getLast?_cons_cons] at h ⊢
                refine ih (List.cons_ne_nil d cs) ?_
                rwa [hcs, List.getLast?_cons_cons]

theorem segments_append_slash (front behind : List Char) :
    segments (front ++ '/' :: behind) = segments front ++ segments behind := by
  induction front with
  | nil => exact segments_slash behind
  | cons c cs ih =>
      by_cases hc : c = '/'
      · subst hc
        rw [List.cons_append, segments_slash, segments_slash, ih, List.cons_append]
      · obtain ⟨segment, rest, hcs, hsegments⟩ := segments_cons_of_ne hc cs
        rw [List.cons_append, segments, if_neg hc, ih, hsegments, hcs]
        rfl

theorem slash_notMem_of_mem_segments {cs segment : List Char} (h : segment ∈ segments cs) :
    '/' ∉ segment := by
  induction cs generalizing segment with
  | nil =>
      obtain rfl := List.mem_singleton.mp h
      exact List.not_mem_nil
  | cons c cs ih =>
      by_cases hc : c = '/'
      · subst hc
        rw [segments_slash, List.mem_cons] at h
        rcases h with rfl | h
        · exact List.not_mem_nil
        · exact ih h
      · obtain ⟨first, rest, hcs, hsegments⟩ := segments_cons_of_ne hc cs
        rw [hsegments, List.mem_cons] at h
        rcases h with rfl | h
        · intro hmem
          rcases List.mem_cons.mp hmem with heq | hmem
          · exact hc heq.symm
          · exact ih (hcs ▸ List.mem_cons_self) hmem
        · exact ih (hcs ▸ List.mem_cons_of_mem first h)

theorem segments_of_slash_notMem {cs : List Char} (h : '/' ∉ cs) : segments cs = [cs] := by
  induction cs with
  | nil => rfl
  | cons c cs ih =>
      rw [List.mem_cons, not_or] at h
      rw [segments, if_neg (Ne.symm h.1), ih h.2]

theorem segments_unsegment {segs : List (List Char)} (hne : segs ≠ [])
    (hslash : ∀ segment ∈ segs, '/' ∉ segment) : segments (unsegment segs) = segs := by
  induction segs with
  | nil => exact absurd rfl hne
  | cons segment rest ih =>
      obtain ⟨hsegment, hrest⟩ := List.forall_mem_cons.mp hslash
      cases rest with
      | nil =>
          rw [unsegment, List.intercalate_singleton, segments_of_slash_notMem hsegment]
      | cons next rest =>
          rw [unsegment, List.intercalate_cons_cons, List.append_assoc, List.singleton_append,
            segments_append_slash, segments_of_slash_notMem hsegment]
          exact congrArg _ (ih (List.cons_ne_nil next rest) hrest)

theorem eq_nil_of_segments {cs : List Char} (h : segments cs = [[]]) : cs = [] := by
  cases cs with
  | nil => rfl
  | cons c cs =>
      by_cases hc : c = '/'
      · subst hc
        rw [segments_slash] at h
        exact absurd (List.cons.inj h).2 (segments_ne_nil cs)
      · obtain ⟨segment, rest, -, hsegments⟩ := segments_cons_of_ne hc cs
        rw [hsegments] at h
        cases h

/-! ## Steps -/

/-- The start of a path by its segments, and the segments behind it. -/
def splitSegments : List (List Char) → Lead × List (List Char)
  | [] :: second :: rest => (.root, second :: rest)
  | ['.'] :: rest => (.here, rest)
  | segs => (.segment, segs)

theorem split_eq (cs : List Char) : split cs = splitSegments (segments cs) := rfl

/-- The steps of segments behind a start. -/
def steps (segs : List (List Char)) : List Component :=
  (segs.filter (!isTrivial ·)).map .ofSegment

/-- The steps of a path by its segments. -/
def componentsOf (segs : List (List Char)) : List Component :=
  (splitSegments segs).1.components ++ steps (splitSegments segs).2

theorem components_eq (path : String) :
    components path = componentsOf (segments path.toList) := rfl

theorem steps_append (front behind : List (List Char)) :
    steps (front ++ behind) = steps front ++ steps behind := by
  simp only [steps, List.filter_append, List.map_append]

theorem steps_cons_of_not_trivial {segment : List Char} (h : isTrivial segment = false)
    (rest : List (List Char)) : steps (segment :: rest) = .ofSegment segment :: steps rest := by
  rw [steps, List.filter_cons_of_pos (by rw [h]; rfl), List.map_cons, steps]

theorem steps_reverse (segs : List (List Char)) : steps segs.reverse = (steps segs).reverse := by
  rw [steps, List.filter_reverse, List.map_reverse, steps]

theorem steps_dropWhile (segs : List (List Char)) :
    steps (segs.dropWhile isTrivial) = steps segs := by
  induction segs with
  | nil => rfl
  | cons segment rest ih =>
      by_cases h : isTrivial segment = true
      · rw [List.dropWhile_cons_of_pos h, ih, steps, steps, List.filter_cons_of_neg (by simp [h])]
      · rw [List.dropWhile_cons_of_neg h]

theorem steps_eq_reverse (segs : List (List Char)) :
    steps segs = (steps (segs.reverse.dropWhile isTrivial)).reverse := by
  rw [steps_dropWhile, steps_reverse, List.reverse_reverse]

theorem splitSegments_of_ne {segment : List Char} (hempty : segment ≠ [])
    (hdot : segment ≠ ['.']) (rest : List (List Char)) :
    splitSegments (segment :: rest) = (.segment, segment :: rest) := by
  unfold splitSegments
  split
  · next heq => exact absurd (List.cons.inj heq).1 hempty
  · next heq => exact absurd (List.cons.inj heq).1 hdot
  · rfl

theorem splitSegments_append {segs : List (List Char)} (hne : segs ≠ []) (hempty : segs ≠ [[]])
    (behind : List (List Char)) :
    splitSegments (segs ++ behind) =
      ((splitSegments segs).1, (splitSegments segs).2 ++ behind) := by
  cases segs with
  | nil => exact absurd rfl hne
  | cons segment rest =>
      by_cases hsegment : segment = []
      · subst hsegment
        cases rest with
        | nil => exact absurd rfl hempty
        | cons second rest => rfl
      · by_cases hdot : segment = ['.']
        · subst hdot
          rfl
        · rw [splitSegments_of_ne hsegment hdot, List.cons_append,
            splitSegments_of_ne hsegment hdot]

theorem componentsOf_append {segs : List (List Char)} (hne : segs ≠ []) (hempty : segs ≠ [[]])
    (behind : List (List Char)) :
    componentsOf (segs ++ behind) = componentsOf segs ++ steps behind := by
  rw [componentsOf, splitSegments_append hne hempty, componentsOf, steps_append,
    List.append_assoc]

/-! ## Joining -/

theorem componentsOf_append_slash {front : List Char} (h : front ≠ []) (behind : List Char) :
    componentsOf (segments (front ++ '/' :: behind)) =
      componentsOf (segments front) ++ steps (segments behind) := by
  rw [segments_append_slash,
    componentsOf_append (segments_ne_nil front) (mt eq_nil_of_segments h)]

theorem componentsOf_slash (behind : List Char) :
    componentsOf (segments ('/' :: behind)) = .root :: steps (segments behind) := by
  rw [segments_slash]
  cases hbehind : segments behind with
  | nil => exact absurd hbehind (segments_ne_nil behind)
  | cons segment rest => rfl

/-- A slash at the end of a base can be left to what is joined to it. -/
theorem componentsOf_append_of_getLast? {base : List Char} (h : base.getLast? = some '/')
    (behind : List Char) :
    componentsOf (segments (base ++ behind)) =
      componentsOf (segments base) ++ steps (segments behind) := by
  obtain ⟨front, rfl⟩ := List.getLast?_eq_some_iff.mp h
  rw [List.append_assoc, List.singleton_append]
  cases front with
  | nil =>
      show componentsOf (segments ('/' :: behind)) =
        componentsOf (segments ['/']) ++ steps (segments behind)
      rw [componentsOf_slash, componentsOf_slash]
      rfl
  | cons c front =>
      rw [componentsOf_append_slash (List.cons_ne_nil c front),
        componentsOf_append_slash (List.cons_ne_nil c front)]
      show _ = (_ ++ []) ++ _
      rw [List.append_nil]

theorem join_of_isAbsolute {path : String} (h : isAbsolute path = true) (base : String) :
    join base path = path := by
  rw [join, h, Bool.true_or, if_pos rfl]

theorem join_empty (path : String) : join "" path = path := by
  have hempty : ("".isEmpty : Bool) = true := rfl
  rw [join, hempty, Bool.or_true, if_pos rfl]

theorem toList_join {base path : String} (hbase : base ≠ "") (hpath : isAbsolute path = false) :
    (join base path).toList =
      if base.toList.getLast? = some '/' then base.toList ++ path.toList
      else base.toList ++ '/' :: path.toList := by
  have hempty : base.isEmpty = false := by
    rw [← Bool.not_eq_true, String.isEmpty_iff]
    exact hbase
  rw [join, hpath, hempty, Bool.or_self, if_neg Bool.false_ne_true]
  split
  · rw [String.toList_append]
  · rw [String.toList_append, String.toList_append, List.append_assoc]
    rfl

theorem components_join {base path : String} (hbase : base ≠ "")
    (hpath : isAbsolute path = false) :
    components (join base path) = components base ++ steps (segments path.toList) := by
  have hne : base.toList ≠ [] := mt String.toList_eq_nil_iff.mp hbase
  rw [components_eq, components_eq, toList_join hbase hpath]
  split
  · next hslash => exact componentsOf_append_of_getLast? hslash path.toList
  · exact componentsOf_append_slash hne path.toList

theorem componentsOf_ne_nil {segs : List (List Char)} (hne : segs ≠ []) (hempty : segs ≠ [[]]) :
    componentsOf segs ≠ [] := by
  cases segs with
  | nil => exact absurd rfl hne
  | cons segment rest =>
      by_cases hsegment : segment = []
      · subst hsegment
        cases rest with
        | nil => exact absurd rfl hempty
        | cons second rest => exact List.cons_ne_nil _ _
      · by_cases hdot : segment = ['.']
        · subst hdot
          exact List.cons_ne_nil _ _
        · have htrivial : isTrivial segment = false := by simp [isTrivial, hsegment, hdot]
          rw [componentsOf, splitSegments_of_ne hsegment hdot]
          show steps (segment :: rest) ≠ []
          rw [steps_cons_of_not_trivial htrivial]
          exact List.cons_ne_nil _ _

theorem components_eq_nil_iff {path : String} : components path = [] ↔ path = "" := by
  constructor
  · intro h
    by_contra hne
    refine componentsOf_ne_nil (segments_ne_nil _) (fun hempty => hne ?_) h
    exact String.toList_eq_nil_iff.mp (eq_nil_of_segments hempty)
  · intro h
    subst h
    rfl

/-- A path can be joined to any spelling of a base. -/
theorem components_join_congr {base base' : String} (h : components base = components base')
    (path : String) : components (join base path) = components (join base' path) := by
  cases hpath : isAbsolute path with
  | true => rw [join_of_isAbsolute hpath, join_of_isAbsolute hpath]
  | false =>
      by_cases hbase : base = ""
      · have hbase' : base' = "" := by
          rw [← components_eq_nil_iff, ← h, components_eq_nil_iff]
          exact hbase
        rw [hbase, hbase']
      · have hbase' : base' ≠ "" := by
          rw [Ne, ← components_eq_nil_iff, ← h, components_eq_nil_iff]
          exact hbase
        rw [components_join hbase hpath, components_join hbase' hpath, h]

/-! ## Parents -/

/-- Where a path starts with a segment, so does every part that is cut off behind. -/
theorem splitSegments_of_prefix {segs kept : List (List Char)}
    (h : splitSegments segs = (.segment, segs)) (hkept : kept <+: segs) :
    splitSegments kept = (.segment, kept) := by
  cases kept with
  | nil => rfl
  | cons segment rest =>
      obtain ⟨behind, rfl⟩ := hkept
      by_cases hsegment : segment = []
      · subst hsegment
        cases rest with
        | nil => rfl
        | cons second rest => cases h
      · by_cases hdot : segment = ['.']
        · subst hdot
          cases h
        · exact splitSegments_of_ne hsegment hdot rest

theorem componentsOf_ofSplit {lead : Lead} {segs : List (List Char)}
    (hslash : ∀ segment ∈ segs, '/' ∉ segment)
    (hlead : lead = .segment → splitSegments segs = (.segment, segs)) :
    componentsOf (segments (ofSplit lead segs)) = lead.components ++ steps segs := by
  cases lead with
  | root =>
      rw [ofSplit, componentsOf_slash]
      cases segs with
      | nil => rfl
      | cons segment rest =>
          rw [segments_unsegment (List.cons_ne_nil segment rest) hslash]
          rfl
  | here =>
      cases segs with
      | nil => rfl
      | cons segment rest =>
          show componentsOf (segments (['.'] ++ '/' :: unsegment (segment :: rest))) = _
          rw [componentsOf_append_slash (List.cons_ne_nil _ _),
            segments_unsegment (List.cons_ne_nil segment rest) hslash]
          rfl
  | segment =>
      cases segs with
      | nil => rfl
      | cons segment rest =>
          rw [ofSplit, segments_unsegment (List.cons_ne_nil segment rest) hslash, componentsOf,
            hlead rfl]

theorem mem_of_splitSegments {segs behind : List (List Char)} {lead : Lead} {segment : List Char}
    (h : splitSegments segs = (lead, behind)) (hmem : segment ∈ behind) : segment ∈ segs := by
  unfold splitSegments at h
  split at h
  · cases h
    exact List.mem_cons_of_mem _ hmem
  · cases h
    exact List.mem_cons_of_mem _ hmem
  · cases h
    exact hmem

theorem eq_of_splitSegments {segs behind : List (List Char)}
    (h : splitSegments segs = (.segment, behind)) : behind = segs := by
  unfold splitSegments at h
  split at h
  · cases h
  · cases h
  · cases h
    rfl

theorem isTrivial_of_dropWhile {segs before : List (List Char)} {last : List Char}
    (h : segs.dropWhile isTrivial = last :: before) : isTrivial last = false := by
  have hfirst := List.dropWhile_get_zero_not (p := isTrivial) segs (by rw [h]; exact Nat.succ_pos _)
  simp only [h, List.get_eq_getElem, List.getElem_cons_zero] at hfirst
  exact Bool.eq_false_of_not_eq_true hfirst

theorem reverse_dropWhile_isPrefix {segs before : List (List Char)} {last : List Char}
    (h : segs.reverse.dropWhile isTrivial = last :: before) :
    (before.dropWhile isTrivial).reverse <+: segs := by
  have hlast : last :: before <:+ segs.reverse := by
    rw [← h]
    exact List.dropWhile_suffix isTrivial
  have hbefore : before.dropWhile isTrivial <:+ segs.reverse :=
    (List.dropWhile_suffix isTrivial).trans ((List.suffix_cons last before).trans hlast)
  rwa [← List.reverse_reverse segs, List.reverse_prefix]

theorem components_of_split {path : String} {lead : Lead} {segs : List (List Char)}
    (h : split path.toList = (lead, segs)) : components path = lead.components ++ steps segs := by
  rw [components_eq, componentsOf, ← split_eq, h]

/-- To take the parent drops the last step. -/
theorem components_of_parent? {path parent : String} (h : parent? path = some parent) :
    ∃ step, components path = components parent ++ [step] := by
  rcases hsplit : split path.toList with ⟨lead, segs⟩
  have hpath := components_of_split hsplit
  simp only [parent?, hsplit] at h
  rw [split_eq] at hsplit
  split at h
  · next last before hlast =>
      have hfront := reverse_dropWhile_isPrefix hlast
      have hslash : ∀ segment ∈ (before.dropWhile isTrivial).reverse, '/' ∉ segment := by
        intro segment hmem
        exact slash_notMem_of_mem_segments (mem_of_splitSegments hsplit (hfront.subset hmem))
      have hlead : lead = .segment →
          splitSegments (before.dropWhile isTrivial).reverse =
            (.segment, (before.dropWhile isTrivial).reverse) := by
        intro hlead
        subst hlead
        obtain rfl := eq_of_splitSegments hsplit
        exact splitSegments_of_prefix hsplit hfront
      have hsteps : steps segs = (steps before).reverse ++ [.ofSegment last] := by
        rw [steps_eq_reverse, hlast,
          steps_cons_of_not_trivial (isTrivial_of_dropWhile hlast), List.reverse_cons]
      refine ⟨.ofSegment last, ?_⟩
      rw [← Option.some.inj h, hpath, hsteps, components_eq, String.toList_ofList,
        componentsOf_ofSplit hslash hlead, steps_reverse, steps_dropWhile, List.append_assoc]
  · next hnone =>
      split at h
      · next hlead =>
          subst hlead
          have hsteps : steps segs = [] := by
            rw [steps_eq_reverse, hnone]
            rfl
          refine ⟨.here, ?_⟩
          rw [← Option.some.inj h, hpath, hsteps]
          rfl
      · cases h

theorem exists_parent? {path : String} {front : List Component} {name : List Char}
    (h : components path = front ++ [.name name]) : ∃ parent, parent? path = some parent := by
  rcases hsplit : split path.toList with ⟨lead, segs⟩
  simp only [parent?, hsplit]
  split
  · exact ⟨_, rfl⟩
  · next hnone =>
      have hsteps : steps segs = [] := by
        rw [steps_eq_reverse, hnone]
        rfl
      rw [components_of_split hsplit, hsteps, List.append_nil] at h
      have hlast := congrArg List.getLast? h
      rw [List.getLast?_concat] at hlast
      cases lead <;> cases hlast

theorem components_parent_join {base path : String} {name : List Char} (hbase : base ≠ "")
    (hpath : isAbsolute path = false) (hname : steps (segments path.toList) = [.name name]) :
    ∃ parent, parent? (join base path) = some parent ∧ components parent = components base := by
  have hjoin := components_join hbase hpath
  rw [hname] at hjoin
  obtain ⟨parent, hparent⟩ := exists_parent? hjoin
  obtain ⟨step, hstep⟩ := components_of_parent? hparent
  rw [hjoin] at hstep
  exact ⟨parent, hparent, (List.append_inj_left' hstep rfl).symm⟩

end VerilogLibrary.Path
