/-!
# Paths

A path is a text of segments with slashes between them. It starts at the root of
the file system if it starts with a slash, and at the working directory
otherwise. Empty segments and single dots say nothing and are passed over, except
for a dot at the very start, which stands for the working directory.

Paths are kept as they are written: joining and taking the parent never tidy up
the segments that stay.
-/

namespace VerilogLibrary.Path

/-- The segments between the slashes. There is always at least one. -/
def segments : List Char → List (List Char)
  | [] => [[]]
  | c :: cs =>
    if c = '/' then [] :: segments cs
    else match segments cs with
      | [] => [[c]]
      | segment :: rest => (c :: segment) :: rest

/-- The segments with slashes between them. -/
def unsegment (segs : List (List Char)) : List Char :=
  ['/'].intercalate segs

/-- Whether a segment says nothing about where a path leads. -/
def isTrivial (segment : List Char) : Bool :=
  segment == [] || segment == ['.']

/-- What a path starts with. -/
inductive Lead where
  /-- The root of the file system. -/
  | root
  /-- A dot for the working directory. -/
  | here
  /-- The first segment. -/
  | segment
  deriving DecidableEq, Repr

/-- The start of a path, and the segments behind it. -/
def split (cs : List Char) : Lead × List (List Char) :=
  match segments cs with
  | [] :: second :: rest => (.root, second :: rest)
  | ['.'] :: rest => (.here, rest)
  | segs => (.segment, segs)

/-- A step of a path. -/
inductive Component where
  | root
  | here
  | up
  | name (segment : List Char)
  deriving DecidableEq, Repr

/-- The step of a start. A path that starts with a segment has none. -/
def Lead.components : Lead → List Component
  | .root => [.root]
  | .here => [.here]
  | .segment => []

/-- The step of a segment. -/
def Component.ofSegment (segment : List Char) : Component :=
  if segment = ['.', '.'] then .up else .name segment

/-- The steps of a path. Paths with the same steps are the same path. -/
def components (path : String) : List Component :=
  let (lead, segs) := split path.toList
  lead.components ++ (segs.filter (!isTrivial ·)).map .ofSegment

/-- Whether a path starts at the root. -/
def isAbsolute (path : String) : Bool :=
  match path.toList with
  | '/' :: _ => true
  | _ => false

/-- A path that is taken from a base. An absolute path is taken as it is. -/
def join (base path : String) : String :=
  if isAbsolute path || base.isEmpty then path
  else if base.toList.getLast? = some '/' then base ++ path
  else base ++ "/" ++ path

/-- The text of a start and the segments behind it. -/
def ofSplit : Lead → List (List Char) → List Char
  | .root, segs => '/' :: unsegment segs
  | .here, [] => ['.']
  | .here, segs => '.' :: '/' :: unsegment segs
  | .segment, segs => unsegment segs

/-- The path without its last step. The root and the empty path have no parent. -/
def parent? (path : String) : Option String :=
  let (lead, segs) := split path.toList
  match segs.reverse.dropWhile isTrivial with
  | _ :: before => some (String.ofList (ofSplit lead (before.dropWhile isTrivial).reverse))
  | [] => if lead = .here then some "" else none

end VerilogLibrary.Path
