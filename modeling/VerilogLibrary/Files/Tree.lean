import VerilogLibrary.Files.Basic

/-!
# A file tree in memory

A tree is what lies below a root: a directory has entries of different names,
each of which is a file or a directory in turn. A place is the list of the names
that lead from the root to a node, and the empty list is the place of the root.
-/

namespace VerilogLibrary

/-- The names from the root to a place in a tree. -/
abbrev Place := List String

/-- A file or a directory, with all that is in it. -/
inductive FileNode where
  | file (content : List UInt8)
  | directory (entries : List (String × FileNode))
  deriving Repr

namespace FileNode

/-- The kind of a node. -/
def kind : FileNode → FileKind
  | .file _ => .file
  | .directory _ => .directory

/-- The entry of a name. A file has none. -/
def child? : FileNode → String → Option FileNode
  | .file _, _ => none
  | .directory entries, name => entries.lookup name

/-- The node with an entry under a name, in place of any other. A file stays as it is. -/
def setChild : FileNode → String → FileNode → FileNode
  | .file content, _, _ => .file content
  | .directory entries, name, child => .directory ((name, child) :: entries.filter (·.1 != name))

/-- The node to which names lead. -/
def descendant? (n : FileNode) : Place → Option FileNode
  | [] => some n
  | name :: place => (n.child? name).bind (·.descendant? place)

/-- The node with a change at a place. Where the place is not there, nothing changes. -/
def modify (change : FileNode → FileNode) (n : FileNode) : Place → FileNode
  | [] => change n
  | name :: place =>
    match n.child? name with
    | some child => n.setChild name (child.modify change place)
    | none => n

end FileNode

/-- A root and all that is below it. -/
structure FileTree where
  root : FileNode
  deriving Repr

namespace FileTree

/-- What is at a place. -/
def node? (t : FileTree) (place : Place) : Option FileNode :=
  t.root.descendant? place

/-- The tree with a node under a name in the directory at a place. -/
def insert (t : FileTree) (place : Place) (name : String) (node : FileNode) : FileTree :=
  ⟨t.root.modify (·.setChild name node) place⟩

/-- The absolute path of a place. -/
def pathOf (place : Place) : String :=
  if place.isEmpty then "/" else String.join (place.map ("/" ++ ·))

end FileTree

end VerilogLibrary
