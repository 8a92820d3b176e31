/-!
# Places in the tree of directories

A path leads to a place: some steps down from the root of the tree, or from the directory of a
session or one above it. The names of the directories above that one are not known, so a place is
given by how far one goes up and by the names on the way down.

## Main definitions

* `Place`: a place in the tree of directories.
* `Place.parent`, `Place.child`: the places one step away.
-/

namespace LineBasic

/-- A directory to go down from: some levels above the one of a session, or the root. -/
inductive PathBase where
  | above (levels : Nat)
  | root
deriving DecidableEq, Repr

/-- The directory above a base. The root is above itself. -/
def PathBase.parent : PathBase → PathBase
  | above levels => above (levels + 1)
  | root => root

/-- The steps of a path to a base. -/
def PathBase.path : PathBase → List String
  | above levels => List.replicate levels ".."
  | root => [""]

/-- A place in the tree of directories: the names on the way down from a base. -/
structure Place where
  base : PathBase
  names : List String
deriving DecidableEq, Repr

namespace Place

/-- The directory of a session. -/
def here : Place := ⟨.above 0, []⟩

/-- The root of the tree. -/
def root : Place := ⟨.root, []⟩

/-- The place that the steps of a path start from. -/
def start (path : String) : Place := if path.toList.head? = some '/' then root else here

/-- The directory that a place is in. -/
def parent (p : Place) : Place :=
  if p.names = [] then ⟨p.base.parent, []⟩ else ⟨p.base, p.names.dropLast⟩

/-- The place of a name in a directory. -/
def child (p : Place) (name : String) : Place := ⟨p.base, p.names ++ [name]⟩

/-- A path to a place. -/
def path (p : Place) : String := String.intercalate "/" (p.base.path ++ p.names)

end Place

end LineBasic
