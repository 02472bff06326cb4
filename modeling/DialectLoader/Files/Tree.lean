/-!
# Trees of named entries

A file system is a tree: every node holds an entry, and below it are nodes with different names. The
place of a node is the list of the names that lead to it from the root. Nodes with one parent are
kept in the order of their names, so listing a tree meets a directory before its contents and names
in their own order.
-/

namespace DialectLoader

/-- A place in a tree: the names that lead to it from the root. -/
abbrev Place := List String

/-- A tree of entries: one at its root, and below it trees with names. -/
inductive FileTree (α : Type) where
  | node (entry : α) (children : List (String × FileTree α))

namespace FileTree

variable {α : Type}

def entry : FileTree α → α
  | .node entry _ => entry

def children : FileTree α → List (String × FileTree α)
  | .node _ children => children

def child? (tree : FileTree α) (name : String) : Option (FileTree α) :=
  tree.children.lookup name

def at? : Place → FileTree α → Option (FileTree α)
  | [], tree => some tree
  | name :: rest, tree => (tree.child? name).bind (at? rest)

/-- Changes the tree with a name among others, which may be a new one, and keeps them in the order
of their names. -/
def alter (name : String) (change : Option (FileTree α) → FileTree α) :
    List (String × FileTree α) → List (String × FileTree α)
  | [] => [(name, change none)]
  | (known, tree) :: rest =>
    if name = known then (known, change (some tree)) :: rest
    else if name < known then (name, change none) :: (known, tree) :: rest
    else (known, tree) :: alter name change rest

/-- Puts an entry at a place and leaves what is below it. Missing nodes on the way are made with the
entry `blank`. -/
def insert (blank entry : α) : Place → FileTree α → FileTree α
  | [], tree => .node entry tree.children
  | name :: rest, tree =>
    .node tree.entry
      (alter name (fun known => insert blank entry rest (known.getD (.node blank [])))
        tree.children)

/-- Removes what is at a place and below it. The root stays. -/
def erase : Place → FileTree α → FileTree α
  | [], tree => .node tree.entry []
  | [name], tree => .node tree.entry (tree.children.filter (·.1 != name))
  | name :: rest, tree =>
    .node tree.entry (tree.children.map fun (known, below) =>
      (known, if known = name then erase rest below else below))

def clear : Place → FileTree α → FileTree α
  | [], tree => .node tree.entry []
  | name :: rest, tree =>
    .node tree.entry (tree.children.map fun (known, below) =>
      (known, if known = name then clear rest below else below))

mutual

/-- The entries of a tree with their places. The first argument is the place of the tree itself,
last name first. -/
def listFrom (place : Place) : FileTree α → List (Place × α)
  | .node entry children => (place.reverse, entry) :: listBelow place children

def listBelow (place : Place) : List (String × FileTree α) → List (Place × α)
  | [] => []
  | (name, tree) :: rest => listFrom (name :: place) tree ++ listBelow place rest

end

/-- The entries below the root with their places, each directory before its contents. -/
def entries (tree : FileTree α) : List (Place × α) :=
  listBelow [] tree.children

end FileTree

end DialectLoader
