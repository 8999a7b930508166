import SequenceCheck.Tree.OfOutline

/-!
# Positions in a tree

`tree.NodeAt` and `tree.LeafAt` are the nodes and leaves of a tree, seen from where they stand: from
a position one reads what is stored there and moves to arguments, body, parent or owner. A position
carries the proof that it is one, so every move has an answer, and the answers are positions of the
same tree.

Main statements: arguments and body lie at greater numbers (`id_lt_of_mem_args`,
`id_lt_of_mem_body`) and the parent at a smaller one (`parent_id_lt`), which is what recursion down
and up a tree rests on.
-/

set_option autoImplicit false

namespace SequenceCheck.Tree

/-- A node of a tree, given by its number. -/
@[ext]
structure NodeAt (tree : Tree) where
  id : Nat
  isLt : id < tree.nodes.size
  deriving DecidableEq

/-- A leaf of a tree, given by its number. -/
@[ext]
structure LeafAt (tree : Tree) where
  id : Nat
  isLt : id < tree.leaves.size
  deriving DecidableEq

/-- An argument as a position of its tree shows it. -/
abbrev ArgAt (tree : Tree) := Arg tree.NodeAt tree.LeafAt

variable {tree : Tree}

/-- The root of a tree. -/
def root (tree : Tree) : tree.NodeAt :=
  ⟨0, tree.nonempty⟩

/-- The node of a number, if the tree has one. -/
def node? (tree : Tree) (id : Nat) : Option tree.NodeAt :=
  if isLt : id < tree.nodes.size then some ⟨id, isLt⟩ else none

/-- Every node, by number. -/
def allNodes (tree : Tree) : List tree.NodeAt :=
  (List.finRange tree.nodes.size).map fun id => ⟨id.val, id.isLt⟩

theorem mem_allNodes (node : tree.NodeAt) : node ∈ tree.allNodes :=
  List.mem_map.2 ⟨⟨node.id, node.isLt⟩, List.mem_finRange _, rfl⟩

/-- Every leaf, by number. -/
def allLeaves (tree : Tree) : List tree.LeafAt :=
  (List.finRange tree.leaves.size).map fun id => ⟨id.val, id.isLt⟩

/-- Whether the numbers in a stored argument are those of a node or leaf of the tree. -/
def ArgInRange (tree : Tree) : Arg Nat Nat → Prop
  | .node id => id < tree.nodes.size
  | .leaf id => id < tree.leaves.size
  | .malformed _ => True

/-- A stored argument as positions show it. -/
def argAt (tree : Tree) : (arg : Arg Nat Nat) → tree.ArgInRange arg → tree.ArgAt
  | .node id, inRange => .node ⟨id, inRange⟩
  | .leaf id, inRange => .leaf ⟨id, inRange⟩
  | .malformed raw, _ => .malformed raw

namespace NodeAt

/-- What the tree stores at a node. -/
def stored : tree.NodeAt → Node
  | ⟨id, _isLt⟩ => tree.nodes[id]

theorem getElem?_id (node : tree.NodeAt) : tree.nodes[node.id]? = some node.stored :=
  Array.getElem?_eq_getElem node.isLt

theorem argInRange_of_mem {node : tree.NodeAt} :
    ∀ entry ∈ node.stored.args, tree.ArgInRange entry.2
  | (key, .node child), mem => by
    have below : child ∈ node.stored.children :=
      List.mem_append_left _ (List.mem_filterMap.2 ⟨_, mem, rfl⟩)
    exact (tree.children_inRange node.getElem?_id child below).2
  | (key, .leaf leaf), mem => by
    have below : leaf ∈ node.stored.leaves := List.mem_filterMap.2 ⟨_, mem, rfl⟩
    exact tree.leaves_inRange node.getElem?_id leaf below
  | (key, .malformed _), _ => trivial

theorem inRange_of_mem_body {node : tree.NodeAt} :
    ∀ child ∈ node.stored.body, child < tree.nodes.size :=
  fun child mem =>
    (tree.children_inRange node.getElem?_id child (List.mem_append_right _ mem)).2

/-- The kind of a node. -/
def kind (node : tree.NodeAt) : Kind :=
  node.stored.kind

/-- The comment of a node. -/
def comment (node : tree.NodeAt) : Option String :=
  node.stored.comment

/-- The parent of a node; the root has none. -/
def parent (node : tree.NodeAt) : Option tree.NodeAt :=
  node.stored.parent.pmap NodeAt.mk fun parent mem =>
    Nat.lt_trans (tree.parent_lt node.getElem?_id parent mem) node.isLt

/-- The arguments of a node, in declared order. -/
def args (node : tree.NodeAt) : List (String × tree.ArgAt) :=
  node.stored.args.pmap (fun entry inRange => (entry.1, tree.argAt entry.2 inRange))
    argInRange_of_mem

/-- The body of a node, in order. -/
def body (node : tree.NodeAt) : List tree.NodeAt :=
  node.stored.body.pmap NodeAt.mk inRange_of_mem_body

/-- The keys of a node's arguments, in declared order. -/
def argKeys (node : tree.NodeAt) : List String :=
  Keyed.keys node.args

/-- The argument of a node under a key. -/
def arg? (node : tree.NodeAt) (key : String) : Option tree.ArgAt :=
  node.args.lookup key

/-- Whether a node has an argument under a key. -/
def hasArg (node : tree.NodeAt) (key : String) : Bool :=
  node.argKeys.contains key

/-- The node under a key of a node, if a node stands there. -/
def nodeArg? (node : tree.NodeAt) (key : String) : Option tree.NodeAt :=
  (node.arg? key).bind Arg.node?

/-- The leaf under a key of a node, if a leaf stands there. -/
def leafArg? (node : tree.NodeAt) (key : String) : Option tree.LeafAt :=
  (node.arg? key).bind Arg.leaf?

end NodeAt

namespace LeafAt

/-- What the tree stores at a leaf. -/
def stored : tree.LeafAt → Leaf
  | ⟨id, _isLt⟩ => tree.leaves[id]

theorem getElem?_id (leaf : tree.LeafAt) : tree.leaves[leaf.id]? = some leaf.stored :=
  Array.getElem?_eq_getElem leaf.isLt

/-- The key that a leaf stands under. -/
def key (leaf : tree.LeafAt) : String :=
  leaf.stored.key

/-- The value of a leaf. -/
def value (leaf : tree.LeafAt) : Value :=
  leaf.stored.value

/-- The node that has a leaf as an argument. -/
def owner (leaf : tree.LeafAt) : tree.NodeAt :=
  ⟨leaf.stored.owner, tree.owner_lt leaf.getElem?_id⟩

end LeafAt

/-- The value of the leaf under a key of a node, if a leaf stands there. -/
def NodeAt.leafValue? (node : tree.NodeAt) (key : String) : Option Value :=
  (node.leafArg? key).map LeafAt.value

/-! ## Numbers and moves -/

namespace NodeAt

@[simp]
theorem map_id_body (node : tree.NodeAt) : node.body.map NodeAt.id = node.stored.body := by
  simp [body, List.map_pmap]

@[simp]
theorem argKeys_eq (node : tree.NodeAt) : node.argKeys = Keyed.keys node.stored.args := by
  simp [argKeys, args, Keyed.keys, List.map_pmap]

/-- A child of the body has a greater number. -/
theorem id_lt_of_mem_body {node child : tree.NodeAt} (mem : child ∈ node.body) :
    node.id < child.id := by
  obtain ⟨id, stored, rfl⟩ := List.mem_pmap.1 mem
  exact (tree.children_inRange node.getElem?_id id (List.mem_append_right _ stored)).1

/-- A node among the arguments has a greater number. -/
theorem id_lt_of_mem_args {node child : tree.NodeAt} {key : String}
    (mem : (key, Arg.node child) ∈ node.args) : node.id < child.id := by
  obtain ⟨⟨storedKey, arg⟩, stored, same⟩ := List.mem_pmap.1 mem
  cases arg with
  | node id =>
    simp only [argAt, Prod.mk.injEq, Arg.node.injEq] at same
    obtain ⟨_, rfl⟩ := same
    have below : id ∈ node.stored.children :=
      List.mem_append_left _ (List.mem_filterMap.2 ⟨_, stored, rfl⟩)
    exact (tree.children_inRange node.getElem?_id id below).1
  | leaf id => simp [argAt] at same
  | malformed raw => simp [argAt] at same

/-- The parent has a smaller number. -/
theorem parent_id_lt {node above : tree.NodeAt} (h : node.parent = some above) :
    above.id < node.id := by
  obtain ⟨id, _, stored, rfl⟩ := Option.pmap_eq_some_iff.1 h
  exact tree.parent_lt node.getElem?_id id stored

/-- How many numbers are left from a node on. It shrinks from a node to what is below it. -/
def remaining (node : tree.NodeAt) : Nat :=
  tree.nodes.size - node.id

theorem remaining_lt_of_mem_body {node child : tree.NodeAt} (mem : child ∈ node.body) :
    child.remaining < node.remaining := by
  have := id_lt_of_mem_body mem
  have := child.isLt
  unfold remaining
  omega

theorem remaining_lt_of_mem_args {node child : tree.NodeAt} {key : String}
    (mem : (key, Arg.node child) ∈ node.args) : child.remaining < node.remaining := by
  have := id_lt_of_mem_args mem
  have := child.isLt
  unfold remaining
  omega

end NodeAt

end SequenceCheck.Tree
