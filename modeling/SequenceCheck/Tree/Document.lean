import SequenceCheck.Tree.Outlined
import SequenceCheck.Outline.Decode
import SequenceCheck.Outline.Encode

/-!
# Trees and documents

A tree is read from a JSON value or text by way of its outline, and written back the same way, in
any format. The module also has the one-line descriptions of nodes and leaves.
-/

set_option autoImplicit false

namespace SequenceCheck.Tree

/-- The tree that a JSON value describes. -/
def ofJson [Json.Format] (json : Json) : Except DecodeError Tree :=
  (Outline.ofJson json).map ofOutline

/-- The tree that a text describes. -/
def ofText [Json.Format] (text : String) : Except DecodeError Tree :=
  (Outline.ofText text).map ofOutline

/-- The JSON form of a tree. -/
def json (tree : Tree) : Json :=
  tree.outline.json

/-- The text of a tree. -/
def text [Json.Format] (tree : Tree) : String :=
  tree.json.text

variable {tree : Tree}

/-- The description of a node: its number and kind. -/
def NodeAt.describe (node : tree.NodeAt) : String :=
  "NodeRef \x7b id: NodeId(" ++ toString node.id ++ "), kind: " ++ node.kind.title ++ " \x7d"

/-- The description of a leaf: its number, key and value. -/
def LeafAt.describe (leaf : tree.LeafAt) : String :=
  "LeafRef \x7b id: LeafId(" ++ toString leaf.id ++ "), kind: " ++ Text.quoted leaf.key ++
    ", value: " ++ leaf.value.describe ++ " \x7d"

end SequenceCheck.Tree
