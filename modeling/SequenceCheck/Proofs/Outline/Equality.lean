import SequenceCheck.Proofs.RelatedArgs
import SequenceCheck.Tree.OfOutline

/-!
# Equal outlines

Equality of outlines goes through both outlines at once. It is taken apart here from the first one:
what an outline equals is an outline of the same kind and comment with equal arguments and an equal
body (`same_iff`), what a list of arguments equals has an equal argument under each key in turn
(`sameArgs_cons_iff`), and a body likewise (`sameBody_cons_iff`).

Main statements: equal outlines have as many nodes and leaves (`counts_eq_of_same`), and their
layouts are equal node by node (`forall₂_laidNodes`) and leaf by leaf (`forall₂_laidLeaves`).
-/

set_option autoImplicit false

namespace SequenceCheck

/-! ## Arguments -/

namespace Arg

variable {ν l : Type} {sameNode : ν → ν → Bool} {sameLeaf : l → l → Bool} {other : Arg ν l}

theorem eq_node_of_same {a : ν} (h : (Arg.node a).same sameNode sameLeaf other = true) :
    ∃ b, other = .node b ∧ sameNode a b = true := by
  cases other with
  | node b => exact ⟨b, rfl, h⟩
  | leaf b => cases h
  | malformed raw => cases h

theorem eq_leaf_of_same {a : l} (h : (Arg.leaf a).same sameNode sameLeaf other = true) :
    ∃ b, other = .leaf b ∧ sameLeaf a b = true := by
  cases other with
  | node b => cases h
  | leaf b => exact ⟨b, rfl, h⟩
  | malformed raw => cases h

theorem eq_malformed_of_same {raw : Json}
    (h : (Arg.malformed raw).same sameNode sameLeaf other = true) :
    ∃ received, other = .malformed received ∧ raw.same received = true := by
  cases other with
  | node b => cases h
  | leaf b => cases h
  | malformed received => exact ⟨received, rfl, h⟩

end Arg

/-- Lists of numbered arguments are equal if they have the same keys with equal arguments. -/
theorem Tree.sameArgs_iff {args others : List (String × Arg Nat Nat)} :
    Tree.sameArgs args others = true ↔
      List.Forall₂ (Keyed.Rel fun a b => a.same (· == ·) (· == ·) b = true) args others := by
  have entry : ∀ a b : String × Arg Nat Nat,
      (a.1 == b.1 && a.2.same (· == ·) (· == ·) b.2) = true ↔
        Keyed.Rel (fun a b => a.same (· == ·) (· == ·) b = true) a b := by
    intro a b
    rw [Bool.and_eq_true, beq_iff_eq, Keyed.rel_iff]
  rw [sameArgs, Bool.and_eq_true, beq_iff_eq]
  exact all_zip_iff.trans ⟨fun each => each.imp fun a b => (entry a b).1,
    fun each => each.imp fun a b => (entry a b).2⟩

namespace Outline

/-! ## What an outline equals -/

theorem same_iff {a b : Outline} :
    a.same b = true ↔ a.kind = b.kind ∧ sameArgs a.args b.args = true ∧
      sameBody a.body b.body = true ∧ a.comment = b.comment := by
  cases a
  simp only [same, Bool.and_eq_true, beq_iff_eq, and_assoc]

theorem sameArgs_nil_iff {others : List (String × Arg Outline Value)} :
    sameArgs [] others = true ↔ others = [] := by
  cases others <;> simp [sameArgs]

/-- The first entry of a list of arguments has an equal one under the same key. -/
theorem sameArgs_cons_iff {key : String} {arg : Arg Outline Value}
    {rest others : List (String × Arg Outline Value)} :
    sameArgs ((key, arg) :: rest) others = true ↔
      ∃ other later, others = (key, other) :: later ∧
        arg.same Outline.same Value.same other = true ∧ sameArgs rest later = true := by
  constructor
  · intro h
    cases others with
    | nil => cases arg <;> simp [sameArgs] at h
    | cons entry later =>
      rcases entry with ⟨name, other⟩
      refine ⟨other, later, ?_⟩
      cases arg <;> cases other <;>
        simp_all [sameArgs, Arg.same, Bool.and_eq_true]
  · rintro ⟨other, later, rfl, same, more⟩
    cases arg <;> cases other <;> simp_all [sameArgs, Arg.same]

theorem sameBody_nil_iff {others : List Outline} : sameBody [] others = true ↔ others = [] := by
  cases others <;> simp [sameBody]

theorem sameBody_cons_iff {outline : Outline} {rest others : List Outline} :
    sameBody (outline :: rest) others = true ↔
      ∃ other later, others = other :: later ∧ outline.same other = true ∧
        sameBody rest later = true := by
  cases others <;> simp [sameBody]

/-! ## Sizes -/

mutual

/-- Equal outlines have as many nodes and as many leaves. -/
theorem counts_eq_of_same : ∀ (a : Outline) {b : Outline}, a.same b = true →
    a.nodeCount = b.nodeCount ∧ a.leafCount = b.leafCount
  | ⟨_, args, body, _⟩, ⟨_, others, later, _⟩, h => by
    obtain ⟨_, equalArgs, equalBody, _⟩ := same_iff.1 h
    -- Both counts go down an outline in the same way, so one recursion is for both.
    obtain ⟨argNodes, argLeaves⟩ := argsCounts_eq_of_same args equalArgs
    obtain ⟨bodyNodes, bodyLeaves⟩ := bodyCounts_eq_of_same body equalBody
    rw [nodeCount, nodeCount, leafCount, leafCount, argNodes, bodyNodes, argLeaves, bodyLeaves]
    exact ⟨rfl, rfl⟩

theorem argsCounts_eq_of_same : ∀ (args : List (String × Arg Outline Value))
    {others : List (String × Arg Outline Value)}, sameArgs args others = true →
      argsNodeCount args = argsNodeCount others ∧ argsLeafCount args = argsLeafCount others
  | [], _, h => by
    rw [sameArgs_nil_iff.1 h]
    exact ⟨rfl, rfl⟩
  | (_, .node outline) :: rest, _, h => by
    obtain ⟨_, later, rfl, same, more⟩ := sameArgs_cons_iff.1 h
    obtain ⟨other, rfl, below⟩ := Arg.eq_node_of_same same
    obtain ⟨nodes, leaves⟩ := counts_eq_of_same outline below
    obtain ⟨restNodes, restLeaves⟩ := argsCounts_eq_of_same rest more
    rw [argsNodeCount, argsNodeCount, argsLeafCount, argsLeafCount, nodes, leaves, restNodes,
      restLeaves]
    exact ⟨rfl, rfl⟩
  | (_, .leaf _) :: rest, _, h => by
    obtain ⟨_, later, rfl, same, more⟩ := sameArgs_cons_iff.1 h
    obtain ⟨other, rfl, _⟩ := Arg.eq_leaf_of_same same
    obtain ⟨restNodes, restLeaves⟩ := argsCounts_eq_of_same rest more
    exact ⟨restNodes, congrArg (1 + ·) restLeaves⟩
  | (_, .malformed _) :: rest, _, h => by
    obtain ⟨_, later, rfl, same, more⟩ := sameArgs_cons_iff.1 h
    obtain ⟨other, rfl, _⟩ := Arg.eq_malformed_of_same same
    obtain ⟨restNodes, restLeaves⟩ := argsCounts_eq_of_same rest more
    exact ⟨restNodes, restLeaves⟩

theorem bodyCounts_eq_of_same : ∀ (body : List Outline) {others : List Outline},
    sameBody body others = true →
      bodyNodeCount body = bodyNodeCount others ∧ bodyLeafCount body = bodyLeafCount others
  | [], _, h => by
    rw [sameBody_nil_iff.1 h]
    exact ⟨rfl, rfl⟩
  | outline :: rest, _, h => by
    obtain ⟨other, later, rfl, same, more⟩ := sameBody_cons_iff.1 h
    obtain ⟨nodes, leaves⟩ := counts_eq_of_same outline same
    obtain ⟨restNodes, restLeaves⟩ := bodyCounts_eq_of_same rest more
    rw [bodyNodeCount, bodyNodeCount, bodyLeafCount, bodyLeafCount, nodes, leaves, restNodes,
      restLeaves]
    exact ⟨rfl, rfl⟩

end

/-! ## Layouts -/

/-- Equal arguments are numbered alike. -/
theorem sameArgs_numberedArgs {id leaf : Nat} : ∀ {args others : List (String × Arg Outline Value)},
    sameArgs args others = true →
      Tree.sameArgs (numberedArgs id leaf args) (numberedArgs id leaf others) = true
  | [], _, h => by
    rw [sameArgs_nil_iff.1 h]
    rfl
  | (_, .node outline) :: rest, _, h => by
    obtain ⟨_, later, rfl, same, more⟩ := sameArgs_cons_iff.1 h
    obtain ⟨other, rfl, below⟩ := Arg.eq_node_of_same same
    obtain ⟨nodes, leaves⟩ := counts_eq_of_same outline below
    rw [numberedArgs, numberedArgs, ← nodes, ← leaves]
    exact Tree.sameArgs_iff.2 (.cons (.entry (beq_self_eq_true id))
      (Tree.sameArgs_iff.1 (sameArgs_numberedArgs more)))
  | (_, .leaf _) :: rest, _, h => by
    obtain ⟨_, later, rfl, same, more⟩ := sameArgs_cons_iff.1 h
    obtain ⟨other, rfl, _⟩ := Arg.eq_leaf_of_same same
    exact Tree.sameArgs_iff.2 (.cons (.entry (beq_self_eq_true leaf))
      (Tree.sameArgs_iff.1 (sameArgs_numberedArgs more)))
  | (_, .malformed _) :: rest, _, h => by
    obtain ⟨_, later, rfl, same, more⟩ := sameArgs_cons_iff.1 h
    obtain ⟨other, rfl, raw⟩ := Arg.eq_malformed_of_same same
    exact Tree.sameArgs_iff.2 (.cons (.entry raw)
      (Tree.sameArgs_iff.1 (sameArgs_numberedArgs more)))

/-- Equal bodies are numbered alike. -/
theorem numberedBody_eq_of_same {id : Nat} : ∀ {body others : List Outline},
    sameBody body others = true → numberedBody id body = numberedBody id others
  | [], _, h => by rw [sameBody_nil_iff.1 h]
  | outline :: rest, _, h => by
    obtain ⟨other, later, rfl, same, more⟩ := sameBody_cons_iff.1 h
    rw [numberedBody, numberedBody, (counts_eq_of_same outline same).1,
      numberedBody_eq_of_same more]

mutual

/-- Equal outlines are laid out as equal nodes. -/
theorem forall₂_laidNodes (parent : Option Nat) (id leaf : Nat) :
    ∀ (a : Outline) {b : Outline}, a.same b = true →
      List.Forall₂ (fun x y => x.same y = true) (a.laidNodes parent id leaf)
        (b.laidNodes parent id leaf)
  | ⟨kind, args, body, comment⟩, ⟨otherKind, others, later, otherComment⟩, h => by
    obtain ⟨rfl, equalArgs, equalBody, rfl⟩ := same_iff.1 h
    obtain ⟨argNodes, argLeaves⟩ := argsCounts_eq_of_same args equalArgs
    rw [laidNodes, laidNodes, ← argNodes, ← argLeaves, ← numberedBody_eq_of_same equalBody]
    refine .cons ?_ (List.rel_append (forall₂_laidArgs _ _ _ args equalArgs)
      (forall₂_laidBody _ _ _ body equalBody))
    rw [Tree.Node.same, sameArgs_numberedArgs equalArgs]
    simp only [beq_self_eq_true, Bool.and_self]

theorem forall₂_laidArgs (owner id leaf : Nat) : ∀ (args : List (String × Arg Outline Value))
    {others : List (String × Arg Outline Value)}, sameArgs args others = true →
      List.Forall₂ (fun x y => x.same y = true) (laidArgs owner id leaf args)
        (laidArgs owner id leaf others)
  | [], _, h => by
    rw [sameArgs_nil_iff.1 h]
    exact .nil
  | (_, .node outline) :: rest, _, h => by
    obtain ⟨_, later, rfl, same, more⟩ := sameArgs_cons_iff.1 h
    obtain ⟨other, rfl, below⟩ := Arg.eq_node_of_same same
    obtain ⟨nodes, leaves⟩ := counts_eq_of_same outline below
    rw [laidArgs, laidArgs, ← nodes, ← leaves]
    exact List.rel_append (forall₂_laidNodes _ _ _ outline below) (forall₂_laidArgs _ _ _ rest more)
  | (_, .leaf _) :: rest, _, h => by
    obtain ⟨_, later, rfl, same, more⟩ := sameArgs_cons_iff.1 h
    obtain ⟨other, rfl, _⟩ := Arg.eq_leaf_of_same same
    rw [laidArgs, laidArgs]
    exact forall₂_laidArgs owner id (leaf + 1) rest more
  | (_, .malformed _) :: rest, _, h => by
    obtain ⟨_, later, rfl, same, more⟩ := sameArgs_cons_iff.1 h
    obtain ⟨other, rfl, _⟩ := Arg.eq_malformed_of_same same
    rw [laidArgs, laidArgs]
    exact forall₂_laidArgs owner id leaf rest more

theorem forall₂_laidBody (owner id leaf : Nat) : ∀ (body : List Outline) {others : List Outline},
    sameBody body others = true →
      List.Forall₂ (fun x y => x.same y = true) (laidBody owner id leaf body)
        (laidBody owner id leaf others)
  | [], _, h => by
    rw [sameBody_nil_iff.1 h]
    exact .nil
  | outline :: rest, _, h => by
    obtain ⟨other, later, rfl, same, more⟩ := sameBody_cons_iff.1 h
    obtain ⟨nodes, leaves⟩ := counts_eq_of_same outline same
    rw [laidBody, laidBody, ← nodes, ← leaves]
    exact List.rel_append (forall₂_laidNodes _ _ _ outline same) (forall₂_laidBody _ _ _ rest more)

end

mutual

/-- Equal outlines are laid out as equal leaves. -/
theorem forall₂_laidLeaves (id : Nat) : ∀ (a : Outline) {b : Outline}, a.same b = true →
    List.Forall₂ (fun x y => x.same y = true) (a.laidLeaves id) (b.laidLeaves id)
  | ⟨_, args, body, _⟩, ⟨_, others, later, _⟩, h => by
    obtain ⟨_, equalArgs, equalBody, _⟩ := same_iff.1 h
    rw [laidLeaves, laidLeaves, ← (argsCounts_eq_of_same args equalArgs).1]
    exact List.rel_append (forall₂_laidArgLeaves _ _ args equalArgs)
      (forall₂_laidBodyLeaves _ body equalBody)

theorem forall₂_laidArgLeaves (owner id : Nat) : ∀ (args : List (String × Arg Outline Value))
    {others : List (String × Arg Outline Value)}, sameArgs args others = true →
      List.Forall₂ (fun x y => x.same y = true) (laidArgLeaves owner id args)
        (laidArgLeaves owner id others)
  | [], _, h => by
    rw [sameArgs_nil_iff.1 h]
    exact .nil
  | (_, .node outline) :: rest, _, h => by
    obtain ⟨_, later, rfl, same, more⟩ := sameArgs_cons_iff.1 h
    obtain ⟨other, rfl, below⟩ := Arg.eq_node_of_same same
    rw [laidArgLeaves, laidArgLeaves, ← (counts_eq_of_same outline below).1]
    exact List.rel_append (forall₂_laidLeaves _ outline below)
      (forall₂_laidArgLeaves _ _ rest more)
  | (key, .leaf value) :: rest, _, h => by
    obtain ⟨_, later, rfl, same, more⟩ := sameArgs_cons_iff.1 h
    obtain ⟨other, rfl, equal⟩ := Arg.eq_leaf_of_same same
    refine .cons ?_ (forall₂_laidArgLeaves _ _ rest more)
    rw [Tree.Leaf.same, equal]
    simp only [beq_self_eq_true, Bool.and_self]
  | (_, .malformed _) :: rest, _, h => by
    obtain ⟨_, later, rfl, same, more⟩ := sameArgs_cons_iff.1 h
    obtain ⟨other, rfl, _⟩ := Arg.eq_malformed_of_same same
    rw [laidArgLeaves, laidArgLeaves]
    exact forall₂_laidArgLeaves owner id rest more

theorem forall₂_laidBodyLeaves (id : Nat) : ∀ (body : List Outline) {others : List Outline},
    sameBody body others = true →
      List.Forall₂ (fun x y => x.same y = true) (laidBodyLeaves id body)
        (laidBodyLeaves id others)
  | [], _, h => by
    rw [sameBody_nil_iff.1 h]
    exact .nil
  | outline :: rest, _, h => by
    obtain ⟨other, later, rfl, same, more⟩ := sameBody_cons_iff.1 h
    rw [laidBodyLeaves, laidBodyLeaves, ← (counts_eq_of_same outline same).1]
    exact List.rel_append (forall₂_laidLeaves _ outline same) (forall₂_laidBodyLeaves _ rest more)

end

end Outline

end SequenceCheck
