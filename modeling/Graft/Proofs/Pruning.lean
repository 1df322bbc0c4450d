import Graft.Proofs.Merging

/-! # Nothing is lost by pruning

The comparison passes over every pair of nodes with one anchor. A recursion that looks at every pair
finds the same operations, as long as no two nodes share an anchor without sharing what it is the
digest of. Digests are taken with nothing between the parts, so this has to be asked for.
-/

namespace Graft

namespace Node

/-- What the anchor of a node is the digest of. -/
def seed (node : Node) : String × String × List Anchor :=
  (node.grammar, node.significant, node.children.map anchor)

/-- Nodes with one anchor are nodes with one seed. -/
def CollisionFree (nodes : List Node) : Prop :=
  ∀ a ∈ nodes, ∀ b ∈ nodes, a.anchor = b.anchor → a.seed = b.seed

instance (nodes : List Node) : Decidable (CollisionFree nodes) :=
  inferInstanceAs (Decidable (∀ a ∈ nodes, ∀ b ∈ nodes, a.anchor = b.anchor → a.seed = b.seed))

/-! ## The recursion without pruning -/

/-- The operation of one pair: both are functions with a body, and the anchors of the nodes and of
the bodies differ. -/
def changeOfPair (old new : Node) : List Operation :=
  match old.body?, new.body? with
  | some oldBody, some newBody =>
    if old.anchor ≠ new.anchor ∧ oldBody.anchor ≠ newBody.anchor then
      [.replaceBody old.anchor newBody]
    else []
  | _, _ => []

mutual
/-- The operations of all pairs of nodes at common positions. It never stops at equal anchors. -/
def allChanges : Node → Node → List Operation
  | ⟨id, category, grammar, token, children⟩, new =>
    changeOfPair ⟨id, category, grammar, token, children⟩ new ++
      allChangesAll children new.children

def allChangesAll : List Node → List Node → List Operation
  | old :: olds, new :: news => allChanges old new ++ allChangesAll olds news
  | _, _ => []
end

theorem changeOfPair_of_anchor_eq {old new : Node} (h : old.anchor = new.anchor) :
    changeOfPair old new = [] := by
  unfold changeOfPair
  split
  · simp [h]
  · rfl

theorem changeOfPair_of_anchor_ne {old new : Node} (h : old.anchor ≠ new.anchor) :
    changeOfPair old new = change old new := by
  unfold changeOfPair change changedBody?
  cases hindex : old.category.body? with
  | none =>
    have hbody : old.body? = none := by simp [body?, hindex]
    simp [hbody]
  | some index =>
    cases old.body? with
    | none => simp
    | some oldBody =>
      cases new.body? with
      | none => simp
      | some newBody => by_cases hanchor : oldBody.anchor = newBody.anchor <;> simp [h, hanchor]

/-! ## Equal anchors all the way down -/

theorem children_anchors_eq {nodes : List Node} (h : CollisionFree nodes) {a b : Node}
    (ha : a ∈ nodes) (hb : b ∈ nodes) (heq : a.anchor = b.anchor) :
    a.children.map anchor = b.children.map anchor := by
  have hseed := h a ha b hb heq
  simp only [seed, Prod.mk.injEq] at hseed
  exact hseed.2.2

theorem mem_of_preorder_subset {nodes : List Node} {node : Node} (h : node.preorder ⊆ nodes) :
    node ∈ nodes := by
  apply h
  rw [preorder_eq]
  exact List.mem_cons_self

theorem preorderAll_children_subset {nodes : List Node} {node : Node}
    (h : node.preorder ⊆ nodes) : preorderAll node.children ⊆ nodes := by
  rw [preorder_eq] at h
  exact fun _ hmem => h (List.mem_cons_of_mem node hmem)

variable {nodes : List Node}

-- The lists of children are as long as each other and agree in their anchors, so the pairs below
-- are again pairs with one anchor.
mutual
theorem allChanges_of_anchor_eq (hfree : CollisionFree nodes) : ∀ old new : Node,
    old.preorder ⊆ nodes → new.preorder ⊆ nodes → old.anchor = new.anchor →
      old.allChanges new = []
  | ⟨id, category, grammar, token, children⟩, new, hold, hnew, heq => by
    have hchildren : children.map anchor = new.children.map anchor :=
      children_anchors_eq hfree (mem_of_preorder_subset hold) (mem_of_preorder_subset hnew) heq
    rw [allChanges, changeOfPair_of_anchor_eq heq, List.nil_append]
    exact allChangesAll_of_anchors_eq hfree children new.children
      (preorderAll_children_subset hold) (preorderAll_children_subset hnew) hchildren

theorem allChangesAll_of_anchors_eq (hfree : CollisionFree nodes) : ∀ olds news : List Node,
    preorderAll olds ⊆ nodes → preorderAll news ⊆ nodes → olds.map anchor = news.map anchor →
      allChangesAll olds news = []
  | [], _, _, _, _ => by simp [allChangesAll]
  | _ :: _, [], _, _, _ => by simp [allChangesAll]
  | old :: olds, new :: news, holds, hnews, heq => by
    rw [preorderAll, List.append_subset] at holds hnews
    rw [List.map_cons, List.map_cons, List.cons.injEq] at heq
    rw [allChangesAll, allChanges_of_anchor_eq hfree old new holds.1 hnews.1 heq.1,
      allChangesAll_of_anchors_eq hfree olds news holds.2 hnews.2 heq.2, List.append_nil]
end

mutual
theorem changes_eq_allChanges (hfree : CollisionFree nodes) : ∀ old new : Node,
    old.preorder ⊆ nodes → new.preorder ⊆ nodes → old.changes new = old.allChanges new
  | ⟨id, category, grammar, token, children⟩, new, hold, hnew => by
    rw [changes]
    split
    · next heq => rw [allChanges_of_anchor_eq hfree _ new hold hnew heq]
    · next hne =>
      rw [allChanges, changeOfPair_of_anchor_ne hne,
        changesAll_eq_allChangesAll hfree children new.children
          (preorderAll_children_subset hold) (preorderAll_children_subset hnew)]

theorem changesAll_eq_allChangesAll (hfree : CollisionFree nodes) : ∀ olds news : List Node,
    preorderAll olds ⊆ nodes → preorderAll news ⊆ nodes →
      changesAll olds news = allChangesAll olds news
  | [], _, _, _ => by simp [changesAll, allChangesAll]
  | _ :: _, [], _, _ => by simp [changesAll, allChangesAll]
  | old :: olds, new :: news, holds, hnews => by
    rw [preorderAll, List.append_subset] at holds hnews
    rw [changesAll, allChangesAll, changes_eq_allChanges hfree old new holds.1 hnews.1,
      changesAll_eq_allChangesAll hfree olds news holds.2 hnews.2]
end

end Node

namespace Document

/-- The comparison of two documents finds, in order, what looking at every pair of nodes finds. -/
theorem operations_diff_eq_allChanges (old new : Document)
    (h : Node.CollisionFree (old.root.preorder ++ new.root.preorder)) :
    (old.diff new).value.operations = old.root.allChanges new.root := by
  rw [operations_diff]
  exact Node.changes_eq_allChanges h old.root new.root
    (List.subset_append_left _ _) (List.subset_append_right _ _)

/-- A function that holds another, and a third one beside them. -/
def sampleSiblings (inside : List Node) : Document :=
  ⟨.branch 0 .other "program"
      [sampleFunction "f" [sampleFunction "g" []], sampleFunction "h" inside],
    "\n", [], "f.ts", .typescript⟩

set_option maxRecDepth 100000 in
-- A kind that ends in the digits of an anchor collides with a shorter kind that has one more child,
-- and the change below such a pair is not seen.
example :
    let empty := sampleFunction "f" []
    let full := sampleFunction "f" [.leaf 0 ";" ⟨"", ";"⟩]
    let old := Node.branch 0 .other "program" [empty, full]
    let new := Node.branch 0 .other ("program" ++ empty.anchor.hex) [full]
    (old.changes new).length = 0 ∧ (old.allChanges new).length = 1 := by
  decide +kernel

set_option maxRecDepth 100000 in
-- The first function is passed over with all that it holds.
theorem operations_diff_sampleSiblings :
    let old := sampleSiblings []
    let new := sampleSiblings [.leaf 0 ";" ⟨"", ";"⟩]
    Node.CollisionFree (old.root.preorder ++ new.root.preorder) ∧
      (old.root.allChanges new.root).length = 1 ∧
      (old.diff new).value.operations = old.root.allChanges new.root := by
  intro old new
  obtain ⟨hfree, hcount⟩ : Node.CollisionFree (old.root.preorder ++ new.root.preorder) ∧
      (old.root.allChanges new.root).length = 1 := by decide +kernel
  exact ⟨hfree, hcount, operations_diff_eq_allChanges old new hfree⟩

end Document

end Graft
