import Graft.Proofs.Comparison
import Graft.Proofs.Grafting

/-! # Merging

What comparing two trees and grafting the patch comes to, said by one recursion over both trees.
Operations are put in by anchor and not by position, so this holds as long as every anchor that is
asked for stands at one place only.
-/

namespace Graft

def Patch.on? (operations : List Operation) (anchor : Anchor) : Option Operation :=
  operations.find? (·.target == anchor)

theorem Patch.map_first? (operations : List Operation) (anchor : Anchor) :
    (Patch.first? operations anchor).map (·.1) = Patch.on? operations anchor := by
  conv => rhs; rw [Patch.on?, ← List.zipIdx_map_fst 0 operations, List.find?_map]
  rfl

theorem Patch.on?_append (operations others : List Operation) (anchor : Anchor) :
    Patch.on? (operations ++ others) anchor =
      (Patch.on? operations anchor).or (Patch.on? others anchor) :=
  List.find?_append

theorem Patch.mem_of_on? {operations : List Operation} {anchor : Anchor} {operation : Operation}
    (h : Patch.on? operations anchor = some operation) :
    operation ∈ operations ∧ operation.target = anchor :=
  ⟨List.mem_of_find?_eq_some h, by simpa using List.find?_some h⟩

namespace Node

mutual
/-- The first tree with the bodies of the second where they changed. Where both nodes are functions
with different bodies, the new body is taken and nothing else. Everywhere else the children are
merged one by one, and those that have no partner stay. -/
def merge : Node → Node → Node
  | ⟨id, category, grammar, token, children⟩, new =>
    if anchor ⟨id, category, grammar, token, children⟩ = new.anchor then
      ⟨id, category, grammar, token, children⟩
    else
      match changedBody? ⟨id, category, grammar, token, children⟩ new with
      | some (index, body) => ⟨id, category, grammar, token, children.set index body.block⟩
      | none => ⟨id, category, grammar, token, mergeAll children new.children⟩

def mergeAll : List Node → List Node → List Node
  | old :: olds, new :: news => merge old new :: mergeAll olds news
  | olds, [] => olds
  | [], _ => []
end

/-- The anchors of a node and of all below it, one for each place. -/
def allAnchors (node : Node) : List Anchor :=
  node.preorder.map anchor

theorem allAnchors_eq (node : Node) :
    node.allAnchors = node.anchor :: node.children.flatMap allAnchors := by
  rw [allAnchors, preorder_eq, preorderAll_eq_flatMap, List.map_cons, List.map_flatMap]
  rfl

variable {operations : List Operation}

/-! ## Nodes that no operation names -/

theorem hit?_eq_none_of_on? {node : Node} (h : Patch.on? operations node.anchor = none) :
    node.hit? operations = none := by
  rw [← Patch.map_first?, Option.map_eq_none_iff] at h
  simp [hit?, h]

theorem exists_hit?_of_on? {node body : Node} {target : Anchor} {index : Nat}
    (h : Patch.on? operations node.anchor = some (.replaceBody target body))
    (hindex : node.category.body? = some index) (hlt : index < node.children.length) :
    ∃ operation, node.hit? operations = some ⟨index, body, operation⟩ := by
  rw [← Patch.map_first?, Option.map_eq_some_iff] at h
  obtain ⟨⟨first, operation⟩, hfirst, rfl⟩ := h
  exact ⟨operation, hit?_eq_some_iff.mpr ⟨⟨target, hfirst⟩, hindex, hlt⟩⟩

mutual
theorem rewrite_eq_self : ∀ node : Node,
    (∀ anchor ∈ node.allAnchors, Patch.on? operations anchor = none) →
      node.rewrite operations = node
  | ⟨id, category, grammar, token, children⟩, h => by
    rw [allAnchors_eq, List.forall_mem_cons] at h
    rw [rewrite_of_miss (hit?_eq_none_of_on? h.1)]
    exact congrArg _ (rewriteAll_eq_self children h.2)

theorem rewriteAll_eq_self : ∀ nodes : List Node,
    (∀ anchor ∈ nodes.flatMap allAnchors, Patch.on? operations anchor = none) →
      rewriteAll operations nodes = nodes
  | [], _ => rfl
  | node :: rest, h => by
    rw [List.flatMap_cons, List.forall_mem_append] at h
    rw [rewriteAll, rewrite_eq_self node h.1, rewriteAll_eq_self rest h.2]
end

/-! ## Where operations come from -/

theorem target_of_mem_change {old new : Node} {operation : Operation}
    (h : operation ∈ change old new) : operation.target = old.anchor := by
  simp only [change, Option.mem_toList, Option.map_eq_some_iff] at h
  obtain ⟨changed, -, rfl⟩ := h
  rfl

mutual
theorem target_mem_allAnchors : ∀ old new : Node,
    ∀ operation ∈ old.changes new, operation.target ∈ old.allAnchors
  | ⟨id, category, grammar, token, children⟩, new => by
    intro operation h
    rw [changes_eq] at h
    rw [allAnchors_eq]
    split at h
    · cases h
    · rcases List.mem_append.mp h with h | h
      · rw [target_of_mem_change h]
        exact List.mem_cons_self
      · exact List.mem_cons_of_mem _ (target_mem_flatMap_allAnchors children new.children _ h)

theorem target_mem_flatMap_allAnchors : ∀ olds news : List Node,
    ∀ operation ∈ changesAll olds news, operation.target ∈ olds.flatMap allAnchors
  | old :: olds, new :: news => by
    intro operation h
    rw [changesAll, List.mem_append] at h
    rw [List.flatMap_cons, List.mem_append]
    rcases h with h | h
    · exact Or.inl (target_mem_allAnchors old new _ h)
    · exact Or.inr (target_mem_flatMap_allAnchors olds news _ h)
  | [], _ => by simp [changesAll]
  | _ :: _, [] => by simp [changesAll]
end

end Node

/-! ## One place for every operation -/

/-- Of the operations of a patch, those on some anchors are the given ones, and what they name
stands once among the anchors. -/
structure Patch.Local (operations given : List Operation) (anchors : List Anchor) : Prop where
  agree : ∀ anchor ∈ anchors, Patch.on? operations anchor = Patch.on? given anchor
  once : ∀ operation ∈ given, anchors.count operation.target = 1

namespace Patch.Local

variable {operations left right : List Operation} {before after : List Anchor}

theorem not_mem_both (h : Patch.Local operations (left ++ right) (before ++ after))
    {operation : Operation} (hmem : operation ∈ left ++ right)
    (hbefore : operation.target ∈ before) : operation.target ∉ after := by
  intro hafter
  have hcount := h.once operation hmem
  have hleft := List.count_pos_iff.mpr hbefore
  have hright := List.count_pos_iff.mpr hafter
  rw [List.count_append] at hcount
  omega

theorem append_left (h : Patch.Local operations (left ++ right) (before ++ after))
    (hleft : ∀ operation ∈ left, operation.target ∈ before)
    (hright : ∀ operation ∈ right, operation.target ∈ after) :
    Patch.Local operations left before := by
  refine ⟨?_, ?_⟩
  · intro anchor hanchor
    rw [h.agree anchor (List.mem_append_left _ hanchor), Patch.on?_append]
    cases hon : Patch.on? right anchor with
    | none => rw [Option.or_none]
    | some operation =>
      obtain ⟨hmem, rfl⟩ := Patch.mem_of_on? hon
      exact absurd (hright _ hmem) (h.not_mem_both (List.mem_append_right _ hmem) hanchor)
  · intro operation hmem
    have hcount := h.once operation (List.mem_append_left _ hmem)
    have hafter := List.count_eq_zero.mpr
      (h.not_mem_both (List.mem_append_left _ hmem) (hleft operation hmem))
    rw [List.count_append] at hcount
    omega

theorem append_right (h : Patch.Local operations (left ++ right) (before ++ after))
    (hleft : ∀ operation ∈ left, operation.target ∈ before)
    (hright : ∀ operation ∈ right, operation.target ∈ after) :
    Patch.Local operations right after := by
  refine ⟨?_, ?_⟩
  · intro anchor hanchor
    rw [h.agree anchor (List.mem_append_right _ hanchor), Patch.on?_append]
    cases hon : Patch.on? left anchor with
    | none => rw [Option.none_or]
    | some operation =>
      obtain ⟨hmem, rfl⟩ := Patch.mem_of_on? hon
      exact absurd hanchor (h.not_mem_both (List.mem_append_left _ hmem) (hleft _ hmem))
  · intro operation hmem
    have hcount := h.once operation (List.mem_append_right _ hmem)
    have hbefore : before.count operation.target = 0 := by
      apply List.count_eq_zero.mpr
      intro htarget
      exact h.not_mem_both (List.mem_append_right _ hmem) htarget (hright operation hmem)
    rw [List.count_append] at hcount
    omega

end Patch.Local

namespace Node

variable {operations : List Operation}

/-! ## Trees -/

theorem local_split {old new : Node} (hne : old.anchor ≠ new.anchor)
    (h : Patch.Local operations (old.changes new) old.allAnchors) :
    Patch.Local operations (change old new) [old.anchor] ∧
      Patch.Local operations (changesAll old.children new.children)
        (old.children.flatMap allAnchors) := by
  have happend : Patch.Local operations (change old new ++ changesAll old.children new.children)
      ([old.anchor] ++ old.children.flatMap allAnchors) := by
    rwa [changes_eq, if_neg hne, allAnchors_eq] at h
  have hhere : ∀ operation ∈ change old new, operation.target ∈ [old.anchor] := by
    intro operation hmem
    rw [target_of_mem_change hmem]
    exact List.mem_singleton_self _
  have hbelow := target_mem_flatMap_allAnchors old.children new.children
  exact ⟨happend.append_left hhere hbelow, happend.append_right hhere hbelow⟩

theorem changedBody?_index {old new body : Node} {index : Nat}
    (h : changedBody? old new = some (index, body)) :
    old.category.body? = some index ∧ index < old.children.length := by
  unfold changedBody? at h
  split at h
  · next position oldBody newBody hposition hold hnew =>
    split at h
    · cases h
    · cases h
      rw [body?, hposition] at hold
      exact ⟨hposition, (List.getElem?_eq_some_iff.mp hold).1⟩
  · cases h

mutual
theorem rewrite_eq_merge : ∀ old new : Node,
    Patch.Local operations (old.changes new) old.allAnchors →
      old.rewrite operations = old.merge new
  | ⟨id, category, grammar, token, children⟩, new, h => by
    rw [merge]
    split
    · next heq =>
      rw [changes_eq, if_pos heq] at h
      exact rewrite_eq_self _ h.agree
    · next hne =>
      obtain ⟨hhere, hbelow⟩ := local_split hne h
      have hon := hhere.agree _ (List.mem_singleton_self _)
      cases hchanged : changedBody? ⟨id, category, grammar, token, children⟩ new with
      | some changed =>
        obtain ⟨index, body⟩ := changed
        obtain ⟨hindex, hlt⟩ := changedBody?_index hchanged
        simp only [change, hchanged] at hon
        obtain ⟨operation, hhit⟩ := exists_hit?_of_on?
          (hon.trans (List.find?_cons_of_pos (by simp [Operation.target]))) hindex hlt
        rw [rewrite_of_hit hhit]
      | none =>
        simp only [change, hchanged] at hon
        rw [rewrite_of_miss (hit?_eq_none_of_on? hon)]
        exact congrArg _ (rewriteAll_eq_mergeAll children new.children hbelow)

theorem rewriteAll_eq_mergeAll : ∀ olds news : List Node,
    Patch.Local operations (changesAll olds news) (olds.flatMap allAnchors) →
      rewriteAll operations olds = mergeAll olds news
  | old :: olds, new :: news, h => by
    rw [changesAll, List.flatMap_cons] at h
    have hold := target_mem_allAnchors old new
    have holds := target_mem_flatMap_allAnchors olds news
    rw [rewriteAll, mergeAll, rewrite_eq_merge old new (h.append_left hold holds),
      rewriteAll_eq_mergeAll olds news (h.append_right hold holds)]
  | [], news, _ => by cases news <;> rfl
  | old :: olds, [], h => rewriteAll_eq_self (old :: olds) h.agree
end

end Node

/-- Grafting what the comparison of two documents found merges their trees, when every anchor that
an operation names stands at one place of the first. -/
theorem Document.graft_diff_eq_merge (old new : Document) (next : NodeId)
    (h : ∀ operation ∈ (old.diff new).value.operations,
      (old.root.preorder.map Node.anchor).count operation.target = 1) :
    (old.graft (old.diff new).value next).document.root.content =
      (old.root.merge new.root).content := by
  rw [(old.rewrites_graft (old.diff new).value next).1]
  rw [old.operations_diff new] at h ⊢
  have hlocal : Patch.Local (old.root.changes new.root) (old.root.changes new.root)
      old.root.allAnchors := ⟨fun _ _ => rfl, h⟩
  rw [Node.rewrite_eq_merge old.root new.root hlocal]

def sampleFunction (name : String) (inside : List Node) : Node :=
  .branch 0 (.function (some name) false (some 1)) "function_declaration"
    [.leaf 0 "identifier" ⟨" ", name⟩, .branch 0 .other Node.blockKind inside]

/-- A function inside the body of another. -/
def sampleNested (inside : List Node) : Document :=
  ⟨.branch 0 .other "program" [sampleFunction "f" [sampleFunction "g" inside]], "\n", [], "f.ts",
    .typescript⟩

set_option maxRecDepth 100000 in
-- Both bodies change, so there are two operations, and the inner one never gets its turn.
theorem Document.graft_diff_sampleNested :
    let old := sampleNested []
    let new := sampleNested [.leaf 0 ";" ⟨"", ";"⟩]
    ((old.diff new).value.operations.length = 2 ∧
        ∀ operation ∈ (old.diff new).value.operations,
          (old.root.preorder.map Node.anchor).count operation.target = 1) ∧
      (old.graft (old.diff new).value 0).document.root.content =
        (old.root.merge new.root).content := by
  intro old new
  have h : (old.diff new).value.operations.length = 2 ∧
      ∀ operation ∈ (old.diff new).value.operations,
        (old.root.preorder.map Node.anchor).count operation.target = 1 := by
    rw [Document.operations_diff]
    decide +kernel
  exact ⟨h, Document.graft_diff_eq_merge old new 0 h.2⟩

end Graft
