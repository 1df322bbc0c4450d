import Graft.Patch.Comparison

/-! # The comparison as a recursion

The search that compares two trees keeps a list of the pairs that wait. Here it is shown to find
what plain recursion over the two trees finds, and the operations of a patch are read off the nodes
alone.
-/

namespace Graft

namespace Comparison

mutual
def compare : Anchored → Anchored → List Finding
  | ⟨node, anchor, children⟩, new =>
    if anchor = new.anchor then []
    else
      bodyChange ⟨node, anchor, children⟩ new ++ countChange node new.node ++
        compareAll children new.children

def compareAll : List Anchored → List Anchored → List Finding
  | old :: olds, new :: news => compare old new ++ compareAll olds news
  | _, _ => []
end

theorem compare_eq (old new : Anchored) :
    compare old new =
      if old.anchor = new.anchor then []
      else
        bodyChange old new ++ countChange old.node new.node ++
          compareAll old.children new.children := by
  cases old
  rw [compare]

theorem compare_ofNode (old new : Node) :
    compare (.ofNode old) (.ofNode new) =
      if old.anchor = new.anchor then []
      else
        bodyChange (.ofNode old) (.ofNode new) ++ countChange old new ++
          compareAll (Anchored.ofNodes old.children) (Anchored.ofNodes new.children) := by
  simp [compare_eq]

theorem compareAll_eq_flatMap_zip (olds news : List Anchored) :
    compareAll olds news = (olds.zip news).flatMap fun pair => compare pair.1 pair.2 := by
  induction olds generalizing news with
  | nil => simp [compareAll]
  | cons old olds ih =>
    cases news with
    | nil => simp [compareAll]
    | cons new news => simp [compareAll, ih]

/-- The search is the recursion, pair by pair. -/
theorem toList_search (found : Array Finding) (pairs : List (Anchored × Anchored)) :
    (search found pairs).toList =
      found.toList ++ pairs.flatMap fun pair => compare pair.1 pair.2 := by
  fun_induction search found pairs with
  | case1 found => simp
  | case2 found old new waiting hanchor ih =>
    rw [ih, List.flatMap_cons, compare_eq, if_pos hanchor, List.nil_append]
  | case3 found old new waiting hanchor ih =>
    rw [ih, List.flatMap_cons, compare_eq, if_neg hanchor, List.flatMap_append,
      ← compareAll_eq_flatMap_zip]
    simp

end Comparison

namespace Node

/-- The body of the second node and the position of the body of the first, when both are functions
and their bodies differ. -/
def changedBody? (old new : Node) : Option (Nat × Node) :=
  match old.category.body?, old.body?, new.body? with
  | some index, some oldBody, some newBody =>
    if oldBody.anchor = newBody.anchor then none else some (index, newBody)
  | _, _, _ => none

def change (old new : Node) : List Operation :=
  ((changedBody? old new).map fun changed => .replaceBody old.anchor changed.2).toList

mutual
def changes : Node → Node → List Operation
  | ⟨id, category, grammar, token, children⟩, new =>
    if anchor ⟨id, category, grammar, token, children⟩ = new.anchor then []
    else change ⟨id, category, grammar, token, children⟩ new ++ changesAll children new.children

def changesAll : List Node → List Node → List Operation
  | old :: olds, new :: news => changes old new ++ changesAll olds news
  | _, _ => []
end

theorem changes_eq (old new : Node) :
    old.changes new =
      if old.anchor = new.anchor then []
      else change old new ++ changesAll old.children new.children := by
  cases old
  rw [changes]

end Node

/-! ## Patches -/

theorem Anchored.body?_ofNode (node : Node) : (ofNode node).body? = node.body?.map ofNode := by
  rw [ofNode_eq, body?, Node.body?, ofNodes_eq_map]
  cases node.category.body? <;> simp

namespace Comparison

theorem filterMap_bodyChange (old new : Node) :
    (bodyChange (Anchored.ofNode old) (Anchored.ofNode new)).filterMap Finding.operation? =
      Node.change old new := by
  rw [bodyChange, Anchored.body?_ofNode, Anchored.body?_ofNode, Node.change, Node.changedBody?]
  cases hindex : old.category.body? with
  | none =>
    have hbody : old.body? = none := by simp [Node.body?, hindex]
    simp [hbody]
  | some index =>
    cases old.body? with
    | none => simp
    | some oldBody =>
      cases new.body? with
      | none => simp
      | some newBody =>
        by_cases hanchor : oldBody.anchor = newBody.anchor
        · simp [hanchor]
        · simp [hanchor, Finding.operation?]

theorem filterMap_countChange (old new : Node) :
    (countChange old new).filterMap Finding.operation? = [] := by
  unfold countChange
  split <;> rfl

mutual
theorem filterMap_compare : ∀ old new : Node,
    (compare (Anchored.ofNode old) (Anchored.ofNode new)).filterMap Finding.operation? =
      old.changes new
  | ⟨id, category, grammar, token, children⟩, new => by
    rw [compare_ofNode, Node.changes_eq]
    split
    · rfl
    · rw [List.filterMap_append, List.filterMap_append, filterMap_bodyChange,
        filterMap_countChange, List.append_nil, filterMap_compareAll children new.children]

theorem filterMap_compareAll : ∀ olds news : List Node,
    (compareAll (Anchored.ofNodes olds) (Anchored.ofNodes news)).filterMap Finding.operation? =
      Node.changesAll olds news
  | old :: olds, new :: news => by
    rw [Anchored.ofNodes, Anchored.ofNodes, compareAll, Node.changesAll, List.filterMap_append,
      filterMap_compare old new, filterMap_compareAll olds news]
  | [], _ => by simp [Anchored.ofNodes, compareAll, Node.changesAll]
  | _ :: _, [] => by simp [Anchored.ofNodes, compareAll, Node.changesAll]
end

end Comparison

theorem Document.operations_diff (old new : Document) :
    (old.diff new).value.operations = old.root.changes new.root := by
  rw [← Comparison.filterMap_compare, diff, patchOf, findings, Comparison.toList_search]
  simp

end Graft
