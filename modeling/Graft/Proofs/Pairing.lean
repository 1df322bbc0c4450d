import Graft.Proofs.Pruning

/-! # The pairs that are compared

The comparison comes to pairs of nodes, one at each common position, and it stops below pairs with
one anchor. All that it finds, it finds at the pairs that it comes to.
-/

namespace Graft

/-- Two nodes side by side, with the place where they stand. -/
structure Pairing where
  position : Position
  old : Node
  new : Node

namespace Pairing

/-- The same pair, seen from the parents of the two trees. -/
def under (index : Nat) (pair : Pairing) : Pairing :=
  ⟨index :: pair.position, pair.old, pair.new⟩

/-- The place of the body of the first node. -/
def body? (pair : Pairing) : Option Position :=
  pair.old.category.body?.map fun index => pair.position ++ [index]

/-- What is found at the pair itself. -/
def findings (pair : Pairing) : List Finding :=
  if pair.old.anchor = pair.new.anchor then []
  else
    Comparison.bodyChange (.ofNode pair.old) (.ofNode pair.new) ++
      Comparison.countChange pair.old pair.new

def operations (pair : Pairing) : List Operation :=
  Node.changeOfPair pair.old pair.new

/-- Whether the pair gives rise to an operation. -/
def isChange (pair : Pairing) : Bool :=
  !pair.operations.isEmpty

theorem filterMap_findings (pair : Pairing) :
    pair.findings.filterMap Finding.operation? = pair.operations := by
  unfold findings operations
  split
  · next heq => rw [Node.changeOfPair_of_anchor_eq heq, List.filterMap_nil]
  · next hne =>
    rw [List.filterMap_append, Comparison.filterMap_bodyChange, Comparison.filterMap_countChange,
      List.append_nil, Node.changeOfPair_of_anchor_ne hne]

theorem operations_eq_nil_of_not_isChange {pair : Pairing} (h : ¬ pair.isChange) :
    pair.operations = [] := by
  simpa [isChange] using h

@[simp] theorem body?_under (index : Nat) (pair : Pairing) :
    (pair.under index).body? = pair.body?.map (index :: ·) := by
  simp only [body?, under, Option.map_map]
  rfl

end Pairing

namespace Node

mutual
/-- The pairs that the comparison comes to, in order. -/
def pairings : Node → Node → List Pairing
  | ⟨id, category, grammar, token, children⟩, new =>
    ⟨[], ⟨id, category, grammar, token, children⟩, new⟩ ::
      if anchor ⟨id, category, grammar, token, children⟩ = new.anchor then []
      else pairingsAll 0 children new.children

/-- The same for children that stand from position `index` on. -/
def pairingsAll (index : Nat) : List Node → List Node → List Pairing
  | old :: olds, new :: news =>
    (pairings old new).map (Pairing.under index) ++ pairingsAll (index + 1) olds news
  | _, _ => []
end

theorem pairings_eq (old new : Node) :
    old.pairings new =
      ⟨[], old, new⟩ ::
        if old.anchor = new.anchor then [] else pairingsAll 0 old.children new.children := by
  cases old
  rw [pairings]

theorem self_mem_pairings (old new : Node) : ⟨[], old, new⟩ ∈ old.pairings new := by
  rw [pairings_eq]
  exact List.mem_cons_self

theorem pairingsAll_subset_pairings {old new : Node} (h : old.anchor ≠ new.anchor) :
    pairingsAll 0 old.children new.children ⊆ old.pairings new := by
  rw [pairings_eq, if_neg h]
  exact List.subset_cons_self _ _

theorem mem_pairingsAll (start : Nat) {index : Nat} {olds news : List Node} {old new : Node}
    (hold : olds[index]? = some old) (hnew : news[index]? = some new) {pair : Pairing}
    (hpair : pair ∈ old.pairings new) :
    pair.under (start + index) ∈ pairingsAll start olds news := by
  induction index generalizing start olds news with
  | zero =>
    cases olds with
    | nil => cases hold
    | cons first olds =>
      cases news with
      | nil => cases hnew
      | cons other news =>
        cases hold
        cases hnew
        exact List.mem_append_left _ (List.mem_map_of_mem hpair)
  | succ index ih =>
    cases olds with
    | nil => cases hold
    | cons first olds =>
      cases news with
      | nil => cases hnew
      | cons other news =>
        rw [pairingsAll]
        have hrest := ih (start + 1) hold hnew
        rw [Nat.add_assoc, Nat.add_comm 1] at hrest
        exact List.mem_append_right _ hrest

theorem exists_of_mem_pairingsAll {start : Nat} {olds news : List Node} {pair : Pairing}
    (h : pair ∈ pairingsAll start olds news) :
    ∃ (index : Nat) (old new : Node), olds[index]? = some old ∧ news[index]? = some new ∧
      ∃ inner ∈ old.pairings new, pair = inner.under (start + index) := by
  induction olds generalizing start news with
  | nil => simp [pairingsAll] at h
  | cons old olds ih =>
    cases news with
    | nil => simp [pairingsAll] at h
    | cons new news =>
      rw [pairingsAll, List.mem_append, List.mem_map] at h
      rcases h with ⟨inner, hinner, rfl⟩ | h
      · exact ⟨0, old, new, rfl, rfl, inner, hinner, rfl⟩
      · obtain ⟨index, first, second, hold, hnew, inner, hinner, rfl⟩ := ih h
        refine ⟨index + 1, first, second, hold, hnew, inner, hinner, ?_⟩
        rw [Nat.add_assoc, Nat.add_comm 1]

theorem at?_of_mem_pairings {old new : Node} {pair : Pairing} (h : pair ∈ old.pairings new) :
    old.at? pair.position = some pair.old ∧ new.at? pair.position = some pair.new := by
  obtain ⟨position, first, second⟩ := pair
  induction position generalizing old new with
  | nil =>
    rw [pairings_eq, List.mem_cons] at h
    rcases h with h | h
    · cases h
      exact ⟨rfl, rfl⟩
    · split at h
      · cases h
      · obtain ⟨index, -, -, -, -, inner, -, heq⟩ := exists_of_mem_pairingsAll h
        cases heq
  | cons index below ih =>
    rw [pairings_eq, List.mem_cons] at h
    rcases h with h | h
    · cases h
    · split at h
      · cases h
      · obtain ⟨i, a, b, ha, hb, ⟨place, c, d⟩, hinner, heq⟩ := exists_of_mem_pairingsAll h
        rw [Nat.zero_add] at heq
        cases heq
        obtain ⟨hc, hd⟩ := ih hinner
        simp only [at?, ha, hb, Option.bind_some]
        exact ⟨hc, hd⟩

end Node

/-! ## All that is found -/

namespace Comparison

mutual
theorem compare_eq_flatMap_pairings : ∀ old new : Node,
    compare (.ofNode old) (.ofNode new) = (old.pairings new).flatMap Pairing.findings
  | ⟨id, category, grammar, token, children⟩, new => by
    rw [compare_ofNode, Node.pairings_eq, List.flatMap_cons, Pairing.findings]
    split
    · rfl
    · rw [compareAll_eq_flatMap_pairingsAll 0 children new.children]

theorem compareAll_eq_flatMap_pairingsAll (index : Nat) : ∀ olds news : List Node,
    compareAll (Anchored.ofNodes olds) (Anchored.ofNodes news) =
      (Node.pairingsAll index olds news).flatMap Pairing.findings
  | old :: olds, new :: news => by
    rw [Anchored.ofNodes, Anchored.ofNodes, compareAll, Node.pairingsAll, List.flatMap_append,
      List.flatMap_map, compare_eq_flatMap_pairings old new,
      compareAll_eq_flatMap_pairingsAll (index + 1) olds news]
    rfl
  | [], _ => by simp [Anchored.ofNodes, compareAll, Node.pairingsAll]
  | _ :: _, [] => by simp [Anchored.ofNodes, compareAll, Node.pairingsAll]
end

end Comparison

theorem Node.changes_eq_flatMap_pairings (old new : Node) :
    old.changes new = (old.pairings new).flatMap Pairing.operations := by
  rw [← Comparison.filterMap_compare, Comparison.compare_eq_flatMap_pairings,
    List.filterMap_flatMap]
  simp only [Pairing.filterMap_findings]

/-! ## Where an operation comes from -/

theorem Node.eq_of_mem_changeOfPair {old new : Node} {operation : Operation}
    (h : operation ∈ changeOfPair old new) :
    ∃ oldBody newBody, old.body? = some oldBody ∧ new.body? = some newBody ∧
      operation = .replaceBody old.anchor newBody := by
  unfold changeOfPair at h
  split at h
  · next oldBody newBody hold hnew =>
    split at h
    · exact ⟨oldBody, newBody, hold, hnew, List.mem_singleton.mp h⟩
    · cases h
  · cases h

/-- An operation comes from two functions with a body at one place. -/
theorem Document.exists_pair_of_mem_diff {old new : Document} {operation : Operation}
    (h : operation ∈ (old.diff new).value.operations) :
    ∃ position a b oldBody newBody,
      old.root.at? position = some a ∧ new.root.at? position = some b ∧
      a.body? = some oldBody ∧ b.body? = some newBody ∧
      operation = .replaceBody a.anchor newBody := by
  rw [operations_diff, Node.changes_eq_flatMap_pairings, List.mem_flatMap] at h
  obtain ⟨pair, hpair, hoperation⟩ := h
  obtain ⟨hold, hnew⟩ := Node.at?_of_mem_pairings hpair
  obtain ⟨oldBody, newBody, holdBody, hnewBody, heq⟩ := Node.eq_of_mem_changeOfPair hoperation
  exact ⟨pair.position, pair.old, pair.new, oldBody, newBody, hold, hnew, holdBody, hnewBody, heq⟩

end Graft
