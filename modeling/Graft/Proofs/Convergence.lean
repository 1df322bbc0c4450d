import Graft.Proofs.Pairing
import Graft.Proofs.Shape

/-! # One cycle is enough

A document that got the changes of another is compared with it again. Nothing is left to do, as long
as bodies stand at the same positions in both, payloads are blocks, and all that changes inside a
function that changes is inside its body. What is changed in a header never gets in, so it would be
found again each time.
-/

namespace Graft

namespace Pairing

/-- What is asked of the pairs that are compared. -/
structure Orderly (pairs : List Pairing) : Prop where
  aligned : ∀ pair ∈ pairs, pair.old.body?.isSome → pair.new.body?.isSome →
    pair.old.category.body? = pair.new.category.body?
  blocks : ∀ pair ∈ pairs, ∀ operation ∈ pair.operations, ∀ body ∈ operation.newBody?,
    body.isBlock
  inBody : ∀ outer ∈ pairs, ∀ inner ∈ pairs, outer.isChange → inner.isChange →
    outer.position <+: inner.position → outer.position ≠ inner.position →
      ∃ body ∈ outer.body?, body <+: inner.position

theorem Orderly.mono {pairs others : List Pairing} (h : Orderly pairs) (hsub : others ⊆ pairs) :
    Orderly others where
  aligned pair hmem := h.aligned pair (hsub hmem)
  blocks pair hmem := h.blocks pair (hsub hmem)
  inBody outer houter inner hinner := h.inBody outer (hsub houter) inner (hsub hinner)

theorem Orderly.of_under {pairs : List Pairing} {index : Nat}
    (h : Orderly (pairs.map (under index))) : Orderly pairs where
  aligned pair hmem := h.aligned (pair.under index) (List.mem_map_of_mem hmem)
  blocks pair hmem := h.blocks (pair.under index) (List.mem_map_of_mem hmem)
  inBody outer houter inner hinner houterChange hinnerChange hpre hne := by
    obtain ⟨body, hbody, hinside⟩ := h.inBody (outer.under index) (List.mem_map_of_mem houter)
      (inner.under index) (List.mem_map_of_mem hinner) houterChange hinnerChange
      (List.cons_prefix_cons.mpr ⟨rfl, hpre⟩) (by simpa [under] using hne)
    rw [body?_under, Option.mem_map] at hbody
    obtain ⟨place, hplace, rfl⟩ := hbody
    exact ⟨place, hplace, (List.cons_prefix_cons.mp hinside).2⟩

end Pairing

namespace Node

/-! ## Where nothing is found -/

theorem changes_of_anchor_eq {old new : Node} (h : old.anchor = new.anchor) :
    old.changes new = [] := by
  rw [changes_eq, if_pos h]

theorem changesAll_eq_nil {olds news : List Node}
    (h : ∀ (index : Nat) (old new : Node), olds[index]? = some old → news[index]? = some new →
      old.changes new = []) :
    changesAll olds news = [] := by
  induction olds generalizing news with
  | nil => simp [changesAll]
  | cons old olds ih =>
    cases news with
    | nil => simp [changesAll]
    | cons new news =>
      rw [changesAll, h 0 old new rfl rfl, List.nil_append]
      exact ih fun index first second => h (index + 1) first second

theorem changedBody?_eq_none {old new : Node}
    (h : ∀ oldBody ∈ old.body?, ∀ newBody ∈ new.body?, oldBody.anchor = newBody.anchor) :
    changedBody? old new = none := by
  unfold changedBody?
  split
  · next index oldBody newBody _ hold hnew => rw [if_pos (h oldBody hold newBody hnew)]
  · rfl

theorem change_of_changedBody?_eq_none {old new : Node} (h : changedBody? old new = none) :
    change old new = [] := by
  rw [change, h, Option.map_none, Option.toList_none]

/-! ## What a merge looks like -/

theorem merge_of_anchor_eq {old new : Node} (h : old.anchor = new.anchor) :
    old.merge new = old := by
  cases old
  rw [merge, if_pos h]

theorem getElem?_mergeAll {olds news : List Node} {index : Nat} {old new : Node}
    (hold : olds[index]? = some old) (hnew : news[index]? = some new) :
    (mergeAll olds news)[index]? = some (old.merge new) := by
  induction index generalizing olds news with
  | zero =>
    cases olds with
    | nil => cases hold
    | cons first olds =>
      cases news with
      | nil => cases hnew
      | cons other news =>
        cases hold
        cases hnew
        rfl
  | succ index ih =>
    cases olds with
    | nil => cases hold
    | cons first olds =>
      cases news with
      | nil => cases hnew
      | cons other news => exact ih hold hnew

theorem length_mergeAll (olds news : List Node) : (mergeAll olds news).length = olds.length := by
  induction olds generalizing news with
  | nil => cases news <;> rfl
  | cons old olds ih =>
    cases news with
    | nil => rfl
    | cons new news => simp [mergeAll, ih]

theorem changedBody?_bodies {old new body : Node} {index : Nat}
    (h : changedBody? old new = some (index, body)) :
    ∃ oldBody, old.body? = some oldBody ∧ new.body? = some body ∧
      oldBody.anchor ≠ body.anchor := by
  unfold changedBody? at h
  split at h
  · next position oldBody newBody _ hold hnew =>
    split at h
    · cases h
    · next hne =>
      cases h
      exact ⟨oldBody, hold, hnew, hne⟩
  · cases h

/-! ## Nothing is left -/

variable {old new : Node}

theorem changeOfPair_of_changedBody? {body : Node} {index : Nat}
    (hchanged : changedBody? old new = some (index, body)) (hne : old.anchor ≠ new.anchor) :
    changeOfPair old new = [.replaceBody old.anchor body] := by
  rw [changeOfPair_of_anchor_ne hne, change, hchanged, Option.map_some, Option.toList_some]

/-- Beside the body of a function that changes, nothing changes: it would have to be inside the
body. -/
theorem changes_of_header {first second body : Node} {index position : Nat}
    (hchanged : changedBody? old new = some (index, body)) (hne : old.anchor ≠ new.anchor)
    (h : Pairing.Orderly (old.pairings new)) (hposition : index ≠ position)
    (hfirst : old.children[position]? = some first)
    (hsecond : new.children[position]? = some second) : first.changes second = [] := by
  have hroot : Pairing.isChange ⟨[], old, new⟩ := by
    simp [Pairing.isChange, Pairing.operations, changeOfPair_of_changedBody? hchanged hne]
  rw [changes_eq_flatMap_pairings, List.flatMap_eq_nil_iff]
  intro pair hpair
  apply Pairing.operations_eq_nil_of_not_isChange
  intro hchange
  have hmem : pair.under position ∈ old.pairings new := by
    have hbelow := mem_pairingsAll 0 hfirst hsecond hpair
    rw [Nat.zero_add] at hbelow
    exact pairingsAll_subset_pairings hne hbelow
  obtain ⟨place, hplace, hinside⟩ := h.inBody ⟨[], old, new⟩ (self_mem_pairings old new)
    (pair.under position) hmem hroot hchange List.nil_prefix (by simp [Pairing.under])
  simp only [Pairing.body?, (changedBody?_index hchanged).1, Option.map_some, List.nil_append,
    Option.mem_some_iff] at hplace
  subst hplace
  exact hposition (List.cons_prefix_cons.mp hinside).1

theorem changes_of_newBody (id : NodeId) {body : Node} {index : Nat}
    (hchanged : changedBody? old new = some (index, body)) (hne : old.anchor ≠ new.anchor)
    (h : Pairing.Orderly (old.pairings new)) :
    changes ⟨id, old.category, old.grammar, old.token, old.children.set index body⟩ new = [] := by
  obtain ⟨hindex, hlt⟩ := changedBody?_index hchanged
  obtain ⟨oldBody, hold, hnew, -⟩ := changedBody?_bodies hchanged
  have haligned : new.category.body? = some index := by
    rw [← hindex]
    exact (h.aligned _ (self_mem_pairings old new) (by simp [hold]) (by simp [hnew])).symm
  have hnewChild : new.children[index]? = some body := by
    rwa [body?, haligned, Option.bind_some] at hnew
  have hhere : change ⟨id, old.category, old.grammar, old.token, old.children.set index body⟩
      new = [] := by
    apply change_of_changedBody?_eq_none
    apply changedBody?_eq_none
    have hbody : body? ⟨id, old.category, old.grammar, old.token, old.children.set index body⟩ =
        some body := by simp [body?, hindex, hlt]
    rw [hbody, hnew]
    rintro _ ⟨⟩ _ ⟨⟩
    rfl
  rw [changes_eq]
  split
  · rfl
  rw [hhere, List.nil_append]
  apply changesAll_eq_nil
  intro position first second hfirst hsecond
  by_cases hposition : index = position
  · subst hposition
    rw [List.getElem?_set_self hlt] at hfirst
    rw [hnewChild] at hsecond
    cases hfirst
    cases hsecond
    exact changes_of_anchor_eq rfl
  · rw [List.getElem?_set_ne hposition] at hfirst
    exact changes_of_header hchanged hne h hposition hfirst hsecond

theorem change_of_mergedChildren (id : NodeId) (hchanged : changedBody? old new = none)
    (h : Pairing.Orderly (old.pairings new)) :
    change ⟨id, old.category, old.grammar, old.token, mergeAll old.children new.children⟩ new =
      [] := by
  apply change_of_changedBody?_eq_none
  apply changedBody?_eq_none
  intro mergedBody hmerged newBody hnew
  obtain ⟨index, hindex, hmergedChild⟩ := Option.bind_eq_some_iff.mp hmerged
  have hlt : index < old.children.length := by
    rw [← length_mergeAll old.children new.children]
    exact (List.getElem?_eq_some_iff.mp hmergedChild).1
  obtain ⟨oldBody, holdChild⟩ : ∃ oldBody, old.children[index]? = some oldBody :=
    ⟨_, List.getElem?_eq_getElem hlt⟩
  have hold : old.body? = some oldBody := by rw [body?, hindex, Option.bind_some, holdChild]
  have haligned := h.aligned _ (self_mem_pairings old new) (by simp [hold])
    (by simp [Option.mem_def.mp hnew])
  have hnewChild : new.children[index]? = some newBody := by
    rwa [Option.mem_def, body?, ← haligned, hindex, Option.bind_some] at hnew
  have hsame : oldBody.anchor = newBody.anchor := by
    by_contra hne
    simp [changedBody?, hindex, hold, Option.mem_def.mp hnew, hne] at hchanged
  rw [getElem?_mergeAll holdChild hnewChild, merge_of_anchor_eq hsame] at hmergedChild
  cases hmergedChild
  exact hsame

-- Over the pairs: the children of a pair are orderly when the pair is.
mutual
theorem changes_merge : ∀ old new : Node, Pairing.Orderly (old.pairings new) →
    (old.merge new).changes new = []
  | ⟨id, category, grammar, token, children⟩, new, h => by
    rw [merge]
    split
    · next heq => exact changes_of_anchor_eq heq
    next hne =>
    split
    · next index body hchanged =>
      have hblock : body.block = body := by
        have hoperation := changeOfPair_of_changedBody? hchanged hne
        rw [block, if_pos]
        exact h.blocks _ (self_mem_pairings _ new) _
          (hoperation ▸ List.mem_singleton_self _) body rfl
      have hnothing := changes_of_newBody id hchanged hne h
      rw [hblock]
      exact hnothing
    · next hchanged =>
      rw [changes_eq]
      split
      · rfl
      · have hhere := change_of_mergedChildren id hchanged h
        have hbelow := changesAll_mergeAll children new.children 0
          (h.mono (pairingsAll_subset_pairings hne))
        rw [hhere, List.nil_append]
        exact hbelow

theorem changesAll_mergeAll : ∀ (olds news : List Node) (index : Nat),
    Pairing.Orderly (pairingsAll index olds news) → changesAll (mergeAll olds news) news = []
  | old :: olds, new :: news, index, h => by
    rw [pairingsAll] at h
    rw [mergeAll, changesAll,
      changes_merge old new (h.mono (List.subset_append_left _ _)).of_under,
      changesAll_mergeAll olds news (index + 1) (h.mono (List.subset_append_right _ _)),
      List.append_nil]
  | [], news, _, _ => by cases news <;> simp [mergeAll, changesAll]
  | _ :: _, [], _, _ => by simp [mergeAll, changesAll]
end

end Node

/-! ## Documents -/

theorem Pairing.orderly_of_blocks {old new : Node}
    (haligned : ∀ pair ∈ old.pairings new, pair.old.body?.isSome → pair.new.body?.isSome →
      pair.old.category.body? = pair.new.category.body?)
    (hblocks : ∀ operation ∈ old.changes new, ∀ body ∈ operation.newBody?, body.isBlock)
    (hinBody : ∀ outer ∈ old.pairings new, ∀ inner ∈ old.pairings new, outer.isChange →
      inner.isChange → outer.position <+: inner.position → outer.position ≠ inner.position →
        ∃ body ∈ outer.body?, body <+: inner.position) :
    Orderly (old.pairings new) := by
  refine ⟨haligned, ?_, hinBody⟩
  intro pair hpair operation hoperation
  apply hblocks
  rw [Node.changes_eq_flatMap_pairings]
  exact List.mem_flatMap.mpr ⟨pair, hpair, hoperation⟩

namespace Document

theorem withRoot_root {document : Document} (h : document.faults = []) :
    document.withRoot document.root = document := by
  rw [withRoot, ← h]

theorem graft_of_operations_eq_nil (document : Document) {patch : Patch}
    (h : patch.operations = []) (next : NodeId) :
    (document.graft patch next).document = document.withRoot document.root ∧
      (document.graft patch next).applied = 0 ∧ (document.graft patch next).skipped = 0 := by
  have hsites : document.root.sites patch.operations = [] := by
    rw [List.eq_nil_iff_forall_not_mem]
    intro site hsite
    have hlt := Node.operation_lt_of_mem_sites document.root site.hit.operation
      (List.mem_map.mpr ⟨site, hsite, rfl⟩)
    rw [h] at hlt
    exact Nat.not_lt_zero _ hlt
  obtain ⟨-, happlied, hskipped⟩ := document.rewrites_graft patch next
  refine ⟨?_, ?_, ?_⟩
  · rw [← document.root_graft_of_sites_eq_nil hsites next]
    rfl
  · rw [happlied, hsites, List.length_nil]
  · rw [hskipped, h]
    rfl

/-- Comparing a patched document again with the one it was patched by finds nothing, and grafting
that changes nothing. -/
theorem operations_diff_graft_diff (old new : Document) (next later : NodeId)
    (honce : ∀ operation ∈ (old.diff new).value.operations,
      (old.root.preorder.map Node.anchor).count operation.target = 1)
    (haligned : ∀ pair ∈ old.root.pairings new.root, pair.old.body?.isSome →
      pair.new.body?.isSome → pair.old.category.body? = pair.new.category.body?)
    (hblocks : ∀ operation ∈ (old.diff new).value.operations, ∀ body ∈ operation.newBody?,
      body.isBlock)
    (hinBody : ∀ outer ∈ old.root.pairings new.root, ∀ inner ∈ old.root.pairings new.root,
      outer.isChange → inner.isChange → outer.position <+: inner.position →
        outer.position ≠ inner.position → ∃ body ∈ outer.body?, body <+: inner.position) :
    let patched := (old.graft (old.diff new).value next).document
    let again := patched.graft (patched.diff new).value later
    (patched.diff new).value.operations = [] ∧ again.document = patched ∧ again.applied = 0 ∧
      again.skipped = 0 := by
  intro patched again
  rw [operations_diff] at honce hblocks
  have hlocal : Patch.Local (old.root.changes new.root) (old.root.changes new.root)
      old.root.allAnchors := ⟨fun _ _ => rfl, honce⟩
  have hmerged : patched.root.content = (old.root.merge new.root).content := by
    rw [(old.rewrites_graft (old.diff new).value next).1, operations_diff,
      Node.rewrite_eq_merge old.root new.root hlocal]
  have hnothing : (patched.diff new).value.operations = [] := by
    rw [operations_diff, Node.changes_eq_of_content hmerged]
    exact Node.changes_merge old.root new.root
      (Pairing.orderly_of_blocks haligned hblocks hinBody)
  have hfaults : patched.faults = [] := rfl
  obtain ⟨hdocument, happlied, hskipped⟩ := patched.graft_of_operations_eq_nil hnothing later
  exact ⟨hnothing, hdocument.trans (withRoot_root hfaults), happlied, hskipped⟩

set_option maxRecDepth 100000 in
-- The inner function changes inside the body of the outer one, and the outer operation brings the
-- inner change with it.
theorem operations_diff_graft_diff_sampleNested :
    let old := sampleNested []
    let new := sampleNested [.leaf 0 ";" ⟨"", ";"⟩]
    let patched := (old.graft (old.diff new).value 0).document
    let again := patched.graft (patched.diff new).value 0
    ((old.root.pairings new.root).filter (·.isChange)).map (·.position) = [[0], [0, 1, 0]] ∧
      (patched.diff new).value.operations = [] ∧ again.document = patched ∧ again.applied = 0 ∧
      again.skipped = 0 := by
  intro old new patched again
  obtain ⟨hchanges, honce, hblocks, haligned, hinBody⟩ :
      ((old.root.pairings new.root).filter (·.isChange)).map (·.position) = [[0], [0, 1, 0]] ∧
      (∀ operation ∈ old.root.changes new.root,
        (old.root.preorder.map Node.anchor).count operation.target = 1) ∧
      (∀ operation ∈ old.root.changes new.root, ∀ body ∈ operation.newBody?, body.isBlock) ∧
      (∀ pair ∈ old.root.pairings new.root, pair.old.body?.isSome → pair.new.body?.isSome →
        pair.old.category.body? = pair.new.category.body?) ∧
      ∀ outer ∈ old.root.pairings new.root, ∀ inner ∈ old.root.pairings new.root,
        outer.isChange → inner.isChange → outer.position <+: inner.position →
          outer.position ≠ inner.position → ∃ body ∈ outer.body?, body <+: inner.position := by
    decide +kernel
  rw [← operations_diff] at honce hblocks
  exact ⟨hchanges, operations_diff_graft_diff old new 0 0 honce haligned hblocks hinBody⟩

end Document

end Graft
