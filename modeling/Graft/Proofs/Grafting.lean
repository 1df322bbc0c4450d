import Mathlib.Data.Finset.Card
import Mathlib.Data.Finset.Dedup
import Mathlib.Data.Finset.Range
import Graft.Proofs.Rewriting
import Graft.Proofs.Tables
import Graft.Proofs.Walk

/-! # Grafting is rewriting

The walk that grafts a patch gives the tree that the patch means, up to identities, and its counts
are those of the nodes rewritten and of the operations that rewrote none.
-/

namespace Graft

/-! ## The table of operations -/

theorem Patch.getElem?_table (operations : List Operation) (anchor : Anchor) :
    (Patch.table operations)[anchor]? = Patch.first? operations anchor := by
  have htable := Table.getElem?_foldl_insertIfNew (fun entry : Operation × Nat => entry.1.target)
    operations.zipIdx ∅ anchor
  rw [Patch.table, htable, Patch.first?]
  simp

namespace Grafting

variable {operations : List Operation}

/-! ## One node -/

theorem attempt_of_hit {node : Node} {hit : Hit} (next : NodeId)
    (h : node.hit? operations = some hit) :
    ∃ replacement events,
      attempt (Patch.table operations) next node.anchor node = (some replacement, events) ∧
      replacement.position = hit.operation ∧
      replacement.node.content = (node.rewrite operations).content := by
  obtain ⟨⟨target, hfirst⟩, hbody, hlt⟩ := Node.hit?_eq_some_iff.mp h
  refine ⟨⟨node.withChildren (asBlock next hit.body).2
      (node.children.set hit.index (asBlock next hit.body).1), hit.operation,
      (asBlock next hit.body).2 + 1⟩, [.bodyReplaced node.anchor], ?_, rfl, ?_⟩
  · simp [attempt, Patch.getElem?_table, hfirst, hbody, replaceBody?, Node.withChild?, hlt]
  · rw [Node.content_withChildren, Node.rewrite_of_hit h, Node.content_eq, List.map_set,
      List.map_set, Node.content_asBlock]

theorem attempt_of_miss {node : Node} (next : NodeId) (h : node.hit? operations = none) :
    ∃ events, attempt (Patch.table operations) next node.anchor node = (none, events) := by
  -- Every branch that replaces a body is one where the node is hit.
  rw [attempt, Patch.getElem?_table]
  split
  · exact ⟨_, rfl⟩
  · next target body position hfirst =>
    split
    · exact ⟨_, rfl⟩
    · next index hbody =>
      split
      · exact ⟨_, rfl⟩
      · next replaced after hreplaced =>
        have hlt : index < node.children.length := by
          simp only [replaceBody?, Node.withChild?] at hreplaced
          split at hreplaced
          · assumption
          · cases hreplaced
        have hhit : node.hit? operations = some ⟨index, body, position⟩ :=
          Node.hit?_eq_some_iff.mpr ⟨⟨target, hfirst⟩, hbody, hlt⟩
        rw [h] at hhit
        cases hhit
  · exact ⟨_, rfl⟩

/-! ## Counts -/

/-- Marks the operations that were made use of. -/
def mark (used : Array Bool) (uses : List Nat) : Array Bool :=
  uses.foldl (fun used operation => used.setIfInBounds operation true) used

/-- What a part of the walk adds to the counts, by the operations that it made use of. -/
structure Pass.Counts (before : Pass) (uses : List Nat) (after : Pass) : Prop where
  applied : after.applied = before.applied + uses.length
  used : after.used = mark before.used uses

theorem Pass.Counts.refl (pass : Pass) : pass.Counts [] pass := ⟨rfl, rfl⟩

theorem Pass.Counts.trans {first second third : Pass} {uses others : List Nat}
    (h : first.Counts uses second) (hs : second.Counts others third) :
    first.Counts (uses ++ others) third := by
  refine ⟨?_, ?_⟩
  · rw [hs.applied, h.applied, List.length_append, Nat.add_assoc]
  · rw [hs.used, h.used, mark, mark, mark, List.foldl_append]

theorem visit_of_hit {node : Node} {hit : Hit} (pass : Pass)
    (h : node.hit? operations = some hit) :
    ∃ after new, visit (Patch.table operations) pass (Anchored.ofNode node) =
        (after, .replace new) ∧
      pass.Counts [hit.operation] after ∧ new.content = (node.rewrite operations).content := by
  obtain ⟨replacement, events, hattempt, hposition, hcontent⟩ := attempt_of_hit pass.next h
  rw [visit_ofNode, hattempt]
  exact ⟨_, _, rfl, ⟨rfl, by rw [← hposition]; rfl⟩, hcontent⟩

theorem visit_of_miss {node : Node} (pass : Pass) (h : node.hit? operations = none) :
    ∃ after, visit (Patch.table operations) pass (Anchored.ofNode node) =
        (after, if node.children.isEmpty then .keep else .descend) ∧ pass.Counts [] after := by
  obtain ⟨events, hattempt⟩ := attempt_of_miss pass.next h
  rw [visit_ofNode, hattempt]
  exact ⟨{ pass with events := pass.events ++ events }, rfl, ⟨rfl, rfl⟩⟩

/-! ## Whole trees -/

/-- The operations that some sites make use of. -/
def uses (sites : List Site) : List Nat :=
  sites.map (·.hit.operation)

@[simp] theorem uses_append (sites others : List Site) :
    uses (sites ++ others) = uses sites ++ uses others :=
  List.map_append

@[simp] theorem uses_under (index : Nat) (sites : List Site) :
    uses (sites.map (Site.under index)) = uses sites := by
  simp [uses, Site.under]

/-- What the walk makes of a node. -/
structure Rewrites (operations : List Operation) (pass : Pass) (node : Node) (result : Grafted) :
    Prop where
  counts : pass.Counts (uses (node.sites operations)) result.pass
  content : result.node.content = (node.rewrite operations).content
  shared : result.changed = false → result.node = node

/-- What the walk makes of children that stand from `index` on. -/
structure RewritesAll (operations : List Operation) (pass : Pass) (index : Nat) (nodes : List Node)
    (result : GraftedAll) : Prop where
  counts : pass.Counts (uses (Node.sitesAll operations index nodes)) result.pass
  contents : result.nodes.map Node.content =
    (Node.rewriteAll operations nodes).map Node.content
  shared : result.changed = false → result.nodes = nodes

theorem rewrites_of_hit {node : Node} {hit : Hit} (pass : Pass)
    (h : node.hit? operations = some hit) :
    Rewrites operations pass node (graft (Patch.table operations) pass (Anchored.ofNode node)) := by
  obtain ⟨after, new, hvisit, hcounts, hcontent⟩ := visit_of_hit pass h
  rw [Anchored.ofNode_eq] at hvisit ⊢
  rw [graft, hvisit]
  refine ⟨?_, hcontent, by simp⟩
  rw [Node.sites_of_hit h]
  exact hcounts

theorem rewrites_enclose {node : Node} {before pass : Pass} {below : GraftedAll}
    (h : node.hit? operations = none) (hpass : before.Counts [] pass)
    (hbelow : RewritesAll operations pass 0 node.children below) :
    Rewrites operations before node (enclose node below) := by
  have hcounts : before.Counts (uses (node.sites operations)) below.pass := by
    rw [Node.sites_of_miss h]
    exact hpass.trans hbelow.counts
  unfold enclose
  split
  · refine ⟨⟨hcounts.applied, hcounts.used⟩, ?_, by simp⟩
    rw [Node.content_withChildren, hbelow.contents, Node.rewrite_of_miss h, Node.content_eq]
  · next hchanged =>
    have hshared := hbelow.shared (by simpa using hchanged)
    refine ⟨hcounts, ?_, fun _ => rfl⟩
    rw [Node.rewrite_of_miss h, Node.content_eq, Node.content_eq, ← hbelow.contents, hshared]

mutual
theorem rewrites_graft : ∀ (node : Node) (pass : Pass),
    Rewrites operations pass node (graft (Patch.table operations) pass (Anchored.ofNode node))
  | ⟨id, category, grammar, token, children⟩, pass => by
    cases h : Node.hit? operations ⟨id, category, grammar, token, children⟩ with
    | some hit => exact rewrites_of_hit pass h
    | none =>
      obtain ⟨after, hvisit, hcounts⟩ := visit_of_miss pass h
      have hall := rewritesAll_graftAll children 0 after
      rw [Anchored.ofNode_eq] at hvisit ⊢
      rw [graft, hvisit]
      cases children with
      | nil => exact rewrites_enclose h hcounts hall
      | cons first rest => exact rewrites_enclose h hcounts hall

theorem rewritesAll_graftAll : ∀ (nodes : List Node) (index : Nat) (pass : Pass),
    RewritesAll operations pass index nodes
      (graftAll (Patch.table operations) pass (Anchored.ofNodes nodes))
  | [], index, pass => ⟨.refl pass, rfl, fun _ => rfl⟩
  | node :: rest, index, pass => by
    have hfirst := rewrites_graft node pass
    have hrest := rewritesAll_graftAll rest (index + 1)
      (graft (Patch.table operations) pass (Anchored.ofNode node)).pass
    rw [Anchored.ofNodes, graftAll]
    refine ⟨?_, ?_, ?_⟩
    · rw [Node.sitesAll, uses_append, uses_under]
      exact hfirst.counts.trans hrest.counts
    · simp [Node.rewriteAll, hfirst.content, hrest.contents]
    · intro hchanged
      rw [Bool.or_eq_false_iff] at hchanged
      rw [hfirst.shared hchanged.1, hrest.shared hchanged.2]
end

-- A node is made anew exactly where some node at or below it is rewritten.
mutual
theorem changed_graft : ∀ (node : Node) (pass : Pass),
    (graft (Patch.table operations) pass (Anchored.ofNode node)).changed =
      !(node.sites operations).isEmpty
  | ⟨id, category, grammar, token, children⟩, pass => by
    cases h : Node.hit? operations ⟨id, category, grammar, token, children⟩ with
    | some hit =>
      obtain ⟨after, new, hvisit, -, -⟩ := visit_of_hit pass h
      rw [Anchored.ofNode_eq] at hvisit ⊢
      rw [graft, hvisit, Node.sites_of_hit h]
      rfl
    | none =>
      obtain ⟨after, hvisit, -⟩ := visit_of_miss pass h
      have hall := changed_graftAll children 0 after
      rw [Anchored.ofNode_eq] at hvisit ⊢
      rw [graft, hvisit, Node.sites_of_miss h]
      cases children with
      | nil => rfl
      | cons first rest =>
        simp only [List.isEmpty_cons, Bool.false_eq_true, if_false, enclose]
        rw [← hall]
        split
        · next hchanged => exact hchanged.symm
        · next hchanged => simpa using hchanged

theorem changed_graftAll : ∀ (nodes : List Node) (index : Nat) (pass : Pass),
    (graftAll (Patch.table operations) pass (Anchored.ofNodes nodes)).changed =
      !(Node.sitesAll operations index nodes).isEmpty
  | [], index, pass => rfl
  | node :: rest, index, pass => by
    have hfirst := changed_graft node pass
    have hrest := changed_graftAll rest (index + 1)
      (graft (Patch.table operations) pass (Anchored.ofNode node)).pass
    rw [Anchored.ofNodes, graftAll, Node.sitesAll]
    cases hsites : node.sites operations <;> simp [hfirst, hrest, hsites]
end

/-! ## Skipped operations -/

theorem getElem?_mark (used : Array Bool) (uses : List Nat) (operation : Nat) :
    (mark used uses)[operation]? = used[operation]?.map (· || uses.contains operation) := by
  induction uses generalizing used with
  | nil => simp [mark]
  | cons first rest ih =>
    have hstep : mark used (first :: rest) = mark (used.setIfInBounds first true) rest := rfl
    rw [hstep, ih, Array.getElem?_setIfInBounds]
    by_cases h : first = operation
    · subst h
      by_cases hlt : first < used.size <;> simp [hlt]
    · have hne : ¬ operation = first := Ne.symm h
      simp [h, hne]

/-- The operations out of `count` that are not made use of. -/
def unused (count : Nat) (uses : List Nat) : List Nat :=
  (List.range count).filter (· ∉ uses)

theorem countP_mark (count : Nat) (uses : List Nat) :
    (mark (Array.replicate count false) uses).countP (!·) = (unused count uses).length := by
  have hmark : mark (Array.replicate count false) uses =
      (Array.range count).map (uses.contains ·) := by
    apply Array.ext_getElem?
    intro operation
    rw [getElem?_mark]
    by_cases h : operation < count <;> simp [h]
  rw [hmark, Array.countP_map, ← Array.countP_toList, Array.toList_range,
    List.countP_eq_length_filter, unused]
  congr 2
  ext operation
  simp

theorem card_uses_add_length_unused (count : Nat) (uses : List Nat)
    (h : ∀ operation ∈ uses, operation < count) :
    uses.toFinset.card + (unused count uses).length = count := by
  have hsub : uses.toFinset ⊆ Finset.range count := by
    intro operation hmem
    simpa using h operation (List.mem_toFinset.mp hmem)
  have hunused : (unused count uses).toFinset = Finset.range count \ uses.toFinset := by
    ext operation
    simp [unused]
  have hnodup : (unused count uses).Nodup := List.Nodup.filter _ List.nodup_range
  rw [← List.toFinset_card_of_nodup hnodup, hunused, Finset.card_sdiff_of_subset hsub,
    Finset.card_range]
  have := Finset.card_le_card hsub
  rw [Finset.card_range] at this
  omega

end Grafting

/-! ## Documents -/

/-- What grafting gives, in terms of the recursion. -/
theorem Document.rewrites_graft (document : Document) (patch : Patch) (next : NodeId) :
    (document.graft patch next).document.root.content =
        (document.root.rewrite patch.operations).content ∧
      (document.graft patch next).applied = (document.root.sites patch.operations).length ∧
      (document.graft patch next).skipped =
        (Grafting.unused patch.operations.length
          (Grafting.uses (document.root.sites patch.operations))).length := by
  have h := @Grafting.rewrites_graft patch.operations document.root (.fresh patch next)
  have happlied := h.counts.applied
  have hused := h.counts.used
  simp only [Document.graft, Grafting.ofWalk, Grafting.run_start]
  refine ⟨h.content, ?_, ?_⟩
  · simpa [Grafting.uses, Grafting.Pass.fresh] using happlied
  · rw [hused, Grafting.Pass.fresh, Grafting.countP_mark]

theorem Document.root_graft_of_sites_eq_nil (document : Document) {patch : Patch}
    (h : document.root.sites patch.operations = []) (next : NodeId) :
    (document.graft patch next).document.root = document.root := by
  have hrewrites := @Grafting.rewrites_graft patch.operations document.root (.fresh patch next)
  have hchanged := @Grafting.changed_graft patch.operations document.root (.fresh patch next)
  rw [h, List.isEmpty_nil, Bool.not_true] at hchanged
  simp only [Document.graft, Grafting.ofWalk, Grafting.run_start]
  exact hrewrites.shared hchanged

/-- Grafting a patch rewrites the tree. The nodes with a new body are the outermost ones that are
hit, each place counts once, and every operation of the patch is either made use of or skipped. -/
theorem Document.graft_eq_rewrite (document : Document) (patch : Patch) (next : NodeId) :
    let sites := document.root.sites patch.operations
    let used := (sites.map (·.hit.operation)).toFinset
    let result := document.graft patch next
    result.document.root.content = (document.root.rewrite patch.operations).content ∧
      (∀ position hit, ⟨position, hit⟩ ∈ sites ↔
        document.root.RewrittenAt patch.operations position hit) ∧
      (sites.map (·.position)).Nodup ∧
      result.applied = sites.length ∧
      result.skipped =
        ((List.range patch.operations.length).filter (· ∉ sites.map (·.hit.operation))).length ∧
      used.card + result.skipped = patch.operations.length ∧
      patch.operations.length - result.skipped ≤ result.applied := by
  intro sites used result
  obtain ⟨hcontent, happlied, hskipped⟩ := document.rewrites_graft patch next
  have hsum : used.card + result.skipped = patch.operations.length := by
    rw [hskipped]
    exact Grafting.card_uses_add_length_unused _ _ (Node.operation_lt_of_mem_sites document.root)
  have hcard : used.card ≤ sites.length := by
    simpa using List.toFinset_card_le (sites.map (·.hit.operation))
  have hcount : result.applied = sites.length := happlied
  refine ⟨hcontent, fun _ _ => Node.mem_sites, Node.nodup_position_sites document.root, hcount,
    hskipped, hsum, ?_⟩
  omega

end Graft
