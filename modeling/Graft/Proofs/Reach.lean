import Graft.Proofs.Agreement
import Graft.Proofs.Identities
import Graft.Proofs.Pairing
import Graft.Proofs.Stability

/-! # No operation is lost without a reason

Every operation of a comparison names a node of the first tree. If it is skipped, then an earlier
one has its anchor, or all that it could rewrite is inside functions that got a new body.
-/

namespace Graft

theorem Category.isFunction_of_body? {category : Category} {index : Nat}
    (h : category.body? = some index) : category.isFunction := by
  unfold Category.body? at h
  split at h
  · rfl
  · cases h

theorem Patch.first?_of_no_earlier {operations : List Operation} {i : Nat} {operation : Operation}
    (h : operations[i]? = some operation)
    (hearlier : ∀ j < i, ∀ other, operations[j]? = some other → other.target ≠ operation.target) :
    Patch.first? operations operation.target = some (operation, i) := by
  obtain ⟨hlt, hget⟩ := List.getElem?_eq_some_iff.mp h
  rw [Patch.first?, List.find?_eq_some_iff_getElem]
  refine ⟨by simp, i, by simpa using hlt, by simp [hget], ?_⟩
  intro j hj
  have hother := hearlier j hj operations[j] (List.getElem?_eq_getElem (by omega))
  simpa using hother

namespace Node

variable {operations : List Operation} {root : Node}

theorem hit?_of_first? {node body : Node} {target : Anchor} {i : Nat}
    (hfirst : Patch.first? operations node.anchor = some (.replaceBody target body, i))
    (hbody : node.body?.isSome) :
    ∃ hit, node.hit? operations = some hit ∧ hit.operation = i := by
  obtain ⟨found, hfound⟩ := Option.isSome_iff_exists.mp hbody
  obtain ⟨index, hindex, hchild⟩ := Option.bind_eq_some_iff.mp hfound
  have hlt := (List.getElem?_eq_some_iff.mp hchild).1
  exact ⟨⟨index, body, i⟩, hit?_eq_some_iff.mpr ⟨⟨target, hfirst⟩, hindex, hlt⟩, rfl⟩

theorem exists_rewrittenAt {position : Position} {hit : Hit}
    (h : root.hitAt? operations position = some hit) :
    ∃ above outer, above <+: position ∧ root.RewrittenAt operations above outer := by
  induction position generalizing root with
  | nil => exact ⟨[], hit, List.nil_prefix, rewrittenAt_nil_iff.mpr h⟩
  | cons index below ih =>
    cases hroot : root.hit? operations with
    | some outer => exact ⟨[], outer, List.nil_prefix, rewrittenAt_nil_iff.mpr hroot⟩
    | none =>
      rw [hitAt?_cons] at h
      obtain ⟨child, hchild, hhit⟩ := Option.bind_eq_some_iff.mp h
      obtain ⟨above, outer, habove, houter⟩ := ih hhit
      exact ⟨index :: above, outer, List.cons_prefix_cons.mpr ⟨rfl, habove⟩,
        rewrittenAt_cons_iff.mpr ⟨hroot, child, hchild, houter⟩⟩

theorem RewrittenAt.isFunction {position : Position} {hit : Hit}
    (h : root.RewrittenAt operations position hit) :
    ∃ node, root.at? position = some node ∧ node.isFunction := by
  obtain ⟨node, hat, hhit⟩ := Option.bind_eq_some_iff.mp h.here
  exact ⟨node, hat, Category.isFunction_of_body? (hit?_eq_some_iff.mp hhit).2.1⟩

/-- An operation that is the first on its anchor and not made use of is hidden: what it could
rewrite is inside a node that is rewritten. -/
theorem hidden_of_unused {i : Nat} {target : Anchor} {body node : Node} {position : Position}
    (hunused : i ∉ Grafting.uses (root.sites operations))
    (hfirst : Patch.first? operations node.anchor = some (.replaceBody target body, i))
    (hat : root.at? position = some node) (hbody : node.body?.isSome) :
    ∃ above outer, above <+: position ∧ above ≠ position ∧
      root.RewrittenAt operations above outer := by
  obtain ⟨hit, hhit, hi⟩ := hit?_of_first? hfirst hbody
  have hhere : root.hitAt? operations position = some hit := by
    rw [hitAt?, hat, Option.bind_some, hhit]
  obtain ⟨above, outer, habove, houter⟩ := exists_rewrittenAt hhere
  refine ⟨above, outer, habove, ?_, houter⟩
  rintro rfl
  -- Otherwise the node is a site of its own, and the site makes use of the operation.
  have hsame : outer = hit := Option.some.inj (houter.here.symm.trans hhere)
  apply hunused
  rw [Grafting.uses, List.mem_map]
  exact ⟨⟨above, outer⟩, mem_sites.mpr houter, by rw [hsame, hi]⟩

theorem sites_ne_nil_of_hitAt? {position : Position} {hit : Hit}
    (h : root.hitAt? operations position = some hit) : root.sites operations ≠ [] := by
  obtain ⟨above, outer, -, houter⟩ := exists_rewrittenAt h
  exact List.ne_nil_of_mem (mem_sites.mpr houter)

end Node

namespace Document

variable {old new : Document}

theorem applied_pos (h : (old.diff new).value.operations ≠ []) (next : NodeId) :
    1 ≤ (old.graft (old.diff new).value next).applied := by
  obtain ⟨operation, rest, hoperations⟩ := List.exists_cons_of_ne_nil h
  have hmem : operation ∈ (old.diff new).value.operations := by
    rw [hoperations]
    exact List.mem_cons_self
  obtain ⟨position, a, b, oldBody, newBody, hat, -, hbody, -, rfl⟩ := exists_pair_of_mem_diff hmem
  have hget : (old.diff new).value.operations[0]? = some (.replaceBody a.anchor newBody) := by
    rw [hoperations]
    rfl
  have hfirst : Patch.first? (old.diff new).value.operations a.anchor =
      some (.replaceBody a.anchor newBody, 0) :=
    Patch.first?_of_no_earlier hget fun j hj => absurd hj (Nat.not_lt_zero j)
  obtain ⟨hit, hhit, -⟩ := Node.hit?_of_first? hfirst (by rw [hbody]; rfl)
  have hhere : old.root.hitAt? (old.diff new).value.operations position = some hit := by
    rw [Node.hitAt?, hat, Option.bind_some, hhit]
  rw [(old.rewrites_graft (old.diff new).value next).2.1]
  exact List.length_pos_iff.mpr (Node.sites_ne_nil_of_hitAt? hhere)

theorem skipped_reason {i : Nat} {operation : Operation}
    (hget : (old.diff new).value.operations[i]? = some operation)
    (hunused : i ∉ Grafting.uses (old.root.sites (old.diff new).value.operations)) :
    (∃ j < i, ∃ other, (old.diff new).value.operations[j]? = some other ∧
        other.target = operation.target) ∨
      ∀ position node, old.root.at? position = some node → node.anchor = operation.target →
        node.body?.isSome → ∃ above outer hit, above <+: position ∧ above ≠ position ∧
          old.root.at? above = some outer ∧ outer.isFunction ∧
          old.root.RewrittenAt (old.diff new).value.operations above hit := by
  by_cases hearlier : ∃ j < i, ∃ other, (old.diff new).value.operations[j]? = some other ∧
      other.target = operation.target
  · exact Or.inl hearlier
  · refine Or.inr ?_
    intro position node hat hanchor hbody
    have hfirst : Patch.first? (old.diff new).value.operations operation.target =
        some (operation, i) := by
      apply Patch.first?_of_no_earlier hget
      intro j hj other hother htarget
      exact hearlier ⟨j, hj, other, hother, htarget⟩
    obtain ⟨_, _, _, _, newBody, _, _, _, _, hreplace⟩ :=
      exists_pair_of_mem_diff (List.mem_of_getElem? hget)
    rw [← hanchor, hreplace] at hfirst
    obtain ⟨above, hit, habove, hne, hrewritten⟩ := Node.hidden_of_unused hunused hfirst hat hbody
    obtain ⟨outer, houter, hfunction⟩ := hrewritten.isFunction
    exact ⟨above, outer, hit, habove, hne, houter, hfunction, hrewritten⟩

theorem exists_get?_of_mem_diff (h : Node.Identified old.root.preorder) {operation : Operation}
    (hoperation : operation ∈ (old.diff new).value.operations) :
    ∃ node ∈ old.root.preorder, node.anchor = operation.target ∧
      (AnchorIndex.build old.root).get? operation.target = some node := by
  obtain ⟨position, a, b, oldBody, newBody, hat, -, -, -, rfl⟩ := exists_pair_of_mem_diff hoperation
  have hsome : ((AnchorIndex.build old.root).get? a.anchor).isSome := by
    rw [AnchorIndex.isSome_get?_build h]
    exact List.mem_map_of_mem (Node.mem_preorder_of_at? hat)
  obtain ⟨node, hnode⟩ := Option.isSome_iff_exists.mp hsome
  have hfound := hnode
  rw [AnchorIndex.get?_build h] at hfound
  have hanchor : node.anchor = a.anchor := by simpa using List.find?_some hfound
  exact ⟨node, List.mem_of_find?_eq_some hfound, hanchor, hnode⟩

end Document

/-! ## Listings -/

theorem Options.owned_of_parseBoth {options : Options} {parser : Parser} {base proposed : String}
    {old new : Document} {next : NodeId}
    (h : options.parseBoth parser base proposed = .ok (old, new, next)) :
    Node.Owned [new.root, old.root] next := by
  obtain ⟨language, -, hboth⟩ := exists_language_of_parseBoth h
  have hold := Document.owned_ofConcrete Node.owned_nil options.file language base
    (parser language base)
  have hnew := Document.owned_ofConcrete hold options.file language proposed
    (parser language proposed)
  cases hboth
  exact hnew

namespace Cli

theorem target_summaries {old new : Document} (h : Node.Identified old.root.preorder)
    {summary : Summary} (hsummary : summary ∈ summaries old (old.diff new).value) :
    ∃ node ∈ old.root.preorder, node.anchor = summary.anchor ∧
      summary.target = some node.described := by
  obtain ⟨operation, hoperation, rfl⟩ := List.mem_map.mp hsummary
  obtain ⟨node, hmem, hanchor, hget⟩ := Document.exists_get?_of_mem_diff h hoperation
  refine ⟨node, hmem, hanchor, ?_⟩
  rw [Summary.ofOperation, hget, Option.map_some]

/-- A listing that is shown has a target for every operation. -/
theorem diff_cases (parser : Parser) (invocation : Invocation) (config : Config)
    (directory : Directory) (base proposed : String) (json : Bool) :
    (∃ failure, diff parser invocation config directory base proposed json =
      .failure directory failure []) ∨
    ∃ listed events, diff parser invocation config directory base proposed json =
        listing invocation.room directory json listed events ∧
      ∀ summary ∈ listed, ∃ target, summary.target = some target := by
  cases hbase : directory.readText base with
  | error e => exact Or.inl ⟨.read base e, by simp only [diff, hbase]⟩
  | ok baseText =>
    cases hproposed : directory.readText proposed with
    | error e =>
      -- The first text is parsed before the second is read, so either may be the reason.
      cases hparse : (config.options base).parse parser .base baseText 0 with
      | error refusal => exact Or.inl ⟨.refused refusal, by simp only [diff, hbase, hparse]⟩
      | ok parsed => exact Or.inl ⟨.read proposed e, by simp only [diff, hbase, hparse, hproposed]⟩
    | ok proposedText =>
      rw [diff_of_readable parser invocation config json hbase hproposed]
      cases hboth : (config.options base).parseBoth parser baseText proposedText with
      | error refusal => exact Or.inl ⟨.refused refusal, rfl⟩
      | ok both =>
        obtain ⟨baseDocument, document, after⟩ := both
        refine Or.inr ⟨_, _, rfl, ?_⟩
        intro summary hsummary
        obtain ⟨node, -, -, htarget⟩ :=
          target_summaries ((Options.owned_of_parseBoth hboth).identified_of_mem (by simp)) hsummary
        exact ⟨node.described, htarget⟩

end Cli

/-! ## Every operation is accounted for -/

/-- What a comparison finds are new bodies for functions that the index of the first tree has. One
of them is put in at least, and one that is skipped comes after another on its anchor, or all that
it could rewrite is inside functions that are rewritten. So no listing has an operation without a
target. -/
theorem operations_accounted_for :
    (∀ (old new : Document) (next : NodeId),
      let operations := (old.diff new).value.operations
      let result := old.graft (old.diff new).value next
      let skipped := Grafting.unused operations.length (Grafting.uses (old.root.sites operations))
      (∀ operation ∈ operations,
        (∃ target body, operation = .replaceBody target body ∧
          ∃ node ∈ new.root.preorder, node.body? = some body) ∧
        (Node.Identified old.root.preorder →
          ∃ node ∈ old.root.preorder, node.anchor = operation.target ∧
            (AnchorIndex.build old.root).get? operation.target = some node)) ∧
      (operations ≠ [] → 1 ≤ result.applied) ∧
      result.skipped = skipped.length ∧
      ∀ i ∈ skipped, ∀ operation, operations[i]? = some operation →
        (∃ j < i, ∃ other, operations[j]? = some other ∧ other.target = operation.target) ∨
        ∀ position node, old.root.at? position = some node → node.anchor = operation.target →
          node.body?.isSome → ∃ above outer hit, above <+: position ∧ above ≠ position ∧
            old.root.at? above = some outer ∧ outer.isFunction ∧
            old.root.RewrittenAt operations above hit) ∧
    ∀ (parser : Parser) (invocation : Cli.Invocation) (config : Config) (directory : Directory)
      (base proposed : String) (json : Bool),
      let shown := Cli.diff parser invocation config directory base proposed json
      (∃ failure, shown = .failure directory failure []) ∨
        ∃ listed events, shown = Cli.listing invocation.room directory json listed events ∧
          ∀ summary ∈ listed, ∃ target, summary.target = some target := by
  refine ⟨?_, Cli.diff_cases⟩
  intro old new next operations result skipped
  refine ⟨?_, fun h => Document.applied_pos h next, (old.rewrites_graft _ next).2.2, ?_⟩
  · intro operation hoperation
    refine ⟨?_, fun h => Document.exists_get?_of_mem_diff h hoperation⟩
    obtain ⟨position, a, b, oldBody, newBody, -, hb, -, hbody, rfl⟩ :=
      Document.exists_pair_of_mem_diff hoperation
    exact ⟨a.anchor, newBody, rfl, b, Node.mem_preorder_of_at? hb, hbody⟩
  · intro i hi operation hget
    have hunused : i ∉ Grafting.uses (old.root.sites operations) := by
      simpa using (List.mem_filter.mp hi).2
    exact Document.skipped_reason hget hunused

set_option maxRecDepth 100000 in
-- Both functions change. The operation on the inner one is skipped, because of the outer one.
theorem operations_accounted_for_sampleNested :
    let old := (sampleNested []).withRoot ((sampleNested []).root.numbered 0).1
    let new := sampleNested [.leaf 0 ";" ⟨"", ";"⟩]
    let operations := (old.diff new).value.operations
    (Node.Identified old.root.preorder ∧ operations.length = 2 ∧
      1 ∈ Grafting.unused operations.length (Grafting.uses (old.root.sites operations))) ∧
      (∀ operation ∈ operations, ∃ node ∈ old.root.preorder, node.anchor = operation.target ∧
        (AnchorIndex.build old.root).get? operation.target = some node) ∧
      1 ≤ (old.graft (old.diff new).value 0).applied ∧
      ∃ above outer hit, above <+: [0, 1, 0] ∧ above ≠ [0, 1, 0] ∧
        old.root.at? above = some outer ∧ outer.isFunction ∧
        old.root.RewrittenAt operations above hit := by
  intro old new operations
  have hidentified : Node.Identified old.root.preorder :=
    (Node.owned_nil.numbered (sampleNested []).root).identified_of_mem List.mem_cons_self
  obtain ⟨hlength, hskipped, htargets, hinner, hbody⟩ :
      (old.root.changes new.root).length = 2 ∧
      1 ∈ Grafting.unused (old.root.changes new.root).length
        (Grafting.uses (old.root.sites (old.root.changes new.root))) ∧
      ((old.root.changes new.root).map Operation.target).Nodup ∧
      (old.root.at? [0, 1, 0]).map Node.anchor =
        (old.root.changes new.root)[1]?.map Operation.target ∧
      (old.root.at? [0, 1, 0]).any (·.body?.isSome) := by
    decide +kernel
  rw [← Document.operations_diff] at hlength hskipped htargets hinner
  obtain ⟨hfound, happlied, -, hreason⟩ := operations_accounted_for.1 old new 0
  refine ⟨⟨hidentified, hlength, hskipped⟩,
    fun operation hmem => (hfound operation hmem).2 hidentified,
    happlied (by rw [← List.length_pos_iff, hlength]; decide), ?_⟩
  obtain ⟨operation, hget⟩ : ∃ operation, operations[1]? = some operation :=
    ⟨_, List.getElem?_eq_getElem (by rw [hlength]; decide)⟩
  obtain ⟨node, hat, hnode⟩ := (Option.any_eq_true _ _).mp hbody
  have hanchor : node.anchor = operation.target := by
    rw [hat, hget] at hinner
    exact Option.some.inj hinner
  rcases hreason 1 hskipped operation hget with ⟨j, hj, other, hother, htarget⟩ | hhidden
  · have hsame : (operations.map Operation.target)[j]? = (operations.map Operation.target)[1]? := by
      rw [List.getElem?_map, List.getElem?_map, hother, hget, Option.map_some, Option.map_some,
        htarget]
    have hj1 := (List.getElem?_inj (by rw [List.length_map, hlength]; omega) htargets).mp hsame
    omega
  · exact hhidden [0, 1, 0] node hat hanchor hnode

end Graft
