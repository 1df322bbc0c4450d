import Graft.Proofs.Agreement
import Graft.Proofs.Merging

/-! # Which operations count

Of several operations on one anchor only the first is ever tried. So a patch may be put into another
order, or made longer, and as long as every anchor of the tree keeps its first operation, nothing
comes out differently but the number of operations that are skipped.
-/

namespace Graft

namespace Patch

/-- The same operations in another order, in which those on one anchor follow each other as they
did. -/
def Reordered (operations others : List Operation) : Prop :=
  ∀ anchor, others.filter (·.target == anchor) = operations.filter (·.target == anchor)

/-- Both patches have the same first operation on each of the anchors. -/
def Agree (operations others : List Operation) (anchors : List Anchor) : Prop :=
  ∀ anchor ∈ anchors, on? others anchor = on? operations anchor

variable {operations others : List Operation}

theorem Agree.symm {anchors : List Anchor} (h : Agree operations others anchors) :
    Agree others operations anchors :=
  fun anchor hanchor => (h anchor hanchor).symm

theorem Reordered.agree (h : Reordered operations others) (anchors : List Anchor) :
    Agree operations others anchors := by
  intro anchor _
  rw [on?, on?, ← List.head?_filter, ← List.head?_filter, h anchor]

theorem Reordered.perm (h : Reordered operations others) : others.Perm operations := by
  classical
  rw [List.perm_iff_count]
  intro operation
  have hcount := congrArg (List.count operation) (h operation.target)
  rwa [List.count_filter (by simp), List.count_filter (by simp)] at hcount

theorem reordered_swap (before after : List Operation) {first second : Operation}
    (h : first.target ≠ second.target) :
    Reordered (before ++ first :: second :: after) (before ++ second :: first :: after) := by
  intro anchor
  simp only [List.filter_append, List.filter_cons]
  split
  · next hsecond =>
    have hfirst : (first.target == anchor) = false := by
      rw [beq_eq_false_iff_ne]
      rintro rfl
      exact h (beq_iff_eq.mp hsecond).symm
    rw [hfirst]
    rfl
  · rfl

/-- A further operation changes the first one on no anchor but its own, and there only if none
stands before it. -/
theorem agree_insert {before : List Operation} {operation : Operation} {anchors : List Anchor}
    (after : List Operation)
    (h : operation.target ∈ before.map Operation.target ∨ operation.target ∉ anchors) :
    Agree (before ++ after) (before ++ operation :: after) anchors := by
  intro anchor hanchor
  rw [on?_append, on?_append]
  by_cases htarget : operation.target = anchor
  · -- Then the operation is behind another one on the anchor.
    subst htarget
    have hbefore : (on? before operation.target).isSome := by
      obtain ⟨earlier, hmem, hearlier⟩ := List.mem_map.mp (h.resolve_right (not_not_intro hanchor))
      rw [on?, List.find?_isSome]
      exact ⟨earlier, hmem, by rw [hearlier, beq_self_eq_true]⟩
    rw [Option.or_of_isSome hbefore, Option.or_of_isSome hbefore]
  · have hafter : on? (operation :: after) anchor = on? after anchor :=
      List.find?_cons_of_neg (by simpa using htarget)
    rw [hafter]

theorem eq_of_first? {anchor : Anchor} {operation : Operation} {i : Nat}
    (h : first? operations anchor = some (operation, i)) :
    operations[i]? = some operation ∧ operation.target = anchor := by
  refine ⟨?_, by simpa using List.find?_some h⟩
  exact List.mem_zipIdx_iff_getElem?.mp (List.mem_of_find?_eq_some h)

end Patch

/-! ## Two walks of one tree -/

namespace Grafting

/-- Two passes that differ at most in the positions of the operations that were made use of. -/
structure Pass.Alike (left right : Pass) : Prop where
  applied : left.applied = right.applied
  next : left.next = right.next
  events : left.events = right.events

structure Grafted.Alike (left right : Grafted) : Prop where
  pass : left.pass.Alike right.pass
  node : left.node = right.node
  changed : left.changed = right.changed

structure GraftedAll.Alike (left right : GraftedAll) : Prop where
  pass : left.pass.Alike right.pass
  nodes : left.nodes = right.nodes
  changed : left.changed = right.changed

variable {operations others : List Operation}

/-- What an attempt comes to depends on the first operation for the node and not on its position. -/
theorem attempt_congr (node : Node) (next : NodeId)
    (h : Patch.on? others node.anchor = Patch.on? operations node.anchor) :
    let left := attempt (Patch.table others) next node.anchor node
    let right := attempt (Patch.table operations) next node.anchor node
    left.1.map (fun replacement => (replacement.node, replacement.next)) =
        right.1.map (fun replacement => (replacement.node, replacement.next)) ∧
      left.2 = right.2 := by
  rw [← Patch.map_first?, ← Patch.map_first?] at h
  simp only [attempt, Patch.getElem?_table]
  obtain ⟨hleft, hright⟩ | ⟨⟨operation, i⟩, ⟨_, j⟩, hleft, hright, rfl⟩ := cases_of_map_eq_map h
  · simp only [hleft, hright, and_self]
  · simp only [hleft, hright]
    cases operation with
    | replaceBody target body =>
      cases hindex : node.category.body? with
      | none => exact ⟨rfl, rfl⟩
      | some index => cases hreplaced : replaceBody? next node index body <;> simp [hreplaced]
    | addNode => exact ⟨rfl, rfl⟩
    | removeNode => exact ⟨rfl, rfl⟩

theorem visit_congr {left right : Pass} (node : Node) (hpass : left.Alike right)
    (h : Patch.on? others node.anchor = Patch.on? operations node.anchor) :
    (visit (Patch.table others) left (Anchored.ofNode node)).1.Alike
        (visit (Patch.table operations) right (Anchored.ofNode node)).1 ∧
      (visit (Patch.table others) left (Anchored.ofNode node)).2 =
        (visit (Patch.table operations) right (Anchored.ofNode node)).2 := by
  obtain ⟨hreplaced, hevents⟩ := attempt_congr node right.next h
  simp only [visit_ofNode]
  rcases hleft : attempt (Patch.table others) left.next node.anchor node with ⟨made, told⟩
  rcases hright : attempt (Patch.table operations) right.next node.anchor node with
    ⟨other, toldOther⟩
  rw [hpass.next] at hleft
  rw [hleft, hright] at hreplaced hevents
  obtain rfl : told = toldOther := hevents
  obtain ⟨rfl, rfl⟩ | ⟨first, second, rfl, rfl, hsame⟩ := cases_of_map_eq_map hreplaced
  · exact ⟨⟨hpass.applied, hpass.next, by simp only [Pass.take, hpass.events]⟩, rfl⟩
  · obtain ⟨hnode, hnext⟩ := Prod.mk.inj hsame
    refine ⟨⟨?_, hnext, ?_⟩, ?_⟩
    · simp only [Pass.take, hpass.applied]
    · simp only [Pass.take, hpass.events]
    · simp only [Pass.take, hnode]

theorem enclose_congr {left right : GraftedAll} (node : Node) (h : left.Alike right) :
    (enclose node left).Alike (enclose node right) := by
  unfold enclose
  rw [h.changed]
  split
  · refine ⟨⟨h.pass.applied, ?_, h.pass.events⟩, ?_, rfl⟩
    · simp only [h.pass.next]
    · simp only [h.pass.next, h.nodes]
  · exact ⟨h.pass, rfl, rfl⟩

-- Both walks go through the tree in step: a visit ends alike, so both descend or neither does.
mutual
theorem graft_congr : ∀ (node : Node) {left right : Pass}, left.Alike right →
    Patch.Agree operations others node.allAnchors →
      (graft (Patch.table others) left (Anchored.ofNode node)).Alike
        (graft (Patch.table operations) right (Anchored.ofNode node))
  | ⟨id, category, grammar, token, children⟩, left, right, hpass, h => by
    rw [Patch.Agree, Node.allAnchors_eq, List.forall_mem_cons] at h
    obtain ⟨hafter, hvisit⟩ := visit_congr ⟨id, category, grammar, token, children⟩ hpass h.1
    have hbelow := graftAll_congr children hafter h.2
    rw [Anchored.ofNode_eq] at hafter hvisit hbelow ⊢
    rw [graft, graft]
    rcases hleft : visit (Patch.table others) left _ with ⟨after, ending⟩
    rcases hright : visit (Patch.table operations) right _ with ⟨other, otherEnding⟩
    rw [hleft, hright] at hafter hvisit hbelow
    obtain rfl : ending = otherEnding := hvisit
    cases ending with
    | keep => exact ⟨hafter, rfl, rfl⟩
    | replace new => exact ⟨hafter, rfl, rfl⟩
    | descend => exact enclose_congr _ hbelow

theorem graftAll_congr : ∀ (nodes : List Node) {left right : Pass}, left.Alike right →
    Patch.Agree operations others (nodes.flatMap Node.allAnchors) →
      (graftAll (Patch.table others) left (Anchored.ofNodes nodes)).Alike
        (graftAll (Patch.table operations) right (Anchored.ofNodes nodes))
  | [], _, _, hpass, _ => ⟨hpass, rfl, rfl⟩
  | node :: rest, left, right, hpass, h => by
    rw [Patch.Agree, List.flatMap_cons, List.forall_mem_append] at h
    have hfirst := graft_congr node hpass h.1
    have hrest := graftAll_congr rest hfirst.pass h.2
    rw [Anchored.ofNodes, graftAll, graftAll]
    refine ⟨hrest.pass, ?_, ?_⟩
    · simp only [hfirst.node, hrest.nodes]
    · simp only [hfirst.changed, hrest.changed]
end

end Grafting

/-! ## Operations that are made use of -/

namespace Node

variable {operations others : List Operation} {root : Node}

theorem isSome_hit?_congr {node : Node}
    (h : Patch.on? others node.anchor = Patch.on? operations node.anchor) :
    (node.hit? others).isSome = (node.hit? operations).isSome := by
  rw [← Patch.map_first?, ← Patch.map_first?] at h
  unfold hit?
  obtain ⟨hleft, hright⟩ | ⟨⟨operation, i⟩, ⟨_, j⟩, hleft, hright, rfl⟩ := cases_of_map_eq_map h
  · rw [hleft, hright]
  · rw [hleft, hright]
    cases operation <;> cases node.category.body? <;> simp [apply_ite]

theorem isSome_hitAt?_congr (h : Patch.Agree operations others root.allAnchors)
    (position : Position) :
    (root.hitAt? others position).isSome = (root.hitAt? operations position).isSome := by
  unfold hitAt?
  cases hat : root.at? position with
  | none => rfl
  | some node =>
    exact isSome_hit?_congr (h _ (List.mem_map_of_mem (mem_preorder_of_at? hat)))

theorem rewrittenAt_congr (h : Patch.Agree operations others root.allAnchors)
    {position : Position} {hit : Hit} (hrewritten : root.RewrittenAt others position hit) :
    ∃ other, root.RewrittenAt operations position other := by
  have hhere := isSome_hitAt?_congr h position
  rw [hrewritten.here] at hhere
  obtain ⟨other, hother⟩ := Option.isSome_iff_exists.mp hhere.symm
  refine ⟨other, hother, ?_⟩
  intro above habove hne
  have hnone := isSome_hitAt?_congr h above
  rw [hrewritten.outermost above habove hne] at hnone
  exact Option.isNone_iff_eq_none.mp (Option.isSome_eq_false_iff.mp hnone.symm)

theorem operation_of_rewrittenAt {position : Position} {hit : Hit}
    (h : root.RewrittenAt operations position hit) :
    ∃ node operation, root.at? position = some node ∧ operation.target = node.anchor ∧
      operations[hit.operation]? = some operation ∧
      Patch.first? operations operation.target = some (operation, hit.operation) := by
  obtain ⟨node, hat, hhit⟩ := Option.bind_eq_some_iff.mp h.here
  obtain ⟨⟨target, hfirst⟩, -⟩ := hit?_eq_some_iff.mp hhit
  obtain ⟨hget, htarget⟩ := Patch.eq_of_first? hfirst
  refine ⟨node, _, hat, htarget, hget, ?_⟩
  rw [htarget, hfirst]

variable (operations root) in
/-- The anchors that the operations made use of are on. -/
def usedTargets : Finset (Option Anchor) :=
  (Grafting.uses (root.sites operations)).toFinset.image fun i =>
    operations[i]?.map Operation.target

theorem mem_usedTargets {target : Option Anchor} :
    target ∈ root.usedTargets operations ↔
      ∃ position hit, root.RewrittenAt operations position hit ∧
        (root.at? position).map anchor = target := by
  have hsame : ∀ position hit, root.RewrittenAt operations position hit →
      operations[hit.operation]?.map Operation.target = (root.at? position).map anchor := by
    intro position hit h
    obtain ⟨node, operation, hat, htarget, hget, -⟩ := operation_of_rewrittenAt h
    rw [hget, hat, Option.map_some, Option.map_some, htarget]
  simp only [usedTargets, Finset.mem_image, List.mem_toFinset, Grafting.uses, List.mem_map]
  constructor
  · rintro ⟨_, ⟨⟨position, hit⟩, hsite, rfl⟩, rfl⟩
    have h := mem_sites.mp hsite
    exact ⟨position, hit, h, (hsame position hit h).symm⟩
  · rintro ⟨position, hit, h, rfl⟩
    exact ⟨hit.operation, ⟨⟨position, hit⟩, mem_sites.mpr h, rfl⟩, hsame position hit h⟩

/-- Only the first operation on an anchor is made use of, so each one has an anchor of its own. -/
theorem card_usedTargets :
    (root.usedTargets operations).card =
      (Grafting.uses (root.sites operations)).toFinset.card := by
  have hfirst : ∀ i ∈ (Grafting.uses (root.sites operations)).toFinset, ∃ operation,
      operations[i]? = some operation ∧
        Patch.first? operations operation.target = some (operation, i) := by
    intro i hmem
    obtain ⟨⟨position, hit⟩, hsite, rfl⟩ := List.mem_map.mp (List.mem_toFinset.mp hmem)
    obtain ⟨-, operation, -, -, hget, hfirst⟩ := operation_of_rewrittenAt (mem_sites.mp hsite)
    exact ⟨operation, hget, hfirst⟩
  apply Finset.card_image_of_injOn
  intro i hi j hj hsame
  obtain ⟨operation, hgetI, hfirstI⟩ := hfirst i hi
  obtain ⟨other, hgetJ, hfirstJ⟩ := hfirst j hj
  simp only [hgetI, hgetJ, Option.map_some, Option.some.injEq] at hsame
  rw [hsame, hfirstJ] at hfirstI
  exact (Prod.mk.inj (Option.some.inj hfirstI)).2.symm

theorem usedTargets_congr (h : Patch.Agree operations others root.allAnchors) :
    root.usedTargets others = root.usedTargets operations := by
  ext target
  rw [mem_usedTargets, mem_usedTargets]
  constructor
  · rintro ⟨position, hit, hrewritten, htarget⟩
    obtain ⟨other, hother⟩ := rewrittenAt_congr h hrewritten
    exact ⟨position, other, hother, htarget⟩
  · rintro ⟨position, hit, hrewritten, htarget⟩
    obtain ⟨other, hother⟩ := rewrittenAt_congr h.symm hrewritten
    exact ⟨position, other, hother, htarget⟩

end Node

/-! ## Documents -/

namespace Document

theorem card_usedTargets_add_skipped (document : Document) (patch : Patch) (next : NodeId) :
    (document.root.usedTargets patch.operations).card + (document.graft patch next).skipped =
      patch.operations.length := by
  rw [Node.card_usedTargets, (document.rewrites_graft patch next).2.2]
  exact Grafting.card_uses_add_length_unused _ _ (Node.operation_lt_of_mem_sites document.root)

variable {document : Document} {operations others : List Operation}

theorem skipped_graft_congr (file : String) (next : NodeId)
    (h : Patch.Agree operations others document.root.allAnchors) :
    (document.graft ⟨file, others⟩ next).skipped + operations.length =
      (document.graft ⟨file, operations⟩ next).skipped + others.length := by
  have hothers := document.card_usedTargets_add_skipped ⟨file, others⟩ next
  have hoperations := document.card_usedTargets_add_skipped ⟨file, operations⟩ next
  rw [Node.usedTargets_congr h] at hothers
  simp only at hothers hoperations
  omega

theorem graft_congr (file : String) (next : NodeId)
    (h : Patch.Agree operations others document.root.allAnchors) :
    let left := document.graft ⟨file, others⟩ next
    let right := document.graft ⟨file, operations⟩ next
    left.document = right.document ∧ left.applied = right.applied ∧
      (left.skipped = right.skipped → left = right) := by
  have halike : (Grafting.Pass.fresh ⟨file, others⟩ next).Alike (.fresh ⟨file, operations⟩ next) :=
    ⟨rfl, rfl, rfl⟩
  have hgraft := Grafting.graft_congr document.root halike h
  simp only [Document.graft, Grafting.ofWalk, Grafting.run_start]
  rw [hgraft.node, hgraft.pass.applied, hgraft.pass.next, hgraft.pass.events]
  refine ⟨rfl, rfl, ?_⟩
  intro hskipped
  rw [hskipped]

theorem graft_reordered (file : String) (next : NodeId) (h : Patch.Reordered operations others) :
    document.graft ⟨file, others⟩ next = document.graft ⟨file, operations⟩ next := by
  have hagree := h.agree document.root.allAnchors
  have hskipped := skipped_graft_congr file next hagree
  rw [h.perm.length_eq] at hskipped
  exact (graft_congr file next hagree).2.2 (Nat.add_right_cancel hskipped)

theorem graft_insert (file : String) (next : NodeId) {before after : List Operation}
    {operation : Operation}
    (h : operation.target ∈ before.map Operation.target ∨
      operation.target ∉ document.root.allAnchors) :
    let longer := document.graft ⟨file, before ++ operation :: after⟩ next
    let result := document.graft ⟨file, before ++ after⟩ next
    longer.document = result.document ∧ longer.applied = result.applied ∧
      longer.skipped = result.skipped + 1 := by
  intro longer result
  have hagree := Patch.agree_insert after h
  obtain ⟨hdocument, happlied, -⟩ := graft_congr file next hagree
  have hskipped : longer.skipped + (before ++ after).length =
      result.skipped + (before ++ operation :: after).length :=
    skipped_graft_congr file next hagree
  refine ⟨hdocument, happlied, ?_⟩
  simp only [List.length_append, List.length_cons] at hskipped
  omega

/-- Grafting rewrites the tree, and every operation is skipped but one for each anchor of a node
that is rewritten. It depends on a patch through the first operation on each anchor of the tree: the
operations may be put into another order, if those on one anchor keep theirs, and an operation that
stands behind one on its anchor, or on an anchor that no node has, is one more to skip. -/
theorem graft_of_first_operations (document : Document) (file : String)
    (operations : List Operation) (next : NodeId) :
    let result := document.graft ⟨file, operations⟩ next
    (result.document.root.content = (document.root.rewrite operations).content ∧
      result.applied = (document.root.sites operations).length ∧
      (document.root.usedTargets operations).card + result.skipped = operations.length) ∧
    (∀ others, (∀ anchor ∈ document.root.preorder.map Node.anchor,
        Patch.on? others anchor = Patch.on? operations anchor) →
      let other := document.graft ⟨file, others⟩ next
      other.document = result.document ∧ other.applied = result.applied ∧
        other.skipped + operations.length = result.skipped + others.length) ∧
    (∀ others, Patch.Reordered operations others → document.graft ⟨file, others⟩ next = result) ∧
    (∀ before operation after, operations = before ++ after →
      operation.target ∈ before.map Operation.target ∨
        operation.target ∉ document.root.preorder.map Node.anchor →
      let longer := document.graft ⟨file, before ++ operation :: after⟩ next
      longer.document = result.document ∧ longer.applied = result.applied ∧
        longer.skipped = result.skipped + 1) := by
  intro result
  refine ⟨?_, ?_, ?_, ?_⟩
  · obtain ⟨hcontent, happlied, -⟩ := document.rewrites_graft ⟨file, operations⟩ next
    exact ⟨hcontent, happlied, document.card_usedTargets_add_skipped ⟨file, operations⟩ next⟩
  · intro others h
    obtain ⟨hdocument, happlied, -⟩ := graft_congr file next h
    exact ⟨hdocument, happlied, skipped_graft_congr file next h⟩
  · intro others h
    exact graft_reordered file next h
  · rintro before operation after rfl h
    exact graft_insert file next h

set_option maxRecDepth 100000 in
-- The outer function is to be removed, which does nothing, so the walk goes on to the inner one.
theorem graft_of_first_operations_sampleNested :
    let document := sampleNested []
    let inner := sampleFunction "g" []
    let replace := Operation.replaceBody inner.anchor (.leaf 0 ";" ⟨"", ";"⟩)
    let remove := Operation.removeNode (sampleFunction "f" [inner]).anchor
    let result := document.graft ⟨"f.ts", [replace, remove]⟩ 0
    let longer := document.graft ⟨"f.ts", [replace, .addNode inner.anchor inner, remove]⟩ 0
    (replace.target ≠ remove.target ∧ result.applied = 1 ∧ result.skipped = 1) ∧
      document.graft ⟨"f.ts", [remove, replace]⟩ 0 = result ∧
      longer.document = result.document ∧ longer.applied = 1 ∧ longer.skipped = 2 := by
  intro document inner replace remove result longer
  have hsites : replace.target ≠ remove.target ∧
      (document.root.sites [replace, remove]).map (·.hit.operation) = [0] := by
    decide +kernel
  obtain ⟨-, happlied, hskipped⟩ := document.rewrites_graft ⟨"f.ts", [replace, remove]⟩ 0
  rw [← List.length_map, hsites.2] at happlied
  rw [Grafting.uses, hsites.2] at hskipped
  obtain ⟨-, -, horder, hinsert⟩ := graft_of_first_operations document "f.ts" [replace, remove] 0
  obtain ⟨hdocument, hcount, hmore⟩ :=
    hinsert [replace] (.addNode inner.anchor inner) [remove] rfl (Or.inl List.mem_cons_self)
  exact ⟨⟨hsites.1, happlied, hskipped⟩, horder _ (Patch.reordered_swap [] [] hsites.1), hdocument,
    hcount.trans happlied, hmore.trans (congrArg (· + 1) hskipped)⟩

end Document

end Graft
