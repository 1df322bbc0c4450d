import Graft.Proofs.Agreement
import Graft.Proofs.Identities
import Graft.Proofs.Merging

/-! # What a graft shares with the tree before

Grafting makes a node anew only where a function at or below it is rewritten. Everywhere else the
grafted tree has the very nodes of the tree before, told by their identities. Inside a new body
there are the nodes of the payload, and nothing new but the block that it may be wrapped in.
-/

namespace Graft

namespace Site

/-- The places of a wrapper: the block and its two braces. -/
def wrapper : List Position :=
  [[], [0], [2]]

/-- The places where a site has a node made: at the rewritten function and above it, and at the
wrapper of a payload that is no block. -/
def Makes (site : Site) (position : Position) : Prop :=
  position <+: site.position ∨
    site.hit.body.isBlock = false ∧ ∃ part ∈ wrapper, position = site.body ++ part

end Site

namespace Node

variable {operations : List Operation} {root : Node} {site other : Site}

theorem under_mem_sites {child : Node} {index : Nat} (h : root.hit? operations = none)
    (hchild : root.children[index]? = some child) (hsite : site ∈ child.sites operations) :
    site.under index ∈ root.sites operations := by
  rw [sites_of_miss h, mem_sitesAll]
  exact ⟨index, child, hchild, site, hsite, by rw [Nat.zero_add]⟩

theorem eq_of_nested_positions (hsite : site ∈ root.sites operations)
    (hother : other ∈ root.sites operations) (h : site.position <+: other.position) :
    site = other := by
  obtain ⟨position, hit⟩ := site
  obtain ⟨position', hit'⟩ := other
  have hhere := (mem_sites.mp hsite).here
  obtain ⟨hhere', houtermost⟩ := mem_sites.mp hother
  by_cases hne : position = position'
  · subst hne
    rw [Option.some.inj (hhere.symm.trans hhere')]
  · have hnone := houtermost position h hne
    rw [hhere] at hnone
    cases hnone

theorem eq_of_bodies_above {position : Position} (hsite : site ∈ root.sites operations)
    (hother : other ∈ root.sites operations) (h : site.body <+: position)
    (h' : other.body <+: position) : site = other := by
  have habove : site.position <+: position := (List.prefix_append _ _).trans h
  have habove' : other.position <+: position := (List.prefix_append _ _).trans h'
  obtain hle | hle := List.prefix_or_prefix_of_prefix habove habove'
  · exact eq_of_nested_positions hsite hother hle
  · exact (eq_of_nested_positions hother hsite hle).symm

theorem not_body_prefix_position (hsite : site ∈ root.sites operations)
    (hother : other ∈ root.sites operations) : ¬ site.body <+: other.position := by
  intro h
  obtain rfl := eq_of_nested_positions hsite hother ((List.prefix_append _ _).trans h)
  have hlength := h.length_le
  rw [Site.body, List.length_append, List.length_singleton] at hlength
  omega

end Node

namespace Grafting

/-! ## New identities -/

theorem le_asBlock (next : NodeId) (body : Node) : next ≤ (asBlock next body).2 := by
  unfold asBlock
  split <;> simp

section

variable (table : Std.HashMap Anchor (Operation × Nat))

theorem next_le_visit (pass : Pass) (tree : Anchored) :
    pass.next ≤ (visit table pass tree).1.next := by
  unfold visit Pass.take
  split
  · next replacement events hattempt =>
    obtain ⟨-, body, -, -, -, -, hnext⟩ := attempt_eq_some hattempt
    change pass.next ≤ replacement.next
    rw [hnext]
    exact (le_asBlock pass.next body).trans (Nat.le_succ _)
  · exact Nat.le_refl _

theorem next_le_enclose (node : Node) (below : GraftedAll) :
    below.pass.next ≤ (enclose node below).pass.next := by
  unfold enclose
  split
  · exact Nat.le_succ _
  · exact Nat.le_refl _

mutual
theorem next_le_graft : ∀ (tree : Anchored) (pass : Pass),
    pass.next ≤ (graft table pass tree).pass.next
  | ⟨node, anchor, children⟩, pass => by
    have hvisited := next_le_visit table pass ⟨node, anchor, children⟩
    rcases hvisit : visit table pass ⟨node, anchor, children⟩ with ⟨after, _ | new | _⟩ <;>
      rw [hvisit] at hvisited <;> rw [graft, hvisit]
    · exact hvisited
    · exact hvisited
    · exact hvisited.trans ((next_le_graftAll children after).trans (next_le_enclose node _))

theorem next_le_graftAll : ∀ (trees : List Anchored) (pass : Pass),
    pass.next ≤ (graftAll table pass trees).pass.next
  | [], _ => Nat.le_refl _
  | tree :: rest, pass => by
    rw [graftAll]
    exact (next_le_graft tree pass).trans (next_le_graftAll rest _)
end

end

/-! ## One level of the tree -/

variable {operations : List Operation} {node : Node}

theorem graft_of_hit {hit : Hit} (pass : Pass) (h : node.hit? operations = some hit) :
    (graft (Patch.table operations) pass (.ofNode node)).node =
      node.withChildren (asBlock pass.next hit.body).2
        (node.children.set hit.index (asBlock pass.next hit.body).1) := by
  obtain ⟨⟨target, hfirst⟩, hbody, hlt⟩ := Node.hit?_eq_some_iff.mp h
  simp [Anchored.ofNode_eq, graft, visit, attempt, Pass.take, Patch.getElem?_table, hfirst, hbody,
    replaceBody?, Node.withChild?, hlt]

theorem graft_of_miss (pass : Pass) (h : node.hit? operations = none) :
    ∃ after : Pass, pass.next ≤ after.next ∧
      let below := graftAll (Patch.table operations) after (Anchored.ofNodes node.children)
      graft (Patch.table operations) pass (.ofNode node) = enclose node below ∧
        (enclose node below).node.children = below.nodes := by
  obtain ⟨after, hvisit, -⟩ := visit_of_miss pass h
  have hnext := next_le_visit (Patch.table operations) pass (.ofNode node)
  have hshared := (@rewritesAll_graftAll operations node.children 0 after).shared
  rw [hvisit] at hnext
  refine ⟨after, hnext, ?_, ?_⟩
  · rw [Anchored.ofNode_eq] at hvisit ⊢
    rw [graft, hvisit]
    cases hchildren : node.children with
    | nil => rfl
    | cons first rest => rfl
  · unfold enclose
    split
    · rfl
    · next hchanged => exact (hshared (by simpa using hchanged)).symm

theorem getElem?_graftAll (pass : Pass) (nodes : List Node) (index : Nat) :
    ∃ before : Pass, pass.next ≤ before.next ∧
      (graftAll (Patch.table operations) pass (Anchored.ofNodes nodes)).nodes[index]? =
        nodes[index]?.map fun child =>
          (graft (Patch.table operations) before (.ofNode child)).node := by
  induction nodes generalizing pass index with
  | nil => exact ⟨pass, Nat.le_refl _, rfl⟩
  | cons first rest ih =>
    rw [Anchored.ofNodes, graftAll]
    cases index with
    | zero => exact ⟨pass, Nat.le_refl _, rfl⟩
    | succ index =>
      obtain ⟨before, hle, hget⟩ :=
        ih (graft (Patch.table operations) pass (.ofNode first)).pass index
      exact ⟨before, (next_le_graft _ _ pass).trans hle, hget⟩

theorem getElem?_children_graft (pass : Pass) (h : node.hit? operations = none) (index : Nat) :
    ∃ before : Pass, pass.next ≤ before.next ∧
      (graft (Patch.table operations) pass (.ofNode node)).node.children[index]? =
        node.children[index]?.map fun child =>
          (graft (Patch.table operations) before (.ofNode child)).node := by
  obtain ⟨after, hafter, hgraft, hchildren⟩ := graft_of_miss pass h
  obtain ⟨before, hbefore, hget⟩ := @getElem?_graftAll operations after node.children index
  exact ⟨before, hafter.trans hbefore, by rw [hgraft, hchildren, hget]⟩

theorem next_le_id_graft (pass : Pass) (h : node.sites operations ≠ []) :
    pass.next ≤ (graft (Patch.table operations) pass (.ofNode node)).node.id := by
  cases hhit : node.hit? operations with
  | some hit =>
    rw [graft_of_hit pass hhit]
    exact le_asBlock pass.next hit.body
  | none =>
    obtain ⟨after, hafter, hgraft, -⟩ := graft_of_miss pass hhit
    have hchanged := @changed_graft operations node pass
    rw [List.isEmpty_eq_false_iff.mpr h, Bool.not_false, hgraft] at hchanged
    rw [hgraft]
    unfold enclose at hchanged ⊢
    split
    · exact hafter.trans (next_le_graftAll _ _ after)
    · next hunchanged =>
      rw [if_neg hunchanged] at hchanged
      cases hchanged

/-! ## Whole trees

Each statement goes down a position. The pass at a child is not the pass at the root, and all that
matters of it is that its identities are no older.
-/

/-- Away from all sites nothing is made anew. -/
theorem at?_graft_of_apart (pass : Pass) {position : Position}
    (houtside : ∀ site ∈ node.sites operations, ¬ site.body <+: position)
    (hapart : ∀ site ∈ node.sites operations, ¬ position <+: site.position) :
    (graft (Patch.table operations) pass (.ofNode node)).node.at? position =
      node.at? position := by
  induction position generalizing node pass with
  | nil =>
    have hsites : node.sites operations = [] :=
      List.eq_nil_iff_forall_not_mem.mpr fun site hsite => hapart site hsite List.nil_prefix
    have hchanged := @changed_graft operations node pass
    rw [hsites, List.isEmpty_nil, Bool.not_true] at hchanged
    exact congrArg some ((rewrites_graft node pass).shared hchanged)
  | cons index below ih =>
    cases hhit : node.hit? operations with
    | some hit =>
      have hne : hit.index ≠ index := by
        rintro rfl
        apply houtside ⟨[], hit⟩ (by rw [Node.sites_of_hit hhit]; exact List.mem_singleton_self _)
        exact List.cons_prefix_cons.mpr ⟨rfl, List.nil_prefix⟩
      rw [graft_of_hit pass hhit, Node.at?, Node.at?, Node.withChildren, List.getElem?_set_ne hne]
    | none =>
      obtain ⟨before, -, hget⟩ := getElem?_children_graft pass hhit index
      rw [Node.at?, Node.at?, hget, Option.bind_map]
      refine Option.bind_congr fun child hchild => ih before ?_ ?_
      · intro site hsite hprefix
        apply houtside _ (Node.under_mem_sites hhit hchild hsite)
        exact List.cons_prefix_cons.mpr ⟨rfl, hprefix⟩
      · intro site hsite hprefix
        apply hapart _ (Node.under_mem_sites hhit hchild hsite)
        exact List.cons_prefix_cons.mpr ⟨rfl, hprefix⟩

theorem exists_child_of_rewrittenAt (pass : Pass) {index : Nat} {below : Position} {hit : Hit}
    (h : node.RewrittenAt operations (index :: below) hit) :
    ∃ (child : Node) (before : Pass), node.children[index]? = some child ∧
      child.RewrittenAt operations below hit ∧ pass.next ≤ before.next ∧
      (graft (Patch.table operations) pass (.ofNode node)).node.children[index]? =
        some (graft (Patch.table operations) before (.ofNode child)).node := by
  obtain ⟨hmiss, child, hchild, hbelow⟩ := Node.rewrittenAt_cons_iff.mp h
  obtain ⟨before, hle, hget⟩ := getElem?_children_graft pass hmiss index
  rw [hchild, Option.map_some] at hget
  exact ⟨child, before, hchild, hbelow, hle, hget⟩

theorem at?_graft_above (pass : Pass) {above position : Position} {hit : Hit}
    (h : node.RewrittenAt operations position hit) (habove : above <+: position) :
    ∃ old new, node.at? above = some old ∧
      (graft (Patch.table operations) pass (.ofNode node)).node.at? above = some new ∧
      pass.next ≤ new.id := by
  induction above generalizing node pass position with
  | nil =>
    have hsites := List.ne_nil_of_mem (Node.mem_sites.mpr h)
    exact ⟨node, _, rfl, rfl, next_le_id_graft pass hsites⟩
  | cons index above ih =>
    obtain ⟨below, rfl⟩ := habove
    obtain ⟨child, before, hchild, hbelow, hle, hget⟩ := exists_child_of_rewrittenAt pass h
    obtain ⟨old, new, hold, hnew, hid⟩ := ih before hbelow (List.prefix_append _ _)
    refine ⟨old, new, ?_, ?_, hle.trans hid⟩
    · rw [Node.at?, hchild, Option.bind_some, hold]
    · rw [Node.at?, hget, Option.bind_some, hnew]

theorem at?_graft_body (pass : Pass) {position : Position} {hit : Hit}
    (h : node.RewrittenAt operations position hit) :
    ∃ next, pass.next ≤ next ∧
      (graft (Patch.table operations) pass (.ofNode node)).node.at? (position ++ [hit.index]) =
        some (asBlock next hit.body).1 := by
  induction position generalizing node pass with
  | nil =>
    have hhit := Node.rewrittenAt_nil_iff.mp h
    refine ⟨pass.next, Nat.le_refl _, ?_⟩
    rw [graft_of_hit pass hhit, List.nil_append, Node.at?, Node.withChildren,
      List.getElem?_set_self (Node.hit?_index_lt hhit)]
    rfl
  | cons index below ih =>
    obtain ⟨child, before, hchild, hbelow, hle, hget⟩ := exists_child_of_rewrittenAt pass h
    obtain ⟨next, hnext, hbody⟩ := ih before hbelow
    exact ⟨next, hle.trans hnext, by rw [List.cons_append, Node.at?, hget, Option.bind_some, hbody]⟩

theorem at?_asBlock {next : NodeId} {body found : Node} {position : Position}
    (h : (asBlock next body).1.at? position = some found) :
    (body.isBlock = false ∧ position ∈ Site.wrapper ∧ next ≤ found.id) ∨
      (found ∈ body.preorder ∧ (body.isBlock = false → position ∉ Site.wrapper)) := by
  unfold asBlock at h
  split at h
  · next hblock =>
    exact Or.inr ⟨Node.mem_preorder_of_at? h, fun hnot => absurd hblock (by simp [hnot])⟩
  · next hblock =>
    have hwrapped : body.isBlock = false := by simpa using hblock
    match position with
    | [] =>
      cases h
      exact Or.inl ⟨hwrapped, by decide, Nat.le_refl _⟩
    | [0] =>
      cases h
      exact Or.inl ⟨hwrapped, by decide, Nat.le_succ _⟩
    | 1 :: below =>
      have hbelow : body.at? below = some found := h
      exact Or.inr ⟨Node.mem_preorder_of_at? hbelow, fun _ => by simp [Site.wrapper]⟩
    | [2] =>
      cases h
      exact Or.inl ⟨hwrapped, by decide, Nat.le_add_right _ _⟩
    | 0 :: _ :: _ => simp [Node.blockAround, Node.branch, Node.leaf, Node.at?] at h
    | 2 :: _ :: _ => simp [Node.blockAround, Node.branch, Node.leaf, Node.at?] at h
    | (index + 3) :: _ => simp [Node.blockAround, Node.branch, Node.at?] at h

/-! ## Old and new nodes -/

section

variable (pass : Pass) (hold : ∀ other ∈ node.preorder, other.id < pass.next)
include hold

/-- Outside the replaced bodies, a node is the one from before exactly where no site is at or below
it. -/
theorem shared_iff {position : Position}
    (houtside : ∀ site ∈ node.sites operations, ¬ site.body <+: position) :
    Option.Rel (fun old new =>
        (new.id = old.id ↔ ∀ site ∈ node.sites operations, ¬ position <+: site.position) ∧
        (new.id = old.id → new = old))
      (node.at? position)
      ((graft (Patch.table operations) pass (.ofNode node)).node.at? position) := by
  by_cases hapart : ∀ site ∈ node.sites operations, ¬ position <+: site.position
  · rw [at?_graft_of_apart pass houtside hapart]
    cases node.at? position with
    | none => exact .none
    | some old => exact .some ⟨⟨fun _ => hapart, fun _ => rfl⟩, fun _ => rfl⟩
  · obtain ⟨site, hsite, hprefix⟩ : ∃ site ∈ node.sites operations, position <+: site.position := by
      simpa using hapart
    obtain ⟨old, new, hat, hnew, hid⟩ := at?_graft_above pass (Node.mem_sites.mp hsite) hprefix
    have hlt : old.id < pass.next := hold old (Node.mem_preorder_of_at? hat)
    have hne : new.id ≠ old.id := Nat.ne_of_gt (Nat.lt_of_lt_of_le hlt hid)
    rw [hat, hnew]
    exact .some ⟨⟨fun h => absurd h hne, fun h => absurd h hapart⟩, fun h => absurd h hne⟩

/-- A node of the graft is a new one exactly where a site has it made. -/
theorem next_le_id_iff_makes
    (hbodies : ∀ site ∈ node.sites operations, ∀ other ∈ site.hit.body.preorder,
      other.id < pass.next)
    {position : Position} {found : Node}
    (h : (graft (Patch.table operations) pass (.ofNode node)).node.at? position = some found) :
    pass.next ≤ found.id ↔ ∃ site ∈ node.sites operations, site.Makes position := by
  by_cases hinside : ∃ site ∈ node.sites operations, site.body <+: position
  · obtain ⟨site, hsite, below, rfl⟩ := hinside
    obtain ⟨next, hnext, hbody⟩ := at?_graft_body pass (Node.mem_sites.mp hsite)
    rw [Node.at?_append, Site.body, hbody, Option.bind_some] at h
    obtain ⟨hwrapped, hpart, hid⟩ | ⟨hfound, hpart⟩ := at?_asBlock h
    · refine ⟨fun _ => ?_, fun _ => hnext.trans hid⟩
      exact ⟨site, hsite, Or.inr ⟨hwrapped, below, hpart, rfl⟩⟩
    · -- The node is one of the payload, and no other site reaches into this body.
      have hlt := hbodies site hsite found hfound
      refine ⟨fun hle => absurd hlt (Nat.not_lt.mpr hle), ?_⟩
      rintro ⟨other, hother, hprefix | ⟨hwrapped, part, hmem, heq⟩⟩
      · have hbelow := (List.prefix_append site.body below).trans hprefix
        exact absurd hbelow (Node.not_body_prefix_position hsite hother)
      · obtain rfl : site = other := Node.eq_of_bodies_above hsite hother
          (List.prefix_append _ below) (heq ▸ List.prefix_append _ part)
        rw [List.append_cancel_left heq] at hpart
        exact absurd hmem (hpart hwrapped)
  · by_cases habove : ∃ site ∈ node.sites operations, position <+: site.position
    · obtain ⟨site, hsite, hprefix⟩ := habove
      obtain ⟨-, new, -, hnew, hid⟩ := at?_graft_above pass (Node.mem_sites.mp hsite) hprefix
      obtain rfl : new = found := Option.some.inj (hnew.symm.trans h)
      exact ⟨fun _ => ⟨site, hsite, Or.inl hprefix⟩, fun _ => hid⟩
    · rw [at?_graft_of_apart pass (fun site hsite hbody => hinside ⟨site, hsite, hbody⟩)
        (fun site hsite hprefix => habove ⟨site, hsite, hprefix⟩)] at h
      have hlt := hold found (Node.mem_preorder_of_at? h)
      refine ⟨fun hle => absurd hlt (Nat.not_lt.mpr hle), ?_⟩
      rintro ⟨site, hsite, hprefix | ⟨-, part, -, rfl⟩⟩
      · exact absurd ⟨site, hsite, hprefix⟩ habove
      · exact absurd ⟨site, hsite, List.prefix_append _ part⟩ hinside

end

theorem Within.of_site {roots : List Node} (h : Within operations roots) {site : Site}
    (hsite : site ∈ node.sites operations) :
    site.hit.body.preorder ⊆ Node.preorderAll roots := by
  obtain ⟨found, -, hhit⟩ := Option.bind_eq_some_iff.mp (Node.mem_sites.mp hsite).here
  obtain ⟨⟨target, hfirst⟩, -⟩ := Node.hit?_eq_some_iff.mp hhit
  exact h.of_first? hfirst

end Grafting

/-- Sharing. Let the nodes of some trees, among them the document and all that a patch brings along,
be told apart by their identities, and the identities from `next` on be unused. Outside the replaced
bodies the grafted tree has its nodes where the document has them, and such a node is the same one
exactly when no function at or below it is rewritten. So the root is the same exactly when nothing
is applied, and the only nodes that are made are the rewritten functions, those above them and the
wrappers of payloads. -/
theorem Document.graft_shares (document : Document) (patch : Patch) (next : NodeId)
    (roots : List Node) (howned : Node.Owned roots next)
    (hroot : document.root.preorder ⊆ Node.preorderAll roots)
    (hwithin : Grafting.Within patch.operations roots) :
    let sites := document.root.sites patch.operations
    let grafting := document.graft patch next
    let root := grafting.document.root
    Node.Identified (root.preorder ++ document.root.preorder) ∧
    (∀ position, (∀ site ∈ sites, ¬ site.body <+: position) →
      Option.Rel (fun old new =>
          (new.id = old.id ↔ ∀ site ∈ sites, ¬ position <+: site.position) ∧
          (new.id = old.id → new = old))
        (document.root.at? position) (root.at? position)) ∧
    (grafting.applied = 0 ↔ root.id = document.root.id) ∧
    ∀ position node, root.at? position = some node →
      (next ≤ node.id ↔ ∃ site ∈ sites, site.Makes position) := by
  intro sites grafting root
  let pass : Grafting.Pass := .fresh patch next
  have hgraft : root = (Grafting.graft (Patch.table patch.operations) pass
      (.ofNode document.root)).node := by
    simp only [root, grafting, Document.graft, Grafting.ofWalk, Document.withRoot,
      Grafting.run_start, pass]
  have hold : ∀ other ∈ document.root.preorder, other.id < pass.next :=
    fun other hother => howned.lt other (hroot hother)
  have hbodies : ∀ site ∈ sites, ∀ other ∈ site.hit.body.preorder, other.id < pass.next :=
    fun site hsite other hother => howned.lt other (hwithin.of_site hsite hother)
  refine ⟨?_, fun position houtside => ?_, ?_, fun position node hnode => ?_⟩
  · have hboth := (Document.owned_graft howned document hroot hwithin).identified
    exact hboth.mono (List.append_subset.mpr
      ⟨List.subset_append_left _ _, List.subset_append_of_subset_right _ hroot⟩)
  · rw [hgraft]
    exact Grafting.shared_iff pass hold houtside
  · have houtside : ∀ site ∈ sites, ¬ site.body <+: [] := by simp [Site.body]
    have hhere := Grafting.shared_iff pass hold houtside
    rw [← hgraft] at hhere
    cases hhere with
    | some hsame =>
      rw [(document.rewrites_graft patch next).2.1, hsame.1, List.length_eq_zero_iff,
        List.eq_nil_iff_forall_not_mem]
      simp
  · rw [hgraft] at hnode
    exact Grafting.next_le_id_iff_makes pass hold hbodies hnode

set_option maxRecDepth 100000 in
-- The inner function gets a statement for its body. The root is made anew, the name of the outer
-- function is not, and the new body is a wrapper.
theorem Document.graft_shares_sampleNested :
    let old := (sampleNested []).root.numbered 0
    let payload := (Node.leaf 0 ";" ⟨"", ";"⟩).numbered old.2
    let document := (sampleNested []).withRoot old.1
    let patch : Patch := ⟨"f.ts", [.replaceBody (sampleFunction "g" []).anchor payload.1]⟩
    let root := (document.graft patch payload.2).document.root
    root.id ≠ old.1.id ∧
      (∃ node, old.1.at? [0, 0] = some node ∧ root.at? [0, 0] = some node) ∧
      ∀ node, root.at? [0, 1, 0, 1] = some node → payload.2 ≤ node.id := by
  intro old payload document patch root
  have howned : Node.Owned [payload.1, old.1] payload.2 :=
    (Node.owned_nil.numbered (sampleNested []).root).numbered (Node.leaf 0 ";" ⟨"", ";"⟩)
  have hold : document.root.preorder ⊆ Node.preorderAll [payload.1, old.1] :=
    Node.preorder_subset_preorderAll (by simp [document, Document.withRoot])
  have hwithin : Grafting.Within patch.operations [payload.1, old.1] := by
    intro operation hoperation body hbody
    obtain rfl := List.mem_singleton.mp hoperation
    cases hbody
    exact Node.preorder_subset_preorderAll List.mem_cons_self
  obtain ⟨-, hshared, happlied, hmade⟩ :=
    graft_shares document patch payload.2 [payload.1, old.1] howned hold hwithin
  have hsites : (document.root.sites patch.operations).map (fun site =>
      (site.body, site.position, site.hit.body.isBlock)) =
        [([0, 1, 0, 1], [0, 1, 0], false)] := by
    decide +kernel
  obtain ⟨site, hsingle, hsite⟩ := List.map_eq_singleton_iff.mp hsites
  obtain ⟨hbody, hposition, hblock⟩ : site.body = [0, 1, 0, 1] ∧ site.position = [0, 1, 0] ∧
    site.hit.body.isBlock = false := by simpa using hsite
  rw [hsingle] at hshared hmade
  refine ⟨?_, ?_, fun node hnode => (hmade _ node hnode).mpr ?_⟩
  · rw [ne_eq, ← show document.root.id = old.1.id from rfl, ← happlied,
      (document.rewrites_graft patch payload.2).2.1, hsingle]
    simp
  · have hname : (document.root.at? [0, 0]).isSome = true := by decide +kernel
    have hsame := hshared [0, 0] (by simp [hbody])
    obtain ⟨node, hnode⟩ := Option.isSome_iff_exists.mp hname
    rw [hnode] at hsame
    refine ⟨node, hnode, ?_⟩
    generalize root.at? [0, 0] = found at hsame ⊢
    cases hsame with
    | some h => rw [h.2 (h.1.mpr (by simp [hposition]))]
  · exact ⟨site, List.mem_singleton_self site, Or.inr ⟨hblock, [], by decide, by simp [hbody]⟩⟩

end Graft
