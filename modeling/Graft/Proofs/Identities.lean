import Graft.Proofs.Indexing
import Graft.Proofs.Grafting
import Graft.Syntax.Printing
import Mathlib.Data.List.Nodup

/-! # Identities are handed out once

Whatever a session does, an identity of its document stands for one node, although a node may stand
at several places. New nodes take identities that no node had before.
-/

namespace Graft

namespace Node

/-- An identity below `next` stands for one node of the trees, and no other is in use. -/
structure Owned (roots : List Node) (next : NodeId) : Prop where
  identified : Identified (preorderAll roots)
  lt : ∀ node ∈ preorderAll roots, node.id < next

variable {roots others : List Node} {next after : NodeId}

theorem Owned.mono (h : Owned roots next) (hsub : preorderAll others ⊆ preorderAll roots) :
    Owned others next :=
  ⟨h.identified.mono hsub, fun node hnode => h.lt node (hsub hnode)⟩

theorem Owned.identified_of_mem (h : Owned roots next) {root : Node} (hmem : root ∈ roots) :
    Identified root.preorder :=
  h.identified.mono (preorder_subset_preorderAll hmem)

theorem owned_nil : Owned [] 0 :=
  ⟨fun _ hnode => absurd hnode List.not_mem_nil, fun _ hnode => absurd hnode List.not_mem_nil⟩

/-- Trees that are made of new nodes and of those that were there. -/
theorem Owned.extend (h : Owned roots next) (others new : List Node) (hle : next ≤ after)
    (hids : (new.map id).Nodup) (hnew : ∀ node ∈ new, next ≤ node.id ∧ node.id < after)
    (hsub : preorderAll others ⊆ new ++ preorderAll roots) : Owned (others ++ roots) after := by
  have hcases : ∀ node ∈ preorderAll (others ++ roots), node ∈ new ∨ node ∈ preorderAll roots := by
    intro node hnode
    rw [preorderAll_append, List.mem_append] at hnode
    rcases hnode with hnode | hnode
    · exact List.mem_append.mp (hsub hnode)
    · exact Or.inr hnode
  refine ⟨?_, ?_⟩
  · intro a ha b hb hid
    rcases hcases a ha with ha | ha <;> rcases hcases b hb with hb | hb
    · exact List.inj_on_of_nodup_map hids ha hb hid
    · exact absurd (hid ▸ (hnew a ha).1) (Nat.not_le.mpr (h.lt b hb))
    · exact absurd (hid ▸ (hnew b hb).1) (Nat.not_le.mpr (h.lt a ha))
    · exact h.identified a ha b hb hid
  · intro node hnode
    rcases hcases node hnode with hnode | hnode
    · exact (hnew node hnode).2
    · exact Nat.lt_of_lt_of_le (h.lt node hnode) hle

theorem Owned.cons (h : Owned roots next) (node : Node) (hid : node.id = next)
    (hchildren : preorderAll node.children ⊆ preorderAll roots) :
    Owned (node :: roots) (next + 1) := by
  apply h.extend [node] [node] (Nat.le_succ next) (List.nodup_singleton _)
  · intro other hother
    rw [List.mem_singleton.mp hother, hid]
    exact ⟨Nat.le_refl next, Nat.lt_succ_self next⟩
  · rw [preorderAll, preorderAll, List.append_nil, preorder_eq]
    exact List.cons_subset_cons node hchildren

theorem preorderAll_subset_left : preorderAll others ⊆ preorderAll (others ++ roots) := by
  rw [preorderAll_append]
  exact List.subset_append_left _ _

theorem preorderAll_subset_right : preorderAll roots ⊆ preorderAll (others ++ roots) := by
  rw [preorderAll_append]
  exact List.subset_append_right _ _

theorem preorderAll_cons_subset {node : Node} (hnode : node.preorder ⊆ preorderAll others)
    (hroots : preorderAll roots ⊆ preorderAll others) :
    preorderAll (node :: roots) ⊆ preorderAll others := by
  rw [preorderAll]
  exact List.append_subset.mpr ⟨hnode, hroots⟩

theorem Owned.again {node : Node} (h : Owned roots next)
    (hnode : node.preorder ⊆ preorderAll roots) : Owned (node :: roots) next :=
  h.mono (preorderAll_cons_subset hnode (List.Subset.refl _))

theorem Owned.toFront {node : Node} (h : Owned (others ++ node :: roots) next) :
    Owned (node :: others ++ roots) next := by
  apply h.mono
  intro other hother
  simp only [List.cons_append, preorderAll, preorderAll_append, List.mem_append] at hother ⊢
  rcases hother with hother | hother | hother
  · exact Or.inr (Or.inl hother)
  · exact Or.inl hother
  · exact Or.inr (Or.inr hother)

theorem Owned.restrict {node : Node} (h : Owned (node :: others) next)
    (hsub : preorderAll roots ⊆ preorderAll others) : Owned (node :: roots) next := by
  apply h.mono
  apply preorderAll_cons_subset (List.subset_append_left _ _)
  exact List.Subset.trans hsub (List.subset_append_right _ _)

theorem preorderAll_set_subset {nodes : List Node} (index : Nat) (node : Node) :
    preorderAll (nodes.set index node) ⊆ node.preorder ++ preorderAll nodes := by
  intro other hother
  rw [preorderAll_eq_flatMap, List.mem_flatMap] at hother
  obtain ⟨root, hroot, hmem⟩ := hother
  rw [List.mem_append]
  rcases List.mem_or_eq_of_mem_set hroot with hroot | rfl
  · exact Or.inr (preorder_subset_preorderAll hroot hmem)
  · exact Or.inl hmem

theorem Owned.blockAround (h : Owned roots next) {body : Node}
    (hbody : body.preorder ⊆ preorderAll roots) :
    Owned (Node.blockAround next body :: roots) (next + 3) := by
  apply h.extend [Node.blockAround next body]
    [Node.blockAround next body, leaf (next + 1) "\x7b" ⟨" ", "\x7b"⟩,
      leaf (next + 2) "\x7d" ⟨"\n", "\x7d"⟩]
  · exact Nat.le_add_right next 3
  · simp [Node.blockAround, branch, leaf]
  · simp [Node.blockAround, branch, leaf]
  · intro node hnode
    have hold := @hbody node
    simp only [Node.blockAround, branch, leaf, preorderAll, preorder, List.mem_append,
      List.mem_cons, List.not_mem_nil] at hnode ⊢
    tauto

theorem Owned.withChild? (h : Owned roots next) {node child changed : Node} {index : Nat}
    (hnode : node.preorder ⊆ preorderAll roots) (hchild : child.preorder ⊆ preorderAll roots)
    (hchanged : node.withChild? next index child = some changed) :
    Owned (changed :: roots) (next + 1) := by
  unfold Node.withChild? at hchanged
  split at hchanged
  · cases hchanged
    apply h.cons _ rfl
    have hchildren : preorderAll node.children ⊆ preorderAll roots := by
      rw [preorder_eq] at hnode
      exact (List.cons_subset.mp hnode).2
    apply List.Subset.trans (preorderAll_set_subset index child)
    exact List.append_subset.mpr ⟨hchild, hchildren⟩
  · cases hchanged

/-! ## Numbering -/

mutual
theorem ids_numbered (next : NodeId) : ∀ node : Node,
    (numbered next node).1.preorder.map id = List.range' next node.preorder.length ∧
      (numbered next node).2 = next + node.preorder.length
  | ⟨_, category, grammar, token, children⟩ => by
    obtain ⟨hids, hnext⟩ := ids_numberedAll (next + 1) children
    simp only [numbered, preorder, List.map_cons, List.length_cons, hids, hnext]
    exact ⟨rfl, Nat.add_right_comm next 1 _⟩

theorem ids_numberedAll (next : NodeId) : ∀ nodes : List Node,
    (preorderAll (numberedAll next nodes).1).map id =
        List.range' next (preorderAll nodes).length ∧
      (numberedAll next nodes).2 = next + (preorderAll nodes).length
  | [] => ⟨rfl, rfl⟩
  | node :: rest => by
    obtain ⟨hids, hnext⟩ := ids_numbered next node
    obtain ⟨hrest, hafter⟩ := ids_numberedAll (numbered next node).2 rest
    simp only [numberedAll, preorderAll, List.map_append, List.length_append, hids, hrest, hafter]
    rw [hnext, List.range'_append_1]
    exact ⟨rfl, Nat.add_assoc next _ _⟩
end

theorem Owned.numbered (h : Owned roots next) (node : Node) :
    Owned ((node.numbered next).1 :: roots) (node.numbered next).2 := by
  obtain ⟨hids, hnext⟩ := ids_numbered next node
  apply h.extend [(node.numbered next).1] (node.numbered next).1.preorder
  · rw [hnext]
    exact Nat.le_add_right next _
  · rw [hids]
    exact List.nodup_range'
  · intro other hother
    have hid := List.mem_map_of_mem (f := id) hother
    rwa [hids, List.mem_range'_1, ← hnext] at hid
  · rw [preorderAll, preorderAll, List.append_nil]
    exact List.subset_append_left _ _

end Node

theorem Document.owned_ofConcrete {roots : List Node} {next : NodeId} (h : Node.Owned roots next)
    (file : String) (language : Language) (source : String) (concrete : Concrete) :
    Node.Owned ((ofConcrete file language source concrete next).1.root :: roots)
      (ofConcrete file language source concrete next).2 :=
  h.numbered (Lowering.lowerRoot source concrete).1

theorem Document.owned_reindent {roots : List Node} {next : NodeId} (h : Node.Owned roots next)
    (document : Document) (hroot : document.root.preorder ⊆ Node.preorderAll roots)
    (source target : Indentation) :
    Node.Owned ((document.reindent source target next).1.root :: roots)
      (document.reindent source target next).2 := by
  unfold reindent
  split
  · exact h.again hroot
  · exact h.numbered (document.root.rebuild (·.reindent source target))

/-! ## Grafting -/

namespace Grafting

variable {table : Std.HashMap Anchor (Operation × Nat)} {roots : List Node}

theorem attempt_eq_some {next : NodeId} {anchor : Anchor} {node : Node}
    {replacement : Replacement} {events : List Event}
    (h : attempt table next anchor node = (some replacement, events)) :
    ∃ target body index,
      table[anchor]? = some (.replaceBody target body, replacement.position) ∧
      node.category.body? = some index ∧
      node.withChild? (asBlock next body).2 index (asBlock next body).1 =
        some replacement.node ∧
      replacement.next = (asBlock next body).2 + 1 := by
  unfold attempt at h
  split at h
  · cases h
  · next target body position hfirst =>
    split at h
    · cases h
    · next index hbody =>
      split at h
      · cases h
      · next node after hreplaced =>
        cases h
        obtain ⟨changed, hchanged, heq⟩ := Option.map_eq_some_iff.mp hreplaced
        cases heq
        exact ⟨target, body, index, hfirst, hbody, hchanged, rfl⟩
  · cases h

theorem owned_asBlock {next : NodeId} {body : Node} (h : Node.Owned roots next)
    (hbody : body.preorder ⊆ Node.preorderAll roots) :
    Node.Owned ((asBlock next body).1 :: roots) (asBlock next body).2 := by
  unfold asBlock
  split
  · exact h.again hbody
  · exact h.blockAround hbody

/-- All that the operations put in stands in the trees. -/
def Within (operations : List Operation) (roots : List Node) : Prop :=
  ∀ operation ∈ operations, ∀ body ∈ operation.newBody?, body.preorder ⊆ Node.preorderAll roots

theorem Within.mono {operations : List Operation} {others : List Node} (h : Within operations roots)
    (hsub : Node.preorderAll roots ⊆ Node.preorderAll others) : Within operations others :=
  fun operation hmem body hbody => List.Subset.trans (h operation hmem body hbody) hsub

theorem Within.of_first? {operations : List Operation} (h : Within operations roots)
    {anchor target : Anchor} {body : Node} {position : Nat}
    (hfirst : Patch.first? operations anchor = some (.replaceBody target body, position)) :
    body.preorder ⊆ Node.preorderAll roots := by
  have hmem := List.mem_of_find?_eq_some hfirst
  exact h _ (List.fst_mem_of_mem_zipIdx hmem) body rfl

variable {operations : List Operation}

theorem owned_attempt {next : NodeId} {anchor : Anchor} {node : Node} {replacement : Replacement}
    {events : List Event} (h : Node.Owned roots next) (hwithin : Within operations roots)
    (hnode : node.preorder ⊆ Node.preorderAll roots)
    (hattempt : attempt (Patch.table operations) next anchor node = (some replacement, events)) :
    Node.Owned (replacement.node :: roots) replacement.next := by
  obtain ⟨target, body, index, hfirst, -, hchanged, hnext⟩ := attempt_eq_some hattempt
  rw [Patch.getElem?_table] at hfirst
  have hblock := owned_asBlock h (hwithin.of_first? hfirst)
  have hroots : Node.preorderAll roots ⊆ Node.preorderAll ((asBlock next body).1 :: roots) :=
    List.subset_append_right _ _
  have hmade := hblock.withChild? (List.Subset.trans hnode hroots) (List.subset_append_left _ _)
    hchanged
  rw [hnext]
  exact hmade.restrict hroots

theorem owned_visit {pass after : Pass} {tree : Anchored} {result : Visit}
    (h : Node.Owned roots pass.next) (hwithin : Within operations roots)
    (htree : tree.node.preorder ⊆ Node.preorderAll roots)
    (hvisit : visit (Patch.table operations) pass tree = (after, result)) :
    Node.Owned roots after.next ∧
      ∀ node, result = .replace node → Node.Owned (node :: roots) after.next := by
  unfold visit Pass.take at hvisit
  split at hvisit
  · next replacement events hattempt =>
    cases hvisit
    have hmade := owned_attempt h hwithin htree hattempt
    refine ⟨hmade.mono (List.subset_append_right _ _), ?_⟩
    rintro node ⟨⟩
    exact hmade
  · cases hvisit
    refine ⟨h, ?_⟩
    intro node hnode
    split at hnode <;> cases hnode

theorem owned_enclose {node : Node} {below : GraftedAll}
    (h : Node.Owned (below.nodes ++ roots) below.pass.next)
    (hnode : node.preorder ⊆ Node.preorderAll roots) :
    Node.Owned ((enclose node below).node :: roots) (enclose node below).pass.next := by
  have hroots : Node.preorderAll roots ⊆ Node.preorderAll (below.nodes ++ roots) :=
    Node.preorderAll_subset_right
  unfold enclose
  split
  · have hmade := h.cons (node.withChildren below.pass.next below.nodes) rfl
      Node.preorderAll_subset_left
    exact hmade.restrict hroots
  · apply h.mono
    exact Node.preorderAll_cons_subset (List.Subset.trans hnode hroots) hroots

mutual
theorem owned_graft : ∀ (node : Node) (roots : List Node) (pass : Pass),
    Node.Owned roots pass.next → Within operations roots → node.preorder ⊆ Node.preorderAll roots →
      Node.Owned ((graft (Patch.table operations) pass (.ofNode node)).node :: roots)
        (graft (Patch.table operations) pass (.ofNode node)).pass.next
  | ⟨id, category, grammar, token, children⟩, roots, pass, h, hwithin, hnode => by
    have hchildren : Node.preorderAll children ⊆ Node.preorderAll roots :=
      List.Subset.trans (List.subset_cons_self _ _) hnode
    rw [Anchored.ofNode_eq, graft]
    split
    · next after hvisit =>
      exact (owned_visit h hwithin hnode hvisit).1.again hnode
    · next after new hvisit => exact (owned_visit h hwithin hnode hvisit).2 new rfl
    · next after hvisit =>
      have hafter := (owned_visit h hwithin hnode hvisit).1
      exact owned_enclose (owned_graftAll children roots after hafter hwithin hchildren) hnode

theorem owned_graftAll : ∀ (nodes roots : List Node) (pass : Pass),
    Node.Owned roots pass.next → Within operations roots →
      Node.preorderAll nodes ⊆ Node.preorderAll roots →
      Node.Owned ((graftAll (Patch.table operations) pass (Anchored.ofNodes nodes)).nodes ++ roots)
        (graftAll (Patch.table operations) pass (Anchored.ofNodes nodes)).pass.next
  | [], roots, pass, h, _, _ => h
  | node :: rest, roots, pass, h, hwithin, hnodes => by
    rw [Node.preorderAll, List.append_subset] at hnodes
    have hfirst := owned_graft node roots pass h hwithin hnodes.1
    have hgrown : Node.preorderAll roots ⊆ Node.preorderAll
        ((graft (Patch.table operations) pass (.ofNode node)).node :: roots) :=
      List.subset_append_right _ _
    have hrest := owned_graftAll rest _ _ hfirst (hwithin.mono hgrown)
      (List.Subset.trans hnodes.2 hgrown)
    rw [Anchored.ofNodes, graftAll]
    exact hrest.toFront
end

end Grafting

theorem Document.owned_graft {roots : List Node} {next : NodeId} (h : Node.Owned roots next)
    (document : Document) {patch : Patch}
    (hroot : document.root.preorder ⊆ Node.preorderAll roots)
    (hwithin : Grafting.Within patch.operations roots) :
    Node.Owned ((document.graft patch next).document.root :: roots)
      (document.graft patch next).next := by
  have hgraft := Grafting.owned_graft document.root roots
    (.fresh patch next) h hwithin hroot
  simp only [Document.graft, Grafting.ofWalk, Grafting.run_start]
  exact hgraft

end Graft
