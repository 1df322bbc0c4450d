import Graft.Proofs.Agreement
import Graft.Proofs.Identities
import Graft.Proofs.Pairing
import Graft.Proofs.Writable
import Graft.Session
import Graft.Syntax.Outline

/-! # What a session keeps

A session names nodes of its document and puts them together in new ways, so one node may come to
stand at several places. Every step keeps the identities in order, and so the anchor table and the
index of every document that a session comes to are exact.
-/

namespace Graft

theorem exists_of_bind_eq_ok {ε α β : Type} {x : Except ε α} {f : α → Except ε β} {r : β}
    (h : x >>= f = .ok r) : ∃ a, x = .ok a ∧ f a = .ok r := by
  cases x with
  | error e => cases h
  | ok a => exact ⟨a, rfl, h⟩

theorem exists_of_map_eq_ok {ε α β : Type} {x : Except ε α} {f : α → β} {r : β}
    (h : x.map f = .ok r) : ∃ a, x = .ok a ∧ f a = r := by
  cases x with
  | error e => cases h
  | ok a =>
    cases h
    exact ⟨a, rfl, rfl⟩

theorem Document.within_diff {old new : Document} {roots : List Node}
    (h : new.root.preorder ⊆ Node.preorderAll roots) :
    Grafting.Within (old.diff new).value.operations roots := by
  intro operation hoperation body hbody
  obtain ⟨position, a, b, oldBody, newBody, -, hb, -, hnewBody, rfl⟩ :=
    exists_pair_of_mem_diff hoperation
  cases hbody
  obtain ⟨index, -, hchild⟩ := Option.bind_eq_some_iff.mp hnewBody
  have hat : new.root.at? (position ++ [index]) = some body := by
    rw [Node.at?_append, hb, Option.bind_some, Node.at?, hchild]
    rfl
  have hmem := Node.mem_preorder_of_at? hat
  exact List.Subset.trans (Node.preorder_subset_of_mem _ _ hmem) h

namespace Session

variable {session : Session}

/-! ## Naming nodes -/

theorem mem_of_nodeAt {root node : Node} {position : Nat} (h : nodeAt root position = .ok node) :
    node ∈ root.preorder := by
  unfold nodeAt at h
  split at h
  · next found hfound =>
    cases h
    exact List.mem_of_getElem? hfound
  · cases h

theorem owned_nodeAt {roots : List Node} {next : NodeId} {root node : Node} {position : Nat}
    (h : Node.Owned roots next) (hroot : root.preorder ⊆ Node.preorderAll roots)
    (hnode : nodeAt root position = .ok node) : Node.Owned (node :: roots) next := by
  apply h.again
  exact List.Subset.trans (Node.preorder_subset_of_mem _ _ (mem_of_nodeAt hnode)) hroot

mutual
theorem owned_resolve : ∀ (spec : NodeSpec) {roots : List Node} {next after : NodeId} {node : Node},
    Node.Owned roots next → session.document.root.preorder ⊆ Node.preorderAll roots →
      session.resolve next spec = .ok (node, after) → Node.Owned (node :: roots) after
  | .here position, roots, next, after, node, h, hroot, hresolve => by
    rw [resolve] at hresolve
    obtain ⟨found, hfound, heq⟩ := exists_of_map_eq_ok hresolve
    cases heq
    exact owned_nodeAt h hroot hfound
  | .loaded text position, roots, next, after, node, h, hroot, hresolve => by
    rw [resolve] at hresolve
    obtain ⟨found, hfound, heq⟩ := exists_of_map_eq_ok hresolve
    cases heq
    have hloaded := Document.owned_ofConcrete h session.document.file session.document.language text
      (session.parser session.document.language text)
    have hnode := owned_nodeAt hloaded (List.subset_append_left _ _) hfound
    exact hnode.restrict (List.subset_append_right _ _)
  | .leaf grammar token, roots, next, after, node, h, hroot, hresolve => by
    rw [resolve] at hresolve
    cases hresolve
    exact h.cons _ rfl (List.nil_subset _)
  | .branch grammar category children, roots, next, after, node, h, hroot, hresolve => by
    rw [resolve] at hresolve
    split at hresolve
    · cases hresolve
    · next below middle hbelow =>
      cases hresolve
      have hchildren := owned_resolveAll children h hroot hbelow
      have hmade := hchildren.cons (Node.branch middle category grammar below) rfl
        Node.preorderAll_subset_left
      exact hmade.restrict Node.preorderAll_subset_right

theorem owned_resolveAll : ∀ (specs : List NodeSpec) {roots : List Node} {next after : NodeId}
    {nodes : List Node}, Node.Owned roots next →
      session.document.root.preorder ⊆ Node.preorderAll roots →
      session.resolveAll next specs = .ok (nodes, after) → Node.Owned (nodes ++ roots) after
  | [], roots, next, after, nodes, h, hroot, hresolve => by
    rw [resolveAll] at hresolve
    cases hresolve
    exact h
  | spec :: rest, roots, next, after, nodes, h, hroot, hresolve => by
    rw [resolveAll] at hresolve
    split at hresolve
    · cases hresolve
    · next node middle hnode =>
      split at hresolve
      · cases hresolve
      · next others last hothers =>
        cases hresolve
        have hfirst := owned_resolve spec h hroot hnode
        have hrest := owned_resolveAll rest hfirst (List.subset_append_of_subset_right _ hroot)
          hothers
        exact hrest.toFront
end

theorem owned_resolveTarget {target : Target} {roots : List Node} {next after : NodeId}
    {anchor : Anchor} (h : Node.Owned roots next)
    (hroot : session.document.root.preorder ⊆ Node.preorderAll roots)
    (hresolve : session.resolveTarget next target = .ok (anchor, after)) :
    Node.Owned roots after := by
  cases target with
  | anchor given =>
    cases hresolve
    exact h
  | node spec =>
    obtain ⟨⟨node, middle⟩, hnode, heq⟩ := exists_of_bind_eq_ok hresolve
    cases heq
    exact (owned_resolve spec h hroot hnode).mono (List.subset_append_right _ _)

/-- The trees grow by what the operations put in. -/
structure Grown (roots : List Node) (operations : List Operation) (next : NodeId)
    (others : List Node) : Prop where
  owned : Node.Owned others next
  within : Grafting.Within operations others
  subset : Node.preorderAll roots ⊆ Node.preorderAll others

theorem grown_resolveOperation {spec : OperationSpec} {roots : List Node} {next after : NodeId}
    {operation : Operation} (h : Node.Owned roots next)
    (hroot : session.document.root.preorder ⊆ Node.preorderAll roots)
    (hresolve : session.resolveOperation next spec = .ok (operation, after)) :
    ∃ others, Grown roots [operation] after others := by
  cases spec with
  | replaceBody target body =>
    obtain ⟨⟨anchor, middle⟩, htarget, hresolve⟩ := exists_of_bind_eq_ok hresolve
    obtain ⟨⟨node, last⟩, hnode, heq⟩ := exists_of_bind_eq_ok hresolve
    cases heq
    have howned := owned_resolve body (owned_resolveTarget h hroot htarget) hroot hnode
    refine ⟨node :: roots, howned, ?_, List.subset_append_right _ _⟩
    intro operation hoperation payload hpayload
    rw [List.mem_singleton.mp hoperation] at hpayload
    cases hpayload
    exact List.subset_append_left _ _
  | addNode target spec =>
    obtain ⟨⟨anchor, middle⟩, htarget, hresolve⟩ := exists_of_bind_eq_ok hresolve
    obtain ⟨⟨node, last⟩, hnode, heq⟩ := exists_of_bind_eq_ok hresolve
    cases heq
    have howned := owned_resolve spec (owned_resolveTarget h hroot htarget) hroot hnode
    refine ⟨node :: roots, howned, ?_, List.subset_append_right _ _⟩
    intro operation hoperation payload hpayload
    rw [List.mem_singleton.mp hoperation] at hpayload
    cases hpayload
  | removeNode target =>
    obtain ⟨⟨anchor, middle⟩, htarget, heq⟩ := exists_of_bind_eq_ok hresolve
    cases heq
    refine ⟨roots, owned_resolveTarget h hroot htarget, ?_, List.Subset.refl _⟩
    intro operation hoperation payload hpayload
    rw [List.mem_singleton.mp hoperation] at hpayload
    cases hpayload

theorem grown_resolveOperations {specs : List OperationSpec} {roots : List Node}
    {next after : NodeId} {operations : List Operation} (h : Node.Owned roots next)
    (hroot : session.document.root.preorder ⊆ Node.preorderAll roots)
    (hresolve : session.resolveOperations next specs = .ok (operations, after)) :
    ∃ others, Grown roots operations after others := by
  induction specs generalizing roots next operations with
  | nil =>
    cases hresolve
    exact ⟨roots, h, fun _ hmem => absurd hmem List.not_mem_nil, List.Subset.refl _⟩
  | cons spec rest ih =>
    obtain ⟨⟨operation, middle⟩, hfirst, hresolve⟩ := exists_of_bind_eq_ok hresolve
    obtain ⟨⟨others, last⟩, hrest, heq⟩ := exists_of_bind_eq_ok hresolve
    cases heq
    obtain ⟨grown, hgrown⟩ := grown_resolveOperation h hroot hfirst
    obtain ⟨more, hmore⟩ := ih hgrown.owned (List.Subset.trans hroot hgrown.subset) hrest
    refine ⟨more, hmore.owned, ?_, List.Subset.trans hgrown.subset hmore.subset⟩
    intro given hgiven
    rcases List.mem_cons.mp hgiven with rfl | hgiven
    · exact hgrown.within.mono hmore.subset given (List.mem_singleton_self given)
    · exact hmore.within given hgiven

/-! ## Steps -/

/-- The identities of the document are in order, and new ones are not in use. -/
def Sound (session : Session) : Prop :=
  Node.Owned [session.document.root] session.next

theorem sound_graft {patch : Patch} (events : List Event) {next : NodeId} {roots : List Node}
    (h : Node.Owned roots next) (hroot : session.document.root.preorder ⊆ Node.preorderAll roots)
    (hwithin : Grafting.Within patch.operations roots) :
    (session.graft patch events next).1.Sound := by
  have hgraft := Document.owned_graft h session.document hroot hwithin
  exact hgraft.restrict (List.nil_subset _)

theorem sound_propose {proposed : Document} {next : NodeId} {roots : List Node}
    (h : Node.Owned roots next) (hroot : session.document.root.preorder ⊆ Node.preorderAll roots)
    (hproposed : proposed.root.preorder ⊆ Node.preorderAll roots) :
    (session.propose proposed next).1.Sound :=
  sound_graft _ h hroot (Document.within_diff hproposed)

theorem sound_step (h : session.Sound) {step : Step} {after : Session} {report : Report}
    (hstep : session.step step = .ok (after, report)) : after.Sound := by
  have hroot : session.document.root.preorder ⊆ Node.preorderAll [session.document.root] :=
    List.subset_append_left _ _
  cases step with
  | root spec =>
    obtain ⟨⟨node, next⟩, hnode, heq⟩ := exists_of_bind_eq_ok hstep
    cases heq
    exact (owned_resolve spec h hroot hnode).restrict (List.nil_subset _)
  | wrap spec =>
    obtain ⟨⟨node, next⟩, hnode, heq⟩ := exists_of_bind_eq_ok hstep
    cases heq
    have hblock := (owned_resolve spec h hroot hnode).blockAround (List.subset_append_left _ _)
    exact hblock.restrict (List.nil_subset _)
  | withChild spec index childSpec =>
    obtain ⟨⟨node, middle⟩, hnode, hstep⟩ := exists_of_bind_eq_ok hstep
    obtain ⟨⟨child, next⟩, hchild, hstep⟩ := exists_of_bind_eq_ok hstep
    have hfirst := owned_resolve spec h hroot hnode
    have hboth := owned_resolve childSpec hfirst
      (List.subset_append_of_subset_right _ hroot) hchild
    cases hchanged : node.withChild? next index child with
    | none =>
      simp only [hchanged] at hstep
      cases hstep
    | some changed =>
      simp only [hchanged] at hstep
      cases hstep
      have hnodeIn : node.preorder ⊆ Node.preorderAll [child, node, session.document.root] :=
        List.Subset.trans (List.subset_append_left _ _) (List.subset_append_right _ _)
      have hmade := hboth.withChild? hnodeIn (List.subset_append_left _ _) hchanged
      exact hmade.restrict (List.nil_subset _)
  | withChildren spec childSpecs =>
    obtain ⟨⟨node, middle⟩, hnode, hstep⟩ := exists_of_bind_eq_ok hstep
    obtain ⟨⟨children, next⟩, hchildren, heq⟩ := exists_of_bind_eq_ok hstep
    cases heq
    have hfirst := owned_resolve spec h hroot hnode
    have hall := owned_resolveAll childSpecs hfirst
      (List.subset_append_of_subset_right _ hroot) hchildren
    have hmade := hall.cons (node.withChildren next children) rfl Node.preorderAll_subset_left
    exact hmade.restrict (List.nil_subset _)
  | reindent source target =>
    rw [Session.step, Document.reindent?_eq] at hstep
    split at hstep
    · next hstopped => cases hstep
    · next document next hmoved =>
      cases hstep
      split at hmoved
      · next hfits =>
        obtain ⟨rfl, rfl⟩ := Prod.mk.inj (Option.some.inj hmoved)
        exact (Document.owned_reindent h session.document hroot source target).restrict
          (List.nil_subset _)
      · next hwide => cases hmoved
  | proposeText text =>
    cases hstep
    have hloaded := Document.owned_ofConcrete h session.document.file session.document.language text
      (session.parser session.document.language text)
    exact sound_propose hloaded (List.subset_append_of_subset_right _ hroot)
      (List.subset_append_left _ _)
  | proposeNode spec =>
    obtain ⟨⟨node, next⟩, hnode, heq⟩ := exists_of_bind_eq_ok hstep
    cases heq
    have hresolved := owned_resolve spec h hroot hnode
    exact sound_propose hresolved (List.subset_append_of_subset_right _ hroot)
      (List.subset_append_left _ _)
  | apply specs =>
    obtain ⟨⟨operations, next⟩, hoperations, heq⟩ := exists_of_bind_eq_ok hstep
    cases heq
    obtain ⟨others, hgrown⟩ := grown_resolveOperations h hroot hoperations
    exact sound_graft [] hgrown.owned (List.Subset.trans hroot hgrown.subset) hgrown.within
  | lookup target =>
    obtain ⟨⟨anchor, next⟩, htarget, heq⟩ := exists_of_bind_eq_ok hstep
    cases heq
    exact owned_resolveTarget h hroot htarget
  | subindex spec =>
    obtain ⟨⟨node, next⟩, hnode, heq⟩ := exists_of_bind_eq_ok hstep
    cases heq
    exact (owned_resolve spec h hroot hnode).mono (List.subset_append_right _ _)
  | inspect spec =>
    obtain ⟨⟨node, next⟩, hnode, heq⟩ := exists_of_bind_eq_ok hstep
    cases heq
    exact (owned_resolve spec h hroot hnode).mono (List.subset_append_right _ _)

theorem sound_start {parser : Parser} {file text : String}
    (h : start parser file text = .ok session) : session.Sound := by
  unfold start Document.parse at h
  split at h
  · cases h
  · next document next hparse =>
    split at hparse
    · cases hparse
    · next language _ =>
      cases hparse
      cases h
      exact Document.owned_ofConcrete Node.owned_nil file language text (parser language text)

theorem Sound.identified (h : session.Sound) : Node.Identified session.document.root.preorder :=
  Node.Owned.identified_of_mem h List.mem_cons_self

/-- An identity of a document that a session comes to stands for one node. -/
theorem identified_run (h : session.Sound) (steps : List Step) {document : Document}
    {report : Report} (hmem : .ok (document, report) ∈ session.run steps) :
    Node.Identified document.root.preorder := by
  induction steps generalizing session with
  | nil => cases hmem
  | cons step rest ih =>
    rw [run] at hmem
    split at hmem
    · next hstopped => simp at hmem
    · rcases List.mem_cons.mp hmem with heq | hmem
      · cases heq
      · exact ih h hmem
    · next after found hstep =>
      have hafter := sound_step h hstep
      rcases List.mem_cons.mp hmem with heq | hmem
      · cases heq
        exact hafter.identified
      · exact ih hafter hmem

end Session

/-! ## Tables and indices -/

/-- The table of a tree has the anchors of its nodes and of no others, and the index has the first
node of every anchor, wherever nodes stand more than once. All this takes is that an identity stands
for one node, and so it does in every document that a session comes to. -/
theorem tables_exact :
    (∀ root : Node, Node.Identified root.preorder →
      let table := AnchorTable.build root
      let index := AnchorIndex.build root
      (∀ node ∈ root.preorder,
        table.get? node = some node.anchor ∧ AnchorTable.anchorOf node = node.anchor) ∧
      (∀ node : Node, node.id ∉ root.preorder.map Node.id → table.get? node = none) ∧
      table.size = (root.preorder.map Node.id).toFinset.card ∧
      (∀ anchor, index.get? anchor = root.preorder.find? (·.anchor == anchor)) ∧
      (∀ anchor, (index.get? anchor).isSome ↔ anchor ∈ root.preorder.map Node.anchor) ∧
      index.size = (root.preorder.map Node.anchor).toFinset.card) ∧
    ∀ (parser : Parser) (file text : String) (session : Session),
      Session.start parser file text = .ok session →
      Node.Identified session.document.root.preorder ∧
        ∀ (steps : List Step) (document : Document) (report : Report),
          .ok (document, report) ∈ session.run steps →
            Node.Identified document.root.preorder := by
  refine ⟨?_, ?_⟩
  · intro root h table index
    have halone : ∀ node ∈ root.preorder, AnchorTable.anchorOf node = node.anchor := by
      intro node hnode
      exact AnchorTable.anchorOf_eq (h.mono (Node.preorder_subset_of_mem root node hnode))
    exact ⟨fun node hnode => ⟨AnchorTable.get?_build h hnode, halone node hnode⟩,
      fun node => AnchorTable.get?_build_of_not_mem h, AnchorTable.size_build h,
      AnchorIndex.get?_build h, AnchorIndex.isSome_get?_build h, AnchorIndex.size_build h⟩
  · intro parser file text session hstart
    have hsound := Session.sound_start hstart
    exact ⟨hsound.identified, fun steps document report => Session.identified_run hsound steps⟩

/-- One node at two places, and another node like it. -/
def sampleTwins : Node :=
  let twin := Node.leaf 0 ";" ⟨"", ";"⟩
  .branch 2 .other "program" [twin, twin, .leaf 1 ";" ⟨"\n", ";"⟩]

set_option maxRecDepth 100000 in
-- Four places, three nodes and two anchors. A session makes such a tree by naming a node twice.
theorem tables_exact_sampleTwins :
    (Node.Identified sampleTwins.preorder ∧ sampleTwins.preorder.length = 4 ∧
      (AnchorTable.build sampleTwins).size = 3 ∧ (AnchorIndex.build sampleTwins).size = 2) ∧
    ∃ session document report,
      Session.start (fun _ _ => .empty) "a.ts" "" = .ok session ∧
      .ok (document, report) ∈ session.run [.withChildren (.here 0) [.here 0, .here 0]] ∧
      document.root.children = [session.document.root, session.document.root] ∧
      Node.Identified document.root.preorder := by
  have hidentified : Node.Identified sampleTwins.preorder := by
    have htwin := Node.owned_nil.cons (.leaf 0 ";" ⟨"", ";"⟩) rfl (List.nil_subset _)
    have hboth := htwin.cons (.leaf 1 ";" ⟨"\n", ";"⟩) rfl (List.nil_subset _)
    have hall := hboth.cons sampleTwins rfl (by
      simp [sampleTwins, Node.branch, Node.preorderAll, Node.preorder, Node.leaf])
    exact hall.identified_of_mem List.mem_cons_self
  obtain ⟨-, -, htable, -, -, hindex⟩ := tables_exact.1 sampleTwins hidentified
  refine ⟨⟨hidentified, rfl, htable.trans (by decide), hindex.trans (by decide +kernel)⟩, ?_⟩
  have hstarted : (Session.start (fun _ _ => .empty) "a.ts" "").isOk := by decide +kernel
  cases hstart : Session.start (fun _ _ => .empty) "a.ts" "" with
  | error e =>
    rw [hstart] at hstarted
    cases hstarted
  | ok session =>
    have hroot : Session.nodeAt session.document.root 0 = .ok session.document.root := by
      rw [Session.nodeAt, Node.preorder_eq]
      rfl
    let changed := session.document.root.withChildren session.next
      [session.document.root, session.document.root]
    have hrun : .ok (session.document.withRoot changed, .nothing) ∈
        session.run [.withChildren (.here 0) [.here 0, .here 0]] := by
      simp [Session.run, Session.step, Session.resolve, Session.resolveAll, hroot, Except.map,
        bind, Except.bind, Session.withRoot, Session.withDocument, changed, pure, Except.pure]
    exact ⟨session, _, _, rfl, hrun, rfl, (tables_exact.2 _ _ _ session hstart).2 _ _ _ hrun⟩

end Graft
