import Graft.Proofs.Comparison
import Graft.Proofs.Reach
import Graft.Proofs.Walk

/-! # Anchors that are looked up

Trees that are compared or walked have their anchors written down. The anchors can as well stand in
a table and be looked up node by node. A pair of nodes without anchors is then passed over, and at a
node without one nothing is tried. In a tree that a table was built of there are no such nodes, as
long as an identity stands for one node, and both ways come to the same.
-/

namespace Graft

namespace AnchorTable

/-- Whether a table has the anchors of a node and of all below it. -/
def Knows (table : AnchorTable) (root : Node) : Prop :=
  ∀ node ∈ root.preorder, table.get? node = some node.anchor

variable {table : AnchorTable} {root : Node}

theorem knows_build (h : Node.Identified root.preorder) : (build root).Knows root :=
  fun _ hmem => get?_build h hmem

theorem Knows.get?_self (h : table.Knows root) : table.get? root = some root.anchor :=
  h root root.self_mem_preorder

theorem Knows.child (h : table.Knows root) {child : Node} (hchild : child ∈ root.children) :
    table.Knows child := by
  intro node hnode
  apply h
  rw [Node.preorder_eq]
  exact List.mem_cons_of_mem _ (Node.preorder_subset_preorderAll hchild hnode)

theorem Knows.body (h : table.Knows root) {body : Node} (hbody : root.body? = some body) :
    table.get? body = some body.anchor := by
  obtain ⟨index, -, hindex⟩ := Option.bind_eq_some_iff.mp hbody
  exact (h.child (List.mem_of_getElem? hindex)).get?_self

end AnchorTable

/-! ## The comparison -/

namespace Comparison

def bodyChangeBy (olds news : AnchorTable) (anchor : Anchor) (old new : Node) : List Finding :=
  match old.body?, new.body? with
  | some oldBody, some newBody =>
    if olds.get? oldBody = news.get? newBody then []
    else [.bodyChanged anchor old.category.functionName? newBody]
  | _, _ => []

theorem length_preorderAll_zip_le (olds news : List Node) :
    (Node.preorderAll ((olds.zip news).map (·.1))).length ≤ (Node.preorderAll olds).length := by
  induction olds generalizing news with
  | nil => simp
  | cons old olds ih =>
    cases news with
    | nil => simp [Node.preorderAll]
    | cons new news =>
      have := ih news
      simp only [List.zip_cons_cons, List.map_cons, Node.preorderAll, List.length_append]
      omega

/-- The comparison of some pairs with looked-up anchors. -/
def searchBy (olds news : AnchorTable) (found : Array Finding) (pairs : List (Node × Node)) :
    Array Finding :=
  match pairs with
  | [] => found
  | (old, new) :: waiting =>
    match olds.get? old, news.get? new with
    | some oldAnchor, some newAnchor =>
      if oldAnchor = newAnchor then searchBy olds news found waiting
      else
        searchBy olds news
          (found ++ bodyChangeBy olds news oldAnchor old new ++ countChange old new)
          (old.children.zip new.children ++ waiting)
    | _, _ => searchBy olds news found waiting
termination_by (Node.preorderAll (pairs.map (·.1))).length
decreasing_by
  all_goals
    have hzip := length_preorderAll_zip_le old.children new.children
    simp only [List.map_append, List.map_cons, Node.preorderAll_append, Node.preorderAll,
      Node.preorder_eq, List.length_append, List.length_cons]
    omega

variable {olds news : AnchorTable}

theorem bodyChangeBy_eq {old new : Node} (hold : olds.Knows old) (hnew : news.Knows new) :
    bodyChangeBy olds news old.anchor old new =
      bodyChange (Anchored.ofNode old) (Anchored.ofNode new) := by
  simp only [bodyChangeBy, bodyChange, Anchored.body?_ofNode]
  cases holdBody : old.body? with
  | none => simp
  | some oldBody =>
    cases hnewBody : new.body? with
    | none => simp
    | some newBody => simp [hold.body holdBody, hnew.body hnewBody]

/-- A pair of nodes with their anchors written down. -/
def anchoredPair (pair : Node × Node) : Anchored × Anchored :=
  (.ofNode pair.1, .ofNode pair.2)

theorem zip_children_ofNode (old new : Node) :
    (Anchored.ofNode old).children.zip (Anchored.ofNode new).children =
      (old.children.zip new.children).map anchoredPair := by
  simp only [Anchored.children_ofNode, Anchored.ofNodes_eq_map, List.zip_map]
  rfl

theorem searchBy_eq (found : Array Finding) (pairs : List (Node × Node))
    (h : ∀ pair ∈ pairs, olds.Knows pair.1 ∧ news.Knows pair.2) :
    searchBy olds news found pairs = search found (pairs.map anchoredPair) := by
  fun_induction searchBy olds news found pairs with
  | case1 found => simp [search]
  | case2 found old new waiting anchor hnew hold ih =>
    obtain ⟨⟨holds, hnews⟩, hwaiting⟩ := List.forall_mem_cons.mp h
    have hequal : old.anchor = new.anchor := by
      rw [← Option.some_inj, ← holds.get?_self, ← hnews.get?_self, hold, hnew]
    rw [ih hwaiting, List.map_cons, anchoredPair, search]
    simp [hequal]
  | case3 found old new waiting oldAnchor newAnchor hnew hold hne ih =>
    obtain ⟨⟨holds, hnews⟩, hwaiting⟩ := List.forall_mem_cons.mp h
    obtain rfl : old.anchor = oldAnchor := by rw [← Option.some_inj, ← holds.get?_self, hold]
    obtain rfl : new.anchor = newAnchor := by rw [← Option.some_inj, ← hnews.get?_self, hnew]
    have hchildren : ∀ pair ∈ old.children.zip new.children,
        olds.Knows pair.1 ∧ news.Knows pair.2 := fun pair hpair =>
      ⟨holds.child (List.of_mem_zip hpair).1, hnews.child (List.of_mem_zip hpair).2⟩
    rw [ih (List.forall_mem_append.mpr ⟨hchildren, hwaiting⟩), bodyChangeBy_eq holds hnews,
      List.map_append, ← zip_children_ofNode, List.map_cons, anchoredPair, search]
    simp [hne]
  | case4 found old new waiting hnone ih =>
    obtain ⟨⟨holds, hnews⟩, -⟩ := List.forall_mem_cons.mp h
    exact (hnone _ _ holds.get?_self hnews.get?_self).elim

end Comparison

namespace Document

/-- The patch between two documents, with the anchors of each tree in a table. -/
def diffByTables (old new : Document) : Logged Patch :=
  old.patchOf (Comparison.searchBy (AnchorTable.build old.root) (AnchorTable.build new.root) #[]
    [(old.root, new.root)]).toList

theorem diffByTables_eq {old new : Document} (hold : Node.Identified old.root.preorder)
    (hnew : Node.Identified new.root.preorder) : old.diffByTables new = old.diff new := by
  rw [diffByTables, diff, findings, Comparison.searchBy_eq]
  · rfl
  · simpa using ⟨AnchorTable.knows_build hold, AnchorTable.knows_build hnew⟩

end Document

/-! ## The walk -/

theorem Node.length_preorderAll (nodes : List Node) :
    (preorderAll nodes).length = nodes.foldr (fun node total => node.preorder.length + total) 0 := by
  induction nodes with
  | nil => rfl
  | cons node rest ih => rw [preorderAll, List.length_append, ih, List.foldr_cons]

instance : Grafting.Walkable Node where
  node := id
  children := Node.children
  size node := node.preorder.length
  size_eq node := by rw [Node.preorder_eq, List.length_cons, Node.length_preorderAll, Nat.add_comm]

namespace Grafting

open Walkable

/-- The visit of a node whose anchor is looked up. -/
def visitBy (anchors : AnchorTable) (table : Std.HashMap Anchor (Operation × Nat)) (pass : Pass)
    (node : Node) : Pass × Visit :=
  pass.take node.children.isEmpty <|
    match anchors.get? node with
    | none => (none, [])
    | some anchor => attempt table pass.next anchor node

theorem visitBy_eq {anchors : AnchorTable} {node : Node} (h : anchors.Knows node)
    (table : Std.HashMap Anchor (Operation × Nat)) (pass : Pass) :
    visitBy anchors table pass node = visit table pass (Anchored.ofNode node) := by
  rw [visitBy, visit_ofNode, h.get?_self]

/-- A frame with the anchors written down. -/
def Frame.anchored (frame : Frame Node) : Frame Anchored :=
  ⟨.ofNode frame.tree, frame.cursor, frame.children, frame.changed⟩

def Walk.anchored (walk : Walk Node) : Walk Anchored :=
  ⟨walk.stack.map Frame.anchored, walk.pass, walk.root⟩

@[simp] theorem Walk.pass_anchored (walk : Walk Node) : walk.anchored.pass = walk.pass := rfl

@[simp] theorem walked_ofNode (root : Node) : node (Anchored.ofNode root) = root :=
  Anchored.node_ofNode root

theorem children_ofNode (root : Node) :
    children (Anchored.ofNode root) = root.children.map Anchored.ofNode := by
  rw [← Anchored.ofNodes_eq_map]
  exact Anchored.children_ofNode root

@[simp] theorem Frame.finish_anchored (frame : Frame Node) (next : NodeId) :
    frame.anchored.finish next = frame.finish next := by
  simp only [finish, anchored, walked_ofNode]
  rfl

variable {anchors : AnchorTable} (table : Std.HashMap Anchor (Operation × Nat))

theorem start_anchored {root : Node} (h : anchors.Knows root) (pass : Pass) :
    (Walk.start (visitBy anchors table) pass root).anchored =
      Walk.start (visit table) pass (Anchored.ofNode root) := by
  rw [Walk.start, Walk.start, visitBy_eq h, walked_ofNode]
  rcases visit table pass (Anchored.ofNode root) with ⟨after, _ | new | _⟩ <;> rfl

theorem advance_anchored (walk : Walk Node) {frame : Frame Node} (h : anchors.Knows frame.tree)
    (below : List (Frame Node)) :
    (walk.advance (visitBy anchors table) frame below).anchored =
      walk.anchored.advance (visit table) frame.anchored (below.map Frame.anchored) := by
  have hchildren : (children frame.anchored.tree)[frame.anchored.cursor]? =
      (frame.tree.children[frame.cursor]?).map Anchored.ofNode := by
    rw [← List.getElem?_map, ← children_ofNode]
    rfl
  rw [Walk.advance, Walk.advance, hchildren]
  cases hchild : (children frame.tree)[frame.cursor]? with
  | none =>
    simp only [Option.map_none, Frame.finish_anchored]
    cases below <;> rfl
  | some child =>
    have hknows : anchors.Knows child := h.child (List.mem_of_getElem? hchild)
    simp only [Option.map_some, visitBy_eq hknows, walked_ofNode, Walk.pass_anchored]
    rcases visit table walk.pass (Anchored.ofNode child) with ⟨after, _ | new | _⟩ <;> rfl

/-- Whether a table has the anchors of all that is on the stack. -/
def Known (anchors : AnchorTable) (walk : Walk Node) : Prop :=
  ∀ frame ∈ walk.stack, anchors.Knows frame.tree

theorem known_start {root : Node} (h : anchors.Knows root) (pass : Pass) :
    Known anchors (Walk.start (visitBy anchors table) pass root) := by
  unfold Walk.start
  split <;> simp [Known, Frame.start, h]

theorem known_advance {walk : Walk Node} {frame : Frame Node} {below : List (Frame Node)}
    (hstack : walk.stack = frame :: below) (h : Known anchors walk) :
    Known anchors (walk.advance (visitBy anchors table) frame below) := by
  unfold Known at h
  rw [hstack, List.forall_mem_cons] at h
  obtain ⟨hframe, hbelow⟩ := h
  unfold Walk.advance
  split
  · next child hchild =>
    have hknows : anchors.Knows child := hframe.child (List.mem_of_getElem? hchild)
    split <;> simp_all [Known, Frame.start, Frame.push]
  · cases below <;> simp_all [Known, Frame.push]

/-- A walk that looks the anchors up goes as the walk over the anchored tree. -/
theorem run_anchored (walk : Walk Node) (h : Known anchors walk) :
    (walk.run (visitBy anchors table)).anchored = walk.anchored.run (visit table) := by
  -- Over the rounds of the walk. What a round puts on the stack is below what was on it.
  fun_induction Walk.run (visitBy anchors table) walk with
  | case1 walk hstack =>
    obtain ⟨stack, pass, root⟩ := walk
    subst hstack
    exact (run_nil table pass root).symm
  | case2 walk frame below hstack ih =>
    have hknows : anchors.Knows frame.tree := h frame (hstack ▸ List.mem_cons_self)
    rw [ih (known_advance table hstack h), advance_anchored table walk hknows]
    obtain ⟨stack, pass, root⟩ := walk
    subst hstack
    exact (run_cons table frame.anchored (below.map Frame.anchored) pass root).symm

end Grafting

namespace Document

/-- Puts a patch into a document, with the anchors of its tree in a table. -/
def graftByTable (document : Document) (patch : Patch) (next : NodeId) : Grafting :=
  let visit := Grafting.visitBy (AnchorTable.build document.root) (Patch.table patch.operations)
  let walk := Grafting.Walk.start visit (.fresh patch next) document.root
  .ofWalk document patch (walk.run visit)

theorem graftByTable_eq {document : Document} (h : Node.Identified document.root.preorder)
    (patch : Patch) (next : NodeId) :
    document.graftByTable patch next = document.graft patch next := by
  have hknows : (AnchorTable.build document.root).Knows document.root := AnchorTable.knows_build h
  simp only [graft, ← Grafting.start_anchored _ hknows,
    ← Grafting.run_anchored _ _ (Grafting.known_start _ hknows _)]
  rfl

end Document

/-- Patching a text does the same when it looks the anchors up. -/
theorem Options.documents_byTables {options : Options} {parser : Parser} {base proposed : String}
    {old new : Document} {next : NodeId}
    (h : options.documents parser base proposed = .ok (old, new, next)) :
    old.diffByTables new = old.diff new ∧
      ∀ patch, old.graftByTable patch next = old.graft patch next := by
  unfold documents at h
  split at h
  · cases h
  · next document proposal after hboth =>
    obtain ⟨rfl, hreindent⟩ : document = old ∧ proposal.reindent (Indentation.detect proposed)
        (options.indentationFor base) after = (new, next) := by
      simpa using h
    have howned := owned_of_parseBoth hboth
    have hmoved := Document.owned_reindent howned proposal (List.subset_append_left _ _)
      (Indentation.detect proposed) (options.indentationFor base)
    rw [hreindent] at hmoved
    have hold : Node.Identified document.root.preorder := howned.identified_of_mem (by simp)
    exact ⟨Document.diffByTables_eq hold (hmoved.identified_of_mem List.mem_cons_self),
      fun patch => Document.graftByTable_eq hold patch _⟩

end Graft
