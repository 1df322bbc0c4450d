import Graft.Patch.Grafting

/-! # The walk as a recursion

The walk that grafts a patch keeps a stack of frames. Here it is shown to do what plain recursion
over the tree does. Everything else about the walk is proved of the recursion.
-/

namespace Graft.Grafting

structure Grafted where
  pass : Pass
  node : Node
  /-- Whether the node was made anew. -/
  changed : Bool

structure GraftedAll where
  pass : Pass
  nodes : List Node
  changed : Bool

variable (table : Std.HashMap Anchor (Operation × Nat))

/-- The node of a walked child list. It is made anew if one of its children was. -/
def enclose (node : Node) (below : GraftedAll) : Grafted :=
  if below.changed then
    ⟨{ below.pass with next := below.pass.next + 1 },
      node.withChildren below.pass.next below.nodes, true⟩
  else ⟨below.pass, node, false⟩

mutual
/-- The walk of a tree, by recursion. -/
def graft (pass : Pass) : Anchored → Grafted
  | ⟨node, anchor, children⟩ =>
    match visit table pass ⟨node, anchor, children⟩ with
    | (after, .keep) => ⟨after, node, false⟩
    | (after, .replace new) => ⟨after, new, true⟩
    | (after, .descend) => enclose node (graftAll after children)

def graftAll (pass : Pass) : List Anchored → GraftedAll
  | [] => ⟨pass, [], false⟩
  | tree :: rest =>
    let first := graft pass tree
    let others := graftAll first.pass rest
    ⟨others.pass, first.node :: others.nodes, first.changed || others.changed⟩
end

theorem visit_ofNode (pass : Pass) (node : Node) :
    visit table pass (Anchored.ofNode node) =
      pass.take node.children.isEmpty (attempt table pass.next node.anchor node) := by
  simp [visit, Anchored.ofNodes_eq_map]

/-! ## Rounds -/

@[simp] theorem node_eq (tree : Anchored) : Walkable.node tree = tree.node := rfl

@[simp] theorem children_eq (tree : Anchored) : Walkable.children tree = tree.children := rfl

theorem run_nil (pass : Pass) (root : Node) :
    (Walk.mk [] pass root).run (visit table) = ⟨[], pass, root⟩ := by
  rw [Walk.run]

theorem run_cons (frame : Frame Anchored) (below : List (Frame Anchored)) (pass : Pass)
    (root : Node) :
    (Walk.mk (frame :: below) pass root).run (visit table) =
      ((Walk.mk (frame :: below) pass root).advance (visit table) frame below).run
        (visit table) := by
  rw [Walk.run]

def Frame.extend (frame : Frame Anchored) (count : Nat) (below : GraftedAll) : Frame Anchored :=
  { frame with
    cursor := frame.cursor + count
    children := frame.children ++ below.nodes
    changed := frame.changed || below.changed }

def Frame.take (frame : Frame Anchored) (child : Grafted) : Frame Anchored :=
  { frame with cursor := frame.cursor + 1 }.push child.node child.changed

@[simp] theorem extend_zero (frame : Frame Anchored) (pass : Pass) :
    frame.extend 0 ⟨pass, [], false⟩ = frame := by
  simp [Frame.extend]

theorem extend_take (frame : Frame Anchored) (child : Grafted) (count : Nat) (below : GraftedAll) :
    (frame.take child).extend count below =
      frame.extend (count + 1)
        ⟨below.pass, child.node :: below.nodes, child.changed || below.changed⟩ := by
  have hcursor : frame.cursor + 1 + count = frame.cursor + (count + 1) := by omega
  simp [Frame.extend, Frame.take, Frame.push, hcursor, Bool.or_assoc]

theorem finish_extend (tree : Anchored) (below : GraftedAll) :
    ((Frame.start tree).extend tree.children.length below).finish below.pass.next =
      ((enclose tree.node below).node, (enclose tree.node below).changed,
        (enclose tree.node below).pass.next) := by
  cases h : below.changed <;> simp [Frame.finish, Frame.extend, Frame.start, enclose, h]

theorem pass_enclose (node : Node) (below : GraftedAll) :
    { below.pass with next := (enclose node below).pass.next } = (enclose node below).pass := by
  cases h : below.changed <;> simp [enclose, h]

theorem advance_extend (tree : Anchored) (below : GraftedAll) (stack rest : List (Frame Anchored))
    (root : Node) :
    (Walk.mk stack below.pass root).advance (visit table)
        ((Frame.start tree).extend tree.children.length below) rest =
      match rest with
      | [] => ⟨[], (enclose tree.node below).pass, (enclose tree.node below).node⟩
      | parent :: rest =>
        ⟨parent.push (enclose tree.node below).node (enclose tree.node below).changed :: rest,
          (enclose tree.node below).pass, root⟩ := by
  have hcursor : ((Frame.start tree).extend tree.children.length below).tree.children[
      ((Frame.start tree).extend tree.children.length below).cursor]? = none := by
    simp [Frame.extend, Frame.start]
  rw [Walk.advance, children_eq, hcursor]
  cases rest <;> simp [finish_extend, pass_enclose]

-- The induction is over the tree: a frame that has some children to visit comes to the same as the
-- frame after them, whatever lies below it on the stack.
mutual
theorem run_child (parent : Frame Anchored) (rest : List (Frame Anchored)) (pass : Pass)
    (root : Node) : ∀ child : Anchored, parent.tree.children[parent.cursor]? = some child →
      (Walk.mk (parent :: rest) pass root).run (visit table) =
        (Walk.mk (parent.take (graft table pass child) :: rest) (graft table pass child).pass
          root).run (visit table)
  | ⟨node, anchor, children⟩, hchild => by
    rw [run_cons, Walk.advance, children_eq, hchild]
    rcases hvisit : visit table pass ⟨node, anchor, children⟩ with ⟨after, _ | new | _⟩
    · simp only [hvisit, graft, Frame.take, node_eq]
    · simp only [hvisit, graft, Frame.take]
    · simp only [hvisit, graft, Frame.take]
      rw [run_frame (Frame.start ⟨node, anchor, children⟩) _ after root children rfl, run_cons,
        advance_extend table ⟨node, anchor, children⟩]

theorem run_frame (frame : Frame Anchored) (rest : List (Frame Anchored)) (pass : Pass)
    (root : Node) : ∀ trees : List Anchored, frame.tree.children.drop frame.cursor = trees →
      (Walk.mk (frame :: rest) pass root).run (visit table) =
        (Walk.mk (frame.extend trees.length (graftAll table pass trees) :: rest)
          (graftAll table pass trees).pass root).run (visit table)
  | [], _ => by rw [graftAll, List.length_nil, extend_zero]
  | child :: trees, hdrop => by
    obtain ⟨hchild, htail⟩ := next_of_drop hdrop
    rw [run_child frame rest pass root child hchild,
      run_frame (frame.take (graft table pass child)) rest _ root trees htail, extend_take]
    simp only [graftAll, List.length_cons]
end

/-- The walk is the recursion. -/
theorem run_start (pass : Pass) (tree : Anchored) :
    (Walk.start (visit table) pass tree).run (visit table) =
      ⟨[], (graft table pass tree).pass, (graft table pass tree).node⟩ := by
  obtain ⟨node, anchor, children⟩ := tree
  rw [Walk.start]
  rcases hvisit : visit table pass ⟨node, anchor, children⟩ with ⟨after, _ | new | _⟩
  · simp only [hvisit, graft, run_nil, node_eq]
  · simp only [hvisit, graft, run_nil]
  · simp only [hvisit, graft, node_eq]
    rw [run_frame table (Frame.start ⟨node, anchor, children⟩) [] after node children rfl, run_cons,
      advance_extend table ⟨node, anchor, children⟩, run_nil]

end Graft.Grafting
