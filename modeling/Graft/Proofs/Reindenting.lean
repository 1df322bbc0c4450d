import Graft.Proofs.Shape
import Graft.Syntax.Printing

/-! # Re-indenting a proposal

Moving the indentation of a document copies its tree on a stack. The copy is shown to be a map of
tokens by recursion. Tokens are not seen by the comparison, so it finds the same operations before
and after, on the same anchors and in the same order, and proposes the moved bodies.
-/

namespace Graft

namespace Node

mutual
def mapTokens (f : Token → Token) : Node → Node
  | ⟨id, category, grammar, token, children⟩ =>
    ⟨id, category, grammar, token.map f, mapTokensAll f children⟩

def mapTokensAll (f : Token → Token) : List Node → List Node
  | [] => []
  | node :: rest => mapTokens f node :: mapTokensAll f rest
end

theorem mapTokensAll_eq_map (f : Token → Token) (nodes : List Node) :
    mapTokensAll f nodes = nodes.map (mapTokens f) := by
  induction nodes with
  | nil => rfl
  | cons node rest ih => simp [mapTokensAll, ih]

theorem keepsShape_mapTokens (f : Token → Token) : KeepsShape (mapTokens f) where
  category node := by cases node; rfl
  grammar node := by cases node; rfl
  children node := by cases node; exact mapTokensAll_eq_map f _

end Node

/-! ## The copy as a recursion -/

namespace Rebuild

variable (f : Token → Token)

def Frame.extend (frame : Frame) (nodes : List Node) : Frame :=
  { frame with done := frame.done ++ nodes }

theorem extend_push (frame : Frame) (child : Node) (nodes : List Node) :
    (frame.push child).extend nodes = frame.extend (child :: nodes) := by
  simp [Frame.extend, Frame.push]

theorem run_of_child {frame : Frame} {child : Node} (below : List Frame)
    (h : frame.node.children[frame.done.size]? = some child) :
    run f frame below = run f (.start child) (frame :: below) := by
  rw [run.eq_def f frame below]
  split
  · next other hother =>
    rw [h] at hother
    cases hother
    rfl
  · next hnone => simp [h] at hnone

theorem run_of_done {frame : Frame} (below : List Frame)
    (h : frame.node.children[frame.done.size]? = none) :
    run f frame below =
      match below with
      | [] => frame.finish f
      | parent :: rest => run f (parent.push (frame.finish f)) rest := by
  rw [run.eq_def f frame below]
  split
  · next child hchild => simp [h] at hchild
  · rfl

theorem finish_extend_start (node : Node) :
    ((Frame.start node).extend (Node.mapTokensAll f node.children)).finish f =
      node.mapTokens f := by
  cases node
  simp [Frame.finish, Frame.extend, Frame.start, Node.mapTokens]

theorem extend_start_done (node : Node) :
    ((Frame.start node).extend (Node.mapTokensAll f node.children)).node.children[
      ((Frame.start node).extend (Node.mapTokensAll f node.children)).done.size]? = none := by
  simp [Frame.extend, Frame.start, Node.mapTokensAll_eq_map]

theorem next_child {frame : Frame} {child : Node} {nodes : List Node}
    (h : frame.node.children.drop frame.done.size = child :: nodes) :
    frame.node.children[frame.done.size]? = some child ∧
      (frame.push (child.mapTokens f)).node.children.drop
        (frame.push (child.mapTokens f)).done.size = nodes := by
  rw [Frame.push, Array.size_push]
  exact next_of_drop h

-- Over the tree: a frame comes to the same as the frame with some more children copied, whatever
-- lies below it on the stack.
mutual
theorem run_child (parent : Frame) (rest : List Frame) : ∀ child : Node,
    parent.node.children[parent.done.size]? = some child →
      run f parent rest = run f (parent.push (child.mapTokens f)) rest
  | ⟨id, category, grammar, token, children⟩, hchild => by
    rw [run_of_child f rest hchild, run_frame (.start _) (parent :: rest) children rfl,
      run_of_done f _ (extend_start_done f ⟨id, category, grammar, token, children⟩),
      finish_extend_start f ⟨id, category, grammar, token, children⟩]

theorem run_frame (frame : Frame) (rest : List Frame) : ∀ nodes : List Node,
    frame.node.children.drop frame.done.size = nodes →
      run f frame rest = run f (frame.extend (Node.mapTokensAll f nodes)) rest
  | [], _ => by simp [Node.mapTokensAll, Frame.extend]
  | child :: nodes, hdrop => by
    obtain ⟨hchild, htail⟩ := next_child f hdrop
    rw [run_child frame rest child hchild, run_frame _ rest nodes htail, extend_push,
      Node.mapTokensAll]
end

end Rebuild

/-- The copy is the recursion. -/
theorem Node.rebuild_eq_mapTokens (f : Token → Token) (node : Node) :
    node.rebuild f = node.mapTokens f := by
  rw [Node.rebuild, Rebuild.run_frame f (.start node) [] node.children rfl,
    Rebuild.run_of_done f [] (Rebuild.extend_start_done f node), Rebuild.finish_extend_start]

/-! ## Documents -/

namespace Node

/-- The tree moved from one style to another. Between equal styles it stays as it is. -/
def reindented (source target : Indentation) (node : Node) : Node :=
  if source = target then node else node.mapTokens (·.reindent source target)

theorem keepsShape_reindented (source target : Indentation) :
    KeepsShape (reindented source target) := by
  by_cases h : source = target
  · have hsame : reindented source target = fun node => node := by
      funext node
      rw [reindented, if_pos h]
    rw [hsame]
    exact ⟨fun _ => rfl, fun _ => rfl, fun node => (List.map_id _).symm⟩
  · have hmap : reindented source target = mapTokens (·.reindent source target) := by
      funext node
      rw [reindented, if_neg h]
    rw [hmap]
    exact keepsShape_mapTokens _

end Node

theorem Document.content_root_reindent (source target : Indentation) (document : Document)
    (next : NodeId) :
    (document.reindent source target next).1.root.content =
      (document.root.reindented source target).content := by
  unfold reindent Node.reindented
  split
  · rfl
  · rw [reindentTokens, Node.rebuild_eq_mapTokens]
    exact Node.content_numbered next _

/-- Re-indenting the second document changes no anchor and no order, and the bodies proposed are the
re-indented ones. -/
theorem Document.operations_diff_reindent (old new : Document) (source target : Indentation)
    (next : NodeId) :
    (old.diff (new.reindent source target next).1).value.operations.map
        (Operation.map Node.content) =
      ((old.diff new).value.operations.map (Operation.map (Node.reindented source target))).map
        (Operation.map Node.content) := by
  rw [operations_diff, operations_diff, ← Node.keepsShape_content.changes_map_right,
    content_root_reindent, Node.keepsShape_content.changes_map_right,
    (Node.keepsShape_reindented source target).changes_map_right]

end Graft
