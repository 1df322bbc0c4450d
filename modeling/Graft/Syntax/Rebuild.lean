import Graft.Syntax.Node

/-! # Rebuilding a tree

A tree is copied, and every token goes through a function on the way. The copy keeps a stack of its
own, so that deep trees do not need deep calls.
-/

namespace Graft

namespace Rebuild

/-- A node whose children are being copied. -/
structure Frame where
  node : Node
  /-- The copies of the first children. -/
  done : Array Node

namespace Frame

def start (node : Node) : Frame :=
  ⟨node, #[]⟩

def push (frame : Frame) (child : Node) : Frame :=
  { frame with done := frame.done.push child }

/-- The copy of the node of a frame, when its children are done. -/
def finish (f : Token → Token) (frame : Frame) : Node :=
  ⟨frame.node.id, frame.node.category, frame.node.grammar, frame.node.token.map f,
    frame.done.toList⟩

def finish? (f : Token → Option Token) (frame : Frame) : Option Node :=
  (frame.node.token.mapM f).map fun token =>
    ⟨frame.node.id, frame.node.category, frame.node.grammar, token, frame.done.toList⟩

/-- The rounds that a frame takes from its child number `index` on, at most: one for itself, and two
for every node below. -/
def roundsFrom (frame : Frame) (index : Nat) : Nat :=
  1 + 2 * (Node.preorderAll (frame.node.children.drop index)).length

theorem roundsFrom_eq (frame : Frame) (index : Nat) (child : Node)
    (h : frame.node.children[index]? = some child) :
    frame.roundsFrom index = 1 + (start child).roundsFrom 0 + frame.roundsFrom (index + 1) := by
  obtain ⟨hlt, rfl⟩ := List.getElem?_eq_some_iff.mp h
  simp only [roundsFrom, start, List.drop_zero]
  rw [List.drop_eq_getElem_cons hlt, Node.preorderAll, Node.preorder_eq, List.length_append,
    List.length_cons]
  omega

end Frame

/-- The rounds of a stack. The frames below the innermost wait for the child being copied. -/
def rounds (frame : Frame) (below : List Frame) : Nat :=
  frame.roundsFrom frame.done.size +
    below.foldr (fun waiting total => waiting.roundsFrom (waiting.done.size + 1) + total) 0

theorem rounds_start_lt {frame : Frame} {child : Node} (below : List Frame)
    (h : frame.node.children[frame.done.size]? = some child) :
    rounds (.start child) (frame :: below) < rounds frame below := by
  have hrounds := frame.roundsFrom_eq frame.done.size child h
  simp only [rounds, List.foldr_cons, hrounds]
  simp only [Frame.start, Array.size_empty]
  omega

theorem rounds_push_lt (frame parent : Frame) (copy : Node) (rest : List Frame) :
    rounds (parent.push copy) rest < rounds frame (parent :: rest) := by
  have hself : 0 < frame.roundsFrom frame.done.size := by simp only [Frame.roundsFrom]; omega
  have hparent : (parent.push copy).roundsFrom (parent.push copy).done.size =
      parent.roundsFrom (parent.done.size + 1) := by
    simp only [Frame.push, Frame.roundsFrom, Array.size_push]
  simp only [rounds, List.foldr_cons, hparent]
  omega

/-- Copies what is left of the innermost frame, and then of the frames around it. -/
def run (f : Token → Token) (frame : Frame) (below : List Frame) : Node :=
  match _h : frame.node.children[frame.done.size]? with
  | some child => run f (.start child) (frame :: below)
  | none =>
    match below with
    | [] => frame.finish f
    | parent :: rest => run f (parent.push (frame.finish f)) rest
termination_by rounds frame below
decreasing_by
  · exact rounds_start_lt below _h
  · exact rounds_push_lt frame parent _ rest

/-- The same for an `f` that has no result for some tokens. -/
def run? (f : Token → Option Token) (frame : Frame) (below : List Frame) : Option Node :=
  match _h : frame.node.children[frame.done.size]? with
  | some child => run? f (.start child) (frame :: below)
  | none =>
    match frame.finish? f, below with
    | none, _ => none
    | some copy, [] => some copy
    | some copy, parent :: rest => run? f (parent.push copy) rest
termination_by rounds frame below
decreasing_by
  · exact rounds_start_lt below _h
  · exact rounds_push_lt frame parent _ rest

end Rebuild

/-- The tree with every token changed. -/
def Node.rebuild (f : Token → Token) (node : Node) : Node :=
  Rebuild.run f (.start node) []

def Node.rebuild? (f : Token → Option Token) (node : Node) : Option Node :=
  Rebuild.run? f (.start node) []

end Graft
