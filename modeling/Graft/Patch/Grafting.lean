import Graft.Log.Event
import Graft.Patch.Operation
import Graft.Syntax.Document

/-! # Grafting

The operations of a patch are put into a tree by anchor. The tree is walked from its root. A node
that gets a new body is done with: nothing inside it is visited. Every other node is walked through,
and it is made anew only if something below it was. What is not made anew is shared with the tree
before.

The walk keeps a stack of its own, so that deep trees do not need deep calls.
-/

namespace Graft

namespace Grafting

/-! ## One node -/

/-- A payload as a block. A payload that is no block is wrapped in one. -/
def asBlock (next : NodeId) (body : Node) : Node × NodeId :=
  if body.isBlock then (body, next) else (Node.blockAround next body, next + 3)

def replaceBody? (next : NodeId) (node : Node) (index : Nat) (body : Node) :
    Option (Node × NodeId) :=
  let (block, after) := asBlock next body
  (node.withChild? after index block).map (·, after + 1)

structure Replacement where
  node : Node
  /-- The position of the operation that did it. -/
  position : Nat
  next : NodeId

/-- Tries the operation that the table has for an anchor, and reports what came of it. -/
def attempt (table : Std.HashMap Anchor (Operation × Nat)) (next : NodeId) (anchor : Anchor)
    (node : Node) : Option Replacement × List Event :=
  match table[anchor]? with
  | none => (none, [])
  | some (.replaceBody _ body, position) =>
    match node.category.body? with
    | none => (none, [.noBody anchor node.grammar])
    | some index =>
      match replaceBody? next node index body with
      | none => (none, [])
      | some (node, after) => (some ⟨node, position, after⟩, [.bodyReplaced anchor])
  | some (operation, _) => (none, [.notApplied anchor operation.name])

structure Pass where
  /-- For every operation, whether it replaced a body. -/
  used : Array Bool
  applied : Nat
  next : NodeId
  events : Array Event

/-- What a walk does with a node that it comes to. -/
inductive Visit where
  /-- Nothing: it has no children. -/
  | keep
  | replace (node : Node)
  | descend

/-- What comes of an attempt. `isLeaf` says whether the node has no children. -/
def Pass.take (pass : Pass) (isLeaf : Bool) : Option Replacement × List Event → Pass × Visit
  | (some replacement, events) =>
    ({ used := pass.used.setIfInBounds replacement.position true
       applied := pass.applied + 1
       next := replacement.next
       events := pass.events ++ events }, .replace replacement.node)
  | (none, events) =>
    ({ pass with events := pass.events ++ events }, if isLeaf then .keep else .descend)

def visit (table : Std.HashMap Anchor (Operation × Nat)) (pass : Pass) (tree : Anchored) :
    Pass × Visit :=
  pass.take tree.children.isEmpty (attempt table pass.next tree.anchor tree.node)

/-! ## The walk

What it goes through stands for nodes, with or without their anchors.
-/

class Walkable (α : Type) where
  node : α → Node
  children : α → List α
  size : α → Nat
  size_eq (tree : α) :
    size tree = 1 + (children tree).foldr (fun child total => size child + total) 0

instance : Walkable Anchored where
  node := Anchored.node
  children := Anchored.children
  size := Anchored.size
  size_eq tree := by rw [tree.size_eq, Anchored.sizeAll_eq_foldr]

open Walkable

variable {α : Type} [Walkable α]

/-- A node whose children are being visited. -/
structure Frame (α : Type) where
  tree : α
  cursor : Nat
  /-- What the children before it have become. -/
  children : Array Node
  /-- Whether one of them was made anew. -/
  changed : Bool

namespace Frame

def start (tree : α) : Frame α :=
  ⟨tree, 0, #[], false⟩

def push (frame : Frame α) (child : Node) (changed : Bool) : Frame α :=
  { frame with children := frame.children.push child, changed := frame.changed || changed }

/-- The node of a frame when all its children were visited, whether it was made anew, and the first
identity not yet used. -/
def finish (frame : Frame α) (next : NodeId) : Node × Bool × NodeId :=
  if frame.changed then
    ((node frame.tree).withChildren next frame.children.toList, true, next + 1)
  else (node frame.tree, false, next)

/-- The rounds that a frame takes, at most: one for itself, and two for every node below it that
was not visited. -/
def rounds (frame : Frame α) : Nat :=
  1 + 2 * ((Walkable.children frame.tree).drop frame.cursor).foldr
    (fun child total => size child + total) 0

@[simp] theorem rounds_push (frame : Frame α) (child : Node) (changed : Bool) :
    (frame.push child changed).rounds = frame.rounds := rfl

theorem rounds_start (tree : α) : (start tree).rounds + 1 = 2 * size tree := by
  simp only [rounds, start, List.drop_zero, size_eq tree]
  omega

theorem rounds_eq (frame : Frame α) (child : α)
    (h : (Walkable.children frame.tree)[frame.cursor]? = some child) :
    frame.rounds = 2 * size child + { frame with cursor := frame.cursor + 1 }.rounds := by
  obtain ⟨hlt, rfl⟩ := List.getElem?_eq_some_iff.mp h
  simp only [rounds]
  rw [List.drop_eq_getElem_cons hlt, List.foldr_cons]
  omega

end Frame

structure Walk (α : Type) where
  /-- The nodes that are not finished, the innermost first. -/
  stack : List (Frame α)
  pass : Pass
  /-- The root, as soon as the stack is empty. -/
  root : Node

namespace Walk

def start (visit : Pass → α → Pass × Visit) (pass : Pass) (tree : α) : Walk α :=
  match visit pass tree with
  | (pass, .keep) => ⟨[], pass, node tree⟩
  | (pass, .replace node) => ⟨[], pass, node⟩
  | (pass, .descend) => ⟨[Frame.start tree], pass, node tree⟩

/-- One round: the innermost frame takes its next child, or it is finished and its node goes to the
frame around it. -/
def advance (visit : Pass → α → Pass × Visit) (walk : Walk α) (frame : Frame α)
    (below : List (Frame α)) : Walk α :=
  match (children frame.tree)[frame.cursor]? with
  | some child =>
    let moved := { frame with cursor := frame.cursor + 1 }
    match visit walk.pass child with
    | (pass, .keep) => ⟨moved.push (node child) false :: below, pass, walk.root⟩
    | (pass, .replace node) => ⟨moved.push node true :: below, pass, walk.root⟩
    | (pass, .descend) => ⟨Frame.start child :: moved :: below, pass, walk.root⟩
  | none =>
    let (node, changed, next) := frame.finish walk.pass.next
    let pass := { walk.pass with next := next }
    match below with
    | [] => ⟨[], pass, node⟩
    | parent :: rest => ⟨parent.push node changed :: rest, pass, walk.root⟩

def rounds (walk : Walk α) : Nat :=
  walk.stack.foldr (fun frame total => frame.rounds + total) 0

theorem rounds_advance_lt (visit : Pass → α → Pass × Visit) (walk : Walk α)
    (frame : Frame α) (below : List (Frame α)) (h : walk.stack = frame :: below) :
    (walk.advance visit frame below).rounds < walk.rounds := by
  unfold advance
  split
  · next child hchild =>
    have hframe := frame.rounds_eq child hchild
    have hchild := Frame.rounds_start child
    split <;> simp only [rounds, h, List.foldr_cons, Frame.rounds_push] <;> omega
  · have hframe : 0 < frame.rounds := by simp only [Frame.rounds]; omega
    cases below with
    | nil => simpa [rounds, h] using hframe
    | cons parent rest => simpa [rounds, h] using hframe

def run (visit : Pass → α → Pass × Visit) (walk : Walk α) : Walk α :=
  match _h : walk.stack with
  | [] => walk
  | frame :: below => run visit (walk.advance visit frame below)
termination_by walk.rounds
decreasing_by exact rounds_advance_lt visit walk frame below _h

end Walk

end Grafting

/-! ## Documents -/

/-- A patched document, with what became of the operations. -/
structure Grafting where
  document : Document
  applied : Nat
  skipped : Nat
  events : List Event
  next : NodeId

namespace Grafting

/-- A pass in which nothing has happened yet. -/
def Pass.fresh (patch : Patch) (next : NodeId) : Pass :=
  ⟨Array.replicate patch.operations.length false, 0, next, #[]⟩

def ofWalk {α : Type} (document : Document) (patch : Patch) (walk : Walk α) : Grafting :=
  let skipped := walk.pass.used.countP (!·)
  { document := document.withRoot walk.root
    applied := walk.pass.applied
    skipped := skipped
    events := walk.pass.events.toList ++ [.patchExecuted patch.file walk.pass.applied skipped]
    next := walk.pass.next }

end Grafting

/-- Puts a patch into a document. New nodes are numbered from `next` on. -/
def Document.graft (document : Document) (patch : Patch) (next : NodeId) : Grafting :=
  let visit := Grafting.visit (Patch.table patch.operations)
  let walk := Grafting.Walk.start visit (.fresh patch next) (Anchored.ofNode document.root)
  .ofWalk document patch (walk.run visit)

end Graft
