import Std.Data.HashMap
import Graft.Anchor.Basic

/-! # Anchor tables and indices

A table gives the anchor of a node by its identity. An index gives the first node, in preorder,
that has an anchor. Both are filled by a walk with a stack of its own, so that deep trees do not
need deep calls.
-/

namespace Graft

/-! ## Tables -/

structure AnchorTable where
  anchors : Std.HashMap NodeId Anchor

namespace AnchorTable

/-- A node on the stack. It comes up twice: first to put its children above it, and again when they
are done with. -/
structure Task where
  node : Node
  ready : Bool

/-- The rounds that a task takes. -/
def Task.rounds : Task → Nat
  | ⟨node, false⟩ => 2 * node.preorder.length
  | ⟨_, true⟩ => 1

/-- The children of a node, and then the node itself. The last child comes first. -/
def Task.expand (node : Node) : List Task :=
  (node.children.map fun child => ⟨child, false⟩).reverse ++ [⟨node, true⟩]

def Task.roundsAll : List Task → Nat
  | [] => 0
  | task :: rest => task.rounds + roundsAll rest

theorem Task.roundsAll_append (tasks others : List Task) :
    roundsAll (tasks ++ others) = roundsAll tasks + roundsAll others := by
  induction tasks with
  | nil => simp [roundsAll]
  | cons task rest ih =>
    rw [List.cons_append, roundsAll, roundsAll, ih]
    omega

theorem Task.roundsAll_new (nodes : List Node) :
    roundsAll (nodes.map fun node => ⟨node, false⟩).reverse =
      2 * (Node.preorderAll nodes).length := by
  induction nodes with
  | nil => rfl
  | cons node rest ih =>
    rw [List.map_cons, List.reverse_cons, roundsAll_append, ih, Node.preorderAll,
      List.length_append]
    simp only [roundsAll, rounds]
    omega

theorem Task.roundsAll_expand (node : Node) :
    roundsAll (expand node) + 1 = rounds ⟨node, false⟩ := by
  rw [expand, roundsAll_append, roundsAll_new]
  simp only [roundsAll, rounds, Node.preorder_eq, List.length_cons]
  omega

/-- The anchor of a node by the anchors of its children that are known. -/
def digest (known : Std.HashMap NodeId Anchor) (node : Node) : Anchor :=
  Anchor.digest node.grammar node.significant
    (node.children.filterMap fun child => known[child.id]?)

def fill (known : Std.HashMap NodeId Anchor) (stack : List Task) : Std.HashMap NodeId Anchor :=
  match stack with
  | [] => known
  | ⟨node, true⟩ :: rest => fill (known.insert node.id (digest known node)) rest
  | ⟨node, false⟩ :: rest => fill known (Task.expand node ++ rest)
termination_by Task.roundsAll stack
decreasing_by
  · simp only [Task.roundsAll, Task.rounds]
    omega
  · have hexpand := Task.roundsAll_expand node
    rw [Task.roundsAll_append, Task.roundsAll]
    omega

def build (root : Node) : AnchorTable :=
  ⟨fill ∅ [⟨root, false⟩]⟩

/-- The anchor of a node, if it belongs to the tree of the table. -/
def get? (table : AnchorTable) (node : Node) : Option Anchor :=
  table.anchors[node.id]?

def size (table : AnchorTable) : Nat :=
  table.anchors.size

/-- The anchor of one node, by a table of its own. -/
def anchorOf (node : Node) : Anchor :=
  ((build node).get? node).getD (Anchor.digest node.grammar node.significant [])

end AnchorTable

/-! ## Indices -/

structure AnchorIndex where
  nodes : Std.HashMap Anchor Node

namespace AnchorIndex

/-- Keeps the node that came first. -/
def add (table : AnchorTable) (m : Std.HashMap Anchor Node) (node : Node) :
    Std.HashMap Anchor Node :=
  match table.get? node with
  | some anchor => m.insertIfNew anchor node
  | none => m

/-- Adds the nodes on the stack and all below them, each before its children. -/
def collect (table : AnchorTable) (m : Std.HashMap Anchor Node) (stack : List Node) :
    Std.HashMap Anchor Node :=
  match stack with
  | [] => m
  | node :: rest => collect table (add table m node) (node.children ++ rest)
termination_by (Node.preorderAll stack).length
decreasing_by
  rw [Node.preorderAll_append, Node.preorderAll, Node.preorder_eq, List.length_append,
    List.length_append, List.length_cons]
  omega

/-- Indexes the nodes of a tree that the table knows. -/
def ofTable (root : Node) (table : AnchorTable) : AnchorIndex :=
  ⟨collect table ∅ [root]⟩

def build (root : Node) : AnchorIndex :=
  ofTable root (AnchorTable.build root)

def get? (index : AnchorIndex) (anchor : Anchor) : Option Node :=
  index.nodes[anchor]?

def size (index : AnchorIndex) : Nat :=
  index.nodes.size

end AnchorIndex

end Graft
