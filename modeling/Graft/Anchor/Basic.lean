import Graft.Hash.Sha256
import Graft.Syntax.Node
import Graft.Text.Slice

/-! # Anchors

The anchor of a node is the digest of its grammar kind, its significant text and the anchors of its
children, with nothing between them. It knows no position and no trivia, so equal subtrees share it
wherever they stand.
-/

namespace Graft

structure Anchor where
  words : Sha256.Words
deriving DecidableEq, Hashable, Repr, Inhabited

namespace Anchor

def digits (anchor : Anchor) : List Char :=
  anchor.words.digits

def hex (anchor : Anchor) : String :=
  String.ofList anchor.digits

def hexLength : Nat := 64

/-- The first `n` digits, or all of them when there are not that many. -/
def short (anchor : Anchor) (n : Nat) : String :=
  if n ≤ hexLength then String.ofList (anchor.digits.take n) else anchor.hex

/-- The digits of an anchor that are shown to readers. -/
def brief (anchor : Anchor) : String :=
  anchor.short 12

/-- The bytes that are hashed for a node. -/
def preimage (kind text : String) (children : List Anchor) : List UInt8 :=
  Text.bytes kind ++ Text.bytes text ++
    children.flatMap fun child => child.digits.map Char.toUInt8

def digest (kind text : String) (children : List Anchor) : Anchor :=
  ⟨Sha256.hash (preimage kind text children)⟩

theorem length_digits (anchor : Anchor) : anchor.digits.length = hexLength := by
  simp [digits, Sha256.Words.digits, Sha256.Words.toList, Sha256.hexWord, hexLength]

end Anchor

namespace Node

mutual
def anchor : Node → Anchor
  | ⟨_, category, grammar, _, children⟩ =>
    Anchor.digest grammar category.significant (anchors children)

def anchors : List Node → List Anchor
  | [] => []
  | node :: rest => anchor node :: anchors rest
end

theorem anchors_eq_map (nodes : List Node) : anchors nodes = nodes.map anchor := by
  induction nodes with
  | nil => rfl
  | cons node rest ih => simp [anchors, ih]

theorem anchor_eq (node : Node) :
    node.anchor = Anchor.digest node.grammar node.significant (node.children.map anchor) := by
  cases node
  rw [anchor, anchors_eq_map, significant]

end Node

/-! ## Trees with their anchors -/

/-- A node with the anchors of itself and of all below it written down. -/
structure Anchored where
  node : Node
  anchor : Anchor
  children : List Anchored
deriving Inhabited

namespace Anchored

mutual
def ofNode : Node → Anchored
  | node@⟨_, category, grammar, _, children⟩ =>
    let below := ofNodes children
    ⟨node, Anchor.digest grammar category.significant (below.map (·.anchor)), below⟩

def ofNodes : List Node → List Anchored
  | [] => []
  | node :: rest => ofNode node :: ofNodes rest
end

@[simp] theorem node_ofNode (node : Node) : (ofNode node).node = node := by
  cases node
  rfl

-- What is written down is the anchor.
mutual
@[simp] theorem anchor_ofNode : ∀ node : Node, (ofNode node).anchor = node.anchor
  | ⟨_, _, _, _, children⟩ => by simp [ofNode, Node.anchor, map_anchor_ofNodes children]

theorem map_anchor_ofNodes :
    ∀ nodes : List Node, (ofNodes nodes).map (·.anchor) = Node.anchors nodes
  | [] => rfl
  | node :: rest => by simp [ofNodes, Node.anchors, anchor_ofNode node, map_anchor_ofNodes rest]
end

theorem ofNode_eq (node : Node) : ofNode node = ⟨node, node.anchor, ofNodes node.children⟩ := by
  rw [← anchor_ofNode node]
  cases node
  rfl

@[simp] theorem children_ofNode (node : Node) :
    (ofNode node).children = ofNodes node.children := by
  rw [ofNode_eq]

theorem ofNodes_eq_map (nodes : List Node) : ofNodes nodes = nodes.map ofNode := by
  induction nodes with
  | nil => rfl
  | cons node rest ih => simp [ofNodes, ih]

def body? (tree : Anchored) : Option Anchored :=
  tree.node.category.body?.bind fun index => tree.children[index]?

mutual
def preorder : Anchored → List Anchored
  | tree@⟨_, _, children⟩ => tree :: preorderAll children

def preorderAll : List Anchored → List Anchored
  | [] => []
  | tree :: rest => preorder tree ++ preorderAll rest
end

mutual
def size : Anchored → Nat
  | ⟨_, _, children⟩ => 1 + sizeAll children

def sizeAll : List Anchored → Nat
  | [] => 0
  | tree :: rest => size tree + sizeAll rest
end

theorem size_eq (tree : Anchored) : tree.size = 1 + sizeAll tree.children := by
  cases tree
  rfl

theorem sizeAll_eq_foldr (trees : List Anchored) :
    sizeAll trees = trees.foldr (fun tree total => tree.size + total) 0 := by
  induction trees with
  | nil => rfl
  | cons tree rest ih => rw [sizeAll, List.foldr_cons, ih]

theorem sizeAll_append (trees others : List Anchored) :
    sizeAll (trees ++ others) = sizeAll trees + sizeAll others := by
  induction trees with
  | nil => simp [sizeAll]
  | cons tree rest ih => simp [sizeAll, ih]; omega

theorem sizeAll_map_fst_zip_le (trees others : List Anchored) :
    sizeAll ((trees.zip others).map (·.1)) ≤ sizeAll trees := by
  induction trees generalizing others with
  | nil => simp
  | cons tree rest ih =>
    cases others with
    | nil => simp [sizeAll]
    | cons other others =>
      have := ih others
      simp only [List.zip_cons_cons, List.map_cons, sizeAll]
      omega

end Anchored

end Graft
