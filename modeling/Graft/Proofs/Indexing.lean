import Graft.Anchor.Index
import Graft.Proofs.Tables

/-! # Tables and indices are exact

A table is filled from a stack that holds every node twice, and a child without an anchor would be
left out of the digest of its parent without a word. Here no child is ever missing, whatever nodes
stand at several places of the tree.
-/

namespace Graft

namespace Node

/-- An identity stands for one node. -/
def Identified (nodes : List Node) : Prop :=
  ∀ a ∈ nodes, ∀ b ∈ nodes, a.id = b.id → a = b

theorem Identified.mono {nodes others : List Node} (h : Identified nodes) (hsub : others ⊆ nodes) :
    Identified others :=
  fun a ha b hb => h a (hsub ha) b (hsub hb)

/-! ## The order of a table -/

mutual
/-- The nodes in the order in which they get their anchors: the last child first, and each node
after its children. -/
def postorder : Node → List Node
  | ⟨id, category, grammar, token, children⟩ =>
    postorderAll children ++ [⟨id, category, grammar, token, children⟩]

def postorderAll : List Node → List Node
  | [] => []
  | node :: rest => postorderAll rest ++ postorder node
end

mutual
theorem mem_postorder : ∀ root node : Node, node ∈ root.postorder ↔ node ∈ root.preorder
  | ⟨id, category, grammar, token, children⟩, node => by
    rw [postorder, preorder, List.mem_append, List.mem_singleton, mem_postorderAll children node,
      List.mem_cons, or_comm]

theorem mem_postorderAll : ∀ (nodes : List Node) (node : Node),
    node ∈ postorderAll nodes ↔ node ∈ preorderAll nodes
  | [], _ => Iff.rfl
  | first :: rest, node => by
    rw [postorderAll, preorderAll, List.mem_append, List.mem_append, mem_postorder first node,
      mem_postorderAll rest node, or_comm]
end

end Node

namespace AnchorTable

/-! ## Rounds of the stack -/

/-- Enters the anchors of some nodes in turn. -/
def record (known : Std.HashMap NodeId Anchor) (nodes : List Node) : Std.HashMap NodeId Anchor :=
  nodes.foldl (fun m node => m.insert node.id node.anchor) known

theorem record_append (known : Std.HashMap NodeId Anchor) (nodes others : List Node) :
    record known (nodes ++ others) = record (record known nodes) others :=
  List.foldl_append

theorem getElem?_record {nodes : List Node} (h : Node.Identified nodes) {node : Node}
    (hmem : node ∈ nodes) (known : Std.HashMap NodeId Anchor) :
    (record known nodes)[node.id]? = some node.anchor := by
  have hagree : ∀ other ∈ nodes, other.id = node.id → other.anchor = node.anchor := by
    intro other hother hid
    rw [h other hother node hmem hid]
  rw [record, Table.getElem?_foldl_insert Node.id Node.anchor known hagree,
    if_pos (List.mem_map_of_mem hmem)]

theorem mem_record_empty (nodes : List Node) (id : NodeId) :
    id ∈ record ∅ nodes ↔ id ∈ nodes.map Node.id := by
  rw [record, Table.mem_foldl_insert Node.id Node.anchor]
  simp

/-- With the children recorded, none of them is missing from the digest of a node. -/
theorem digest_record {node : Node} (h : Node.Identified (Node.preorderAll node.children))
    (known : Std.HashMap NodeId Anchor) :
    digest (record known (Node.postorderAll node.children)) node = node.anchor := by
  have hidentified : Node.Identified (Node.postorderAll node.children) :=
    h.mono fun other => (Node.mem_postorderAll _ other).mp
  have hknown : ∀ child ∈ node.children,
      (record known (Node.postorderAll node.children))[child.id]? = some child.anchor := by
    intro child hchild
    apply getElem?_record hidentified
    rw [Node.mem_postorderAll]
    exact Node.preorder_subset_preorderAll hchild child.self_mem_preorder
  rw [digest, Node.anchor_eq, List.filterMap_congr hknown, List.filterMap_eq_map']

mutual
theorem fill_node : ∀ (node : Node) (known : Std.HashMap NodeId Anchor) (rest : List Task),
    Node.Identified node.preorder →
      fill known (⟨node, false⟩ :: rest) = fill (record known node.postorder) rest
  | ⟨id, category, grammar, token, children⟩, known, rest, h => by
    have hbelow : Node.Identified (Node.preorderAll children) :=
      h.mono (List.subset_cons_self _ _)
    rw [fill, Task.expand, List.append_assoc, fill_nodes children _ _ hbelow, List.singleton_append,
      fill]
    have hdigest := @digest_record ⟨id, category, grammar, token, children⟩ hbelow known
    rw [hdigest, Node.postorder, record_append]
    rfl

theorem fill_nodes : ∀ (nodes : List Node) (known : Std.HashMap NodeId Anchor) (rest : List Task),
    Node.Identified (Node.preorderAll nodes) →
      fill known ((nodes.map fun node => ⟨node, false⟩).reverse ++ rest) =
        fill (record known (Node.postorderAll nodes)) rest
  | [], _, _, _ => rfl
  | node :: others, known, rest, h => by
    rw [Node.preorderAll] at h
    rw [List.map_cons, List.reverse_cons, List.append_assoc, List.singleton_append,
      fill_nodes others _ _ (h.mono (List.subset_append_right _ _)),
      fill_node node _ _ (h.mono (List.subset_append_left _ _)), Node.postorderAll, record_append]
end

theorem anchors_build {root : Node} (h : Node.Identified root.preorder) :
    (build root).anchors = record ∅ root.postorder := by
  rw [build, fill_node root ∅ [] h, fill]

theorem mem_anchors_build {root : Node} (h : Node.Identified root.preorder) (id : NodeId) :
    id ∈ (build root).anchors ↔ id ∈ root.preorder.map Node.id := by
  rw [anchors_build h, mem_record_empty, List.mem_map, List.mem_map]
  simp only [Node.mem_postorder]

theorem get?_build {root : Node} (h : Node.Identified root.preorder) {node : Node}
    (hmem : node ∈ root.preorder) : (build root).get? node = some node.anchor := by
  have hidentified : Node.Identified root.postorder :=
    h.mono fun other => (Node.mem_postorder root other).mp
  rw [get?, anchors_build h]
  exact getElem?_record hidentified ((Node.mem_postorder root node).mpr hmem) ∅

theorem get?_build_of_not_mem {root : Node} (h : Node.Identified root.preorder) {node : Node}
    (hmem : node.id ∉ root.preorder.map Node.id) : (build root).get? node = none := by
  rw [← mem_anchors_build h] at hmem
  exact Std.HashMap.getElem?_eq_none hmem

theorem size_build {root : Node} (h : Node.Identified root.preorder) :
    (build root).size = (root.preorder.map Node.id).toFinset.card :=
  Table.size_eq_card _ (mem_anchors_build h)

theorem anchorOf_eq {node : Node} (h : Node.Identified node.preorder) :
    anchorOf node = node.anchor := by
  rw [anchorOf, get?_build h node.self_mem_preorder, Option.getD_some]

end AnchorTable

/-! ## Indices -/

namespace AnchorIndex

theorem collect_eq_foldl (table : AnchorTable) (m : Std.HashMap Anchor Node) (stack : List Node) :
    collect table m stack = (Node.preorderAll stack).foldl (add table) m := by
  fun_induction collect table m stack with
  | case1 m => rfl
  | case2 m node rest ih =>
    rw [ih, Node.preorderAll_append, Node.preorderAll, Node.preorder_eq, List.cons_append,
      List.foldl_cons]

theorem foldl_add {table : AnchorTable} {nodes : List Node}
    (h : ∀ node ∈ nodes, table.get? node = some node.anchor) (m : Std.HashMap Anchor Node) :
    nodes.foldl (add table) m = nodes.foldl (fun m node => m.insertIfNew node.anchor node) m := by
  apply List.foldl_ext
  intro m node hnode
  rw [add, h node hnode]

theorem get?_build {root : Node} (h : Node.Identified root.preorder) (anchor : Anchor) :
    (build root).get? anchor = root.preorder.find? (·.anchor == anchor) := by
  have hknown : ∀ node ∈ root.preorder, (AnchorTable.build root).get? node = some node.anchor :=
    fun node hnode => AnchorTable.get?_build h hnode
  rw [get?, build, ofTable, collect_eq_foldl, Node.preorderAll, Node.preorderAll, List.append_nil,
    foldl_add hknown, Table.getElem?_foldl_insertIfNew Node.anchor]
  simp

theorem isSome_get?_build {root : Node} (h : Node.Identified root.preorder) (anchor : Anchor) :
    ((build root).get? anchor).isSome ↔ anchor ∈ root.preorder.map Node.anchor := by
  rw [get?_build h, List.find?_isSome, List.mem_map]
  simp only [beq_iff_eq]

theorem size_build {root : Node} (h : Node.Identified root.preorder) :
    (build root).size = (root.preorder.map Node.anchor).toFinset.card := by
  apply Table.size_eq_card
  intro anchor
  rw [← isSome_get?_build h, get?, Std.HashMap.isSome_getElem?_iff_mem]

end AnchorIndex

end Graft
