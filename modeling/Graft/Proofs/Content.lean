import Graft.Patch.Grafting

/-! # Content

The content of a node is the node without identities. Trees are compared by content wherever it does
not matter which nodes are shared.
-/

namespace Graft.Node

mutual
/-- The node with every identity set to zero. -/
def content : Node → Node
  | ⟨_, category, grammar, token, children⟩ => ⟨0, category, grammar, token, contents children⟩

def contents : List Node → List Node
  | [] => []
  | node :: rest => content node :: contents rest
end

theorem contents_eq_map (nodes : List Node) : contents nodes = nodes.map content := by
  induction nodes with
  | nil => rfl
  | cons node rest ih => simp [contents, ih]

theorem content_eq (node : Node) :
    node.content =
      ⟨0, node.category, node.grammar, node.token, node.children.map content⟩ := by
  cases node
  simp [content, contents_eq_map]

/-! ## What content decides -/

-- Tokens look at no identity.
mutual
@[simp] theorem tokens_content : ∀ node : Node, node.content.tokens = node.tokens
  | ⟨_, _, _, _, children⟩ => by
    simp only [content, tokens, preorder, List.filterMap_cons]
    rw [tokens_contents children]

theorem tokens_contents : ∀ nodes : List Node,
    (preorderAll (contents nodes)).filterMap (·.token) = (preorderAll nodes).filterMap (·.token)
  | [] => rfl
  | node :: rest => by
    have h := tokens_content node
    simp only [tokens] at h
    simp [contents, preorderAll, h, tokens_contents rest]
end

theorem tokens_eq_of_content {a b : Node} (h : a.content = b.content) : a.tokens = b.tokens := by
  rw [← tokens_content a, h, tokens_content b]

/-! ## New nodes -/

-- Numbering gives nothing but identities.
mutual
@[simp] theorem content_numbered (next : NodeId) : ∀ node : Node,
    (numbered next node).1.content = node.content
  | ⟨_, _, _, _, children⟩ => by
    simp only [numbered, content]
    rw [contents_numberedAll (next + 1) children]

theorem contents_numberedAll (next : NodeId) : ∀ nodes : List Node,
    contents (numberedAll next nodes).1 = contents nodes
  | [] => rfl
  | node :: rest => by
    simp only [numberedAll, contents]
    rw [content_numbered next node, contents_numberedAll _ rest]
end

theorem content_withChildren (node : Node) (id : NodeId) (children : List Node) :
    (node.withChildren id children).content =
      ⟨0, node.category, node.grammar, node.token, children.map content⟩ :=
  content_eq _

theorem content_blockAround (id other : NodeId) (statement : Node) :
    (blockAround id statement).content = (blockAround other statement).content := by
  simp [blockAround, branch, leaf, content, contents]

/-- A payload as a block. Which identities a wrapper takes is left to the one who puts it in. -/
def block (body : Node) : Node :=
  if body.isBlock then body else blockAround 0 body

theorem content_asBlock (next : NodeId) (body : Node) :
    (Grafting.asBlock next body).1.content = body.block.content := by
  unfold Grafting.asBlock block
  split
  · rfl
  · exact content_blockAround next 0 body

end Graft.Node
