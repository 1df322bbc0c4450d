import Graft.Proofs.Comparison
import Graft.Proofs.Content

/-! # Maps that keep the shape of a tree

Anchors are made of kinds and significant texts. Identities and tokens do not go in. So a map of
nodes that touches nothing else is not seen by the comparison, apart from the bodies that it
proposes, which are the mapped ones.
-/

namespace Graft

namespace Operation

/-- The operation with its payload mapped. -/
def map (f : Node → Node) : Operation → Operation
  | .replaceBody target body => .replaceBody target (f body)
  | .addNode target node => .addNode target (f node)
  | .removeNode target => .removeNode target

@[simp] theorem target_map (f : Node → Node) (operation : Operation) :
    (operation.map f).target = operation.target := by
  cases operation <;> rfl

@[simp] theorem name_map (f : Node → Node) (operation : Operation) :
    (operation.map f).name = operation.name := by
  cases operation <;> rfl

end Operation

namespace Node

structure KeepsShape (f : Node → Node) : Prop where
  category : ∀ node, (f node).category = node.category
  grammar : ∀ node, (f node).grammar = node.grammar
  children : ∀ node, (f node).children = node.children.map f

theorem keepsShape_content : KeepsShape content where
  category node := by rw [content_eq]
  grammar node := by rw [content_eq]
  children node := by rw [content_eq]

namespace KeepsShape

variable {f : Node → Node}

theorem body?_map (h : KeepsShape f) (node : Node) : (f node).body? = node.body?.map f := by
  rw [body?, body?, h.category, h.children]
  cases node.category.body? <;> simp

-- Over the tree: what is hashed for a node are its labels, which stay, and the anchors below it.
mutual
theorem anchor_map (h : KeepsShape f) : ∀ node : Node, (f node).anchor = node.anchor
  | ⟨id, category, grammar, token, children⟩ => by
    rw [anchor_eq, anchor_eq, h.grammar, h.children, significant, significant, h.category,
      anchors_map h children]

theorem anchors_map (h : KeepsShape f) :
    ∀ nodes : List Node, (nodes.map f).map anchor = nodes.map anchor
  | [] => rfl
  | node :: rest => by
    rw [List.map_cons, List.map_cons, List.map_cons, anchor_map h node, anchors_map h rest]
end

/-! ## The comparison -/

theorem change_map_left (h : KeepsShape f) (old new : Node) :
    change (f old) new = change old new := by
  simp only [change, changedBody?, h.category, h.body?_map, h.anchor_map]
  cases old.category.body? <;> cases old.body? <;> cases new.body? <;>
    simp only [Option.map_some, Option.map_none, h.anchor_map]

theorem change_map_right (h : KeepsShape f) (old new : Node) :
    change old (f new) = (change old new).map (Operation.map f) := by
  simp only [change, changedBody?, h.body?_map]
  cases old.category.body? with
  | none => rfl
  | some index =>
    cases old.body? with
    | none => rfl
    | some oldBody =>
      cases new.body? with
      | none => rfl
      | some newBody =>
        simp only [Option.map_some, h.anchor_map]
        split <;> rfl

mutual
theorem changes_map_left (h : KeepsShape f) : ∀ old new : Node,
    (f old).changes new = old.changes new
  | ⟨id, category, grammar, token, children⟩, new => by
    rw [changes_eq, changes_eq, h.anchor_map, h.change_map_left, h.children,
      changesAll_map_left h children new.children]

theorem changesAll_map_left (h : KeepsShape f) : ∀ olds news : List Node,
    changesAll (olds.map f) news = changesAll olds news
  | old :: olds, new :: news => by
    rw [List.map_cons, changesAll, changesAll, changes_map_left h old new,
      changesAll_map_left h olds news]
  | [], _ => by simp [changesAll]
  | _ :: _, [] => by simp [changesAll]
end

mutual
theorem changes_map_right (h : KeepsShape f) : ∀ old new : Node,
    old.changes (f new) = (old.changes new).map (Operation.map f)
  | ⟨id, category, grammar, token, children⟩, new => by
    rw [changes_eq, changes_eq, h.anchor_map, h.change_map_right, h.children,
      changesAll_map_right h children new.children]
    split
    · rfl
    · rw [List.map_append]

theorem changesAll_map_right (h : KeepsShape f) : ∀ olds news : List Node,
    changesAll olds (news.map f) = (changesAll olds news).map (Operation.map f)
  | old :: olds, new :: news => by
    rw [List.map_cons, changesAll, changesAll, changes_map_right h old new,
      changesAll_map_right h olds news, List.map_append]
  | [], _ => by simp [changesAll]
  | _ :: _, [] => by simp [changesAll]
end

end KeepsShape

/-- The first tree matters by its content only. -/
theorem changes_eq_of_content {a b : Node} (h : a.content = b.content) (new : Node) :
    a.changes new = b.changes new := by
  rw [← keepsShape_content.changes_map_left a new, h, keepsShape_content.changes_map_left b new]

end Node

end Graft
