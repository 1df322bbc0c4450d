import Graft.Syntax.Category

/-! # Syntax nodes

A node is a value with an identity. Two nodes of equal content are still two nodes when they were
made apart, and one node may stand at several places of a tree. Everything but the identity tables
looks at the content only.
-/

namespace Graft

/-- A token, with the text between it and the token before it. -/
structure Token where
  leading : String
  text : String
deriving DecidableEq, Repr, Inhabited

/-- What tells nodes apart. Identities are handed out in order, so any number from some point on is
unused. -/
abbrev NodeId := Nat

structure Node where
  id : NodeId
  category : Category
  grammar : String
  token : Option Token
  children : List Node
deriving Repr, Inhabited

/-- What comes next in a list that is gone through by positions. -/
theorem next_of_drop {α : Type} {l rest : List α} {a : α} {n : Nat} (h : l.drop n = a :: rest) :
    l[n]? = some a ∧ l.drop (n + 1) = rest :=
  ⟨by rw [← List.head?_drop, h, List.head?_cons], by rw [← List.tail_drop, h, List.tail_cons]⟩

namespace Node

/-! ## Making nodes -/

def leaf (id : NodeId) (grammar : String) (token : Token) : Node :=
  ⟨id, .other, grammar, some token, []⟩

def branch (id : NodeId) (category : Category) (grammar : String) (children : List Node) : Node :=
  ⟨id, category, grammar, none, children⟩

def blockKind : String := "statement_block"

/-- A block that holds one statement. It takes three identities. -/
def blockAround (id : NodeId) (statement : Node) : Node :=
  branch id .other blockKind
    [leaf (id + 1) "\x7b" ⟨" ", "\x7b"⟩, statement, leaf (id + 2) "\x7d" ⟨"\n", "\x7d"⟩]

/-- The node with other children, as a new node. -/
def withChildren (node : Node) (id : NodeId) (children : List Node) : Node :=
  ⟨id, node.category, node.grammar, node.token, children⟩

/-- The node with one child replaced, as a new node. -/
def withChild? (node : Node) (id : NodeId) (index : Nat) (child : Node) : Option Node :=
  if index < node.children.length then
    some (node.withChildren id (node.children.set index child))
  else none

/-! ## Reading nodes -/

def isBlock (node : Node) : Bool :=
  node.grammar == blockKind

def isFunction (node : Node) : Bool :=
  node.category.isFunction

def body? (node : Node) : Option Node :=
  node.category.body?.bind fun index => node.children[index]?

def significant (node : Node) : String :=
  node.category.significant

def described (node : Node) : String :=
  if node.significant = "" then node.grammar else node.significant

mutual
/-- The node and all below it, each before its children. -/
def preorder : Node → List Node
  | node@⟨_, _, _, _, children⟩ => node :: preorderAll children

def preorderAll : List Node → List Node
  | [] => []
  | node :: rest => preorder node ++ preorderAll rest
end

theorem preorder_eq (node : Node) : node.preorder = node :: preorderAll node.children := by
  cases node
  rfl

theorem preorderAll_eq_flatMap (nodes : List Node) :
    preorderAll nodes = nodes.flatMap preorder := by
  induction nodes with
  | nil => rfl
  | cons node rest ih => simp [preorderAll, ih]

theorem preorderAll_append (nodes others : List Node) :
    preorderAll (nodes ++ others) = preorderAll nodes ++ preorderAll others := by
  simp only [preorderAll_eq_flatMap, List.flatMap_append]

@[simp] theorem self_mem_preorder (node : Node) : node ∈ node.preorder := by
  rw [preorder_eq]
  exact List.mem_cons_self

theorem preorder_subset_preorderAll {nodes : List Node} {node : Node} (h : node ∈ nodes) :
    node.preorder ⊆ preorderAll nodes := by
  intro other hother
  rw [preorderAll_eq_flatMap]
  exact List.mem_flatMap.mpr ⟨node, h, hother⟩

-- Everything below a node of a tree is in the tree.
mutual
theorem preorder_subset_of_mem : ∀ root node : Node, node ∈ root.preorder →
    node.preorder ⊆ root.preorder
  | ⟨id, category, grammar, token, children⟩, node, h => by
    rw [preorder, List.mem_cons] at h
    rcases h with rfl | h
    · exact List.Subset.refl _
    · intro other hother
      exact List.mem_cons_of_mem _ (preorder_subset_preorderAll_of_mem children node h hother)

theorem preorder_subset_preorderAll_of_mem : ∀ (nodes : List Node) (node : Node),
    node ∈ preorderAll nodes → node.preorder ⊆ preorderAll nodes
  | [], _, h => by cases h
  | first :: rest, node, h => by
    rw [preorderAll, List.mem_append] at h
    rw [preorderAll]
    rcases h with h | h
    · exact fun _ hother => List.mem_append_left _ (preorder_subset_of_mem first node h hother)
    · exact fun _ hother =>
        List.mem_append_right _ (preorder_subset_preorderAll_of_mem rest node h hother)
end

def tokens (node : Node) : List Token :=
  node.preorder.filterMap (·.token)

theorem tokens_eq (node : Node) :
    node.tokens = node.token.toList ++ node.children.flatMap tokens := by
  have hall : ∀ nodes : List Node,
      (nodes.flatMap preorder).filterMap (·.token) = nodes.flatMap tokens := by
    intro nodes
    induction nodes with
    | nil => rfl
    | cons node rest ih => simp [tokens, ih]
  rw [tokens, preorder_eq, preorderAll_eq_flatMap, List.filterMap_cons, hall]
  cases node.token <;> rfl

/-- Adds a word to a line of words. Empty words leave no gap. -/
def addWord (line word : String) : String :=
  if line ≠ "" ∧ word ≠ "" then line ++ " " ++ word else line ++ word

/-- The token texts with single spaces between them. -/
def text (node : Node) : String :=
  (node.tokens.map (·.text)).foldl addWord ""

/-! ## Changing every node -/

mutual
/-- Gives every node a new identity, in preorder from `next` on. -/
def numbered (next : NodeId) : Node → Node × NodeId
  | ⟨_, category, grammar, token, children⟩ =>
    let (below, after) := numberedAll (next + 1) children
    (⟨next, category, grammar, token, below⟩, after)

def numberedAll (next : NodeId) : List Node → List Node × NodeId
  | [] => ([], next)
  | node :: rest =>
    let (first, middle) := numbered next node
    let (others, after) := numberedAll middle rest
    (first :: others, after)
end

-- A new identity is all that numbering gives.
mutual
@[simp] theorem tokens_numbered (next : NodeId) :
    ∀ node : Node, (numbered next node).1.tokens = node.tokens
  | ⟨_, _, _, _, children⟩ => by
    simp only [numbered, tokens, preorder, List.filterMap_cons]
    rw [tokens_numberedAll (next + 1) children]

theorem tokens_numberedAll (next : NodeId) : ∀ nodes : List Node,
    (preorderAll (numberedAll next nodes).1).filterMap (·.token) =
      (preorderAll nodes).filterMap (·.token)
  | [] => rfl
  | node :: rest => by
    have h := tokens_numbered next node
    have hs := tokens_numberedAll (numbered next node).2 rest
    simp only [tokens] at h
    simp [numberedAll, preorderAll, List.filterMap_append, h, hs]
end

end Node

end Graft
