import Graft.Language

/-! # Concrete trees

A concrete tree is what a parser delivers: every node with its place in the text, comments and
recovered errors among them.
-/

namespace Graft

/-- The roles of children that the tool asks for. -/
inductive Field where
  | name
  | body
  | condition
  | initializer
  | increment
deriving DecidableEq, Repr

structure Concrete where
  kind : String
  /-- The byte range in the text. -/
  start : Nat
  stop : Nat
  field : Option Field
  /-- Comments, and errors that the grammar has no place for. -/
  isExtra : Bool
  isError : Bool
  isMissing : Bool
  /-- Where the node starts, counted from zero, with columns in bytes. -/
  row : Nat
  column : Nat
  children : List Concrete
deriving Repr, Inhabited

/-- A parser for every language. It never fails: errors become nodes. -/
abbrev Parser := Language → String → Concrete

namespace Concrete

def child? (node : Concrete) (field : Field) : Option Concrete :=
  node.children.find? (·.field == some field)

def inner (node : Concrete) : List Concrete :=
  node.children.filter (!·.isExtra)

mutual
/-- The node and all below it, each before its children. -/
def preorder : Concrete → List Concrete
  | node@⟨_, _, _, _, _, _, _, _, _, children⟩ => node :: preorderAll children

def preorderAll : List Concrete → List Concrete
  | [] => []
  | node :: rest => preorder node ++ preorderAll rest
end

theorem preorderAll_eq_flatMap (nodes : List Concrete) :
    preorderAll nodes = nodes.flatMap preorder := by
  induction nodes with
  | nil => rfl
  | cons node rest ih => rw [preorderAll, ih, List.flatMap_cons]

theorem preorder_eq (node : Concrete) :
    node.preorder = node :: node.children.flatMap preorder := by
  cases node
  rw [preorder, preorderAll_eq_flatMap]

theorem preorderAll_append (nodes others : List Concrete) :
    preorderAll (nodes ++ others) = preorderAll nodes ++ preorderAll others := by
  simp only [preorderAll_eq_flatMap, List.flatMap_append]

theorem length_preorderAll_reverse (nodes : List Concrete) :
    (preorderAll nodes.reverse).length = (preorderAll nodes).length := by
  induction nodes with
  | nil => rfl
  | cons node rest ih =>
    rw [List.reverse_cons, preorderAll_append, List.length_append, ih, preorderAll, preorderAll,
      preorderAll, List.append_nil, List.length_append, Nat.add_comm]

theorem length_preorderAll_filter_le (keep : Concrete → Bool) (nodes : List Concrete) :
    (preorderAll (nodes.filter keep)).length ≤ (preorderAll nodes).length := by
  induction nodes with
  | nil => exact Nat.le_refl _
  | cons node rest ih =>
    rw [List.filter_cons, preorderAll, List.length_append]
    split
    · rw [preorderAll, List.length_append]
      omega
    · omega

end Concrete

end Graft
