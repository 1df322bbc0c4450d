import Graft.Log.Event
import Graft.Patch.Operation
import Graft.Syntax.Document

/-! # Comparing two trees

Two trees are compared position by position, from the roots down. Where the anchors agree nothing
below can differ, and the pair is passed over. Where two functions have bodies that differ, the body
of the second one is proposed for the first. The pairs that wait for their turn are kept in a list,
so that deep trees do not need deep calls.
-/

namespace Graft

inductive Finding where
  /-- A function with this anchor should get this body. -/
  | bodyChanged (anchor : Anchor) (name : Option String) (body : Node)
  /-- A pair has different numbers of children. Only those at common positions are compared. -/
  | childCountsDiffer (kind : String) (old new : Nat)
deriving Inhabited

namespace Finding

def operation? : Finding → Option Operation
  | .bodyChanged anchor _ body => some (.replaceBody anchor body)
  | .childCountsDiffer .. => none

def event : Finding → Event
  | .bodyChanged anchor name _ => .bodyChanged anchor name
  | .childCountsDiffer kind old new => .childCountsDiffer kind old new

end Finding

namespace Comparison

/-- The body change of a pair whose anchors differ. -/
def bodyChange (old new : Anchored) : List Finding :=
  match old.body?, new.body? with
  | some oldBody, some newBody =>
    if oldBody.anchor = newBody.anchor then []
    else [.bodyChanged old.anchor old.node.category.functionName? newBody.node]
  | _, _ => []

def countChange (old new : Node) : List Finding :=
  if old.children.length = new.children.length then []
  else [.childCountsDiffer old.grammar old.children.length new.children.length]

/-- The nodes of the first tree that are still to be compared. -/
def pending (pairs : List (Anchored × Anchored)) : Nat :=
  Anchored.sizeAll (pairs.map (·.1))

theorem pending_zip_append_lt (old new : Anchored) (pairs : List (Anchored × Anchored)) :
    pending (old.children.zip new.children ++ pairs) < pending ((old, new) :: pairs) := by
  have hzip := Anchored.sizeAll_map_fst_zip_le old.children new.children
  have hsize := Anchored.size_eq old
  simp only [pending, List.map_append, List.map_cons, Anchored.sizeAll_append, Anchored.sizeAll]
  omega

/-- Compares the first pair and goes on with the rest. The children of a pair come before the pairs
that were waiting, so findings are in preorder. -/
def search (found : Array Finding) (pairs : List (Anchored × Anchored)) : Array Finding :=
  match pairs with
  | [] => found
  | (old, new) :: waiting =>
    if old.anchor = new.anchor then search found waiting
    else
      search (found ++ bodyChange old new ++ countChange old.node new.node)
        (old.children.zip new.children ++ waiting)
termination_by pending pairs
decreasing_by
  · have := Anchored.size_eq old
    simp only [pending, List.map_cons, Anchored.sizeAll]
    omega
  · exact pending_zip_append_lt old new waiting

end Comparison

namespace Document

def findings (old new : Document) : List Finding :=
  (Comparison.search #[] [(Anchored.ofNode old.root, Anchored.ofNode new.root)]).toList

/-- The patch that some findings come to. -/
def patchOf (old : Document) (found : List Finding) : Logged Patch :=
  let operations := found.filterMap Finding.operation?
  ⟨⟨old.file, operations⟩, found.map Finding.event ++ [.diffComplete old.file operations.length]⟩

/-- The patch that moves one document towards another. -/
def diff (old new : Document) : Logged Patch :=
  old.patchOf (old.findings new)

end Document

end Graft
