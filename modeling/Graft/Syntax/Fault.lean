import Graft.Syntax.Concrete
import Graft.Text.Slice

/-! # Syntax errors

Every error node and every missing node of a concrete tree is a fault of the text. Trees are
searched on a list of waiting nodes, so that deep trees do not need deep calls.
-/

namespace Graft

inductive FaultCause where
  /-- The parser put in a node that the text does not have. -/
  | missing (kind : String)
  /-- The parser could not make sense of a part of the text. -/
  | unexpected
deriving DecidableEq, Repr

structure Fault where
  start : Nat
  stop : Nat
  /-- Lines and columns count from one. -/
  line : Nat
  column : Nat
  /-- The text at the fault, cut when it is long. -/
  context : String
  cause : FaultCause
deriving DecidableEq, Repr

def FaultCause.message : FaultCause → String
  | .missing kind => "missing " ++ kind
  | .unexpected => "syntax error"

namespace Fault

def message (fault : Fault) : String :=
  fault.cause.message

def maxPlace : Nat := Nat.pow 2 32 - 1

/-- A place counted from zero, counted from one. -/
def oneBased (n : Nat) : Nat :=
  min (n + 1) maxPlace

def contextLimit : Nat := 50

def contextKept : Nat := 47

def snippet (text : String) : String :=
  if contextLimit < text.utf8ByteSize then
    String.ofList (text.toList.take contextKept) ++ "..."
  else text

/-- The fault at an error node or a missing node. -/
def ofConcrete (source : String) (node : Concrete) : Fault where
  start := node.start
  stop := node.stop
  line := oneBased node.row
  column := oneBased node.column
  context := ((Text.slice? source node.start node.stop).map snippet).getD ""
  cause := if node.isMissing then .missing node.kind else .unexpected

end Fault

namespace Concrete

def isFault (node : Concrete) : Bool :=
  node.isError || node.isMissing

theorem length_preorderAll_children_lt (node : Concrete) (rest : List Concrete) :
    (preorderAll (node.children ++ rest)).length < (preorderAll (node :: rest)).length := by
  rw [preorderAll_append, preorderAll, preorder_eq, preorderAll_eq_flatMap node.children,
    List.length_append, List.length_append, List.length_cons]
  omega

/-- Whether there is a fault among the nodes that wait or below them. The children of a node go on
top, the last one uppermost, and the first fault ends the search. -/
def searchFault (waiting : List Concrete) : Bool :=
  match waiting with
  | [] => false
  | node :: rest => node.isFault || searchFault (node.children.reverse ++ rest)
termination_by (preorderAll waiting).length
decreasing_by
  have hlt := length_preorderAll_children_lt node rest
  simp only [List.unattach_reverse, List.unattach_attach, preorderAll_append, List.length_append,
    length_preorderAll_reverse] at hlt ⊢
  exact hlt

/-- Whether there is a fault at the node or below it. -/
def hasFault (root : Concrete) : Bool :=
  searchFault [root]

/-- The faults among the nodes that wait and below them, after those that were found. The children
of a node go on top, the first one uppermost. -/
def collectFaults (source : String) (found : Array Fault) (waiting : List Concrete) :
    Array Fault :=
  match waiting with
  | [] => found
  | node :: rest =>
    collectFaults source
      (if node.isFault then found.push (Fault.ofConcrete source node) else found)
      (node.children ++ rest)
termination_by (preorderAll waiting).length
decreasing_by exact length_preorderAll_children_lt node rest

/-- All faults of a tree, extra nodes included. -/
def faults (source : String) (root : Concrete) : List Fault :=
  (collectFaults source #[] [root]).toList

end Concrete

end Graft
