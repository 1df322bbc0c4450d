import Std.Data.HashMap
import Graft.Anchor.Basic
import Graft.Syntax.Document

/-! # Patches and refusals

A patch is a list of operations on anchors. Payloads are nodes of the proposed tree: they are never
printed and parsed again on their way.
-/

namespace Graft

inductive Operation where
  /-- Puts `body` in place of the body of the function at `target`. -/
  | replaceBody (target : Anchor) (body : Node)
  | addNode (target : Anchor) (node : Node)
  | removeNode (target : Anchor)
deriving Inhabited

namespace Operation

def target : Operation → Anchor
  | .replaceBody target _ => target
  | .addNode target _ => target
  | .removeNode target => target

def name : Operation → String
  | .replaceBody .. => "replace_body"
  | .addNode .. => "add_node"
  | .removeNode .. => "remove_node"

/-- The body that an operation puts in. -/
def newBody? : Operation → Option Node
  | .replaceBody _ body => some body
  | _ => none

end Operation

structure Patch where
  file : String
  operations : List Operation

/-- The first operation on every anchor, with its position. Later ones on the same anchor are never
reached. -/
def Patch.table (operations : List Operation) : Std.HashMap Anchor (Operation × Nat) :=
  operations.zipIdx.foldl (fun m entry => m.insertIfNew entry.1.target entry) ∅

/-! ## Refusals

Why a text is not patched.
-/

inductive Side where
  | base
  | proposed
deriving DecidableEq, Repr

def Side.label : Side → String
  | .base => "original"
  | .proposed => "proposed"

inductive Refusal where
  | language (side : Side) (error : LanguageError)
  /-- The text has syntax errors, and they were not allowed. -/
  | faults (side : Side) (count : Nat) (first : Fault)
  /-- The request holds hunks and not a whole text. -/
  | structured
deriving DecidableEq, Repr

def Refusal.message : Refusal → String
  | .language side error => "failed to parse " ++ side.label ++ " source: " ++ error.message
  | .faults side count first =>
    side.label ++ " source has " ++ toString count ++ " syntax error(s); first at line " ++
      toString first.line ++ ", column " ++ toString first.column ++ ": " ++ first.message
  | .structured => "unsupported diffContent"

end Graft
