import Graft.Syntax.Concrete
import Graft.Syntax.Node
import Graft.Text.Slice
import Graft.Text.Cut

/-! # Lowering

A concrete tree becomes a tree of tokens. Every token keeps all the text since the token before it,
so the comments that are dropped as nodes stay as text.
-/

namespace Graft.Lowering

/-! ## Categories -/

def fieldText? (source : String) (node : Concrete) (field : Field) : Option String :=
  (node.child? field).bind fun child => Text.slice? source child.start child.stop

/-- The characters between an outer pair of parentheses. -/
def unwrap? : List Char → Option (List Char)
  | '(' :: cs =>
    match cs.reverse with
    | ')' :: inner => some inner.reverse
    | _ => none
  | _ => none

/-- A condition without the parentheses around it. -/
def conditionText (source : String) (node : Concrete) : String :=
  match fieldText? source node .condition with
  | none => ""
  | some text =>
    let trimmed := Text.trim text.toList
    String.ofList (((unwrap? trimmed).map Text.trim).getD trimmed)

def beforeSemicolon (cs : List Char) : List Char :=
  match cs.reverse with
  | ';' :: before => before.reverse
  | _ => cs

/-- A clause of a loop header, unless it is empty. -/
def clauseText? (source : String) (node : Concrete) (field : Field) : Option String :=
  (fieldText? source node field).bind fun text =>
    let clause := Text.trimEnd (beforeSemicolon (Text.trim text.toList))
    if clause.isEmpty then none else some (String.ofList clause)

/-- The position of the body among the children that are kept. A body that is not kept has none. -/
def bodyIndex? (node : Concrete) : Option Nat :=
  (node.child? .body).bind fun body =>
    if body.isExtra then none else node.inner.findIdx? (·.field == some .body)

def category (source : String) (node : Concrete) : Category :=
  match node.kind with
  | "function_declaration" | "function_signature" =>
    .function (fieldText? source node .name) false (bodyIndex? node)
  | "generator_function_declaration" =>
    .function (fieldText? source node .name) true (bodyIndex? node)
  | "class_declaration" | "abstract_class_declaration" => .classDef (fieldText? source node .name)
  | "method_definition" | "abstract_method_signature" => .method (fieldText? source node .name)
  | "variable_declarator" => .binding (fieldText? source node .name)
  | "if_statement" => .conditional (conditionText source node)
  | "while_statement" => .whileLoop (conditionText source node)
  | "for_statement" =>
    .forLoop (clauseText? source node .initializer) (clauseText? source node .condition)
      (clauseText? source node .increment)
  | _ => .other

/-! ## Trees

The walk keeps a stack of its own, so that deep trees do not need deep calls. The offset is where
the text not yet given to a token starts.
-/

/-- A token takes the text since `offset`, and its own. -/
def token (source : String) (offset : Nat) (node : Concrete) : Token where
  leading := Text.slice source offset node.start
  text := Text.slice source node.start node.stop

/-- A node whose children are being lowered. -/
structure Frame where
  node : Concrete
  /-- The children that are kept. Extra nodes are not. -/
  children : List Concrete
  cursor : Nat
  /-- What the children in front of the cursor have become. -/
  lowered : Array Node

namespace Frame

def start (node : Concrete) : Frame :=
  ⟨node, node.inner, 0, #[]⟩

def push (frame : Frame) (child : Node) : Frame :=
  { frame with lowered := frame.lowered.push child }

/-- The node of a frame whose children are done. -/
def finish (source : String) (frame : Frame) : Node :=
  Node.branch 0 (category source frame.node) frame.node.kind frame.lowered.toList

/-- The rounds that a frame takes, at most: one for itself, and two for every node below it that was
not visited. -/
def rounds (frame : Frame) : Nat :=
  1 + 2 * (Concrete.preorderAll (frame.children.drop frame.cursor)).length

@[simp] theorem rounds_push (frame : Frame) (child : Node) : (frame.push child).rounds = frame.rounds := rfl

theorem rounds_eq (frame : Frame) (child : Concrete)
    (h : frame.children[frame.cursor]? = some child) :
    frame.rounds =
      2 * child.preorder.length + { frame with cursor := frame.cursor + 1 }.rounds := by
  obtain ⟨hlt, rfl⟩ := List.getElem?_eq_some_iff.mp h
  simp only [rounds]
  rw [List.drop_eq_getElem_cons hlt, Concrete.preorderAll, List.length_append]
  omega

theorem rounds_start_lt (node : Concrete) : (start node).rounds < 2 * node.preorder.length := by
  have hkept := Concrete.length_preorderAll_filter_le (!·.isExtra) node.children
  rw [Concrete.preorder_eq, ← Concrete.preorderAll_eq_flatMap, List.length_cons]
  simp only [rounds, start, Concrete.inner, List.drop_zero]
  omega

end Frame

/-- The rounds of a stack. -/
def rounds (frame : Frame) (below : List Frame) : Nat :=
  frame.rounds + below.foldr (fun waiting total => waiting.rounds + total) 0

/-- Lowers what is left of the innermost frame, and then of the frames around it. A child that has
no children is a token. The second result is the offset after the last token. -/
def run (source : String) (offset : Nat) (frame : Frame) (below : List Frame) : Node × Nat :=
  match _h : frame.children[frame.cursor]? with
  | some child =>
    let moved := { frame with cursor := frame.cursor + 1 }
    if child.children.isEmpty then
      run source (max offset child.stop)
        (moved.push (Node.leaf 0 child.kind (token source offset child))) below
    else run source offset (.start child) (moved :: below)
  | none =>
    match below with
    | [] => (frame.finish source, offset)
    | parent :: rest => run source offset (parent.push (frame.finish source)) rest
termination_by rounds frame below
decreasing_by
  · have hframe := frame.rounds_eq child _h
    have hchild := Frame.rounds_start_lt child
    simp only [rounds, Frame.rounds_push]
    omega
  · have hframe := frame.rounds_eq child _h
    have hchild := Frame.rounds_start_lt child
    simp only [rounds, List.foldr_cons]
    omega
  · have hframe : 0 < frame.rounds := by simp only [Frame.rounds]; omega
    simp only [rounds, List.foldr_cons, Frame.rounds_push]
    omega

/-- The lowered tree and the text after its last token. The root is a branch even when it is
empty. -/
def lowerRoot (source : String) (root : Concrete) : Node × String :=
  let (lowered, after) := run source 0 (.start root) []
  (lowered, Text.slice source after source.utf8ByteSize)

end Graft.Lowering
