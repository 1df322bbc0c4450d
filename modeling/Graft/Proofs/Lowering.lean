import Graft.Syntax.Document
import Mathlib.Data.List.Chain

/-! # Lowering loses no text

Lowering walks a tree on a stack, which comes to plain recursion over the tree. The offset that it
carries depends on the leaves alone. So the tokens are first read off the list of leaves, and the
text is put together along that list.
-/

namespace Graft

namespace Concrete

/-! ## Leaves -/

mutual
/-- The leaves in reading order. What stands below an extra node is passed over. -/
def leaves : Concrete → List Concrete
  | node@⟨_, _, _, _, _, _, _, _, _, children⟩ =>
    if children.isEmpty then [node] else leavesAll children

def leavesAll : List Concrete → List Concrete
  | [] => []
  | node :: rest => if node.isExtra then leavesAll rest else leaves node ++ leavesAll rest
end

/-- What a parser promises of the leaves that it delivers for a text. A leaf may be empty, as a
token is that was missing. -/
structure InOrder (source : String) (leaves : List Concrete) : Prop where
  forward : ∀ leaf ∈ leaves, leaf.start ≤ leaf.stop
  /-- Leaves begin and end between characters of the text. -/
  boundary : ∀ leaf ∈ leaves,
    Text.IsBoundary source leaf.start ∧ Text.IsBoundary source leaf.stop
  /-- No leaf starts before the one in front of it ends. -/
  apart : leaves.IsChain fun first second => first.stop ≤ second.start

theorem InOrder.tail {source : String} {leaf : Concrete} {rest : List Concrete}
    (h : InOrder source (leaf :: rest)) : InOrder source rest where
  forward other hmem := h.forward other (List.mem_cons_of_mem leaf hmem)
  boundary other hmem := h.boundary other (List.mem_cons_of_mem leaf hmem)
  apart := h.apart.tail

end Concrete

namespace Lowering

/-! ## The walk as a recursion -/

mutual
/-- A node without children is a token. The second result is the new offset. -/
def lower (source : String) (offset : Nat) : Concrete → Node × Nat
  | node@⟨_, _, _, _, _, _, _, _, _, children⟩ =>
    if children.isEmpty then
      (Node.leaf 0 node.kind (token source offset node), max offset node.stop)
    else
      let (below, after) := lowerAll source offset children
      (Node.branch 0 (category source node) node.kind below, after)

/-- Extra nodes are passed over. -/
def lowerAll (source : String) (offset : Nat) : List Concrete → List Node × Nat
  | [] => ([], offset)
  | node :: rest =>
    if node.isExtra then lowerAll source offset rest
    else
      let (first, middle) := lower source offset node
      let (others, after) := lowerAll source middle rest
      (first :: others, after)
end

variable (source : String)

/-- The frame after some more children. -/
def Frame.extend (frame : Frame) (nodes : List Node) : Frame :=
  { frame with cursor := frame.cursor + nodes.length, lowered := frame.lowered ++ nodes }

def Frame.take (frame : Frame) (child : Node) : Frame :=
  { frame with cursor := frame.cursor + 1 }.push child

theorem extend_nil (frame : Frame) : frame.extend [] = frame := by
  simp [Frame.extend]

theorem extend_take (frame : Frame) (child : Node) (nodes : List Node) :
    (frame.take child).extend nodes = frame.extend (child :: nodes) := by
  simp [Frame.extend, Frame.take, Frame.push, Nat.add_comm, Nat.add_left_comm]

theorem run_of_child {frame : Frame} {child : Concrete} (offset : Nat) (below : List Frame)
    (h : frame.children[frame.cursor]? = some child) :
    run source offset frame below =
      if child.children.isEmpty then
        run source (max offset child.stop)
          (frame.take (Node.leaf 0 child.kind (token source offset child))) below
      else
        run source offset (.start child) ({ frame with cursor := frame.cursor + 1 } :: below) := by
  rw [run.eq_def source offset frame below]
  split
  · next other hother =>
    rw [h] at hother
    cases hother
    rfl
  · next hnone => simp [h] at hnone

theorem run_of_done {frame : Frame} (offset : Nat) (below : List Frame)
    (h : frame.children[frame.cursor]? = none) :
    run source offset frame below =
      match below with
      | [] => (frame.finish source, offset)
      | parent :: rest => run source offset (parent.push (frame.finish source)) rest := by
  rw [run.eq_def source offset frame below]
  split
  · next child hchild => simp [h] at hchild
  · rfl

theorem length_lowerAll (offset : Nat) (nodes : List Concrete) :
    (lowerAll source offset nodes).1.length = (nodes.filter (!·.isExtra)).length := by
  induction nodes generalizing offset with
  | nil => rfl
  | cons node rest ih => by_cases h : node.isExtra <;> simp [lowerAll, h, ih]

theorem extend_start_done (offset : Nat) (node : Concrete) :
    ((Frame.start node).extend (lowerAll source offset node.children).1).children[
      ((Frame.start node).extend (lowerAll source offset node.children).1).cursor]? = none := by
  simp [Frame.extend, Frame.start, length_lowerAll, Concrete.inner]

theorem finish_extend_start (offset : Nat) (node : Concrete) :
    ((Frame.start node).extend (lowerAll source offset node.children).1).finish source =
      Node.branch 0 (category source node) node.kind
        (lowerAll source offset node.children).1 := by
  simp [Frame.finish, Frame.extend, Frame.start]

-- Over the tree: a frame comes to the same as the frame with some more children lowered, whatever
-- lies below it on the stack. The list goes over all children, and the frame has those that are
-- kept.
mutual
theorem run_child (offset : Nat) (parent : Frame) (rest : List Frame) : ∀ child : Concrete,
    parent.children[parent.cursor]? = some child →
      run source offset parent rest =
        run source (lower source offset child).2 (parent.take (lower source offset child).1) rest
  | ⟨kind, start, stop, field, isExtra, isError, isMissing, row, column, children⟩, hchild => by
    rw [run_of_child source offset rest hchild, lower]
    split
    · rfl
    · rw [run_frame offset (.start _) (_ :: rest) children rfl,
        run_of_done source _ _ (extend_start_done source offset
          ⟨kind, start, stop, field, isExtra, isError, isMissing, row, column, children⟩),
        finish_extend_start source offset
          ⟨kind, start, stop, field, isExtra, isError, isMissing, row, column, children⟩]
      rfl

theorem run_frame (offset : Nat) (frame : Frame) (rest : List Frame) : ∀ nodes : List Concrete,
    frame.children.drop frame.cursor = nodes.filter (!·.isExtra) →
      run source offset frame rest =
        run source (lowerAll source offset nodes).2
          (frame.extend (lowerAll source offset nodes).1) rest
  | [], _ => by rw [lowerAll, extend_nil]
  | node :: nodes, hdrop => by
    by_cases hextra : node.isExtra
    · rw [List.filter_cons_of_neg (by simpa using hextra)] at hdrop
      rw [run_frame offset frame rest nodes hdrop, lowerAll, if_pos hextra]
    · rw [List.filter_cons_of_pos (by simpa using hextra)] at hdrop
      obtain ⟨hchild, htail⟩ := next_of_drop hdrop
      rw [run_child offset frame rest node hchild, run_frame _ _ rest nodes htail, extend_take,
        lowerAll, if_neg hextra]
end

/-- The walk is the recursion. -/
theorem lowerRoot_eq (root : Concrete) :
    lowerRoot source root =
      (Node.branch 0 (category source root) root.kind (lowerAll source 0 root.children).1,
        Text.slice source (lowerAll source 0 root.children).2 source.utf8ByteSize) := by
  rw [lowerRoot, run_frame source 0 (.start root) [] root.children rfl,
    run_of_done source _ [] (extend_start_done source 0 root), finish_extend_start]

/-! ## Tokens of the leaves -/

def offsetAfter (offset : Nat) (leaves : List Concrete) : Nat :=
  leaves.foldl (fun offset leaf => max offset leaf.stop) offset

/-- The tokens of some leaves, read from `offset` on. -/
def tokensFrom (source : String) (offset : Nat) : List Concrete → List Token
  | [] => []
  | leaf :: rest => token source offset leaf :: tokensFrom source (max offset leaf.stop) rest

theorem offsetAfter_append (offset : Nat) (first second : List Concrete) :
    offsetAfter offset (first ++ second) = offsetAfter (offsetAfter offset first) second :=
  List.foldl_append

theorem tokensFrom_append (source : String) (offset : Nat) (first second : List Concrete) :
    tokensFrom source offset (first ++ second) =
      tokensFrom source offset first ++ tokensFrom source (offsetAfter offset first) second := by
  induction first generalizing offset with
  | nil => rfl
  | cons leaf rest ih => simp [tokensFrom, offsetAfter, ih]

theorem text_tokensFrom (source : String) (offset : Nat) (leaves : List Concrete) :
    (tokensFrom source offset leaves).map (·.text) =
      leaves.map fun leaf => Text.slice source leaf.start leaf.stop := by
  induction leaves generalizing offset with
  | nil => rfl
  | cons leaf rest ih => simp [tokensFrom, token, ih]

-- The tree only decides which leaves there are: it adds no token and moves no offset of its own.
mutual
theorem lower_eq (source : String) (offset : Nat) : ∀ node : Concrete,
    (lower source offset node).1.tokens = tokensFrom source offset node.leaves ∧
      (lower source offset node).2 = offsetAfter offset node.leaves
  | ⟨_, _, _, _, _, _, _, _, _, children⟩ => by
    by_cases h : children.isEmpty
    · simp [lower, Concrete.leaves, h, Node.leaf, Node.tokens, Node.preorder, Node.preorderAll,
        tokensFrom, offsetAfter]
    · obtain ⟨htokens, hoffset⟩ := lowerAll_eq source offset children
      simp [lower, Concrete.leaves, h, Node.branch, Node.tokens, Node.preorder, htokens, hoffset]

theorem lowerAll_eq (source : String) (offset : Nat) : ∀ nodes : List Concrete,
    (Node.preorderAll (lowerAll source offset nodes).1).filterMap (·.token) =
        tokensFrom source offset (Concrete.leavesAll nodes) ∧
      (lowerAll source offset nodes).2 = offsetAfter offset (Concrete.leavesAll nodes)
  | [] => ⟨rfl, rfl⟩
  | node :: rest => by
    by_cases h : node.isExtra
    · simpa [lowerAll, Concrete.leavesAll, h] using lowerAll_eq source offset rest
    · obtain ⟨htokens, hoffset⟩ := lower_eq source offset node
      obtain ⟨hrest, hlast⟩ := lowerAll_eq source (offsetAfter offset node.leaves) rest
      rw [Node.tokens] at htokens
      simp [lowerAll, Concrete.leavesAll, h, Node.preorderAll, hoffset, htokens, hrest, hlast,
        tokensFrom_append, offsetAfter_append]
end

/-! ## The text of the tokens -/

/-- A text with the tokens of some leaves written one after the other. -/
def written (tokens : List Token) : String :=
  String.join (tokens.map fun token => token.leading ++ token.text)

/-- From a boundary in front of all leaves on, the tokens hold exactly the text up to the offset
that they leave, and that is a boundary too. -/
theorem written_tokensFrom {source : String} {leaves : List Concrete} {offset : Nat}
    (h : Concrete.InOrder source leaves) (hoffset : Text.IsBoundary source offset)
    (hfirst : ∀ leaf ∈ leaves.head?, offset ≤ leaf.start) :
    offset ≤ offsetAfter offset leaves ∧ Text.IsBoundary source (offsetAfter offset leaves) ∧
      written (tokensFrom source offset leaves) =
        Text.slice source offset (offsetAfter offset leaves) := by
  induction leaves generalizing offset with
  | nil => exact ⟨le_rfl, hoffset, (Text.slice_self hoffset).symm⟩
  | cons leaf rest ih =>
    obtain ⟨hstart, hstop⟩ := h.boundary leaf List.mem_cons_self
    have hforward := h.forward leaf List.mem_cons_self
    have hleading : offset ≤ leaf.start := hfirst leaf rfl
    have hnext : max offset leaf.stop = leaf.stop := max_eq_right (hleading.trans hforward)
    have happart : ∀ next ∈ rest.head?, leaf.stop ≤ next.start := by
      cases rest with
      | nil => simp
      | cons next others => simpa using h.apart.rel
    obtain ⟨hle, hend, hwritten⟩ := ih h.tail hstop happart
    have hafter : offsetAfter offset (leaf :: rest) = offsetAfter leaf.stop rest := by
      rw [offsetAfter, List.foldl_cons, hnext, offsetAfter]
    rw [hafter]
    refine ⟨by omega, hend, ?_⟩
    calc written (tokensFrom source offset (leaf :: rest))
        = Text.slice source offset leaf.start ++ Text.slice source leaf.start leaf.stop ++
            written (tokensFrom source leaf.stop rest) := by
          simp [written, tokensFrom, token, hnext]
      _ = Text.slice source offset leaf.stop ++
            Text.slice source leaf.stop (offsetAfter leaf.stop rest) := by
          rw [hwritten, Text.slice_append_slice hleading hforward hoffset hstart hstop]
      _ = Text.slice source offset (offsetAfter leaf.stop rest) :=
          Text.slice_append_slice (hleading.trans hforward) hle hoffset hstop hend

end Lowering

namespace Document

theorem tokens_ofConcrete (file : String) (language : Language) (source : String)
    (concrete : Concrete) (next : NodeId) :
    (ofConcrete file language source concrete next).1.root.tokens =
      Lowering.tokensFrom source 0 (Concrete.leavesAll concrete.children) := by
  simp only [ofConcrete, Lowering.lowerRoot_eq, Node.tokens_numbered]
  exact (Lowering.lowerAll_eq source 0 concrete.children).1

theorem trailing_ofConcrete (file : String) (language : Language) (source : String)
    (concrete : Concrete) (next : NodeId) :
    (ofConcrete file language source concrete next).1.trailing =
      Text.slice source (Lowering.offsetAfter 0 (Concrete.leavesAll concrete.children))
        source.utf8ByteSize := by
  simp only [ofConcrete, Lowering.lowerRoot_eq,
    (Lowering.lowerAll_eq source 0 concrete.children).2]

/-- Lowering keeps every byte. Each leaf becomes the token that holds its text, and the tokens with
the text in front of them, followed by the text after the last, are the source. -/
theorem written_ofConcrete (file : String) (language : Language) (source : String)
    (concrete : Concrete) (next : NodeId)
    (h : Concrete.InOrder source (Concrete.leavesAll concrete.children)) :
    let document := (ofConcrete file language source concrete next).1
    document.root.tokens.map (fun token => some token.text) =
        (Concrete.leavesAll concrete.children).map (fun leaf =>
          Text.slice? source leaf.start leaf.stop) ∧
      Lowering.written document.root.tokens ++ document.trailing = source := by
  intro document
  obtain ⟨hle, hend, hwritten⟩ :=
    Lowering.written_tokensFrom h (Text.isBoundary_zero source) (fun _ _ => Nat.zero_le _)
  constructor
  · have htexts := Lowering.text_tokensFrom source 0 (Concrete.leavesAll concrete.children)
    calc document.root.tokens.map (fun token => some token.text)
        = ((Lowering.tokensFrom source 0 (Concrete.leavesAll concrete.children)).map
            (·.text)).map some := by rw [tokens_ofConcrete, List.map_map]; rfl
      _ = (Concrete.leavesAll concrete.children).map fun leaf =>
            some (Text.slice source leaf.start leaf.stop) := by rw [htexts, List.map_map]; rfl
      _ = _ := List.map_congr_left fun leaf hmem =>
            (Text.slice?_eq_some (h.forward leaf hmem) (h.boundary leaf hmem).1
              (h.boundary leaf hmem).2).symm
  · rw [tokens_ofConcrete, trailing_ofConcrete, hwritten,
      Text.slice_append_slice hle hend.le (Text.isBoundary_zero source) hend
        (Text.isBoundary_utf8ByteSize source), Text.slice_zero_utf8ByteSize]

/-- A concrete node of a range, plain in all else. -/
def sampleConcrete (kind : String) (start stop : Nat) (isExtra : Bool)
    (children : List Concrete) : Concrete :=
  ⟨kind, start, stop, none, isExtra, false, false, 0, 0, children⟩

def sampleSource : String := "/**/ é 12 /**/ \n"

/-- A comment in front, a name of two bytes, an extra error that has a number below it, a block that
holds nothing but a comment, and a semicolon that is missing. -/
def sampleProgram : Concrete :=
  sampleConcrete "program" 0 17 false
    [sampleConcrete "comment" 0 4 true [],
      sampleConcrete "expression_statement" 5 16 false
        [sampleConcrete "identifier" 5 7 false [],
          sampleConcrete "ERROR" 8 10 true [sampleConcrete "number" 8 10 false []],
          sampleConcrete "statement_block" 11 15 false [sampleConcrete "comment" 11 15 true []],
          sampleConcrete ";" 16 16 false []]]

theorem written_sampleProgram :
    Concrete.InOrder sampleSource (Concrete.leavesAll sampleProgram.children) ∧
      Lowering.written (ofConcrete "a.ts" .typescript sampleSource sampleProgram 0).1.root.tokens ++
        (ofConcrete "a.ts" .typescript sampleSource sampleProgram 0).1.trailing = sampleSource := by
  have h : Concrete.InOrder sampleSource (Concrete.leavesAll sampleProgram.children) :=
    ⟨by decide, by decide, by decide⟩
  exact ⟨h, (written_ofConcrete "a.ts" .typescript sampleSource sampleProgram 0 h).2⟩

end Document

end Graft
