import Graft.Proofs.Rewriting
import Graft.Proofs.Shape
import Mathlib.Data.List.Forall2

/-! # Trees that agree at every position

The anchor of a node is the digest of its label and of the anchors below it. So two trees with the
same labels at the same positions have the same anchors there. The digits of an anchor have one
length, so the labels can be read back, unless two digests collide.
-/

namespace Graft

@[simp] theorem Text.bytes_append (s t : String) : bytes (s ++ t) = bytes s ++ bytes t := by
  simp only [bytes, String.toUTF8_eq_toByteArray, String.toByteArray_append,
    ByteArray.data_append, Array.toList_append]

theorem Text.bytes_injective : Function.Injective bytes := by
  intro s t h
  apply String.toByteArray_inj.mp
  apply ByteArray.ext
  exact Array.toList_inj.mp h

theorem cases_of_map_eq_map {α β γ : Type} {x : Option α} {y : Option β} {f : α → γ} {g : β → γ}
    (h : x.map f = y.map g) :
    (x = none ∧ y = none) ∨ ∃ c d, x = some c ∧ y = some d ∧ f c = g d := by
  cases x <;> cases y <;> simp_all

namespace Node

variable {α β : Type} {f : Node → α} {g : Node → β} {a b : Node}

theorem at?_append (root : Node) (above below : Position) :
    root.at? (above ++ below) = (root.at? above).bind (·.at? below) := by
  induction above generalizing root with
  | nil => rfl
  | cons index above ih =>
    simp only [List.cons_append, at?, Option.bind_assoc]
    exact Option.bind_congr fun child _ => ih child

theorem mem_preorder_of_at? {root node : Node} {position : Position}
    (h : root.at? position = some node) : node ∈ root.preorder := by
  induction position generalizing root with
  | nil =>
    cases h
    rw [preorder_eq]
    exact List.mem_cons_self
  | cons index below ih =>
    obtain ⟨child, hchild, hnode⟩ := Option.bind_eq_some_iff.mp h
    rw [preorder_eq, preorderAll_eq_flatMap]
    apply List.mem_cons_of_mem
    exact List.mem_flatMap.mpr ⟨child, List.mem_of_getElem? hchild, ih hnode⟩

/-! ## Agreement -/

/-- The trees have nodes at the same positions, and `f` takes the same values there. -/
def SameAt (f : Node → α) (a b : Node) : Prop :=
  ∀ position, (a.at? position).map f = (b.at? position).map f

namespace SameAt

theorem here (h : SameAt f a b) : f a = f b :=
  Option.some.inj (h [])

theorem below (h : SameAt f a b) {position : Position} {c d : Node}
    (hc : a.at? position = some c) (hd : b.at? position = some d) : SameAt f c d := by
  intro further
  have hfurther := h (position ++ further)
  rwa [at?_append, at?_append, hc, hd, Option.bind_some, Option.bind_some] at hfurther

theorem map_children (h : SameAt f a b) : a.children.map f = b.children.map f := by
  apply List.ext_getElem?
  intro index
  simpa [at?] using h [index]

theorem length_children (h : SameAt f a b) : a.children.length = b.children.length := by
  simpa using congrArg List.length h.map_children

theorem children (h : SameAt f a b) : List.Forall₂ (SameAt f) a.children b.children := by
  refine List.forall₂_iff_get.mpr ⟨h.length_children, ?_⟩
  intro index ha hb
  have hc : a.at? [index] = some a.children[index] := by simp [at?, ha]
  have hd : b.at? [index] = some b.children[index] := by simp [at?, hb]
  exact h.below hc hd

theorem imp (h : SameAt f a b)
    (hnode : ∀ c ∈ a.preorder, ∀ d ∈ b.preorder, SameAt f c d → g c = g d) : SameAt g a b := by
  intro position
  obtain ⟨hc, hd⟩ | ⟨c, d, hc, hd, -⟩ := cases_of_map_eq_map (h position)
  · rw [hc, hd]
  · rw [hc, hd, Option.map_some, Option.map_some,
      hnode c (mem_preorder_of_at? hc) d (mem_preorder_of_at? hd) (h.below hc hd)]

end SameAt

theorem KeepsShape.at?_map {f : Node → Node} (h : KeepsShape f) (node : Node)
    (position : Position) : (f node).at? position = (node.at? position).map f := by
  induction position generalizing node with
  | nil => rfl
  | cons index below ih =>
    rw [at?, at?, h.children, List.getElem?_map, Option.bind_map, Option.map_bind]
    exact Option.bind_congr fun child _ => ih child

theorem sameAt_of_content (hf : ∀ node, f node.content = f node) (h : a.content = b.content) :
    SameAt f a b := by
  intro position
  have hcontent (node : Node) : (node.content.at? position).map f = (node.at? position).map f := by
    rw [keepsShape_content.at?_map, Option.map_map]
    exact congrFun (congrArg Option.map (funext hf)) _
  rw [← hcontent a, h, hcontent b]

/-! ## Labels and anchors -/

/-- What the digest of a node takes from the node itself. -/
def label (node : Node) : String :=
  node.grammar ++ node.significant

/-- The bytes that the anchor of a node is the digest of. -/
def hashed (node : Node) : List UInt8 :=
  Anchor.preimage node.grammar node.significant (node.children.map anchor)

theorem anchor_eq_hash (node : Node) : node.anchor = ⟨Sha256.hash node.hashed⟩ :=
  anchor_eq node

theorem hashed_eq (node : Node) :
    node.hashed = Text.bytes node.label ++
      (node.children.map anchor).flatMap fun child => child.digits.map Char.toUInt8 := by
  rw [hashed, Anchor.preimage, label, Text.bytes_append]

-- Over the first tree. Equal labels make equal bytes once the anchors of the children are equal.
mutual
theorem anchor_eq_of_sameAt : ∀ a b : Node, SameAt label a b → a.anchor = b.anchor
  | ⟨id, category, grammar, token, children⟩, b, h => by
    rw [anchor_eq_hash, anchor_eq_hash, hashed_eq, hashed_eq, h.here,
      anchors_eq_of_forall₂ children b.children h.children]

theorem anchors_eq_of_forall₂ : ∀ as bs : List Node, List.Forall₂ (SameAt label) as bs →
    as.map anchor = bs.map anchor
  | [], _, .nil => rfl
  | a :: as, b :: bs, .cons h hs => by
    rw [List.map_cons, List.map_cons, anchor_eq_of_sameAt a b h, anchors_eq_of_forall₂ as bs hs]
end

theorem SameAt.anchors (h : SameAt label a b) : SameAt anchor a b :=
  h.imp fun c _ d _ => anchor_eq_of_sameAt c d

/-! ## Reading labels back -/

/-- No two of the nodes have one digest of different bytes. -/
def DigestsApart (nodes : List Node) : Prop :=
  ∀ a ∈ nodes, ∀ b ∈ nodes, a.anchor = b.anchor → a.hashed = b.hashed

instance (nodes : List Node) : Decidable (DigestsApart nodes) :=
  inferInstanceAs
    (Decidable (∀ a ∈ nodes, ∀ b ∈ nodes, a.anchor = b.anchor → a.hashed = b.hashed))

theorem length_digests (anchors : List Anchor) :
    (anchors.flatMap fun child => child.digits.map Char.toUInt8).length =
      anchors.length * Anchor.hexLength := by
  simp [List.length_flatMap, Anchor.length_digits]

theorem label_eq_of_hashed_eq (h : a.hashed = b.hashed)
    (hlength : a.children.length = b.children.length) : a.label = b.label := by
  rw [hashed_eq, hashed_eq] at h
  apply Text.bytes_injective
  apply List.append_inj_left' h
  rw [length_digests, length_digests, List.length_map, List.length_map, hlength]

theorem SameAt.labels (h : SameAt anchor a b)
    (hapart : DigestsApart (a.preorder ++ b.preorder)) : SameAt label a b := by
  apply h.imp
  intro c hc d hd hbelow
  have hhashed : c.hashed = d.hashed :=
    hapart c (List.mem_append_left _ hc) d (List.mem_append_right _ hd) hbelow.here
  exact label_eq_of_hashed_eq hhashed hbelow.length_children

end Node

end Graft
