import Mathlib.Logic.Relation
import Graft.Proofs.Grafting
import Graft.Proofs.Reindenting
import Graft.Proofs.Spacing

/-! # Where bodies are found

A function keeps the position of its body as a number. Lowering takes that number from the children
that it keeps, and nothing that is done to a document afterwards changes how many children a node
has. So the number always points at a child, and after lowering at the one that the parser called
the body.
-/

namespace Graft

theorem exists_of_rel_some {α β : Type} {r : α → β → Prop} {x : Option α} {b : β}
    (h : Option.Rel r x (some b)) : ∃ a, x = some a ∧ r a b := by
  cases h with
  | some h => exact ⟨_, rfl, h⟩

namespace Concrete

/-- The child in the role of a body is kept, and `index` of the kept children stand before it. -/
def BodyAt (node : Concrete) (index : Nat) : Prop :=
  ∃ before body after, node.children = before ++ body :: after ∧
    node.child? .body = some body ∧ (∀ child ∈ before, child.field ≠ some .body) ∧
    body.isExtra = false ∧ (before.filter (!·.isExtra)).length = index ∧
    node.inner[index]? = some body

theorem inner_eq_of_split {node body : Concrete} {before after : List Concrete}
    (h : node.children = before ++ body :: after) (hkept : body.isExtra = false) :
    node.inner =
      before.filter (!·.isExtra) ++ body :: after.filter (!·.isExtra) := by
  simp [Concrete.inner, h, hkept]

theorem findIdx?_inner {node body : Concrete} {before after : List Concrete}
    (h : node.children = before ++ body :: after) (hbody : body.field = some .body)
    (hbefore : ∀ child ∈ before, child.field ≠ some .body) (hkept : body.isExtra = false) :
    node.inner.findIdx? (·.field == some .body) = some (before.filter (!·.isExtra)).length := by
  have hnone : (before.filter (!·.isExtra)).findIdx? (·.field == some .body) = none := by
    rw [List.findIdx?_eq_none_iff]
    intro child hchild
    simpa using hbefore child (List.mem_of_mem_filter hchild)
  rw [inner_eq_of_split h hkept, List.findIdx?_append, hnone]
  simp [List.findIdx?_cons, hbody]

theorem getElem?_inner {node body : Concrete} {before after : List Concrete}
    (h : node.children = before ++ body :: after) (hkept : body.isExtra = false) :
    node.inner[(before.filter (!·.isExtra)).length]? = some body := by
  rw [inner_eq_of_split h hkept]
  simp

theorem BodyAt.lt_length_inner {node : Concrete} {index : Nat} (h : node.BodyAt index) :
    index < node.inner.length := by
  obtain ⟨_, _, _, -, -, -, -, -, hinner⟩ := h
  exact (List.getElem?_eq_some_iff.mp hinner).1

end Concrete

namespace Lowering

open Concrete

variable {source : String} {raw : Concrete} {node other : Node}

/-! ## What lowering makes of a node -/

theorem bodyIndex?_eq_some_iff {index : Nat} : bodyIndex? raw = some index ↔ raw.BodyAt index := by
  unfold bodyIndex?
  constructor
  · intro h
    obtain ⟨body, hchild, hindex⟩ := Option.bind_eq_some_iff.mp h
    obtain ⟨hbody, before, after, hsplit, hbefore⟩ := List.find?_eq_some_iff_append.mp hchild
    split at hindex
    · cases hindex
    · next hextra =>
      have hkept : body.isExtra = false := by simpa using hextra
      have hbefore' : ∀ child ∈ before, child.field ≠ some .body := by simpa using hbefore
      rw [findIdx?_inner hsplit (by simpa using hbody) hbefore' hkept] at hindex
      obtain rfl := Option.some.inj hindex
      exact ⟨before, body, after, hsplit, hchild, hbefore', hkept, rfl,
        getElem?_inner hsplit hkept⟩
  · rintro ⟨before, body, after, hsplit, hchild, hbefore, hkept, rfl, -⟩
    have hbody : body.field = some .body := by simpa using List.find?_some hchild
    simp [hchild, hkept, findIdx?_inner hsplit hbody hbefore hkept]

theorem body?_category {index : Nat} :
    (category source raw).body? = some index ↔
      (category source raw).isFunction = true ∧ raw.BodyAt index := by
  rw [← bodyIndex?_eq_some_iff]
  unfold category
  split <;> simp [Category.body?, Category.isFunction]

/-- A node and the concrete node that it was made of. Only what has no children at all is a leaf,
and the root never is. -/
structure Lowered (isRoot : Bool) (raw : Concrete) (node : Node) : Prop where
  grammar : node.grammar = raw.kind
  children : node.children.length = raw.inner.length
  leaf : node.token.isSome = true ↔ isRoot = false ∧ raw.children = []
  body : ∀ index, node.category.body? = some index ↔ node.isFunction = true ∧ raw.BodyAt index

theorem Lowered.of_content {isRoot : Bool} (h : Lowered isRoot raw node)
    (hcontent : node.content = other.content) : Lowered isRoot raw other := by
  rw [Node.content_eq, Node.content_eq other] at hcontent
  injection hcontent with _ hcategory hgrammar htoken hchildren
  have hlength : node.children.length = other.children.length := by
    simpa using congrArg List.length hchildren
  refine ⟨?_, ?_, ?_, ?_⟩
  · rw [← hgrammar, h.grammar]
  · rw [← hlength, h.children]
  · rw [← htoken, h.leaf]
  · intro index
    rw [Node.isFunction, ← hcategory]
    exact h.body index

theorem Lowered.lt_length {isRoot : Bool} (h : Lowered isRoot raw node) {index : Nat}
    (hbody : node.category.body? = some index) : index < node.children.length := by
  rw [h.children]
  exact ((h.body index).mp hbody).2.lt_length_inner

theorem lowered_branch {isRoot : Bool} (offset : Nat) (h : isRoot = true ∨ raw.children ≠ []) :
    Lowered isRoot raw (Node.branch 0 (category source raw) raw.kind
      (lowerAll source offset raw.children).1) where
  grammar := rfl
  children := length_lowerAll source offset raw.children
  leaf := by
    rcases h with h | h <;> simp [Node.branch, h]
  body _ := body?_category

theorem lowered_leaf (token : Token) (h : raw.children = []) :
    Lowered false raw (Node.leaf 0 raw.kind token) where
  grammar := rfl
  children := by simp [Node.leaf, Concrete.inner, h]
  leaf := by simp [Node.leaf, h]
  body index := by simp [Node.leaf, Category.body?, Node.isFunction, Category.isFunction]

theorem lowered_lower (source : String) (offset : Nat) (raw : Concrete) :
    Lowered false raw (lower source offset raw).1 := by
  by_cases h : raw.children = []
  · have hlower : (lower source offset raw).1 =
        Node.leaf 0 raw.kind (token source offset raw) := by
      cases raw
      simp_all [lower]
    rw [hlower]
    exact lowered_leaf _ h
  · have hlower : (lower source offset raw).1 =
        Node.branch 0 (category source raw) raw.kind (lowerAll source offset raw.children).1 := by
      cases raw
      simp_all [lower]
    rw [hlower]
    exact lowered_branch offset (Or.inr h)

/-! ## Whole trees -/

-- Where the tokens start does not matter, so it is enough that there is some offset.
theorem lowered_below {offset : Nat}
    (h : node.children = (lowerAll source offset raw.children).1) (index : Nat)
    (below : Position) :
    Option.Rel (Lowered false) (raw.at? (index :: below)) (node.at? (index :: below)) := by
  induction below generalizing node raw offset index with
  | nil =>
    obtain ⟨start, hstart⟩ := getElem?_lowerAll source offset raw.children index
    rw [Node.at?, Concrete.at?, h, hstart, Concrete.inner]
    cases (raw.children.filter (!·.isExtra))[index]? with
    | none => exact .none
    | some child => exact .some (lowered_lower source start child)
  | cons next below ih =>
    obtain ⟨start, hstart⟩ := getElem?_lowerAll source offset raw.children index
    rw [Node.at?, Concrete.at?, h, hstart, Concrete.inner]
    cases (raw.children.filter (!·.isExtra))[index]? with
    | none => exact .none
    | some child => exact ih (children_lower source start child) next

theorem lowered_lowerRoot (source : String) (root : Concrete) (position : Position) :
    Option.Rel (Lowered position.isEmpty) (root.at? position)
      ((lowerRoot source root).1.at? position) := by
  rw [lowerRoot_eq]
  cases position with
  | nil => exact .some (lowered_branch 0 (Or.inl rfl))
  | cons index below => exact lowered_below rfl index below

end Lowering

/-- The document has a node where the concrete tree without its extra nodes has one. -/
theorem Document.lowered_ofConcrete (file : String) (language : Language) (source : String)
    (concrete : Concrete) (next : NodeId) (position : Position) :
    Option.Rel (Lowering.Lowered position.isEmpty) (concrete.at? position)
      ((ofConcrete file language source concrete next).1.root.at? position) := by
  have hsame : ((ofConcrete file language source concrete next).1.root.at? position).map
      Node.content = ((Lowering.lowerRoot source concrete).1.at? position).map Node.content := by
    rw [← Node.keepsShape_content.at?_map, ← Node.keepsShape_content.at?_map]
    exact congrArg (Node.at? · position) (Node.content_numbered next _)
  have hlowered := Lowering.lowered_lowerRoot source concrete position
  obtain ⟨hnumbered, hnone⟩ | ⟨node, other, hnode, hother, hcontent⟩ := cases_of_map_eq_map hsame
  · rwa [hnone, ← hnumbered] at hlowered
  · rw [hother] at hlowered
    obtain ⟨raw, hraw, h⟩ := exists_of_rel_some hlowered
    rw [hnode, hraw]
    exact .some (h.of_content hcontent.symm)

namespace Node

/-! ## Positions in range -/

/-- Every position that a function of the tree has for its body is that of a child. -/
def Addressable (root : Node) : Prop :=
  ∀ position node, root.at? position = some node →
    ∀ index, node.category.body? = some index → index < node.children.length

variable {operations : List Operation}

theorem addressable_iff {node : Node} :
    node.Addressable ↔
      (∀ index, node.category.body? = some index → index < node.children.length) ∧
        ∀ child ∈ node.children, child.Addressable := by
  constructor
  · intro h
    refine ⟨h [] node rfl, fun child hchild position other hother => ?_⟩
    obtain ⟨index, hindex⟩ := List.getElem?_of_mem hchild
    exact h (index :: position) other (by rw [at?, hindex, Option.bind_some, hother])
  · rintro ⟨hhere, hbelow⟩ (_ | ⟨index, below⟩) other hother
    · cases hother
      exact hhere
    · obtain ⟨child, hchild, hother⟩ := Option.bind_eq_some_iff.mp hother
      exact hbelow child (List.mem_of_getElem? hchild) below other hother

theorem KeepsShape.addressable_map {f : Node → Node} (h : KeepsShape f) {node : Node} :
    (f node).Addressable ↔ node.Addressable := by
  have hlength (other : Node) : (f other).children.length = other.children.length := by
    rw [h.children, List.length_map]
  constructor
  · intro hnode position other hother
    have hmapped := hnode position (f other) (by rw [h.at?_map, hother, Option.map_some])
    rwa [h.category, hlength] at hmapped
  · intro hnode position mapped hmapped
    rw [h.at?_map] at hmapped
    obtain ⟨other, hother, rfl⟩ := Option.map_eq_some_iff.mp hmapped
    rw [h.category, hlength]
    exact hnode position other hother

theorem addressable_of_content {node other : Node} (h : node.content = other.content)
    (hnode : node.Addressable) : other.Addressable := by
  rw [← keepsShape_content.addressable_map, ← h, keepsShape_content.addressable_map]
  exact hnode

theorem addressable_leaf (id : NodeId) (grammar : String) (token : Token) :
    (leaf id grammar token).Addressable := by
  rw [addressable_iff]
  simp [leaf, Category.body?]

theorem Addressable.block {body : Node} (h : body.Addressable) : body.block.Addressable := by
  unfold Node.block
  split
  · exact h
  · rw [addressable_iff]
    refine ⟨by simp [blockAround, branch, Category.body?], ?_⟩
    intro child hchild
    simp only [blockAround, branch, List.mem_cons, List.not_mem_nil, or_false] at hchild
    rcases hchild with rfl | rfl | rfl
    · exact addressable_leaf _ _ _
    · exact h
    · exact addressable_leaf _ _ _

@[simp] theorem isBlock_block (body : Node) : body.block.isBlock = true := by
  unfold block
  split
  · assumption
  · simp [blockAround, branch, isBlock]

theorem hereditary_addressable : Hereditary Addressable where
  child _ hnode := (addressable_iff.mp hnode).2
  rebuilt node children hnode hlength hchildren := by
    rw [addressable_iff, hlength]
    exact ⟨(addressable_iff.mp hnode).1, hchildren⟩
  block _ := Addressable.block

/-! ## Rewritten functions -/

/-- Where no node above is hit, the rewritten tree has the rewritten node. -/
theorem at?_rewrite {root : Node} {position : Position}
    (h : ∀ above, above <+: position → above ≠ position → root.hitAt? operations above = none) :
    (root.rewrite operations).at? position = (root.at? position).map (rewrite operations) := by
  induction position generalizing root with
  | nil => rfl
  | cons index below ih =>
    have hroot : root.hit? operations = none := h [] List.nil_prefix (by simp)
    rw [rewrite_of_miss hroot, at?, at?, rewriteAll_eq_map, List.getElem?_map, Option.bind_map,
      Option.map_bind]
    refine Option.bind_congr fun child hchild => ih fun above habove hne => ?_
    have hchild' : root.children[index]? = some child := hchild
    have habove' := h (index :: above) (List.cons_prefix_cons.mpr ⟨rfl, habove⟩)
      (by simpa using hne)
    rwa [hitAt?_cons, hchild', Option.bind_some] at habove'

theorem body?_rewrite_of_hit {node : Node} {hit : Hit} (h : node.hit? operations = some hit) :
    (node.rewrite operations).body? = some hit.body.block := by
  obtain ⟨-, hbody, hlt⟩ := hit?_eq_some_iff.mp h
  rw [rewrite_of_hit h, body?, hbody, Option.bind_some]
  exact List.getElem?_set_self hlt

end Node

namespace Document

/-- What a document goes through: its indentation is moved, or a patch is put in. All that a patch
brings along has to be addressable as well. -/
inductive Step : Document → Document → Prop where
  | reindent (document : Document) (source target : Indentation) (next : NodeId) :
    Step document (document.reindent source target next).1
  | graft (document : Document) (patch : Patch) (next : NodeId)
    (hbodies : ∀ operation ∈ patch.operations, ∀ body ∈ operation.newBody?, body.Addressable) :
    Step document (document.graft patch next).document

theorem addressable_ofConcrete (file : String) (language : Language) (source : String)
    (concrete : Concrete) (next : NodeId) :
    (ofConcrete file language source concrete next).1.root.Addressable := by
  intro position node hnode index hbody
  have hlowered := lowered_ofConcrete file language source concrete next position
  rw [hnode] at hlowered
  obtain ⟨raw, -, h⟩ := exists_of_rel_some hlowered
  exact h.lt_length hbody

theorem Step.addressable {document other : Document} (hstep : Step document other)
    (h : document.root.Addressable) : other.root.Addressable := by
  cases hstep with
  | reindent source target next =>
    apply Node.addressable_of_content (content_root_reindent source target document next).symm
    exact (Node.keepsShape_reindented source target).addressable_map.mpr h
  | graft patch next hbodies =>
    apply Node.addressable_of_content (document.rewrites_graft patch next).1.symm
    exact Node.hereditary_addressable.rewrite hbodies document.root h

theorem addressable_of_steps {first last : Document}
    (hsteps : Relation.ReflTransGen Step first last) (h : first.root.Addressable) :
    last.root.Addressable := by
  induction hsteps with
  | refl => exact h
  | tail _ hstep ih => exact hstep.addressable ih

theorem isBlock_body_graft (document : Document) (patch : Patch) (next : NodeId) {site : Site}
    (hsite : site ∈ document.root.sites patch.operations) :
    ∃ node body, (document.graft patch next).document.root.at? site.position = some node ∧
      node.body? = some body ∧ body.isBlock = true := by
  obtain ⟨hhere, houtermost⟩ := Node.mem_sites.mp hsite
  obtain ⟨old, hold, hhit⟩ := Option.bind_eq_some_iff.mp hhere
  -- Whether a body is a block is part of the content.
  have hlook (node : Node) : node.content.body?.map Node.isBlock = node.body?.map Node.isBlock := by
    rw [Node.keepsShape_content.body?_map, Option.map_map]
    refine congrFun (congrArg Option.map (funext fun body => ?_)) _
    rw [Function.comp_apply, Node.isBlock, Node.isBlock, Node.keepsShape_content.grammar]
  have hsame := Node.sameAt_of_content (f := fun node => node.body?.map Node.isBlock) hlook
    (document.rewrites_graft patch next).1 site.position
  rw [Node.at?_rewrite houtermost, hold, Option.map_some, Option.map_some,
    Node.body?_rewrite_of_hit hhit, Option.map_some, Node.isBlock_block] at hsame
  obtain ⟨node, hnode, hblock⟩ := Option.map_eq_some_iff.mp hsame
  obtain ⟨body, hbody, hblock⟩ := Option.map_eq_some_iff.mp hblock
  exact ⟨node, body, hnode, hbody, hblock⟩

/-- Bodies stay within reach. Lowering drops the extra nodes and nothing else, and the position that
it gives a function for its body is that of the child in that role. However a document is moved and
patched afterwards, every such position is that of a child. So a body can always be replaced, and
then it is a block. -/
theorem bodies_addressable :
    (∀ (file : String) (language : Language) (source : String) (concrete : Concrete)
      (next : NodeId),
      let root := (ofConcrete file language source concrete next).1.root
      root.Addressable ∧ ∀ position,
        Option.Rel (Lowering.Lowered position.isEmpty) (concrete.at? position)
          (root.at? position)) ∧
    ∀ first last : Document, first.root.Addressable → Relation.ReflTransGen Step first last →
      last.root.Addressable ∧
      (∀ position node, last.root.at? position = some node →
        ∀ index, node.category.body? = some index →
          ∀ next body, (Grafting.replaceBody? next node index body).isSome = true) ∧
      ∀ patch next,
        (last.graft patch next).applied = (last.root.sites patch.operations).length ∧
        ∀ site ∈ last.root.sites patch.operations,
          ∃ node body, (last.graft patch next).document.root.at? site.position = some node ∧
            node.body? = some body ∧ body.isBlock = true := by
  refine ⟨fun file language source concrete next => ?_, fun first last hfirst hsteps => ?_⟩
  · exact ⟨addressable_ofConcrete file language source concrete next,
      lowered_ofConcrete file language source concrete next⟩
  · have hlast := addressable_of_steps hsteps hfirst
    refine ⟨hlast, fun position node hnode index hbody next body => ?_, fun patch next => ?_⟩
    · simp [Grafting.replaceBody?, Node.withChild?, hlast position node hnode index hbody]
    · exact ⟨(last.rewrites_graft patch next).2.1,
        fun site hsite => last.isBlock_body_graft patch next hsite⟩

/-- A function with a comment in front of its body. -/
def sampleCommented : Concrete :=
  let leaf (kind : String) (start stop : Nat) : Concrete := sampleConcrete kind start stop false []
  sampleConcrete "program" 0 23 false
    [sampleConcrete "function_declaration" 0 23 false
      [leaf "function" 0 8, { leaf "identifier" 9 10 with field := some .name },
        sampleConcrete "formal_parameters" 10 12 false [leaf "(" 10 11, leaf ")" 11 12],
        sampleConcrete "comment" 13 20 true [],
        { sampleConcrete "statement_block" 21 23 false [leaf "\x7b" 21 22, leaf "\x7d" 22 23] with
          field := some .body }]]

set_option maxRecDepth 100000 in
-- The comment does not count. The body is the child number three, before and after it is moved.
theorem bodies_addressable_sampleCommented :
    let document := (ofConcrete "a.ts" .typescript "" sampleCommented 0).1
    let moved := (document.reindent ⟨false, 4⟩ ⟨true, 4⟩ 20).1
    ∃ node, moved.root.at? [0] = some node ∧ node.category.body? = some 3 ∧
      (Grafting.replaceBody? 40 node 3 (Node.leaf 30 ";" ⟨"", ";"⟩)).isSome = true := by
  intro document moved
  have hbody : (moved.root.at? [0]).map (·.category.body?) = some (some 3) := by decide +kernel
  obtain ⟨node, hnode, hindex⟩ := Option.map_eq_some_iff.mp hbody
  have hstart := (bodies_addressable.1 "a.ts" .typescript "" sampleCommented 0).1
  obtain ⟨-, hreplace, -⟩ := bodies_addressable.2 document moved hstart
    (.single (.reindent document ⟨false, 4⟩ ⟨true, 4⟩ 20))
  exact ⟨node, hnode, hindex, hreplace [0] node hnode 3 hindex 40 _⟩

end Document

end Graft
