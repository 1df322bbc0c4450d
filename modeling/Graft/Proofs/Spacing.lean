import Graft.Proofs.Agreement
import Graft.Proofs.Lowering

/-! # Spacing and anchors

Two texts that differ in blanks and comments only have concrete trees of one form. Lowering gives
them the same anchors at every position, as far as the texts that it records for a node are those of
single leaves. A condition, a clause of a loop or a pattern is recorded as it is written, with the
blanks and comments inside, and there the anchors tell the two apart.
-/

namespace Graft

namespace Concrete

/-! ## Forms -/

/-- A concrete tree without extra nodes and places. -/
inductive Form where
  /-- A node that has no children at all, with its text. -/
  | leaf (kind : String) (field : Option Field) (text : Option String)
  | branch (kind : String) (field : Option Field) (children : List Form)

namespace Form

def kind : Form → String
  | .leaf kind _ _ | .branch kind _ _ => kind

def field : Form → Option Field
  | .leaf _ field _ | .branch _ field _ => field

def children : Form → List Form
  | .leaf _ _ _ => []
  | .branch _ _ children => children

mutual
def decEq : ∀ a b : Form, Decidable (a = b)
  | .leaf kind field text, .leaf kind' field' text' =>
    decidable_of_iff (kind = kind' ∧ field = field' ∧ text = text') (by simp)
  | .branch kind field children, .branch kind' field' children' =>
    have := decEqAll children children'
    decidable_of_iff (kind = kind' ∧ field = field' ∧ children = children') (by simp)
  | .leaf .., .branch .. => isFalse nofun
  | .branch .., .leaf .. => isFalse nofun

def decEqAll : ∀ as bs : List Form, Decidable (as = bs)
  | [], [] => isTrue rfl
  | a :: as, b :: bs =>
    have := decEq a b
    have := decEqAll as bs
    decidable_of_iff (a = b ∧ as = bs) (by simp)
  | [], _ :: _ => isFalse nofun
  | _ :: _, [] => isFalse nofun
end

instance : DecidableEq Form := decEq

end Form

mutual
def form (source : String) : Concrete → Form
  | ⟨kind, start, stop, field, _, _, _, _, _, children⟩ =>
    if children.isEmpty then .leaf kind field (Text.slice? source start stop)
    else .branch kind field (formAll source children)

def formAll (source : String) : List Concrete → List Form
  | [] => []
  | node :: rest =>
    if node.isExtra then formAll source rest else form source node :: formAll source rest
end

variable {source other : String} {a b : Concrete}

theorem formAll_eq (source : String) (nodes : List Concrete) :
    formAll source nodes = (nodes.filter (!·.isExtra)).map (form source) := by
  induction nodes with
  | nil => rfl
  | cons node rest ih => by_cases h : node.isExtra <;> simp [formAll, h, ih]

theorem form_of_leaf (h : a.children = []) :
    form source a = .leaf a.kind a.field (Text.slice? source a.start a.stop) := by
  cases a
  cases h
  rfl

theorem form_of_branch (h : a.children ≠ []) :
    form source a = .branch a.kind a.field (a.inner.map (form source)) := by
  cases a
  simp_all [form, formAll_eq, inner]

@[simp] theorem kind_form (source : String) (a : Concrete) : (form source a).kind = a.kind := by
  by_cases h : a.children = []
  · rw [form_of_leaf h, Form.kind]
  · rw [form_of_branch h, Form.kind]

@[simp] theorem field_form (source : String) (a : Concrete) : (form source a).field = a.field := by
  by_cases h : a.children = []
  · rw [form_of_leaf h, Form.field]
  · rw [form_of_branch h, Form.field]

theorem children_form (source : String) (a : Concrete) :
    (form source a).children = a.inner.map (form source) := by
  by_cases h : a.children = []
  · rw [form_of_leaf h, Form.children, inner, h, List.filter_nil, List.map_nil]
  · rw [form_of_branch h, Form.children]

/-- The roots are of one kind, and the children that they keep are of the same forms. -/
structure Alike (source : String) (a : Concrete) (other : String) (b : Concrete) : Prop where
  kind : a.kind = b.kind
  inner : a.inner.map (form source) = b.inner.map (form other)

theorem alike_of_form_eq (h : form source a = form other b) : Alike source a other b where
  kind := by rw [← kind_form source, h, kind_form]
  inner := by rw [← children_form, ← children_form, h]

theorem children_eq_nil_iff (h : form source a = form other b) :
    a.children = [] ↔ b.children = [] := by
  by_cases ha : a.children = [] <;> by_cases hb : b.children = [] <;>
    simp_all [form_of_leaf, form_of_branch]

/-! ## Places -/

/-- The node at a place. Extra nodes do not count. -/
def at? (root : Concrete) : Position → Option Concrete
  | [] => some root
  | index :: below => root.inner[index]?.bind (·.at? below)

theorem Alike.map_form_at? (h : Alike source a other b) (index : Nat) (below : Position) :
    (a.at? (index :: below)).map (form source) = (b.at? (index :: below)).map (form other) := by
  have hchild : a.inner[index]?.map (form source) = b.inner[index]?.map (form other) := by
    rw [← List.getElem?_map, ← List.getElem?_map, h.inner]
  induction below generalizing a b index with
  | nil => simpa [at?] using hchild
  | cons next below ih =>
    simp only [at?.eq_2 _ index]
    obtain ⟨hc, hd⟩ | ⟨c, d, hc, hd, hform⟩ := cases_of_map_eq_map hchild
    · rw [hc, hd]
      rfl
    · have hbelow := alike_of_form_eq hform
      rw [hc, hd]
      apply ih hbelow
      rw [← List.getElem?_map, ← List.getElem?_map, hbelow.inner]

theorem Alike.form_eq (h : Alike source a other b) {index : Nat} {below : Position}
    {c d : Concrete} (hc : a.at? (index :: below) = some c)
    (hd : b.at? (index :: below) = some d) : form source c = form other d := by
  have hform := h.map_form_at? index below
  rw [hc, hd] at hform
  exact Option.some.inj hform

theorem Alike.below (h : Alike source a other b) {position : Position} {c d : Concrete}
    (hc : a.at? position = some c) (hd : b.at? position = some d) : Alike source c other d := by
  cases position with
  | nil =>
    cases hc
    cases hd
    exact h
  | cons index below => exact alike_of_form_eq (h.form_eq hc hd)

theorem mem_preorder_of_at? {root node : Concrete} {position : Position}
    (h : root.at? position = some node) : node ∈ root.preorder := by
  induction position generalizing root with
  | nil =>
    cases h
    rw [preorder_eq]
    exact List.mem_cons_self
  | cons index below ih =>
    obtain ⟨child, hchild, hnode⟩ := Option.bind_eq_some_iff.mp h
    have hmem : child ∈ root.children := List.mem_of_mem_filter (List.mem_of_getElem? hchild)
    rw [preorder_eq]
    exact List.mem_cons_of_mem root (List.mem_flatMap.mpr ⟨child, hmem, ih hnode⟩)

/-! ## Plain nodes -/

/-- Each text that may be recorded for the node is that of one leaf. -/
def IsPlain (node : Concrete) : Prop :=
  ∀ field ≠ Field.body, ∀ child, node.child? field = some child →
    child.isExtra = false ∧ child.children = []

theorem isPlain_of_leaf (h : a.children = []) : a.IsPlain := by
  intro field _ child hchild
  simp [child?, h] at hchild

theorem child?_eq_find?_inner {field : Field}
    (h : ∀ child, a.child? field = some child → child.isExtra = false) :
    a.child? field = a.inner.find? (·.field == some field) := by
  unfold child? at h ⊢
  unfold inner
  generalize a.children = children at h ⊢
  induction children with
  | nil => rfl
  | cons child rest ih =>
    by_cases hfield : child.field == some field
    · have hkept : child.isExtra = false := h child (by simp [hfield])
      simp [hfield, hkept]
    · simp only [List.find?_cons, hfield] at h ⊢
      rw [ih h]
      by_cases hkept : child.isExtra <;> simp [hfield, hkept]

theorem Alike.map_form_child? {field : Field} (h : Alike source a other b)
    (ha : ∀ child, a.child? field = some child → child.isExtra = false)
    (hb : ∀ child, b.child? field = some child → child.isExtra = false) :
    (a.child? field).map (form source) = (b.child? field).map (form other) := by
  have hfind (text : String) (nodes : List Concrete) :
      (nodes.find? (·.field == some field)).map (form text) =
        (nodes.map (form text)).find? (·.field == some field) := by
    rw [List.find?_map]
    simp only [Function.comp_def, field_form]
  rw [child?_eq_find?_inner ha, child?_eq_find?_inner hb, hfind, hfind, h.inner]

end Concrete

namespace Lowering

open Concrete

variable {source other : String} {a b : Concrete}

/-! ## Recorded texts -/

/-- The text of a leaf is part of its form, so alike plain nodes have the same texts. -/
theorem fieldText?_eq (field : Field) (hfield : field ≠ .body) (h : Alike source a other b)
    (ha : a.IsPlain) (hb : b.IsPlain) : fieldText? source a field = fieldText? other b field := by
  have hchild := h.map_form_child? (fun child hc => (ha field hfield child hc).1)
    (fun child hc => (hb field hfield child hc).1)
  unfold fieldText?
  obtain ⟨hc, hd⟩ | ⟨c, d, hc, hd, hform⟩ := cases_of_map_eq_map hchild
  · rw [hc, hd]
    rfl
  · rw [form_of_leaf (ha field hfield c hc).2, form_of_leaf (hb field hfield d hd).2,
      Form.leaf.injEq] at hform
    rw [hc, hd, Option.bind_some, Option.bind_some, hform.2.2]

theorem significant_eq_of_isPlain (h : Alike source a other b) (ha : a.IsPlain) (hb : b.IsPlain) :
    (category source a).significant = (category other b).significant := by
  have hname := fieldText?_eq .name (by decide) h ha hb
  have hcondition := fieldText?_eq .condition (by decide) h ha hb
  have hinitializer := fieldText?_eq .initializer (by decide) h ha hb
  have hincrement := fieldText?_eq .increment (by decide) h ha hb
  unfold category
  rw [h.kind]
  split <;>
    simp only [Category.significant, conditionText, clauseText?, hname, hcondition, hinitializer,
      hincrement]

/-- The nodes record one text, unless all that they record are the texts of single leaves. -/
def SameRecord (source : String) (a : Concrete) (other : String) (b : Concrete) : Prop :=
  ¬ (a.IsPlain ∧ b.IsPlain) → (category source a).significant = (category other b).significant

/-- Any two nodes at one place of the trees have the same record. -/
def SameRecords (source : String) (a : Concrete) (other : String) (b : Concrete) : Prop :=
  ∀ position c d, a.at? position = some c → b.at? position = some d → SameRecord source c other d

theorem significant_eq_iff (h : Alike source a other b) :
    (category source a).significant = (category other b).significant ↔
      SameRecord source a other b := by
  constructor
  · intro hsignificant _
    exact hsignificant
  · intro hrecord
    by_cases hplain : a.IsPlain ∧ b.IsPlain
    · exact significant_eq_of_isPlain h hplain.1 hplain.2
    · exact hrecord hplain

theorem sameRecords_of_kinds (h : Alike source a other b)
    (hrecords : ∀ c ∈ a.preorder, ∀ d ∈ b.preorder, c.kind = d.kind →
      (category source c).significant = (category other d).significant) :
    SameRecords source a other b := by
  intro position c d hc hd _
  exact hrecords c (mem_preorder_of_at? hc) d (mem_preorder_of_at? hd) (h.below hc hd).kind

/-! ## The lowered tree by positions -/

/-- The label of the node that a concrete node becomes. A leaf has no significant text. -/
def label (source : String) (node : Concrete) : String :=
  node.kind ++ if node.children.isEmpty then "" else (category source node).significant

theorem label_lower (source : String) (offset : Nat) (node : Concrete) :
    (lower source offset node).1.label = label source node := by
  cases node with
  | mk kind start stop field isExtra isError isMissing row column children =>
    by_cases h : children.isEmpty <;>
      simp [lower, label, h, Node.label, Node.leaf, Node.branch, Node.significant,
        Category.significant]

theorem children_lower (source : String) (offset : Nat) (node : Concrete) :
    (lower source offset node).1.children = (lowerAll source offset node.children).1 := by
  cases node with
  | mk kind start stop field isExtra isError isMissing row column children =>
    cases children <;> simp [lower, lowerAll, Node.leaf, Node.branch]

theorem getElem?_lowerAll (source : String) (offset : Nat) (nodes : List Concrete) (index : Nat) :
    ∃ start, (lowerAll source offset nodes).1[index]? =
      (nodes.filter (!·.isExtra))[index]?.map fun node => (lower source start node).1 := by
  induction nodes generalizing offset index with
  | nil => exact ⟨0, rfl⟩
  | cons node rest ih =>
    by_cases hextra : node.isExtra
    · obtain ⟨start, hstart⟩ := ih offset index
      exact ⟨start, by simpa [lowerAll, hextra] using hstart⟩
    · cases index with
      | zero => exact ⟨offset, by simp [lowerAll, hextra]⟩
      | succ index =>
        obtain ⟨start, hstart⟩ := ih (lower source offset node).2 index
        exact ⟨start, by simpa [lowerAll, hextra] using hstart⟩

-- Where a token starts depends on all the leaves before it. Labels do not, so it is enough that
-- there is some offset.
theorem map_label_at? {node : Node} {concrete : Concrete} {offset : Nat}
    (h : node.children = (lowerAll source offset concrete.children).1) (index : Nat)
    (below : Position) :
    (node.at? (index :: below)).map Node.label =
      (concrete.at? (index :: below)).map (label source) := by
  induction below generalizing node concrete offset index with
  | nil =>
    obtain ⟨start, hstart⟩ := getElem?_lowerAll source offset concrete.children index
    simp only [Node.at?, Concrete.at?, h, hstart, Concrete.inner]
    cases (concrete.children.filter (!·.isExtra))[index]? with
    | none => rfl
    | some child => exact congrArg some (label_lower source start child)
  | cons next below ih =>
    obtain ⟨start, hstart⟩ := getElem?_lowerAll source offset concrete.children index
    rw [Node.at?, Concrete.at?, h, hstart, Concrete.inner]
    cases (concrete.children.filter (!·.isExtra))[index]? with
    | none => rfl
    | some child => exact ih (children_lower source start child) next

theorem label_eq_iff (h : form source a = form other b) :
    label source a = label other b ↔ SameRecord source a other b := by
  have halike := alike_of_form_eq h
  rw [label, label, halike.kind, String.append_right_inj]
  by_cases hleaf : a.children = []
  · have hleaf' : b.children = [] := (children_eq_nil_iff h).mp hleaf
    have hrecord : SameRecord source a other b :=
      fun hplain => absurd ⟨isPlain_of_leaf hleaf, isPlain_of_leaf hleaf'⟩ hplain
    simp [hleaf, hleaf', hrecord]
  · have hleaf' : b.children ≠ [] := fun hb => hleaf ((children_eq_nil_iff h).mpr hb)
    simp only [List.isEmpty_eq_false_iff.mpr hleaf, List.isEmpty_eq_false_iff.mpr hleaf',
      Bool.false_eq_true, if_false]
    exact significant_eq_iff halike

end Lowering

namespace Document

open Concrete Lowering

variable {file file' : String} {language language' : Language} {source source' : String}
  {concrete concrete' : Concrete} {next next' : NodeId}

theorem sameAt_label_lowered :
    Node.SameAt Node.label (ofConcrete file language source concrete next).1.root
      (Node.branch 0 (category source concrete) concrete.kind
        (lowerAll source 0 concrete.children).1) := by
  have hroot : (lowerRoot source concrete).1 = Node.branch 0 (category source concrete)
      concrete.kind (lowerAll source 0 concrete.children).1 := by rw [lowerRoot_eq]
  rw [← hroot]
  apply Node.sameAt_of_content
  · intro node
    rw [Node.content_eq]
    rfl
  · exact Node.content_numbered next (lowerRoot source concrete).1

theorem label_ofConcrete :
    (ofConcrete file language source concrete next).1.root.label =
      concrete.kind ++ (category source concrete).significant :=
  sameAt_label_lowered.here

theorem map_label_ofConcrete (index : Nat) (below : Position) :
    ((ofConcrete file language source concrete next).1.root.at? (index :: below)).map Node.label =
      (concrete.at? (index :: below)).map (label source) := by
  rw [sameAt_label_lowered, map_label_at? rfl]

/-- For trees of one form, the records make all the difference between the labels. -/
theorem sameAt_label_iff (h : Alike source concrete source' concrete') :
    Node.SameAt Node.label (ofConcrete file language source concrete next).1.root
        (ofConcrete file' language' source' concrete' next').1.root ↔
      SameRecords source concrete source' concrete' := by
  -- The root is a branch even where it is empty, so it is looked at on its own.
  have hroot : concrete.kind ++ (category source concrete).significant =
      concrete'.kind ++ (category source' concrete').significant ↔
        SameRecord source concrete source' concrete' := by
    rw [h.kind, String.append_right_inj]
    exact significant_eq_iff h
  rw [← label_ofConcrete, ← label_ofConcrete] at hroot
  constructor
  · intro hlabel position c d hc hd
    cases position with
    | nil =>
      cases hc
      cases hd
      exact hroot.mp hlabel.here
    | cons index below =>
      apply (label_eq_iff (h.form_eq hc hd)).mp
      have hposition := hlabel (index :: below)
      rw [map_label_ofConcrete, map_label_ofConcrete, hc, hd] at hposition
      exact Option.some.inj hposition
  · intro hrecords position
    cases position with
    | nil => exact congrArg some (hroot.mpr (hrecords [] concrete concrete' rfl rfl))
    | cons index below =>
      rw [map_label_ofConcrete, map_label_ofConcrete]
      obtain ⟨hc, hd⟩ | ⟨c, d, hc, hd, hform⟩ := cases_of_map_eq_map (h.map_form_at? index below)
      · rw [hc, hd]
        rfl
      · rw [hc, hd, Option.map_some, Option.map_some,
          (label_eq_iff hform).mpr (hrecords _ c d hc hd)]

/-- Two texts whose trees are of one form have the same anchors at every position as long as the
texts that are recorded over more than one leaf are the same. Where these differ, so do the anchors
at some position, unless two digests collide. -/
theorem sameAt_anchor_of_alike (file file' : String) (language language' : Language)
    (next next' : NodeId) (h : Alike source concrete source' concrete') :
    let document := (ofConcrete file language source concrete next).1
    let other := (ofConcrete file' language' source' concrete' next').1
    (SameRecords source concrete source' concrete' →
        Node.SameAt Node.anchor document.root other.root) ∧
      (Node.DigestsApart (document.root.preorder ++ other.root.preorder) →
        Node.SameAt Node.anchor document.root other.root →
          SameRecords source concrete source' concrete') := by
  intro document other
  constructor
  · intro hrecords
    exact ((sameAt_label_iff h).mpr hrecords).anchors
  · intro hapart hanchor
    exact (sameAt_label_iff h).mp (hanchor.labels hapart)

def sampleComment (start stop : Nat) : Concrete :=
  sampleConcrete "comment" start stop true []

/-- A conditional that guards an empty statement, with comments around the name in the condition and
after the condition. -/
def sampleGuard (before after between : List Concrete) (name close last : Nat) : Concrete :=
  let condition := sampleConcrete "parenthesized_expression" 3 (close + 1) false
    ([sampleConcrete "(" 3 4 false []] ++ before ++
      [sampleConcrete "identifier" name (name + 1) false []] ++ after ++
      [sampleConcrete ")" close (close + 1) false []])
  sampleConcrete "program" 0 (last + 1) false
    [sampleConcrete "if_statement" 0 (last + 1) false
      ([sampleConcrete "if" 0 2 false [], { condition with field := some .condition }] ++ between ++
        [sampleConcrete "empty_statement" last (last + 1) false
          [sampleConcrete ";" last (last + 1) false []]])]

set_option maxRecDepth 100000 in
-- A comment in front of the guarded statement is not seen: the condition is what it was.
theorem sameAt_anchor_sampleGuard :
    let source := "if (a);"
    let spaced := "if (a) /* c */\n;"
    let concrete := sampleGuard [] [] [] 4 5 6
    let concrete' := sampleGuard [] [] [sampleComment 7 14] 4 5 15
    let document := (ofConcrete "a.ts" .typescript source concrete 0).1
    let other := (ofConcrete "a.ts" .typescript spaced concrete' 0).1
    Alike source concrete spaced concrete' ∧ SameRecords source concrete spaced concrete' ∧
      Node.DigestsApart (document.root.preorder ++ other.root.preorder) ∧
      Node.SameAt Node.anchor document.root other.root := by
  intro source spaced concrete concrete' document other
  obtain ⟨hkind, hinner, hrecords, hapart⟩ : concrete.kind = concrete'.kind ∧
      concrete.inner.map (form source) = concrete'.inner.map (form spaced) ∧
      (∀ c ∈ concrete.preorder, ∀ d ∈ concrete'.preorder, c.kind = d.kind →
        (category source c).significant = (category spaced d).significant) ∧
      Node.DigestsApart (document.root.preorder ++ other.root.preorder) := by
    decide +kernel
  have halike : Alike source concrete spaced concrete' := ⟨hkind, hinner⟩
  have hsame : SameRecords source concrete spaced concrete' := sameRecords_of_kinds halike hrecords
  exact ⟨halike, hsame, hapart,
    (sameAt_anchor_of_alike "a.ts" "a.ts" .typescript .typescript 0 0 halike).1 hsame⟩

set_option maxRecDepth 100000 in
-- Comments in the condition are seen, although the two trees are of one form.
theorem not_sameAt_anchor_sampleGuard :
    let source := "if (a);"
    let spaced := "if (/* c */ a /* d */);"
    let concrete := sampleGuard [] [] [] 4 5 6
    let concrete' := sampleGuard [sampleComment 4 11] [sampleComment 14 21] [] 12 21 22
    let document := (ofConcrete "a.ts" .typescript source concrete 0).1
    let other := (ofConcrete "a.ts" .typescript spaced concrete' 0).1
    InOrder source (leavesAll concrete.children) ∧ InOrder spaced (leavesAll concrete'.children) ∧
      Alike source concrete spaced concrete' ∧
      ¬ Node.SameAt Node.anchor document.root other.root := by
  intro source spaced concrete concrete' document other
  obtain ⟨hkind, hinner, hanchor⟩ : concrete.kind = concrete'.kind ∧
      concrete.inner.map (form source) = concrete'.inner.map (form spaced) ∧
      document.root.anchor ≠ other.root.anchor := by
    decide +kernel
  refine ⟨⟨by decide, by decide, by decide⟩, ⟨by decide, by decide, by decide⟩,
    ⟨hkind, hinner⟩, ?_⟩
  intro hsame
  exact hanchor hsame.here

end Document

end Graft
