import Graft.Proofs.Agreement
import Graft.Proofs.Pairing
import Mathlib.Algebra.Group.Nat.Defs

/-! # What an anchor tells of a tree

Digests are taken of kinds, texts and anchors with nothing between them, so a text may swallow an
anchor. Among trees of one shape it cannot: the anchors below a node take up as many digits in both,
and what stands before them is the label. So a label that differs is seen at the root.
-/

namespace Graft

theorem eq_of_flatMap_eq {α β : Type} {f : α → List β} {n : Nat}
    (hlength : ∀ x, (f x).length = n) {xs ys : List α}
    (hinjective : ∀ x ∈ xs, ∀ y ∈ ys, f x = f y → x = y) (hcount : xs.length = ys.length)
    (h : xs.flatMap f = ys.flatMap f) : xs = ys := by
  induction xs generalizing ys with
  | nil =>
    cases ys with
    | nil => rfl
    | cons y ys => cases hcount
  | cons x xs ih =>
    cases ys with
    | nil => cases hcount
    | cons y ys =>
      rw [List.flatMap_cons, List.flatMap_cons] at h
      obtain ⟨hfirst, hrest⟩ := List.append_inj h (by rw [hlength, hlength])
      have hrestInjective : ∀ x ∈ xs, ∀ y ∈ ys, f x = f y → x = y :=
        fun x hx y hy => hinjective x (List.mem_cons_of_mem _ hx) y (List.mem_cons_of_mem _ hy)
      rw [hinjective x List.mem_cons_self y List.mem_cons_self hfirst,
        ih hrestInjective (by simpa using hcount) hrest]

/-! ## Digits of a digest -/

namespace Sha256

/-- Every word is below the modulus. -/
def Words.Bounded (s : Words) : Prop :=
  ∀ w ∈ s.toList, w < modulus

theorem bounded_add (s t : Words) : (s.add t).Bounded := by
  have hmod (x y : Nat) : add x y < modulus := Nat.mod_lt _ (by decide)
  simp [Words.Bounded, Words.toList, Words.add, hmod]

theorem bounded_absorb (n : Nat) (words : List Nat) {s : Words} (h : s.Bounded) :
    (absorb n words s).Bounded := by
  induction n generalizing words s with
  | zero => exact h
  | succ n ih => exact ih (words.drop 16) (bounded_add _ _)

theorem bounded_hash (message : List UInt8) : (hash message).Bounded :=
  bounded_absorb _ _ (by unfold Words.Bounded; decide)

def hexBytes (w : Nat) : List UInt8 :=
  (hexWord w).map Char.toUInt8

theorem hexDigit_injective : ∀ n < 16, ∀ m < 16,
    (hexDigit n).toUInt8 = (hexDigit m).toUInt8 → n = m := by
  decide

theorem eq_of_hexDigits (n : Nat) {w v : Nat} (hw : w < 16 ^ n) (hv : v < 16 ^ n)
    (h : ∀ k < n, w / 16 ^ k % 16 = v / 16 ^ k % 16) : w = v := by
  induction n generalizing w v with
  | zero =>
    rw [Nat.pow_zero] at hw hv
    omega
  | succ n ih =>
    have hlast : w % 16 = v % 16 := by simpa using h 0 (Nat.succ_pos n)
    have hrest : w / 16 = v / 16 := by
      rw [Nat.pow_succ] at hw hv
      apply ih (by omega) (by omega)
      intro k hk
      have hdigit := h (k + 1) (by omega)
      rwa [Nat.pow_succ, Nat.mul_comm, ← Nat.div_div_eq_div_mul, ← Nat.div_div_eq_div_mul] at hdigit
    omega

theorem hexBytes_injective {w v : Nat} (hw : w < modulus) (hv : v < modulus)
    (h : hexBytes w = hexBytes v) : w = v := by
  simp only [hexBytes, hexWord, List.map_map] at h
  apply eq_of_hexDigits 8 hw hv
  intro k hk
  have hmem : ∀ k < 8, 4 * k ∈ [28, 24, 20, 16, 12, 8, 4, 0] := by decide
  have hdigit := List.map_inj_left.mp h (4 * k) (hmem k hk)
  have hsame := hexDigit_injective _ (Nat.mod_lt _ (by decide)) _ (Nat.mod_lt _ (by decide)) hdigit
  rwa [Nat.shiftRight_eq_div_pow, Nat.shiftRight_eq_div_pow, Nat.pow_mul] at hsame

theorem eq_of_digits {s t : Words} (hs : s.Bounded) (ht : t.Bounded)
    (h : s.digits.map Char.toUInt8 = t.digits.map Char.toUInt8) : s = t := by
  rw [Words.digits, Words.digits, List.map_flatMap, List.map_flatMap] at h
  have hlength : ∀ w, (hexBytes w).length = 8 := fun w => by simp [hexBytes, hexWord]
  have hinjective : ∀ w ∈ s.toList, ∀ v ∈ t.toList, hexBytes w = hexBytes v → w = v :=
    fun w hw v hv => hexBytes_injective (hs w hw) (ht v hv)
  have hwords : s.toList = t.toList := eq_of_flatMap_eq hlength hinjective rfl h
  cases s
  cases t
  simpa [Words.toList] using hwords

end Sha256

/-! ## Trees of one shape -/

namespace Node

variable {a b : Node}

/-- The digits of the anchors of nodes are as good as the anchors. -/
theorem anchor_eq_of_digits
    (h : a.anchor.digits.map Char.toUInt8 = b.anchor.digits.map Char.toUInt8) :
    a.anchor = b.anchor := by
  rw [anchor_eq_hash, anchor_eq_hash] at h ⊢
  rw [Sha256.eq_of_digits (Sha256.bounded_hash _) (Sha256.bounded_hash _) h]

theorem anchors_eq_of_hashed_eq (h : a.hashed = b.hashed)
    (hlength : a.children.length = b.children.length) :
    a.children.map anchor = b.children.map anchor := by
  have hlabel := label_eq_of_hashed_eq h hlength
  rw [hashed_eq, hashed_eq, hlabel, List.append_cancel_left_eq] at h
  apply eq_of_flatMap_eq (n := Anchor.hexLength) _ _ (by simpa using hlength) h
  · intro anchor
    rw [List.length_map, Anchor.length_digits]
  · intro x hx y hy hdigits
    obtain ⟨c, -, rfl⟩ := List.mem_map.mp hx
    obtain ⟨d, -, rfl⟩ := List.mem_map.mp hy
    exact anchor_eq_of_digits hdigits

/-- The trees have as many children as each other at every place that is in both. -/
def SameShape (a b : Node) : Prop :=
  ∀ position c d, a.at? position = some c → b.at? position = some d →
    c.children.length = d.children.length

theorem sameShape_iff : SameShape a b ↔ List.Forall₂ SameShape a.children b.children := by
  constructor
  · intro h
    refine List.forall₂_iff_get.mpr ⟨h [] a b rfl rfl, ?_⟩
    intro index ha hb position c d hc hd
    apply h (index :: position) c d
    · simpa [at?, ha] using hc
    · simpa [at?, hb] using hd
  · intro h position c d hc hd
    cases position with
    | nil =>
      cases hc
      cases hd
      exact h.length_eq
    | cons index below =>
      obtain ⟨e, he, hc⟩ := Option.bind_eq_some_iff.mp hc
      obtain ⟨f, hf, hd⟩ := Option.bind_eq_some_iff.mp hd
      obtain ⟨hlt, rfl⟩ := List.getElem?_eq_some_iff.mp he
      obtain ⟨hlt', rfl⟩ := List.getElem?_eq_some_iff.mp hf
      exact (List.forall₂_iff_get.mp h).2 index hlt hlt' below c d hc hd

theorem SameShape.below (h : SameShape a b) {position : Position} {c d : Node}
    (hc : a.at? position = some c) (hd : b.at? position = some d) : SameShape c d := by
  intro further e f he hf
  apply h (position ++ further)
  · rw [at?_append, hc, Option.bind_some, he]
  · rw [at?_append, hd, Option.bind_some, hf]

theorem preorder_subset_of_at? {root node : Node} {position : Position}
    (h : root.at? position = some node) : node.preorder ⊆ root.preorder :=
  preorder_subset_of_mem root node (mem_preorder_of_at? h)

theorem DigestsApart.below (h : DigestsApart (a.preorder ++ b.preorder)) {position : Position}
    {c d : Node} (hc : a.at? position = some c) (hd : b.at? position = some d) :
    DigestsApart (c.preorder ++ d.preorder) := by
  have hsub : c.preorder ++ d.preorder ⊆ a.preorder ++ b.preorder := by
    rw [List.append_subset]
    exact ⟨List.subset_append_of_subset_left _ (preorder_subset_of_at? hc),
      List.subset_append_of_subset_right _ (preorder_subset_of_at? hd)⟩
  exact fun x hx y hy => h x (hsub hx) y (hsub hy)

theorem hashed_eq_of_anchor_eq (h : DigestsApart (a.preorder ++ b.preorder))
    (heq : a.anchor = b.anchor) : a.hashed = b.hashed :=
  h a (List.mem_append_left _ a.self_mem_preorder) b (List.mem_append_right _ b.self_mem_preorder)
    heq

theorem sameAt_label_of_anchor_eq (hshape : SameShape a b)
    (hapart : DigestsApart (a.preorder ++ b.preorder)) (h : a.anchor = b.anchor) :
    SameAt label a b := by
  intro position
  -- Two nodes with one anchor have the same bytes, and so the same labels. Their children have the
  -- same anchors, from where it goes on.
  induction position generalizing a b with
  | nil =>
    have hhashed := hashed_eq_of_anchor_eq hapart h
    exact congrArg some (label_eq_of_hashed_eq hhashed (hshape [] a b rfl rfl))
  | cons index below ih =>
    have hhashed := hashed_eq_of_anchor_eq hapart h
    have hanchors := anchors_eq_of_hashed_eq hhashed (hshape [] a b rfl rfl)
    have hchild : a.children[index]?.map anchor = b.children[index]?.map anchor := by
      rw [← List.getElem?_map, hanchors, List.getElem?_map]
    obtain ⟨hc, hd⟩ | ⟨c, d, hc, hd, hcd⟩ := cases_of_map_eq_map hchild
    · simp only [at?, hc, hd, Option.bind_none]
    · have hatc : a.at? [index] = some c := by simp [at?, hc]
      have hatd : b.at? [index] = some d := by simp [at?, hd]
      simp only [at?, hc, hd, Option.bind_some]
      exact ih (hshape.below hatc hatd) (hapart.below hatc hatd) hcd

theorem anchor_eq_iff_sameAt_label (hshape : SameShape a b)
    (hapart : DigestsApart (a.preorder ++ b.preorder)) :
    a.anchor = b.anchor ↔ SameAt label a b :=
  ⟨sameAt_label_of_anchor_eq hshape hapart, anchor_eq_of_sameAt a b⟩

/-! ## A change is seen from above -/

theorem exists_at?_of_prefix {root node : Node} {above position : Position}
    (h : root.at? position = some node) (habove : above <+: position) :
    ∃ outer, root.at? above = some outer := by
  obtain ⟨below, rfl⟩ := habove
  rw [at?_append] at h
  obtain ⟨outer, houter, -⟩ := Option.bind_eq_some_iff.mp h
  exact ⟨outer, houter⟩

theorem anchor_ne_above (hshape : SameShape a b)
    (hapart : DigestsApart (a.preorder ++ b.preorder)) {position above : Position} {c d e f : Node}
    (hc : a.at? position = some c) (hd : b.at? position = some d) (hne : c.label ≠ d.label)
    (habove : above <+: position) (he : a.at? above = some e) (hf : b.at? above = some f) :
    e.anchor ≠ f.anchor := by
  intro heq
  obtain ⟨below, rfl⟩ := habove
  have hsame := sameAt_label_of_anchor_eq (hshape.below he hf) (hapart.below he hf) heq below
  rw [at?_append, he, Option.bind_some] at hc
  rw [at?_append, hf, Option.bind_some] at hd
  rw [hc, hd] at hsame
  exact hne (Option.some.inj hsame)

theorem mem_pairings_of_anchors_ne {position : Position} {c d : Node}
    (hc : a.at? position = some c) (hd : b.at? position = some d)
    (h : ∀ above, above <+: position → ∀ e f, a.at? above = some e → b.at? above = some f →
      e.anchor ≠ f.anchor) :
    ⟨position, c, d⟩ ∈ a.pairings b := by
  induction position generalizing a b with
  | nil =>
    cases hc
    cases hd
    exact self_mem_pairings _ _
  | cons index below ih =>
    have hroot : a.anchor ≠ b.anchor := h [] List.nil_prefix a b rfl rfl
    obtain ⟨first, hfirst, hc⟩ := Option.bind_eq_some_iff.mp hc
    obtain ⟨second, hsecond, hd⟩ := Option.bind_eq_some_iff.mp hd
    have hbelow : ⟨below, c, d⟩ ∈ first.pairings second := by
      apply ih hc hd
      intro above habove e f he hf
      apply h (index :: above) (List.cons_prefix_cons.mpr ⟨rfl, habove⟩)
      · rw [at?, hfirst, Option.bind_some, he]
      · rw [at?, hsecond, Option.bind_some, hf]
    have hmem := mem_pairingsAll 0 hfirst hsecond hbelow
    rw [Nat.zero_add] at hmem
    exact pairingsAll_subset_pairings hroot hmem

theorem body?_eq_at? {node : Node} {index : Nat} (h : node.category.body? = some index) :
    node.body? = node.at? [index] := by
  rw [body?, h, Option.bind_some, at?]
  cases node.children[index]? <;> rfl

theorem replaceBody_mem_changes {position : Position} {c d oldBody newBody : Node}
    (hpair : ⟨position, c, d⟩ ∈ a.pairings b) (hne : c.anchor ≠ d.anchor)
    (hold : c.body? = some oldBody) (hnew : d.body? = some newBody)
    (hbodies : oldBody.anchor ≠ newBody.anchor) :
    .replaceBody c.anchor newBody ∈ a.changes b := by
  rw [changes_eq_flatMap_pairings, List.mem_flatMap]
  refine ⟨⟨position, c, d⟩, hpair, ?_⟩
  simp [Pairing.operations, changeOfPair, hold, hnew, hne, hbodies]

end Node

/-! ## Changes that change a label -/

theorem Category.labelled_injective (label : String) : Function.Injective (labelled label) := by
  intro name other h
  cases name <;> cases other <;> simp_all [labelled]

/-- The categories differ in a declared name or in a condition. -/
inductive Category.Renamed : Category → Category → Prop
  | function {name other : Option String} {isGenerator isGenerator' : Bool}
      {body body' : Option Nat} (h : name ≠ other) :
      Renamed (.function name isGenerator body) (.function other isGenerator' body')
  | classDef {name other : Option String} (h : name ≠ other) :
      Renamed (.classDef name) (.classDef other)
  | method {name other : Option String} (h : name ≠ other) : Renamed (.method name) (.method other)
  | binding {name other : Option String} (h : name ≠ other) :
      Renamed (.binding name) (.binding other)
  | conditional {condition other : String} (h : condition ≠ other) :
      Renamed (.conditional condition) (.conditional other)
  | whileLoop {condition other : String} (h : condition ≠ other) :
      Renamed (.whileLoop condition) (.whileLoop other)
  | forLoop {initializer increment condition other : Option String}
      (h : condition.getD "" ≠ other.getD "") :
      Renamed (.forLoop initializer condition increment) (.forLoop initializer other increment)

theorem Category.Renamed.significant_ne {category changed : Category}
    (h : Renamed category changed) : category.significant ≠ changed.significant := by
  cases h with
  | function h => exact (labelled_injective "Function").ne h
  | classDef h => exact (labelled_injective "Class").ne h
  | method h => exact (labelled_injective "Method").ne h
  | binding h => exact (labelled_injective "Variable").ne h
  | conditional h => exact (String.append_right_inj "If:").not.mpr h
  | whileLoop h => exact (String.append_right_inj "While:").not.mpr h
  | @forLoop initializer increment _ _ h =>
    intro heq
    have hclauses := (String.append_left_inj _).mp heq
    have hcondition := (String.append_left_inj _).mp hclauses
    exact h ((String.append_right_inj _).mp hcondition)

/-- The nodes are tokens that are named by their text, and the text differs, or they are of one kind
and differ in a declared name or in a condition. -/
inductive Node.Altered (a b : Node) : Prop
  | token (ha : a.category = .other) (hb : b.category = .other)
      (hkind : a.token.map (·.text) = some a.grammar)
      (hkind' : b.token.map (·.text) = some b.grammar)
      (h : a.token.map (·.text) ≠ b.token.map (·.text))
  | renamed (hkind : a.grammar = b.grammar) (h : a.category.Renamed b.category)

theorem Node.Altered.label_ne {a b : Node} (h : Altered a b) : a.label ≠ b.label := by
  cases h with
  | token ha hb hkind hkind' h =>
    rw [hkind, hkind'] at h
    simpa [label, significant, Category.significant, ha, hb] using h
  | renamed hkind h =>
    rw [label, label, hkind]
    exact (String.append_right_inj b.grammar).not.mpr h.significant_ne

namespace Document

/-- Anchors of trees of one shape. The roots have one anchor exactly when the labels are the same
everywhere. So a token that is named by its text, a declared name or a condition changes the anchors
of all that stand above it: the comparison comes to every pair there, and every function that holds
the change in its body gets the new body. -/
theorem anchors_faithful (old new : Document) (hshape : old.root.SameShape new.root)
    (hapart : Node.DigestsApart (old.root.preorder ++ new.root.preorder)) :
    (old.root.anchor = new.root.anchor ↔ Node.SameAt Node.label old.root new.root) ∧
    (∀ c d : Node, c.Altered d → c.label ≠ d.label) ∧
    ∀ position c d, old.root.at? position = some c → new.root.at? position = some d →
      c.label ≠ d.label →
      (∀ above, above <+: position → ∃ e f, old.root.at? above = some e ∧
        new.root.at? above = some f ∧ e.anchor ≠ f.anchor ∧
        ⟨above, e, f⟩ ∈ old.root.pairings new.root) ∧
      ∀ above index e f body, above ++ [index] <+: position → old.root.at? above = some e →
        new.root.at? above = some f → e.category.body? = some index →
        f.category.body? = some index → f.body? = some body →
        .replaceBody e.anchor body ∈ (old.diff new).value.operations := by
  refine ⟨Node.anchor_eq_iff_sameAt_label hshape hapart, fun c d h => h.label_ne, ?_⟩
  intro position c d hc hd hne
  have hanchors : ∀ above, above <+: position → ∀ e f, old.root.at? above = some e →
      new.root.at? above = some f → e.anchor ≠ f.anchor :=
    fun above habove e f => Node.anchor_ne_above hshape hapart hc hd hne habove
  have hpairs : ∀ above e f, above <+: position → old.root.at? above = some e →
      new.root.at? above = some f → ⟨above, e, f⟩ ∈ old.root.pairings new.root := by
    intro above e f habove he hf
    apply Node.mem_pairings_of_anchors_ne he hf
    exact fun outer houter => hanchors outer (houter.trans habove)
  refine ⟨?_, ?_⟩
  · intro above habove
    obtain ⟨e, he⟩ := Node.exists_at?_of_prefix hc habove
    obtain ⟨f, hf⟩ := Node.exists_at?_of_prefix hd habove
    exact ⟨e, f, he, hf, hanchors above habove e f he hf, hpairs above e f habove he hf⟩
  · intro above index e f body hinside he hf hindex hindex' hbody
    have habove : above <+: position := (List.prefix_append above [index]).trans hinside
    obtain ⟨oldBody, hold⟩ := Node.exists_at?_of_prefix hc hinside
    obtain ⟨newBody, hnew⟩ := Node.exists_at?_of_prefix hd hinside
    have hbodies := hanchors _ hinside oldBody newBody hold hnew
    rw [Node.at?_append, he, Option.bind_some, ← Node.body?_eq_at? hindex] at hold
    rw [Node.at?_append, hf, Option.bind_some, ← Node.body?_eq_at? hindex', hbody] at hnew
    cases hnew
    rw [operations_diff]
    exact Node.replaceBody_mem_changes (hpairs above e f habove he hf)
      (hanchors above habove e f he hf) hold hbody hbodies

/-- A function that gives back two names with an operator between them. -/
def sampleOperator (operator : String) : Document :=
  ⟨.branch 0 .other "program" [sampleFunction "f" [.branch 0 .other "binary_expression"
    [.leaf 0 "identifier" ⟨" ", "a"⟩, .leaf 0 operator ⟨" ", operator⟩,
      .leaf 0 "identifier" ⟨" ", "b"⟩]]], "\n", [], "f.ts", .typescript⟩

set_option maxRecDepth 100000 in
-- The operator stands three levels below the function, which gets its new body.
theorem anchors_faithful_sampleOperator :
    let old := sampleOperator "+"
    let new := sampleOperator "*"
    (old.root.SameShape new.root ∧
      Node.DigestsApart (old.root.preorder ++ new.root.preorder)) ∧
    old.root.anchor ≠ new.root.anchor ∧
    ∃ e f body, old.root.at? [0] = some e ∧ new.root.at? [0] = some f ∧ f.body? = some body ∧
      .replaceBody e.anchor body ∈ (old.diff new).value.operations := by
  intro old new
  have hleaf {grammar grammar' : String} {token token' : Token} :
      (Node.leaf 0 grammar token).SameShape (.leaf 0 grammar' token') := Node.sameShape_iff.mpr .nil
  have hshape : old.root.SameShape new.root := by
    refine Node.sameShape_iff.mpr (.cons (Node.sameShape_iff.mpr (.cons hleaf ?_)) .nil)
    refine .cons (Node.sameShape_iff.mpr (.cons (Node.sameShape_iff.mpr ?_) .nil)) .nil
    exact .cons hleaf (.cons hleaf (.cons hleaf .nil))
  have hapart : Node.DigestsApart (old.root.preorder ++ new.root.preorder) := by decide +kernel
  obtain ⟨hroot, haltered, hseen⟩ := anchors_faithful old new hshape hapart
  have hoperator : (Node.leaf 0 "+" ⟨" ", "+"⟩).label ≠ (Node.leaf 0 "*" ⟨" ", "*"⟩).label :=
    haltered _ _ (.token rfl rfl rfl rfl (by decide))
  obtain ⟨habove, hbodies⟩ := hseen [0, 1, 0, 1] _ _ rfl rfl hoperator
  refine ⟨⟨hshape, hapart⟩, ?_, ?_⟩
  · obtain ⟨e, f, he, hf, hne, -⟩ := habove [] List.nil_prefix
    cases he
    cases hf
    exact hne
  · exact ⟨_, _, _, rfl, rfl, rfl, hbodies [0] 1 _ _ _ (by decide) rfl rfl rfl rfl rfl⟩

end Document

end Graft
