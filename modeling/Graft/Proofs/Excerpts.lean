import Graft.Proofs.Faults
import Graft.Proofs.Voting

/-! # The text shown at a fault

Whether a text is cut is decided by its bytes, but characters are counted when it is. So a text of
more than fifty bytes can have too few characters to be cut, and gets the three dots all the same.
Here is exactly when what is shown is a truthful excerpt.
-/

namespace Graft

namespace Fault

/-- The whole text, or a proper part of it from the start and three dots. -/
def IsExcerpt (context text : String) : Prop :=
  context = text ∨
    ∃ part rest, rest ≠ "" ∧ text = part ++ rest ∧ context = part ++ "..."

/-! ## What is shown and what is cut off -/

def shown (text : String) : String :=
  String.ofList (text.toList.take contextKept)

def hidden (text : String) : String :=
  String.ofList (text.toList.drop contextKept)

variable {text : String}

theorem shown_append_hidden (text : String) : shown text ++ hidden text = text := by
  rw [shown, hidden, ← String.ofList_append, List.take_append_drop, String.ofList_toList]

theorem hidden_ne_empty_iff : hidden text ≠ "" ↔ contextKept < text.length := by
  rw [ne_eq, ← String.toList_inj, hidden, String.toList_ofList, String.toList_empty,
    List.drop_eq_nil_iff, String.length_toList, Nat.not_le]

theorem snippet_of_le (h : text.utf8ByteSize ≤ contextLimit) : snippet text = text :=
  if_neg h.not_gt

theorem snippet_of_lt (h : contextLimit < text.utf8ByteSize) :
    snippet text = shown text ++ "..." :=
  if_pos h

/-- A text of which nothing is hidden is shown with three dots too many. -/
theorem isExcerpt_dots_iff : IsExcerpt (shown text ++ "...") text ↔ hidden text ≠ "" := by
  constructor
  · rintro hexcerpt hnone
    have hshown : shown text = text := by
      have happend := shown_append_hidden text
      rwa [hnone, String.append_empty] at happend
    rw [hshown] at hexcerpt
    obtain hwhole | ⟨part, rest, hrest, htext, hdots⟩ := hexcerpt
    · have hlength := congrArg String.length hwhole
      simp at hlength
    · obtain rfl : text = part := (String.append_left_inj "...").mp hdots
      exact hrest (String.append_eq_left_iff.mp htext.symm)
  · intro hsome
    exact Or.inr ⟨shown text, hidden text, hsome, (shown_append_hidden text).symm, rfl⟩

theorem isExcerpt_snippet_iff :
    IsExcerpt (snippet text) text ↔
      text.utf8ByteSize ≤ contextLimit ∨ contextKept < text.length := by
  rcases Nat.lt_or_ge contextLimit text.utf8ByteSize with hlong | hshort
  · rw [snippet_of_lt hlong, isExcerpt_dots_iff, hidden_ne_empty_iff, or_iff_right hlong.not_ge]
  · rw [snippet_of_le hshort]
    exact iff_of_true (Or.inl rfl) (Or.inl hshort)

theorem utf8ByteSize_snippet_le_iff :
    (snippet text).utf8ByteSize ≤ text.utf8ByteSize ↔
      text.utf8ByteSize ≤ contextLimit ∨ 3 ≤ (hidden text).utf8ByteSize := by
  rcases Nat.lt_or_ge contextLimit text.utf8ByteSize with hlong | hshort
  · have hsize : text.utf8ByteSize = (shown text).utf8ByteSize + (hidden text).utf8ByteSize := by
      rw [← String.utf8ByteSize_append, shown_append_hidden]
    have hdots : (shown text ++ "...").utf8ByteSize = (shown text).utf8ByteSize + 3 := by
      rw [String.utf8ByteSize_append]
      rfl
    rw [snippet_of_lt hlong, hdots, or_iff_right hlong.not_ge]
    omega
  · rw [snippet_of_le hshort]
    exact iff_of_true le_rfl (Or.inl hshort)

theorem length_snippet_le (text : String) : (snippet text).length ≤ contextLimit := by
  rcases Nat.lt_or_ge contextLimit text.utf8ByteSize with hlong | hshort
  · have hshown : (shown text).length ≤ contextKept := by
      rw [shown, String.length_ofList]
      exact List.length_take_le _ _
    rw [snippet_of_lt hlong, String.length_append]
    exact Nat.add_le_add_right hshown 3
  · have hbytes := Text.length_le_utf8ByteSize text
    rw [String.length_toList] at hbytes
    rw [snippet_of_le hshort]
    exact hbytes.trans hshort

/-! ## Faults of a tree -/

/-- Every fault of a tree is reported with an excerpt of at most fifty characters. The excerpt is
truthful exactly when the text has at most fifty bytes or more than the 47 characters that are kept.
It has no more bytes than the text exactly when the text has at most fifty, or what is cut off has
as many as the three dots. -/
theorem isExcerpt_context_iff {source : String} {root node : Concrete}
    (hnode : node ∈ root.preorder) (hfault : node.isFault = true) (hrange : node.start ≤ node.stop)
    (hstart : Text.IsBoundary source node.start) (hstop : Text.IsBoundary source node.stop) :
    let text := Text.slice source node.start node.stop
    let fault := ofConcrete source node
    fault ∈ root.faults source ∧
      (IsExcerpt fault.context text ↔ text.utf8ByteSize ≤ 50 ∨ 47 < text.length) ∧
      (fault.context.utf8ByteSize ≤ text.utf8ByteSize ↔
        text.utf8ByteSize ≤ 50 ∨ 3 ≤ (String.ofList (text.toList.drop 47)).utf8ByteSize) ∧
      fault.context.length ≤ 50 := by
  intro text fault
  have hmem : fault ∈ root.faults source := by
    rw [Concrete.faults_eq]
    exact List.mem_map_of_mem (List.mem_filter.mpr ⟨hnode, hfault⟩)
  have hcontext : fault.context = snippet text := by
    simp only [fault, ofConcrete, Text.slice?_eq_some hrange hstart hstop, Option.map_some,
      Option.getD_some, text]
  rw [hcontext]
  exact ⟨hmem, isExcerpt_snippet_iff, utf8ByteSize_snippet_le_iff, length_snippet_le text⟩

/-- An error from the start of a text up to a place in it. -/
def sampleError (stop : Nat) (children : List Concrete) : Concrete :=
  { Document.sampleConcrete "ERROR" 0 stop true children with isError := true }

def sampleOperators : String :=
  String.join (List.replicate 60 "%")

set_option maxRecDepth 100000 in
theorem isExcerpt_context_sampleOperators :
    let error := sampleError 60 []
    let fault := ofConcrete sampleOperators error
    fault ∈ (Document.sampleConcrete "program" 0 60 false [error]).faults sampleOperators ∧
      IsExcerpt fault.context sampleOperators ∧
      fault.context.utf8ByteSize ≤ sampleOperators.utf8ByteSize ∧ fault.context.length ≤ 50 := by
  intro error fault
  have hnode : error ∈ (Document.sampleConcrete "program" 0 60 false [error]).preorder :=
    Concrete.preorder_subset_of_child List.mem_cons_self error.self_mem_preorder
  have htext : Text.slice sampleOperators error.start error.stop = sampleOperators :=
    Text.slice_zero_utf8ByteSize sampleOperators
  obtain ⟨hmem, hexcerpt, hsize, hlength⟩ := isExcerpt_context_iff hnode rfl (by decide)
    (Text.isBoundary_zero sampleOperators) (Text.isBoundary_utf8ByteSize sampleOperators)
  rw [htext] at hexcerpt hsize
  exact ⟨hmem, hexcerpt.mpr (Or.inr (by decide)), hsize.mpr (Or.inr (by decide)),
    hlength⟩

/-- Remainders of remainders, of names that have two bytes each. -/
def sampleRemainder : Nat → Concrete
  | 0 => Document.sampleConcrete "identifier" 0 2 false []
  | n + 1 =>
    Document.sampleConcrete "binary_expression" 0 (3 * n + 5) false
      [sampleRemainder n, Document.sampleConcrete "%" (3 * n + 2) (3 * n + 3) false [],
        Document.sampleConcrete "identifier" (3 * n + 3) (3 * n + 5) false []]

set_option maxRecDepth 100000 in
-- The 34 characters have 51 bytes. None of them is cut off, and the dots are added.
theorem not_isExcerpt_context_sampleRemainder :
    let source := String.join (List.replicate 17 "é%")
    let error := sampleError 51 [sampleRemainder 16, Document.sampleConcrete "%" 50 51 false []]
    let faults := (Document.sampleConcrete "program" 0 51 false [error]).faults source
    Text.IsBoundary source 0 ∧ Text.IsBoundary source 51 ∧ Text.slice source 0 51 = source ∧
      faults = [⟨0, 51, 1, 1, source ++ "...", .unexpected⟩] ∧
      ¬ IsExcerpt (source ++ "...") source ∧
      ¬ (source ++ "...").utf8ByteSize ≤ source.utf8ByteSize := by
  intro source error faults
  have hstart : Text.IsBoundary source 0 := Text.isBoundary_zero source
  have hstop : Text.IsBoundary source 51 := Text.isBoundary_utf8ByteSize source
  have hslice : Text.slice source 0 51 = source := Text.slice_zero_utf8ByteSize source
  have hcontext : source ++ "..." = snippet source := by decide
  have hfault : ofConcrete source error = ⟨0, 51, 1, 1, source ++ "...", .unexpected⟩ := by
    have hread := Text.slice?_eq_some (Nat.zero_le 51) hstart hstop
    rw [hslice] at hread
    rw [hcontext]
    simp [ofConcrete, error, sampleError, Document.sampleConcrete, hread, oneBased, maxPlace]
  refine ⟨hstart, hstop, hslice, ?_, ?_, by decide⟩
  · rw [← hfault]
    exact Concrete.faults_eq _ _
  · rw [hcontext, isExcerpt_snippet_iff]
    decide

end Fault

end Graft
