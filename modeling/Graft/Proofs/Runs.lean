import Graft.Proofs.Moving
import Graft.Proofs.Sessions

/-! # The runs of a document

A moved document has the runs of the document as it was, converted if it was really moved. A patched
document has those of the base and of the payloads, and in a parsed document none is longer than the
text.
-/

namespace Graft

namespace Trivia

theorem length_le_of_isIndentation {beforeToken : Bool} {trivia run : List Char}
    (h : IsIndentation beforeToken trivia run) : run.length ≤ trivia.length := by
  obtain ⟨before, after, rfl, -, -⟩ := h
  simp only [List.length_append, List.length_cons]
  omega

end Trivia

namespace Text

theorem utf8ByteSize_slice_le (s : String) (start stop : Nat) :
    (slice s start stop).utf8ByteSize ≤ s.utf8ByteSize := by
  unfold slice slice?
  split
  · split
    · next b e _ _ =>
      rw [Option.getD_some, ← String.size_toByteArray, String.toByteArray_extract,
        ByteArray.size_extract]
      have h := e.isValid.le_utf8ByteSize
      simp only [String.size_toByteArray]
      omega
    · exact Nat.zero_le _
  · exact Nat.zero_le _

end Text

/-! ## Runs of documents -/

namespace Lowering

theorem exists_slice_of_mem_tokensFrom {source : String} {leaves : List Concrete} {offset : Nat}
    {token : Token} (h : token ∈ tokensFrom source offset leaves) :
    ∃ start stop, token.leading = Text.slice source start stop := by
  induction leaves generalizing offset with
  | nil => cases h
  | cons leaf rest ih =>
    rcases List.mem_cons.mp h with rfl | h
    · exact ⟨_, _, rfl⟩
    · exact ih h

end Lowering

namespace Node

theorem tokens_subset_of_preorder {node other : Node} (h : node.preorder ⊆ other.preorder) :
    node.tokens ⊆ other.tokens := by
  intro token htoken
  obtain ⟨found, hfound, htoken⟩ := List.mem_filterMap.mp htoken
  exact List.mem_filterMap.mpr ⟨found, h hfound, htoken⟩

/-- What holds of all tokens of a tree and of the two braces is kept by rewriting. -/
theorem hereditary_tokens {holds : Token → Prop} (hopen : holds ⟨" ", "\x7b"⟩)
    (hclose : holds ⟨"\n", "\x7d"⟩) :
    Hereditary fun node => ∀ token ∈ node.tokens, holds token where
  child node hnode child hchild token htoken := by
    apply hnode
    rw [tokens_eq]
    exact List.mem_append_right _ (List.mem_flatMap.mpr ⟨child, hchild, htoken⟩)
  rebuilt node children hnode _ hchildren token htoken := by
    rw [tokens_eq, List.mem_append, List.mem_flatMap] at htoken
    rcases htoken with htoken | ⟨child, hchild, htoken⟩
    · apply hnode
      rw [tokens_eq]
      exact List.mem_append_left _ htoken
    · exact hchildren child hchild token htoken
  block body hbody token htoken := by
    unfold block at htoken
    split at htoken
    · exact hbody token htoken
    · rw [tokens_blockAround, List.mem_cons, List.mem_append, List.mem_singleton] at htoken
      rcases htoken with rfl | htoken | rfl
      · exact hopen
      · exact hbody token htoken
      · exact hclose

end Node

namespace Document

theorem length_le_of_isIndentation (file : String) (language : Language) (source : String)
    (concrete : Concrete) (next : NodeId) {run : List Char}
    (h : (ofConcrete file language source concrete next).1.IsIndentation run) :
    run.length ≤ source.utf8ByteSize := by
  have hslice {beforeToken : Bool} {start stop : Nat}
      (h : Trivia.IsIndentation beforeToken (Text.slice source start stop).toList run) :
      run.length ≤ source.utf8ByteSize :=
    (Trivia.length_le_of_isIndentation h).trans
      ((Text.length_le_utf8ByteSize _).trans (Text.utf8ByteSize_slice_le source start stop))
  rcases h with ⟨token, htoken, hrun⟩ | hrun
  · rw [tokens_ofConcrete] at htoken
    obtain ⟨start, stop, hleading⟩ := Lowering.exists_slice_of_mem_tokensFrom htoken
    rw [hleading] at hrun
    exact hslice hrun
  · rw [trailing_ofConcrete] at hrun
    exact hslice hrun

section

variable {P : List Char → Prop} (hnil : P [])
include hnil

theorem forall_isIndentation_reindent {source target : Indentation} {document : Document}
    (next : NodeId) (hstays : ∀ run, document.IsIndentation run → P run)
    (hmoves : source ≠ target → ∀ run, document.IsIndentation run → P (source.convert target run)) :
    ∀ run, (document.reindent source target next).1.IsIndentation run → P run := by
  unfold reindent
  split
  · exact hstays
  · next hne => exact (forall_isIndentation_reindentTokens _ _ _ _ hnil).mpr (hmoves hne)

theorem forall_isIndentation_graft {base new : Document} (next : NodeId)
    (hbase : ∀ run, base.IsIndentation run → P run)
    (hnew : ∀ run, new.IsIndentation run → P run) :
    ∀ run, (base.graft (base.diff new).value next).document.IsIndentation run → P run := by
  let holds (token : Token) : Prop :=
    ∀ run, Trivia.IsIndentation true token.leading.toList run → P run
  have hbrace (token : Token) (h : Trivia.runs true token.leading.toList = []) : holds token := by
    refine (Trivia.forall_runs hnil true _).mp ?_
    simp [h]
  have hkept := Node.hereditary_tokens (hbrace ⟨" ", "\x7b"⟩ (by decide))
    (hbrace ⟨"\n", "\x7d"⟩ (by decide))
  have hbodies : ∀ operation ∈ (base.diff new).value.operations, ∀ body ∈ operation.newBody?,
      ∀ token ∈ body.tokens, holds token := by
    intro operation hoperation body hbody token htoken run hrun
    have hwithin : Grafting.Within (base.diff new).value.operations [new.root] :=
      within_diff (by simp [Node.preorderAll])
    have hsub : body.preorder ⊆ new.root.preorder := by
      simpa [Node.preorderAll] using hwithin operation hoperation body hbody
    exact hnew run (Or.inl ⟨token, Node.tokens_subset_of_preorder hsub htoken, hrun⟩)
  have htokens := hkept.rewrite hbodies base.root
    fun token htoken run hrun => hbase run (Or.inl ⟨token, htoken, hrun⟩)
  rintro run (⟨token, htoken, hrun⟩ | hrun)
  · rw [Node.tokens_eq_of_content (base.rewrites_graft _ next).1] at htoken
    exact htokens token htoken run hrun
  · exact hbase run (Or.inr hrun)

end

end Document

end Graft
