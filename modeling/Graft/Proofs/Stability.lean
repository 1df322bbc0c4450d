import Graft.Proofs.Agreement
import Graft.Proofs.Convergence
import Graft.Proofs.Lines
import Graft.Proofs.Listing

/-! # Patches that change nothing

A proposal whose tree has the anchor of the base changes no function. The patched text is then the
base, printed again. Printing leaves it alone exactly when every indentation is written as the style
writes it: a run on one line cannot make up for a run on another.
-/

namespace Graft

namespace Document

/-- Printing gives back the text of a document when no indentation is written in another way, and
only then. -/
theorem print_eq_source_iff (style : Indentation) (document : Document) :
    document.print style = document.source ↔
      ∀ run, document.IsIndentation run → style.render run = run := by
  have hruns := document.forall_layout (P := fun run => style.render run = run) style.render_nil
  rw [← String.toList_inj, ← Text.lines_injective.eq_iff, lines_print, lines_source,
    List.map_inj_left, ← hruns]
  -- The two texts of a line have the same rest.
  refine forall₂_congr fun line _ => ?_
  rw [Line.text, Line.text, List.append_left_inj, id_eq]

theorem print_withRoot (style : Indentation) (document : Document) :
    (document.withRoot document.root).print style = document.print style := rfl

theorem anchor_root_reindent (source target : Indentation) (document : Document)
    (next : NodeId) :
    (document.reindent source target next).1.root.anchor = document.root.anchor := by
  rw [← Node.keepsShape_content.anchor_map, content_root_reindent,
    Node.keepsShape_content.anchor_map, (Node.keepsShape_reindented source target).anchor_map]

theorem anchor_root_ofConcrete (file : String) (language : Language) (source : String)
    (concrete : Concrete) (next other : NodeId) :
    (ofConcrete file language source concrete next).1.root.anchor =
      (ofConcrete file language source concrete other).1.root.anchor := by
  simp only [ofConcrete]
  rw [← Node.keepsShape_content.anchor_map, Node.content_numbered,
    ← Node.content_numbered other, Node.keepsShape_content.anchor_map]

theorem source_ofConcrete (file : String) (language : Language) {source : String}
    {concrete : Concrete} (next : NodeId)
    (h : Concrete.InOrder source (Concrete.leavesAll concrete.children)) :
    (ofConcrete file language source concrete next).1.source = source := by
  obtain ⟨hle, hend, hwritten⟩ :=
    Lowering.written_tokensFrom h (Text.isBoundary_zero source) (fun _ _ => Nat.zero_le _)
  rw [Document.source, tokens_ofConcrete, trailing_ofConcrete, hwritten,
    Text.slice_append_slice hle hend.le (Text.isBoundary_zero source) hend
      (Text.isBoundary_utf8ByteSize source), Text.slice_zero_utf8ByteSize]

end Document

namespace Options

theorem exists_language_of_parse {options : Options} {parser : Parser} {side : Side}
    {text : String} {next : NodeId} {parsed : Document × NodeId}
    (h : options.parse parser side text next = .ok parsed) :
    ∃ language, Language.detect options.file = .ok language ∧
      parsed = Document.ofConcrete options.file language text (parser language text) next := by
  unfold Options.parse Document.parse at h
  cases hlanguage : Language.detect options.file with
  | error e => simp [hlanguage] at h
  | ok language =>
    refine ⟨language, rfl, ?_⟩
    simp only [hlanguage] at h
    split at h
    · cases h
    · exact (Except.ok.inj h).symm

theorem exists_language_of_parseBoth {options : Options} {parser : Parser} {base proposed : String}
    {both : Document × Document × NodeId} (h : options.parseBoth parser base proposed = .ok both) :
    ∃ language, Language.detect options.file = .ok language ∧
      let old := Document.ofConcrete options.file language base (parser language base) 0
      let new := Document.ofConcrete options.file language proposed (parser language proposed) old.2
      both = (old.1, new) := by
  unfold parseBoth at h
  split at h
  · cases h
  · next first middle hfirst =>
    split at h
    · cases h
    · next second last hsecond =>
      cases h
      obtain ⟨language, hlanguage, hold⟩ := exists_language_of_parse hfirst
      obtain ⟨other, hother, hnew⟩ := exists_language_of_parse hsecond
      obtain rfl : language = other := Except.ok.inj (hlanguage.symm.trans hother)
      refine ⟨language, hlanguage, ?_⟩
      simp only [← hold, ← hnew]

theorem exists_language_of_patch {options : Options} {parser : Parser} {base proposed : String}
    {outcome : Outcome} (h : (options.patch parser base proposed).value = .ok outcome) :
    ∃ language, Language.detect options.file = .ok language ∧
      let old := Document.ofConcrete options.file language base (parser language base) 0
      let new := Document.ofConcrete options.file language proposed (parser language proposed) old.2
      let moved := new.1.reindent (Indentation.detect proposed) (options.indentationFor base) new.2
      outcome =
        (options.patchDocument (options.indentationFor base) old.1 moved.1 moved.2).value := by
  cases hboth : options.parseBoth parser base proposed with
  | error refusal =>
    rw [patch_of_error hboth] at h
    cases h
  | ok both =>
    obtain ⟨language, hlanguage, rfl⟩ := exists_language_of_parseBoth hboth
    rw [patch_of_documents (documents_of_parseBoth hboth)] at h
    exact ⟨language, hlanguage, (Except.ok.inj h).symm⟩

theorem patchDocument_of_anchor_eq (options : Options) (style : Indentation)
    {base proposed : Document} (h : base.root.anchor = proposed.root.anchor) (next : NodeId) :
    (options.patchDocument style base proposed next).value = ⟨base.print style, 0, 0, 0⟩ := by
  have hnothing : (base.diff proposed).value.operations = [] := by
    rw [Document.operations_diff, Node.changes_of_anchor_eq h]
  obtain ⟨hdocument, happlied, hskipped⟩ := base.graft_of_operations_eq_nil hnothing next
  simp only [patchDocument, outcome, hdocument, happlied, hskipped, hnothing, List.length_nil,
    Document.print_withRoot]

/-- Proposals that change nothing. When both trees have the same anchor, as they have when nothing
differs in kinds and significant texts, no operation is found. The text comes back as it was exactly
when the style that it is printed in writes every indentation as it stands. -/
theorem patch_of_anchor_eq (options : Options) (parser : Parser) (base proposed : String)
    (outcome : Outcome) (language : Language)
    (hlanguage : Language.detect options.file = .ok language)
    (hpatch : (options.patch parser base proposed).value = .ok outcome) :
    let old := (Document.ofConcrete options.file language base (parser language base) 0).1
    let new := (Document.ofConcrete options.file language proposed (parser language proposed) 0).1
    (proposed = base → old.root.anchor = new.root.anchor) ∧
    (Node.SameAt (fun node => (node.grammar, node.significant)) old.root new.root →
      old.root.anchor = new.root.anchor) ∧
    (old.root.anchor = new.root.anchor →
      outcome.operations = 0 ∧ outcome.applied = 0 ∧ outcome.skipped = 0 ∧
      (Concrete.InOrder base (Concrete.leavesAll (parser language base).children) →
        (outcome.content = base ↔
          ∀ run, old.IsIndentation run → (options.indentationFor base).render run = run))) := by
  intro old new
  refine ⟨?_, ?_, ?_⟩
  · rintro rfl
    rfl
  · intro hsame
    apply Node.anchor_eq_of_sameAt
    refine hsame.imp fun c _ d _ h => ?_
    obtain ⟨hgrammar, hsignificant⟩ := Prod.mk.inj h.here
    rw [Node.label, Node.label, hgrammar, hsignificant]
  · intro hanchor
    obtain ⟨other, hother, houtcome⟩ := exists_language_of_patch hpatch
    obtain rfl : language = other := Except.ok.inj (hlanguage.symm.trans hother)
    have hprinted : outcome = ⟨old.print (options.indentationFor base), 0, 0, 0⟩ := by
      refine houtcome.trans (patchDocument_of_anchor_eq options _ ?_ _)
      rw [Document.anchor_root_reindent]
      exact hanchor.trans (Document.anchor_root_ofConcrete _ _ _ _ 0 _)
    subst hprinted
    refine ⟨rfl, rfl, rfl, fun horder => ?_⟩
    rw [← old.print_eq_source_iff, Document.source_ofConcrete _ _ _ horder]

/-- Two names on two lines, the second after a tab. -/
def sampleTabbed : String := "a\n\tb"

def sampleTabbedTree : Concrete :=
  Document.sampleConcrete "program" 0 4 false
    [Document.sampleConcrete "identifier" 0 1 false [],
      Document.sampleConcrete "identifier" 3 4 false []]

set_option maxRecDepth 100000 in
-- Asked for spaces, the tool finds nothing to patch, and still writes the tab anew.
theorem patch_of_anchor_eq_sampleTabbed :
    let options : Options := { file := "a.ts", useTabs := some false }
    let parser : Parser := fun _ _ => sampleTabbedTree
    ∃ outcome, (options.patch parser sampleTabbed sampleTabbed).value = .ok outcome ∧
      outcome.operations = 0 ∧ outcome.content ≠ sampleTabbed := by
  intro options parser
  have hlanguage : Language.detect options.file = .ok .typescript := by decide +kernel
  have horder : Concrete.InOrder sampleTabbed (Concrete.leavesAll sampleTabbedTree.children) :=
    ⟨by decide, by decide, by decide⟩
  have hparsed : (options.parseBoth parser sampleTabbed sampleTabbed).isOk = true := by
    decide +kernel
  have hmem : (⟨"\n\t", "b"⟩ : Token) ∈ (Document.ofConcrete "a.ts" .typescript sampleTabbed
      sampleTabbedTree 0).1.root.tokens := by decide +kernel
  have hrender : (options.indentationFor sampleTabbed).render ['\t'] ≠ ['\t'] := by decide +kernel
  cases hboth : options.parseBoth parser sampleTabbed sampleTabbed with
  | error refusal =>
    rw [hboth] at hparsed
    cases hparsed
  | ok both =>
    obtain ⟨old, new, after⟩ := both
    have hpatch := patch_of_documents (documents_of_parseBoth hboth)
    obtain ⟨hsame, -, hstable⟩ := patch_of_anchor_eq options parser sampleTabbed sampleTabbed
      _ .typescript hlanguage hpatch
    obtain ⟨hoperations, -, -, hcontent⟩ := hstable (hsame rfl)
    refine ⟨_, hpatch, hoperations, fun hbase => hrender ?_⟩
    have hblank : ∀ c ∈ ['\t'], Text.isBlank c = true := by simp [Text.isBlank]
    exact (hcontent horder).mp hbase ['\t'] (Or.inl ⟨_, hmem, [], [], rfl, hblank, rfl⟩)

end Options

end Graft
