import Graft.Proofs.Voting
import Graft.Proofs.Writable

/-! # Detecting the style of a printed text

Printing in the detected style changes the lines that voted for it. The votes can only move towards
that style: a line rendered with tabs gains no space and loses no tab, and a line rendered with
spaces the other way round. So the style stays, up to the width of spaces, and a second printing
changes nothing.
-/

namespace Graft

namespace Indentation

/-! ## Votes -/

theorem useTabs_detectLines (ls : List (List Char)) :
    (detectLines ls).useTabs ↔ ls.countP votesSpaces < ls.countP votesTabs := by
  rw [(elects_detectLines ls).useTabs_iff, votedWidths, List.length_map,
    List.countP_eq_length_filter (p := votesSpaces)]

theorem detectLines_eq_tabs {ls : List (List Char)} (h : (detectLines ls).useTabs) :
    detectLines ls = tabs defaultWidth :=
  (elects_detectLines ls).eq_tabs_iff_useTabs.mpr h

theorem detect_eq_tabs {text : String} (h : (detect text).useTabs) :
    detect text = tabs defaultWidth :=
  detectLines_eq_tabs h

theorem eq_spaces {style : Indentation} (h : style.useTabs = false) :
    style = spaces style.tabWidth := by
  rw [spaces, ← h]

theorem isWhite_of_isBlank {c : Char} (h : Text.isBlank c) : Text.isWhite c := by
  simp only [Text.isBlank, Bool.or_eq_true, beq_iff_eq] at h
  rcases h with rfl | rfl <;> rfl

theorem leading_text {f : List Char → List Char} (hf : Trivia.WritesBlanks f) {line : Line}
    (h : ∀ c ∈ line.indentation, Text.isBlank c) :
    leading (line.text f) = f line.indentation ++ leading line.rest :=
  List.takeWhile_append_of_pos fun c hc => isWhite_of_isBlank (hf.blank _ h c hc)

section Moves

variable {f g : List Char → List Char} {line : Line}

theorem votesTabs_mono (hf : Trivia.WritesBlanks f) (hg : Trivia.WritesBlanks g)
    (hblank : ∀ c ∈ line.indentation, Text.isBlank c)
    (htab : '\t' ∈ f line.indentation → '\t' ∈ g line.indentation)
    (h : votesTabs (line.text f)) : votesTabs (line.text g) := by
  rw [votesTabs_iff, leading_text hf hblank, List.mem_append] at h
  rw [votesTabs_iff, leading_text hg hblank, List.mem_append]
  exact h.imp_left htab

/-- For a vote it does not matter how many columns beyond two there are. -/
theorem votesSpaces_mono (hf : Trivia.WritesBlanks f) (hg : Trivia.WritesBlanks g)
    (hblank : ∀ c ∈ line.indentation, Text.isBlank c)
    (hspace : ' ' ∈ f line.indentation → ' ' ∈ g line.indentation)
    (hcount : min 2 ((f line.indentation).countP (· != '\t')) ≤
      (g line.indentation).countP (· != '\t'))
    (h : votesSpaces (line.text f)) : votesSpaces (line.text g) := by
  rw [votesSpaces_iff, leading_text hf hblank, List.mem_append, List.countP_append] at h
  rw [votesSpaces_iff, leading_text hg hblank, List.mem_append, List.countP_append]
  obtain ⟨hmem, hmany⟩ := h
  exact ⟨hmem.imp_left hspace, by omega⟩

end Moves

theorem space_mem_iff {run : List Char} (h : ∀ c ∈ run, Text.isBlank c) :
    ' ' ∈ run ↔ 0 < run.countP (· != '\t') := by
  rw [List.countP_pos_iff]
  constructor
  · intro hmem
    exact ⟨' ', hmem, rfl⟩
  · rintro ⟨c, hmem, hc⟩
    have hblank := h c hmem
    simp_all [Text.isBlank]

/-! ## Layouts -/

theorem Layout.tab_mem_text (l : Layout) : '\t' ∈ l.text ↔ 0 < l.tabs := by
  simp [text, Nat.pos_iff_ne_zero]

@[simp] theorem Layout.countP_text (l : Layout) : l.text.countP (· != '\t') = l.spaces := by
  simp [text, List.countP_replicate]

theorem Layout.space_mem_text (l : Layout) : ' ' ∈ l.text ↔ 0 < l.spaces := by
  simp [text, Nat.pos_iff_ne_zero]

theorem render_tabs {width : UInt64} (hwidth : width ≠ 0) {run : List Char}
    (hfits : (tabs width).fullWidth run ≤ Text.wordMax) :
    (tabs width).render run =
      Layout.text ⟨run.count '\t' + run.countP (· != '\t') / width.toNat,
        run.countP (· != '\t') % width.toNat⟩ := by
  have hexact : (tabs width).widthOf run =
      width.toNat * run.count '\t' + run.countP (· != '\t') := by
    rw [widthOf_eq]
    exact min_eq_left hfits
  rw [render_of_tabWidth_ne_zero hwidth, hexact]
  simp only [layout, tabs, if_true, Nat.mul_add_div (toNat_pos hwidth), Nat.mul_add_mod]

variable {width : UInt64} {line : Line}

theorem votes_render_tabs (hwidth : width ≠ 0)
    (hblank : ∀ c ∈ line.indentation, Text.isBlank c)
    (hfits : (tabs width).fullWidth line.indentation ≤ Text.wordMax) :
    (votesTabs (line.text id) → votesTabs (line.text (tabs width).render)) ∧
      (votesSpaces (line.text (tabs width).render) → votesSpaces (line.text id)) := by
  have hmod := Nat.mod_le (line.indentation.countP (· != '\t')) width.toNat
  constructor
  · refine votesTabs_mono Trivia.writesBlanks_id (writesBlanks_render _) hblank fun htab => ?_
    have hcount : 0 < line.indentation.count '\t' := List.count_pos_iff.mpr htab
    rw [render_tabs hwidth hfits, Layout.tab_mem_text]
    exact Nat.add_pos_left hcount _
  · refine votesSpaces_mono (writesBlanks_render _) Trivia.writesBlanks_id hblank ?_ ?_
    · rw [render_tabs hwidth hfits, Layout.space_mem_text, id_eq, space_mem_iff hblank]
      exact fun hspace => lt_of_lt_of_le hspace hmod
    · rw [render_tabs hwidth hfits, Layout.countP_text, id_eq]
      exact (min_le_right _ _).trans hmod

theorem votes_render_spaces (hwidth : width ≠ 0)
    (hblank : ∀ c ∈ line.indentation, Text.isBlank c) :
    (votesTabs (line.text (spaces width).render) → votesTabs (line.text id)) ∧
      (votesSpaces (line.text id) → votesSpaces (line.text (spaces width).render)) := by
  have hrender : (spaces width).render line.indentation =
      Layout.text ⟨0, (spaces width).widthOf line.indentation⟩ :=
    render_of_tabWidth_ne_zero hwidth _
  have hcount : min 2 (line.indentation.countP (· != '\t')) ≤
      (spaces width).widthOf line.indentation := by
    rw [widthOf_eq, capped, fullWidth, show Text.wordMax = 18446744073709551615 from rfl]
    omega
  constructor
  · refine votesTabs_mono (writesBlanks_render _) Trivia.writesBlanks_id hblank fun htab => ?_
    rw [hrender, Layout.tab_mem_text] at htab
    exact absurd htab (Nat.lt_irrefl 0)
  · refine votesSpaces_mono Trivia.writesBlanks_id (writesBlanks_render _) hblank ?_ ?_
    · rw [hrender, Layout.space_mem_text, id_eq, space_mem_iff hblank]
      exact fun hspace => (lt_min Nat.two_pos hspace).trans_le hcount
    · rwa [hrender, Layout.countP_text, id_eq]

end Indentation

/-- The token with its indentation rendered. -/
def Token.rendered (style : Indentation) (token : Token) : Token :=
  { token with leading := Trivia.reflowText style.render true token.leading }

namespace Document

/-! ## Lines that vote -/

theorem useTabs_detect_source (document : Document) :
    (Indentation.detect document.source).useTabs ↔
      document.layout.countP (fun line => Indentation.votesSpaces (line.text id)) <
        document.layout.countP fun line => Indentation.votesTabs (line.text id) := by
  rw [Indentation.detect, lines_source, Indentation.useTabs_detectLines, List.countP_map,
    List.countP_map]
  rfl

theorem useTabs_detect_print (style : Indentation) (document : Document) :
    (Indentation.detect (document.print style)).useTabs ↔
      document.layout.countP (fun line => Indentation.votesSpaces (line.text style.render)) <
        document.layout.countP fun line => Indentation.votesTabs (line.text style.render) := by
  rw [Indentation.detect, lines_print, Indentation.useTabs_detectLines, List.countP_map,
    List.countP_map]
  rfl

theorem useTabs_detect_print_tabs (document : Document) {width : UInt64} (hwidth : width ≠ 0)
    (hfits : ∀ run, document.IsIndentation run →
      (Indentation.tabs width).fullWidth run ≤ Text.wordMax)
    (h : (Indentation.detect document.source).useTabs) :
    (Indentation.detect (document.print (.tabs width))).useTabs := by
  rw [useTabs_detect_source] at h
  rw [useTabs_detect_print]
  have hline := (document.forall_layout (P := fun run =>
    (Indentation.tabs width).fullWidth run ≤ Text.wordMax) (Nat.zero_le _)).mpr hfits
  have hvotes (line : Line) (hmem : line ∈ document.layout) :=
    Indentation.votes_render_tabs hwidth (blank_of_mem_layout hmem) (hline line hmem)
  calc _ ≤ _ := List.countP_mono_left fun line hmem => (hvotes line hmem).2
    _ < _ := h
    _ ≤ _ := List.countP_mono_left fun line hmem => (hvotes line hmem).1

theorem useTabs_detect_print_spaces (document : Document) {width : UInt64} (hwidth : width ≠ 0)
    (h : ¬ (Indentation.detect document.source).useTabs) :
    ¬ (Indentation.detect (document.print (.spaces width))).useTabs := by
  rw [useTabs_detect_source, not_lt] at h
  rw [useTabs_detect_print, not_lt]
  have hvotes (line : Line) (hmem : line ∈ document.layout) :=
    Indentation.votes_render_spaces hwidth (blank_of_mem_layout hmem)
  calc _ ≤ _ := List.countP_mono_left fun line hmem => (hvotes line hmem).1
    _ ≤ _ := h
    _ ≤ _ := List.countP_mono_left fun line hmem => (hvotes line hmem).2

theorem print_of_tabWidth_eq_zero {style : Indentation} (h : style.tabWidth = 0)
    (document : Document) : document.print style = document.source := by
  rw [← String.toList_inj, toList_print, toList_source,
    show style.render = id from funext (Indentation.render_of_tabWidth_eq_zero h)]

variable {document : Document} {style : Indentation}

theorem useTabs_detect_print_detect (hstyle : Indentation.detect document.source = style)
    (hfits : style.useTabs → ∀ run, document.IsIndentation run →
      style.fullWidth run ≤ Text.wordMax) :
    (Indentation.detect (document.print style)).useTabs = style.useTabs := by
  cases htabs : style.useTabs with
  | true =>
    rw [← hstyle] at htabs
    have htext := Indentation.detect_eq_tabs htabs
    obtain rfl : style = .tabs Indentation.defaultWidth := hstyle.symm.trans htext
    exact useTabs_detect_print_tabs document (by decide) (hfits rfl) htabs
  | false =>
    by_cases hwidth : style.tabWidth = 0
    · rw [print_of_tabWidth_eq_zero hwidth, hstyle, htabs]
    · rw [Indentation.eq_spaces htabs, ← Bool.not_eq_true]
      exact useTabs_detect_print_spaces document hwidth (by simp [hstyle, htabs])

/-! ## Printing again -/

/-- The document holds the tokens of another one, rendered in a style. -/
structure Renders (style : Indentation) (document again : Document) : Prop where
  tokens : again.root.tokens = document.root.tokens.map (·.rendered style)
  trailing : again.trailing = Trivia.reflowText style.render false document.trailing

theorem Renders.reflowed {again : Document} (h : Renders style document again)
    (f : List Char → List Char) :
    again.reflowed f = document.reflowed (f ∘ style.render) := by
  simp only [Document.reflowed, h.tokens, h.trailing, List.flatMap_map, Token.reflowed,
    Token.rendered, Trivia.reflowText, String.toList_ofList,
    Trivia.reflow_reflow style.writesBlanks_render]

/-- What is rendered in the detected style stays in every style that the votes can lead to. -/
theorem render_render_detect (hstyle : Indentation.detect document.source = style)
    (hfits : style.useTabs → ∀ run, document.IsIndentation run →
      style.fullWidth run ≤ Text.wordMax) (run : List Char) :
    (Indentation.detect (document.print style)).render (style.render run) = style.render run := by
  have huse := useTabs_detect_print_detect hstyle hfits
  cases htabs : style.useTabs with
  | true =>
    have hagain : Indentation.detect (document.print style) = style := by
      rw [Indentation.detect_eq_tabs (huse.trans htabs), ← hstyle]
      exact (Indentation.detect_eq_tabs (by rw [hstyle, htabs])).symm
    rw [hagain, Indentation.render_render]
  | false =>
    by_cases hwidth : style.tabWidth = 0
    · rw [print_of_tabWidth_eq_zero hwidth, hstyle, Indentation.render_render]
    · rw [Indentation.eq_spaces (huse.trans htabs), Indentation.eq_spaces htabs,
        Indentation.render_spaces_render_spaces hwidth]

/-- Printing in the detected style settles a text. The printed text is again one of tabs, or one of
spaces, as the text was. Read again into the same tokens, it is printed as it stands, in whatever
width is detected now. Both prints are made where the printed text has room. Widths are counted in
machine words, and the runs of a text of tabs have to fit. One that does not has about 2^62
characters, too many for the text, its tree and its print to be addressed together. -/
theorem print_detect_print (document again : Document)
    (hfits : (Indentation.detect document.source).useTabs → ∀ run, document.IsIndentation run →
      (Indentation.detect document.source).fullWidth run ≤ Text.wordMax)
    (hagain : Renders (Indentation.detect document.source) document again) :
    let style := Indentation.detect document.source
    let printed := document.print style
    again.source = printed ∧ (Indentation.detect printed).useTabs = style.useTabs ∧
      again.print (Indentation.detect printed) = printed ∧
      (printed.utf8ByteSize ≤ Text.sizeMax →
        document.print? style = some printed ∧
          again.print? (Indentation.detect printed) = some printed) := by
  obtain ⟨style, hstyle⟩ : ∃ style, Indentation.detect document.source = style := ⟨_, rfl⟩
  simp only [hstyle] at hfits hagain ⊢
  have hstays : (Indentation.detect (document.print style)).render ∘ style.render =
      style.render := by
    funext run
    rw [Function.comp_apply, render_render_detect hstyle hfits]
  have hsecond :
      again.print (Indentation.detect (document.print style)) = document.print style := by
    rw [← String.toList_inj, toList_print, toList_print, hagain.reflowed, hstays]
  refine ⟨?_, useTabs_detect_print_detect hstyle hfits, hsecond, fun hsize => ?_⟩
  · rw [← String.toList_inj, toList_source, toList_print, hagain.reflowed, Function.id_comp]
  · have hsize' := hsecond.symm ▸ hsize
    exact ⟨print?_of_size hsize, (print?_of_size hsize').trans (congrArg some hsecond)⟩

/-- A name on every line, after the given text. -/
def sampleNames (leading : List String) : Document :=
  ⟨.branch 0 .other "program" (leading.map fun before => .leaf 0 "identifier" ⟨before, "x"⟩), "",
    [], "a.ts", .typescript⟩

set_option maxRecDepth 100000 in
-- In the first text tabs win, and six spaces become a tab and two spaces. In the second one the
-- printed tab makes four columns out of one, and four the most frequent width.
theorem print_detect_print_sampleNames :
    let tabbed := sampleNames ["", "\n\t", "\n\t\t", "\n      "]
    let spaced := sampleNames ["", "\n   ", "\n    ", "\n\t "]
    (Indentation.detect tabbed.source = .tabs 4 ∧
      (sampleNames ["", "\n\t", "\n\t\t", "\n\t  "]).print
        (Indentation.detect (tabbed.print (.tabs 4))) = tabbed.print (.tabs 4)) ∧
    Indentation.detect spaced.source = .spaces 3 ∧
      Indentation.detect (spaced.print (.spaces 3)) = .spaces 4 ∧
      (sampleNames ["", "\n   ", "\n    ", "\n    "]).print (.spaces 4) =
        spaced.print (.spaces 3) := by
  intro tabbed spaced
  have htabs : Indentation.detect tabbed.source = .tabs 4 := by decide
  have hspaces : Indentation.detect spaced.source = .spaces 3 := by decide
  have hwider : Indentation.detect (spaced.print (.spaces 3)) = .spaces 4 := by decide
  have hlines : ∀ line ∈ tabbed.layout,
      (Indentation.tabs 4).fullWidth line.indentation ≤ Text.wordMax := by decide
  have hfits := (tabbed.forall_layout (P := fun run =>
    (Indentation.tabs 4).fullWidth run ≤ Text.wordMax) (Nat.zero_le _)).mp hlines
  have hfirst := print_detect_print tabbed (sampleNames ["", "\n\t", "\n\t\t", "\n\t  "])
    (by rw [htabs]; exact fun _ => hfits)
    (by rw [htabs]; exact ⟨by decide, by decide⟩)
  have hsecond := print_detect_print spaced (sampleNames ["", "\n   ", "\n    ", "\n    "])
    (by rw [hspaces]; exact fun h => absurd h (by decide))
    (by rw [hspaces]; exact ⟨by decide, by decide⟩)
  simp only [htabs] at hfirst
  simp only [hspaces, hwider] at hsecond
  exact ⟨⟨htabs, hfirst.2.2.1⟩, hspaces, hwider, hsecond.2.2.1⟩

end Document

end Graft
