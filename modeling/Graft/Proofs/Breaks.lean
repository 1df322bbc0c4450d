import Graft.Proofs.Writable

/-! # Lines and their breaks

Every line of a text but the first begins after a line break. In a document the break stands in
front of a token, inside one, or after the last one, and that decides what printing may do to the
line. Only where the break is in trivia, and more than a line end follows, the blanks after it are
written anew.
-/

namespace Graft

namespace Text

theorem length_lines (cs : List Char) : (lines cs).length = cs.count '\n' + 1 := by
  induction cs with
  | nil => rfl
  | cons c cs ih =>
    by_cases hc : c = '\n'
    · simp [hc, ih]
    · obtain ⟨first, below, hcs⟩ := exists_lines_eq_cons cs
      rw [hcs] at ih
      simpa [lines_cons hc hcs, hc] using ih

theorem exists_break {cs : List Char} {n : Nat} (h : n < cs.count '\n') :
    ∃ before rest, cs = before ++ '\n' :: rest ∧ before.count '\n' = n := by
  induction cs generalizing n with
  | nil => simp at h
  | cons c cs ih =>
    by_cases hc : c = '\n'
    · cases n with
      | zero => exact ⟨[], cs, by simp [hc], rfl⟩
      | succ n =>
        obtain ⟨before, rest, rfl, hcount⟩ := ih (n := n) (by simpa [hc] using h)
        exact ⟨c :: before, rest, rfl, by simp [hc, hcount]⟩
    · obtain ⟨before, rest, rfl, hcount⟩ := ih (n := n) (by simpa [hc] using h)
      exact ⟨c :: before, rest, rfl, by simp [hc, hcount]⟩

end Text

theorem Line.map_indentation_splice {above : List Line} (hne : above ≠ []) (below : List Line) :
    (Text.splice extend above below).map indentation =
      above.map indentation ++ (below.map indentation).tail := by
  fun_induction Text.splice extend above below with
  | case1 below => exact absurd rfl hne
  | case2 line => rfl
  | case3 line next below => simp [extend]
  | case4 line second above below ih => simp [ih]

theorem Line.map_indentation_of_startPlain {lines : List Line} (hplain : StartPlain lines)
    (hne : lines ≠ []) : lines.map indentation = [] :: (lines.map indentation).tail := by
  cases lines with
  | nil => exact absurd rfl hne
  | cons line below => simp [hplain line rfl]

namespace Trivia

theorem length_layout (beforeToken : Bool) (trivia : List Char) :
    (layout beforeToken trivia).length = trivia.count '\n' + 1 := by
  have h := lines_reflow writesBlanks_id beforeToken trivia
  rw [reflow_id] at h
  rw [← Text.length_lines, h, List.length_map]

theorem layoutLines_append (beforeToken : Bool) (above : List (List Char))
    {below : List (List Char)} (hne : below ≠ []) :
    layoutLines beforeToken (above ++ below) =
      layoutLines false above ++ layoutLines beforeToken below := by
  induction above with
  | nil => rfl
  | cons line above ih =>
    rw [List.cons_append, layoutLines_cons _ _ (by simp [hne]), ih]
    cases above with
    | nil => rfl
    | cons second above =>
      rw [layoutLines_cons _ _ (List.cons_ne_nil second above), List.cons_append]

theorem layout_append_newline (beforeToken : Bool) (before rest : List Char) :
    layout beforeToken (before ++ '\n' :: rest) =
      layout false before ++ layoutLines beforeToken (Text.lines rest) := by
  obtain ⟨first, above, h⟩ := Text.exists_lines_eq_cons before
  have hne : Text.lines rest ≠ [] := Text.cut_ne_nil _ _
  simp only [layout, Text.lines_append_newline, h, List.cons_append, layoutLines_append _ _ hne]

/-- A line end follows: a line break, a carriage return, or the end of the text. -/
def Ends (beforeToken : Bool) : List Char → Prop
  | [] => beforeToken = false
  | c :: _ => c = '\n' ∨ c = '\r'

theorem head?_layoutLines (beforeToken : Bool) (first : List Char) (more : List (List Char)) :
    (layoutLines beforeToken (first :: more)).head? =
      some (layoutLine (more.isEmpty && beforeToken) first) := by
  cases more <;> simp [layoutLines]

variable {beforeToken : Bool} {run after : List Char}

theorem indentation_of_continues (hrun : ∀ c ∈ run, Text.isBlank c)
    (h : Continues beforeToken after) :
    (layoutLines beforeToken (Text.lines (run ++ after))).head?.map Line.indentation =
      some run := by
  obtain ⟨next, more, hnext⟩ := Text.exists_lines_eq_cons after
  rw [lines_run_append hrun hnext, head?_layoutLines, layoutLine_of_continues hrun h hnext]
  rfl

theorem not_indents_of_ends {next : List Char} {more : List (List Char)}
    (h : Ends beforeToken after) (hnext : Text.lines after = next :: more) :
    indents (more.isEmpty && beforeToken) (next.dropWhile Text.isBlank) = false := by
  cases after with
  | nil =>
    obtain ⟨rfl, rfl⟩ := List.cons.inj hnext
    exact h
  | cons c cs =>
    obtain ⟨first, others, hcs⟩ := Text.exists_lines_eq_cons cs
    rcases h with rfl | rfl
    · rw [Text.lines_newline, hcs] at hnext
      obtain ⟨rfl, rfl⟩ := List.cons.inj hnext
      simp [indents]
    · rw [Text.lines_cons (by decide) hcs] at hnext
      obtain ⟨rfl, rfl⟩ := List.cons.inj hnext
      simp [indents, Text.isBlank]

theorem indentation_of_ends (hrun : ∀ c ∈ run, Text.isBlank c) (h : Ends beforeToken after) :
    (layoutLines beforeToken (Text.lines (run ++ after))).head?.map Line.indentation =
      some [] := by
  obtain ⟨next, more, hnext⟩ := Text.exists_lines_eq_cons after
  have hindents := not_indents_of_ends h hnext
  rw [lines_run_append hrun hnext, head?_layoutLines, layoutLine,
    List.dropWhile_append_of_pos hrun, hindents]
  rfl

end Trivia

/-! ## Stretches of a document -/

/-- What a piece of a document is: trivia, before a token or after the last one, or the text of a
token. -/
inductive Place where
  | trivia (beforeToken : Bool)
  | token
deriving DecidableEq, Repr

structure Stretch where
  place : Place
  text : List Char
deriving DecidableEq, Repr

namespace Stretch

def layout : Stretch → List Line
  | ⟨.trivia beforeToken, cs⟩ => Trivia.layout beforeToken cs
  | ⟨.token, cs⟩ => (Text.lines cs).map Line.plain

/-- The indentation of every line that begins in the stretch. -/
def runs (stretch : Stretch) : List (List Char) :=
  (stretch.layout.map Line.indentation).tail

theorem length_runs (stretch : Stretch) : stretch.runs.length = stretch.text.count '\n' := by
  obtain ⟨place, cs⟩ := stretch
  cases place with
  | trivia beforeToken => simp [runs, layout, Trivia.length_layout]
  | token => simp [runs, layout, Text.length_lines]

theorem length_flatMap_runs (stretches : List Stretch) :
    (stretches.flatMap runs).length = (stretches.flatMap text).count '\n' := by
  induction stretches with
  | nil => rfl
  | cons stretch rest ih => simp [ih, length_runs]

theorem exists_break (stretches : List Stretch) {n : Nat}
    (h : n < (stretches.flatMap text).count '\n') :
    ∃ above place before rest below,
      stretches = above ++ ⟨place, before ++ '\n' :: rest⟩ :: below ∧
        (above.flatMap text ++ before).count '\n' = n := by
  induction stretches generalizing n with
  | nil => simp at h
  | cons stretch others ih =>
    rw [List.flatMap_cons, List.count_append] at h
    by_cases hhere : n < stretch.text.count '\n'
    · obtain ⟨before, rest, htext, hcount⟩ := Text.exists_break hhere
      exact ⟨[], stretch.place, before, rest, others, by rw [← htext]; rfl, hcount⟩
    · obtain ⟨above, place, before, rest, below, rfl, hcount⟩ :=
        ih (n := n - stretch.text.count '\n') (by omega)
      refine ⟨stretch :: above, place, before, rest, below, rfl, ?_⟩
      rw [List.flatMap_cons, List.append_assoc, List.count_append, hcount]
      omega

/-- The line that begins after a break of the stretch, with those below it. -/
def layoutBelow : Place → List Char → List Line
  | .trivia beforeToken, rest => Trivia.layoutLines beforeToken (Text.lines rest)
  | .token, rest => (Text.lines rest).map Line.plain

theorem getElem?_runs (place : Place) (before rest : List Char) :
    (runs ⟨place, before ++ '\n' :: rest⟩)[before.count '\n']? =
      (layoutBelow place rest).head?.map Line.indentation := by
  -- The lines down to the break do not depend on what follows it, in number at least.
  have happend : ∃ above : List Line, above.length = before.count '\n' + 1 ∧
      layout ⟨place, before ++ '\n' :: rest⟩ = above ++ layoutBelow place rest := by
    cases place with
    | trivia beforeToken =>
      exact ⟨Trivia.layout false before, Trivia.length_layout false before,
        Trivia.layout_append_newline beforeToken before rest⟩
    | token =>
      refine ⟨(Text.lines before).map Line.plain, by simp [Text.length_lines], ?_⟩
      simp only [layout, layoutBelow, Text.lines_append_newline, List.map_append]
  obtain ⟨above, hlength, happend⟩ := happend
  rw [runs, List.getElem?_tail, happend, List.getElem?_map, ← hlength, List.getElem?_append_right
    (Nat.le_refl _), Nat.sub_self, List.head?_eq_getElem?]

end Stretch

namespace Document

/-- The document in reading order: the trivia of every token and its text, and the trivia after the
last one. -/
def stretches (document : Document) : List Stretch :=
  document.root.tokens.flatMap (fun token =>
    [⟨.trivia true, token.leading.toList⟩, ⟨.token, token.text.toList⟩]) ++
  [⟨.trivia false, document.trailing.toList⟩]

/-- The line of this number begins in a piece of the document, and there `rest` follows the line
break. The number is that of the breaks down to this one. -/
def Begins (document : Document) (number : Nat) (place : Place) (rest : List Char) : Prop :=
  ∃ above before below, document.stretches = above ++ ⟨place, before ++ '\n' :: rest⟩ :: below ∧
    number = (above.flatMap Stretch.text ++ before).count '\n' + 1

theorem toList_source_eq_flatMap (document : Document) :
    document.source.toList = document.stretches.flatMap Stretch.text := by
  simp [toList_source, reflowed, Token.reflowed, Trivia.reflow_id, stretches, List.flatMap_assoc]

/-- The first line has no indentation. The other lines have that of the pieces they begin in. -/
theorem map_indentation_layout (document : Document) :
    document.layout.map Line.indentation = [] :: document.stretches.flatMap Stretch.runs := by
  have htoken (token : Token) : token.layout.map Line.indentation =
      [] :: (Stretch.runs ⟨.trivia true, token.leading.toList⟩ ++
        Stretch.runs ⟨.token, token.text.toList⟩) := by
    rw [Token.layout, Line.map_indentation_splice (Trivia.layout_ne_nil _ _),
      Line.map_indentation_of_startPlain (Trivia.startPlain_layout _ _)
        (Trivia.layout_ne_nil _ _)]
    rfl
  have htrailing := Line.map_indentation_of_startPlain
    (Trivia.startPlain_layout false document.trailing.toList) (Trivia.layout_ne_nil _ _)
  rw [layout, stretches, List.flatMap_append, List.flatMap_assoc]
  -- Over the tokens: each adds its own lines, and the first of them goes on in the line before.
  induction document.root.tokens with
  | nil => simpa [Token.layoutAll, Stretch.runs, Stretch.layout] using htrailing
  | cons token rest ih =>
    rw [Token.layoutAll, List.foldr_cons, Line.map_indentation_splice token.layout_ne_nil, htoken]
    rw [Token.layoutAll] at ih
    rw [ih]
    simp

/-! ## Lines by number -/

variable {document : Document} {number : Nat} {place : Place} {rest : List Char}

theorem getElem?_indentation (h : document.Begins number place rest) :
    (document.layout.map Line.indentation)[number]? =
      (Stretch.layoutBelow place rest).head?.map Line.indentation := by
  obtain ⟨above, before, below, hstretches, rfl⟩ := h
  have hlt : before.count '\n' < (Stretch.runs ⟨place, before ++ '\n' :: rest⟩).length := by
    simp [Stretch.length_runs]
  rw [map_indentation_layout, hstretches, List.getElem?_cons_succ, List.flatMap_append,
    List.flatMap_cons, List.count_append, ← Stretch.length_flatMap_runs,
    List.getElem?_append_right (Nat.le_add_right _ _), Nat.add_sub_cancel_left,
    List.getElem?_append_left hlt, Stretch.getElem?_runs]

theorem exists_begins (h : 0 < number) (hlt : number < (Text.lines document.source.toList).length) :
    ∃ place rest, document.Begins number place rest := by
  rw [Text.length_lines, toList_source_eq_flatMap] at hlt
  obtain ⟨above, place, before, rest, below, hstretches, hcount⟩ :=
    Stretch.exists_break document.stretches (n := number - 1) (by omega)
  exact ⟨place, rest, above, before, below, hstretches, by omega⟩

variable {run : List Char}

theorem exists_line_of_indentation (style : Indentation)
    (h : (document.layout.map Line.indentation)[number]? = some run) :
    ∃ after, (Text.lines document.source.toList)[number]? = some (run ++ after) ∧
      (Text.lines (document.print style).toList)[number]? = some (style.render run ++ after) := by
  rw [List.getElem?_map, Option.map_eq_some_iff] at h
  obtain ⟨line, hline, rfl⟩ := h
  refine ⟨line.rest, ?_, ?_⟩
  · rw [lines_source, List.getElem?_map, hline]
    rfl
  · rw [lines_print, List.getElem?_map, hline]
    rfl

theorem line_eq_of_indentation_nil (style : Indentation)
    (h : (document.layout.map Line.indentation)[number]? = some []) :
    (Text.lines (document.print style).toList)[number]? =
      (Text.lines document.source.toList)[number]? := by
  obtain ⟨after, hsource, hprinted⟩ := exists_line_of_indentation style h
  rw [hprinted, hsource, Indentation.render_nil]

theorem map_dropWhile_lines_print (style : Indentation) (document : Document) :
    (Text.lines (document.print style).toList).map (·.dropWhile Text.isBlank) =
      (Text.lines document.source.toList).map (·.dropWhile Text.isBlank) := by
  rw [lines_print, lines_source, List.map_map, List.map_map]
  apply List.map_congr_left
  intro line hline
  have hblank := blank_of_mem_layout hline
  have hrendered := style.writesBlanks_render.blank _ hblank
  simp only [Function.comp_apply, Line.text, id_eq, List.dropWhile_append_of_pos hblank,
    List.dropWhile_append_of_pos hrendered]

/-- Printing writes indentation anew and nothing else. The text has as many lines as before, equal
up to the blanks they begin with. The first line stays. A line that begins inside a token stays. A
line that begins in trivia stays when its blanks come before a line end, and otherwise has exactly
its blanks rendered, to as many columns. There are no other lines. The text is printed where all
these runs can be written. -/
theorem print_line_by_line (style : Indentation) (document : Document) :
    let source := Text.lines document.source.toList
    let printed := Text.lines (document.print style).toList
    (printed.length = source.length ∧
      printed.map (·.dropWhile Text.isBlank) = source.map (·.dropWhile Text.isBlank)) ∧
    printed[0]? = source[0]? ∧
    (∀ number, 0 < number → number < source.length →
      ∃ place rest, document.Begins number place rest) ∧
    (∀ number rest, document.Begins number .token rest → printed[number]? = source[number]?) ∧
    (∀ number beforeToken run after,
      document.Begins number (.trivia beforeToken) (run ++ after) →
      (∀ c ∈ run, Text.isBlank c) →
        (Trivia.Ends beforeToken after → printed[number]? = source[number]?) ∧
        (Trivia.Continues beforeToken after → ∃ rest, source[number]? = some (run ++ rest) ∧
          printed[number]? = some (style.render run ++ rest))) ∧
    (∀ run, style.widthOf (style.render run) = style.widthOf run) ∧
    document.print? style =
      if (document.printing style).all (·.isWritable) then some (document.print style)
      else none := by
  intro source printed
  have hlength : printed.length = source.length := by
    simp only [printed, source, lines_print, lines_source, List.length_map]
  refine ⟨⟨hlength, map_dropWhile_lines_print style document⟩, ?_, fun number => exists_begins,
    ?_, ?_, style.widthOf_render, document.print?_eq style⟩
  · apply line_eq_of_indentation_nil
    rw [map_indentation_layout, List.getElem?_cons_zero]
  · intro number rest hbegins
    apply line_eq_of_indentation_nil
    obtain ⟨first, below, hlines⟩ := Text.exists_lines_eq_cons rest
    rw [getElem?_indentation hbegins, Stretch.layoutBelow, hlines]
    rfl
  · intro number beforeToken run after hbegins hrun
    have hline := getElem?_indentation hbegins
    rw [Stretch.layoutBelow] at hline
    refine ⟨fun hends => ?_, fun hcontinues => ?_⟩
    · exact line_eq_of_indentation_nil style (hline.trans (Trivia.indentation_of_ends hrun hends))
    · exact exists_line_of_indentation style
        (hline.trans (Trivia.indentation_of_continues hrun hcontinues))

/-- A name, and a template of two lines below an empty line. -/
def sampleTemplate : Document :=
  ⟨.branch 0 .other "program" [.leaf 1 "identifier" ⟨"", "a"⟩,
    .leaf 2 "template_string" ⟨"\n  \n\t", "x\n  y"⟩], "\n  ", [], "a.ts", .typescript⟩

set_option maxRecDepth 100000 in
-- The blanks of the empty line, of the second line of the template and of the last line stay. The
-- tab before the template is rendered.
theorem print_line_by_line_sampleTemplate :
    let source := Text.lines sampleTemplate.source.toList
    let printed := Text.lines (sampleTemplate.print (.spaces 4)).toList
    printed[1]? = source[1]? ∧
      (∃ rest, source[2]? = some ('\t' :: rest) ∧
        printed[2]? = some ((Indentation.spaces 4).render ['\t'] ++ rest)) ∧
      printed[3]? = source[3]? ∧ printed[4]? = source[4]? := by
  have hstretches : sampleTemplate.stretches = [⟨.trivia true, []⟩, ⟨.token, ['a']⟩,
      ⟨.trivia true, ['\n', ' ', ' ', '\n', '\t']⟩, ⟨.token, ['x', '\n', ' ', ' ', 'y']⟩,
      ⟨.trivia false, ['\n', ' ', ' ']⟩] := by decide
  have hempty : sampleTemplate.Begins 1 (.trivia true) ([' ', ' '] ++ ['\n', '\t']) :=
    ⟨[⟨.trivia true, []⟩, ⟨.token, ['a']⟩], [], _, hstretches, by decide⟩
  have hfirst : sampleTemplate.Begins 2 (.trivia true) (['\t'] ++ []) :=
    ⟨[⟨.trivia true, []⟩, ⟨.token, ['a']⟩], ['\n', ' ', ' '], _, hstretches, by decide⟩
  have hsecond : sampleTemplate.Begins 3 .token [' ', ' ', 'y'] :=
    ⟨sampleTemplate.stretches.take 3, ['x'], _, by rw [hstretches]; rfl, by decide⟩
  have hlast : sampleTemplate.Begins 4 (.trivia false) ([' ', ' '] ++ []) :=
    ⟨sampleTemplate.stretches.take 4, [], [], by rw [hstretches]; rfl, by decide⟩
  have hspaces : ∀ c ∈ [' ', ' '], Text.isBlank c := by simp [Text.isBlank]
  have htab : ∀ c ∈ ['\t'], Text.isBlank c := by simp [Text.isBlank]
  obtain ⟨-, -, -, htoken, htrivia, -⟩ := print_line_by_line (.spaces 4) sampleTemplate
  exact ⟨(htrivia 1 true _ _ hempty hspaces).1 (Or.inl rfl), (htrivia 2 true _ _ hfirst htab).2 rfl,
    htoken 3 _ hsecond, (htrivia 4 false _ _ hlast hspaces).1 rfl⟩

end Document

end Graft
