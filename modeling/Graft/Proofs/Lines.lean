import Graft.Proofs.Lowering
import Graft.Proofs.Pieces
import Mathlib.Data.List.DropRight
import Mathlib.Data.List.TakeWhile

/-! # The lines of a document

A document is printed token by token, but indentation is a matter of lines. Here a document is laid
out in lines, and in every line the run of blanks that is indentation stands apart from the rest.
However the runs are written, the lines of the text are these lines.
-/

namespace Graft

namespace Text

variable {α β : Type}

/-! ## Lines of texts -/

theorem length_le_utf8ByteSize (s : String) : s.toList.length ≤ s.utf8ByteSize := by
  obtain ⟨cs, rfl⟩ : ∃ cs, s = String.ofList cs := ⟨s.toList, String.ofList_toList.symm⟩
  rw [String.toList_ofList]
  induction cs with
  | nil => exact Nat.zero_le _
  | cons c cs ih =>
    have hpos := c.utf8Size_pos
    rw [String.ofList_cons, String.utf8ByteSize_append, String.utf8ByteSize_singleton,
      List.length_cons]
    omega

@[simp] theorem lines_newline (cs : List Char) : lines ('\n' :: cs) = [] :: lines cs := by
  simp [lines, cut, consPiece]

theorem lines_cons {c : Char} {cs first : List Char} {below : List (List Char)} (hc : c ≠ '\n')
    (h : lines cs = first :: below) : lines (c :: cs) = (c :: first) :: below := by
  unfold lines cut at h ⊢
  rw [List.foldr_cons, h, consPiece, if_neg hc]

theorem exists_lines_eq_cons (cs : List Char) : ∃ first below, lines cs = first :: below :=
  List.exists_cons_of_ne_nil (cut_ne_nil '\n' cs)

theorem newline_not_mem_of_mem_lines (cs : List Char) {line : List Char} (h : line ∈ lines cs) :
    '\n' ∉ line := by
  induction cs generalizing line with
  | nil =>
    rw [show lines [] = [[]] from rfl, List.mem_singleton] at h
    simp [h]
  | cons c cs ih =>
    by_cases hc : c = '\n'
    · rw [hc, lines_newline, List.mem_cons] at h
      rcases h with rfl | h
      · simp
      · exact ih h
    · obtain ⟨first, below, hcs⟩ := exists_lines_eq_cons cs
      rw [lines_cons hc hcs, List.mem_cons] at h
      rcases h with rfl | h
      · have hfirst : '\n' ∉ first := ih (by simp [hcs])
        simp [hfirst, Ne.symm hc]
      · exact ih (by simp [hcs, h])

theorem length_le_of_mem_lines {cs line : List Char} (h : line ∈ lines cs) :
    line.length ≤ cs.length := by
  induction cs generalizing line with
  | nil =>
    rw [show lines [] = [[]] from rfl, List.mem_singleton] at h
    rw [h]
  | cons c cs ih =>
    by_cases hc : c = '\n'
    · rw [hc, lines_newline, List.mem_cons] at h
      rcases h with rfl | h
      · exact Nat.zero_le _
      · exact (ih h).trans (Nat.le_succ _)
    · obtain ⟨first, below, hcs⟩ := exists_lines_eq_cons cs
      rw [lines_cons hc hcs, List.mem_cons] at h
      rcases h with rfl | h
      · have hmem : first ∈ lines cs := by simp [hcs]
        have hfirst := ih hmem
        rw [List.length_cons, List.length_cons]
        omega
      · exact (ih (by simp [hcs, h])).trans (Nat.le_succ _)

theorem lines_of_not_mem {cs : List Char} (h : '\n' ∉ cs) : lines cs = [cs] := by
  induction cs with
  | nil => rfl
  | cons c cs ih =>
    rw [List.mem_cons, not_or] at h
    exact lines_cons (Ne.symm h.1) (ih h.2)

theorem lines_injective : Function.Injective lines := by
  intro a b h
  rw [← unlines_lines a, h, unlines_lines]

/-! ## Lines of texts one after the other -/

/-- The lines of two texts one after the other. The last line of the first text goes on in the first
line of the second. -/
def splice (join : α → α → α) : List α → List α → List α
  | [], below => below
  | [line], [] => [line]
  | [line], next :: below => join line next :: below
  | line :: second :: above, below => line :: splice join (second :: above) below

theorem lines_append (as bs : List Char) :
    lines (as ++ bs) = splice (· ++ ·) (lines as) (lines bs) := by
  induction as with
  | nil =>
    obtain ⟨first, below, hbs⟩ := exists_lines_eq_cons bs
    rw [List.nil_append, hbs]
    rfl
  | cons c cs ih =>
    obtain ⟨first, above, hcs⟩ := exists_lines_eq_cons cs
    obtain ⟨next, below, hbs⟩ := exists_lines_eq_cons bs
    rw [hcs, hbs] at ih
    rw [List.cons_append, hbs]
    by_cases hc : c = '\n'
    · rw [hc, lines_newline, lines_newline, ih, hcs, splice]
    · cases above with
      | nil => rw [lines_cons hc ih, lines_cons hc hcs, splice, List.cons_append]
      | cons second above => rw [lines_cons hc ih, lines_cons hc hcs, splice]

theorem lines_append_newline (as bs : List Char) :
    lines (as ++ '\n' :: bs) = lines as ++ lines bs := by
  induction as with
  | nil => exact lines_newline bs
  | cons c cs ih =>
    obtain ⟨first, below, hcs⟩ := exists_lines_eq_cons cs
    rw [hcs] at ih
    by_cases hc : c = '\n'
    · rw [hc, List.cons_append, lines_newline, lines_newline, ih, hcs]
      rfl
    · rw [List.cons_append, lines_cons hc ih, lines_cons hc hcs]
      rfl

theorem lines_unlines {ls : List (List Char)} (hne : ls ≠ []) (h : ∀ line ∈ ls, '\n' ∉ line) :
    lines (unlines ls) = ls := by
  induction ls with
  | nil => exact absurd rfl hne
  | cons line below ih =>
    have hline : lines line = [line] := lines_of_not_mem (h line List.mem_cons_self)
    by_cases hbelow : below = []
    · rw [hbelow, unlines, hline]
    · rw [unlines_cons hbelow, lines_append_newline, hline,
        ih hbelow fun other hmem => h other (List.mem_cons_of_mem line hmem)]
      rfl

theorem unlines_append {as bs : List (List Char)} (has : as ≠ []) (hbs : bs ≠ []) :
    unlines (as ++ bs) = unlines as ++ '\n' :: unlines bs := by
  induction as with
  | nil => exact absurd rfl has
  | cons line below ih =>
    by_cases hbelow : below = []
    · rw [hbelow, List.cons_append, List.nil_append, unlines_cons hbs, unlines]
    · rw [List.cons_append, unlines_cons (by simp [hbelow]), ih hbelow, unlines_cons hbelow,
        List.append_assoc, List.cons_append]

theorem map_splice {join : α → α → α} {join' : β → β → β} (f : α → β) {above below : List α}
    (h : ∀ line, ∀ next ∈ below.head?, f (join line next) = join' (f line) (f next)) :
    (splice join above below).map f = splice join' (above.map f) (below.map f) := by
  fun_induction splice join above below with
  | case1 below => rfl
  | case2 line => rfl
  | case3 line next below => simp [splice, h line next rfl]
  | case4 line second above below ih => simpa [splice] using ih h

end Text

/-! ## Laid out lines -/

/-- A line of a document. A line whose first blanks are no indentation has them in the rest. -/
structure Line where
  indentation : List Char
  rest : List Char

namespace Line

def plain (text : List Char) : Line :=
  ⟨[], text⟩

/-- The text of the line, with its indentation written by `f`. -/
def text (f : List Char → List Char) (line : Line) : List Char :=
  f line.indentation ++ line.rest

/-- The line with more text on it. -/
def extend (line next : Line) : Line :=
  ⟨line.indentation, line.rest ++ next.rest⟩

/-- The first of some lines is no new line of a text, so it has no indentation. -/
def StartPlain (lines : List Line) : Prop :=
  ∀ line ∈ lines.head?, line.indentation = []

theorem startPlain_splice {above below : List Line} (h : StartPlain above) (hne : above ≠ []) :
    StartPlain (Text.splice extend above below) := by
  unfold StartPlain at h ⊢
  fun_cases Text.splice extend above below with
  | case1 => exact absurd rfl hne
  | case2 line => exact h
  | case3 line next below => simpa [extend] using h
  | case4 line second above below => simpa using h

theorem forall_splice {P : List Char → Prop} (hnil : P []) {above below : List Line}
    (h : StartPlain below) :
    (∀ line ∈ Text.splice extend above below, P line.indentation) ↔
      (∀ line ∈ above, P line.indentation) ∧ ∀ line ∈ below, P line.indentation := by
  fun_induction Text.splice extend above below with
  | case1 below => simp
  | case2 line => simp
  | case3 line next below =>
    have hnext : next.indentation = [] := h next rfl
    simp [extend, hnext, hnil]
  | case4 line second above below ih => simp only [List.forall_mem_cons, ih h, and_assoc]

theorem map_text_splice {f : List Char → List Char} (hf : f [] = []) {above below : List Line}
    (h : StartPlain below) :
    (Text.splice extend above below).map (text f) =
      Text.splice (· ++ ·) (above.map (text f)) (below.map (text f)) := by
  apply Text.map_splice
  intro line next hnext
  simp [text, extend, h next hnext, hf]

theorem map_text_plain {f : List Char → List Char} (hf : f [] = []) (lines : List (List Char)) :
    (lines.map plain).map (text f) = lines := by
  rw [List.map_map]
  have hid : text f ∘ plain = id := by
    funext line
    simp [text, plain, hf]
  rw [hid, List.map_id]

end Line

namespace Trivia

/-- A way of writing runs of blanks that needs nothing but blanks. -/
structure WritesBlanks (f : List Char → List Char) : Prop where
  nil : f [] = []
  blank : ∀ run, (∀ c ∈ run, Text.isBlank c) → ∀ c ∈ f run, Text.isBlank c

theorem WritesBlanks.newline_not_mem {f : List Char → List Char} (hf : WritesBlanks f)
    {run : List Char} (h : ∀ c ∈ run, Text.isBlank c) : '\n' ∉ f run := by
  intro hmem
  have hblank := hf.blank run h '\n' hmem
  simp [Text.isBlank] at hblank

theorem writesBlanks_id : WritesBlanks id := ⟨rfl, fun _ h => h⟩

/-! ## Lines of trivia -/

def layoutLine (closes : Bool) (line : List Char) : Line :=
  if indents closes (line.dropWhile Text.isBlank) then
    ⟨line.takeWhile Text.isBlank, line.dropWhile Text.isBlank⟩
  else .plain line

def layoutLines (beforeToken : Bool) : List (List Char) → List Line
  | [] => []
  | [line] => [layoutLine beforeToken line]
  | line :: below => layoutLine false line :: layoutLines beforeToken below

def layout (beforeToken : Bool) (trivia : List Char) : List Line :=
  match Text.lines trivia with
  | [] => []
  | first :: below => .plain first :: layoutLines beforeToken below

theorem layoutLines_cons (beforeToken : Bool) (line : List Char) {below : List (List Char)}
    (h : below ≠ []) :
    layoutLines beforeToken (line :: below) =
      layoutLine false line :: layoutLines beforeToken below := by
  cases below with
  | nil => exact absurd rfl h
  | cons second below => rfl

theorem takeWhile_dropWhile_blank (line : List Char) :
    (line.dropWhile Text.isBlank).takeWhile Text.isBlank = [] := by
  have h := List.takeWhile_append_dropWhile (p := Text.isBlank) (l := line.dropWhile Text.isBlank)
  rwa [List.dropWhile_idempotent, List.append_left_eq_self] at h

theorem blank_of_mem_layoutLine (closes : Bool) (line : List Char) :
    ∀ c ∈ (layoutLine closes line).indentation, Text.isBlank c := by
  intro c h
  unfold layoutLine at h
  split at h
  · exact List.mem_takeWhile_imp h
  · cases h

theorem reflowLine_eq {f : List Char → List Char} (hf : WritesBlanks f) (closes : Bool)
    (line : List Char) : reflowLine f closes line = (layoutLine closes line).text f := by
  unfold reflowLine layoutLine
  simp only
  split
  · rfl
  · simp [Line.text, Line.plain, hf.nil]

theorem reflowLines_eq {f : List Char → List Char} (hf : WritesBlanks f) (beforeToken : Bool)
    (ls : List (List Char)) :
    reflowLines f beforeToken ls = (layoutLines beforeToken ls).map (Line.text f) := by
  fun_induction reflowLines f beforeToken ls with
  | case1 => rfl
  | case2 line => simp [layoutLines, reflowLine_eq hf]
  | case3 line below hne ih => rw [layoutLines, List.map_cons, ih, reflowLine_eq hf]; exact hne

theorem newline_not_mem_text {f : List Char → List Char} (hf : WritesBlanks f) (closes : Bool)
    {line : List Char} (h : '\n' ∉ line) : '\n' ∉ (layoutLine closes line).text f := by
  have hrest : '\n' ∉ (layoutLine closes line).rest := by
    unfold layoutLine
    split
    · exact fun hmem => h ((List.dropWhile_sublist _).mem hmem)
    · exact h
  have hrun := hf.newline_not_mem (blank_of_mem_layoutLine closes line)
  simp [Line.text, hrun, hrest]

theorem mem_layoutLines {beforeToken : Bool} {ls : List (List Char)} {laid : Line} :
    laid ∈ layoutLines beforeToken ls ↔ ∃ above line below, ls = above ++ line :: below ∧
      laid = layoutLine (below.isEmpty && beforeToken) line := by
  fun_induction layoutLines beforeToken ls with
  | case1 => simp
  | case2 line =>
    constructor
    · intro h
      exact ⟨[], line, [], rfl, List.mem_singleton.mp h⟩
    · rintro ⟨above, other, below, hls, rfl⟩
      obtain ⟨rfl, rfl, rfl⟩ : above = [] ∧ line = other ∧ below = [] := by
        cases above <;> simp_all
      exact List.mem_singleton_self _
  | case3 line below hne ih =>
    have hempty : below.isEmpty = false := by simpa using hne
    constructor
    · intro h
      rcases List.mem_cons.mp h with rfl | h
      · exact ⟨[], line, below, rfl, by simp [hempty]⟩
      · obtain ⟨above, other, after, rfl, hlaid⟩ := ih.mp h
        exact ⟨line :: above, other, after, rfl, hlaid⟩
    · rintro ⟨above, other, after, hls, rfl⟩
      cases above with
      | nil =>
        obtain ⟨rfl, rfl⟩ := List.cons.inj hls
        simp [hempty]
      | cons first above =>
        obtain ⟨rfl, rfl⟩ := List.cons.inj hls
        exact List.mem_cons_of_mem _ (ih.mpr ⟨above, other, after, rfl, rfl⟩)

theorem startPlain_layout (beforeToken : Bool) (trivia : List Char) :
    Line.StartPlain (layout beforeToken trivia) := by
  unfold layout Line.StartPlain
  split
  · simp
  · simp [Line.plain]

theorem layout_ne_nil (beforeToken : Bool) (trivia : List Char) :
    layout beforeToken trivia ≠ [] := by
  obtain ⟨first, below, h⟩ := Text.exists_lines_eq_cons trivia
  simp [layout, h]

/-- Whatever indentation is written as, the trivia keeps its lines. -/
theorem lines_reflow {f : List Char → List Char} (hf : WritesBlanks f) (beforeToken : Bool)
    (trivia : List Char) :
    Text.lines (reflow f beforeToken trivia) = (layout beforeToken trivia).map (Line.text f) := by
  obtain ⟨first, below, h⟩ := Text.exists_lines_eq_cons trivia
  have hfirst : (Line.plain first).text f = first := by simp [Line.text, Line.plain, hf.nil]
  simp only [reflow, layout, h, List.map_cons, reflowLines_eq hf, hfirst]
  apply Text.lines_unlines (List.cons_ne_nil _ _)
  intro line hline
  rcases List.mem_cons.mp hline with rfl | hline
  · exact Text.newline_not_mem_of_mem_lines trivia (by simp [h])
  · obtain ⟨laid, hlaid, rfl⟩ := List.mem_map.mp hline
    obtain ⟨above, other, after, rfl, rfl⟩ := mem_layoutLines.mp hlaid
    exact newline_not_mem_text hf _ (Text.newline_not_mem_of_mem_lines trivia (by simp [h]))

/-! ## Indentation -/

/-- What may stand after indentation. `beforeToken` says whether a token follows the trivia. -/
def Continues (beforeToken : Bool) : List Char → Prop
  | [] => beforeToken
  | c :: _ => ¬ Text.isBlank c ∧ c ≠ '\n' ∧ c ≠ '\r'

/-- The run is all the blanks after some line break of the trivia, and no line end follows it. -/
def IsIndentation (beforeToken : Bool) (trivia run : List Char) : Prop :=
  ∃ before after, trivia = before ++ '\n' :: (run ++ after) ∧ (∀ c ∈ run, Text.isBlank c) ∧
    Continues beforeToken after

theorem layoutLine_of_continues {beforeToken : Bool} {run after next : List Char}
    {below : List (List Char)} (hrun : ∀ c ∈ run, Text.isBlank c)
    (hafter : Continues beforeToken after) (h : Text.lines after = next :: below) :
    layoutLine (below.isEmpty && beforeToken) (run ++ next) = ⟨run, next⟩ := by
  have hnext : next.takeWhile Text.isBlank = [] ∧
      indents (below.isEmpty && beforeToken) next = true := by
    cases after with
    | nil =>
      obtain ⟨rfl, rfl⟩ := List.cons.inj h
      exact ⟨rfl, hafter⟩
    | cons c cs =>
      obtain ⟨hblank, hnewline, hreturn⟩ := hafter
      obtain ⟨first, others, hcs⟩ := Text.exists_lines_eq_cons cs
      rw [Text.lines_cons hnewline hcs] at h
      obtain ⟨rfl, rfl⟩ := List.cons.inj h
      exact ⟨by simp [hblank], by simpa [indents] using hreturn⟩
  have hdrop : next.dropWhile Text.isBlank = next := by
    have h := List.takeWhile_append_dropWhile (p := Text.isBlank) (l := next)
    rwa [hnext.1, List.nil_append] at h
  unfold layoutLine
  rw [List.takeWhile_append_of_pos hrun, List.dropWhile_append_of_pos hrun, hnext.1, hdrop,
    if_pos hnext.2, List.append_nil]

theorem continues_of_indents {beforeToken : Bool} {line : List Char} {below : List (List Char)}
    (h : indents (below.isEmpty && beforeToken) (line.dropWhile Text.isBlank))
    (hline : '\n' ∉ line) :
    Continues beforeToken
      (line.dropWhile Text.isBlank ++ if below = [] then [] else '\n' :: Text.unlines below) := by
  cases hrest : line.dropWhile Text.isBlank with
  | nil =>
    rw [hrest, indents, Bool.and_eq_true, List.isEmpty_iff] at h
    rw [if_pos h.1]
    exact h.2
  | cons c rest =>
    rw [hrest] at h
    have hmem : c ∈ line := (List.dropWhile_sublist Text.isBlank).mem (by simp [hrest])
    refine ⟨?_, ?_, by simpa [indents] using h⟩
    · have hhead := List.head?_dropWhile_not Text.isBlank line
      simpa [hrest] using hhead
    · rintro rfl
      exact hline hmem

theorem lines_run_append {run after next : List Char} {more : List (List Char)}
    (hrun : ∀ c ∈ run, Text.isBlank c) (h : Text.lines after = next :: more) :
    Text.lines (run ++ after) = (run ++ next) :: more := by
  have hnewline : '\n' ∉ run := writesBlanks_id.newline_not_mem hrun
  rw [Text.lines_append, Text.lines_of_not_mem hnewline, h]
  rfl

theorem forall_layout {P : List Char → Prop} (hnil : P []) (beforeToken : Bool)
    (trivia : List Char) :
    (∀ line ∈ layout beforeToken trivia, P line.indentation) ↔
      ∀ run, IsIndentation beforeToken trivia run → P run := by
  constructor
  · rintro h run ⟨before, after, rfl, hrun, hafter⟩
    obtain ⟨first, above, hbefore⟩ := Text.exists_lines_eq_cons before
    obtain ⟨next, below, hnext⟩ := Text.exists_lines_eq_cons after
    have hlines : Text.lines (before ++ '\n' :: (run ++ after)) =
        first :: (above ++ (run ++ next) :: below) := by
      rw [Text.lines_append_newline, hbefore, lines_run_append hrun hnext]
      rfl
    have hlaid := layoutLine_of_continues hrun hafter hnext
    have hmem : (⟨run, next⟩ : Line) ∈
        layout beforeToken (before ++ '\n' :: (run ++ after)) := by
      simp only [layout, hlines]
      exact List.mem_cons_of_mem _ (mem_layoutLines.mpr ⟨above, _, below, rfl, hlaid.symm⟩)
    exact h _ hmem
  · intro h line hline
    obtain ⟨first, rest, hlines⟩ := Text.exists_lines_eq_cons trivia
    simp only [layout, hlines] at hline
    rcases List.mem_cons.mp hline with rfl | hline
    · exact hnil
    obtain ⟨above, text, below, rfl, rfl⟩ := mem_layoutLines.mp hline
    unfold layoutLine
    split
    · next hindents =>
      have htext : '\n' ∉ text := Text.newline_not_mem_of_mem_lines trivia (by simp [hlines])
      refine h _ ⟨Text.unlines (first :: above), _, ?_, fun c => List.mem_takeWhile_imp,
        continues_of_indents hindents htext⟩
      rw [← List.append_assoc, List.takeWhile_append_dropWhile, ← Text.unlines_lines trivia, hlines,
        ← List.cons_append, Text.unlines_append (List.cons_ne_nil _ _) (List.cons_ne_nil _ _)]
      by_cases hbelow : below = []
      · rw [hbelow, if_pos rfl, Text.unlines, List.append_nil]
      · rw [if_neg hbelow, Text.unlines_cons hbelow]
    · exact hnil

end Trivia

/-! ## Documents -/

namespace Token

def reflowed (f : List Char → List Char) (token : Token) : List Char :=
  Trivia.reflow f true token.leading.toList ++ token.text.toList

/-- The lines of a token. Below the first line of its text nothing is indentation. -/
def layout (token : Token) : List Line :=
  Text.splice Line.extend (Trivia.layout true token.leading.toList)
    ((Text.lines token.text.toList).map Line.plain)

theorem startPlain_text (token : Token) :
    Line.StartPlain ((Text.lines token.text.toList).map Line.plain) := by
  obtain ⟨first, below, h⟩ := Text.exists_lines_eq_cons token.text.toList
  simp [Line.StartPlain, h, Line.plain]

theorem startPlain_layout (token : Token) : Line.StartPlain token.layout :=
  Line.startPlain_splice (Trivia.startPlain_layout _ _) (Trivia.layout_ne_nil _ _)

theorem lines_reflowed {f : List Char → List Char} (hf : Trivia.WritesBlanks f) (token : Token) :
    Text.lines (token.reflowed f) = token.layout.map (Line.text f) := by
  rw [reflowed, Text.lines_append, Trivia.lines_reflow hf, layout,
    Line.map_text_splice hf.nil token.startPlain_text, Line.map_text_plain hf.nil]

theorem forall_layout {P : List Char → Prop} (hnil : P []) (token : Token) :
    (∀ line ∈ token.layout, P line.indentation) ↔
      ∀ run, Trivia.IsIndentation true token.leading.toList run → P run := by
  rw [layout, Line.forall_splice hnil token.startPlain_text, Trivia.forall_layout hnil]
  simp [Line.plain, hnil]

theorem layout_ne_nil (token : Token) : token.layout ≠ [] := by
  intro hnil
  have h := lines_reflowed Trivia.writesBlanks_id token
  rw [hnil] at h
  exact Text.cut_ne_nil _ _ h

/-- The lines of some tokens, and of a text after them. -/
def layoutAll (tokens : List Token) (last : List Line) : List Line :=
  tokens.foldr (fun token below => Text.splice Line.extend token.layout below) last

theorem startPlain_layoutAll (tokens : List Token) {last : List Line}
    (h : Line.StartPlain last) : Line.StartPlain (layoutAll tokens last) := by
  cases tokens with
  | nil => exact h
  | cons token rest => exact Line.startPlain_splice token.startPlain_layout token.layout_ne_nil

theorem lines_flatMap_reflowed {f : List Char → List Char} (hf : Trivia.WritesBlanks f)
    (tokens : List Token) {cs : List Char} {last : List Line} (hplain : Line.StartPlain last)
    (hlast : Text.lines cs = last.map (Line.text f)) :
    Text.lines (tokens.flatMap (·.reflowed f) ++ cs) =
      (layoutAll tokens last).map (Line.text f) := by
  induction tokens with
  | nil => exact hlast
  | cons token rest ih =>
    rw [List.flatMap_cons, List.append_assoc, Text.lines_append, lines_reflowed hf, ih]
    exact (Line.map_text_splice hf.nil (startPlain_layoutAll rest hplain)).symm

theorem forall_layoutAll {P : List Char → Prop} (hnil : P []) (tokens : List Token)
    {last : List Line} (hplain : Line.StartPlain last) :
    (∀ line ∈ layoutAll tokens last, P line.indentation) ↔
      (∀ token ∈ tokens, ∀ run, Trivia.IsIndentation true token.leading.toList run → P run) ∧
        ∀ line ∈ last, P line.indentation := by
  induction tokens with
  | nil => simp [layoutAll]
  | cons token rest ih =>
    rw [List.forall_mem_cons, and_assoc, ← ih, ← forall_layout hnil]
    exact Line.forall_splice hnil (startPlain_layoutAll rest hplain)

end Token

namespace Document

/-- The text that the document holds, as it stands in its tokens. -/
def source (document : Document) : String :=
  Lowering.written document.root.tokens ++ document.trailing

/-- The text of the document with its indentation written by `f`. -/
def reflowed (f : List Char → List Char) (document : Document) : List Char :=
  document.root.tokens.flatMap (·.reflowed f) ++ Trivia.reflow f false document.trailing.toList

def layout (document : Document) : List Line :=
  Token.layoutAll document.root.tokens (Trivia.layout false document.trailing.toList)

/-- The run is indentation in front of a token, or in the text after the last one. -/
def IsIndentation (document : Document) (run : List Char) : Prop :=
  (∃ token ∈ document.root.tokens, Trivia.IsIndentation true token.leading.toList run) ∨
    Trivia.IsIndentation false document.trailing.toList run

theorem forall_layout {P : List Char → Prop} (hnil : P []) (document : Document) :
    (∀ line ∈ document.layout, P line.indentation) ↔
      ∀ run, document.IsIndentation run → P run := by
  rw [layout, Token.forall_layoutAll hnil _ (Trivia.startPlain_layout _ _),
    Trivia.forall_layout hnil]
  constructor
  · rintro ⟨htokens, htrailing⟩ run (⟨token, hmem, hrun⟩ | hrun)
    · exact htokens token hmem run hrun
    · exact htrailing run hrun
  · intro h
    exact ⟨fun token hmem run hrun => h run (Or.inl ⟨token, hmem, hrun⟩),
      fun run hrun => h run (Or.inr hrun)⟩

theorem lines_reflowed {f : List Char → List Char} (hf : Trivia.WritesBlanks f)
    (document : Document) :
    Text.lines (document.reflowed f) = document.layout.map (Line.text f) :=
  Token.lines_flatMap_reflowed hf _ (Trivia.startPlain_layout _ _) (Trivia.lines_reflow hf _ _)

theorem length_run_le {f : List Char → List Char} (hf : Trivia.WritesBlanks f)
    {document : Document} {run : List Char} (h : document.IsIndentation run) :
    (f run).length ≤ (document.reflowed f).length := by
  refine (forall_layout (P := fun run => (f run).length ≤ (document.reflowed f).length)
    (by simp [hf.nil]) document).mp (fun line hline => ?_) run h
  have hmem : line.text f ∈ Text.lines (document.reflowed f) := by
    rw [lines_reflowed hf]
    exact List.mem_map_of_mem hline
  have hle := Text.length_le_of_mem_lines hmem
  rw [Line.text, List.length_append] at hle
  omega

theorem blank_of_mem_layout {document : Document} {line : Line} (h : line ∈ document.layout) :
    ∀ c ∈ line.indentation, Text.isBlank c := by
  refine (forall_layout (P := fun run => ∀ c ∈ run, Text.isBlank c) (by simp) document).mpr ?_
    line h
  rintro run (⟨token, -, before, after, -, hrun, -⟩ | ⟨before, after, -, hrun, -⟩) <;> exact hrun

/-! ## The printed text and the source -/

theorem toList_print (style : Indentation) (document : Document) :
    (document.print style).toList = document.reflowed style.render := by
  simp [print, reflowed, Token.printed, Token.reflowed, Trivia.reflowText, String.toList_join,
    List.flatMap_map]

end Document

theorem Trivia.reflow_id (beforeToken : Bool) (trivia : List Char) :
    reflow id beforeToken trivia = trivia := by
  have hline (closes : Bool) (line : List Char) : reflowLine id closes line = line := by
    simp [reflowLine]
  have hlines (ls : List (List Char)) : reflowLines id beforeToken ls = ls := by
    fun_induction reflowLines id beforeToken ls with
    | case1 => rfl
    | case2 line => rw [hline]
    | case3 line below hne ih => rw [hline, ih]
  obtain ⟨first, below, h⟩ := Text.exists_lines_eq_cons trivia
  simp only [reflow, h, hlines]
  rw [← h, Text.unlines_lines]

theorem Document.toList_source (document : Document) :
    document.source.toList = document.reflowed id := by
  simp only [source, Lowering.written, reflowed, Token.reflowed, Trivia.reflow_id,
    String.toList_append, String.toList_join, List.flatMap_map]

theorem Indentation.Layout.blank_of_mem_text (l : Layout) : ∀ c ∈ l.text, Text.isBlank c := by
  intro c hc
  unfold text at hc
  rcases List.mem_append.mp hc with h | h <;> rw [List.eq_of_mem_replicate h] <;> rfl

theorem Indentation.writesBlanks_render (style : Indentation) :
    Trivia.WritesBlanks style.render where
  nil := style.render_nil
  blank run hrun c hc := by
    unfold render at hc
    split at hc
    · next l _ => exact l.blank_of_mem_text c hc
    · exact hrun c hc

theorem Document.lines_print (style : Indentation) (document : Document) :
    Text.lines (document.print style).toList = document.layout.map (Line.text style.render) := by
  rw [toList_print, lines_reflowed style.writesBlanks_render]

theorem Document.lines_source (document : Document) :
    Text.lines document.source.toList = document.layout.map (Line.text id) := by
  rw [toList_source, lines_reflowed Trivia.writesBlanks_id]

end Graft
