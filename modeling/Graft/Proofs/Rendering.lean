import Graft.Proofs.Lines
import Mathlib.Data.List.DropRight

/-! # Rendered indentation

The width of a run is counted with a cap, and rendering writes a run of that width. Here the count
is put in closed form, and a run that was rendered once is shown to stay.
-/

namespace Graft

namespace Indentation

/-! ## Widths -/

theorem toNat_pos {width : UInt64} (h : width ≠ 0) : 0 < width.toNat := by
  rw [Nat.pos_iff_ne_zero]
  exact fun hzero => h (UInt64.toNat_inj.mp hzero)

/-- The width of a run, however large. -/
def fullWidth (style : Indentation) (run : List Char) : Nat :=
  style.tabWidth.toNat * run.count '\t' + run.countP (· != '\t')

theorem foldl_capped (style : Indentation) (run : List Char) (width : Nat)
    (h : width ≤ Text.wordMax) :
    run.foldl (fun width c => capped (width + style.columns c)) width =
      capped (width + style.fullWidth run) := by
  induction run generalizing width with
  | nil => exact (min_eq_left h).symm
  | cons c run ih =>
    have hcons : style.fullWidth (c :: run) = style.columns c + style.fullWidth run := by
      by_cases hc : c = '\t' <;>
        simp [fullWidth, columns, hc, Nat.mul_add] <;> omega
    rw [List.foldl_cons, ih (capped (width + style.columns c)) (min_le_right _ _), hcons]
    simp only [capped]
    omega

/-- Counting with a cap is counting, and then the cap. -/
theorem widthOf_eq (style : Indentation) (run : List Char) :
    style.widthOf run = capped (style.fullWidth run) := by
  rw [widthOf, foldl_capped style run 0 (Nat.zero_le _), Nat.zero_add]

theorem widthOf_le (style : Indentation) (run : List Char) :
    style.widthOf run ≤ Text.wordMax := by
  rw [widthOf_eq]
  exact min_le_right _ _

@[simp] theorem fullWidth_text (style : Indentation) (l : Layout) :
    style.fullWidth l.text = style.tabWidth.toNat * l.tabs + l.spaces := by
  simp [fullWidth, Layout.text, List.count_replicate, List.countP_replicate]

@[simp] theorem fullWidth_replicate (style : Indentation) (n : Nat) :
    style.fullWidth (List.replicate n ' ') = n := by
  simp [fullWidth, List.count_replicate, List.countP_replicate]

@[simp] theorem fullWidth_layout (style : Indentation) (width : Nat) :
    style.fullWidth (style.layout width).text = width := by
  rw [fullWidth_text, layout]
  split
  · exact Nat.div_add_mod width style.tabWidth.toNat
  · simp

/-! ## Rendering -/

theorem render_of_tabWidth_eq_zero {style : Indentation} (h : style.tabWidth = 0)
    (run : List Char) : style.render run = run := by
  simp [render, rendering?, h]

theorem render_of_tabWidth_ne_zero {style : Indentation} (h : style.tabWidth ≠ 0)
    (run : List Char) : style.render run = (style.layout (style.widthOf run)).text := by
  simp [render, rendering?, h]

/-- Rendering keeps the columns of a run, also those that a saturated count gives it. -/
@[simp] theorem widthOf_render (style : Indentation) (run : List Char) :
    style.widthOf (style.render run) = style.widthOf run := by
  by_cases h : style.tabWidth = 0
  · rw [render_of_tabWidth_eq_zero h]
  · rw [render_of_tabWidth_ne_zero h, widthOf_eq, fullWidth_layout]
    exact min_eq_left (style.widthOf_le run)

@[simp] theorem render_render (style : Indentation) (run : List Char) :
    style.render (style.render run) = style.render run := by
  by_cases h : style.tabWidth = 0
  · rw [render_of_tabWidth_eq_zero h]
  · rw [render_of_tabWidth_ne_zero h, widthOf_render, ← render_of_tabWidth_ne_zero h]

theorem render_spaces {width : UInt64} (h : width ≠ 0) (run : List Char) :
    (spaces width).render run = List.replicate ((spaces width).widthOf run) ' ' :=
  render_of_tabWidth_ne_zero h run

theorem render_spaces_render_spaces {width : UInt64} (h : width ≠ 0) (other : UInt64)
    (run : List Char) :
    (spaces other).render ((spaces width).render run) = (spaces width).render run := by
  by_cases hother : other = 0
  · exact render_of_tabWidth_eq_zero hother _
  · rw [render_spaces h, render_spaces hother, widthOf_eq, fullWidth_replicate]
    exact congrArg (List.replicate · ' ') (min_eq_left (widthOf_le _ _))

end Indentation

/-! ## Writing trivia twice -/

namespace Trivia

variable {f g : List Char → List Char}

theorem WritesBlanks.comp (hg : WritesBlanks g) (hf : WritesBlanks f) : WritesBlanks (g ∘ f) where
  nil := by rw [Function.comp_apply, hf.nil, hg.nil]
  blank run hrun := hg.blank _ (hf.blank run hrun)

theorem reflowLine_reflowLine (hf : WritesBlanks f) (closes : Bool) (line : List Char) :
    reflowLine g closes (reflowLine f closes line) = reflowLine (g ∘ f) closes line := by
  have hrun := hf.blank _ fun c (h : c ∈ line.takeWhile Text.isBlank) => List.mem_takeWhile_imp h
  have htake := takeWhile_dropWhile_blank line
  have hdrop : (line.dropWhile Text.isBlank).dropWhile Text.isBlank =
      line.dropWhile Text.isBlank := List.dropWhile_idempotent _ _
  by_cases h : indents closes (line.dropWhile Text.isBlank)
  · simp only [reflowLine, h, if_true, List.takeWhile_append_of_pos hrun,
      List.dropWhile_append_of_pos hrun, htake, hdrop, List.append_nil, Function.comp_apply]
  · simp only [reflowLine, h, if_false, List.takeWhile_append_dropWhile, Bool.false_eq_true]

theorem reflowLines_cons (beforeToken : Bool) (line : List Char) {below : List (List Char)}
    (h : below ≠ []) :
    reflowLines f beforeToken (line :: below) =
      reflowLine f false line :: reflowLines f beforeToken below := by
  cases below with
  | nil => exact absurd rfl h
  | cons second below => rfl

theorem reflowLines_ne_nil (beforeToken : Bool) {ls : List (List Char)} (h : ls ≠ []) :
    reflowLines f beforeToken ls ≠ [] := by
  fun_cases reflowLines f beforeToken ls with
  | case1 => exact absurd rfl h
  | case2 line => simp
  | case3 line below hne => simp

theorem reflowLines_reflowLines (hf : WritesBlanks f) (beforeToken : Bool)
    (ls : List (List Char)) :
    reflowLines g beforeToken (reflowLines f beforeToken ls) =
      reflowLines (g ∘ f) beforeToken ls := by
  fun_induction reflowLines f beforeToken ls with
  | case1 => rfl
  | case2 line => simp only [reflowLines, reflowLine_reflowLine hf]
  | case3 line below hne ih =>
    rw [reflowLines_cons _ _ (reflowLines_ne_nil _ hne), ih, reflowLine_reflowLine hf,
      reflowLines_cons _ _ hne]

theorem reflow_reflow (hf : WritesBlanks f) (beforeToken : Bool) (trivia : List Char) :
    reflow g beforeToken (reflow f beforeToken trivia) = reflow (g ∘ f) beforeToken trivia := by
  obtain ⟨first, below, h⟩ := Text.exists_lines_eq_cons trivia
  have hlines : Text.lines (reflow f beforeToken trivia) =
      first :: reflowLines f beforeToken below := by
    rw [lines_reflow hf, reflowLines_eq hf, layout, h]
    simp [Line.text, Line.plain, hf.nil]
  rw [reflow.eq_def g, hlines]
  simp only [reflow, h, reflowLines_reflowLines hf]

theorem reflow_congr (hf : WritesBlanks f) (hg : WritesBlanks g) {beforeToken : Bool}
    {trivia : List Char} (h : ∀ run, IsIndentation beforeToken trivia run → f run = g run) :
    reflow f beforeToken trivia = reflow g beforeToken trivia := by
  have hruns := (forall_layout (P := fun run => f run = g run) (hf.nil.trans hg.nil.symm)
    beforeToken trivia).mpr h
  apply Text.lines_injective
  rw [lines_reflow hf, lines_reflow hg]
  apply List.map_congr_left
  intro line hline
  rw [Line.text, Line.text, hruns line hline]

end Trivia

end Graft
