import Graft.Proofs.Writable

/-! # Indentation in another style

A run is moved by its levels, and the columns past its last whole level go along as they are. In a
narrower style they can be more than a level, and a line may then land to the right of a deeper one.
Where they are less than a level of the other style, moving back undoes the move. Within one style,
moving is rendering.
-/

namespace Graft

namespace Indentation

/-! ## Levels -/

/-- The whole levels of a run. -/
def level (style : Indentation) (run : List Char) : Nat :=
  style.widthOf run / style.tabWidth.toNat

/-- The columns of a run past its last whole level. -/
def extra (style : Indentation) (run : List Char) : Nat :=
  style.widthOf run % style.tabWidth.toNat

/-- The columns that a run of `source` should take in `target`, however many. -/
def movedWidth (source target : Indentation) (run : List Char) : Nat :=
  source.level run * target.tabWidth.toNat + source.extra run

variable {source target style : Indentation} {run shallow deep : List Char}

theorem tabWidth_le_wordMax (style : Indentation) : style.tabWidth.toNat ≤ Text.wordMax :=
  Nat.le_pred_of_lt style.tabWidth.toNat_lt

theorem level_mul_add_extra (style : Indentation) (run : List Char) :
    style.level run * style.tabWidth.toNat + style.extra run = style.widthOf run :=
  Nat.div_add_mod' _ _

theorem extra_lt (h : style.tabWidth ≠ 0) (run : List Char) :
    style.extra run < style.tabWidth.toNat :=
  Nat.mod_lt _ (toNat_pos h)

theorem widthOf_levels (style : Indentation) (whole extra : Nat) :
    style.widthOf (style.levels whole extra).text =
      capped (whole * style.tabWidth.toNat + extra) := by
  rw [widthOf_eq, fullWidth_text, levels]
  split
  · rw [Nat.mul_comm]
  · simp only [capped]
    omega

theorem layout_widthOf (style : Indentation) (run : List Char) :
    style.layout (style.widthOf run) = style.levels (style.level run) (style.extra run) := by
  rw [layout, levels]
  split
  · rfl
  · -- With spaces the caps do nothing, since the columns of the run are counted already.
    have hwidth := style.level_mul_add_extra run
    have hle := style.widthOf_le run
    have hcapped : capped (capped (style.level run * style.tabWidth.toNat) + style.extra run) =
        style.widthOf run := by
      unfold capped
      omega
    rw [hcapped]

/-! ## Converted runs -/

theorem convert_of_tabWidth_eq_zero (h : source.tabWidth = 0) (target : Indentation)
    (run : List Char) : source.convert target run = run := by
  simp [convert, conversion?, h]

theorem conversion?_eq_levels (h : source.tabWidth ≠ 0) (target : Indentation)
    (run : List Char) :
    source.conversion? target run = some (target.levels (source.level run) (source.extra run)) := by
  simp [conversion?, h, level, extra]

theorem convert_eq_levels (h : source.tabWidth ≠ 0) (target : Indentation) (run : List Char) :
    source.convert target run = (target.levels (source.level run) (source.extra run)).text := by
  rw [convert, conversion?_eq_levels h]

theorem widthOf_convert (h : source.tabWidth ≠ 0) (target : Indentation) (run : List Char) :
    target.widthOf (source.convert target run) = capped (source.movedWidth target run) := by
  rw [convert_eq_levels h, widthOf_levels, movedWidth]

theorem writesBlanks_convert (source target : Indentation) :
    Trivia.WritesBlanks (source.convert target) := by
  by_cases h : source.tabWidth = 0
  · rw [show source.convert target = id from funext (convert_of_tabWidth_eq_zero h target)]
    exact Trivia.writesBlanks_id
  · constructor
    · have hlayout : target.levels (source.level []) (source.extra []) = ⟨0, 0⟩ := by
        simp [level, extra, widthOf, levels, capped]
      rw [convert_eq_levels h, hlayout]
      rfl
    · intro run _ c hc
      rw [convert_eq_levels h] at hc
      exact Layout.blank_of_mem_text _ c hc

theorem rendering?_eq_levels (h : style.tabWidth ≠ 0) (run : List Char) :
    style.rendering? run = some (style.levels (style.level run) (style.extra run)) := by
  rw [rendering?, if_neg h, layout_widthOf]

/-- Within one style, moving is rendering. -/
@[simp] theorem conversion?_self (style : Indentation) (run : List Char) :
    style.conversion? style run = style.rendering? run := by
  by_cases h : style.tabWidth = 0
  · simp [conversion?, rendering?, h]
  · rw [conversion?_eq_levels h, rendering?_eq_levels h]

@[simp] theorem convert_self (style : Indentation) (run : List Char) :
    style.convert style run = style.render run := by
  rw [convert, conversion?_self]
  rfl

@[simp] theorem canRender_render (style : Indentation) (run : List Char) :
    style.canRender (style.render run) = style.canRender run := by
  rw [canRender, canRender, rendering?, rendering?, widthOf_render]

@[simp] theorem canConvert_self (style : Indentation) (run : List Char) :
    style.canConvert style run = style.canRender run := by
  rw [canConvert, conversion?_self]
  rfl

theorem canConvert_eq (h : source.tabWidth ≠ 0) (target : Indentation) (run : List Char) :
    source.canConvert target run =
      (target.levels (source.level run) (source.extra run)).isWritable := by
  rw [canConvert, conversion?_eq_levels h]
  rfl

/-! ## There and back -/

/-- The run has room in `target`: what is past its last level is less than a level there too, and
its columns can be counted. -/
structure Fits (source target : Indentation) (run : List Char) : Prop where
  extra_lt : source.extra run < target.tabWidth.toNat
  movedWidth_le : source.movedWidth target run ≤ Text.wordMax

instance (source target : Indentation) (run : List Char) : Decidable (source.Fits target run) :=
  decidable_of_iff (source.extra run < target.tabWidth.toNat ∧
    source.movedWidth target run ≤ Text.wordMax) ⟨fun h => ⟨h.1, h.2⟩, fun h => ⟨h.1, h.2⟩⟩

theorem Fits.tabWidth_ne_zero (h : source.Fits target run) : target.tabWidth ≠ 0 := by
  intro hzero
  have hlt := h.extra_lt
  rw [hzero] at hlt
  exact Nat.not_lt_zero _ hlt

section Back

variable (hs : source.tabWidth ≠ 0) (h : source.Fits target run)

include hs h

theorem widthOf_convert_of_fits :
    target.widthOf (source.convert target run) = source.movedWidth target run := by
  rw [widthOf_convert hs]
  exact Nat.min_eq_left h.movedWidth_le

theorem level_convert : target.level (source.convert target run) = source.level run := by
  have hpos : 0 < target.tabWidth.toNat := Nat.zero_lt_of_lt h.extra_lt
  rw [level, widthOf_convert_of_fits hs h, movedWidth, Nat.add_comm,
    Nat.add_mul_div_right _ _ hpos, Nat.div_eq_of_lt h.extra_lt, Nat.zero_add]

theorem extra_convert : target.extra (source.convert target run) = source.extra run := by
  rw [extra, widthOf_convert_of_fits hs h, movedWidth, Nat.mul_add_mod_self_right,
    Nat.mod_eq_of_lt h.extra_lt]

theorem rendering?_convert :
    target.rendering? (source.convert target run) = source.conversion? target run := by
  rw [rendering?_eq_levels h.tabWidth_ne_zero, level_convert hs h, extra_convert hs h,
    ← conversion?_eq_levels hs]

theorem conversion?_convert :
    target.conversion? source (source.convert target run) = source.rendering? run := by
  rw [conversion?_eq_levels h.tabWidth_ne_zero, level_convert hs h, extra_convert hs h,
    ← rendering?_eq_levels hs]

theorem render_convert : target.render (source.convert target run) = source.convert target run := by
  rw [render, rendering?_convert hs h, conversion?_eq_levels hs, convert_eq_levels hs]

theorem convert_convert :
    target.convert source (source.convert target run) = source.render run := by
  rw [convert, conversion?_convert hs h, render, rendering?_eq_levels hs]

theorem canRender_convert :
    target.canRender (source.convert target run) = source.canConvert target run := by
  rw [canRender, rendering?_convert hs h]
  rfl

theorem canConvert_convert :
    target.canConvert source (source.convert target run) = source.canRender run := by
  rw [canConvert, conversion?_convert hs h]
  rfl

end Back

/-! ## Order -/

section Order

variable (target) (h : source.widthOf shallow ≤ source.widthOf deep)

include h

theorem level_mono : source.level shallow ≤ source.level deep :=
  Nat.div_le_div_right h

theorem movedWidth_le_of_level_eq (hlevel : source.level shallow = source.level deep) :
    source.movedWidth target shallow ≤ source.movedWidth target deep := by
  have hshallow := source.level_mul_add_extra shallow
  have hdeep := source.level_mul_add_extra deep
  rw [hlevel] at hshallow
  unfold movedWidth
  rw [hlevel]
  omega

/-- One level more makes up for the columns past the last level, as far as a level goes. -/
theorem movedWidth_add_le_of_level_ne (hlevel : source.level shallow ≠ source.level deep) :
    source.movedWidth target shallow + target.tabWidth.toNat ≤
      source.movedWidth target deep + source.extra shallow := by
  have hlt : source.level shallow + 1 ≤ source.level deep :=
    Nat.lt_of_le_of_ne (level_mono h) hlevel
  have hlevels := Nat.mul_le_mul_right target.tabWidth.toNat hlt
  rw [Nat.add_mul, Nat.one_mul] at hlevels
  unfold movedWidth
  omega

theorem movedWidth_le_of_extra_le (hextra : source.extra shallow ≤ target.tabWidth.toNat) :
    source.movedWidth target shallow ≤ source.movedWidth target deep := by
  by_cases hlevel : source.level shallow = source.level deep
  · exact movedWidth_le_of_level_eq target h hlevel
  · have hle := movedWidth_add_le_of_level_ne target h hlevel
    omega

theorem movedWidth_le_add (hs : source.tabWidth ≠ 0) :
    source.movedWidth target shallow ≤
      source.movedWidth target deep + (source.tabWidth.toNat - 1 - target.tabWidth.toNat) := by
  by_cases hlevel : source.level shallow = source.level deep
  · exact Nat.le_add_right_of_le (movedWidth_le_of_level_eq target h hlevel)
  · have hle := movedWidth_add_le_of_level_ne target h hlevel
    have hlt := extra_lt hs shallow
    omega

end Order

theorem widthOf_replicate {n : Nat} (h : n ≤ Text.wordMax) (style : Indentation) :
    style.widthOf (List.replicate n ' ') = n := by
  rw [widthOf_eq, fullWidth_replicate]
  exact Nat.min_eq_left h

theorem movedWidth_short (hs : source.tabWidth ≠ 0) (target : Indentation) :
    source.movedWidth target (List.replicate (source.tabWidth.toNat - 1) ' ') =
      source.tabWidth.toNat - 1 := by
  have hpos := toNat_pos hs
  have hle := source.tabWidth_le_wordMax
  have hlt : source.tabWidth.toNat - 1 < source.tabWidth.toNat := by omega
  rw [movedWidth, level, extra, widthOf_replicate (by omega), Nat.div_eq_of_lt hlt,
    Nat.mod_eq_of_lt hlt, Nat.zero_mul, Nat.zero_add]

theorem movedWidth_whole (hs : source.tabWidth ≠ 0) (target : Indentation) :
    source.movedWidth target (List.replicate source.tabWidth.toNat ' ') =
      target.tabWidth.toNat := by
  rw [movedWidth, level, extra, widthOf_replicate source.tabWidth_le_wordMax,
    Nat.div_self (toNat_pos hs), Nat.mod_self, Nat.one_mul, Nat.add_zero]

/-! ## Order on the page -/

/-- A run of blanks whose columns can be counted before and after the move. -/
def Counted (source target : Indentation) (run : List Char) : Prop :=
  (∀ c ∈ run, Text.isBlank c) ∧ source.fullWidth run ≤ Text.wordMax ∧
    source.movedWidth target run ≤ Text.wordMax

/-- Deeper runs land as deep or deeper. -/
def KeepsOrder (source target : Indentation) : Prop :=
  ∀ shallow deep : List Char, source.Counted target shallow → source.Counted target deep →
    source.widthOf shallow ≤ source.widthOf deep →
      target.widthOf (source.convert target shallow) ≤ target.widthOf (source.convert target deep)

variable {source target : Indentation}

theorem capped_mono {a b : Nat} (h : a ≤ b) : capped a ≤ capped b :=
  min_le_min_right _ h

theorem capped_le_add {a b c : Nat} (h : a ≤ b + c) : capped a ≤ capped b + c := by
  unfold capped
  omega

theorem keepsOrder_of_le (hs : source.tabWidth ≠ 0)
    (h : source.tabWidth.toNat ≤ target.tabWidth.toNat + 1) : source.KeepsOrder target := by
  intro shallow deep _ _ hle
  have hextra := extra_lt hs shallow
  rw [widthOf_convert hs, widthOf_convert hs]
  exact capped_mono (movedWidth_le_of_extra_le target hle (by omega))

theorem le_of_keepsOrder (hs : source.tabWidth ≠ 0) (h : source.KeepsOrder target) :
    source.tabWidth.toNat ≤ target.tabWidth.toNat + 1 := by
  have hle := source.tabWidth_le_wordMax
  have hle' := target.tabWidth_le_wordMax
  have hblank (n : Nat) : ∀ c ∈ List.replicate n ' ', Text.isBlank c := by
    intro c hc
    rw [List.eq_of_mem_replicate hc]
    rfl
  -- The run that is one column short of a level has the most columns past its last level.
  have hshort := movedWidth_short hs target
  have hwhole := movedWidth_whole hs target
  have horder := h (List.replicate (source.tabWidth.toNat - 1) ' ')
    (List.replicate source.tabWidth.toNat ' ')
    ⟨hblank _, by rw [fullWidth_replicate]; omega, by rw [hshort]; omega⟩
    ⟨hblank _, by rw [fullWidth_replicate]; omega, by rw [hwhole]; omega⟩
    (by rw [widthOf_replicate (by omega), widthOf_replicate hle]; omega)
  rw [widthOf_convert hs, widthOf_convert hs, hshort, hwhole] at horder
  unfold capped at horder
  omega

-- Three columns are no level of four, and stay three. Four are one level, and become two.
theorem not_keepsOrder_four_two :
    ¬ ∀ source target : Indentation, source.tabWidth ≠ 0 → target.tabWidth ≠ 0 →
      source.KeepsOrder target := by
  intro h
  have hshallow : (spaces 4).Counted (spaces 2) [' ', ' ', ' '] :=
    ⟨by simp [Text.isBlank], by decide, by decide⟩
  have hdeep : (spaces 4).Counted (spaces 2) [' ', ' ', ' ', ' '] :=
    ⟨by simp [Text.isBlank], by decide, by decide⟩
  have horder := h (spaces 4) (spaces 2) (by decide) (by decide) _ _ hshallow hdeep (by decide)
  exact absurd horder (by decide)

end Indentation

end Graft
