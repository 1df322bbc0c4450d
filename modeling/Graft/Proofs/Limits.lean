import Graft.Proofs.Runs
import Graft.Proofs.Stability
import Mathlib.Tactic.Ring

/-! # Widths that cannot be written

A text has room for so many bytes, and a layout that asks for more of one character stops the tool.
With tabs that never happens: a run is as long as the text at most, and written with tabs it gets no
longer. With spaces every tab and every level is as wide as the options say, so a wide enough tab
stops the tool on a text of a few bytes.
-/

namespace Graft

namespace Text

theorem wordMax_eq : wordMax = 18446744073709551615 := rfl

theorem sizeMax_eq : sizeMax = 9223372036854775807 := rfl

end Text

namespace Indentation

/-! ## Layouts that can be written -/

variable {source style target : Indentation} {run : List Char}

theorem count_add_countP (run : List Char) :
    run.count '\t' + run.countP (· != '\t') = run.length := by
  have hlength := List.length_eq_countP_add_countP (· == '\t') (l := run)
  simpa [List.count, bne, Bool.beq_eq_decide_eq] using hlength.symm

theorem isWritable_layout_of_spaces (h : style.useTabs = false) :
    (style.layout (style.widthOf run)).isWritable = true ↔
      style.fullWidth run ≤ Text.sizeMax := by
  rw [Layout.isWritable_iff, layout, h, widthOf_eq, capped, Text.wordMax_eq, Text.sizeMax_eq]
  simp only [Bool.false_eq_true, if_false]
  omega

theorem isWritable_levels_of_spaces (h : target.useTabs = false) :
    (target.levels (source.level run) (source.extra run)).isWritable = true ↔
      source.movedWidth target run ≤ Text.sizeMax := by
  rw [Layout.isWritable_iff, levels, h, movedWidth, capped, capped, Text.wordMax_eq,
    Text.sizeMax_eq]
  simp only [Bool.false_eq_true, if_false]
  omega

theorem level_le (h : style.tabWidth ≠ 0) (run : List Char) : style.level run ≤ run.length := by
  have hpos := toNat_pos h
  have hlength := count_add_countP run
  apply Nat.div_le_of_le_mul
  calc style.widthOf run
      ≤ style.fullWidth run := by rw [widthOf_eq]; exact Nat.min_le_left _ _
    _ ≤ style.tabWidth.toNat * run.count '\t' +
          style.tabWidth.toNat * run.countP (· != '\t') :=
        Nat.add_le_add_left (Nat.le_mul_of_pos_left _ hpos) _
    _ = style.tabWidth.toNat * run.length := by rw [← Nat.mul_add, hlength]

/-- A run of less than a level has no tab, so it is as wide as it is long. -/
theorem extra_le_of_level_eq_zero (h : style.tabWidth ≠ 0) (hlevel : style.level run = 0) :
    style.extra run ≤ run.length := by
  have hsum := style.level_mul_add_extra run
  have hlt := extra_lt h run
  have hword := style.tabWidth_le_wordMax
  rw [hlevel, Nat.zero_mul, Nat.zero_add, widthOf_eq, capped, fullWidth] at hsum
  have hcount : run.count '\t' = 0 := by
    by_contra hcount
    have hle : style.tabWidth.toNat ≤ style.tabWidth.toNat * run.count '\t' :=
      Nat.le_mul_of_pos_right _ (Nat.pos_of_ne_zero hcount)
    omega
  rw [hcount, Nat.mul_zero, Nat.zero_add] at hsum
  have hlength := count_add_countP run
  omega

theorem isWritable_layout_of_tabs (h : style.useTabs = true) (hwidth : style.tabWidth ≠ 0)
    (hrun : run.length ≤ Text.sizeMax) :
    (style.layout (style.widthOf run)).isWritable = true := by
  rw [Layout.isWritable_iff, layout, if_pos h]
  refine ⟨(level_le hwidth run).trans hrun, ?_⟩
  change style.extra run ≤ Text.sizeMax
  by_cases hzero : style.level run = 0
  · exact (extra_le_of_level_eq_zero hwidth hzero).trans hrun
  · have hone : style.tabWidth.toNat ≤ style.level run * style.tabWidth.toNat :=
      Nat.le_mul_of_pos_left _ (Nat.pos_of_ne_zero hzero)
    have hsum := style.level_mul_add_extra run
    have hlt := extra_lt hwidth run
    have hle := style.widthOf_le run
    rw [Text.wordMax_eq] at hle
    rw [Text.sizeMax_eq]
    omega

/-- Where the columns of a run can be counted, its levels and what is left are no more than its
characters. -/
theorem level_add_extra_le_length (h : style.tabWidth ≠ 0)
    (hfits : style.fullWidth run ≤ Text.wordMax) :
    style.level run + style.extra run ≤ run.length := by
  have hpos := toNat_pos h
  have hlength := count_add_countP run
  have hwidth : style.widthOf run =
      style.tabWidth.toNat * run.count '\t' + run.countP (· != '\t') := by
    rw [widthOf_eq]
    exact Nat.min_eq_left hfits
  have hspaces : run.countP (· != '\t') / style.tabWidth.toNat +
      run.countP (· != '\t') % style.tabWidth.toNat ≤ run.countP (· != '\t') := by
    have hsplit := Nat.div_add_mod (run.countP (· != '\t')) style.tabWidth.toNat
    have hle := Nat.le_mul_of_pos_left (run.countP (· != '\t') / style.tabWidth.toNat) hpos
    omega
  rw [level, extra, hwidth, Nat.mul_add_div hpos, Nat.mul_add_mod]
  omega

/-- Beyond that a count stands still at the largest word. Its quotient and its remainder together
are still below the size of a text, since neither the width nor the quotient is small. -/
theorem level_add_extra_le (h : style.tabWidth ≠ 0)
    (hwidth : style.tabWidth.toNat ≤ Text.sizeMax) (hrun : run.length ≤ Text.sizeMax) :
    style.level run + style.extra run ≤ Text.sizeMax := by
  by_cases hfits : style.fullWidth run ≤ Text.wordMax
  · exact (level_add_extra_le_length h hfits).trans hrun
  · have hlength := count_add_countP run
    have hsum := style.level_mul_add_extra run
    have hlt := extra_lt h run
    rw [widthOf_eq, capped, Nat.min_eq_right (Nat.le_of_not_le hfits)] at hsum
    rw [Text.wordMax_eq] at hfits hsum
    rw [Text.sizeMax_eq] at hwidth hrun ⊢
    generalize style.level run = a at hsum ⊢
    generalize style.extra run = b at hsum hlt ⊢
    rw [fullWidth] at hfits
    generalize style.tabWidth.toNat = w at *
    have hwide : 3 ≤ w := by
      by_contra hnarrow
      have hle : w * run.count '\t' ≤ 2 * run.count '\t' := Nat.mul_le_mul_right _ (by omega)
      omega
    have hmany : 2 ≤ a := by
      by_contra hfew
      have hle : a * w ≤ 1 * w := Nat.mul_le_mul_right _ (by omega)
      omega
    obtain rfl | hmore := Nat.eq_or_lt_of_le hmany
    · omega
    · have hmore : 3 ≤ a := hmore
      obtain ⟨c, rfl⟩ := Nat.exists_eq_add_of_le hwide
      obtain ⟨d, rfl⟩ := Nat.exists_eq_add_of_le hmore
      have hproduct : (3 + d) * (3 + c) = 9 + 3 * d + 3 * c + d * c := by ring
      omega

/-! ## How wide a run can become -/

theorem fullWidth_le (style : Indentation) (run : List Char) :
    style.fullWidth run ≤ (style.tabWidth.toNat + 1) * run.length := by
  have hlength := count_add_countP run
  have htabs : style.tabWidth.toNat * run.count '\t' ≤ style.tabWidth.toNat * run.length :=
    Nat.mul_le_mul_left _ (by omega)
  rw [fullWidth, Nat.add_mul, Nat.one_mul]
  omega

theorem fullWidth_convert_le (h : source.tabWidth ≠ 0) (target : Indentation) (run : List Char) :
    target.fullWidth (source.convert target run) ≤ source.movedWidth target run := by
  rw [convert_eq_levels h, fullWidth_text, levels, movedWidth]
  split
  · rw [Nat.mul_comm]
  · simp only [capped]
    omega

theorem extra_le (h : source.tabWidth ≠ 0) {size : Nat}
    (hwidth : source.tabWidth.toNat ≤ max 4 size) (hrun : run.length ≤ size) :
    source.extra run ≤ size := by
  by_cases hfits : source.fullWidth run ≤ Text.wordMax
  · have hle := level_add_extra_le_length h hfits
    omega
  · have hlt := extra_lt h run
    have hlarge : 4 ≤ size := by
      by_contra hsmall
      have hle := source.fullWidth_le run
      have hbound := Nat.mul_le_mul (show source.tabWidth.toNat + 1 ≤ 5 by omega)
        (show run.length ≤ 3 by omega)
      rw [Text.wordMax_eq] at hfits
      omega
    omega

theorem movedWidth_le (h : source.tabWidth ≠ 0) {size : Nat}
    (hwidth : source.tabWidth.toNat ≤ max 4 size) (hrun : run.length ≤ size)
    (target : Indentation) :
    source.movedWidth target run ≤ (target.tabWidth.toNat + 1) * size := by
  have hlevel : source.level run * target.tabWidth.toNat ≤ size * target.tabWidth.toNat :=
    Nat.mul_le_mul_right _ ((level_le h run).trans hrun)
  have hextra := extra_le h hwidth hrun
  rw [movedWidth, Nat.add_mul, Nat.one_mul, Nat.mul_comm target.tabWidth.toNat]
  omega

end Indentation

namespace Document

/-! ## Documents that can be written -/

variable {source style : Indentation} {document : Document}

theorem all_moving (hsource : source.tabWidth ≠ 0) :
    (document.moving source style).all (·.isWritable) = true ↔
      source = style ∨ ∀ run ∈ document.runs,
        (style.levels (source.level run) (source.extra run)).isWritable = true := by
  unfold moving
  by_cases h : source = style
  · simp [h]
  · simp [h, Indentation.conversion?, hsource, Indentation.level, Indentation.extra]

theorem all_printing :
    (document.printing style).all (·.isWritable) = true ↔
      style.tabWidth = 0 ∨ ∀ run ∈ document.runs,
        (style.layout (style.widthOf run)).isWritable = true := by
  unfold printing
  by_cases h : style.tabWidth = 0
  · simp [h, Indentation.rendering?]
  · simp [h, Indentation.rendering?]

theorem all_moving_of_spaces (h : style.useTabs = false) (hsource : source.tabWidth ≠ 0) :
    (document.moving source style).all (·.isWritable) = true ↔
      source = style ∨ ∀ run, document.IsIndentation run →
        source.movedWidth style run ≤ Text.sizeMax := by
  have hnil : source.movedWidth style [] ≤ Text.sizeMax := by
    simp [Indentation.movedWidth, Indentation.level, Indentation.extra, Indentation.widthOf]
  simp only [all_moving hsource, Indentation.isWritable_levels_of_spaces h,
    document.forall_runs (P := fun run => source.movedWidth style run ≤ Text.sizeMax) hnil]

theorem all_printing_of_spaces (h : style.useTabs = false) :
    (document.printing style).all (·.isWritable) = true ↔
      style.tabWidth = 0 ∨ ∀ run, document.IsIndentation run →
        style.fullWidth run ≤ Text.sizeMax := by
  have hnil : style.fullWidth [] ≤ Text.sizeMax := by simp [Indentation.fullWidth]
  simp only [all_printing, Indentation.isWritable_layout_of_spaces h,
    document.forall_runs (P := fun run => style.fullWidth run ≤ Text.sizeMax) hnil]

section Tabs

variable (h : style.useTabs = true)
  (hruns : ∀ run, document.IsIndentation run → run.length ≤ Text.sizeMax)
include h hruns

theorem all_moving_of_tabs (hsource : source.tabWidth ≠ 0)
    (hwidth : source.tabWidth.toNat ≤ Text.sizeMax) :
    (document.moving source style).all (·.isWritable) = true := by
  have hnil : ([] : List Char).length ≤ Text.sizeMax := Nat.zero_le _
  have hshort := (document.forall_runs (P := fun run => run.length ≤ Text.sizeMax) hnil).mpr hruns
  refine (all_moving hsource).mpr (Or.inr fun run hrun => ?_)
  have hle := Indentation.level_add_extra_le hsource hwidth (hshort run hrun)
  rw [Indentation.Layout.isWritable_iff, Indentation.levels, if_pos h]
  exact ⟨(Nat.le_add_right _ _).trans hle, (Nat.le_add_left _ _).trans hle⟩

theorem all_printing_of_tabs : (document.printing style).all (·.isWritable) = true := by
  have hnil : ([] : List Char).length ≤ Text.sizeMax := Nat.zero_le _
  have hshort := (document.forall_runs (P := fun run => run.length ≤ Text.sizeMax) hnil).mpr hruns
  rw [all_printing]
  by_cases hwidth : style.tabWidth = 0
  · exact Or.inl hwidth
  · exact Or.inr fun run hrun =>
      Indentation.isWritable_layout_of_tabs h hwidth (hshort run hrun)

end Tabs

end Document

namespace Options

/-! ## Patches that can be written -/

variable {options : Options} {parser : Parser} {base proposed : String}

theorem answer?_eq_none_iff :
    options.answer? parser base (.text proposed) = none ↔
      ¬ (options.layouts parser base proposed).all (·.isWritable) = true := by
  rw [answer?_eq]
  split <;> simp [*]

theorem length_le_of_parseBoth {old new : Document} {after : NodeId}
    (h : options.parseBoth parser base proposed = .ok (old, new, after)) :
    (∀ run, old.IsIndentation run → run.length ≤ base.utf8ByteSize) ∧
      ∀ run, new.IsIndentation run → run.length ≤ proposed.utf8ByteSize := by
  obtain ⟨language, -, hboth⟩ := exists_language_of_parseBoth h
  cases hboth
  exact ⟨fun run hrun => Document.length_le_of_isIndentation _ _ _ _ _ hrun,
    fun run hrun => Document.length_le_of_isIndentation _ _ _ _ _ hrun⟩

theorem tabWidth_detect_ne_zero (hproposed : proposed.utf8ByteSize ≤ Text.sizeMax) :
    (Indentation.detect proposed).tabWidth ≠ 0 := by
  intro hzero
  have hpos := (Indentation.tabWidth_detect hproposed).1
  rw [hzero] at hpos
  exact absurd hpos (by decide)

theorem all_layouts_of_tabs (htabs : (options.indentationFor base).useTabs = true)
    (hbase : base.utf8ByteSize ≤ Text.sizeMax) (hproposed : proposed.utf8ByteSize ≤ Text.sizeMax) :
    (options.layouts parser base proposed).all (·.isWritable) = true := by
  cases hboth : options.parseBoth parser base proposed with
  | error refusal =>
    rw [layouts_of_error hboth]
    rfl
  | ok both =>
    obtain ⟨old, new, after⟩ := both
    obtain ⟨hold, hnew⟩ := length_le_of_parseBoth hboth
    have hold' := fun run hrun => (hold run hrun).trans hbase
    have hnew' := fun run hrun => (hnew run hrun).trans hproposed
    have hsource := tabWidth_detect_ne_zero hproposed
    have hwidth : (Indentation.detect proposed).tabWidth.toNat ≤ Text.sizeMax := by
      have hle := (Indentation.tabWidth_detect hproposed).2
      rw [Text.sizeMax_eq] at hproposed ⊢
      omega
    refine (all_layouts hboth).mpr ⟨Document.all_moving_of_tabs htabs hnew' hsource hwidth,
      Document.all_printing_of_tabs htabs ?_⟩
    -- A run that was moved is written with a tab for each level.
    refine Document.forall_isIndentation_graft (Nat.zero_le _) _ hold'
      (Document.forall_isIndentation_reindent (Nat.zero_le _) _ hnew' fun _ run hrun => ?_)
    have hle := Indentation.level_add_extra_le hsource hwidth (hnew' run hrun)
    rw [Indentation.convert_eq_levels hsource, Indentation.levels, if_pos htabs,
      Indentation.Layout.text, List.length_append, List.length_replicate, List.length_replicate]
    exact hle

theorem all_layouts_of_spaces (hspaces : (options.indentationFor base).useTabs = false)
    (hproposed : proposed.utf8ByteSize ≤ Text.sizeMax) {old new : Document} {after : NodeId}
    (h : options.parseBoth parser base proposed = .ok (old, new, after)) :
    let source := Indentation.detect proposed
    let style := options.indentationFor base
    let moved := new.reindent source style after
    let patched := (old.graft (old.diff moved.1).value moved.2).document
    (options.layouts parser base proposed).all (·.isWritable) = true ↔
      (source = style ∨ ∀ run, new.IsIndentation run →
        source.movedWidth style run ≤ Text.sizeMax) ∧
      (style.tabWidth = 0 ∨ ∀ run, patched.IsIndentation run →
        style.fullWidth run ≤ Text.sizeMax) := by
  intro source style moved patched
  exact (all_layouts h).trans (and_congr
    (Document.all_moving_of_spaces hspaces (tabWidth_detect_ne_zero hproposed))
    (Document.all_printing_of_spaces hspaces))

theorem all_layouts_of_small (hspaces : (options.indentationFor base).useTabs = false)
    (hproposed : proposed.utf8ByteSize ≤ Text.sizeMax)
    (hsmall : ((options.indentationFor base).tabWidth.toNat + 1) *
      max base.utf8ByteSize proposed.utf8ByteSize ≤ Text.sizeMax) :
    (options.layouts parser base proposed).all (·.isWritable) = true := by
  cases hboth : options.parseBoth parser base proposed with
  | error refusal =>
    rw [layouts_of_error hboth]
    rfl
  | ok both =>
    obtain ⟨old, new, after⟩ := both
    obtain ⟨hold, hnew⟩ := length_le_of_parseBoth hboth
    have hsource := tabWidth_detect_ne_zero hproposed
    have hwidth := (Indentation.tabWidth_detect hproposed).2
    have hfits {size : Nat} (hle : size ≤ max base.utf8ByteSize proposed.utf8ByteSize) :
        ((options.indentationFor base).tabWidth.toNat + 1) * size ≤ Text.sizeMax :=
      (Nat.mul_le_mul_left _ hle).trans hsmall
    have hmoved (run : List Char) (hrun : new.IsIndentation run) :
        (Indentation.detect proposed).movedWidth (options.indentationFor base) run ≤
          Text.sizeMax :=
      (Indentation.movedWidth_le hsource hwidth (hnew run hrun) _).trans (hfits (le_max_right _ _))
    have hshort {run : List Char} (hle : run.length ≤ max base.utf8ByteSize proposed.utf8ByteSize) :
        (options.indentationFor base).fullWidth run ≤ Text.sizeMax :=
      (Indentation.fullWidth_le _ run).trans (hfits hle)
    refine (all_layouts_of_spaces hspaces hproposed hboth).mpr ⟨Or.inr hmoved, Or.inr ?_⟩
    refine Document.forall_isIndentation_graft (Nat.zero_le _) _
      (fun run hrun => hshort ((hold run hrun).trans (le_max_left _ _)))
      (Document.forall_isIndentation_reindent (Nat.zero_le _) _
        (fun run hrun => hshort ((hnew run hrun).trans (le_max_right _ _))) fun _ run hrun => ?_)
    exact (Indentation.fullWidth_convert_le hsource _ run).trans (hmoved run hrun)

/-- Widths that stop the tool. With tabs every text gets its answer. With spaces the tool stops
exactly when a run of the proposal is too wide after it is moved, or a run of the patched text is.
Neither happens as long as the tab width times the size of the larger text fits, with that size
added once more. -/
theorem answer?_none_iff_wide (options : Options) (parser : Parser) (base proposed : String)
    (hbase : base.utf8ByteSize ≤ Text.sizeMax) (hproposed : proposed.utf8ByteSize ≤ Text.sizeMax) :
    let source := Indentation.detect proposed
    let style := options.indentationFor base
    let size := max base.utf8ByteSize proposed.utf8ByteSize
    (options.answer? parser base (.text proposed) = none ↔
      style.useTabs = false ∧ ∃ old new after,
        options.parseBoth parser base proposed = .ok (old, new, after) ∧
        let moved := new.reindent source style after
        let patched := (old.graft (old.diff moved.1).value moved.2).document
        (source ≠ style ∧ ∃ run, new.IsIndentation run ∧
            Text.sizeMax < source.movedWidth style run) ∨
          style.tabWidth ≠ 0 ∧ ∃ run, patched.IsIndentation run ∧
            Text.sizeMax < style.fullWidth run) ∧
    (style.useTabs = true ∨ (style.tabWidth.toNat + 1) * size ≤ Text.sizeMax →
      (∀ l ∈ options.layouts parser base proposed,
        l.tabs ≤ Text.sizeMax ∧ l.spaces ≤ Text.sizeMax) ∧
      options.answer? parser base (.text proposed) =
        some (options.answer parser base (.text proposed))) := by
  intro source style size
  constructor
  · rw [answer?_eq_none_iff]
    cases htabs : style.useTabs with
    | true => simp [all_layouts_of_tabs htabs hbase hproposed]
    | false =>
      cases hboth : options.parseBoth parser base proposed with
      | error refusal => simp [layouts_of_error hboth]
      | ok both =>
        obtain ⟨old, new, after⟩ := both
        refine (not_congr (all_layouts_of_spaces htabs hproposed hboth)).trans ?_
        constructor
        · intro h
          refine ⟨rfl, old, new, after, rfl, (not_and_or.mp h).imp ?_ ?_⟩
          · intro hwide
            simpa using hwide
          · intro hwide
            simpa using hwide
        · rintro ⟨-, _, _, _, ⟨⟩, hwide⟩ ⟨hmoving, hprinting⟩
          rcases hwide with ⟨hne, run, hrun, hlt⟩ | ⟨hne, run, hrun, hlt⟩
          · exact absurd (hmoving.resolve_left hne run hrun) (Nat.not_le.mpr hlt)
          · exact absurd (hprinting.resolve_left hne run hrun) (Nat.not_le.mpr hlt)
  · intro hfits
    have hall : (options.layouts parser base proposed).all (·.isWritable) = true := by
      cases htabs : style.useTabs with
      | true => exact all_layouts_of_tabs htabs hbase hproposed
      | false =>
        refine all_layouts_of_small htabs hproposed (hfits.resolve_left ?_)
        simp [htabs]
    refine ⟨fun l hl => ?_, by rw [answer?_eq, if_pos hall]⟩
    exact Indentation.Layout.isWritable_iff.mp (List.all_eq_true.mp hall l hl)

/-- One statement, and a second one behind two spaces. -/
def sampleLines : Parser := fun _ text =>
  let statement (start : Nat) : Concrete :=
    Document.sampleConcrete "expression_statement" start (start + 2) false
      [Document.sampleConcrete "identifier" start (start + 1) false [],
        Document.sampleConcrete ";" (start + 1) (start + 2) false []]
  if text = "a;\n" then Document.sampleConcrete "program" 0 3 false [statement 0]
  else Document.sampleConcrete "program" 0 8 false [statement 0, statement 5]

-- The widest tabs of all are no harm, since no run is written with more tabs than it had columns.
theorem answer?_none_iff_wide_sampleLines :
    let options : Options :=
      { file := "a.ts", useTabs := some true, tabWidth := some 18446744073709551615 }
    "a;\n".utf8ByteSize ≤ Text.sizeMax ∧ "a;\n  b;\n".utf8ByteSize ≤ Text.sizeMax ∧
      options.answer? sampleLines "a;\n" (.text "a;\n  b;\n") =
        some (options.answer sampleLines "a;\n" (.text "a;\n  b;\n")) := by
  intro options
  have hbase : "a;\n".utf8ByteSize ≤ Text.sizeMax := by decide
  have hproposed : "a;\n  b;\n".utf8ByteSize ≤ Text.sizeMax := by decide
  refine ⟨hbase, hproposed, ?_⟩
  exact ((answer?_none_iff_wide options sampleLines _ _ hbase hproposed).2 (Or.inl rfl)).2

set_option maxRecDepth 100000 in
-- The two spaces are one level, and a level of the base is to be `2 ^ 63` columns wide.
theorem not_writable_sampleLines :
    let options : Options := { file := "a.ts", tabWidth := some 9223372036854775808 }
    "a;\n".utf8ByteSize ≤ Text.sizeMax ∧ "a;\n  b;\n".utf8ByteSize ≤ Text.sizeMax ∧
      (options.parseBoth sampleLines "a;\n" "a;\n  b;\n").isOk = true ∧
      options.layouts sampleLines "a;\n" "a;\n  b;\n" = [⟨0, 9223372036854775808⟩] ∧
      ¬ 9223372036854775808 ≤ Text.sizeMax ∧
      options.answer? sampleLines "a;\n" (.text "a;\n  b;\n") = none := by
  intro options
  have hlayouts : options.layouts sampleLines "a;\n" "a;\n  b;\n" =
      [⟨0, 9223372036854775808⟩] := by decide +kernel
  refine ⟨by decide, by decide, by decide +kernel, hlayouts, by decide, ?_⟩
  rw [answer?_eq_none_iff, hlayouts]
  decide

end Options

end Graft
