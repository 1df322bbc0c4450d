import Graft.Indent.Detect
import Graft.Proofs.Lines

/-! # The vote on the style of a text

A tally holds, for every width, how many of the lines read so far voted for it, and so it forgets
their order. The widths are gone through in ascending order, and one replaces another only when it
has more lines: what is left is the narrowest of the commonest.
-/

namespace Graft

namespace Indentation

/-! ## Votes of a line -/

def votesSpaces (line : List Char) : Bool :=
  (votedWidth? line).isSome

/-- The columns of a line's white space that are no tabs. -/
def widthBesideTabs (line : List Char) : Nat :=
  (leading line).countP (· != '\t')

theorem votesTabs_iff (line : List Char) : votesTabs line ↔ '\t' ∈ leading line := by
  simp [votesTabs]

theorem votesSpaces_iff (line : List Char) :
    votesSpaces line ↔ ' ' ∈ leading line ∧ 1 < (leading line).countP (· != '\t') := by
  simp [votesSpaces, votedWidth?, Option.isSome_ite]

/-- The widths that lines vote for, in the order of the lines. -/
def votedWidths (ls : List (List Char)) : List Nat :=
  (ls.filter votesSpaces).map widthBesideTabs

theorem votedWidth?_eq (line : List Char) :
    votedWidth? line = if votesSpaces line then some (widthBesideTabs line) else none := by
  by_cases h : votesSpaces line
  · obtain ⟨hspace, hmany⟩ := (votesSpaces_iff line).mp h
    simp [h, votedWidth?, hspace, hmany, widthBesideTabs]
  · rw [if_neg h]
    simpa [votesSpaces] using h

theorem votedWidths_concat (ls : List (List Char)) (line : List Char) :
    votedWidths (ls ++ [line]) = votedWidths ls ++ (votedWidth? line).toList := by
  rw [votedWidths, List.filter_append, List.map_append, ← votedWidths, votedWidth?_eq]
  by_cases h : votesSpaces line <;> simp [h]

theorem mem_votedWidths {ls : List (List Char)} {width : Nat} (h : width ∈ votedWidths ls) :
    1 < width ∧ ∃ line ∈ ls, width ≤ line.length := by
  obtain ⟨line, hline, rfl⟩ := List.mem_map.mp h
  obtain ⟨hmem, hvotes⟩ := List.mem_filter.mp hline
  exact ⟨((votesSpaces_iff line).mp hvotes).2, line, hmem,
    List.countP_le_length.trans (List.takeWhile_sublist _).length_le⟩

/-! ## The tally -/

namespace Tally

variable {tally : Tally} {ls : List (List Char)}

@[simp] theorem tabLines_addTabs (line : List Char) :
    (tally.addTabs line).tabLines = tally.tabLines + if votesTabs line then 1 else 0 := by
  unfold addTabs
  split <;> rfl

@[simp] theorem spaceLines_addTabs (line : List Char) :
    (tally.addTabs line).spaceLines = tally.spaceLines := by
  unfold addTabs
  split <;> rfl

@[simp] theorem widths_addTabs (line : List Char) :
    (tally.addTabs line).widths = tally.widths := by
  unfold addTabs
  split <;> rfl

theorem mem_widths_addWidth (voted width : Nat) :
    width ∈ (tally.addWidth voted).widths ↔ width = voted ∨ width ∈ tally.widths := by
  rw [addWidth, Std.TreeMap.mem_insert, Nat.compare_eq_eq, eq_comm]

theorem getD_widths_addWidth (voted width : Nat) :
    (tally.addWidth voted).widths.getD width 0 =
      tally.widths.getD width 0 + if width = voted then 1 else 0 := by
  simp only [addWidth, Std.TreeMap.getD_insert, Nat.compare_eq_eq]
  by_cases h : width = voted
  · rw [if_pos h.symm, if_pos h, h]
  · rw [if_neg (Ne.symm h), if_neg h, Nat.add_zero]

/-- The tally of the lines: how many vote for tabs, how many for spaces, and for which widths. -/
structure Holds (tally : Tally) (ls : List (List Char)) : Prop where
  tabLines : tally.tabLines = ls.countP votesTabs
  spaceLines : tally.spaceLines = (votedWidths ls).length
  mem_widths : ∀ width, width ∈ tally.widths ↔ width ∈ votedWidths ls
  getD_widths : ∀ width, tally.widths.getD width 0 = (votedWidths ls).count width

theorem holds_nil : Holds {} [] where
  tabLines := rfl
  spaceLines := rfl
  mem_widths width := by simp [votedWidths]
  getD_widths width := by simp [votedWidths]

theorem Holds.add (h : tally.Holds ls) (line : List Char) :
    (tally.add line).Holds (ls ++ [line]) := by
  have htabs : (ls ++ [line]).countP votesTabs =
      tally.tabLines + if votesTabs line then 1 else 0 := by
    rw [List.countP_append, List.countP_singleton, h.tabLines]
  have hwidths := votedWidths_concat ls line
  unfold Tally.add
  cases hvoted : votedWidth? line with
  | none =>
    rw [hvoted, Option.toList_none, List.append_nil] at hwidths
    exact ⟨by simp [htabs], by simp [hwidths, h.spaceLines], by simp [hwidths, h.mem_widths],
      by simp [hwidths, h.getD_widths]⟩
  | some voted =>
    rw [hvoted, Option.toList_some] at hwidths
    refine ⟨by simp [htabs, addWidth], by simp [hwidths, addWidth, h.spaceLines],
      fun width => ?_, fun width => ?_⟩
    · rw [mem_widths_addWidth, widths_addTabs, h.mem_widths, hwidths, List.mem_append,
        List.mem_singleton, or_comm]
    · rw [getD_widths_addWidth, widths_addTabs, h.getD_widths, hwidths, List.count_append,
        List.count_singleton]
      simp only [beq_iff_eq, eq_comm (a := voted)]

theorem Holds.foldl (h : tally.Holds ls) (more : List (List Char)) :
    (more.foldl Tally.add tally).Holds (ls ++ more) := by
  induction more generalizing tally ls with
  | nil => rwa [List.append_nil]
  | cons line rest ih =>
    have hrest := ih (h.add line)
    rwa [List.append_assoc, List.singleton_append] at hrest

theorem holds_foldl (ls : List (List Char)) : (ls.foldl Tally.add {}).Holds ls :=
  holds_nil.foldl ls

theorem Holds.mem_toList (h : tally.Holds ls) (entry : Nat × Nat) :
    entry ∈ tally.widths.toList ↔
      entry.1 ∈ votedWidths ls ∧ entry.2 = (votedWidths ls).count entry.1 := by
  rw [← h.mem_widths, ← h.getD_widths, Std.TreeMap.mem_toList_iff_getElem?_eq_some,
    Std.TreeMap.mem_iff_isSome_getElem?, Std.TreeMap.getD_eq_getD_getElem?]
  cases tally.widths[entry.1]? <;> simp [eq_comm]

/-! ## The winner -/

/-- Of the entries the first among those with the highest count, which has the least width. -/
structure Leads (entries : List (Nat × Nat)) (best : Nat × Nat) : Prop where
  mem : best ∈ entries
  most : ∀ entry ∈ entries, entry.2 ≤ best.2
  least : ∀ entry ∈ entries, entry.2 = best.2 → best.1 ≤ entry.1

/-- An entry further on is wider, so it only takes the lead with a higher count. -/
theorem Leads.better {seen : List (Nat × Nat)} {best next : Nat × Nat} (h : Leads seen best)
    (hnext : ∀ entry ∈ seen, entry.1 < next.1) :
    ∃ leader, Tally.better (some best) next = some leader ∧ Leads (seen ++ [next]) leader := by
  unfold Tally.better
  -- Of two entries with one count the first is kept, and it has the lesser width.
  by_cases hmore : best.2 < next.2
  · refine ⟨next, by simp [hmore], by simp, fun entry hentry => ?_, fun entry hentry heq => ?_⟩
    all_goals
      rw [List.mem_append, List.mem_singleton] at hentry
      rcases hentry with hseen | rfl
    · exact (h.most entry hseen).trans hmore.le
    · exact le_rfl
    · have hle := h.most entry hseen
      omega
    · exact le_rfl
  · refine ⟨best, by simp [hmore], by simp [h.mem], fun entry hentry => ?_,
      fun entry hentry heq => ?_⟩
    all_goals
      rw [List.mem_append, List.mem_singleton] at hentry
      rcases hentry with hseen | rfl
    · exact h.most entry hseen
    · exact Nat.le_of_not_lt hmore
    · exact h.least entry hseen heq
    · exact (hnext best h.mem).le

theorem Leads.foldl {seen : List (Nat × Nat)} {best : Nat × Nat} (h : Leads seen best)
    (rest : List (Nat × Nat)) (hsorted : (seen ++ rest).Pairwise fun a b => a.1 < b.1) :
    ∃ leader, rest.foldl Tally.better (some best) = some leader ∧ Leads (seen ++ rest) leader := by
  induction rest generalizing seen best with
  | nil => exact ⟨best, rfl, by rwa [List.append_nil]⟩
  | cons next rest ih =>
    have hnext : ∀ entry ∈ seen, entry.1 < next.1 := fun entry hentry =>
      (List.pairwise_append.mp hsorted).2.2 entry hentry next List.mem_cons_self
    obtain ⟨leader, hbetter, hleads⟩ := h.better hnext
    have hrest := ih hleads (by rwa [List.append_assoc, List.singleton_append])
    rwa [List.append_assoc, List.singleton_append, ← hbetter] at hrest

theorem exists_leads {entries : List (Nat × Nat)} (hne : entries ≠ [])
    (hsorted : entries.Pairwise fun a b => a.1 < b.1) :
    ∃ leader, entries.foldl Tally.better none = some leader ∧ Leads entries leader := by
  obtain ⟨first, rest, rfl⟩ := List.exists_cons_of_ne_nil hne
  have hfirst : Leads [first] first := ⟨by simp, by simp, by simp⟩
  exact hfirst.foldl rest hsorted

theorem pairwise_toList (tally : Tally) :
    tally.widths.toList.Pairwise fun a b => a.1 < b.1 :=
  Std.TreeMap.ordered_keys_toList.imp fun h => Nat.compare_eq_lt.mp h

end Tally

/-- The least of the values that occur most often. -/
structure IsNarrowest (votes : List Nat) (width : Nat) : Prop where
  mem : width ∈ votes
  most : ∀ other ∈ votes, votes.count other ≤ votes.count width
  least : ∀ other ∈ votes, votes.count other = votes.count width → width ≤ other

theorem IsNarrowest.eq {votes : List Nat} {width other : Nat} (h : IsNarrowest votes width)
    (hother : IsNarrowest votes other) : width = other := by
  have hcount : votes.count other = votes.count width :=
    Nat.le_antisymm (h.most other hother.mem) (hother.most width h.mem)
  exact Nat.le_antisymm (h.least other hother.mem hcount) (hother.least width h.mem hcount.symm)

theorem IsNarrowest.perm {votes others : List Nat} {width : Nat} (h : IsNarrowest votes width)
    (hperm : votes.Perm others) : IsNarrowest others width := by
  have hcount (value : Nat) : others.count value = votes.count value := (hperm.count_eq value).symm
  refine ⟨hperm.mem_iff.mp h.mem, fun other hother => ?_, fun other hother heq => ?_⟩
  · rw [hcount, hcount]
    exact h.most other (hperm.mem_iff.mpr hother)
  · rw [hcount, hcount] at heq
    exact h.least other (hperm.mem_iff.mpr hother) heq

theorem Tally.Holds.winner? {tally : Tally} {ls : List (List Char)} (h : tally.Holds ls) :
    (votedWidths ls = [] ∧ tally.winner? = none) ∨
      ∃ width, IsNarrowest (votedWidths ls) width ∧ tally.winner? = some width := by
  have hentry (width : Nat) (hwidth : width ∈ votedWidths ls) :=
    (h.mem_toList (width, (votedWidths ls).count width)).mpr ⟨hwidth, rfl⟩
  by_cases hempty : tally.widths.toList = []
  · refine Or.inl ⟨List.eq_nil_iff_forall_not_mem.mpr fun width hwidth => ?_, ?_⟩
    · have hmem := hentry width hwidth
      rw [hempty] at hmem
      cases hmem
    · rw [Tally.winner?, hempty]
      rfl
  · obtain ⟨leader, hfold, hleads⟩ := Tally.exists_leads hempty tally.pairwise_toList
    obtain ⟨hmem, hcount⟩ := (h.mem_toList leader).mp hleads.mem
    refine Or.inr ⟨leader.1, ⟨hmem, fun other hother => ?_, fun other hother heq => ?_⟩, ?_⟩
    · exact hcount ▸ hleads.most _ (hentry other hother)
    · exact hleads.least _ (hentry other hother) (heq.trans hcount.symm)
    · rw [Tally.winner?, hfold, Option.map_some]

/-! ## The vote -/

/-- What the lines vote for. -/
inductive Elects (ls : List (List Char)) : Indentation → Prop where
  | tabbed (hmore : (votedWidths ls).length < ls.countP votesTabs) : Elects ls (tabs defaultWidth)
  | spaced (hless : ls.countP votesTabs ≤ (votedWidths ls).length) (width : Nat)
    (hwidth : IsNarrowest (votedWidths ls) width) : Elects ls (spaces width.toUInt64)
  | undecided (hless : ls.countP votesTabs ≤ (votedWidths ls).length)
    (hnone : votedWidths ls = []) : Elects ls (spaces defaultWidth)

theorem elects_detectLines (ls : List (List Char)) : Elects ls (detectLines ls) := by
  have htally := Tally.holds_foldl ls
  rw [detectLines, Tally.style, htally.tabLines, htally.spaceLines]
  split
  · next hmore => exact .tabbed hmore
  · next hless =>
    rw [Nat.not_lt] at hless
    obtain ⟨hnone, hwinner⟩ | ⟨width, hwidth, hwinner⟩ := htally.winner?
    · rw [hwinner]
      exact .undecided hless hnone
    · rw [hwinner]
      exact .spaced hless width hwidth

variable {ls others : List (List Char)}

theorem Elects.useTabs_iff {style : Indentation} (h : Elects ls style) :
    style.useTabs ↔ (votedWidths ls).length < ls.countP votesTabs := by
  cases h with
  | tabbed hmore => exact iff_of_true rfl hmore
  | spaced hless width _ => exact iff_of_false (by simp [spaces]) hless.not_gt
  | undecided hless _ => exact iff_of_false (by simp [spaces]) hless.not_gt

theorem Elects.eq_tabs_iff_useTabs {style : Indentation} (h : Elects ls style) :
    style = tabs defaultWidth ↔ style.useTabs := by
  cases h <;> simp [tabs, spaces]

theorem Elects.eq_tabs_iff {style : Indentation} (h : Elects ls style) :
    style = tabs defaultWidth ↔ (votedWidths ls).length < ls.countP votesTabs :=
  h.eq_tabs_iff_useTabs.trans h.useTabs_iff

theorem Elects.exists_width {style : Indentation} (h : Elects ls style)
    (hless : ¬ (votedWidths ls).length < ls.countP votesTabs) :
    ∃ width, (IsNarrowest (votedWidths ls) width ∨ votedWidths ls = [] ∧ width = 4) ∧
      style = spaces width.toUInt64 := by
  cases h with
  | tabbed hmore => exact absurd hmore hless
  | spaced _ width hwidth => exact ⟨width, Or.inl hwidth, rfl⟩
  | undecided _ hnone => exact ⟨4, Or.inr ⟨hnone, rfl⟩, rfl⟩

/-- The votes elect one style, in whatever order they are cast. -/
theorem Elects.eq {style other : Indentation} (h : Elects ls style) (hother : Elects others other)
    (htabs : ls.countP votesTabs = others.countP votesTabs)
    (hwidths : (votedWidths ls).Perm (votedWidths others)) : style = other := by
  have hlength := hwidths.length_eq
  cases h with
  | tabbed hmore => exact (hother.eq_tabs_iff.mpr (hlength ▸ htabs ▸ hmore)).symm
  | spaced hless width hwidth =>
    cases hother with
    | tabbed hmore => omega
    | spaced _ _ hwidth' => rw [(hwidth.perm hwidths).eq hwidth']
    | undecided _ hnone => exact absurd (hnone ▸ hwidths.mem_iff.mp hwidth.mem) List.not_mem_nil
  | undecided hless hnone =>
    cases hother with
    | tabbed hmore => omega
    | spaced _ _ hwidth => exact absurd (hnone ▸ hwidths.mem_iff.mpr hwidth.mem) List.not_mem_nil
    | undecided _ _ => rfl

/-! ## Lines without a vote -/

def isIndented (line : List Char) : Bool :=
  leading line ≠ []

theorem isIndented_of_votesTabs {line : List Char} (h : votesTabs line) : isIndented line := by
  rw [votesTabs_iff] at h
  simp [isIndented, List.ne_nil_of_mem h]

theorem isIndented_of_votesSpaces {line : List Char} (h : votesSpaces line) : isIndented line := by
  rw [votesSpaces_iff] at h
  simp [isIndented, List.ne_nil_of_mem h.1]

theorem countP_votesTabs_filter (ls : List (List Char)) :
    (ls.filter isIndented).countP votesTabs = ls.countP votesTabs := by
  rw [List.countP_filter]
  exact List.countP_congr fun line _ => by simpa using isIndented_of_votesTabs

theorem votedWidths_filter (ls : List (List Char)) :
    votedWidths (ls.filter isIndented) = votedWidths ls := by
  rw [votedWidths, List.filter_filter, votedWidths]
  congr 1
  exact List.filter_congr fun line _ => by
    rw [Bool.eq_iff_iff, Bool.and_eq_true]
    exact and_iff_left_of_imp isIndented_of_votesSpaces

theorem detectLines_eq_of_perm (h : (others.filter isIndented).Perm (ls.filter isIndented)) :
    detectLines others = detectLines ls := by
  refine (elects_detectLines others).eq (elects_detectLines ls) ?_ ?_
  · rw [← countP_votesTabs_filter others, ← countP_votesTabs_filter ls]
    exact h.countP_eq _
  · rw [← votedWidths_filter others, ← votedWidths_filter ls]
    exact (h.filter _).map _

/-! ## The detected width -/

theorem toNat_toUInt64_of_mem {text : String} (h : text.utf8ByteSize ≤ Text.sizeMax) {width : Nat}
    (hwidth : width ∈ votedWidths (Text.lines text.toList)) :
    width ≤ text.utf8ByteSize ∧ width.toUInt64.toNat = width := by
  obtain ⟨-, line, hline, hle⟩ := mem_votedWidths hwidth
  have hlength := Text.length_le_of_mem_lines hline
  have hbytes := Text.length_le_utf8ByteSize text
  rw [show Text.sizeMax = 9223372036854775807 from rfl] at h
  exact ⟨by omega, Nat.mod_eq_of_lt (by omega)⟩

theorem tabWidth_detect {text : String} (h : text.utf8ByteSize ≤ Text.sizeMax) :
    2 ≤ (detect text).tabWidth.toNat ∧
      (detect text).tabWidth.toNat ≤ max 4 text.utf8ByteSize := by
  have hdefault : defaultWidth.toNat = 4 := rfl
  have helects : Elects (Text.lines text.toList) (detect text) := elects_detectLines _
  generalize detect text = style at helects ⊢
  cases helects with
  | tabbed _ =>
    simp only [tabs, hdefault]
    omega
  | spaced _ width hwidth =>
    have hmany := (mem_votedWidths hwidth.mem).1
    obtain ⟨hle, hword⟩ := toNat_toUInt64_of_mem h hwidth.mem
    simp only [spaces, hword]
    omega
  | undecided _ _ =>
    simp only [spaces, hdefault]
    omega

/-! ## The majority -/

/-- The style of a text is that of the majority. With more lines that have a tab in front than lines
that have a space there, and more than one column beside the tabs, it is tabs. Otherwise it is the
narrowest of the commonest widths of the latter lines. The order of the lines does not matter, nor
does a line that is not indented. Widths fit a machine word, as long as the text does. -/
theorem detect_majority (text : String) :
    let ls := Text.lines text.toList
    let tabLines := ls.filter fun line => '\t' ∈ leading line
    let spaceLines := ls.filter fun line => ' ' ∈ leading line ∧ 1 < widthBesideTabs line
    let widths := spaceLines.map widthBesideTabs
    (detect text = tabs 4 ↔ spaceLines.length < tabLines.length) ∧
    (¬ spaceLines.length < tabLines.length →
      ∃ width, (IsNarrowest widths width ∨ widths = [] ∧ width = 4) ∧
        detect text = spaces width.toUInt64 ∧
        (text.utf8ByteSize ≤ Text.sizeMax → width.toUInt64.toNat = width)) ∧
    (∀ other : String, (Text.lines other.toList).Perm ls → detect other = detect text) ∧
    (∀ other : String, (Text.lines other.toList).filter isIndented = ls.filter isIndented →
      detect other = detect text) ∧
    (text.utf8ByteSize ≤ Text.sizeMax → 2 ≤ (detect text).tabWidth.toNat) := by
  intro ls tabLines spaceLines widths
  have htabLines : tabLines = ls.filter votesTabs :=
    List.filter_congr fun line _ => by
      rw [Bool.eq_iff_iff, decide_eq_true_iff, votesTabs_iff]
  have hcount : tabLines.length = ls.countP votesTabs := by
    rw [htabLines, List.countP_eq_length_filter]
  have hspaceLines : spaceLines = ls.filter votesSpaces :=
    List.filter_congr fun line _ => by
      rw [Bool.eq_iff_iff, decide_eq_true_iff, votesSpaces_iff, widthBesideTabs]
  have hwidths : widths = votedWidths ls := congrArg (List.map widthBesideTabs) hspaceLines
  have hlength : spaceLines.length = (votedWidths ls).length := by
    rw [← hwidths, List.length_map]
  have helects : Elects ls (detect text) := elects_detectLines ls
  rw [hcount, hlength, hwidths]
  refine ⟨helects.eq_tabs_iff, fun hless => ?_, fun other hperm => ?_, fun other hsame => ?_,
    fun hsize => (tabWidth_detect hsize).1⟩
  · obtain ⟨width, hwidth, hstyle⟩ := helects.exists_width hless
    refine ⟨width, hwidth, hstyle, fun hsize => ?_⟩
    obtain hnarrowest | ⟨-, rfl⟩ := hwidth
    · exact (toNat_toUInt64_of_mem hsize hnarrowest.mem).2
    · rfl
  · exact detectLines_eq_of_perm (hperm.filter _)
  · exact detectLines_eq_of_perm (.of_eq hsame)

/-- Two lines vote for tabs, one of them for spaces too, and two widths have two lines each. -/
def sampleVotes : String :=
  "a\n \t b\n   c\n   d\n  e\n\tf"

theorem detect_majority_sampleVotes :
    detect sampleVotes = spaces 2 ∧ 2 ≤ (detect sampleVotes).tabWidth.toNat ∧
      detect "\tf\n  e\n   d\n   c\n \t b\na" = detect sampleVotes ∧
      detect " \t b\n   c\n   d\n\n  e\n\tf\ng" = detect sampleVotes := by
  obtain ⟨-, hspaces, hperm, hplain, hwidth⟩ := detect_majority sampleVotes
  refine ⟨?_, hwidth (by decide), hperm _ (by decide), hplain _ (by decide)⟩
  obtain ⟨width, hvotes, hstyle, -⟩ := hspaces (by decide)
  have hwidths : (((Text.lines sampleVotes.toList).filter fun line =>
      ' ' ∈ leading line ∧ 1 < widthBesideTabs line).map widthBesideTabs) = [2, 3, 3, 2] := by
    decide
  rw [hwidths] at hvotes
  obtain hnarrowest | ⟨hnone, -⟩ := hvotes
  · -- Both widths have two lines, and two is the narrower.
    have htwo : IsNarrowest [2, 3, 3, 2] 2 := ⟨by decide, by decide, by decide⟩
    rw [hstyle, hnarrowest.eq htwo]
    rfl
  · cases hnone

end Indentation

end Graft
