import Graft.Cli.Arguments
import Mathlib.Data.List.TakeWhile

/-! # Flags before the command

The arguments of the configuration are the longest sequence of flags, each with its value, that the
arguments start with. The two outputs of the split grow in step, so that the configuration and the
command share the arguments out between them.
-/

namespace Graft

/-! ## Flags and their values -/

namespace Flags

theorem divide_of_not_mem {argument : String} (h : '=' ∉ argument.toList) :
    divide argument = (argument, none) := by
  have hdrop : argument.toList.dropWhile (· != '=') = [] :=
    List.dropWhile_eq_nil_iff.mpr fun c hc => bne_iff_ne.mpr (ne_of_mem_of_not_mem hc h)
  simp only [divide, hdrop]

theorem divide_append {name : String} (value : String) (h : '=' ∉ name.toList) :
    divide (name ++ "=" ++ value) = (name, some value) := by
  have hname : ∀ c ∈ name.toList, (c != '=') = true := fun c hc =>
    bne_iff_ne.mpr (ne_of_mem_of_not_mem hc h)
  have htext : (name ++ "=" ++ value).toList = name.toList ++ '=' :: value.toList := by
    simp
  simp only [divide, htext, List.dropWhile_append_of_pos hname, List.takeWhile_append_of_pos hname]
  simp

theorem eq_of_divide (argument : String) :
    argument = (divide argument).1 ++ ((divide argument).2.map ("=" ++ ·)).getD "" := by
  have hsplit := List.takeWhile_append_dropWhile (p := (· != '=')) (l := argument.toList)
  unfold divide
  simp only
  split
  · simp
  · next c value hdrop =>
    have hc : c = '=' := by
      have hnot := List.head?_dropWhile_not (p := (· != '=')) argument.toList
      simpa [hdrop] using hnot
    rw [hdrop, hc] at hsplit
    refine String.toList_inj.mp (hsplit.symm.trans ?_)
    simp

end Flags

@[simp] theorem ValueFlag.ofName?_name (flag : ValueFlag) : ofName? flag.name = some flag := by
  cases flag <;> rfl

theorem ValueFlag.eq_name_of_ofName? {name : String} {flag : ValueFlag}
    (h : ofName? name = some flag) : name = flag.name := by
  unfold ofName? at h
  split at h <;> cases h <;> rfl

theorem ValueFlag.not_mem_name (flag : ValueFlag) : '=' ∉ flag.name.toList := by
  cases flag <;> decide

theorem ValueFlag.name_ne_switchName (flag : ValueFlag) : flag.name ≠ switchName := by
  cases flag <;> decide

theorem not_mem_switchName : '=' ∉ switchName.toList := by
  decide

namespace Cli

def IsSwitch (argument : String) : Prop :=
  argument = switchName ∨ ∃ value, argument = switchName ++ "=" ++ value

/-- A flag with its value behind an equals sign. -/
def HoldsValue (argument : String) : Prop :=
  ∃ (flag : ValueFlag) (value : String), argument = flag.name ++ "=" ++ value

/-- A flag that has its value in the next argument. -/
def AwaitsValue (argument : String) : Prop :=
  ∃ flag : ValueFlag, argument = flag.name

def IsFlag (argument : String) : Prop :=
  IsSwitch argument ∨ HoldsValue argument ∨ AwaitsValue argument

variable {argument : String}

theorem takesNext?_of_isSwitch (h : IsSwitch argument) : takesNext? argument = some false := by
  unfold takesNext?
  rcases h with rfl | ⟨value, rfl⟩
  · simp [Flags.divide_of_not_mem not_mem_switchName]
  · simp [Flags.divide_append value not_mem_switchName]

theorem takesNext?_of_holdsValue (h : HoldsValue argument) : takesNext? argument = some false := by
  obtain ⟨flag, value, rfl⟩ := h
  simp [takesNext?, Flags.divide_append value flag.not_mem_name, flag.name_ne_switchName]

theorem takesNext?_of_awaitsValue (h : AwaitsValue argument) : takesNext? argument = some true := by
  obtain ⟨flag, rfl⟩ := h
  simp [takesNext?, Flags.divide_of_not_mem flag.not_mem_name, flag.name_ne_switchName]

theorem takesNext?_cases (argument : String) :
    (takesNext? argument = some false ∧ (IsSwitch argument ∨ HoldsValue argument)) ∨
      (takesNext? argument = some true ∧ AwaitsValue argument) ∨ takesNext? argument = none := by
  have hargument := Flags.eq_of_divide argument
  unfold takesNext?
  generalize Flags.divide argument = divided at hargument ⊢
  obtain ⟨name, value⟩ := divided
  simp only at hargument ⊢
  by_cases hswitch : name = switchName
  · refine Or.inl ⟨if_pos hswitch, Or.inl ?_⟩
    cases value with
    | none => exact Or.inl (by simpa [hswitch] using hargument)
    | some value => exact Or.inr ⟨value, by simpa [hswitch, String.append_assoc] using hargument⟩
  · rw [if_neg hswitch]
    cases hflag : ValueFlag.ofName? name with
    | none => exact Or.inr (Or.inr rfl)
    | some flag =>
      obtain rfl := ValueFlag.eq_name_of_ofName? hflag
      cases value with
      | none => exact Or.inr (Or.inl ⟨rfl, flag, by simpa using hargument⟩)
      | some value =>
        exact Or.inl ⟨rfl, Or.inr ⟨flag, value, by simpa [String.append_assoc] using hargument⟩⟩

theorem takesNext?_eq_none_iff : takesNext? argument = none ↔ ¬ IsFlag argument := by
  constructor
  · rintro hnone (hflag | hflag | hflag)
    · cases hnone.symm.trans (takesNext?_of_isSwitch hflag)
    · cases hnone.symm.trans (takesNext?_of_holdsValue hflag)
    · cases hnone.symm.trans (takesNext?_of_awaitsValue hflag)
  · intro h
    obtain ⟨-, hflag⟩ | ⟨-, hflag⟩ | hnone := takesNext?_cases argument
    · exact absurd (hflag.imp_right Or.inl) h
    · exact absurd (Or.inr (Or.inr hflag)) h
    · exact hnone

/-! ## Sequences of flags -/

section

variable {α : Type} (text : α → String)

/-- The arguments are flags, each with its value, when others follow them. Only a flag that nothing
follows goes without the value it waits for. -/
inductive AreFlags : List α → List α → Prop where
  | nil (after : List α) : AreFlags [] after
  | switch {flag : α} {more after : List α} (hflag : IsSwitch (text flag))
    (hmore : AreFlags more after) : AreFlags (flag :: more) after
  | inline {flag : α} {more after : List α} (hflag : HoldsValue (text flag))
    (hmore : AreFlags more after) : AreFlags (flag :: more) after
  | separate {flag : α} (value : α) {more after : List α} (hflag : AwaitsValue (text flag))
    (hmore : AreFlags more after) : AreFlags (flag :: value :: more) after
  | last {flag : α} (hflag : AwaitsValue (text flag)) : AreFlags [flag] []

variable {text} {before after : List α}

theorem AreFlags.of_ne_nil (h : AreFlags text before after) (hne : after ≠ []) (others : List α) :
    AreFlags text before others := by
  induction h with
  | nil _ => exact .nil others
  | switch hflag _ ih => exact .switch hflag (ih hne)
  | inline hflag _ ih => exact .inline hflag (ih hne)
  | separate value hflag _ ih => exact .separate value hflag (ih hne)
  | last _ => exact absurd rfl hne

/-! ## The split -/

/-- Both outputs grow by the arguments that are taken. -/
theorem splitFrom_in_step (text : α → String) (taken : Array α) (start pending : Nat)
    (rest : List α) :
    ∃ count ≤ rest.length, splitFrom text taken start pending rest =
      ⟨taken.toList ++ rest.take count, start + count⟩ := by
  induction rest generalizing taken start pending with
  | nil => exact ⟨0, le_rfl, by simp [splitFrom]⟩
  | cons argument rest ih =>
    have htake (pending : Nat) : ∃ count ≤ (argument :: rest).length,
        splitFrom text (taken.push argument) (start + 1) pending rest =
          ⟨taken.toList ++ (argument :: rest).take count, start + count⟩ := by
      obtain ⟨count, hcount, hsplit⟩ := ih (taken.push argument) (start + 1) pending
      refine ⟨count + 1, Nat.succ_le_succ hcount, ?_⟩
      rw [hsplit]
      simp [Nat.add_assoc, Nat.add_comm 1 count]
    unfold splitFrom
    split
    · exact htake _
    · split
      · exact htake _
      · exact ⟨0, Nat.zero_le _, by simp⟩

theorem push_append (taken : Array α) (argument : α) (more : List α) :
    taken.push argument ++ more = taken ++ argument :: more :=
  Array.toList_inj.mp (by simp)

theorem splitFrom_cons {flag : α} {takesNext : Bool}
    (h : takesNext? (text flag) = some takesNext) (taken : Array α) (start : Nat) (rest : List α) :
    splitFrom text taken start 0 (flag :: rest) =
      splitFrom text (taken.push flag) (start + 1) takesNext.toNat rest := by
  rw [splitFrom, h]

theorem splitFrom_of_areFlags (h : AreFlags text before after) (taken : Array α) (start : Nat) :
    splitFrom text taken start 0 (before ++ after) =
      splitFrom text (taken ++ before) (start + before.length) 0 after := by
  induction h generalizing taken start with
  | nil _ => simp
  | switch hflag _ ih =>
    rw [List.cons_append, splitFrom_cons (takesNext?_of_isSwitch hflag)]
    simp only [Bool.toNat_false, ih, push_append, List.length_cons, Nat.add_assoc, Nat.add_comm 1]
  | inline hflag _ ih =>
    rw [List.cons_append, splitFrom_cons (takesNext?_of_holdsValue hflag)]
    simp only [Bool.toNat_false, ih, push_append, List.length_cons, Nat.add_assoc, Nat.add_comm 1]
  | separate value hflag _ ih =>
    rw [List.cons_append, splitFrom_cons (takesNext?_of_awaitsValue hflag)]
    simp only [Bool.toNat_true, List.cons_append, splitFrom, ih, push_append, List.length_cons,
      Nat.add_assoc, Nat.add_comm 1]
  | last hflag =>
    rw [List.append_nil, splitFrom_cons (takesNext?_of_awaitsValue hflag)]
    simp [splitFrom]

/-- What the split takes when so many values are still to come. Where the arguments end before that,
the values are left out. -/
def Takes (text : α → String) : Nat → List α → List α → Prop
  | 0, before, after => AreFlags text before after
  | pending + 1, before, after =>
    (before = [] ∧ after = []) ∨
      ∃ value more, before = value :: more ∧ Takes text pending more after

theorem exists_takes (text : α → String) (taken : Array α) (start pending : Nat)
    (rest : List α) :
    ∃ before after, rest = before ++ after ∧ Takes text pending before after ∧
      (splitFrom text taken start pending rest).commandStart = start + before.length := by
  -- A flag that waits for its value leaves the induction with one value to come.
  induction rest generalizing taken start pending with
  | nil =>
    refine ⟨[], [], rfl, ?_, rfl⟩
    cases pending with
    | zero => exact .nil []
    | succ _ => exact Or.inl ⟨rfl, rfl⟩
  | cons argument rest ih =>
    cases pending with
    | succ pending =>
      obtain ⟨before, after, rfl, htakes, hstart⟩ := ih (taken.push argument) (start + 1) pending
      refine ⟨argument :: before, after, rfl, Or.inr ⟨argument, before, rfl, htakes⟩, ?_⟩
      rw [splitFrom, hstart, List.length_cons, Nat.add_right_comm, Nat.add_assoc]
    | zero =>
      obtain ⟨htext, hflag⟩ | ⟨htext, hflag⟩ | htext := takesNext?_cases (text argument)
      · rw [splitFrom_cons htext]
        obtain ⟨before, after, rfl, hflags, hstart⟩ := ih (taken.push argument) (start + 1) 0
        refine ⟨argument :: before, after, rfl, ?_, ?_⟩
        · exact hflag.elim (.switch · hflags) (.inline · hflags)
        · simp only [Bool.toNat_false, hstart, List.length_cons]
          omega
      · rw [splitFrom_cons htext]
        obtain ⟨before, after, rfl, htakes, hstart⟩ := ih (taken.push argument) (start + 1) 1
        refine ⟨argument :: before, after, rfl, ?_, ?_⟩
        · obtain ⟨rfl, rfl⟩ | ⟨value, more, rfl, hflags⟩ := htakes
          · exact .last hflag
          · exact .separate value hflag hflags
        · simp only [Bool.toNat_true, hstart, List.length_cons]
          omega
      · rw [splitFrom, htext]
        exact ⟨[], argument :: rest, rfl, .nil _, rfl⟩

theorem le_commandStart_splitFrom (text : α → String) (taken : Array α) (start pending : Nat)
    (rest : List α) :
    start ≤ (splitFrom text taken start pending rest).commandStart := by
  obtain ⟨count, -, hsplit⟩ := splitFrom_in_step text taken start pending rest
  rw [hsplit]
  exact Nat.le_add_right start count

theorem config_splitFrom_of_stop {stop : α} (h : AreFlags text before (stop :: after))
    (hstop : ¬ IsFlag (text stop)) (taken : Array α) (start : Nat) :
    (splitFrom text taken start 0 (before ++ stop :: after)).config = taken.toList ++ before := by
  rw [splitFrom_of_areFlags h, splitFrom, takesNext?_eq_none_iff.mpr hstop]
  exact Array.toList_appendList

/-- The arguments of the configuration are those before the command, and the two parts make up all
arguments. The command starts after the longest sequence of flags, each with its value. Once an
argument stands where a flag could and is none, what is added further on does not count. -/
theorem splitBy_longest (text : α → String) :
    (splitBy text [] = ⟨[], 0⟩ ∧ commandBy text [] = []) ∧
    ∀ (program : α) (rest : List α),
      let arguments := program :: rest
      let result := splitBy text arguments
      result.config = arguments.take result.commandStart ∧
      result.config ++ arguments.drop result.commandStart = arguments ∧
      commandBy text arguments = program :: arguments.drop result.commandStart ∧
      (∃ flags command, rest = flags ++ command ∧ AreFlags text flags command ∧
        result.commandStart = flags.length + 1 ∧
        ∀ others below, rest = others ++ below → AreFlags text others below →
          others.length ≤ flags.length) ∧
      ∀ flags stop after more, rest = flags ++ stop :: after →
        AreFlags text flags (stop :: after) → ¬ IsFlag (text stop) →
        (splitBy text (arguments ++ more)).config = result.config := by
  refine ⟨⟨rfl, rfl⟩, fun program rest => ?_⟩
  intro arguments result
  have hconfig : result.config = arguments.take result.commandStart := by
    obtain ⟨count, -, hsplit⟩ := splitFrom_in_step text #[program] 1 0 rest
    simp only [result, arguments, splitBy, hsplit, Nat.add_comm 1, List.take_succ_cons]
    rfl
  refine ⟨hconfig, ?_, rfl, ?_, ?_⟩
  · rw [hconfig, List.take_append_drop]
  · obtain ⟨flags, command, hrest, hflags, hstart⟩ := exists_takes text #[program] 1 0 rest
    refine ⟨flags, command, hrest, hflags, hstart.trans (Nat.add_comm 1 _),
      fun others below hothers hbelow => ?_⟩
    -- Every other sequence of flags is passed over too, so the command starts behind it.
    have hpassed := splitFrom_of_areFlags hbelow #[program] 1
    rw [← hothers] at hpassed
    have hle := le_commandStart_splitFrom text (#[program] ++ others) (1 + others.length) 0 below
    rw [← hpassed, hstart] at hle
    omega
  · intro flags stop after more hrest hflags hstop
    -- No flag is the last argument here, so the sequence stays one when others follow.
    have hmore : AreFlags text flags (stop :: (after ++ more)) :=
      hflags.of_ne_nil (List.cons_ne_nil stop after) _
    calc (splitBy text (arguments ++ more)).config
      _ = (splitFrom text #[program] 1 0 (flags ++ stop :: (after ++ more))).config := by
        simp only [splitBy, arguments, hrest, List.cons_append, List.append_assoc]
      _ = program :: flags := config_splitFrom_of_stop hmore hstop #[program] 1
      _ = (splitFrom text #[program] 1 0 (flags ++ stop :: after)).config :=
        (config_splitFrom_of_stop hflags hstop #[program] 1).symm
      _ = result.config := by simp only [result, splitBy, arguments, hrest]

end

/-- The value of the first flag looks like a flag, and a flag stands behind the command. -/
def sampleFlags : List String :=
  ["sempatch", "--log-filter", "--tab-width", "--allow-syntax-errors=no", "--indent-style=tabs",
    "anchors", "--tab-width"]

theorem splitBy_longest_sampleFlags :
    (splitBy id sampleFlags).commandStart = 5 ∧
      commandBy id sampleFlags = ["sempatch", "anchors", "--tab-width"] ∧
      (splitBy id (sampleFlags ++ ["2", "--log-filter=debug"])).config =
        (splitBy id sampleFlags).config := by
  obtain ⟨-, -, hcommand, -, hstays⟩ := (splitBy_longest id).2 "sempatch" sampleFlags.tail
  have hstart : (splitBy id sampleFlags).commandStart = 5 := by decide
  have hflags : AreFlags id ["--log-filter", "--tab-width", "--allow-syntax-errors=no",
      "--indent-style=tabs"] ["anchors", "--tab-width"] :=
    .separate "--tab-width" ⟨.logFilter, rfl⟩
      (.switch (Or.inr ⟨"no", by decide⟩) (.inline ⟨.indentStyle, "tabs", by decide⟩ (.nil _)))
  have hstop : ¬ IsFlag (id "anchors") := takesNext?_eq_none_iff.mp (by decide)
  exact ⟨hstart, hcommand.trans (by decide), hstays _ _ _ _ rfl hflags hstop⟩

end Cli

end Graft
