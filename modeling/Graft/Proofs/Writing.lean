import Graft.Proofs.Files
import Graft.Proofs.Limits

/-! # What a run writes

Of all commands only one writes to a file, and it does so last, when nothing can fail any more but
the writing itself. So a run that fails leaves the directory as it was, and one that succeeds has
put a patched text in the place of the text it was made from, or nothing anywhere.
-/

namespace Graft

namespace Cli

variable {parser : Parser} {invocation : Invocation} {config : Config} {directory : Directory}
variable {base proposed : String} {command : Command}

/-! ## Commands -/

@[simp] theorem Effect.directory_failure (directory : Directory) (failure : Failure)
    (events : List Event) : (Effect.failure directory failure events).directory = directory := rfl

@[simp] theorem Effect.directory_print (room : Option Nat) (directory : Directory) (text : String)
    (events : List Event) : (Effect.print room directory text events).directory = directory := rfl

@[simp] theorem Effect.directory_printJson (room : Option Nat) (directory : Directory)
    (value : String) (success : Bool) (events : List Event) :
    (Effect.printJson room directory value success events).directory = directory := rfl

@[simp] theorem Effect.directory_stopped (directory : Directory) (events : List Event) :
    (Effect.stopped directory events).directory = directory := rfl

theorem directory_diff (json : Bool) :
    (diff parser invocation config directory base proposed json).directory = directory := by
  unfold diff
  dsimp only
  split
  · simp
  split
  · simp
  split
  · simp
  split
  · simp
  · split <;> simp

theorem directory_anchors (file : String) :
    (anchors parser invocation directory file).directory = directory := by
  unfold anchors
  split
  · simp
  · split <;> simp

section Patched

variable {path baseText proposedText : String} {outcome : Outcome} {events : List Event}

theorem applyTexts_print (invocation : Invocation) (directory : Directory)
    (h : (config.options path).patch? parser baseText proposedText = some ⟨.ok outcome, events⟩) :
    applyTexts parser invocation config directory path baseText proposedText .print =
      .print invocation.room directory outcome.content (events ++ unmatched outcome) := by
  unfold applyTexts
  simp only [h]

theorem applyTexts_inPlace (invocation : Invocation) (directory : Directory)
    (h : (config.options path).patch? parser baseText proposedText = some ⟨.ok outcome, events⟩) :
    applyTexts parser invocation config directory path baseText proposedText .inPlace =
      storeOutcome invocation.disk directory path outcome (events ++ unmatched outcome) := by
  unfold applyTexts
  simp only [h]

theorem applyTexts_json (invocation : Invocation) (directory : Directory)
    {patched : Logged (Except Refusal Outcome)}
    (h : (config.options path).patch? parser baseText proposedText = some patched) :
    applyTexts parser invocation config directory path baseText proposedText .json =
      .printJson invocation.room directory (replyJson (Reply.ofPatch patched).value).compact
        (Reply.ofPatch patched).value.isSuccess (Reply.ofPatch patched).events := by
  unfold applyTexts
  simp only [Options.answer?_of_patch? h, Option.map_some]

end Patched

theorem apply_cases (parser : Parser) (config : Config) (directory : Directory)
    (base proposed : String) :
    (∃ path e, ∀ invocation mode, apply parser invocation config directory base proposed mode =
      .failure directory (.read path e) []) ∨
    ∃ baseText proposedText,
      directory.readText base = .ok baseText ∧ directory.readText proposed = .ok proposedText ∧
      ∀ invocation mode, apply parser invocation config directory base proposed mode =
        applyTexts parser invocation config directory base baseText proposedText mode := by
  cases hbase : directory.readText base with
  | error e => exact Or.inl ⟨base, e, fun _ _ => by simp only [apply, hbase]⟩
  | ok baseText =>
    cases hproposed : directory.readText proposed with
    | error e => exact Or.inl ⟨proposed, e, fun _ _ => by simp only [apply, hbase, hproposed]⟩
    | ok proposedText =>
      exact Or.inr ⟨baseText, proposedText, rfl, rfl,
        fun invocation mode => apply_of_readable parser invocation config mode hbase hproposed⟩

theorem directory_apply {mode : ApplyMode} (h : mode ≠ .inPlace) :
    (apply parser invocation config directory base proposed mode).directory = directory := by
  obtain ⟨path, e, hfailure⟩ | ⟨baseText, proposedText, -, -, happly⟩ :=
    apply_cases parser config directory base proposed
  · rw [hfailure, Effect.directory_failure]
  rw [happly]
  cases hpatch : (config.options base).patch? parser baseText proposedText with
  | none => rw [applyTexts_of_stop _ _ _ hpatch, Effect.directory_stopped]
  | some patched =>
    cases mode with
    | print =>
      unfold applyTexts
      simp only [hpatch]
      split <;> simp_all
    | inPlace => exact absurd rfl h
    | json => rw [applyTexts_json _ _ hpatch, Effect.directory_printJson]

theorem directory_execute
    (h : ∀ base proposed, command ≠ .apply base proposed .inPlace) :
    (execute parser invocation config directory command).directory = directory := by
  cases command with
  | apply base proposed mode =>
    refine directory_apply ?_
    rintro rfl
    exact h base proposed rfl
  | diff base proposed json => exact directory_diff json
  | anchors file => exact directory_anchors file

/-! ## The command that writes -/

/-- The second directory is the first one with the patched text of one file in its place. -/
def PatchesFile (parser : Parser) (config : Config) (base proposed : String)
    (before after : Directory) : Prop :=
  ∃ baseText proposedText outcome events place,
    before.readText base = .ok baseText ∧ before.readText proposed = .ok proposedText ∧
    (config.options base).patch? parser baseText proposedText = some ⟨.ok outcome, events⟩ ∧
    before.locate base = .ok place ∧ after.readText base = .ok outcome.content ∧
    (∀ file, after.locate file = before.locate file) ∧
    ∀ other, Directory.pathOf other ≠ Directory.pathOf place →
      after.entryAt? other = before.entryAt? other

/-- A patched text is stored as a whole, or the disk does not take it. Only a full disk then leaves
another directory. -/
theorem storeOutcome_cases (disk : Disk) (directory : Directory) (path : String)
    (outcome : Outcome) (events : List Event) :
    (∃ after e, storeOutcome disk directory path outcome events =
      .failure after (.write path e) events ∧ (disk ≠ .full → after = directory)) ∨
    ∃ more, storeOutcome disk directory path outcome events =
      ⟨.done true, ByteArray.empty, directory.store path outcome.content.toUTF8, more⟩ := by
  unfold storeOutcome
  split
  · exact Or.inl ⟨_, _, rfl, fun h => absurd rfl h⟩
  · exact Or.inl ⟨_, _, rfl, fun _ => rfl⟩
  · exact Or.inr ⟨_, rfl⟩

theorem patchesFile_store {baseText proposedText : String} {outcome : Outcome}
    {events : List Event} (hbase : directory.readText base = .ok baseText)
    (hproposed : directory.readText proposed = .ok proposedText)
    (hpatch : (config.options base).patch? parser baseText proposedText =
      some ⟨.ok outcome, events⟩) :
    PatchesFile parser config base proposed directory
      (directory.store base outcome.content.toUTF8) := by
  have hvalue := congrArg Logged.value (Options.patch_of_patch? hpatch)
  obtain ⟨language, hlanguage, -⟩ := Options.exists_language_of_patch hvalue
  obtain ⟨place, hplace, howns⟩ := Directory.exists_owns_of_readText hbase hlanguage
  rw [Directory.store_eq _ hplace]
  exact ⟨baseText, proposedText, outcome, events, place, hbase, hproposed, hpatch, hplace,
    Directory.readText_storeAt _ howns hplace, Directory.locate_storeAt _ howns,
    fun _ => Directory.entryAt?_storeAt_of_ne _⟩

/-- Writing is the last thing that is done, or nothing is written. -/
theorem apply_inPlace_cases (parser : Parser) (config : Config) (directory : Directory)
    (base proposed : String) (hdisk : invocation.disk ≠ .full) :
    let effect := apply parser invocation config directory base proposed .inPlace
    (effect.directory = directory ∧ effect.status ≠ .done true) ∨
      (effect.status = .done true ∧
        PatchesFile parser config base proposed directory effect.directory) := by
  intro effect
  obtain ⟨path, e, hfailure⟩ | ⟨baseText, proposedText, hbase, hproposed, happly⟩ :=
    apply_cases parser config directory base proposed
  · refine Or.inl ?_
    rw [show effect = _ from hfailure invocation .inPlace]
    exact ⟨rfl, by simp [Effect.failure]⟩
  rw [show effect = _ from happly invocation .inPlace]
  obtain hpatch | ⟨refusal, hboth⟩ | ⟨outcome, events, hpatch⟩ :=
    (config.options base).patch?_cases parser baseText proposedText
  · rw [applyTexts_of_stop _ _ _ hpatch]
    exact Or.inl ⟨rfl, by simp [Effect.stopped]⟩
  · rw [applyTexts_of_error _ _ (by decide) hboth]
    exact Or.inl ⟨rfl, by simp [Effect.failure]⟩
  · rw [applyTexts_inPlace _ _ hpatch]
    obtain ⟨after, e, hstored, hafter⟩ | ⟨more, hstored⟩ := storeOutcome_cases invocation.disk
      directory base outcome (events ++ unmatched outcome)
    · rw [hstored, hafter hdisk]
      exact Or.inl ⟨rfl, by simp [Effect.failure]⟩
    · rw [hstored]
      exact Or.inr ⟨rfl, patchesFile_store hbase hproposed hpatch⟩

/-! ## Runs -/

@[simp] theorem Result.directory_broken (room : Option Nat) (directory : Directory)
    (failure : Failure) : (Result.broken room directory failure).directory = directory := by
  unfold Result.broken
  split <;> rfl

@[simp] theorem Result.directory_ofEffect (log : String) (events : List Event) (effect : Effect) :
    (Result.ofEffect log events effect).directory = effect.directory := rfl

@[simp] theorem Result.status_ofEffect (log : String) (events : List Event) (effect : Effect) :
    (Result.ofEffect log events effect).status = effect.status.exitStatus := rfl

theorem Result.success_eq_true_iff {result : Result} :
    result.success = true ↔ result.status = .success := by
  simp [success]

@[simp] theorem Ending.exitStatus_eq_success_iff {ending : Ending} :
    ending.exitStatus = .success ↔ ending = .done true := by
  unfold exitStatus
  split <;> simp_all

theorem Result.status_broken {room : Option Nat} {failure : Failure}
    (h : ∀ usage, failure ≠ .usage usage) :
    (Result.broken room directory failure).status = .failure := by
  unfold Result.broken
  split
  · exact absurd rfl (h .help)
  · rfl

section Readers

variable {readers : Readers}

/-- Why logging cannot be set up, if it cannot. -/
def logError? (readers : Readers) (listener : Listener) (config : Config) : Option FilterError :=
  match listener with
  | .host => none
  | .program =>
    match readers.filter config.logFilter with
    | .error e => some e
    | .ok _ => none

theorem run_of_loadError {e : LoadError}
    (hread : readers.command (commandArguments invocation.arguments).tail = .ok command)
    (hload : readers.config directory invocation.environment
      (split invocation.arguments).config.tail = .error e) :
    runWith readers parser invocation directory =
      .broken invocation.room directory (.config e) := by
  simp only [runWith, hread, hload]

section Loaded

variable (hread : readers.command (commandArguments invocation.arguments).tail = .ok command)
variable (hload : readers.config directory invocation.environment
  (split invocation.arguments).config.tail = .ok config)

include hread hload

theorem run_of_logError {e : FilterError}
    (hlog : logError? readers invocation.listener config = some e) :
    runWith readers parser invocation directory =
      .broken invocation.room directory (.logFilter e) := by
  cases hlistener : invocation.listener with
  | host => simp [logError?, hlistener] at hlog
  | program =>
    cases hfilter : readers.filter config.logFilter with
    | error other =>
      obtain rfl : other = e := by simpa [logError?, hlistener, hfilter] using hlog
      simp only [runWith, hread, hload, hlistener, hfilter]
    | ok filter => simp [logError?, hlistener, hfilter] at hlog

theorem run_of_logged (parser : Parser)
    (hlog : logError? readers invocation.listener config = none) :
    let effect := execute parser invocation config directory command
    ∃ log events, (effect.events = [] → log = "") ∧
      runWith readers parser invocation directory = .ofEffect log events effect := by
  intro effect
  cases hlistener : invocation.listener with
  | host =>
    refine ⟨"", effect.events, fun _ => rfl, ?_⟩
    simp only [runWith, hread, hload, hlistener, effect]
  | program =>
    cases hfilter : readers.filter config.logFilter with
    | error e => simp [logError?, hlistener, hfilter] at hlog
    | ok filter =>
      refine ⟨logText config filter effect.events, [], fun hevents => ?_, ?_⟩
      · rw [hevents]
        rfl
      · simp only [runWith, hread, hload, hlistener, hfilter, effect]

end Loaded

theorem run_cases (readers : Readers) (parser : Parser) (invocation : Invocation)
    (directory : Directory) :
    let result := runWith readers parser invocation directory
    let read := readers.command (commandArguments invocation.arguments).tail
    (∃ usage, read = .error usage ∧
      result = .broken invocation.room directory (.usage usage)) ∨
    (∃ failure, (∀ usage, failure ≠ .usage usage) ∧
      result = .broken invocation.room directory failure) ∨
    ∃ command config log events, read = .ok command ∧
      readers.config directory invocation.environment (split invocation.arguments).config.tail =
        .ok config ∧
      result = .ofEffect log events (execute parser invocation config directory command) := by
  intro result read
  cases hread : readers.command (commandArguments invocation.arguments).tail with
  | error usage =>
    refine Or.inl ⟨usage, hread, ?_⟩
    simp only [result, runWith, hread]
  | ok command =>
    refine Or.inr ?_
    cases hload : readers.config directory invocation.environment
        (split invocation.arguments).config.tail with
    | error e => exact Or.inl ⟨.config e, by simp, run_of_loadError hread hload⟩
    | ok config =>
      cases hlog : logError? readers invocation.listener config with
      | some e => exact Or.inl ⟨.logFilter e, by simp, run_of_logError hread hload hlog⟩
      | none =>
        obtain ⟨log, events, -, hrun⟩ := run_of_logged hread hload parser hlog
        exact Or.inr ⟨command, config, log, events, hread, rfl, hrun⟩

end Readers

/-- Only patched texts are written, however commands, configurations and log filters are read. A run
that fails or stops leaves the directory as it was, and so does one of another command than that
which patches a file in place. That one, when it succeeds, leaves the patched text in the file, and
all other files as they were. Writing may fail, as long as it then leaves the file alone. -/
theorem run_patches_file (readers : Readers) (parser : Parser) (invocation : Invocation)
    (directory : Directory) (hdisk : invocation.disk ≠ .full) :
    let result := runWith readers parser invocation directory
    let command := readers.command (commandArguments invocation.arguments).tail
    (result.success = false → result.directory = directory) ∧
    ((∀ base proposed, command ≠ .ok (.apply base proposed .inPlace)) →
      result.directory = directory) ∧
    ∀ base proposed, command = .ok (.apply base proposed .inPlace) → result.success = true →
      ∃ config,
        readers.config directory invocation.environment (split invocation.arguments).config.tail =
          .ok config ∧
        PatchesFile parser config base proposed directory result.directory := by
  intro result read
  obtain ⟨usage, hread, hrun⟩ | ⟨failure, hfailure, hrun⟩ |
    ⟨command, config, log, events, hread, hload, hrun⟩ :=
    run_cases readers parser invocation directory
  · have hsame : result.directory = directory := by simp [result, hrun]
    refine ⟨fun _ => hsame, fun _ => hsame, fun base proposed hcommand => ?_⟩
    cases hread.symm.trans hcommand
  · have hsame : result.directory = directory := by simp [result, hrun]
    refine ⟨fun _ => hsame, fun _ => hsame, fun base proposed hcommand hsuccess => ?_⟩
    simp [result, hrun, Result.success_eq_true_iff, Result.status_broken hfailure] at hsuccess
  · have hdirectory : result.directory =
        (execute parser invocation config directory command).directory := by
      simp [result, hrun]
    have hsuccess : result.success = true ↔
        (execute parser invocation config directory command).status = .done true := by
      simp [result, hrun, Result.success_eq_true_iff]
    by_cases hwrites : ∃ base proposed, command = .apply base proposed .inPlace
    · obtain ⟨base, proposed, rfl⟩ := hwrites
      rw [hdirectory, ← Bool.not_eq_true, hsuccess]
      obtain ⟨hsame, hstatus⟩ | ⟨hstatus, hpatches⟩ :=
        apply_inPlace_cases parser config directory base proposed hdisk
      · exact ⟨fun _ => hsame, fun _ => hsame, fun _ _ _ hdone => absurd hdone hstatus⟩
      · refine ⟨fun hfailed => absurd hstatus hfailed,
          fun hother => absurd hread (hother base proposed), fun _ _ hcommand _ => ?_⟩
        cases hread.symm.trans hcommand
        exact ⟨config, hload, hpatches⟩
    · have hsame : result.directory = directory := by
        rw [hdirectory]
        exact directory_execute fun base proposed h => hwrites ⟨base, proposed, h⟩
      refine ⟨fun _ => hsame, fun _ => hsame, fun base proposed hcommand => ?_⟩
      exact absurd ⟨base, proposed, Except.ok.inj (hread.symm.trans hcommand)⟩ hwrites

/-- The two texts of the sample are parsed, and spaces of the usual width can be written, so one is
patched by the other. -/
theorem exists_patch_sample :
    ∃ outcome events, (Config.options {} "a.ts").patch? sampleParser sampleBase sampleProposed =
      some ⟨.ok outcome, events⟩ := by
  have hparsed : ((Config.options {} "a.ts").parseBoth sampleParser sampleBase
      sampleProposed).isOk = true := by decide +kernel
  have hspaces : ((Config.options {} "a.ts").indentationFor sampleBase).useTabs = false ∧
      (((Config.options {} "a.ts").indentationFor sampleBase).tabWidth.toNat + 1) *
        max sampleBase.utf8ByteSize sampleProposed.utf8ByteSize ≤ Text.sizeMax := by
    decide +kernel
  cases hboth : (Config.options {} "a.ts").parseBoth sampleParser sampleBase sampleProposed with
  | error refusal =>
    rw [hboth] at hparsed
    cases hparsed
  | ok both =>
    exact ⟨_, Options.patch?_of_documents (Options.documents_of_parseBoth hboth)
      (Options.all_layouts_of_small hspaces.1 (by decide) hspaces.2)⟩

set_option maxRecDepth 100000 in
theorem run_patches_file_sampleDirectory :
    let invocation : Invocation :=
      { arguments := ["sempatch", "apply", "--write", "a.ts", "b.ts"] }
    let result := run sampleParser invocation sampleDirectory
    result.success = true ∧
      PatchesFile sampleParser {} "a.ts" "b.ts" sampleDirectory result.directory := by
  intro invocation result
  have hread : Readers.program.command (commandArguments invocation.arguments).tail =
      .ok (.apply "a.ts" "b.ts" .inPlace) := by decide +kernel
  have hload : Readers.program.config sampleDirectory invocation.environment
      (split invocation.arguments).config.tail = .ok {} := by decide +kernel
  obtain ⟨hbase, hproposed⟩ := readText_sampleDirectory
  obtain ⟨outcome, events, hpatch⟩ := exists_patch_sample
  have hstatus : (execute sampleParser invocation {} sampleDirectory
      (.apply "a.ts" "b.ts" .inPlace)).status = .done true := by
    rw [execute, apply_of_readable _ _ _ _ hbase hproposed, applyTexts_inPlace _ _ hpatch]
    rfl
  have hsuccess : result.success = true := by
    obtain ⟨log, events, -, hrun⟩ := run_of_logged hread hload sampleParser rfl
    simp [result, run, hrun, Result.success_eq_true_iff, hstatus]
  obtain ⟨-, -, hwritten⟩ :=
    run_patches_file .program sampleParser invocation sampleDirectory (by decide)
  obtain ⟨config, hconfig, hpatches⟩ := hwritten "a.ts" "b.ts" hread hsuccess
  cases hload.symm.trans hconfig
  exact ⟨hsuccess, hpatches⟩

end Cli

end Graft
