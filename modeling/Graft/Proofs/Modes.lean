import Graft.Proofs.Quoting
import Graft.Proofs.Writing

/-! # The modes of patching agree

A patched text is printed, put in its file, or wrapped for programs. The first two take the outcome
of the patch as it is, the third takes the reply that is made of it. As long as everything can be
written, all three succeed together, give one text, and give one reason when they are refused.
-/

namespace Graft

namespace Cli

variable {parser : Parser} {config : Config} {directory : Directory}
variable {base proposed baseText proposedText : String} {outcome : Outcome}

/-! ## What is written -/

def Failure.isOutput : Failure → Bool
  | .write _ _ | .serialise _ | .output _ => true
  | _ => false

/-- The effect did not fail for want of a place to write to. -/
def Effect.Written (effect : Effect) : Prop :=
  ∀ failure, effect.status = .failed failure → failure.isOutput = false

theorem accepted_of_fits {room : Option Nat} {text : String} (h : fits room text = true) :
    accepted room text = text.toUTF8 := by
  cases room with
  | none => rfl
  | some n =>
    have hsize : text.toUTF8.data.size ≤ n := of_decide_eq_true h
    rw [accepted, ByteArray.ext_iff, ByteArray.data_extract, Array.extract_eq_self_of_le hsize]

theorem Effect.Written.print {room : Option Nat} {text : String} {events : List Event}
    (h : (Effect.print room directory text events).Written) :
    Effect.print room directory text events = ⟨.done true, text.toUTF8, directory, events⟩ := by
  unfold Effect.print at h ⊢
  cases hfits : fits room text with
  | true => rw [accepted_of_fits hfits, if_pos rfl]
  | false => cases h (.output .sinkFull) (by simp [hfits])

theorem Effect.Written.printJson {room : Option Nat} {value : String} {success : Bool}
    {events : List Event} (h : (Effect.printJson room directory value success events).Written) :
    Effect.printJson room directory value success events =
      ⟨.done success, (value ++ "\n").toUTF8, directory, events⟩ := by
  unfold Effect.printJson at h ⊢
  cases hvalue : fits room value with
  | false => cases h (.serialise .sinkFull) (by simp [hvalue])
  | true =>
    cases hline : fits room (value ++ "\n") with
    | false => cases h (.output .sinkFull) (by simp [hvalue, hline])
    | true =>
      rw [accepted_of_fits hline]
      rfl

theorem Effect.Written.storeOutcome {disk : Disk} {path : String} {events : List Event}
    (h : (storeOutcome disk directory path outcome events).Written) :
    ∃ more, storeOutcome disk directory path outcome events =
      ⟨.done true, ByteArray.empty, directory.store path outcome.content.toUTF8, more⟩ := by
  obtain ⟨after, e, hstored, -⟩ | hstored :=
    storeOutcome_cases disk directory path outcome events
  · cases h (.write path e) (by rw [hstored]; rfl)
  · exact hstored

/-! ## What programs read -/

theorem compact_success (content : String) :
    (replyJson (.success content)).compact ++ "\n" =
      "\x7b\"success\":true,\"content\":" ++ Text.dataQuoted content ++ "\x7d\n" := by
  have hsuccess : Text.dataQuoted "success" = "\"success\"" := by decide
  have hkey : Text.dataQuoted "content" = "\"content\"" := by decide
  simp only [replyJson, Json.compact, Json.compactFields, hsuccess, hkey]
  rw [← String.toList_inj]
  simp

theorem compact_failure (message : String) :
    (replyJson (.failure message)).compact ++ "\n" =
      "\x7b\"success\":false,\"error\":" ++ Text.dataQuoted message ++ "\x7d\n" := by
  have hsuccess : Text.dataQuoted "success" = "\"success\"" := by decide
  have hkey : Text.dataQuoted "error" = "\"error\"" := by decide
  simp only [replyJson, Json.compact, Json.compactFields, hsuccess, hkey]
  rw [← String.toList_inj]
  simp

theorem Effect.Written.json {invocation : Invocation} {path : String}
    {patched : Logged (Except Refusal Outcome)} {reply : Reply}
    (h : (applyTexts parser invocation config directory path baseText proposedText .json).Written)
    (hpatch : (config.options path).patch? parser baseText proposedText = some patched)
    (hreply : (Reply.ofPatch patched).value = reply) :
    ∃ events, applyTexts parser invocation config directory path baseText proposedText .json =
      ⟨.done reply.isSuccess, ((replyJson reply).compact ++ "\n").toUTF8, directory, events⟩ := by
  rw [applyTexts_json _ _ hpatch, hreply] at h ⊢
  exact ⟨_, h.printJson⟩

/-! ## One command in three modes

Each mode is given an invocation of its own. What they have in common is the configuration.
-/

section Effects

variable {invocation : ApplyMode → Invocation}
variable (hbase : directory.readText base = .ok baseText)
variable (hproposed : directory.readText proposed = .ok proposedText)
variable (hwritten : ∀ mode,
  (apply parser (invocation mode) config directory base proposed mode).Written)

include hbase hproposed hwritten

theorem apply_of_ok {events : List Event}
    (hpatch : (config.options base).patch? parser baseText proposedText =
      some ⟨.ok outcome, events⟩) :
    let effect mode := apply parser (invocation mode) config directory base proposed mode
    (∀ mode, (effect mode).status = .done true) ∧
      (effect .print).stdout = outcome.content.toUTF8 ∧
      (effect .inPlace).directory.readBytes base = .ok outcome.content.toUTF8 ∧
      (effect .json).stdout = ("\x7b\"success\":true,\"content\":" ++
        Text.dataQuoted outcome.content ++ "\x7d\n").toUTF8 := by
  simp only [apply_of_readable _ _ _ _ hbase hproposed] at hwritten ⊢
  have hvalue := congrArg Logged.value (Options.patch_of_patch? hpatch)
  obtain ⟨language, hlanguage, -⟩ := Options.exists_language_of_patch hvalue
  have hprint := hwritten .print
  have hstore := hwritten .inPlace
  rw [applyTexts_print _ _ hpatch] at hprint
  rw [applyTexts_inPlace _ _ hpatch] at hstore
  have hprinted := (applyTexts_print (invocation .print) directory hpatch).trans hprint.print
  obtain ⟨more, hstored⟩ := hstore.storeOutcome
  replace hstored := (applyTexts_inPlace (invocation .inPlace) directory hpatch).trans hstored
  obtain ⟨_, hjson⟩ := (hwritten .json).json hpatch (Reply.value_ofPatch_of_ok rfl)
  refine ⟨?_, by rw [hprinted], ?_, by rw [hjson, compact_success]⟩
  · rintro (_ | _ | _)
    · rw [hprinted]
    · rw [hstored]
    · rw [hjson]
      rfl
  · rw [hstored]
    exact Directory.readBytes_store _ hbase hlanguage

theorem apply_of_refused {refusal : Refusal}
    (hboth : (config.options base).parseBoth parser baseText proposedText = .error refusal) :
    let effect mode := apply parser (invocation mode) config directory base proposed mode
    (∀ mode, mode ≠ .json → effect mode = .failure directory (.refused refusal) []) ∧
      ∃ events, effect .json = ⟨.done false, ("\x7b\"success\":false,\"error\":" ++
        Text.dataQuoted refusal.message ++ "\x7d\n").toUTF8, directory, events⟩ := by
  simp only [apply_of_readable _ _ _ _ hbase hproposed] at hwritten ⊢
  refine ⟨fun mode hmode => applyTexts_of_error _ directory hmode hboth, ?_⟩
  rw [← compact_failure]
  exact (hwritten .json).json (Options.patch?_of_error hboth) (Reply.value_ofPatch_of_error rfl)

end Effects

/-- Whatever the mode, a command ends in the same way. It succeeds only if both files were read and
one was patched by the other. -/
theorem exitStatus_apply {invocation : ApplyMode → Invocation}
    (hwritten : ∀ mode,
      (apply parser (invocation mode) config directory base proposed mode).Written) :
    let effect mode := apply parser (invocation mode) config directory base proposed mode
    (∃ baseText proposedText outcome events,
      directory.readText base = .ok baseText ∧ directory.readText proposed = .ok proposedText ∧
      (config.options base).patch? parser baseText proposedText = some ⟨.ok outcome, events⟩ ∧
      ∀ mode, (effect mode).status.exitStatus = .success) ∨
    ∃ exit, exit ≠ .success ∧ ∀ mode, (effect mode).status.exitStatus = exit := by
  intro effect
  obtain ⟨path, e, hunread⟩ | ⟨baseText, proposedText, hbase, hproposed, -⟩ :=
    apply_cases parser config directory base proposed
  · refine Or.inr ⟨.failure, by decide, fun mode => ?_⟩
    simp only [effect, hunread]
    rfl
  obtain hpatch | ⟨refusal, hboth⟩ | ⟨outcome, events, hpatch⟩ :=
    (config.options base).patch?_cases parser baseText proposedText
  · refine Or.inr ⟨.stopped, by decide, fun mode => ?_⟩
    simp only [effect, apply_of_readable _ _ _ mode hbase hproposed,
      applyTexts_of_stop _ _ mode hpatch]
    rfl
  · obtain ⟨hrefused, events, hjson⟩ := apply_of_refused hbase hproposed hwritten hboth
    refine Or.inr ⟨.failure, by decide, fun mode => ?_⟩
    by_cases hmode : mode = .json
    · rw [hmode, show effect .json = _ from hjson]
      rfl
    · rw [show effect mode = _ from hrefused mode hmode]
      rfl
  · have hdone := (apply_of_ok hbase hproposed hwritten hpatch).1
    exact Or.inl ⟨baseText, proposedText, outcome, events, hbase, hproposed, hpatch,
      fun mode => Ending.exitStatus_eq_success_iff.mpr (hdone mode)⟩

theorem written_apply {invocation : Invocation} (hroom : invocation.room = none)
    (hdisk : invocation.disk = .sound) (mode : ApplyMode) :
    (apply parser invocation config directory base proposed mode).Written := by
  intro failure hstatus
  obtain ⟨path, e, hfailure⟩ | ⟨baseText, proposedText, -, -, happly⟩ :=
    apply_cases parser config directory base proposed
  · rw [hfailure] at hstatus
    cases hstatus
    rfl
  rw [happly] at hstatus
  obtain hpatch | ⟨refusal, hboth⟩ | ⟨outcome, events, hpatch⟩ :=
    (config.options base).patch?_cases parser baseText proposedText
  · rw [applyTexts_of_stop _ _ _ hpatch] at hstatus
    cases hstatus
  · by_cases hmode : mode = .json
    · subst hmode
      rw [applyTexts_json _ _ (Options.patch?_of_error hboth), hroom] at hstatus
      cases hstatus
    · rw [applyTexts_of_error _ _ hmode hboth] at hstatus
      cases hstatus
      rfl
  · cases mode with
    | print =>
      rw [applyTexts_print _ _ hpatch, hroom] at hstatus
      cases hstatus
    | inPlace =>
      rw [applyTexts_inPlace _ _ hpatch, hdisk] at hstatus
      cases hstatus
    | json =>
      rw [applyTexts_json _ _ hpatch, hroom] at hstatus
      cases hstatus

/-! ## Runs -/

@[simp] theorem Result.stdout_ofEffect (log : String) (events : List Event) (effect : Effect) :
    (Result.ofEffect log events effect).stdout = effect.stdout := rfl

section Readers

variable {readers : Readers}

theorem run_shows (parser : Parser) {invocation : Invocation} {command : Command}
    (hread : readers.command (commandArguments invocation.arguments).tail = .ok command)
    (hload : readers.config directory invocation.environment
      (split invocation.arguments).config.tail = .ok config)
    (hlog : logError? readers invocation.listener config = none) :
    let effect := execute parser invocation config directory command
    let result := runWith readers parser invocation directory
    result.status = effect.status.exitStatus ∧ result.stdout = effect.stdout ∧
      result.directory = effect.directory ∧
      ∀ failure, effect = .failure directory failure [] →
        result.stderr = failure.message ++ "\n" := by
  intro effect result
  obtain ⟨log, events, hempty, hrun⟩ := run_of_logged hread hload parser hlog
  have hresult : result = .ofEffect log events effect := hrun
  refine ⟨by simp [hresult], by simp [hresult], by simp [hresult], fun failure hfailure => ?_⟩
  have hlog : log = "" := hempty (congrArg Effect.events hfailure)
  rw [hresult, hfailure, hlog]
  simp [Result.ofEffect, Effect.failure]

theorem status_eq_failure {invocation : Invocation} {command : Command}
    (hread : readers.command (commandArguments invocation.arguments).tail = .ok command)
    (h : ¬ ∃ config, readers.config directory invocation.environment
      (split invocation.arguments).config.tail = .ok config ∧
      logError? readers invocation.listener config = none) :
    (runWith readers parser invocation directory).status = .failure := by
  cases hload : readers.config directory invocation.environment
      (split invocation.arguments).config.tail with
  | error e =>
    rw [run_of_loadError hread hload]
    exact Result.status_broken (by simp)
  | ok config =>
    cases hlog : logError? readers invocation.listener config with
    | some e =>
      rw [run_of_logError hread hload hlog]
      exact Result.status_broken (by simp)
    | none => exact absurd ⟨config, hload, hlog⟩ h

end Readers

/-- The modes agree, however commands, configurations and log filters are read. Let one pair of
files be patched in all three, under one configuration, and let nothing fail to be written. Then all
modes end in the same way. If they succeed, what is printed, what is stored and what a program reads from
the reply is one text. If the patch is refused, what is said about it and what a program reads from
the reply is one message. -/
theorem modes_agree (readers : Readers) (parser : Parser) (directory : Directory)
    (base proposed : String) (invocation : ApplyMode → Invocation)
    (loaded : Except LoadError Config) (listener : Listener)
    (hread : ∀ mode, readers.command (commandArguments (invocation mode).arguments).tail =
      .ok (.apply base proposed mode))
    (hload : ∀ mode, readers.config directory (invocation mode).environment
      (split (invocation mode).arguments).config.tail = loaded)
    (hlistener : ∀ mode, (invocation mode).listener = listener)
    (hwritten : ∀ config, loaded = .ok config → ∀ mode,
      (apply parser (invocation mode) config directory base proposed mode).Written) :
    let result mode := runWith readers parser (invocation mode) directory
    (∀ mode, (result mode).status = (result .print).status) ∧
    ((result .print).success = true → ∃ content quoted,
      (result .print).stdout = content.toUTF8 ∧
      (result .inPlace).directory.readBytes base = .ok content.toUTF8 ∧
      (result .json).stdout =
        ("\x7b\"success\":true,\"content\":" ++ quoted ++ "\x7d\n").toUTF8 ∧
      Text.dataText? quoted = some content) ∧
    ∀ config baseText proposedText refusal, loaded = .ok config →
      logError? readers listener config = none → directory.readText base = .ok baseText →
      directory.readText proposed = .ok proposedText →
      ((config.options base).patch parser baseText proposedText).value = .error refusal →
      ∃ quoted, (result .print).stderr = refusal.message ++ "\n" ∧
        (result .inPlace).stderr = refusal.message ++ "\n" ∧
        (result .json).stdout =
          ("\x7b\"success\":false,\"error\":" ++ quoted ++ "\x7d\n").toUTF8 ∧
        Text.dataText? quoted = some refusal.message := by
  intro result
  by_cases hready : ∃ config, loaded = .ok config ∧ logError? readers listener config = none
  · obtain ⟨config, hloaded, hlog⟩ := hready
    specialize hwritten config hloaded
    have hshows mode := run_shows parser (hread mode) ((hload mode).trans hloaded)
      (by rw [hlistener, hlog])
    have hstatus mode : (result mode).status =
        (apply parser (invocation mode) config directory base proposed mode).status.exitStatus :=
      (hshows mode).1
    refine ⟨fun mode => ?_, fun hsuccess => ?_, ?_⟩
    · rw [hstatus, hstatus]
      obtain ⟨_, _, _, _, -, -, -, hexit⟩ | ⟨exit, -, hexit⟩ := exitStatus_apply hwritten
      · exact (hexit mode).trans (hexit .print).symm
      · exact (hexit mode).trans (hexit .print).symm
    · rw [Result.success_eq_true_iff, hstatus] at hsuccess
      obtain ⟨_, _, outcome, _, hbase, hproposed, hpatch, -⟩ | ⟨exit, hexit, hsame⟩ :=
        exitStatus_apply hwritten
      · obtain ⟨-, hprint, hstore, hjson⟩ := apply_of_ok hbase hproposed hwritten hpatch
        exact ⟨outcome.content, Text.dataQuoted outcome.content, (hshows .print).2.1.trans hprint,
          (congrArg (Directory.readBytes · base) (hshows .inPlace).2.2.1).trans hstore,
          (hshows .json).2.1.trans hjson, Text.dataText?_dataQuoted _⟩
      · exact absurd ((hsame .print).symm.trans hsuccess) hexit
    · intro other baseText proposedText refusal hother _ hbase hproposed hpatch
      cases hloaded.symm.trans hother
      obtain ⟨hrefused, events, hjson⟩ :=
        apply_of_refused hbase hproposed hwritten (Options.parseBoth_of_refused hpatch)
      exact ⟨Text.dataQuoted refusal.message,
        (hshows .print).2.2.2 (.refused refusal) (hrefused .print (by decide)),
        (hshows .inPlace).2.2.2 (.refused refusal) (hrefused .inPlace (by decide)),
        (hshows .json).2.1.trans (congrArg Effect.stdout hjson), Text.dataText?_dataQuoted _⟩
  · -- The configuration and the log filter are read before anyone looks at the mode.
    have hfailed mode : (result mode).status = .failure :=
      status_eq_failure (hread mode) (by rwa [hload, hlistener])
    refine ⟨fun mode => by rw [hfailed, hfailed], fun hsuccess => ?_,
      fun config _ _ _ hloaded hlog => absurd ⟨config, hloaded, hlog⟩ hready⟩
    rw [Result.success_eq_true_iff, hfailed] at hsuccess
    cases hsuccess

/-- Patches a file by the second text of the sample. -/
def sampleInvocation (base : String) (mode : ApplyMode) : Invocation where
  arguments := ["sempatch", "apply", base, "b.ts"] ++ match mode with
    | .print => []
    | .inPlace => ["--write"]
    | .json => ["--json"]

/-- The sample with a text beside it that has no language. -/
def sampleNotes : Directory :=
  ⟨("notes.txt", .file "x".toUTF8) :: sampleDirectory.entries⟩

set_option maxRecDepth 100000 in
-- One file is patched in all three modes, and the other one is refused in all three.
theorem modes_agree_sampleNotes :
    let result base mode := run sampleParser (sampleInvocation base mode) sampleNotes
    (∃ content : String, (result "a.ts" .print).stdout = content.toUTF8 ∧
      (result "a.ts" .inPlace).directory.readBytes "a.ts" = .ok content.toUTF8) ∧
    ∃ quoted, (result "notes.txt" .inPlace).stderr =
        "failed to parse original source: unsupported file extension: txt\n" ∧
      (result "notes.txt" .json).stdout =
        ("\x7b\"success\":false,\"error\":" ++ quoted ++ "\x7d\n").toUTF8 ∧
      Text.dataText? quoted =
        some "failed to parse original source: unsupported file extension: txt" := by
  intro result
  have hread : ∀ base ∈ ["a.ts", "notes.txt"], ∀ mode ∈ [.print, .inPlace, .json],
      Readers.program.command (commandArguments (sampleInvocation base mode).arguments).tail =
        .ok (.apply base "b.ts" mode) := by decide +kernel
  have hload : ∀ base ∈ ["a.ts", "notes.txt"], ∀ mode ∈ [.print, .inPlace, .json],
      Readers.program.config sampleNotes (sampleInvocation base mode).environment
        (split (sampleInvocation base mode).arguments).config.tail = .ok {} := by decide +kernel
  have hmode (mode : ApplyMode) : mode ∈ [ApplyMode.print, .inPlace, .json] := by
    cases mode <;> decide
  have hagree base (hbase : base ∈ ["a.ts", "notes.txt"]) :=
    modes_agree .program sampleParser sampleNotes base "b.ts" (sampleInvocation base) (.ok {})
      .host (fun mode => hread base hbase mode (hmode mode))
      (fun mode => hload base hbase mode (hmode mode)) (fun _ => rfl)
      (fun _ _ mode => written_apply rfl rfl mode)
  refine ⟨?_, ?_⟩
  · obtain ⟨-, hsame, -⟩ := hagree "a.ts" (by decide)
    obtain ⟨outcome, events, hpatch⟩ := exists_patch_sample
    have hbase : sampleNotes.readText "a.ts" = .ok sampleBase := by decide +kernel
    have hproposed : sampleNotes.readText "b.ts" = .ok sampleProposed := by decide +kernel
    have hstatus mode : (apply sampleParser (sampleInvocation "a.ts" mode) {} sampleNotes "a.ts"
        "b.ts" mode).status = .done true :=
      (apply_of_ok hbase hproposed (fun _ => written_apply rfl rfl _) hpatch).1 mode
    obtain ⟨hshows, -⟩ := run_shows sampleParser (hread "a.ts" (by decide) .print (by decide))
      (hload "a.ts" (by decide) .print (by decide)) rfl
    have hsuccess : (result "a.ts" .print).success = true :=
      Result.success_eq_true_iff.mpr
        (hshows.trans (Ending.exitStatus_eq_success_iff.mpr (hstatus .print)))
    obtain ⟨content, _, hprint, hstore, -⟩ := hsame hsuccess
    exact ⟨content, hprint, hstore⟩
  · obtain ⟨-, -, hrefused⟩ := hagree "notes.txt" (by decide)
    have hlanguage : Language.detect "notes.txt" = .error (.unsupported "txt") := by decide +kernel
    have hparse : (Config.options {} "notes.txt").parseBoth sampleParser "x" sampleProposed =
        .error (.language .base (.unsupported "txt")) := by
      simp only [Options.parseBoth, Options.parse, Document.parse, Config.options, hlanguage]
    have hpatch := congrArg Logged.value (Options.patch_of_error hparse)
    obtain ⟨quoted, -, hstderr, hstdout, hquoted⟩ := hrefused {} "x" sampleProposed _ rfl rfl
      (by decide +kernel) (by decide +kernel) hpatch
    exact ⟨quoted, hstderr, hstdout, hquoted⟩

end Cli

end Graft
