import Graft.Cli.Run
import Graft.Proofs.Writable
import Graft.Syntax.Outline
import Mathlib.Data.List.Chain

/-! # What is listed is what is patched

Listing the operations of a proposal takes the texts as they are. Patching moves the proposal to the
indentation of the text first. Both parse the same texts in the same order, so they are refused for
the same reason, and otherwise find the same operations.
-/

namespace Graft

/-- What is shown of an operation: its name and the anchor it is on. -/
def Operation.heading (operation : Operation) : String × Anchor :=
  (operation.name, operation.target)

@[simp] theorem Operation.heading_map (f : Node → Node) (operation : Operation) :
    (operation.map f).heading = operation.heading := by
  rw [heading, name_map, target_map, heading]

theorem Operation.map_heading_map (f : Node → Node) (operations : List Operation) :
    (operations.map (Operation.map f)).map heading = operations.map heading := by
  rw [List.map_map]
  exact List.map_congr_left fun operation _ => heading_map f operation

theorem Document.map_heading_diff_reindent (old new : Document) (source target : Indentation)
    (next : NodeId) :
    (old.diff (new.reindent source target next).1).value.operations.map Operation.heading =
      (old.diff new).value.operations.map Operation.heading := by
  have h := congrArg (List.map Operation.heading)
    (operations_diff_reindent old new source target next)
  rwa [Operation.map_heading_map, Operation.map_heading_map, Operation.map_heading_map] at h

/-! ## Patching -/

theorem Reply.value_ofPatch_of_error {patched : Logged (Except Refusal Outcome)}
    {refusal : Refusal} (h : patched.value = .error refusal) :
    (Reply.ofPatch patched).value = .failure refusal.message := by
  simp only [ofPatch, h]

theorem Reply.value_ofPatch_of_ok {patched : Logged (Except Refusal Outcome)} {outcome : Outcome}
    (h : patched.value = .ok outcome) :
    (Reply.ofPatch patched).value = .success outcome.content := by
  simp only [ofPatch, h]

namespace Options

variable {options : Options} {parser : Parser} {base proposed : String}

theorem patch_of_error {refusal : Refusal}
    (h : options.parseBoth parser base proposed = .error refusal) :
    options.patch parser base proposed = ⟨.error refusal, []⟩ := by
  unfold patch documents
  rw [h]

theorem patch?_of_error {refusal : Refusal}
    (h : options.parseBoth parser base proposed = .error refusal) :
    options.patch? parser base proposed = some ⟨.error refusal, []⟩ := by
  unfold patch? documents?
  rw [h]

theorem documents_of_parseBoth {old new : Document} {after : NodeId}
    (h : options.parseBoth parser base proposed = .ok (old, new, after)) :
    let moved := new.reindent (Indentation.detect proposed) (options.indentationFor base) after
    options.documents parser base proposed = .ok (old, moved.1, moved.2) := by
  unfold documents
  rw [h]

theorem patch_of_documents {old new : Document} {next : NodeId}
    (h : options.documents parser base proposed = .ok (old, new, next)) :
    (options.patch parser base proposed).value =
      .ok (options.patchDocument (options.indentationFor base) old new next).value := by
  unfold patch
  rw [h]

theorem parseBoth_of_refused {refusal : Refusal}
    (h : (options.patch parser base proposed).value = .error refusal) :
    options.parseBoth parser base proposed = .error refusal := by
  cases hboth : options.parseBoth parser base proposed with
  | error other =>
    rw [patch_of_error hboth] at h
    exact congrArg Except.error (Except.error.inj h)
  | ok both =>
    rw [patch_of_documents (documents_of_parseBoth hboth)] at h
    cases h

theorem patch_of_patch? {patched : Logged (Except Refusal Outcome)}
    (h : options.patch? parser base proposed = some patched) :
    options.patch parser base proposed = patched := by
  rw [patch?_eq] at h
  split at h
  · exact Option.some.inj h
  · cases h

theorem patch?_of_documents {old new : Document} {next : NodeId}
    (h : options.documents parser base proposed = .ok (old, new, next))
    (hfits : (options.layouts parser base proposed).all (·.isWritable) = true) :
    ∃ events, options.patch? parser base proposed =
      some ⟨.ok (options.patchDocument (options.indentationFor base) old new next).value,
        events⟩ := by
  rw [patch?_eq, if_pos hfits]
  unfold patch
  rw [h]
  exact ⟨_, rfl⟩

/-- A patch stops, is refused while its texts are parsed, or has an outcome. -/
theorem patch?_cases (options : Options) (parser : Parser) (base proposed : String) :
    options.patch? parser base proposed = none ∨
    (∃ refusal, options.parseBoth parser base proposed = .error refusal) ∨
    ∃ outcome events, options.patch? parser base proposed = some ⟨.ok outcome, events⟩ := by
  cases hpatch : options.patch? parser base proposed with
  | none => exact Or.inl rfl
  | some patched =>
    obtain ⟨value, events⟩ := patched
    cases value with
    | error refusal =>
      have hrefused := congrArg Logged.value (patch_of_patch? hpatch)
      exact Or.inr (Or.inl ⟨refusal, parseBoth_of_refused hrefused⟩)
    | ok outcome => exact Or.inr (Or.inr ⟨outcome, events, rfl⟩)

theorem answer?_of_patch? {patched : Option (Logged (Except Refusal Outcome))}
    (h : options.patch? parser base proposed = patched) :
    options.answer? parser base (.text proposed) = patched.map Reply.ofPatch := by
  rw [answer?, h]

end Options

namespace Cli

section Texts

variable {parser : Parser} {config : Config} {path base proposed : String}
variable (invocation : Invocation) (directory : Directory)

theorem applyTexts_of_stop (mode : ApplyMode)
    (h : (config.options path).patch? parser base proposed = none) :
    applyTexts parser invocation config directory path base proposed mode =
      .stopped directory ((config.options path).eventsBeforeStop parser base proposed) := by
  have hanswer := Options.answer?_of_patch? h
  unfold applyTexts
  cases mode <;> simp only [h, hanswer, Option.map_none]

theorem applyTexts_of_error {refusal : Refusal} {mode : ApplyMode} (hmode : mode ≠ .json)
    (h : (config.options path).parseBoth parser base proposed = .error refusal) :
    applyTexts parser invocation config directory path base proposed mode =
      .failure directory (.refused refusal) [] := by
  have hpatch := Options.patch?_of_error h
  unfold applyTexts
  cases mode with
  | print => simp only [hpatch]
  | inPlace => simp only [hpatch]
  | json => exact absurd rfl hmode

end Texts

/-- How operations that were found are shown. -/
def listing (room : Option Nat) (directory : Directory) (json : Bool) (listed : List Summary)
    (events : List Event) : Effect :=
  if json then .printJson room directory (Json.array (listed.map Summary.json)).pretty true events
  else .print room directory (String.join (listed.map Summary.line)) events

theorem map_heading_summaries (base : Document) (patch : Patch) :
    (summaries base patch).map (fun summary => (summary.operation, summary.anchor)) =
      patch.operations.map Operation.heading := by
  rw [summaries, List.map_map]
  rfl

theorem diff_of_readable (parser : Parser) (invocation : Invocation) (config : Config)
    {directory : Directory} {base proposed baseText proposedText : String} (json : Bool)
    (hbase : directory.readText base = .ok baseText)
    (hproposed : directory.readText proposed = .ok proposedText) :
    diff parser invocation config directory base proposed json =
      match (config.options base).parseBoth parser baseText proposedText with
      | .error refusal => .failure directory (.refused refusal) []
      | .ok (baseDocument, document, _) =>
        listing invocation.room directory json
          (summaries baseDocument (baseDocument.diff document).value)
          (baseDocument.diff document).events := by
  unfold diff Options.parseBoth listing
  simp only [hbase, hproposed]
  cases (config.options base).parse parser .base baseText 0 with
  | error refusal => rfl
  | ok first =>
    obtain ⟨baseDocument, middle⟩ := first
    dsimp only
    cases (config.options base).parse parser .proposed proposedText middle with
    | error refusal => rfl
    | ok second => rfl

theorem apply_of_readable (parser : Parser) (invocation : Invocation) (config : Config)
    {directory : Directory} {base proposed baseText proposedText : String} (mode : ApplyMode)
    (hbase : directory.readText base = .ok baseText)
    (hproposed : directory.readText proposed = .ok proposedText) :
    apply parser invocation config directory base proposed mode =
      applyTexts parser invocation config directory base baseText proposedText mode := by
  simp only [apply, hbase, hproposed]

/-- Listing and patching. Moving a proposal to another style changes no anchor and no order of the
operations, and moves their bodies. So of two texts that can be read, either both commands refuse
them for one reason, or what is listed are the operations of the patch. Listing never stops then,
and patching stops, in every mode, exactly when one of its layouts cannot be written. -/
theorem diff_lists_patched (parser : Parser) (invocation : Invocation) (config : Config)
    {directory : Directory} {base proposed baseText proposedText : String} (json : Bool)
    (hbase : directory.readText base = .ok baseText)
    (hproposed : directory.readText proposed = .ok proposedText) :
    let options := config.options base
    let shown := diff parser invocation config directory base proposed json
    let applied mode := apply parser invocation config directory base proposed mode
    let patched := options.patch? parser baseText proposedText
    let answered := options.answer? parser baseText (.text proposedText)
    (∀ (old new : Document) (source target : Indentation) (next : NodeId),
      (old.diff (new.reindent source target next).1).value.operations.map
          (Operation.map Node.content) =
        ((old.diff new).value.operations.map
          (Operation.map (Node.reindented source target))).map (Operation.map Node.content)) ∧
    ((∃ refusal,
        shown = .failure directory (.refused refusal) [] ∧
        (Failure.refused refusal).message = refusal.message ∧
        patched = some ⟨.error refusal, []⟩ ∧
        (∀ mode, mode ≠ .json → applied mode = shown) ∧
        answered.map (·.value) = some (.failure refusal.message)) ∨
      ∃ baseDocument document next listed events,
        options.documents parser baseText proposedText = .ok (baseDocument, document, next) ∧
        let found := (baseDocument.diff document).value
        let grafting := baseDocument.graft found next
        let content := grafting.document.print (options.indentationFor baseText)
        shown = listing invocation.room directory json listed events ∧
        listed.map (fun summary => (summary.operation, summary.anchor)) =
          found.operations.map (fun operation => (operation.name, operation.target)) ∧
        ((∀ l ∈ options.layouts parser baseText proposedText, l.isWritable) →
          patched.map (·.value) = some (.ok ⟨content, found.operations.length, grafting.applied,
            grafting.skipped⟩) ∧
          answered.map (·.value) = some (.success content)) ∧
        ((∃ l ∈ options.layouts parser baseText proposedText, ¬ l.isWritable) →
          patched = none ∧ answered = none ∧
          ∀ mode, (applied mode).status = .stopped ∧ (applied mode).directory = directory)) := by
  intro options shown applied patched answered
  refine ⟨Document.operations_diff_reindent, ?_⟩
  have hshown : shown = _ :=
    diff_of_readable parser invocation config json hbase hproposed
  have happlied mode : applied mode = _ :=
    apply_of_readable parser invocation config mode hbase hproposed
  cases hboth : options.parseBoth parser baseText proposedText with
  | error refusal =>
    have hpatched : patched = _ := Options.patch?_of_error hboth
    have hanswered : answered = _ := Options.answer?_of_patch? hpatched
    have hfailure : shown = .failure directory (.refused refusal) [] := by
      rw [hshown, hboth]
    refine Or.inl ⟨refusal, hfailure, rfl, hpatched, fun mode hmode => ?_, ?_⟩
    · rw [happlied, hfailure]
      exact applyTexts_of_error invocation directory hmode hboth
    · rw [hanswered]
      rfl
  | ok both =>
    obtain ⟨baseDocument, document, after⟩ := both
    have hdocuments := Options.documents_of_parseBoth hboth
    refine Or.inr ⟨baseDocument, _, _, _, _, hdocuments, by rw [hshown, hboth], ?_,
      fun hfits => ?_, fun ⟨l, hl, hwide⟩ => ?_⟩
    · rw [map_heading_summaries]
      exact (Document.map_heading_diff_reindent baseDocument document _ _ after).symm
    · obtain ⟨events, hpatch⟩ :=
        Options.patch?_of_documents hdocuments (List.all_eq_true.mpr hfits)
      have hpatched : patched = _ := hpatch
      have hanswered : answered = _ := Options.answer?_of_patch? hpatched
      rw [hanswered, hpatched]
      exact ⟨rfl, rfl⟩
    · have hpatched : patched = none := by
        rw [show patched = _ from Options.patch?_eq .., if_neg]
        exact fun hall => hwide (List.all_eq_true.mp hall l hl)
      refine ⟨hpatched, Options.answer?_of_patch? hpatched, fun mode => ?_⟩
      rw [happlied, applyTexts_of_stop invocation directory mode hpatched]
      exact ⟨rfl, rfl⟩

def sampleRow (kind : String) (start stop childCount : Nat) (field : Option Field) : OutlineRow :=
  ⟨kind, start, stop, childCount, field, false, false, false, 0, 0⟩

/-- A function `f` without parameters and with some statements, `stop` bytes long. -/
def sampleTree (stop count : Nat) (statements : List OutlineRow) : Concrete :=
  let header := [sampleRow "program" 0 stop 1 none,
    sampleRow "function_declaration" 0 stop 4 none, sampleRow "function" 0 8 0 none,
    sampleRow "identifier" 9 10 0 (some .name), sampleRow "formal_parameters" 10 12 2 none,
    sampleRow "(" 10 11 0 none, sampleRow ")" 11 12 0 none,
    sampleRow "statement_block" 13 stop (count + 2) (some .body), sampleRow "\x7b" 13 14 0 none]
  let last := sampleRow "\x7d" (stop - 1) stop 0 none
  (Concrete.ofOutline? (header ++ statements ++ [last])).getD .empty

def sampleBase : String := "function f() \x7b\x7d"

def sampleProposed : String := "function f() \x7b ; \x7d"

def sampleParser : Parser := fun _ text =>
  if text = sampleBase then sampleTree 15 0 []
  else sampleTree 18 1 [sampleRow "empty_statement" 15 16 1 none, sampleRow ";" 15 16 0 none]

def sampleDirectory : Directory :=
  ⟨[("a.ts", .file sampleBase.toUTF8), ("b.ts", .file sampleProposed.toUTF8)]⟩

theorem readText_sampleDirectory :
    sampleDirectory.readText "a.ts" = .ok sampleBase ∧
      sampleDirectory.readText "b.ts" = .ok sampleProposed := by
  decide +kernel

set_option maxRecDepth 100000 in
-- The proposal has a statement where the text has none.
theorem diff_lists_patched_sampleDirectory :
    sampleDirectory.readText "a.ts" = .ok sampleBase ∧
      sampleDirectory.readText "b.ts" = .ok sampleProposed ∧
      ∃ listed events,
        diff sampleParser { arguments := [] } {} sampleDirectory "a.ts" "b.ts" false =
          listing none sampleDirectory false listed events ∧
        listed.map (·.operation) = ["replace_body"] := by
  obtain ⟨hbase, hproposed⟩ := readText_sampleDirectory
  have hnames : ((Config.options {} "a.ts").parseBoth sampleParser sampleBase
      sampleProposed).toOption.map (fun both =>
        (both.1.root.changes both.2.1.root).map Operation.name) = some ["replace_body"] := by
    decide +kernel
  refine ⟨hbase, hproposed, ?_⟩
  cases hboth : (Config.options {} "a.ts").parseBoth sampleParser sampleBase sampleProposed with
  | error refusal =>
    rw [hboth] at hnames
    cases hnames
  | ok both =>
    obtain ⟨first, second, after⟩ := both
    have hdocuments := Options.documents_of_parseBoth hboth
    obtain ⟨refusal, -, -, herror, -⟩ | ⟨base, document, next, listed, events, hfound, hshown,
        hheadings, -⟩ :=
      (diff_lists_patched sampleParser { arguments := [] } {} false hbase hproposed).2
    · have hvalue := Options.patch_of_documents hdocuments
      rw [Options.patch_of_patch? herror] at hvalue
      cases hvalue
    · rw [hdocuments] at hfound
      cases hfound
      have hsame := Document.map_heading_diff_reindent first second
        (Indentation.detect sampleProposed)
        ((Config.options {} "a.ts").indentationFor sampleBase) after
      have hlisted := congrArg (List.map Prod.fst) (hheadings.trans hsame)
      rw [Document.operations_diff, List.map_map, List.map_map] at hlisted
      rw [hboth] at hnames
      exact ⟨listed, events, hshown, hlisted.trans (Option.some.inj hnames)⟩

/-- The proposal of the sample, and below it a statement behind two spaces. -/
def sampleBelow : String := sampleProposed ++ "\n  b;"

def sampleBelowParser : Parser := fun language text =>
  let function := sampleParser language text
  let statement := (Concrete.ofOutline? [sampleRow "expression_statement" 21 23 2 none,
    sampleRow "identifier" 21 22 0 none, sampleRow ";" 22 23 0 none]).getD .empty
  if text = sampleBase then function
  else { function with stop := 23, children := function.children ++ [statement] }

def sampleBelowDirectory : Directory :=
  ⟨[("a.ts", .file sampleBase.toUTF8), ("b.ts", .file sampleBelow.toUTF8)]⟩

set_option maxRecDepth 100000 in
-- The two spaces are a level, and a level of the base is to be `2 ^ 63` columns wide. The statement
-- that they stand before is in no function, so it would not come into the patched text.
theorem not_lists_patched_sampleBelow :
    let config : Config := { tabWidth := some 9223372036854775808 }
    let applied mode :=
      apply sampleBelowParser { arguments := [] } config sampleBelowDirectory "a.ts" "b.ts" mode
    sampleBelowDirectory.readText "a.ts" = .ok sampleBase ∧
      sampleBelowDirectory.readText "b.ts" = .ok sampleBelow ∧
      (∃ listed events,
        diff sampleBelowParser { arguments := [] } config sampleBelowDirectory "a.ts" "b.ts" false =
          listing none sampleBelowDirectory false listed events ∧
        listed.map (·.operation) = ["replace_body"]) ∧
      ∀ mode, (applied mode).status = .stopped := by
  intro config applied
  have hbase : sampleBelowDirectory.readText "a.ts" = .ok sampleBase := by decide +kernel
  have hproposed : sampleBelowDirectory.readText "b.ts" = .ok sampleBelow := by decide +kernel
  have hnames : ((config.options "a.ts").parseBoth sampleBelowParser sampleBase
      sampleBelow).toOption.map (fun both =>
        (both.1.root.changes both.2.1.root).map Operation.name) = some ["replace_body"] := by
    decide +kernel
  have hlayouts : (config.options "a.ts").layouts sampleBelowParser sampleBase sampleBelow =
      [⟨0, 9223372036854775808⟩] := by decide +kernel
  have hpatch : (config.options "a.ts").patch? sampleBelowParser sampleBase sampleBelow = none := by
    rw [Options.patch?_eq, hlayouts]
    decide
  refine ⟨hbase, hproposed, ?_, fun mode => ?_⟩
  · rw [diff_of_readable _ _ _ _ hbase hproposed]
    cases hboth : (config.options "a.ts").parseBoth sampleBelowParser sampleBase sampleBelow with
    | error refusal =>
      rw [hboth] at hnames
      cases hnames
    | ok both =>
      obtain ⟨first, second, after⟩ := both
      refine ⟨_, _, rfl, ?_⟩
      have hlisted :=
        congrArg (List.map Prod.fst) (map_heading_summaries first (first.diff second).value)
      rw [Document.operations_diff, List.map_map, List.map_map] at hlisted
      rw [hboth] at hnames
      exact hlisted.trans (Option.some.inj hnames)
  · show (apply _ _ _ _ _ _ mode).status = .stopped
    rw [apply_of_readable _ _ _ mode hbase hproposed, applyTexts_of_stop _ _ mode hpatch]
    rfl

end Cli

end Graft
