import Graft.Json
import Graft.Patch.Operation

/-! # Log events and lines

An event says what happened. Its record says how that is reported: a level, the part of the program
that reports it, a message and named values.
-/

namespace Graft

inductive Level where
  | error
  | warn
  | info
  | debug
  | trace
deriving DecidableEq, Repr

namespace Level

def name : Level → String
  | .error => "ERROR"
  | .warn => "WARN"
  | .info => "INFO"
  | .debug => "DEBUG"
  | .trace => "TRACE"

/-- How much has to be asked for before the level is shown. -/
def rank : Level → Nat
  | .error => 1
  | .warn => 2
  | .info => 3
  | .debug => 4
  | .trace => 5

end Level

inductive LogValue where
  | count (n : Nat)
  /-- A text that is quoted in readable logs. -/
  | quoted (s : String)
  /-- A text that is written as it is. -/
  | bare (s : String)
deriving DecidableEq, Repr

structure LogRecord where
  level : Level
  target : String
  message : String
  fields : List (String × LogValue)
deriving DecidableEq, Repr

inductive Event where
  | bodyChanged (anchor : Anchor) (name : Option String)
  | childCountsDiffer (kind : String) (old new : Nat)
  | diffComplete (file : String) (operations : Nat)
  | noBody (anchor : Anchor) (kind : String)
  | bodyReplaced (anchor : Anchor)
  | notApplied (anchor : Anchor) (operation : String)
  | patchExecuted (file : String) (applied skipped : Nat)
  | patchApplied (file : String) (operations applied skipped : Nat)
  | patchFailed (refusal : Refusal)
  | hunksRejected
  | operationsUnmatched (skipped : Nat)
  | fileWritten (file : String) (applied : Nat)
deriving DecidableEq, Repr

namespace Event

def comparisonTarget : String := "sempatch_core::differ"
def graftingTarget : String := "sempatch_core::executor"
def proposalTarget : String := "sempatch_core::strategy"
def commandTarget : String := "sempatch_cli::commands"

def record : Event → LogRecord
  | .bodyChanged anchor name =>
    ⟨.debug, comparisonTarget, "function body changed",
      [("anchor", .quoted anchor.brief), ("function", .quoted (name.getD "<anonymous>"))]⟩
  | .childCountsDiffer kind old new =>
    ⟨.debug, comparisonTarget, "child counts differ; comparing common prefix only",
      [("kind", .quoted kind), ("old", .count old), ("new", .count new)]⟩
  | .diffComplete file operations =>
    ⟨.debug, comparisonTarget, "diff complete",
      [("file", .bare file), ("operations", .count operations)]⟩
  | .noBody anchor kind =>
    ⟨.debug, graftingTarget, "matched node has no body to replace",
      [("anchor", .quoted anchor.brief), ("kind", .quoted kind)]⟩
  | .bodyReplaced anchor =>
    ⟨.debug, graftingTarget, "replaced function body", [("anchor", .quoted anchor.brief)]⟩
  | .notApplied anchor operation =>
    ⟨.debug, graftingTarget, "operation kind is not applied",
      [("anchor", .quoted anchor.brief), ("operation", .quoted operation)]⟩
  | .patchExecuted file applied skipped =>
    ⟨.debug, graftingTarget, "patch executed",
      [("file", .bare file), ("applied", .count applied), ("skipped", .count skipped)]⟩
  | .patchApplied file operations applied skipped =>
    ⟨.info, proposalTarget, "semantic patch applied",
      [("file", .bare file), ("operations", .count operations), ("applied", .count applied),
        ("skipped", .count skipped)]⟩
  | .patchFailed refusal =>
    ⟨.debug, proposalTarget, "semantic patch failed", [("error", .bare refusal.message)]⟩
  | .hunksRejected => ⟨.debug, proposalTarget, "rejecting structured diff content", []⟩
  | .operationsUnmatched skipped =>
    ⟨.debug, commandTarget, "some operations matched nothing in the original",
      [("skipped", .count skipped)]⟩
  | .fileWritten file applied =>
    ⟨.info, commandTarget, "patched file written",
      [("file", .bare file), ("applied", .count applied)]⟩

end Event

structure Logged (α : Type) where
  value : α
  events : List Event

/-! ## Lines -/

namespace LogRecord

def plain (r : LogRecord) : String :=
  let value : LogValue → String
    | .count n => toString n
    | .quoted s => s
    | .bare s => s
  r.level.name ++ " " ++ r.target ++ " " ++ r.message ++
    String.join (r.fields.map fun (key, v) => " " ++ key ++ "=" ++ value v)

/-- One line for readers. Levels are aligned to the right. -/
def compact (r : LogRecord) : String :=
  let value : LogValue → String
    | .count n => toString n
    | .quoted s => Text.debugQuoted s
    | .bare s => s
  let level := if r.level.name.length < 5 then " " ++ r.level.name else r.level.name
  level ++ " " ++ r.target ++ ": " ++ r.message ++
    String.join (r.fields.map fun (key, v) => " " ++ key ++ "=" ++ value v)

def json (r : LogRecord) : String :=
  let value : LogValue → Json
    | .count n => .number n
    | .quoted s => .text s
    | .bare s => .text s
  Json.compact (.object ([("level", .text r.level.name), ("message", .text r.message)] ++
    r.fields.map (fun (key, v) => (key, value v)) ++ [("target", .text r.target)]))

end LogRecord

end Graft
