import Graft.Indent.Detect
import Graft.Patch.Comparison
import Graft.Patch.Grafting
import Graft.Syntax.Printing

/-! # Proposals

A proposal is the whole new text of a file. The functions whose bodies changed get their new bodies,
and everything else of the file stays. Moving the proposal and printing the patched text both write
layouts, and where one of these cannot be written the tool stops. What it does up to there has a
question mark to its name. The same name without one is for what a text comes to with no regard to
the room for it.
-/

namespace Graft

structure Options where
  /-- The name that both texts are parsed under. -/
  file : String := "input.ts"
  /-- Tabs or spaces, where the text should not decide. -/
  useTabs : Option Bool := none
  tabWidth : Option UInt64 := none
  /-- Whether texts with syntax errors are patched all the same. -/
  allowFaults : Bool := false
deriving DecidableEq, Repr

/-- A patched text, with what became of the patch. -/
structure Outcome where
  content : String
  operations : Nat
  applied : Nat
  skipped : Nat
deriving DecidableEq, Repr

namespace Options

/-- The style that a text is printed in: the one it is written in, as far as nothing else was
asked for. -/
def indentationFor (options : Options) (text : String) : Indentation :=
  let detected := Indentation.detect text
  ⟨options.useTabs.getD detected.useTabs, options.tabWidth.getD detected.tabWidth⟩

/-- Parses one side of a request, and refuses it for its syntax errors. -/
def parse (options : Options) (parser : Parser) (side : Side) (text : String) (next : NodeId) :
    Except Refusal (Document × NodeId) :=
  match Document.parse parser options.file text next with
  | .error e => .error (.language side e)
  | .ok (document, after) =>
    match options.allowFaults, document.faults with
    | false, first :: rest => .error (.faults side (rest.length + 1) first)
    | _, _ => .ok (document, after)

/-- The documents of both texts as they are, and the first identity that neither uses. -/
def parseBoth (options : Options) (parser : Parser) (base proposed : String) :
    Except Refusal (Document × Document × NodeId) :=
  match options.parse parser .base base 0 with
  | .error refusal => .error refusal
  | .ok (baseDocument, middle) =>
    match options.parse parser .proposed proposed middle with
    | .error refusal => .error refusal
    | .ok (document, after) => .ok (baseDocument, document, after)

/-- The documents of both texts, with the proposal moved to the indentation of the text, level for
level. -/
def documents (options : Options) (parser : Parser) (base proposed : String) :
    Except Refusal (Document × Document × NodeId) :=
  match options.parseBoth parser base proposed with
  | .error refusal => .error refusal
  | .ok (baseDocument, document, after) =>
    let moved := document.reindent (Indentation.detect proposed) (options.indentationFor base) after
    .ok (baseDocument, moved)

def documents? (options : Options) (parser : Parser) (base proposed : String) :
    Option (Except Refusal (Document × Document × NodeId)) :=
  match options.parseBoth parser base proposed with
  | .error refusal => some (.error refusal)
  | .ok (baseDocument, document, after) =>
    (document.reindent? (Indentation.detect proposed) (options.indentationFor base) after).map
      fun moved => .ok (baseDocument, moved)

/-- The outcome of a patch that was found and grafted, with the text of the patched document. -/
def outcome (options : Options) (found : Logged Patch) (grafting : Grafting) (content : String) :
    Logged Outcome :=
  let operations := found.value.operations.length
  ⟨⟨content, operations, grafting.applied, grafting.skipped⟩,
    found.events ++ grafting.events ++
      [.patchApplied options.file operations grafting.applied grafting.skipped]⟩

/-- Patches a document by a proposed one that is indented like it. -/
def patchDocument (options : Options) (style : Indentation) (base proposed : Document)
    (next : NodeId) : Logged Outcome :=
  let found := base.diff proposed
  let grafting := base.graft found.value next
  options.outcome found grafting (grafting.document.print style)

def patchDocument? (options : Options) (style : Indentation) (base proposed : Document)
    (next : NodeId) : Option (Logged Outcome) :=
  let found := base.diff proposed
  let grafting := base.graft found.value next
  (grafting.document.print? style).map (options.outcome found grafting)

def patch (options : Options) (parser : Parser) (base proposed : String) :
    Logged (Except Refusal Outcome) :=
  match options.documents parser base proposed with
  | .error refusal => ⟨.error refusal, []⟩
  | .ok (baseDocument, proposedDocument, next) =>
    let patched :=
      options.patchDocument (options.indentationFor base) baseDocument proposedDocument next
    ⟨.ok patched.value, patched.events⟩

/-- The layouts that patching writes: those that move the proposal, and then those that print the
patched text. Where the proposal cannot be moved, nothing is printed. -/
def layouts (options : Options) (parser : Parser) (base proposed : String) :
    List Indentation.Layout :=
  match options.parseBoth parser base proposed with
  | .error _ => []
  | .ok (baseDocument, document, after) =>
    let source := Indentation.detect proposed
    let style := options.indentationFor base
    let moving := document.moving source style
    if moving.all (·.isWritable) then
      let (moved, next) := document.reindent source style after
      let patched := (baseDocument.graft (baseDocument.diff moved).value next).document
      moving ++ patched.printing style
    else moving

/-- Patches a text by a proposal. -/
def patch? (options : Options) (parser : Parser) (base proposed : String) :
    Option (Logged (Except Refusal Outcome)) :=
  match options.documents? parser base proposed with
  | none => none
  | some (.error refusal) => some ⟨.error refusal, []⟩
  | some (.ok (baseDocument, proposedDocument, next)) =>
    let style := options.indentationFor base
    (options.patchDocument? style baseDocument proposedDocument next).map fun patched =>
      ⟨.ok patched.value, patched.events⟩

/-- What was reported of a patch that stopped. Nothing is reported before the proposal is moved, and
a patch is reported as found and as executed before the text is printed. -/
def eventsBeforeStop (options : Options) (parser : Parser) (base proposed : String) : List Event :=
  match options.documents? parser base proposed with
  | some (.ok (baseDocument, proposedDocument, next)) =>
    let found := baseDocument.diff proposedDocument
    found.events ++ (baseDocument.graft found.value next).events
  | _ => []

/-- Patches a text by one proposal after another. A proposal that is refused leaves the text as it
was. -/
def patchAll? (options : Options) (parser : Parser) (base : String) :
    List String → Option (List (Except Refusal Outcome))
  | [] => some []
  | proposed :: rest =>
    match options.patch? parser base proposed with
    | none => none
    | some patched =>
      let after := match patched.value with
        | .error _ => base
        | .ok outcome => outcome.content
      (options.patchAll? parser after rest).map (patched.value :: ·)

end Options

/-! ## Requests -/

structure Hunk where
  content : String
  startLine : Option Nat
deriving DecidableEq, Repr

inductive Request where
  | text (proposed : String)
  | hunks (items : List Hunk)
deriving DecidableEq, Repr

inductive Reply where
  | success (content : String)
  | failure (message : String)
deriving DecidableEq, Repr

def Reply.isSuccess : Reply → Bool
  | .success _ => true
  | .failure _ => false

/-- The reply that a patch comes to. -/
def Reply.ofPatch (patched : Logged (Except Refusal Outcome)) : Logged Reply :=
  match patched.value with
  | .error refusal => ⟨.failure refusal.message, patched.events ++ [.patchFailed refusal]⟩
  | .ok outcome => ⟨.success outcome.content, patched.events⟩

def Options.answer (options : Options) (parser : Parser) (base : String) :
    Request → Logged Reply
  | .hunks _ => ⟨.failure Refusal.structured.message, [.hunksRejected]⟩
  | .text proposed => Reply.ofPatch (options.patch parser base proposed)

/-- Answers a request. Only whole texts are taken. -/
def Options.answer? (options : Options) (parser : Parser) (base : String) :
    Request → Option (Logged Reply)
  | .hunks _ => some ⟨.failure Refusal.structured.message, [.hunksRejected]⟩
  | .text proposed => (options.patch? parser base proposed).map Reply.ofPatch

/-! ## The tool as agents see it -/

namespace Tool

def name : String := "SemanticDiffStrategy"

/-- What an agent is told: where it works, and the options it was given, sorted by key. -/
def description (directory : String) (options : List (String × String)) : String :=
  let sorted := options.mergeSort fun a b => a.1 ≤ b.1
  "## " ++ name ++ "\n" ++
  "Applies a proposed rewrite of a TypeScript or JavaScript file as a semantic patch.\n" ++
  "Provide the complete new contents of the file, not a textual diff. Function bodies " ++
  "that changed are located by content hash and replaced in the original file; " ++
  "everything else is kept exactly as it was.\n" ++
  "Working directory: " ++ directory ++ "\n" ++
  String.join (sorted.map fun (key, value) => "Option " ++ key ++ ": " ++ value ++ "\n")

end Tool

end Graft
