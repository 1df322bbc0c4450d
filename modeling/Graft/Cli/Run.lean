import Graft.Anchor.Index
import Graft.Cli.Arguments
import Graft.Cli.Command
import Graft.Log.Filter
import Graft.Log.Event

/-! # Running the program

A run takes a directory, the arguments and what surrounds them, and yields the output and the
directory after it. It goes through five stages: the configuration flags are split off, the command
is read, the configuration is loaded, logging is set up, and the command is carried out. The first
stage that fails ends the run. A run can also stop in the last stage, when a layout of the patched
text cannot be written.
-/

namespace Graft.Cli

inductive Listener where
  /-- A host that runs the program and wants every event. -/
  | host
  /-- The program itself, which writes what its filter shows. -/
  | program
deriving DecidableEq, Repr

inductive Disk where
  | sound
  /-- The file is emptied, and then nothing more goes in. -/
  | full
  /-- Files can be read, but none is opened to be written. -/
  | readOnly
deriving DecidableEq, Repr

structure Invocation where
  arguments : List String
  environment : Environment := []
  /-- The bytes that the output takes before it fails. -/
  room : Option Nat := none
  listener : Listener := .host
  disk : Disk := .sound

inductive Failure where
  | usage (usage : Usage)
  | config (error : LoadError)
  | logFilter (error : FilterError)
  | read (path : String) (error : FileError)
  | parse (path : String) (error : LanguageError)
  | refused (refusal : Refusal)
  | write (path : String) (error : FileError)
  | serialise (error : FileError)
  | output (error : FileError)
deriving DecidableEq, Repr

def Failure.message : Failure → String
  | .usage _ => Usage.text
  | .config error => "failed to load configuration: " ++ error.message
  | .logFilter error =>
    "failed to initialise telemetry: invalid log filter: " ++ error.message
  | .read path error => "failed to read " ++ path ++ ": " ++ error.message
  | .parse path error => "failed to parse " ++ path ++ ": " ++ error.message
  | .refused refusal => refusal.message
  | .write path error => "failed to write " ++ path ++ ": " ++ error.message
  | .serialise error => "failed to serialise output: " ++ error.message
  | .output error => "failed to write output: " ++ error.message

/-- How a command ends. -/
inductive Ending where
  | done (success : Bool)
  | failed (failure : Failure)
  /-- A layout could not be written, and nothing was done after that. -/
  | stopped
deriving DecidableEq, Repr

structure Effect where
  status : Ending
  stdout : ByteArray
  directory : Directory
  events : List Event

/-! ## Output -/

def accepted (room : Option Nat) (text : String) : ByteArray :=
  match room with
  | none => text.toUTF8
  | some n => text.toUTF8.extract 0 n

def fits (room : Option Nat) (text : String) : Bool :=
  match room with
  | none => true
  | some n => text.utf8ByteSize ≤ n

def Effect.failure (directory : Directory) (failure : Failure) (events : List Event) : Effect :=
  ⟨.failed failure, ByteArray.empty, directory, events⟩

def Effect.stopped (directory : Directory) (events : List Event) : Effect :=
  ⟨.stopped, ByteArray.empty, directory, events⟩

def Effect.print (room : Option Nat) (directory : Directory) (text : String)
    (events : List Event) : Effect :=
  ⟨if fits room text then .done true else .failed (.output .sinkFull), accepted room text,
    directory, events⟩

def Effect.printJson (room : Option Nat) (directory : Directory) (value : String) (success : Bool)
    (events : List Event) : Effect :=
  let status :=
    if !fits room value then .failed (.serialise .sinkFull)
    else if !fits room (value ++ "\n") then .failed (.output .sinkFull)
    else .done success
  ⟨status, accepted room (value ++ "\n"), directory, events⟩

/-! ## Commands -/

def replyJson : Reply → Json
  | .success content => .object [("success", .bool true), ("content", .text content)]
  | .failure message => .object [("success", .bool false), ("error", .text message)]

/-- Stores a patched text in the file it came from. -/
def storeOutcome (disk : Disk) (directory : Directory) (path : String) (outcome : Outcome)
    (events : List Event) : Effect :=
  match disk, outcome.content.isEmpty with
  | .full, false =>
    .failure (directory.store path ByteArray.empty) (.write path .tooLarge) events
  | .readOnly, _ => .failure directory (.write path .readOnly) events
  | _, _ =>
    ⟨.done true, ByteArray.empty, directory.store path outcome.content.toUTF8,
      events ++ [.fileWritten path outcome.applied]⟩

/-- The events that a command adds to those of a patch. -/
def unmatched (outcome : Outcome) : List Event :=
  if outcome.skipped = 0 then [] else [.operationsUnmatched outcome.skipped]

/-- Patches one text by another and puts the result where it is wanted. -/
def applyTexts (parser : Parser) (invocation : Invocation) (config : Config)
    (directory : Directory) (path base proposed : String) (mode : ApplyMode) : Effect :=
  let options := config.options path
  match mode with
  | .json =>
    match options.answer? parser base (.text proposed) with
    | none => .stopped directory (options.eventsBeforeStop parser base proposed)
    | some reply =>
      .printJson invocation.room directory (replyJson reply.value).compact
        reply.value.isSuccess reply.events
  | .print =>
    match options.patch? parser base proposed with
    | none => .stopped directory (options.eventsBeforeStop parser base proposed)
    | some ⟨.error refusal, events⟩ => .failure directory (.refused refusal) events
    | some ⟨.ok outcome, events⟩ =>
      .print invocation.room directory outcome.content (events ++ unmatched outcome)
  | .inPlace =>
    match options.patch? parser base proposed with
    | none => .stopped directory (options.eventsBeforeStop parser base proposed)
    | some ⟨.error refusal, events⟩ => .failure directory (.refused refusal) events
    | some ⟨.ok outcome, events⟩ =>
      storeOutcome invocation.disk directory path outcome (events ++ unmatched outcome)

def apply (parser : Parser) (invocation : Invocation) (config : Config) (directory : Directory)
    (base proposed : String) (mode : ApplyMode) : Effect :=
  match directory.readText base with
  | .error e => .failure directory (.read base e) []
  | .ok baseText =>
    match directory.readText proposed with
    | .error e => .failure directory (.read proposed e) []
    | .ok proposedText =>
      applyTexts parser invocation config directory base baseText proposedText mode

structure Summary where
  operation : String
  anchor : Anchor
  target : Option String

namespace Summary

def ofOperation (index : AnchorIndex) (operation : Operation) : Summary :=
  ⟨operation.name, operation.target, (index.get? operation.target).map Node.described⟩

def line (summary : Summary) : String :=
  summary.operation ++ " " ++ summary.anchor.brief ++ " " ++
    summary.target.getD "<unmatched>" ++ "\n"

def json (summary : Summary) : Json :=
  .object [("operation", .text summary.operation), ("anchor", .text summary.anchor.hex),
    ("target", match summary.target with
      | some target => .text target
      | none => .null)]

end Summary

def summaries (base : Document) (patch : Patch) : List Summary :=
  let index := AnchorIndex.build base.root
  patch.operations.map (Summary.ofOperation index)

/-- Lists the operations. The first text is parsed before the second one is read. -/
def diff (parser : Parser) (invocation : Invocation) (config : Config) (directory : Directory)
    (base proposed : String) (json : Bool) : Effect :=
  let options := config.options base
  match directory.readText base with
  | .error e => .failure directory (.read base e) []
  | .ok baseText =>
    match options.parse parser .base baseText 0 with
    | .error refusal => .failure directory (.refused refusal) []
    | .ok (baseDocument, next) =>
      match directory.readText proposed with
      | .error e => .failure directory (.read proposed e) []
      | .ok proposedText =>
        match options.parse parser .proposed proposedText next with
        | .error refusal => .failure directory (.refused refusal) []
        | .ok (proposedDocument, _) =>
          let found := baseDocument.diff proposedDocument
          let listed := summaries baseDocument found.value
          if json then
            .printJson invocation.room directory (Json.array (listed.map Summary.json)).pretty true
              found.events
          else
            .print invocation.room directory (String.join (listed.map Summary.line)) found.events

/-- One line for every node that has a category. -/
def anchorLines (root : Node) : List String :=
  (Anchored.ofNode root).preorder.filterMap fun tree =>
    if tree.node.category = .other then none
    else some (tree.anchor.brief ++ " " ++ tree.node.grammar ++ " " ++ tree.node.described ++ "\n")

def anchors (parser : Parser) (invocation : Invocation) (directory : Directory) (file : String) :
    Effect :=
  match directory.readText file with
  | .error e => .failure directory (.read file e) []
  | .ok text =>
    match Document.parse parser file text 0 with
    | .error e => .failure directory (.parse file e) []
    | .ok (document, _) =>
      .print invocation.room directory (String.join (anchorLines document.root)) []

def execute (parser : Parser) (invocation : Invocation) (config : Config) (directory : Directory) :
    Command → Effect
  | .apply base proposed mode => apply parser invocation config directory base proposed mode
  | .diff base proposed json => diff parser invocation config directory base proposed json
  | .anchors file => anchors parser invocation directory file

/-! ## Runs -/

inductive ExitStatus where
  | success
  | failure
  | stopped
deriving DecidableEq, Repr

structure Result where
  status : ExitStatus
  stdout : ByteArray
  /-- What the program writes itself, which is nothing about a stop. -/
  stderr : String
  directory : Directory
  events : List Event

def Result.success (result : Result) : Bool :=
  result.status == .success

/-- The log lines that the program writes itself. -/
def logText (config : Config) (filter : Filter) (events : List Event) : String :=
  let shown := (events.map Event.record).filter filter.shows
  String.join (shown.map fun record =>
    (match config.logFormat with
      | .compact => record.compact
      | .json => record.json) ++ "\n")

/-- A run that ended before its command. -/
def Result.broken (room : Option Nat) (directory : Directory) (failure : Failure) : Result :=
  match failure with
  | .usage .help => ⟨.success, accepted room failure.message, "", directory, []⟩
  | _ => ⟨.failure, ByteArray.empty, failure.message ++ "\n", directory, []⟩

def Ending.exitStatus : Ending → ExitStatus
  | .done true => .success
  | .done false | .failed _ => .failure
  | .stopped => .stopped

/-- A run with the log text that went before the end of its command. -/
def Result.ofEffect (log : String) (events : List Event) (effect : Effect) : Result :=
  let reason := match effect.status with
    | .failed failure => failure.message ++ "\n"
    | .done _ | .stopped => ""
  ⟨effect.status.exitStatus, effect.stdout, log ++ reason, effect.directory, events⟩

/-- What the program leaves to other packages. Nothing else of a run depends on how commands are
spelled, where a configuration comes from and how a log filter is written. -/
structure Readers where
  command : List String → Except Usage Command
  config : Directory → Environment → List String → Except LoadError Config
  filter : String → Except FilterError Filter

def runWith (readers : Readers) (parser : Parser) (invocation : Invocation)
    (directory : Directory) : Result :=
  let arguments := invocation.arguments
  match readers.command (commandArguments arguments).tail with
  | .error usage => .broken invocation.room directory (.usage usage)
  | .ok command =>
    match readers.config directory invocation.environment (split arguments).config.tail with
    | .error e => .broken invocation.room directory (.config e)
    | .ok config =>
      match invocation.listener with
      | .host =>
        let effect := execute parser invocation config directory command
        .ofEffect "" effect.events effect
      | .program =>
        match readers.filter config.logFilter with
        | .error e => .broken invocation.room directory (.logFilter e)
        | .ok filter =>
          let effect := execute parser invocation config directory command
          .ofEffect (logText config filter effect.events) [] effect

def Readers.program : Readers :=
  ⟨Command.read, Config.load, Filter.parse⟩

def run (parser : Parser) (invocation : Invocation) (directory : Directory) : Result :=
  runWith .program parser invocation directory

end Graft.Cli
