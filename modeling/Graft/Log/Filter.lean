import Graft.Log.Event
import Graft.Pattern.Flaw
import Graft.Text.Ranges
import Graft.Text.Cut
import Graft.Text.Number
import Graft.Text.Slice

/-! # Log filters

A filter is a list of directives. A directive sets the level of every record whose target starts
with its name and that has the field it asks for. The directive with the longest name decides, then
one that asks for a field, and of two that ask for the same the later one.
-/

namespace Graft

/-- The level up to which a directive shows records. Nothing is shown when there is none. -/
abbrev Threshold := Option Level

structure Directive where
  target : Option String
  threshold : Threshold
  field : Option String := none
  /-- Whether the directive is about records inside a span: one with a name, or with a field of
  some value. This program opens no spans. -/
  isScoped : Bool := false
deriving DecidableEq, Repr

structure Filter where
  directives : List Directive
deriving DecidableEq, Repr

inductive FilterError where
  | level
  | directive
  /-- The value that a field is asked for is a pattern with a flaw. -/
  | pattern (flaw : Pattern.Flaw)
deriving DecidableEq, Repr

def FilterError.message : FilterError → String
  | .level =>
    "error parsing level filter: expected one of \"off\", \"error\", \"warn\", \"info\", " ++
      "\"debug\", \"trace\", or a number 0-5"
  | .directive => "invalid filter directive"
  | .pattern flaw => "invalid field filter: " ++ flaw.message

namespace Threshold

def ofNumber? : Nat → Option Threshold
  | 0 => some none
  | 1 => some (some .error)
  | 2 => some (some .warn)
  | 3 => some (some .info)
  | 4 => some (some .debug)
  | 5 => some (some .trace)
  | _ => none

def ofName? (s : String) : Option Threshold :=
  match s.toLower with
  | "off" => some none
  | "error" => some (some .error)
  | "warn" => some (some .warn)
  | "info" => some (some .info)
  | "debug" => some (some .debug)
  | "trace" => some (some .trace)
  | _ => none

/-- A threshold by name, whatever its case, or by number. -/
def ofText? (s : String) : Option Threshold :=
  match (Text.count? s).bind ofNumber? with
  | some threshold => some threshold
  | none => ofName? s

def rank (threshold : Threshold) : Nat :=
  match threshold with
  | none => 0
  | some level => level.rank

end Threshold

/-! ## Reading

Positions are found in the text of a directive without the white space around it, and used in the
text with it.
-/

namespace Directive

/-- The characters that a target can start with. -/
def startsTarget (c : Char) : Bool :=
  c == '-' || c == ':' || c == '_' || Text.isAlphanumeric c

def width (cs : List Char) : Nat :=
  (String.ofList cs).utf8ByteSize

/-- The bytes of a text from one position to another. -/
def between (raw : String) (start stop : Nat) : Except FilterError String :=
  match Text.slice? raw start stop with
  | some text => .ok text
  | none => .error .directive

/-- The threshold that stands from a position on. When nothing stands there, everything is
shown. -/
def thresholdFrom (raw : String) (start : Nat) : Except FilterError Threshold := do
  match ← between raw start raw.utf8ByteSize with
  | "" => .ok (some .trace)
  | level =>
    match Threshold.ofText? level with
    | some threshold => .ok threshold
    | none => .error .level

/-- What may follow the bracket that closes a span, which is at the position before `start`. -/
def afterSpan (raw : String) (start : Nat) (cs : List Char) : Except FilterError Threshold :=
  match cs with
  | [] => .ok (some .trace)
  | '=' :: _ => thresholdFrom raw (start + 1)
  | _ => .error .directive

/-- Whether a value is a truth value or a number. All others are patterns. -/
def isPlainValue (cs : List Char) : Bool :=
  let word := (String.ofList (Text.unsigned cs)).toLower
  cs == "true".toList || cs == "false".toList || (Text.Decimal.read? (Text.unsigned cs)).isSome ||
    word == "inf" || word == "infinity" || word == "nan"

/-- What a field in braces asks for: its name, or nothing that counts here when it also asks for a
value. No span ever has the field, so all that matters is whether the value can be asked for. -/
def fieldOf (raw : String) : Except FilterError (Option String) :=
  match Text.cutText '=' raw with
  | _ :: value :: _ =>
    if isPlainValue value.toList then .ok none
    else match Pattern.flaw? value.toList with
      | none => .ok none
      | some flaw => .error (.pattern flaw)
  | _ => if raw = "" then .error .directive else .ok (some raw)

/-- Reads a span that starts at a position, with the field that it may hold. -/
def span (raw : String) (target : Option String) (start : Nat) (cs : List Char) :
    Except FilterError Directive := do
  let name := cs.takeWhile (fun c => c != ']' && c != '\x7b')
  let stop := start + width name
  match cs.drop name.length with
  | ']' :: rest => return ⟨target, ← afterSpan raw (stop + 1) rest, none, true⟩
  | '\x7b' :: inside =>
    let fieldChars := inside.takeWhile (· != '\x7d')
    let fieldStop := stop + 1 + width fieldChars
    match inside.drop fieldChars.length with
    | '\x7d' :: closing =>
      let field ← fieldOf (← between raw (stop + 1) fieldStop)
      match closing with
      | ']' :: rest =>
        let threshold ← afterSpan raw (fieldStop + 2) rest
        return ⟨target, threshold, field, !name.isEmpty || field.isNone⟩
      | _ => .error .directive
    | _ => .error .directive
  | _ => .error .directive

/-- A word alone is a level for all targets, or else a target that is shown at every level. -/
def word (raw : String) : Directive :=
  match Threshold.ofText? raw with
  | some threshold => ⟨none, threshold, none, false⟩
  | none => ⟨some raw, some .trace, none, false⟩

def parse (raw : String) : Except FilterError Directive := do
  match Text.trim raw.toList with
  | [] => .error .directive
  | '[' :: rest => span raw none 1 rest
  | first :: rest =>
    if startsTarget first then
      let name := first :: rest.takeWhile (fun c => c != '=' && c != '[')
      let stop := width name
      match (first :: rest).drop name.length with
      | '=' :: _ =>
        return ⟨some (← between raw 0 stop), ← thresholdFrom raw (stop + 1), none, false⟩
      | '[' :: inside => span raw (some (← between raw 0 stop)) (stop + 1) inside
      | _ => return word raw
    else .error .directive

end Directive

namespace Filter

def parseAll : List String → Except FilterError (List Directive)
  | [] => .ok []
  | part :: rest =>
    match Directive.parse part with
    | .error e => .error e
    | .ok directive => (parseAll rest).map (directive :: ·)

/-- Reads directives between commas. Empty ones are passed over. -/
def parse (s : String) : Except FilterError Filter :=
  (parseAll ((Text.cutText ',' s).filter (· != ""))).map (⟨·⟩)

/-! ## Filtering -/

/-- The fields of a record. The message counts as one. -/
def fieldNames (record : LogRecord) : List String :=
  "message" :: record.fields.map (·.1)

def applies (record : LogRecord) (directive : Directive) : Bool :=
  !directive.isScoped && directive.target.all (record.target.startsWith ·) &&
    directive.field.all (fieldNames record).contains

def matchLength (directive : Directive) : Nat :=
  match directive.target with
  | none => 0
  | some name => name.utf8ByteSize + 1

/-- Whether one field is asked for before another. Any field comes before none, and of two the one
that is later in the alphabet. -/
def fieldBefore : Option String → Option String → Bool
  | some a, some b => b < a
  | some _, none => true
  | none, _ => false

/-- Whether one directive decides before another that came later. -/
def decidesBefore (a b : Directive) : Bool :=
  matchLength b < matchLength a || (matchLength a == matchLength b && fieldBefore a.field b.field)

def preferred (best? : Option Directive) (directive : Directive) : Option Directive :=
  match best? with
  | none => some directive
  | some best => if decidesBefore best directive then some best else some directive

/-- The threshold for a record. Records that no directive is about are off. -/
def thresholdFor (filter : Filter) (record : LogRecord) : Threshold :=
  match (filter.directives.filter (applies record)).foldl preferred none with
  | none => none
  | some directive => directive.threshold

def shows (filter : Filter) (record : LogRecord) : Bool :=
  record.level.rank ≤ (filter.thresholdFor record).rank

end Filter

end Graft
