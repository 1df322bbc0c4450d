import Graft.Config.Setting
import Graft.Proposal

/-! # Configuration -/

namespace Graft

inductive IndentPreference where
  /-- Like the file itself. -/
  | auto
  | tabs
  | spaces
deriving DecidableEq, Repr

inductive LogFormat where
  | compact
  | json
deriving DecidableEq, Repr

namespace IndentPreference

def name : IndentPreference → String
  | .auto => "auto"
  | .tabs => "tabs"
  | .spaces => "spaces"

def ofName? : String → Option IndentPreference
  | "auto" => some .auto
  | "tabs" => some .tabs
  | "spaces" => some .spaces
  | _ => none

def ofAnyCase? (s : String) : Option IndentPreference :=
  ofName? s.toLower

def useTabs? : IndentPreference → Option Bool
  | .auto => none
  | .tabs => some true
  | .spaces => some false

end IndentPreference

namespace LogFormat

def name : LogFormat → String
  | .compact => "compact"
  | .json => "json"

def ofName? : String → Option LogFormat
  | "compact" => some .compact
  | "json" => some .json
  | _ => none

def ofAnyCase? (s : String) : Option LogFormat :=
  ofName? s.toLower

end LogFormat

/-- How a name that is none of the choices is reported. -/
def unknownNameMessage : String := "Matching variant not found"

structure Config where
  logFilter : String := "info"
  logFormat : LogFormat := .compact
  indentStyle : IndentPreference := .auto
  tabWidth : Option UInt64 := none
  allowSyntaxErrors : Bool := false
deriving DecidableEq, Repr

namespace Config

def options (config : Config) (file : String) : Options where
  file := file
  useTabs := config.indentStyle.useTabs?
  tabWidth := config.tabWidth
  allowFaults := config.allowSyntaxErrors

/-! ## From settings

A setting that is absent leaves the default, one of the wrong kind is an error.
-/

def textOf? : Setting → Option String
  | .text s => some s
  | _ => none

/-- The name of a choice, alone or as the only key of a table. -/
def choiceOf? : Setting → Option String
  | .text s => some s
  | .table [(key, .null)] => some key
  | _ => none

def widthOf? : Setting → Option (Option UInt64)
  | .null => some none
  | .count n => if n ≤ Text.wordMax then some (some n.toUInt64) else none
  | _ => none

def boolOf? : Setting → Option Bool
  | .bool b => some b
  | _ => none

def readOr (fallback : α) (read : Setting → Option α) : Option Setting → Option α
  | none => some fallback
  | some setting => read setting

/-- The configuration of five settings, in the order of the fields. -/
def ofParts? (filter format indent width allow : Option Setting) : Option Config := do
  let defaults : Config := {}
  let logFilter ← readOr defaults.logFilter textOf? filter
  let logFormat ← readOr defaults.logFormat (fun s => (choiceOf? s).bind LogFormat.ofName?) format
  let indentStyle ←
    readOr defaults.indentStyle (fun s => (choiceOf? s).bind IndentPreference.ofName?) indent
  let tabWidth ← readOr defaults.tabWidth widthOf? width
  let allowSyntaxErrors ← readOr defaults.allowSyntaxErrors boolOf? allow
  return ⟨logFilter, logFormat, indentStyle, tabWidth, allowSyntaxErrors⟩

/-- The configuration of settings by key. Unknown keys are ignored. -/
def ofSettings? (settings : Settings) : Option Config :=
  ofParts? (settings.lookup "log_filter") (settings.lookup "log_format")
    (settings.lookup "indent_style") (settings.lookup "tab_width")
    (settings.lookup "allow_syntax_errors")

/-- The configuration of a single value: settings by key, or in the order of the fields. -/
def ofSetting? : Setting → Option Config
  | .table fields => ofSettings? fields
  | .list items =>
    if items.length ≤ 5 then ofParts? items[0]? items[1]? items[2]? items[3]? items[4]? else none
  | _ => none

end Config

end Graft
