import Graft.Config.Basic
import Graft.Config.Environment
import Graft.Directory
import Graft.Path
import Graft.Toml.Document

/-! # Loading the configuration

Flags come before the environment, the environment before the file, and the file before the
defaults. Syntax errors are allowed by the flag and by nothing else.
-/

namespace Graft

/-! ## Flags -/

inductive ValueFlag where
  | configPath
  | logFilter
  | logFormat
  | indentStyle
  | tabWidth
deriving DecidableEq, Repr

namespace ValueFlag

def name : ValueFlag → String
  | .configPath => "--config-path"
  | .logFilter => "--log-filter"
  | .logFormat => "--log-format"
  | .indentStyle => "--indent-style"
  | .tabWidth => "--tab-width"

def ofName? : String → Option ValueFlag
  | "--config-path" => some .configPath
  | "--log-filter" => some .logFilter
  | "--log-format" => some .logFormat
  | "--indent-style" => some .indentStyle
  | "--tab-width" => some .tabWidth
  | _ => none

end ValueFlag

def switchName : String := "--allow-syntax-errors"

inductive LoadError where
  /-- A flag is given twice, or without a value, or with one it does not take. -/
  | flag (argument : String)
  | value (flag : ValueFlag) (text : String)
  | file (path : String)
  | setting
deriving DecidableEq, Repr

def LoadError.message : LoadError → String
  | .flag argument => "unexpected use of '" ++ argument ++ "'"
  | .value which text => "invalid value '" ++ text ++ "' for '" ++ which.name ++ "'"
  | .file path => "cannot load '" ++ path ++ "'"
  | .setting => "invalid setting"

structure Flags where
  configPath : Option String := none
  settings : Settings := []
  allowSyntaxErrors : Bool := false

namespace Flags

/-- The part of a flag before its value, and the value when it stands behind an equals sign. -/
def divide (argument : String) : String × Option String :=
  let cs := argument.toList
  match cs.dropWhile (· != '=') with
  | [] => (argument, none)
  | _ :: value => (String.ofList (cs.takeWhile (· != '=')), some (String.ofList value))

/-- Whether an argument can be the value of the flag before it. -/
def isValue (argument : String) : Bool :=
  !argument.startsWith "-" || argument == "-"

/-- Sets a key that was not set before. -/
def set (flags : Flags) (flag : ValueFlag) (key : String) (setting : Setting) :
    Except LoadError Flags :=
  if (flags.settings.lookup key).isSome then .error (.flag flag.name)
  else .ok { flags with settings := (key, setting) :: flags.settings }

def add (flags : Flags) (flag : ValueFlag) (text : String) : Except LoadError Flags :=
  match flag with
  | .configPath =>
    if flags.configPath.isSome then .error (.flag flag.name)
    else .ok { flags with configPath := some text }
  | .logFilter => flags.set flag "log_filter" (.text text)
  | .logFormat =>
    match LogFormat.ofAnyCase? text with
    | some format => flags.set flag "log_format" (.text format.name)
    | none => .error (.value flag text)
  | .indentStyle =>
    match IndentPreference.ofAnyCase? text with
    | some preference => flags.set flag "indent_style" (.text preference.name)
    | none => .error (.value flag text)
  | .tabWidth =>
    match Text.count? text with
    | some n => flags.set flag "tab_width" (.count n)
    | none => .error (.value flag text)

/-- Reads the arguments that belong to the configuration. -/
def read (flags : Flags) : List String → Except LoadError Flags
  | [] => .ok flags
  | [argument] =>
    match ValueFlag.ofName? (divide argument).1, (divide argument).2 with
    | some flag, some text => flags.add flag text
    | _, _ =>
      if argument = switchName ∧ !flags.allowSyntaxErrors then
        .ok { flags with allowSyntaxErrors := true }
      else .error (.flag argument)
  | argument :: value :: rest =>
    match ValueFlag.ofName? (divide argument).1, (divide argument).2 with
    | some flag, some text =>
      match flags.add flag text with
      | .error e => .error e
      | .ok more => more.read (value :: rest)
    | some flag, none =>
      if isValue value then
        match flags.add flag value with
        | .error e => .error e
        | .ok more => more.read rest
      else .error (.flag argument)
    | none, _ =>
      if argument = switchName ∧ !flags.allowSyntaxErrors then
        { flags with allowSyntaxErrors := true : Flags }.read (value :: rest)
      else .error (.flag argument)

end Flags

/-! ## Files -/

/-- What became of a file that settings were looked for in. -/
inductive Source where
  | missing
  /-- There is something, but no settings can be read from it. -/
  | broken
  | found (settings : Settings)

namespace Source

/-- Whether a file is in a format that is known but not taken. -/
def isForeign (name : String) : Bool :=
  match (Path.extensionOf? name).map String.toLower with
  | some "json" | some "json5" | some "yaml" | some "yml" => true
  | _ => false

/-- The settings that the file at a place holds itself. -/
def own (directory : Directory) (place : Directory.Place) : Source :=
  match directory.entryAt? place with
  | some (.file content) =>
    if place.getLast?.any isForeign then .broken
    else match (String.fromUTF8? content).bind Settings.ofToml? with
      | some settings => .found settings
      | none => .broken
  | _ => .broken

def baseKey : String := "extends"

/-- The settings of a file on top of those of the file that it builds upon. A file that was passed
before, or no file at all, cannot be built upon. -/
def readFor (directory : Directory) : Nat → List Directory.Place → Directory.Place → Source
  | 0, _, _ => .broken
  | fuel + 1, passed, place =>
    match own directory place with
    | .found settings =>
      if passed.contains place then .broken
      else match settings.lookup baseKey with
        | none => .found settings
        | some (.text base) =>
          match directory.resolve place.dropLast base with
          | .error _ => .broken
          | .ok below =>
            match readFor directory fuel (place :: passed) below with
            | .found under => .found (Settings.overlay under settings)
            | _ => .broken
        | some _ => .broken
    | other => other

/-- The settings of a file, with all that it builds upon. A file is looked for by its name in its
folder, and it is missing only when there is no such folder, or nothing of that name in it. There
are no more files to pass than the directory has. -/
def read (directory : Directory) (path : String) : Source :=
  match Path.fileName? path with
  | none => .broken
  | some name =>
    match directory.entryIn (Path.folder path) name, directory.resolve [] path with
    | .error .notFound, _ => .missing
    | .ok (.file _), .ok place => readFor directory (directory.entries.length + 1) [] place
    | _, _ => .broken

/-- The settings of the first file that they can be read from. A broken file is an error when there
is no other. -/
def first (directory : Directory) (broken : Option String) :
    List String → Except LoadError Settings
  | [] =>
    match broken with
    | some path => .error (.file path)
    | none => .ok []
  | path :: rest =>
    match read directory path with
    | .found settings => .ok settings
    | .missing => first directory broken rest
    | .broken => first directory (some path) rest

end Source

namespace Config

/-- The file that is read when no other is named. -/
def defaultPath : String := ".sempatch.toml"

def pathVariable : String := "SEMPATCH_CONFIG_PATH"

def fileSettings (directory : Directory) (environment : Environment) (flags : Flags) :
    Except LoadError Settings :=
  match flags.configPath with
  | some path =>
    match Source.read directory path with
    | .found settings => .ok settings
    | _ => .error (.file path)
  | none =>
    let named := (environment.lookup pathVariable).filter (· != "")
    Source.first directory none (named.toList ++ [defaultPath])

/-- Loads the configuration for the arguments that belong to it. -/
def load (directory : Directory) (environment : Environment) (arguments : List String) :
    Except LoadError Config :=
  match ({} : Flags).read arguments with
  | .error e => .error e
  | .ok flags =>
    match fileSettings directory environment flags with
    | .error e => .error e
    | .ok file =>
      let switch := [("allow_syntax_errors", Setting.bool flags.allowSyntaxErrors)]
      let layers := [file, environment.settings, flags.settings, switch]
      match ofSettings? (layers.foldl Settings.overlay []) with
      | some config => .ok config
      | none => .error .setting

end Config

end Graft
