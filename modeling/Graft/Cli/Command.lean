/-! # Commands -/

namespace Graft

namespace Cli

inductive ApplyMode where
  | print
  | inPlace
  /-- To the output, wrapped for programs. -/
  | json
deriving DecidableEq, Repr

inductive Command where
  | apply (base proposed : String) (mode : ApplyMode)
  | diff (base proposed : String) (json : Bool)
  | anchors (file : String)
deriving DecidableEq, Repr

inductive Usage where
  | help
  | invalid
deriving DecidableEq, Repr

def Usage.text : String :=
  "Usage: sempatch [CONFIGURATION FLAGS] <COMMAND>\n\n" ++
  "Commands:\n" ++
  "  apply <FILE> <PROPOSED> [--write | --json]\n" ++
  "  diff <FILE> <PROPOSED> [--json]\n" ++
  "  anchors <FILE>"

/-! ## Flags and positions -/

structure Shape where
  flags : List String
  positions : Nat

structure Scan where
  flags : List String := []
  positions : List String := []
deriving DecidableEq, Repr

/-- Whether an argument is a flag or a bundle of short ones. -/
def isFlag (argument : String) : Bool :=
  argument.startsWith "-" && argument != "-"

def isHelp (argument : String) : Bool :=
  argument == "--help" || argument.startsWith "-h"

namespace Scan

def addPosition (shape : Shape) (scan : Scan) (argument : String) : Except Usage Scan :=
  if scan.positions.length < shape.positions then
    .ok { scan with positions := scan.positions ++ [argument] }
  else .error .invalid

def addFlag (shape : Shape) (scan : Scan) (argument : String) : Except Usage Scan :=
  if isHelp argument then .error .help
  else if shape.flags.contains argument && !scan.flags.contains argument then
    .ok { scan with flags := argument :: scan.flags }
  else .error .invalid

/-- After a double dash everything is a position. -/
def readPositions (shape : Shape) (scan : Scan) : List String → Except Usage Scan
  | [] => .ok scan
  | argument :: rest =>
    match scan.addPosition shape argument with
    | .error e => .error e
    | .ok more => more.readPositions shape rest

def read (shape : Shape) (scan : Scan) : List String → Except Usage Scan
  | [] => .ok scan
  | argument :: rest =>
    if argument = "--" then scan.readPositions shape rest
    else
      let taken := if isFlag argument then scan.addFlag shape argument
        else scan.addPosition shape argument
      match taken with
      | .error e => .error e
      | .ok more => more.read shape rest

end Scan

/-! ## The three commands -/

namespace Command

def readApply (arguments : List String) : Except Usage Command :=
  match ({} : Scan).read ⟨["--write", "--json"], 2⟩ arguments with
  | .error e => .error e
  | .ok scan =>
    match scan.positions, scan.flags.contains "--write", scan.flags.contains "--json" with
    | [base, proposed], false, false => .ok (.apply base proposed .print)
    | [base, proposed], true, false => .ok (.apply base proposed .inPlace)
    | [base, proposed], false, true => .ok (.apply base proposed .json)
    | _, _, _ => .error .invalid

def readDiff (arguments : List String) : Except Usage Command :=
  match ({} : Scan).read ⟨["--json"], 2⟩ arguments with
  | .error e => .error e
  | .ok scan =>
    match scan.positions with
    | [base, proposed] => .ok (.diff base proposed (scan.flags.contains "--json"))
    | _ => .error .invalid

def readAnchors (arguments : List String) : Except Usage Command :=
  match ({} : Scan).read ⟨[], 1⟩ arguments with
  | .error e => .error e
  | .ok scan =>
    match scan.positions with
    | [file] => .ok (.anchors file)
    | _ => .error .invalid

/-- Reads the arguments after the name of the program. -/
def read : List String → Except Usage Command
  | [] => .error .invalid
  | "apply" :: rest => readApply rest
  | "diff" :: rest => readDiff rest
  | "anchors" :: rest => readAnchors rest
  | argument :: _ => if isHelp argument then .error .help else .error .invalid

end Command

end Cli

end Graft
