import Graft.Cli.Run
import Graft.Syntax.Outline

/-! # The program

The files that the command line names are read, the run is worked out, and what it printed and
changed is carried out. The parser is a program of its own. It leaves the outline of a file beside
the file.
-/

namespace Graft.Main

def entry? (path : String) : IO (Option Entry) := do
  try
    return some (.file (← IO.FS.readBinFile path))
  catch
    | .inappropriateType .. => return some .folder
    | _ => return none

/-- The part of the directory that some paths lead to. -/
def directory (paths : List String) : IO Directory := do
  let entries ← paths.filterMapM fun path => do
    return (← entry? path).map (Directory.pathOf (Directory.placeOf path), ·)
  return ⟨entries⟩

/-- The text of a file and its tree, if the parser left one. -/
def parsed? (path : String) : IO (Option (String × Concrete)) := do
  match ← entry? path, ← entry? (path ++ ".outline") with
  | some (.file text), some (.file outline) =>
    return do
      let rows ← String.fromUTF8? outline
      return (← String.fromUTF8? text, ← Concrete.ofOutlineText? rows)
  | _, _ => return none

def environment : IO Environment :=
  ["CONFIG_PATH", "LOG_FILTER", "LOG_FORMAT", "INDENT_STYLE", "TAB_WIDTH",
    "ALLOW_SYNTAX_ERRORS"].filterMapM fun key => do
      return (← IO.getEnv (Environment.mark ++ key)).map (Environment.mark ++ key, ·)

def carryOut (paths : List String) (before after : Directory) : IO Unit := do
  for path in paths do
    match before.readBytes path, after.readBytes path with
    | .ok old, .ok new => if old.data != new.data then IO.FS.writeBinFile path new
    | _, _ => continue

end Graft.Main

open Graft in
def main (arguments : List String) : IO UInt32 := do
  let environment ← Graft.Main.environment
  let named := arguments.map fun argument => ((Flags.divide argument).2).getD argument
  let configured := (environment.lookup Config.pathVariable).toList ++ [Config.defaultPath]
  let before ← Graft.Main.directory (named ++ configured).eraseDups
  let trees ← named.filterMapM Graft.Main.parsed?
  let parser : Parser := fun _ text => (trees.lookup text).getD Concrete.empty
  let result := Cli.run parser
    { arguments := "sempatch" :: arguments, environment := environment, listener := .program }
    before
  (← IO.getStdout).write result.stdout
  (← IO.getStderr).putStr result.stderr
  Graft.Main.carryOut named before result.directory
  return match result.status with
    | .success => 0
    | .failure => 1
    | .stopped => 101
