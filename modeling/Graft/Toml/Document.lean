import Graft.Toml.Reserved
import Graft.Toml.Value

/-! # TOML files -/

namespace Graft.Toml

structure Draft where
  root : Entries := []
  /-- The header that the lines ahead belong to. -/
  header : List String := []

namespace Draft

/-- Sets a key in the table of the last header. -/
def assign? (draft : Draft) (path : List String) (key : String) (setting : Setting) :
    Option Draft :=
  let change := fun _ entries => Entries.assign? entries path key setting
  (Entries.changeAt false change draft.header false draft.root).map fun root =>
    { draft with root := root }

def table? (draft : Draft) (path : List String) (key : String) : Option Draft :=
  (Entries.changeAt false (fun _ entries => Entries.define? key entries) path false draft.root).map
    fun root => ⟨root, path ++ [key]⟩

def element? (draft : Draft) (path : List String) (key : String) : Option Draft :=
  (Entries.changeAt false (fun _ entries => Entries.append? key entries) path false draft.root).map
    fun root => ⟨root, path ++ [key]⟩

end Draft

/-! ## Statements -/

def headerLine? (draft : Draft) (cs : List Char) : Option (Draft × List Char) :=
  match cs with
  | '[' :: start => do
    let (path, key, after) ← key? start
    match after with
    | ']' :: ']' :: rest => return (← draft.element? path key, ← lineEnd? rest)
    | _ => none
  | start => do
    let (path, key, after) ← key? start
    match after with
    | ']' :: rest => return (← draft.table? path key, ← lineEnd? rest)
    | _ => none

def pairLine? (draft : Draft) (cs : List Char) : Option (Draft × List Char) := do
  let (path, key, afterKey) ← key? cs
  match afterKey with
  | '=' :: start =>
    let (setting, after) ← value? (skipBlanks start)
    return (← draft.assign? path key setting, ← lineEnd? after)
  | _ => none

/-- Reads the statements that are left. Every one of them takes at least one character. -/
def statementsFor : Nat → Draft → List Char → Option Draft
  | 0, _, _ => none
  | fuel + 1, draft, cs =>
    match skipBlanks cs with
    | [] => some draft
    | '#' :: rest => (lineEnd? ('#' :: rest)).bind (statementsFor fuel draft)
    | '[' :: rest => (headerLine? draft rest).bind fun (more, last) => statementsFor fuel more last
    | start =>
      match newline? start with
      | some rest => statementsFor fuel draft rest
      | none => (pairLine? draft start).bind fun (more, last) => statementsFor fuel more last

/-- A text without the mark that some editors put first. -/
def withoutMark : List Char → List Char
  | c :: cs => if c.toNat = 0xFEFF then cs else c :: cs
  | [] => []

end Graft.Toml

namespace Graft

/-- The settings of a file, if it is well formed. -/
def Settings.ofToml? (text : String) : Option Settings :=
  let cs := Toml.withoutMark text.toList
  match Toml.statementsFor (cs.length + 1) {} cs with
  | none => none
  | some draft =>
    let settings := Toml.entriesSettings draft.root
    if Toml.isTimely (.table settings) then Toml.unwrapFields? settings else none

end Graft
