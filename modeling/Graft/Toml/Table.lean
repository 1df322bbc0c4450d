import Graft.Config.Setting

/-! # Tables of a TOML file

A table is defined once. It may be named on the way to another one before that, and dotted keys may
add to a table that dotted keys have made.
-/

namespace Graft.Toml

inductive Item where
  | value (setting : Setting)
  /-- A table. It is implicit until a header names it, and dotted when dotted keys made it. -/
  | table (isImplicit isDotted : Bool) (entries : List (String × Item))
  /-- Tables under one header, the last of which is open. -/
  | tables (elements : List (List (String × Item)))

abbrev Entries := List (String × Item)

namespace Entries

def find? (entries : Entries) (key : String) : Option Item :=
  entries.lookup key

def replace (entries : Entries) (key : String) (item : Item) : Entries :=
  entries.map fun entry => if entry.1 == key then (key, item) else entry

def add? (entries : Entries) (key : String) (item : Item) : Option Entries :=
  if (find? entries key).isSome then none else some (entries ++ [(key, item)])

/-- Changes the table at the end of a path by `f`, which is also told whether that table is dotted.
Tables on the way are made when they are missing. `dotted` says whether the path is that of a dotted
key. -/
def changeAt (dotted : Bool) (f : Bool → Entries → Option Entries) :
    List String → Bool → Entries → Option Entries
  | [], isDotted, entries => f isDotted entries
  | key :: path, _, entries =>
    match find? entries key with
    | none =>
      (changeAt dotted f path dotted []).bind fun below =>
        add? entries key (.table true dotted below)
    | some (.value _) => none
    | some (.table isImplicit isDotted below) =>
      if dotted && !isImplicit then none
      else (changeAt dotted f path isDotted below).map fun changed =>
        replace entries key (.table isImplicit isDotted changed)
    | some (.tables elements) =>
      match elements.getLast? with
      | none => none
      | some last => (changeAt dotted f path false last).map fun changed =>
        replace entries key (.tables (elements.dropLast ++ [changed]))

/-- Sets a dotted key. Its last part goes into a table that dotted keys have made, or else stands
alone. -/
def assign? (entries : Entries) (path : List String) (key : String) (setting : Setting) :
    Option Entries :=
  changeAt true
    (fun isDotted below =>
      if isDotted == path.isEmpty then none else add? below key (.value setting))
    path false entries

def define? (key : String) (entries : Entries) : Option Entries :=
  match find? entries key with
  | none => add? entries key (.table false false [])
  | some (.table true false below) => some (replace entries key (.table false false below))
  | some _ => none

def append? (key : String) (entries : Entries) : Option Entries :=
  match find? entries key with
  | none => add? entries key (.tables [[]])
  | some (.tables elements) => some (replace entries key (.tables (elements ++ [[]])))
  | some _ => none

end Entries

/-! ## As settings -/

mutual
def Item.setting : Item → Setting
  | .value setting => setting
  | .table _ _ entries => .table (entriesSettings entries)
  | .tables elements => .list (elementSettings elements)

def entriesSettings : List (String × Item) → Settings
  | [] => []
  | (key, item) :: rest => (key, item.setting) :: entriesSettings rest

def elementSettings : List (List (String × Item)) → List Setting
  | [] => []
  | entries :: rest => .table (entriesSettings entries) :: elementSettings rest
end

end Graft.Toml
