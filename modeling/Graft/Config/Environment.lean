import Graft.Config.Literal
import Graft.Text.Cut

/-! # Settings from the environment

The variables of the program start with its name. Two underscores or a point in the rest of the name
lead into a table. Of variables that lead into the same table only the last one counts.
-/

namespace Graft

/-- Variables by name, in the order in which they were set. -/
abbrev Environment := List (String × String)

namespace Environment

/-! ## Names -/

/-- What the names of the program's variables start with. -/
def mark : String := "SEMPATCH_"

/-- Writes two underscores as a point. -/
def pointed : List Char → List Char
  | '_' :: '_' :: rest => '.' :: pointed rest
  | c :: rest => c :: pointed rest
  | [] => []

/-- The path that a variable sets. Case does not matter, and no part of it is empty. -/
def path? (variableName : String) : Option (List String) :=
  let name := Text.trimmed variableName
  if name.toUpper.startsWith mark then
    let key := String.ofList (pointed (name.toLower.toList.drop mark.length))
    let path := Text.cutText '.' (Text.trimmed key)
    if path.contains "" then none else some path
  else none

/-! ## Values -/

/-- Values that start like this are read as a whole, commas and all. -/
def isStructured (value : String) : Bool :=
  match value.toList with
  | c :: _ => c == '[' || c == '\x7b' || c == '"' || c == '\x27'
  | [] => false

/-- The setting that a value stands for. Commas make a list. -/
def setting (raw : String) : Setting :=
  let value := Text.trimmed raw
  if value.toList.contains ',' && !isStructured value then
    .list ((Text.cutText ',' value).map fun part => .text (Text.trimmed part))
  else Literal.read value

def add (settings : Settings) (assignment : String × String) : Settings :=
  match path? assignment.1 with
  | some (key :: path) => Settings.put settings key ((setting assignment.2).nest path)
  | _ => settings

/-- The settings of all variables of the program. -/
def settings (environment : Environment) : Settings :=
  environment.foldl add []

end Environment

end Graft
