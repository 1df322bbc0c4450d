import Graft.Text.Number

/-! # Settings

A setting is a value as a file, the environment or a caller gives it, before anything is known about
what it should be.
-/

namespace Graft

inductive Setting where
  | null
  | bool (b : Bool)
  /-- A whole number from zero on. -/
  | count (n : Nat)
  /-- A number of any other kind. -/
  | number
  | text (s : String)
  | list (items : List Setting)
  | table (fields : List (String × Setting))
deriving Repr, Inhabited

abbrev Settings := List (String × Setting)

/-- Sets a key, in place of what it was set to before. -/
def Settings.put (settings : Settings) (key : String) (setting : Setting) : Settings :=
  if settings.any (·.1 == key) then
    settings.map fun field => if field.1 == key then (key, setting) else field
  else settings ++ [(key, setting)]

namespace Setting

/-- A finite number is one of no use here. An infinite one says nothing. -/
def ofDecimal (d : Text.Decimal) : Setting :=
  if d.overflows then .null else .number

def ofInt : Int → Setting
  | .ofNat n => .count n
  | .negSucc _ => .number

/-- A setting inside tables, one for each key of the path. -/
def nest (setting : Setting) : List String → Setting
  | [] => setting
  | key :: path => .table [(key, nest setting path)]

/-! ## Layers

A setting of a later layer takes the place of one below it. Two tables become one.
-/

def fields : Setting → Settings
  | .table fields => fields
  | _ => []

mutual
/-- Puts `upper` on top of `lower`. -/
def merge (lower : Setting) : Setting → Setting
  | .table fields => .table (mergeFields lower.fields fields)
  | upper => upper

def mergeFields (lower : Settings) : List (String × Setting) → Settings
  | [] => lower
  | (key, upper) :: rest =>
    mergeFields (Settings.put lower key (merge ((List.lookup key lower).getD .null) upper)) rest
end

end Setting

/-- Puts the settings of a layer on top of others. -/
def Settings.overlay (lower upper : Settings) : Settings :=
  Setting.mergeFields lower upper

end Graft
