import Graft.Toml.Scalar

/-! # Reserved keys of a TOML file

Some keys make a table stand for something else than a table.
-/

namespace Graft.Toml

/-! ## Moments

A table whose first key, in the order of characters, is the key of a moment stands for that moment.
Nothing else in it is looked at.
-/

def isMomentTable (fields : Settings) : Bool :=
  (List.lookup momentKey fields).isSome && fields.all fun (key, _) => momentKey ≤ key

def isMomentText : Setting → Bool
  | .text s => spellsMoment s
  | _ => false

mutual
/-- Whether all tables that stand for moments spell one. -/
def isTimely : Setting → Bool
  | .list items => isTimelyItems items
  | .table fields =>
    if isMomentTable fields then (List.lookup momentKey fields).any isMomentText
    else isTimelyFields fields
  | _ => true

def isTimelyItems : List Setting → Bool
  | [] => true
  | item :: items => isTimely item && isTimelyItems items

def isTimelyFields : List (String × Setting) → Bool
  | [] => true
  | (_, setting) :: fields => isTimely setting && isTimelyFields fields
end

/-! ## Wrappers

A table can be the wrapper of a setting, which it stands for. What else there is in it does not
count. A wrapper with a tag is refused, and so is a tag alone. The table of the whole file is never
a wrapper.
-/

def wrapperKey : String := "___figment_value_value"

def tagKey : String := "___figment_value_id"

def content? (fields : Settings) : Option Setting :=
  if (List.lookup tagKey fields).isSome then none
  else some ((List.lookup wrapperKey fields).getD (.table fields))

mutual
def unwrap? : Setting → Option Setting
  | .list items => (unwrapItems? items).map .list
  | .table fields => (unwrapFields? fields).bind content?
  | other => some other

def unwrapItems? : List Setting → Option (List Setting)
  | [] => some []
  | item :: items =>
    match unwrap? item, unwrapItems? items with
    | some first, some rest => some (first :: rest)
    | _, _ => none

def unwrapFields? : List (String × Setting) → Option Settings
  | [] => some []
  | (key, setting) :: fields =>
    match unwrap? setting, unwrapFields? fields with
    | some first, some rest => some ((key, first) :: rest)
    | _, _ => none
end

end Graft.Toml
