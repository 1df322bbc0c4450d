import Graft.Text.Number

/-! # Dates and times of a TOML file

Nothing is done with a moment, but one that cannot be is an error of the file.
-/

namespace Graft.Toml

/-- Two digits that spell a number from `low` to `high`, and what follows them. -/
def pair? (low high : Nat) : List Char → Option (Nat × List Char)
  | a :: b :: rest =>
    match Text.digits? [a, b] with
    | some n => if low ≤ n ∧ n ≤ high then some (n, rest) else none
    | none => none
  | _ => none

def after? (c : Char) : List Char → Option (List Char)
  | [] => none
  | d :: rest => if c == d then some rest else none

def isLeap (year : Nat) : Bool :=
  year % 4 == 0 && (year % 100 != 0 || year % 400 == 0)

def daysIn (year month : Nat) : Nat :=
  match month with
  | 2 => if isLeap year then 29 else 28
  | 4 | 6 | 9 | 11 => 30
  | _ => 31

def date? (cs : List Char) : Option (List Char) := do
  let year ← if 4 ≤ cs.length then Text.digits? (cs.take 4) else none
  let (month, afterMonth) ← pair? 1 12 (← after? '-' (cs.drop 4))
  let (_, rest) ← pair? 1 (daysIn year month) (← after? '-' afterMonth)
  return rest

def fraction? : List Char → Option (List Char)
  | '.' :: cs => if cs.head?.any Char.isDigit then some (cs.dropWhile Char.isDigit) else none
  | cs => some cs

/-- What follows a time of day. A minute may have a leap second. -/
def time? (cs : List Char) : Option (List Char) := do
  let (_, afterHour) ← pair? 0 23 cs
  let (_, afterMinute) ← pair? 0 59 (← after? ':' afterHour)
  let (_, rest) ← pair? 0 60 (← after? ':' afterMinute)
  fraction? rest

/-- Whether a text is the offset of a time zone, or empty. -/
def isOffset : List Char → Bool
  | [] => true
  | ['Z'] => true
  | ['z'] => true
  | sign :: cs =>
    (sign == '+' || sign == '-') &&
      match pair? 0 23 cs with
      | some (_, ':' :: minutes) => (pair? 0 59 minutes).any (·.2.isEmpty)
      | _ => false

/-- Whether a text is a time of day, with or without the offset of its zone. -/
def isZonedTime (cs : List Char) : Bool :=
  (time? cs).any isOffset

def isDate (cs : List Char) : Bool :=
  (date? cs).any List.isEmpty

/-- Whether a text without spaces is a date, a time, or both. -/
def isMoment (cs : List Char) : Bool :=
  match date? cs with
  | some [] => true
  | some (mark :: rest) => (mark == 'T' || mark == 't') && isZonedTime rest
  | none => (time? cs).any List.isEmpty

/-- Whether a string spells a moment. A space may part the date from the time. -/
def spellsMoment (s : String) : Bool :=
  match date? s.toList with
  | some (' ' :: rest) => isZonedTime rest
  | _ => isMoment s.toList

end Graft.Toml
