import Graft.Config.Setting
import Graft.Toml.Moment
import Graft.Toml.Quoted

/-! # Values of a TOML file that are single words -/

namespace Graft.Toml

/-! ## Integers -/

/-- Digits, with single underscores between them. -/
def groupedDigits (isDigit : Char → Bool) : List Char → Bool
  | [] => false
  | [c] => isDigit c
  | c :: '_' :: rest => isDigit c && groupedDigits isDigit rest
  | c :: rest => isDigit c && groupedDigits isDigit rest

def ungrouped (cs : List Char) : List Char :=
  cs.filter (· != '_')

/-- Whether digits have no zero in front that says nothing. -/
def isPlainWhole (cs : List Char) : Bool :=
  groupedDigits Char.isDigit cs && (cs.head? != some '0' || cs.length == 1)

/-- The least number that is too large for an integer. -/
def integerBound : Nat := Nat.pow 2 63

def integer? (cs : List Char) : Option Setting :=
  let digits := Text.unsigned cs
  if isPlainWhole digits then
    match Text.digits? (ungrouped digits) with
    | none => none
    | some n =>
      if Text.isNegative cs then
        if n ≤ integerBound then some (.ofInt (-Int.ofNat n)) else none
      else if n < integerBound then some (.count n) else none
  else none

def radixInteger? (base : Nat) (digits : List Char) : Option Setting :=
  if groupedDigits (fun c => (Text.hexValue? c).any (· < base)) digits then
    match Text.radix? base (ungrouped digits) with
    | none => none
    | some n => if n < integerBound then some (.count n) else none
  else none

/-! ## Fractions -/

/-- Whether a text is a power of ten, or empty. -/
def isPower : List Char → Bool
  | [] => true
  | mark :: cs => Text.Decimal.isExponentMark mark && groupedDigits Char.isDigit (Text.unsigned cs)

/-- Whether a text is a point with digits behind it, or empty. -/
def isFraction : List Char → Bool
  | [] => true
  | point :: cs => point == '.' && groupedDigits Char.isDigit cs

/-- A number with a fraction, a power of ten or both. One that is too large is refused. -/
def float? (cs : List Char) : Option Setting :=
  let body := Text.unsigned cs
  let mantissa := body.takeWhile (!Text.Decimal.isExponentMark ·)
  let power := body.dropWhile (!Text.Decimal.isExponentMark ·)
  let whole := mantissa.takeWhile (· != '.')
  let fraction := mantissa.dropWhile (· != '.')
  if isPlainWhole whole && isFraction fraction && isPower power &&
      !(fraction.isEmpty && power.isEmpty) then
    match Text.Decimal.read? (ungrouped body) with
    | none => none
    | some d => if d.overflows then none else some .number
  else none

def isNumberWord (cs : List Char) : Bool :=
  Text.unsigned cs == ['i', 'n', 'f'] || Text.unsigned cs == ['n', 'a', 'n']

/-! ## Words -/

/-- The key of a moment in the table that stands for it. -/
def momentKey : String := "$__toml_private_datetime"

/-- A moment as a setting: a table with its text. -/
def momentSetting (cs : List Char) : Setting :=
  .table [(momentKey, .text (String.ofList cs))]

def word? (cs : List Char) : Option Setting :=
  match cs with
  | ['t', 'r', 'u', 'e'] => some (.bool true)
  | ['f', 'a', 'l', 's', 'e'] => some (.bool false)
  | '0' :: 'x' :: digits => radixInteger? 16 digits
  | '0' :: 'o' :: digits => radixInteger? 8 digits
  | '0' :: 'b' :: digits => radixInteger? 2 digits
  | _ =>
    if isNumberWord cs then some .null
    else if isMoment cs then some (momentSetting cs)
    else (integer? cs).or (float? cs)

def endsWord (c : Char) : Bool :=
  Text.isBlank c || c == '\n' || c == '\r' || c == '#' || c == ',' || c == ']' || c == '\x7d'

/-- The word ahead, and what follows it. A time may stand one space behind its date. -/
def wordAhead (cs : List Char) : List Char × List Char :=
  let word := cs.takeWhile (!endsWord ·)
  let rest := cs.dropWhile (!endsWord ·)
  match rest with
  | ' ' :: later =>
    let next := later.takeWhile (!endsWord ·)
    if isDate word && !next.isEmpty then (word ++ 'T' :: next, later.dropWhile (!endsWord ·))
    else (word, rest)
  | _ => (word, rest)

def scalar? (cs : List Char) : Option (Setting × List Char) :=
  match cs with
  | '"' :: _ => (string? cs).map fun (s, rest) => (.text s, rest)
  | '\x27' :: _ => (string? cs).map fun (s, rest) => (.text s, rest)
  | _ => (word? (wordAhead cs).1).map (·, (wordAhead cs).2)

end Graft.Toml
