import Graft.Pattern.Atom

/-! # Sets of characters in patterns

A set stands in brackets. It is made of characters, ranges and other sets, and two operands can be
combined to one.
-/

namespace Graft.Pattern

inductive CharSet where
  | atom (atom : Atom)
  | range (low high : Char)
  | named (isNegated : Bool)
  | brackets (isNegated : Bool) (inner : CharSet)
  | union (items : List CharSet)
  /-- What is in both operands, in the first alone, or in one alone. -/
  | operation (left right : CharSet)
deriving Repr, Inhabited

namespace CharSet

/-- The union of items that were read in reverse. -/
def unionOf : List CharSet → CharSet
  | [item] => item
  | items => .union items.reverse

/-- The set of the items behind an operand, if there is one. -/
def joined (left? : Option CharSet) (items : List CharSet) : CharSet :=
  match left? with
  | none => unionOf items
  | some left => .operation left (unionOf items)

/-! ## Members -/

/-- A character or an escape as a member of a set. -/
def single? : Atom → Option CharSet
  | .literal c isByte => some (.atom (.literal c isByte))
  | .shorthand isNegated => some (.atom (.shorthand isNegated))
  | .category => some (.atom .category)
  | _ => none

def range? : Atom → Atom → Option CharSet
  | .literal low _, .literal high _ => if low ≤ high then some (.range low high) else none
  | _, _ => none

def atom? (isLoose : Bool) : List Char → Option (Atom × List Char)
  | [] => none
  | '\\' :: rest => escape? isLoose rest
  | c :: rest => some (.literal c false, rest)

/-- The next member, and what follows it. A hyphen makes a range, unless the set ends behind it or
another hyphen follows. -/
def member? (isLoose : Bool) (cs : List Char) : Option (CharSet × List Char) :=
  match atom? isLoose cs with
  | none => none
  | some (first, rest) =>
    match skip isLoose rest with
    | '-' :: later =>
      let next := ahead? isLoose later
      if next == some ']' || next == some '-' then (single? first).map (·, '-' :: later)
      else match atom? isLoose (skip isLoose later) with
        | none => none
        | some (last, after) => (range? first last).map (·, after)
    | after => (single? first).map (·, after)

def names : List String :=
  ["alnum", "alpha", "ascii", "blank", "cntrl", "digit", "graph", "lower", "print", "punct",
    "space", "upper", "word", "xdigit"]

/-- A name between colons, up to the bracket behind it. -/
def named? (cs : List Char) : Option (CharSet × List Char) :=
  match cs with
  | ':' :: rest =>
    let isNegated := rest.head? == some '^'
    let body := if isNegated then rest.drop 1 else rest
    match body.dropWhile (· != ':') with
    | ':' :: ']' :: after =>
      if names.contains (String.ofList (body.takeWhile (· != ':'))) then
        some (.named isNegated, after)
      else none
    | _ => none
  | _ => none

/-! ## Sets -/

/-- Whether a set has all but its members, and its members. -/
def negation (isLoose : Bool) (cs : List Char) : Bool × List Char :=
  match skip isLoose cs with
  | '^' :: rest => (true, rest)
  | other => (false, other)

/-- Reads a set up to the bracket that closes it. At the start of a set hyphens are characters, and
so is a closing bracket that comes first of all. -/
def readFor (isLoose : Bool) :
    Nat → Bool → Option CharSet → List CharSet → List Char → Option (CharSet × List Char)
  | 0, _, _, _, _ => none
  | fuel + 1, atStart, left?, items, cs =>
    match skip isLoose cs with
    | [] => none
    | ']' :: rest =>
      if atStart && items.isEmpty then
        readFor isLoose fuel false left? [.atom (.literal ']' false)] rest
      else some (joined left? items, rest)
    | '[' :: rest =>
      match named? rest with
      | some (set, after) => readFor isLoose fuel false left? (set :: items) after
      | none =>
        let (isNegated, inside) := negation isLoose rest
        match readFor isLoose fuel true none [] inside with
        | none => none
        | some (inner, after) =>
          readFor isLoose fuel false left? (.brackets isNegated inner :: items) after
    | '&' :: '&' :: rest => readFor isLoose fuel false (some (joined left? items)) [] rest
    | '~' :: '~' :: rest => readFor isLoose fuel false (some (joined left? items)) [] rest
    | '-' :: rest =>
      if atStart then readFor isLoose fuel true left? (.atom (.literal '-' false) :: items) rest
      else if rest.head? == some '-' then
        readFor isLoose fuel false (some (joined left? items)) [] (rest.drop 1)
      else match member? isLoose ('-' :: rest) with
        | none => none
        | some (member, after) => readFor isLoose fuel false left? (member :: items) after
    | c :: rest =>
      match member? isLoose (c :: rest) with
      | none => none
      | some (member, after) => readFor isLoose fuel false left? (member :: items) after

/-- Reads a set behind the bracket that opens it. -/
def read? (isLoose : Bool) (cs : List Char) : Option (CharSet × List Char) :=
  let (isNegated, inside) := negation isLoose cs
  (readFor isLoose (cs.length + 1) true none [] inside).map fun (inner, after) =>
    (.brackets isNegated inner, after)

end CharSet

end Graft.Pattern
