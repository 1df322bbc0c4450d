import Graft.Pattern.CharSet
import Graft.Text.Ranges

/-! # Patterns as trees

A pattern stands between the braces of a log filter, so it holds no closing brace. All that would
need one is malformed.
-/

namespace Graft.Pattern

/-! ## Groups -/

/-- Flags by letter, with whether they are turned on or off. -/
abbrev Flags := List (Char × Bool)

inductive Opening where
  /-- Flags for the rest of the group around them. -/
  | flags (flags : Flags)
  | group (name : Option String) (flags : Flags)
deriving Repr

def flagLetters : List Char := ['i', 'm', 's', 'U', 'u', 'R', 'x']

/-- Reads flags. A hyphen turns those behind it off. No flag is given twice. -/
def flags? (cs : List Char) : Option Flags :=
  let letters := cs.filter (· != '-')
  if letters.all flagLetters.contains && letters.eraseDups.length == letters.length &&
      cs.length ≤ letters.length + 1 && cs.getLast? != some '-' then
    let off := (cs.dropWhile (· != '-')).drop 1
    some ((cs.takeWhile (· != '-')).map (·, true) ++ off.map (·, false))
  else none

def isGroupName : List Char → Bool
  | [] => false
  | c :: rest =>
    (c == '_' || Text.isAlphabetic c) &&
      rest.all fun d => d == '_' || d == '.' || d == '[' || d == ']' || Text.isAlphanumeric d

/-- Reads the name of a group, up to the angle behind it. -/
def named? (cs : List Char) : Option (Opening × List Char) :=
  let name := cs.takeWhile (· != '>')
  match cs.drop name.length with
  | [] => none
  | _ :: inside =>
    if isGroupName name then some (.group (some (String.ofList name)) [], inside) else none

/-- Reads what stands between the parenthesis of a group and its expression. -/
def opening? (isLoose : Bool) (cs : List Char) : Option (Opening × List Char) :=
  match skip isLoose cs with
  | '?' :: 'P' :: '<' :: rest => named? rest
  | '?' :: '<' :: rest => named? rest
  | '?' :: rest =>
    let letters := rest.takeWhile fun c => c != ':' && c != ')'
    match flags? letters, rest.drop letters.length with
    | some flags, ':' :: inside => some (.group none flags, inside)
    | some flags, ')' :: after => if flags.isEmpty then none else some (.flags flags, after)
    | _, _ => none
  | inside => some (.group none [], inside)

/-! ## Trees -/

inductive Expr where
  /-- One character out of a set, or a place in the text. -/
  | leaf (set : CharSet)
  | flags (flags : Flags)
  | repetition (inner : Expr)
  | group (name : Option String) (flags : Flags) (inner : Expr)
  | sequence (parts : List Expr)
  | choice (branches : List Expr)
deriving Repr, Inhabited

namespace Expr

def isRepeatable : Expr → Bool
  | .flags _ => false
  | _ => true

/-- Parts that were read in reverse, one behind the other. -/
def sequenceOf : List Expr → Expr
  | [part] => part
  | parts => .sequence parts.reverse

/-- The last branch after those before it, which were read in reverse. -/
def choiceOf (branches : List Expr) (parts : List Expr) : Expr :=
  match branches with
  | [] => sequenceOf parts
  | _ => .choice (sequenceOf parts :: branches).reverse

/-- What one character that no escape stands before is read as. -/
def plain : Char → Atom
  | '.' => .point
  | '^' => .edge
  | '$' => .edge
  | c => .literal c false

def isRepetition (c : Char) : Bool :=
  c == '*' || c == '+' || c == '?'

/-- What follows the mark that makes a repetition take as little as it can. -/
def afterLazy : List Char → List Char
  | '?' :: rest => rest
  | rest => rest

/-- Reads an expression up to the end of its group. Flags hold to that end. -/
def readFor : Nat → Bool → List Expr → List Expr → List Char → Option (Expr × List Char)
  | 0, _, _, _, _ => none
  | fuel + 1, isLoose, branches, parts, cs =>
    match skip isLoose cs with
    | [] => some (choiceOf branches parts, [])
    | ')' :: rest => some (choiceOf branches parts, ')' :: rest)
    | '|' :: rest => readFor fuel isLoose (sequenceOf parts :: branches) [] rest
    | '\x7b' :: _ => none
    | '(' :: rest =>
      match opening? isLoose rest with
      | none => none
      | some (.flags given, after) =>
        let loose := (List.lookup 'x' given).getD isLoose
        readFor fuel loose branches (.flags given :: parts) after
      | some (.group name given, inside) =>
        let loose := (List.lookup 'x' given).getD isLoose
        match readFor fuel loose [] [] inside with
        | some (inner, ')' :: after) =>
          readFor fuel isLoose branches (.group name given inner :: parts) after
        | _ => none
    | '[' :: rest =>
      match CharSet.read? isLoose rest with
      | none => none
      | some (set, after) => readFor fuel isLoose branches (.leaf set :: parts) after
    | '\\' :: rest =>
      match escape? isLoose rest with
      | none => none
      | some (atom, after) => readFor fuel isLoose branches (.leaf (.atom atom) :: parts) after
    | c :: rest =>
      if isRepetition c then
        match parts with
        | [] => none
        | part :: before =>
          if part.isRepeatable then
            readFor fuel isLoose branches (.repetition part :: before) (afterLazy rest)
          else none
      else readFor fuel isLoose branches (.leaf (.atom (plain c)) :: parts) rest

def read? (cs : List Char) : Option Expr :=
  match readFor (cs.length + 1) false [] [] cs with
  | some (expr, []) => some expr
  | _ => none

end Expr

end Graft.Pattern
