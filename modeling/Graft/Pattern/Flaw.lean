import Graft.Pattern.Expr

/-! # Flaws of patterns

A pattern is made for a machine that reads the bytes of a text one by one. So it must not match a
part of a character, and it cannot ask for the words of all languages.
-/

namespace Graft.Pattern

inductive Flaw where
  /-- The pattern is not well formed. -/
  | malformed
  /-- The pattern asks where words of all languages start or end. -/
  | boundary
deriving DecidableEq, Repr

def Flaw.message : Flaw → String
  | .malformed => "error building NFA"
  | .boundary =>
    "unsupported regex feature for DFAs: cannot build DFAs for regexes with Unicode word " ++
      "boundaries; switch to ASCII word boundaries, or heuristically enable Unicode word " ++
      "boundaries or use a different regex engine"

/-! ## Height -/

namespace CharSet

mutual
/-- How deep brackets, unions and operations are nested. -/
def height : CharSet → Nat
  | .atom _ => 0
  | .range _ _ => 0
  | .named _ => 0
  | .brackets _ inner => inner.height + 1
  | .union [] => 0
  | .union (item :: items) => max item.height (heightAll items) + 1
  | .operation left right => max left.height right.height + 1

def heightAll : List CharSet → Nat
  | [] => 0
  | item :: items => max item.height (heightAll items)
end

end CharSet

namespace Expr

mutual
/-- How deep groups, repetitions, sequences and choices are nested, with the sets in them. -/
def height : Expr → Nat
  | .leaf set => set.height
  | .flags _ => 0
  | .repetition inner => inner.height + 1
  | .group _ _ inner => inner.height + 1
  | .sequence [] => 0
  | .sequence (part :: parts) => max part.height (heightAll parts) + 1
  | .choice branches => heightAll branches + 1

def heightAll : List Expr → Nat
  | [] => 0
  | part :: parts => max part.height (heightAll parts)
end

end Expr

def maxHeight : Nat := 250

/-! ## Names -/

namespace Expr

mutual
def names : Expr → List String
  | .leaf _ => []
  | .flags _ => []
  | .repetition inner => inner.names
  | .group name _ inner => name.toList ++ inner.names
  | .sequence parts => namesAll parts
  | .choice branches => namesAll branches

def namesAll : List Expr → List String
  | [] => []
  | part :: parts => part.names ++ namesAll parts
end

end Expr

/-! ## Leaves -/

/-- The flag that makes a pattern about characters of all languages. Without it a pattern is about
bytes. -/
def unicodeFlag : Char := 'u'

/-- A leaf of a pattern, and whether it is about characters of all languages. -/
structure Leaf where
  isUnicode : Bool
  set : CharSet

namespace Expr

mutual
/-- The leaves from left to right, and whether what follows is about characters of all languages.
A group gives the flag back as it was. -/
def leaves (isUnicode : Bool) : Expr → List Leaf × Bool
  | .leaf set => ([⟨isUnicode, set⟩], isUnicode)
  | .flags given => ([], (List.lookup unicodeFlag given).getD isUnicode)
  | .repetition inner => leaves isUnicode inner
  | .group _ given inner =>
    ((leaves ((List.lookup unicodeFlag given).getD isUnicode) inner).1, isUnicode)
  | .sequence parts => leavesAll isUnicode parts
  | .choice branches => leavesAll isUnicode branches

def leavesAll (isUnicode : Bool) : List Expr → List Leaf × Bool
  | [] => ([], isUnicode)
  | part :: parts =>
    let (first, next) := leaves isUnicode part
    let (rest, last) := leavesAll next parts
    (first ++ rest, last)
end

end Expr

def isAsciiChar (c : Char) : Bool :=
  c.toNat < 0x80

/-- Whether an atom in brackets stands for characters of ASCII only. -/
def Atom.isAscii : Atom → Bool
  | .literal c _ => isAsciiChar c
  | .shorthand isNegated => !isNegated
  | _ => false

namespace CharSet

mutual
/-- Whether a set is made of characters of ASCII only. A negated one never is. -/
def isAscii : CharSet → Bool
  | .atom a => a.isAscii
  | .range low high => isAsciiChar low && isAsciiChar high
  | .named isNegated => !isNegated
  | .brackets isNegated inner => !isNegated && inner.isAscii
  | .union items => isAsciiAll items
  | .operation left right => left.isAscii && right.isAscii

def isAsciiAll : List CharSet → Bool
  | [] => true
  | item :: items => item.isAscii && isAsciiAll items
end

end CharSet

namespace Leaf

/-- Whether a leaf matches whole characters. A character that stands alone is one, and a place in
the text takes none, but a byte above ASCII is only a part. -/
def isWhole (leaf : Leaf) : Bool :=
  leaf.isUnicode ||
    match leaf.set with
    | .atom (.literal c isByte) => !isByte || isAsciiChar c
    | .atom .edge => true
    | .atom .boundary => true
    | set => set.isAscii

/-- Whether a leaf asks where words of all languages start or end. -/
def isBoundary (leaf : Leaf) : Bool :=
  match leaf.set with
  | .atom .boundary => leaf.isUnicode
  | _ => false

end Leaf

/-! ## Flaws -/

/-- Whether a tree is one of a well-formed pattern. -/
def Expr.isSound (expr : Expr) : Bool :=
  expr.height ≤ maxHeight && expr.names.eraseDups.length == expr.names.length &&
    (expr.leaves true).1.all Leaf.isWhole

def flaw? (cs : List Char) : Option Flaw :=
  match Expr.read? cs with
  | none => some .malformed
  | some expr =>
    if !expr.isSound then some .malformed
    else if (expr.leaves true).1.any Leaf.isBoundary then some .boundary
    else none

end Graft.Pattern
