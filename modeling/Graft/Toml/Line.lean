import Graft.Text.Cut

/-! # Lines of a TOML file

Readers take the characters that are left, and return those that are left after them.
-/

namespace Graft.Toml

/-- Whether a character may stand in a comment or a string as it is. -/
def isPlain (c : Char) : Bool :=
  c == '\t' || (0x20 ≤ c.toNat && c.toNat != 0x7F)

def skipBlanks (cs : List Char) : List Char :=
  cs.dropWhile Text.isBlank

def newline? : List Char → Option (List Char)
  | '\n' :: rest => some rest
  | '\r' :: '\n' :: rest => some rest
  | _ => none

def skipComment : List Char → List Char
  | '#' :: rest => rest.dropWhile isPlain
  | cs => cs

/-- What follows the end of a line on which nothing more is said. -/
def lineEnd? (cs : List Char) : Option (List Char) :=
  match skipComment (skipBlanks cs) with
  | [] => some []
  | rest => newline? rest

/-! ## Across lines -/

/-- Passes over blanks, comments and line breaks. A comment has to end in a line break. -/
def skipSpaceFor : Nat → List Char → List Char
  | 0, cs => cs
  | fuel + 1, cs =>
    let start := skipBlanks cs
    match newline? (skipComment start) with
    | some rest => skipSpaceFor fuel rest
    | none => start

/-- `skipSpaceFor` as many lines as there can be. -/
def skipSpace (cs : List Char) : List Char :=
  skipSpaceFor (cs.length + 1) cs

end Graft.Toml
