import Graft.Text.Number
import Graft.Text.Cut

/-! # The smallest parts of patterns

A pattern is a regular expression. Its smallest parts are characters, escapes and the point.
-/

namespace Graft.Pattern

inductive Atom where
  /-- A character. `isByte` says that it was written as the two digits of a byte. -/
  | literal (c : Char) (isByte : Bool)
  /-- Any character of a line. -/
  | point
  /-- The start or the end of a line or of the text. -/
  | edge
  /-- Where a word starts or ends, or where none does. -/
  | boundary
  /-- Digits, white space or the characters of words, or all others. -/
  | shorthand (isNegated : Bool)
  | category
deriving DecidableEq, Repr

/-! ## Space

A pattern can be told to be loose. Then white space in it says nothing, and a hash starts a comment
that goes to the end of the line.
-/

/-- What follows white space and comments. `inComment` says whether a comment has started. -/
def skipFrom (inComment : Bool) : List Char → List Char
  | [] => []
  | c :: rest =>
    if inComment then skipFrom (c != '\n') rest
    else if Text.isWhite c then skipFrom false rest
    else if c == '#' then skipFrom true rest
    else c :: rest

def skip (isLoose : Bool) (cs : List Char) : List Char :=
  if isLoose then skipFrom false cs else cs

/-- The next character that counts. Of a comment only its hash is passed over. -/
def ahead? (isLoose : Bool) (cs : List Char) : Option Char :=
  if isLoose then
    let next := match cs.dropWhile Text.isWhite with
      | '#' :: comment => comment.dropWhile Text.isWhite
      | other => other
    next.head?.or cs.head?
  else cs.head?

/-! ## Escapes -/

/-- The next hexadecimal digits, as many as asked for, and what follows them. -/
def hexDigits? (isLoose : Bool) : Nat → List Char → Option (List Char × List Char)
  | 0, cs => some ([], skip isLoose cs)
  | n + 1, cs =>
    match skip isLoose cs with
    | [] => none
    | digit :: rest =>
      if (Text.hexValue? digit).isSome then
        (hexDigits? isLoose n rest).map fun (digits, after) => (digit :: digits, after)
      else none

def code? (isLoose : Bool) (count : Nat) (isByte : Bool) (cs : List Char) :
    Option (Atom × List Char) :=
  (hexDigits? isLoose count cs).bind fun (digits, after) =>
    (Text.charOf? digits).map fun c => (.literal c isByte, after)

def categories : List Char := ['c', 'l', 'm', 'n', 'p', 's', 'z']

def category? (isLoose : Bool) (cs : List Char) : Option (Atom × List Char) :=
  match skip isLoose cs with
  | c :: rest => if categories.contains c.toLower then some (.category, skip isLoose rest) else none
  | [] => none

/-- The characters that have a letter behind a backslash. -/
def control? : Char → Option Char
  | 'a' => some (Char.ofNat 7)
  | 'f' => some (Char.ofNat 12)
  | 't' => some '\t'
  | 'n' => some '\n'
  | 'r' => some '\r'
  | 'v' => some (Char.ofNat 11)
  | _ => none

/-- Whether a backslash says nothing about a character. -/
def standsForItself (c : Char) : Bool :=
  c.toNat < 0x80 && !c.isAlphanum && c != '<' && c != '>'

/-- What one character behind a backslash stands for. -/
def escapeOf? (c : Char) : Option Atom :=
  match c with
  | 'd' | 's' | 'w' => some (.shorthand false)
  | 'D' | 'S' | 'W' => some (.shorthand true)
  | 'A' | 'z' => some .edge
  | 'b' | 'B' | '<' | '>' => some .boundary
  | _ => if standsForItself c then some (.literal c false) else (control? c).map (.literal · false)

def escape? (isLoose : Bool) : List Char → Option (Atom × List Char)
  | [] => none
  | 'x' :: rest => code? isLoose 2 true rest
  | 'u' :: rest => code? isLoose 4 false rest
  | 'U' :: rest => code? isLoose 8 false rest
  | 'p' :: rest => category? isLoose rest
  | 'P' :: rest => category? isLoose rest
  | c :: rest => (escapeOf? c).map (·, rest)

end Graft.Pattern
