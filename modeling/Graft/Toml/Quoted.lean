import Graft.Text.Number
import Graft.Toml.Line

/-! # Strings of a TOML file

A string is read in two steps. First its end is found, then what is escaped in it is resolved.
-/

namespace Graft.Toml

/-! ## Escapes -/

def escape? : Char → Option Char
  | 'b' => some (Char.ofNat 8)
  | 't' => some '\t'
  | 'n' => some '\n'
  | 'f' => some (Char.ofNat 12)
  | 'r' => some '\r'
  | '"' => some '"'
  | '\\' => some '\\'
  | _ => none

/-- Resolves escapes. All other characters have to be allowed. -/
def unescape? (allowed : Char → Bool) : List Char → Option (List Char)
  | [] => some []
  | '\\' :: 'u' :: a :: b :: c :: d :: rest => do
    return (← Text.charOf? [a, b, c, d]) :: (← unescape? allowed rest)
  | '\\' :: 'U' :: a :: b :: c :: d :: e :: f :: g :: h :: rest => do
    return (← Text.charOf? [a, b, c, d, e, f, g, h]) :: (← unescape? allowed rest)
  | '\\' :: e :: rest => do
    return (← escape? e) :: (← unescape? allowed rest)
  | c :: rest => do
    if c != '\\' && allowed c then return c :: (← unescape? allowed rest) else none

/-! ## Where strings end -/

/-- The characters before the next quote and those after it. A backslash guards the character
behind it. -/
def untilQuote? : List Char → Option (List Char × List Char)
  | [] => none
  | '"' :: rest => some ([], rest)
  | '\\' :: c :: rest => (untilQuote? rest).map fun (cs, after) => ('\\' :: c :: cs, after)
  | c :: rest => (untilQuote? rest).map fun (cs, after) => (c :: cs, after)

/-- The most quotes that a run at the end of a long string can have. The last three end it. -/
def maxRun : Nat := 5

/-- The characters before the three quotes that end a long string, and those after them. -/
def untilRun? (quote : Char) (guards : Bool) : List Char → Option (List Char × List Char)
  | [] => none
  | [_] => none
  | c :: d :: rest =>
    if c == quote then
      let run := min maxRun ((c :: d :: rest).takeWhile (· == quote)).length
      if 3 ≤ run then some (List.replicate (run - 3) quote, (c :: d :: rest).drop run)
      else (untilRun? quote guards (d :: rest)).map fun (cs, after) => (c :: cs, after)
    else if guards && c == '\\' then
      (untilRun? quote guards rest).map fun (cs, after) => (c :: d :: cs, after)
    else (untilRun? quote guards (d :: rest)).map fun (cs, after) => (c :: cs, after)

/-! ## Long strings -/

/-- What a long string may hold beside its escapes. -/
def isPlainOrNewline (c : Char) : Bool :=
  isPlain c || c == '\n'

/-- Writes every line break as a single character. -/
def plainNewlines : List Char → List Char
  | [] => []
  | '\r' :: '\n' :: rest => '\n' :: plainNewlines rest
  | c :: rest => c :: plainNewlines rest

/-- Takes out every backslash that ends a line, with all blanks and line breaks behind it.
`skipping` says whether such blanks are being passed over. -/
def joinLines (skipping : Bool) : List Char → List Char
  | [] => []
  | '\\' :: '\\' :: rest => '\\' :: '\\' :: joinLines false rest
  | c :: rest =>
    if skipping && (Text.isBlank c || c == '\n') then joinLines true rest
    else if c == '\\' && (newline? (skipBlanks rest)).isSome then joinLines true rest
    else c :: joinLines false rest

/-- What follows the opening of a long string: a line break right behind it does not count. -/
def afterOpening (cs : List Char) : List Char :=
  (newline? cs).getD cs

/-! ## Strings -/

/-- A string between quotes, after the first of them. -/
def quoted? (cs : List Char) : Option (String × List Char) := do
  let (raw, rest) ← untilQuote? cs
  return (String.ofList (← unescape? isPlain raw), rest)

/-- A string between apostrophes, after the first of them. Nothing is escaped. -/
def literal? (cs : List Char) : Option (String × List Char) :=
  let raw := cs.takeWhile (· != '\x27')
  match cs.dropWhile (· != '\x27') with
  | [] => none
  | _ :: rest => if raw.all isPlain then some (String.ofList raw, rest) else none

/-- A string between three quotes, after the first three. -/
def longQuoted? (cs : List Char) : Option (String × List Char) := do
  let (raw, rest) ← untilRun? '"' true (afterOpening cs)
  let joined := joinLines false (plainNewlines raw)
  return (String.ofList (← unescape? isPlainOrNewline joined), rest)

/-- A string between three apostrophes, after the first three. -/
def longLiteral? (cs : List Char) : Option (String × List Char) := do
  let (raw, rest) ← untilRun? '\x27' false (afterOpening cs)
  let text := plainNewlines raw
  if text.all isPlainOrNewline then return (String.ofList text, rest) else none

def string? : List Char → Option (String × List Char)
  | '"' :: '"' :: '"' :: rest => longQuoted? rest
  | '"' :: rest => quoted? rest
  | '\x27' :: '\x27' :: '\x27' :: rest => longLiteral? rest
  | '\x27' :: rest => literal? rest
  | _ => none

end Graft.Toml
