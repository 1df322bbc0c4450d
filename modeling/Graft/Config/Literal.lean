import Graft.Config.Setting
import Graft.Text.Slice
import Graft.Text.Cut
import Graft.Toml.Quoted

/-! # Literals

A literal is a value written on one line outside a file: a word, a quoted string, a character,
items in brackets or pairs in braces. A text that is no literal stands for itself.
-/

namespace Graft.Literal

/-! ## Words -/

def isSeparator (c : Char) : Bool :=
  c == ',' || c == '[' || c == ']' || c == '\x7b' || c == '\x7d'

/-- A word that has a point in it and is a number. -/
def decimal? (cs : List Char) : Option Setting :=
  if cs.contains '.' then (Text.Decimal.read? (Text.unsigned cs)).map Setting.ofDecimal else none

def integer? (cs : List Char) : Option Setting :=
  match cs with
  | '-' :: digits =>
    (Text.digits? digits).bind fun n =>
      if n ≤ Nat.pow 2 63 then some (.ofInt (-Int.ofNat n)) else none
  | _ => (Text.count? (String.ofList cs)).map .count

/-- The setting of a word. Truth values are read in any case. -/
def word (cs : List Char) : Setting :=
  match (String.ofList cs).toLower with
  | "true" => .bool true
  | "false" => .bool false
  | _ => ((decimal? cs).or (integer? cs)).getD (.text (String.ofList cs))

/-! ## Literals -/

def isSpace (c : Char) : Bool :=
  c == ' ' || c == '\t' || c == '\n' || c == '\r' || c.toNat == 12

def skipSpace (cs : List Char) : List Char :=
  cs.dropWhile isSpace

def isKeyChar (c : Char) : Bool :=
  c.isAlphanum || c == '_' || c == '-'

/-- What is kept of the characters before the first escape of a string: as many bytes as there are
characters. -/
def kept? (cs : List Char) : Option (List Char) :=
  (Text.slice? (String.ofList cs) 0 cs.length).map String.toList

/-- The characters of a string. Only a string without escapes is always kept whole. -/
def resolve? (raw : List Char) : Option (List Char) :=
  let start := raw.takeWhile (· != '\\')
  match raw.drop start.length with
  | [] => Toml.unescape? Toml.isPlain start
  | escaped =>
    match Toml.unescape? Toml.isPlain raw, kept? start, Toml.unescape? Toml.isPlain escaped with
    | some _, some first, some rest => some (first ++ rest)
    | _, _, _ => none

/-- A string between quotes, after the first of them. -/
def quoted? (cs : List Char) : Option (String × List Char) := do
  let (raw, rest) ← Toml.untilQuote? cs
  return (String.ofList (← resolve? raw), rest)

def key? : List Char → Option (String × List Char)
  | '"' :: rest => quoted? rest
  | cs =>
    let name := cs.takeWhile isKeyChar
    if name.isEmpty then none else some (String.ofList name, cs.dropWhile isKeyChar)

mutual
/-- A literal with the white space around it, and what follows. A truth value ends where its last
letter does, whatever comes behind it. Every step takes one from `fuel`. -/
def valueFor : Nat → List Char → Option (Setting × List Char)
  | 0, _ => none
  | fuel + 1, cs => do
    let (setting, rest) ← match skipSpace cs with
      | '[' :: start => (itemsFor fuel start).map fun (items, rest) => (Setting.list items, rest)
      | '\x7b' :: start => (pairsFor fuel [] start).map fun (fields, rest) => (.table fields, rest)
      | '"' :: start => (quoted? start).map fun (s, rest) => (.text s, rest)
      | 't' :: 'r' :: 'u' :: 'e' :: rest => some (.bool true, rest)
      | 'f' :: 'a' :: 'l' :: 's' :: 'e' :: rest => some (.bool false, rest)
      | '\x27' :: c :: '\x27' :: rest => some (.text (String.ofList [c]), rest)
      | '\x27' :: _ => none
      | start =>
        some (word (Text.trim (start.takeWhile (!isSeparator ·))),
          start.dropWhile (!isSeparator ·))
    return (setting, skipSpace rest)

/-- The items that are left before a closing bracket. -/
def itemsFor : Nat → List Char → Option (List Setting × List Char)
  | 0, _ => none
  | _ + 1, ']' :: rest => some ([], rest)
  | fuel + 1, cs => do
    let (item, after) ← valueFor fuel cs
    match after with
    | ',' :: next =>
      let (items, rest) ← itemsFor fuel next
      return (item :: items, rest)
    | ']' :: rest => return ([item], rest)
    | _ => none

/-- The pairs that are left before a closing brace, added to those before them. -/
def pairsFor : Nat → Settings → List Char → Option (Settings × List Char)
  | 0, _, _ => none
  | _ + 1, fields, '\x7d' :: rest => some (fields, rest)
  | fuel + 1, fields, cs => do
    let (key, afterKey) ← key? (skipSpace cs)
    match skipSpace afterKey with
    | '=' :: start =>
      let (setting, after) ← valueFor fuel start
      match after with
      | ',' :: next => pairsFor fuel (Settings.put fields key setting) next
      | '\x7d' :: rest => return (Settings.put fields key setting, rest)
      | _ => none
    | _ => none
end

/-- The setting that a text stands for. No literal takes more than two steps for each of its
characters. -/
def read (s : String) : Setting :=
  match valueFor (2 * s.length + 2) s.toList with
  | some (setting, []) => setting
  | _ => .text s

end Graft.Literal
