import Graft.Toml.Scalar
import Graft.Toml.Table

/-! # Values of a TOML file -/

namespace Graft.Toml

/-- Keys, arrays and tables can be nested less deep than this. -/
def depthLimit : Nat := 80

/-! ## Keys -/

def isKeyChar (c : Char) : Bool :=
  c.isAlphanum || c == '_' || c == '-'

def keyPart? : List Char → Option (String × List Char)
  | '"' :: rest => quoted? rest
  | '\x27' :: rest => literal? rest
  | cs =>
    let name := cs.takeWhile isKeyChar
    if name.isEmpty then none else some (String.ofList name, cs.dropWhile isKeyChar)

/-- The parts of a key, at most `limit` of them. -/
def keyParts? : Nat → List Char → Option (List String × List Char)
  | 0, _ => none
  | limit + 1, cs => do
    let (part, after) ← keyPart? (skipBlanks cs)
    match skipBlanks after with
    | '.' :: rest =>
      let (parts, last) ← keyParts? limit rest
      return (part :: parts, last)
    | rest => return ([part], rest)

def key? (cs : List Char) : Option (List String × String × List Char) := do
  let (parts, rest) ← keyParts? (depthLimit - 1) cs
  return (parts.dropLast, ← parts.getLast?, rest)

/-! ## Arrays and tables -/

mutual
/-- A value, and what follows it. Every step takes one from `fuel`, every nesting one from
`depth`. -/
def valueFor : Nat → Nat → List Char → Option (Setting × List Char)
  | 0, _, _ => none
  | fuel + 1, depth, cs =>
    match cs, depth with
    | '[' :: rest, below + 1 => (itemsFor fuel below rest).map fun (items, last) =>
      (.list items, last)
    | '\x7b' :: rest, below + 1 =>
      match skipBlanks rest with
      | '\x7d' :: last => some (.table [], last)
      | start => (pairsFor fuel below [] start).map fun (entries, last) =>
        (.table (entriesSettings entries), last)
    | _, _ => scalar? cs

/-- The items of an array that are left. A comma may stand behind the last one. -/
def itemsFor : Nat → Nat → List Char → Option (List Setting × List Char)
  | 0, _, _ => none
  | fuel + 1, depth, cs =>
    match skipSpace cs with
    | ']' :: last => some ([], last)
    | start => do
      let (item, after) ← valueFor fuel depth start
      match skipSpace after with
      | ']' :: last => return ([item], last)
      | ',' :: rest =>
        let (items, last) ← itemsFor fuel depth rest
        return (item :: items, last)
      | _ => none

/-- The pairs of a table on one line that are left, added to those before them. -/
def pairsFor : Nat → Nat → Entries → List Char → Option (Entries × List Char)
  | 0, _, _, _ => none
  | fuel + 1, depth, entries, cs => do
    let (path, key, afterKey) ← key? cs
    match afterKey with
    | '=' :: rest =>
      let (setting, after) ← valueFor fuel depth (skipBlanks rest)
      let more ← Entries.assign? entries path key setting
      match skipBlanks after with
      | '\x7d' :: last => return (more, last)
      | ',' :: next => pairsFor fuel depth more next
      | _ => none
    | _ => none
end

/-- A value, and what follows it. No value takes more than two steps for each of its
characters. -/
def value? (cs : List Char) : Option (Setting × List Char) :=
  valueFor (2 * cs.length + 2) (depthLimit - 1) cs

end Graft.Toml
