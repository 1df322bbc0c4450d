import Graft.Text.Quoted

/-! # JSON output -/

namespace Graft

inductive Json where
  | null
  | bool (b : Bool)
  | number (n : Nat)
  | text (s : String)
  | array (items : List Json)
  | object (fields : List (String × Json))

namespace Json

/-! ## On one line -/

mutual
def compact : Json → String
  | .null => "null"
  | .bool true => "true"
  | .bool false => "false"
  | .number n => toString n
  | .text s => Text.dataQuoted s
  | .array items => "[" ++ ",".intercalate (compactAll items) ++ "]"
  | .object fields => "\x7b" ++ ",".intercalate (compactFields fields) ++ "\x7d"

def compactAll : List Json → List String
  | [] => []
  | item :: rest => compact item :: compactAll rest

def compactFields : List (String × Json) → List String
  | [] => []
  | (key, value) :: rest => (Text.dataQuoted key ++ ":" ++ compact value) :: compactFields rest
end

/-! ## On many lines -/

/-- A line break and the indentation of a depth. -/
def lineAt (depth : Nat) : String :=
  String.ofList ('\n' :: List.replicate (2 * depth) ' ')

/-- Items between brackets, each on a line of its own. -/
def bracketed (depth : Nat) (opening closing : String) : List String → String
  | [] => opening ++ closing
  | items =>
    opening ++ lineAt (depth + 1) ++ ("," ++ lineAt (depth + 1)).intercalate items ++
      lineAt depth ++ closing

mutual
def prettyAt (depth : Nat) : Json → String
  | .null => "null"
  | .bool true => "true"
  | .bool false => "false"
  | .number n => toString n
  | .text s => Text.dataQuoted s
  | .array items => bracketed depth "[" "]" (prettyAll (depth + 1) items)
  | .object fields => bracketed depth "\x7b" "\x7d" (prettyFields (depth + 1) fields)

def prettyAll (depth : Nat) : List Json → List String
  | [] => []
  | item :: rest => prettyAt depth item :: prettyAll depth rest

def prettyFields (depth : Nat) : List (String × Json) → List String
  | [] => []
  | (key, value) :: rest =>
    (Text.dataQuoted key ++ ": " ++ prettyAt depth value) :: prettyFields depth rest
end

def pretty (value : Json) : String :=
  prettyAt 0 value

end Json

end Graft
