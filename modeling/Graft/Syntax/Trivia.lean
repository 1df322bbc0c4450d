import Graft.Text.Cut

/-! # Trivia

Trivia is the text between two tokens. Below its first line, the blanks that a line starts with are
indentation when code or a comment follows them. Before a line end they are kept.
-/

namespace Graft.Trivia

/-- Whether a run of blanks is indentation, by what follows it on its line. `closes` says whether a
token follows when nothing else does. -/
def indents (closes : Bool) : List Char → Bool
  | [] => closes
  | c :: _ => c != '\r'

def reflowLine (f : List Char → List Char) (closes : Bool) (line : List Char) : List Char :=
  let run := line.takeWhile Text.isBlank
  let rest := line.dropWhile Text.isBlank
  (if indents closes rest then f run else run) ++ rest

/-- Only the last line can reach a token. -/
def reflowLines (f : List Char → List Char) (beforeToken : Bool) :
    List (List Char) → List (List Char)
  | [] => []
  | [line] => [reflowLine f beforeToken line]
  | line :: below => reflowLine f false line :: reflowLines f beforeToken below

/-- Changes every run of indentation by `f` and nothing else. -/
def reflow (f : List Char → List Char) (beforeToken : Bool) (trivia : List Char) : List Char :=
  match Text.lines trivia with
  | [] => []
  | first :: below => Text.unlines (first :: reflowLines f beforeToken below)

/-! ## Changes that may stop

These are for an `f` that has no result for some runs. No run is empty here.
-/

def reflowLine? (f : List Char → Option (List Char)) (closes : Bool) (line : List Char) :
    Option (List Char) :=
  let run := line.takeWhile Text.isBlank
  let rest := line.dropWhile Text.isBlank
  if indents closes rest && !run.isEmpty then (f run).map (· ++ rest) else some line

def reflowLines? (f : List Char → Option (List Char)) (beforeToken : Bool) :
    List (List Char) → Option (List (List Char))
  | [] => some []
  | [line] => (reflowLine? f beforeToken line).map ([·])
  | line :: below =>
    match reflowLine? f false line, reflowLines? f beforeToken below with
    | some first, some others => some (first :: others)
    | _, _ => none

def reflow? (f : List Char → Option (List Char)) (beforeToken : Bool) (trivia : List Char) :
    Option (List Char) :=
  match Text.lines trivia with
  | [] => some []
  | first :: below =>
    (reflowLines? f beforeToken below).map fun others => Text.unlines (first :: others)

/-! ## Runs -/

/-- The indentation of a line. What is empty need not be written. -/
def runOf? (closes : Bool) (line : List Char) : Option (List Char) :=
  let run := line.takeWhile Text.isBlank
  if indents closes (line.dropWhile Text.isBlank) && !run.isEmpty then some run else none

def runsOf (beforeToken : Bool) : List (List Char) → List (List Char)
  | [] => []
  | [line] => (runOf? beforeToken line).toList
  | line :: below => (runOf? false line).toList ++ runsOf beforeToken below

/-- The runs that are changed. -/
def runs (beforeToken : Bool) (trivia : List Char) : List (List Char) :=
  runsOf beforeToken (Text.lines trivia).tail

/-! ## Texts -/

def reflowText (f : List Char → List Char) (beforeToken : Bool) (trivia : String) : String :=
  String.ofList (reflow f beforeToken trivia.toList)

def reflowText? (f : List Char → Option (List Char)) (beforeToken : Bool) (trivia : String) :
    Option String :=
  (reflow? f beforeToken trivia.toList).map String.ofList

end Graft.Trivia
