import Graft.Indent.Style
import Graft.Text.Cut
import Std.Data.TreeMap

/-! # Detecting the style of a text

Every line votes with the white space it starts with. Tabs win on a strict majority only. Otherwise
the width that most lines have wins, and of several such widths the narrowest.
-/

namespace Graft.Indentation

/-! ## Votes -/

def leading (line : List Char) : List Char :=
  line.takeWhile Text.isWhite

/-- A line votes for tabs when its white space holds one. -/
def votesTabs (line : List Char) : Bool :=
  (leading line).contains '\t'

/-- A line votes for a width when its white space holds a space, and more than one character
beside the tabs. -/
def votedWidth? (line : List Char) : Option Nat :=
  let width := (leading line).countP (· != '\t')
  if (leading line).contains ' ' && 1 < width then some width else none

/-! ## Counting -/

/-- The votes of the lines that were read. -/
structure Tally where
  tabLines : Nat := 0
  spaceLines : Nat := 0
  /-- The widths that were voted for, each with the number of its lines. -/
  widths : Std.TreeMap Nat Nat := ∅

namespace Tally

def addTabs (tally : Tally) (line : List Char) : Tally :=
  if votesTabs line then { tally with tabLines := tally.tabLines + 1 } else tally

def addWidth (tally : Tally) (width : Nat) : Tally :=
  { tally with
    spaceLines := tally.spaceLines + 1
    widths := tally.widths.insert width (tally.widths.getD width 0 + 1) }

/-- Reads a line. It can vote for both sides, and for none. -/
def add (tally : Tally) (line : List Char) : Tally :=
  match votedWidth? line with
  | some width => (tally.addTabs line).addWidth width
  | none => tally.addTabs line

/-- Keeps the width that was met first, unless the next one has more lines. -/
def better (best? : Option (Nat × Nat)) (next : Nat × Nat) : Option (Nat × Nat) :=
  match best? with
  | some best => if best.2 < next.2 then some next else some best
  | none => some next

/-- Goes through the widths from the narrowest on. -/
def winner? (tally : Tally) : Option Nat :=
  (tally.widths.toList.foldl better none).map Prod.fst

def style (tally : Tally) : Indentation :=
  if tally.spaceLines < tally.tabLines then tabs defaultWidth
  else spaces (tally.winner?.elim defaultWidth Nat.toUInt64)

end Tally

def detectLines (ls : List (List Char)) : Indentation :=
  (ls.foldl Tally.add {}).style

/-- The style that the lines of a text are written in. -/
def detect (text : String) : Indentation :=
  detectLines (Text.lines text.toList)

end Graft.Indentation
