import Graft.Text.Cut
import Graft.Text.Number

/-! # Indentation styles

A style says how a run of blanks at the start of a line is written. Rendering keeps the width of a
run in columns. Converting keeps its depth in levels.
-/

namespace Graft

structure Indentation where
  useTabs : Bool
  tabWidth : UInt64
deriving DecidableEq, Repr

namespace Indentation

def defaultWidth : UInt64 := 4

def tabs (width : UInt64) : Indentation := ⟨true, width⟩

def spaces (width : UInt64) : Indentation := ⟨false, width⟩

instance : Inhabited Indentation := ⟨spaces defaultWidth⟩

/-! ## Widths

Columns are counted up to the largest machine word and stay there.
-/

def capped (n : Nat) : Nat :=
  min n Text.wordMax

/-- The columns that one character of a run takes. -/
def columns (style : Indentation) (c : Char) : Nat :=
  if c = '\t' then style.tabWidth.toNat else 1

def widthOf (style : Indentation) (run : List Char) : Nat :=
  run.foldl (fun width c => capped (width + style.columns c)) 0

/-! ## Layouts -/

/-- A written run: tabs, then spaces. -/
structure Layout where
  tabs : Nat
  spaces : Nat
deriving DecidableEq, Repr

def Layout.text (l : Layout) : List Char :=
  List.replicate l.tabs '\t' ++ List.replicate l.spaces ' '

/-- A character can be written as often as a text has room for it. Asking for more than that stops
the tool. -/
def Layout.isWritable (l : Layout) : Bool :=
  l.tabs ≤ Text.sizeMax && l.spaces ≤ Text.sizeMax

def Layout.text? (l : Layout) : Option (List Char) :=
  if l.isWritable then some l.text else none

def layout (style : Indentation) (width : Nat) : Layout :=
  if style.useTabs then ⟨width / style.tabWidth.toNat, width % style.tabWidth.toNat⟩
  else ⟨0, width⟩

/-- The layout that renders a run, if the style can express any. -/
def rendering? (style : Indentation) (run : List Char) : Option Layout :=
  if style.tabWidth = 0 then none else some (style.layout (style.widthOf run))

/-- Writes a run in this style, keeping its width. -/
def render? (style : Indentation) (run : List Char) : Option (List Char) :=
  match style.rendering? run with
  | some l => l.text?
  | none => some run

/-- The run in this style, with no regard to the room for it. -/
def render (style : Indentation) (run : List Char) : List Char :=
  match style.rendering? run with
  | some l => l.text
  | none => run

/-- The layout of some levels and some columns past the last whole level. -/
def levels (style : Indentation) (whole extra : Nat) : Layout :=
  if style.useTabs then ⟨whole, extra⟩
  else ⟨0, capped (capped (whole * style.tabWidth.toNat) + extra)⟩

/-- The layout in `target` of a run written in this style. -/
def conversion? (style : Indentation) (target : Indentation) (run : List Char) : Option Layout :=
  if style.tabWidth = 0 then none
  else
    let width := style.widthOf run
    some (target.levels (width / style.tabWidth.toNat) (width % style.tabWidth.toNat))

/-- Writes a run of this style in `target`, keeping its depth. Columns past the last whole level
stay as they are, so alignment inside a comment survives. -/
def convert? (style target : Indentation) (run : List Char) : Option (List Char) :=
  match style.conversion? target run with
  | some l => l.text?
  | none => some run

/-- The run in `target`, with no regard to the room for it. -/
def convert (style target : Indentation) (run : List Char) : List Char :=
  match style.conversion? target run with
  | some l => l.text
  | none => run

/-! ## What is empty stays empty -/

@[simp] theorem render_nil (style : Indentation) : style.render [] = [] := by
  unfold render rendering?
  by_cases hwidth : style.tabWidth = 0
  · simp [hwidth]
  · cases htabs : style.useTabs <;> simp [hwidth, htabs, widthOf, layout, Layout.text]

@[simp] theorem convert_nil (style target : Indentation) : style.convert target [] = [] := by
  unfold convert conversion?
  by_cases hwidth : style.tabWidth = 0
  · simp [hwidth]
  · cases htabs : target.useTabs <;> simp [hwidth, htabs, widthOf, levels, capped, Layout.text]

end Indentation

end Graft
