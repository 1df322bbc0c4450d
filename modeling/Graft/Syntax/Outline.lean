import Graft.Syntax.Concrete
import Graft.Text.Cut
import Graft.Text.Number

/-! # Outlines

An outline is a concrete tree written as rows in preorder, each with the number of its children. It
is how trees come from a parser.
-/

namespace Graft

structure OutlineRow where
  kind : String
  start : Nat
  stop : Nat
  childCount : Nat
  field : Option Field := none
  isExtra : Bool := false
  isError : Bool := false
  isMissing : Bool := false
  row : Nat := 0
  column : Nat := 0

namespace Concrete

/-- Puts a row in front of the trees below it. The first of them become its children. -/
def addRow (row : OutlineRow) (below : List Concrete) : List Concrete :=
  { kind := row.kind, start := row.start, stop := row.stop, field := row.field
    isExtra := row.isExtra, isError := row.isError, isMissing := row.isMissing
    row := row.row, column := row.column
    children := below.take row.childCount } :: below.drop row.childCount

def ofOutline? (rows : List OutlineRow) : Option Concrete :=
  match rows.foldr addRow [] with
  | [root] => some root
  | _ => none

/-! ## As text

A row is a line of cells with tabs between them. A cell without a value is a dash.
-/

def fieldOf? : String → Option Field
  | "name" => some .name
  | "body" => some .body
  | "condition" => some .condition
  | "initializer" => some .initializer
  | "increment" => some .increment
  | _ => none

def rowOf? (line : String) : Option OutlineRow :=
  match Text.cutText '\t' line with
  | [kind, start, stop, childCount, field, flags, row, column] => do
    return {
      kind := kind, start := ← Text.count? start, stop := ← Text.count? stop
      childCount := ← Text.count? childCount, field := fieldOf? field
      isExtra := flags.contains 'X', isError := flags.contains 'E'
      isMissing := flags.contains 'M'
      row := ← Text.count? row, column := ← Text.count? column }
  | _ => none

/-- The tree of an outline that is written as text. -/
def ofOutlineText? (text : String) : Option Concrete :=
  (((Text.cutText '\n' text).filter (· != "")).mapM rowOf?).bind ofOutline?

def empty : Concrete where
  kind := "program"
  start := 0
  stop := 0
  field := none
  isExtra := false
  isError := false
  isMissing := false
  row := 0
  column := 0
  children := []

end Concrete

end Graft
