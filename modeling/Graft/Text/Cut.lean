/-! # Trimming and cutting texts

White space is trimmed off at both ends. A text is cut at every separator: there is always a first
piece, and a text that ends in a separator has an empty last one.
-/

namespace Graft.Text

/-! ## White space -/

/-- The characters with the Unicode property White_Space. -/
def isWhite (c : Char) : Bool :=
  let n := c.toNat
  (0x09 ≤ n && n ≤ 0x0D) || n == 0x20 || n == 0x85 || n == 0xA0 || n == 0x1680 ||
    (0x2000 ≤ n && n ≤ 0x200A) || n == 0x2028 || n == 0x2029 || n == 0x202F ||
    n == 0x205F || n == 0x3000

/-- The characters that indentation is made of. -/
def isBlank (c : Char) : Bool :=
  c == ' ' || c == '\t'

/-! ## Trimming -/

def trimStart (cs : List Char) : List Char :=
  cs.dropWhile isWhite

def trimEnd (cs : List Char) : List Char :=
  (trimStart cs.reverse).reverse

def trim (cs : List Char) : List Char :=
  trimEnd (trimStart cs)

def trimmed (s : String) : String :=
  String.ofList (trim s.toList)

/-! ## Pieces -/

/-- The pieces of the text that `c` is put in front of. -/
def consPiece (separator c : Char) (rest : List (List Char)) : List (List Char) :=
  if c = separator then [] :: rest
  else match rest with
    | [] => [[c]]
    | piece :: below => (c :: piece) :: below

def cut (separator : Char) (cs : List Char) : List (List Char) :=
  cs.foldr (consPiece separator) [[]]

def cutText (separator : Char) (s : String) : List String :=
  (cut separator s.toList).map String.ofList

/-! ## Lines -/

def lines (cs : List Char) : List (List Char) :=
  cut '\n' cs

def unlines : List (List Char) → List Char
  | [] => []
  | [line] => line
  | line :: below => line ++ '\n' :: unlines below

theorem cut_ne_nil (separator : Char) (cs : List Char) : cut separator cs ≠ [] := by
  cases cs with
  | nil => simp [cut]
  | cons c cs =>
    simp only [cut, List.foldr_cons, consPiece]
    split
    · simp
    · split <;> simp

theorem unlines_cons {line : List Char} {below : List (List Char)} (h : below ≠ []) :
    unlines (line :: below) = line ++ '\n' :: unlines below := by
  cases below with
  | nil => exact absurd rfl h
  | cons l ls => rfl

/-- Cutting into lines loses nothing. -/
theorem unlines_lines (cs : List Char) : unlines (lines cs) = cs := by
  induction cs with
  | nil => rfl
  | cons c cs ih =>
    have hne := cut_ne_nil '\n' cs
    simp only [lines, cut, List.foldr_cons, consPiece] at ih hne ⊢
    split
    · rw [unlines_cons hne, ih]
      simp_all
    · split
      · next h => exact absurd h hne
      · next piece below h =>
        rw [h] at ih
        cases below <;> simp_all [unlines]

end Graft.Text
