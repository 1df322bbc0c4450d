import Graft.Text.Quoted
import Graft.Text.Number
import Mathlib.Data.Nat.Basic

/-! # Data strings are read back

What is written as a data string can be read by anyone who knows the rules of data strings: a
backslash starts an escape, a quote ends the string, and control characters do not stand for
themselves. Reading gives the text that was written.
-/

namespace Graft

namespace Text

/-! ## Reading -/

/-- What a character after a backslash stands for. -/
def escaped? : Char → Option Char
  | '"' => some '"'
  | '\\' => some '\\'
  | '/' => some '/'
  | 'b' => some (Char.ofNat 8)
  | 'f' => some (Char.ofNat 12)
  | 'n' => some '\n'
  | 'r' => some '\r'
  | 't' => some '\t'
  | _ => none

/-- Reads a data string after its first quote. Nothing may follow the last one. A character that
takes two escapes is not read. -/
def unquote? : List Char → Option (List Char)
  | [] => none
  | ['"'] => some []
  | '\\' :: 'u' :: a :: b :: c :: d :: rest =>
    (charOf? [a, b, c, d]).bind fun char => (unquote? rest).map (char :: ·)
  | '\\' :: e :: rest => (escaped? e).bind fun char => (unquote? rest).map (char :: ·)
  | c :: rest =>
    if c = '"' ∨ c = '\\' ∨ c.toNat < 0x20 then none else (unquote? rest).map (c :: ·)

/-- The text that a data string stands for. -/
def dataText? (quoted : String) : Option String :=
  match quoted.toList with
  | '"' :: rest => (unquote? rest).map String.ofList
  | _ => none

/-! ## What was written -/

theorem unquote?_plain {c : Char} (rest : List Char) (hquote : c ≠ '"') (hslash : c ≠ '\\')
    (hcontrol : ¬ c.toNat < 0x20) : unquote? (c :: rest) = (unquote? rest).map (c :: ·) := by
  rw [unquote?, if_neg (by simp [hquote, hslash, hcontrol])]
  · exact fun h => absurd h hquote
  · exact fun _ _ _ _ _ h => absurd h hslash
  · exact fun _ _ h => absurd h hslash

theorem unquote?_escape {e c : Char} (rest : List Char) (h : escaped? e = some c) :
    unquote? ('\\' :: e :: rest) = (unquote? rest).map (c :: ·) := by
  rw [unquote?, h, Option.bind_some]
  rintro a b c d rest rfl
  cases h

theorem unquote?_unicode {digits : List Char} {c : Char} (rest : List Char)
    (hlength : digits.length = 4) (h : charOf? digits = some c) :
    unquote? (['\\', 'u'] ++ digits ++ rest) = (unquote? rest).map (c :: ·) := by
  match digits, hlength with
  | [first, second, third, fourth], _ =>
    simp only [List.cons_append, List.nil_append]
    rw [unquote?, h, Option.bind_some]

theorem charOf?_hexDigits_of_lt : ∀ n < 0x10,
    (['0', '0', '0'] ++ hexDigits n).length = 4 ∧
      charOf? (['0', '0', '0'] ++ hexDigits n) = some (Char.ofNat n) := by
  decide

theorem charOf?_hexDigits_of_le : ∀ n < 0x20, 0x10 ≤ n →
    (['0', '0'] ++ hexDigits n).length = 4 ∧
      charOf? (['0', '0'] ++ hexDigits n) = some (Char.ofNat n) := by
  decide

theorem unquote?_dataEscape (c : Char) (rest : List Char) :
    unquote? (dataEscape c ++ rest) = (unquote? rest).map (c :: ·) := by
  unfold dataEscape
  split
  · next h => exact unquote?_escape rest (by rw [h]; rfl)
  split
  · next h => exact unquote?_escape rest (by rw [h]; rfl)
  split
  · next h => exact unquote?_escape rest (by rw [h]; rfl)
  split
  · next h => exact unquote?_escape rest (by rw [h]; rfl)
  split
  · next h => exact unquote?_escape rest (by rw [h]; rfl)
  split
  · next h => exact unquote?_escape rest (by rw [← Char.ofNat_toNat c, h]; rfl)
  split
  · next h => exact unquote?_escape rest (by rw [← Char.ofNat_toNat c, h]; rfl)
  split
  · next h =>
    obtain ⟨hlength, hchar⟩ := charOf?_hexDigits_of_lt c.toNat h
    rw [Char.ofNat_toNat] at hchar
    exact unquote?_unicode rest hlength hchar
  split
  · next hlong h =>
    obtain ⟨hlength, hchar⟩ := charOf?_hexDigits_of_le c.toNat h (Nat.le_of_not_lt hlong)
    rw [Char.ofNat_toNat] at hchar
    exact unquote?_unicode rest hlength hchar
  · next hquote hslash _ _ _ _ _ _ hcontrol => exact unquote?_plain rest hquote hslash hcontrol

theorem unquote?_flatMap_dataEscape (text : List Char) :
    unquote? (text.flatMap dataEscape ++ ['"']) = some text := by
  induction text with
  | nil => rfl
  | cons c rest ih =>
    rw [List.flatMap_cons, List.append_assoc, unquote?_dataEscape, ih, Option.map_some]

/-- A data string stands for the text that was quoted. -/
theorem dataText?_dataQuoted (text : String) : dataText? (dataQuoted text) = some text := by
  simp only [dataText?, dataQuoted, String.toList_ofList, List.cons_append,
    unquote?_flatMap_dataEscape, Option.map_some, String.ofList_toList]

end Text

end Graft
