/-! # Slices by byte range

A byte range selects a text only when both ends fall between characters.
-/

namespace Graft.Text

def bytes (s : String) : List UInt8 :=
  s.toUTF8.data.toList

/-- The text from byte `start` up to byte `stop`. -/
def slice? (s : String) (start stop : Nat) : Option String :=
  if start ≤ stop then
    match s.pos? ⟨start⟩, s.pos? ⟨stop⟩ with
    | some b, some e => some (s.extract b e)
    | _, _ => none
  else none

/-- A range that selects nothing reads as the empty text. -/
def slice (s : String) (start stop : Nat) : String :=
  (slice? s start stop).getD ""

/-! ## Ranges between characters -/

/-- The byte offset falls between two characters, or at an end of the text. -/
def IsBoundary (s : String) (offset : Nat) : Prop :=
  String.Pos.Raw.IsValid s ⟨offset⟩

instance (s : String) (offset : Nat) : Decidable (IsBoundary s offset) :=
  inferInstanceAs (Decidable (String.Pos.Raw.IsValid s ⟨offset⟩))

theorem isBoundary_zero (s : String) : IsBoundary s 0 :=
  String.Pos.Raw.isValid_zero

theorem isBoundary_utf8ByteSize (s : String) : IsBoundary s s.utf8ByteSize :=
  String.Pos.Raw.isValid_rawEndPos

theorem IsBoundary.le {s : String} {offset : Nat} (h : IsBoundary s offset) :
    offset ≤ s.utf8ByteSize :=
  String.Pos.Raw.IsValid.le_utf8ByteSize h

theorem IsBoundary.pos?_eq {s : String} {offset : Nat} (h : IsBoundary s offset) :
    s.pos? ⟨offset⟩ = some (s.pos ⟨offset⟩ h) := by
  have hvalid := String.Pos.Raw.isValidForSlice_eq_true_iff.2 (String.Pos.Raw.IsValid.toSlice h)
  simp [String.pos?, String.Slice.pos?, String.pos, hvalid]

theorem slice?_eq_extract {s : String} {start stop : Nat} (h : start ≤ stop)
    (hstart : IsBoundary s start) (hstop : IsBoundary s stop) :
    slice? s start stop = some (s.extract (s.pos ⟨start⟩ hstart) (s.pos ⟨stop⟩ hstop)) := by
  simp [slice?, h, hstart.pos?_eq, hstop.pos?_eq]

/-- A range between two boundaries selects a text. -/
theorem slice?_eq_some {s : String} {start stop : Nat} (h : start ≤ stop)
    (hstart : IsBoundary s start) (hstop : IsBoundary s stop) :
    slice? s start stop = some (slice s start stop) := by
  simp [slice, slice?_eq_extract h hstart hstop]

theorem toByteArray_slice {s : String} {start stop : Nat} (h : start ≤ stop)
    (hstart : IsBoundary s start) (hstop : IsBoundary s stop) :
    (slice s start stop).toByteArray = s.toByteArray.extract start stop := by
  rw [slice, slice?_eq_extract h hstart hstop]
  exact String.toByteArray_extract

theorem slice_append_slice {s : String} {a b c : Nat} (hab : a ≤ b) (hbc : b ≤ c)
    (ha : IsBoundary s a) (hb : IsBoundary s b) (hc : IsBoundary s c) :
    slice s a b ++ slice s b c = slice s a c := by
  rw [← String.toByteArray_inj, String.toByteArray_append, toByteArray_slice hab ha hb,
    toByteArray_slice hbc hb hc, toByteArray_slice (Nat.le_trans hab hbc) ha hc,
    ← ByteArray.extract_eq_extract_append_extract b hab hbc]

theorem slice_self {s : String} {offset : Nat} (h : IsBoundary s offset) :
    slice s offset offset = "" := by
  rw [← String.toByteArray_inj, toByteArray_slice (Nat.le_refl offset) h h, ByteArray.extract_same]
  rfl

theorem slice_zero_utf8ByteSize (s : String) : slice s 0 s.utf8ByteSize = s := by
  rw [← String.toByteArray_inj,
    toByteArray_slice (Nat.zero_le _) (isBoundary_zero s) (isBoundary_utf8ByteSize s),
    ← String.size_toByteArray, ByteArray.extract_zero_size]

end Graft.Text
