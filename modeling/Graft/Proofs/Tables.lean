import Mathlib.Data.Finset.Card
import Mathlib.Data.Finset.Dedup
import Std.Data.HashMap

/-! # Tables filled from a list

Items are put into a table one by one, each under its key. Either the first item of a key stays, or
the last one does.
-/

namespace Graft.Table

variable {α β κ : Type} [DecidableEq κ] [Hashable κ]

theorem getElem?_foldl_insertIfNew (key : α → κ) (items : List α) (m : Std.HashMap κ α) (k : κ) :
    (items.foldl (fun m item => m.insertIfNew (key item) item) m)[k]? =
      m[k]?.or (items.find? (key · == k)) := by
  induction items generalizing m with
  | nil => simp
  | cons item rest ih =>
    rw [List.foldl_cons, ih, Std.HashMap.getElem?_insertIfNew, List.find?_cons]
    by_cases hkey : key item = k
    · subst hkey
      by_cases hmem : key item ∈ m <;> simp [hmem]
    · have hbeq : (key item == k) = false := by simpa using hkey
      simp [hbeq]

theorem getElem?_foldl_insert (key : α → κ) (value : α → β) {items : List α}
    (m : Std.HashMap κ β) {k : κ} {v : β} (h : ∀ item ∈ items, key item = k → value item = v) :
    (items.foldl (fun m item => m.insert (key item) (value item)) m)[k]? =
      if k ∈ items.map key then some v else m[k]? := by
  induction items generalizing m with
  | nil => simp
  | cons item rest ih =>
    rw [List.forall_mem_cons] at h
    rw [List.foldl_cons, ih _ h.2, Std.HashMap.getElem?_insert]
    by_cases hkey : key item = k
    · simp [hkey, h.1 hkey]
    · have hbeq : (key item == k) = false := by simpa using hkey
      simp [hbeq, Ne.symm hkey]

theorem mem_foldl_insert (key : α → κ) (value : α → β) (items : List α) (m : Std.HashMap κ β)
    (k : κ) :
    k ∈ items.foldl (fun m item => m.insert (key item) (value item)) m ↔
      k ∈ m ∨ k ∈ items.map key := by
  induction items generalizing m with
  | nil => simp
  | cons item rest ih =>
    rw [List.foldl_cons, ih, Std.HashMap.mem_insert, beq_iff_eq, List.map_cons, List.mem_cons,
      eq_comm, or_comm (a := k = key item), or_assoc]

theorem size_eq_card (m : Std.HashMap κ β) {keys : List κ} (h : ∀ k, k ∈ m ↔ k ∈ keys) :
    m.size = keys.toFinset.card := by
  have hkeys : m.keys.toFinset = keys.toFinset := by
    ext k
    rw [List.mem_toFinset, List.mem_toFinset, Std.HashMap.mem_keys, h]
  have hnodup : m.keys.Nodup := m.nodup_keys
  rw [← Std.HashMap.length_keys, ← List.toFinset_card_of_nodup hnodup, hkeys]

end Graft.Table
