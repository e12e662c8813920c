import Mathlib.Data.List.Nodup
import Mathlib.Data.List.Range

/-!
# Numbering by count

A list of labels is numbered when its entries are the labels of `0, 1, 2, ...` in order, which is
what labelling each new entry with the present length leads to. It lasts as long as entries only
go from the end.
-/

variable {α : Type*} {f : ℕ → α} {l k : List α}

/-- The entries of `l` are `f 0, f 1, ...`. -/
def Numbered (f : ℕ → α) (l : List α) : Prop := l = (List.range l.length).map f

namespace Numbered

lemma nil (f : ℕ → α) : Numbered f [] := rfl

/-- Labelling a new entry with the length goes on with the numbering. -/
lemma concat (h : Numbered f l) : Numbered f (l ++ [f l.length]) := by
  unfold Numbered at h ⊢
  rw [List.length_append, List.length_singleton, List.range_succ, List.map_append, ← h]
  rfl

lemma mem_iff (h : Numbered f l) {a : α} : a ∈ l ↔ ∃ i < l.length, f i = a := by
  constructor
  · intro ha
    rw [h] at ha
    obtain ⟨i, hi, rfl⟩ := List.mem_map.mp ha
    exact ⟨i, List.mem_range.mp hi, rfl⟩
  · rintro ⟨i, hi, rfl⟩
    rw [h]
    exact List.mem_map_of_mem (List.mem_range.mpr hi)

/-- Removing entries from the end keeps the numbering. -/
lemma of_prefix (h : Numbered f l) (hk : k <+: l) : Numbered f k := by
  unfold Numbered at h ⊢
  calc
    k = l.take k.length := List.prefix_iff_eq_take.mp hk
    _ = ((List.range l.length).map f).take k.length := by rw [← h]
    _ = (List.range k.length).map f := by
      rw [← List.map_take, List.take_range, Nat.min_eq_left hk.length_le]

/-- The label of the length is free. -/
lemma length_notMem (h : Numbered f l) (hf : f.Injective) : f l.length ∉ l := by
  intro hmem
  obtain ⟨i, hi, heq⟩ := h.mem_iff.mp hmem
  exact absurd (hf heq) (Nat.ne_of_lt hi)

end Numbered
