import Mathlib.Data.String.Basic
import Mathlib.Tactic.Lemma
/-!
# Splitting at a character

What `splitOn` makes of a text with a separator of one character. The function works on byte
positions, the statements on lists of characters.
-/

namespace Splitting

open String

/-- The split of what is left, with the part in progress and the parts before it. -/
lemma splitOnAux_of_valid (c : Char) (r : List Char) : ∀ (l m : List Char) (acc : List String),
    splitOnAux (ofList (l ++ m ++ r)) (ofList [c]) ⟨utf8Len l⟩ ⟨utf8Len l + utf8Len m⟩ 0 acc =
      acc.reverse ++ (List.splitOnPPrepend (· == c) r m.reverse).map ofList := by
  induction r with
  | nil =>
    intro l m acc
    have hend : Pos.Raw.atEnd (ofList (l ++ m ++ [])) ⟨utf8Len l + utf8Len m⟩ := by
      rw [← utf8Len_append]
      exact (atEnd_of_valid (l ++ m) []).mpr rfl
    rw [splitOnAux, if_pos hend, extract_of_valid]
    simp
  | cons d r ih =>
    intro l m acc
    have hnot : ¬Pos.Raw.atEnd (ofList (l ++ m ++ d :: r)) ⟨utf8Len l + utf8Len m⟩ := by
      rw [← utf8Len_append, atEnd_of_valid]
      exact List.cons_ne_nil d r
    have hget : Pos.Raw.get (ofList (l ++ m ++ d :: r)) ⟨utf8Len l + utf8Len m⟩ = d := by
      rw [← utf8Len_append, get_of_valid]
      rfl
    have hnext : Pos.Raw.next (ofList (l ++ m ++ d :: r)) ⟨utf8Len l + utf8Len m⟩ =
        ⟨utf8Len l + utf8Len m + d.utf8Size⟩ := by
      rw [← utf8Len_append]
      exact next_of_valid (l ++ m) d r
    have hsep : Pos.Raw.get (ofList [c]) 0 = c := get_of_valid [] [c]
    have hsepNext : Pos.Raw.next (ofList [c]) 0 = ⟨c.utf8Size⟩ := by
      simpa using! next_of_valid [] c []
    have hsepEnd : Pos.Raw.atEnd (ofList [c]) ⟨c.utf8Size⟩ := by
      simpa using! (atEnd_of_valid [c] []).mpr rfl
    rw [splitOnAux, if_neg hnot, hget, hsep]
    by_cases hd : d = c
    · subst hd
      have hrest := ih (l ++ m ++ [d]) [] (ofList m :: acc)
      have hstart : (⟨utf8Len l + utf8Len m + d.utf8Size⟩ : Pos.Raw).unoffsetBy ⟨d.utf8Size⟩ =
          ⟨utf8Len l + utf8Len m⟩ := by
        simp [Pos.Raw.unoffsetBy]
      have hlist : l ++ m ++ [d] ++ [] ++ r = l ++ m ++ d :: r := by simp
      have hlen : utf8Len (l ++ m ++ [d]) = utf8Len l + utf8Len m + d.utf8Size := by
        simp [Nat.add_assoc]
      simp only [beq_self_eq_true, if_true, hnext, hsepNext, hsepEnd, hstart, extract_of_valid]
      rw [hlist, hlen] at hrest
      rw [List.splitOnPPrepend_cons_pos (by simp)]
      simpa [-ofList_append] using hrest
    · have hrest := ih l (m ++ [d]) acc
      have hlist : l ++ (m ++ [d]) ++ r = l ++ m ++ d :: r := by simp
      have hlen : utf8Len l + utf8Len (m ++ [d]) = utf8Len l + utf8Len m + d.utf8Size := by
        simp [Nat.add_assoc]
      have hback : (⟨utf8Len l + utf8Len m⟩ : Pos.Raw).unoffsetBy 0 = ⟨utf8Len l + utf8Len m⟩ := rfl
      rw [hlist, hlen] at hrest
      rw [List.splitOnPPrepend_cons_neg (by simpa using hd), if_neg (by simpa using hd), hback,
        hnext, hrest]
      simp

/-- A string is split at a character as its list of characters is. -/
theorem splitOn_singleton (s : String) (c : Char) :
    s.splitOn (ofList [c]) = (s.toList.splitOn c).map ofList := by
  have hsep : ¬(ofList [c] == "") = true := by simp
  have haux := splitOnAux_of_valid c s.toList [] [] []
  rw [splitOn, if_neg hsep]
  simpa [-ofList_append, List.splitOn_eq_splitOnP] using! haux

/-- Two parts with a separator between them, when the separator does not occur in either. -/
theorem splitOn_append {s t : String} {c : Char} (hs : c ∉ s.toList) (ht : c ∉ t.toList) :
    (s ++ ofList [c] ++ t).splitOn (ofList [c]) = [s, t] := by
  rw [splitOn_singleton]
  have hlist : (s ++ ofList [c] ++ t).toList = s.toList ++ c :: t.toList := by simp
  rw [hlist, List.splitOn_append_cons_self_of_not_mem hs, List.splitOn_eq_singleton ht]
  simp
end Splitting
