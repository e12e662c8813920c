import Mathlib.Tactic.Lemma

/-!
# Padded decimal numerals

`padStart` as JavaScript has it, and the fact that padding with zeros keeps numerals apart.
-/

namespace Numeral

/-- `s.padStart(width, c)`. -/
def padStart (s : String) (width : Nat) (c : Char) : String :=
  String.ofList (List.replicate (width - s.length) c) ++ s

lemma toList_padStart (s : String) (width : Nat) (c : Char) :
    (padStart s width c).toList = List.replicate (width - s.length) c ++ s.toList := by
  simp [padStart]

/-- The value of a numeral survives padding with zeros. -/
lemma ofDigitChars_padStart (n width : Nat) :
    Nat.ofDigitChars 10 (padStart (toString n) width '0').toList 0 = n := by
  rw [toList_padStart, Nat.ofDigitChars_append, Nat.ofDigitChars_replicate_zero]
  simp

/-- Different numbers have different padded numerals. -/
theorem padStart_injective (width : Nat) {m n : Nat}
    (h : padStart (toString m) width '0' = padStart (toString n) width '0') : m = n := by
  rw [← ofDigitChars_padStart m width, h, ofDigitChars_padStart]

end Numeral
