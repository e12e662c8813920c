import Mathlib.Data.List.TakeWhile
import Mathlib.Tactic.Lemma
import SupportPlatform.Core.JsNumber

/-!
# Query strings

The parameters of a query string, each with one text, and the reading of a text as an integer with
`parseInt`.
-/

/-- The parameters of a query string, in order. -/
abbrev QueryString := List (String × String)

namespace QueryString

/-- `params.set(key, value)`. -/
def set (params : QueryString) (key value : String) : QueryString :=
  params.filter (·.1 ≠ key) ++ [(key, value)]

lemma lookup_filter_ne (params : QueryString) {key k : String} (hk : k ≠ key) :
    (params.filter (·.1 ≠ key)).lookup k = params.lookup k := by
  induction params with
  | nil => rfl
  | cons p params ih =>
    obtain ⟨key', value⟩ := p
    by_cases hkey : key' = key
    · subst hkey
      rw [List.filter_cons_of_neg (by simp), ih, List.lookup_cons, beq_false_of_ne hk]
    · rw [List.filter_cons_of_pos (by simpa using hkey), List.lookup_cons, List.lookup_cons, ih]

/-- A parameter that has been set has its new text, and the others keep theirs. -/
theorem lookup_set (params : QueryString) (key value k : String) :
    (params.set key value).lookup k = if k = key then some value else params.lookup k := by
  rw [set, List.lookup_append]
  split_ifs with hk
  · subst hk
    have hnone : (params.filter (·.1 ≠ k)).lookup k = none := by
      refine List.lookup_eq_none_iff.mpr fun p hp => ?_
      have hne : p.1 ≠ k := by simpa using (List.mem_filter.mp hp).2
      simpa using hne.symm
    rw [hnone, List.lookup_singleton, beq_self_eq_true, if_pos rfl, Option.none_or]
  · rw [lookup_filter_ne params hk, List.lookup_singleton, beq_false_of_ne hk, if_neg (by simp),
      Option.or_none]

lemma fst_of_mem_set {params : QueryString} {key value : String} {p : String × String}
    (hp : p ∈ params.set key value) : p ∈ params ∨ p.1 = key := by
  rcases List.mem_append.mp hp with hp | hp
  · exact .inl ((List.mem_filter.mp hp).1)
  · exact .inr (congrArg Prod.fst (List.mem_singleton.mp hp))

/-! ### Integers -/

/-- The sign of a numeral, which may be missing, and the rest. -/
def sign : List Char → Bool × List Char
  | '-' :: cs => (true, cs)
  | '+' :: cs => (false, cs)
  | cs => (false, cs)

/-- `parseInt(s, 10)`, with `none` for `NaN`: the digits up to the first character that is none. -/
def parseInt (s : String) : Option Int :=
  let (negative, cs) := sign (s.toList.dropWhile JsNumber.isWhiteSpace)
  let digits := cs.takeWhile Char.isDigit
  if digits = [] then none
  else
    let n : Int := Nat.ofDigitChars 10 digits 0
    some (if negative then -n else n)

lemma sign_of_isDigit {c : Char} {cs : List Char} (h : c.isDigit) :
    sign (c :: cs) = (false, c :: cs) := by
  unfold sign
  split
  · next heq => cases heq; cases h
  · next heq => cases heq; cases h
  · rfl

/-- The numeral of a natural number is read as this number. -/
theorem parseInt_toString (n : Nat) : parseInt (toString n) = some (n : Int) := by
  have hdigits : ∀ c ∈ Nat.toDigits 10 n, c.isDigit := fun c hc =>
    Nat.isDigit_of_mem_toDigits (by decide) (by decide) hc
  obtain ⟨c, cs, hcs⟩ := List.exists_cons_of_ne_nil (Nat.toDigits_ne_nil (b := 10) (n := n))
  rw [hcs] at hdigits
  have hc : c.isDigit := hdigits c List.mem_cons_self
  have htake : (c :: cs).takeWhile Char.isDigit = c :: cs :=
    List.takeWhile_eq_self_iff.mpr hdigits
  have hdrop : (c :: cs).dropWhile JsNumber.isWhiteSpace = c :: cs := by
    rw [List.dropWhile_cons_of_neg (by simp [JsNumber.isWhiteSpace_of_isDigit hc])]
  have hlist : (toString n).toList = c :: cs := by
    rw [Nat.toString_eq_ofList_toDigits, String.toList_ofList, hcs]
  rw [parseInt, hlist, hdrop, sign_of_isDigit hc]
  simp only [htake, reduceCtorEq, if_false, Bool.false_eq_true]
  rw [← hcs, Nat.ofDigitChars_toDigits (by decide) (by decide)]

end QueryString
