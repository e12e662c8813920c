import Mathlib.Algebra.Order.Ring.Rat
import Mathlib.Tactic.Lemma
import Mathlib.Tactic.Positivity

/-!
# Timespans

The duration grammar of the signing library: an unsigned decimal number, alone or with a unit that
follows it directly or after a space. A duration is the exact number of its milliseconds, where the
library has the nearest double.
-/

namespace Timespan

/-- The digits of an unsigned decimal number, before and behind the point. -/
structure Decimal where
  whole : List Char
  fraction : List Char
  isDigit_whole : ∀ c ∈ whole, c.isDigit
  isDigit_fraction : ∀ c ∈ fraction, c.isDigit
  nonempty : whole ≠ [] ∨ fraction ≠ []

namespace Decimal

/-- The text of the number, without a point where nothing follows it. -/
def chars (d : Decimal) : List Char :=
  if d.fraction = [] then d.whole else d.whole ++ '.' :: d.fraction

def value (d : Decimal) : ℚ :=
  Nat.ofDigitChars 10 (d.whole ++ d.fraction) 0 / (10 : ℚ) ^ d.fraction.length

/-- A sequence of digits. -/
def ofDigits (digits : List Char) (hdigits : ∀ c ∈ digits, c.isDigit) (hne : digits ≠ []) :
    Decimal :=
  ⟨digits, [], hdigits, fun _ h => absurd h List.not_mem_nil, .inl hne⟩

end Decimal

/-! ### Spans of characters -/

section Spans

variable {p : Char → Bool} {a b r s : List Char}

/-- A text begins with one longest run of characters of a kind. -/
lemma takeWhile_append_of_head (ha : ∀ c ∈ a, p c) (hr : ∀ c ∈ r.head?, ¬ p c) :
    (a ++ r).takeWhile p = a := by
  rw [List.takeWhile_append_of_pos ha]
  cases r with
  | nil => simp
  | cons c r => rw [List.takeWhile_cons_of_neg (hr c rfl), List.append_nil]

lemma append_inj_of_head (ha : ∀ c ∈ a, p c) (hb : ∀ c ∈ b, p c) (hr : ∀ c ∈ r.head?, ¬ p c)
    (hs : ∀ c ∈ s.head?, ¬ p c) (h : a ++ r = b ++ s) : a = b ∧ r = s := by
  have hab : a = b :=
    calc
      a = (a ++ r).takeWhile p := (takeWhile_append_of_head ha hr).symm
      _ = (b ++ s).takeWhile p := by rw [h]
      _ = b := takeWhile_append_of_head hb hs
  subst hab
  exact ⟨rfl, List.append_cancel_left h⟩

end Spans

namespace Decimal

/-- The characters a number is written with. -/
def isNumeral (c : Char) : Bool := c.isDigit || c == '.'

lemma isNumeral_of_mem {d : Decimal} {c : Char} (hc : c ∈ d.chars) : isNumeral c := by
  rw [chars] at hc
  split_ifs at hc
  · rw [isNumeral, d.isDigit_whole c hc]
    rfl
  · rcases List.mem_append.mp hc with hc | hc
    · rw [isNumeral, d.isDigit_whole c hc]
      rfl
    · rcases List.mem_cons.mp hc with rfl | hc
      · rfl
      · rw [isNumeral, d.isDigit_fraction c hc]
        rfl

/-- What is written behind the whole part. -/
private def tail (d : Decimal) : List Char := if d.fraction = [] then [] else '.' :: d.fraction

private lemma chars_eq (d : Decimal) : d.chars = d.whole ++ d.tail := by
  rw [chars, tail]
  split_ifs
  · exact (List.append_nil _).symm
  · rfl

private lemma not_isDigit_tail (d : Decimal) : ∀ c ∈ d.tail.head?, ¬ c.isDigit := by
  rw [tail]
  split_ifs
  · exact fun c hc => by cases hc
  · rintro c hc
    cases hc
    decide

private lemma tail_injective {d e : Decimal} (h : d.tail = e.tail) : d.fraction = e.fraction := by
  rw [tail, tail] at h
  split_ifs at h with hd he he
  · rw [hd, he]
  · exact (List.cons.inj h).2

/-- A text is the text of one number. -/
lemma value_eq_of_chars_eq {d e : Decimal} (h : d.chars = e.chars) : d.value = e.value := by
  rw [chars_eq, chars_eq] at h
  obtain ⟨hwhole, htail⟩ := append_inj_of_head d.isDigit_whole e.isDigit_whole
    d.not_isDigit_tail e.not_isDigit_tail h
  rw [value, value, hwhole, tail_injective htail]

lemma value_nonneg (d : Decimal) : 0 ≤ d.value := by
  rw [value]
  positivity

lemma value_ofDigits {digits : List Char} (hdigits : ∀ c ∈ digits, c.isDigit)
    (hne : digits ≠ []) :
    (ofDigits digits hdigits hne).value = (Nat.ofDigitChars 10 digits 0 : ℚ) := by
  simp [value, ofDigits]

end Decimal

/-- The units with their milliseconds. A year has 365.25 days. -/
def units : List (String × Nat) :=
  [("ms", 1),
    ("s", 1000), ("sec", 1000), ("second", 1000), ("seconds", 1000),
    ("m", 60000), ("min", 60000), ("minute", 60000), ("minutes", 60000),
    ("h", 3600000), ("hr", 3600000), ("hour", 3600000), ("hours", 3600000),
    ("d", 86400000), ("day", 86400000), ("days", 86400000),
    ("w", 604800000), ("week", 604800000), ("weeks", 604800000),
    ("y", 31557600000), ("year", 31557600000), ("years", 31557600000)]

/-- What follows the number, with the milliseconds it multiplies by. A bare number is one of
milliseconds. -/
inductive UnitText : List Char → Nat → Prop
  | bare : UnitText [] 1
  | direct {name ms} (h : (name, ms) ∈ units) : UnitText name.toList ms
  | spaced {name ms} (h : (name, ms) ∈ units) : UnitText (' ' :: name.toList) ms

/-- The text stands for `q` milliseconds. -/
def Reads (text : String) (q : ℚ) : Prop :=
  ∃ (d : Decimal) (suffix : List Char) (ms : Nat),
    text.toList = d.chars ++ suffix ∧ UnitText suffix ms ∧ q = d.value * ms

/-! ### One duration for a text -/

private lemma name_head {name : String} {ms : Nat} (h : (name, ms) ∈ units) :
    ∃ c cs, name.toList = c :: cs ∧ ¬ Decimal.isNumeral c ∧ c ≠ ' ' := by
  have hall : ∀ u ∈ units, u.1.toList.head?.any fun c => !Decimal.isNumeral c && c != ' ' := by
    decide
  obtain ⟨c, hc, hp⟩ := (Option.any_eq_true ..).mp (hall _ h)
  obtain ⟨cs, hcs⟩ := List.head?_eq_some_iff.mp hc
  exact ⟨c, cs, hcs, by simpa using hp⟩

private lemma ms_unique {name name' : String} {ms ms' : Nat} (h : (name, ms) ∈ units)
    (h' : (name', ms') ∈ units) (heq : name.toList = name'.toList) : ms = ms' := by
  have hall : ∀ u ∈ units, ∀ v ∈ units, u.1.toList = v.1.toList → u.2 = v.2 := by decide
  exact hall _ h _ h' heq

namespace UnitText

variable {suffix : List Char} {ms ms' : Nat}

/-- No number goes on where its unit begins. -/
lemma not_isNumeral_head (h : UnitText suffix ms) :
    ∀ c ∈ suffix.head?, ¬ Decimal.isNumeral c := by
  cases h with
  | bare => exact fun c hc => by cases hc
  | direct h =>
    obtain ⟨c, cs, hname, hc, -⟩ := name_head h
    rw [hname]
    rintro _ ⟨⟩
    exact hc
  | spaced h =>
    rintro _ ⟨⟩
    decide

lemma unique (h : UnitText suffix ms) (h' : UnitText suffix ms') : ms = ms' := by
  generalize hsuffix : suffix = suffix' at h'
  cases h with
  | bare =>
    cases h' with
    | bare => rfl
    | direct h' =>
      obtain ⟨c, cs, hname, -⟩ := name_head h'
      rw [hname] at hsuffix
      cases hsuffix
    | spaced h' => cases hsuffix
  | direct h =>
    obtain ⟨c, cs, hname, -, hspace⟩ := name_head h
    cases h' with
    | bare =>
      rw [hname] at hsuffix
      cases hsuffix
    | direct h' => exact ms_unique h h' hsuffix
    | spaced h' =>
      rw [hname] at hsuffix
      exact absurd (List.cons.inj hsuffix).1 hspace
  | spaced h =>
    cases h' with
    | bare => cases hsuffix
    | direct h' =>
      obtain ⟨c, cs, hname, -, hspace⟩ := name_head h'
      rw [hname] at hsuffix
      exact absurd (List.cons.inj hsuffix).1.symm hspace
    | spaced h' => exact ms_unique h h' (List.cons.inj hsuffix).2

end UnitText

lemma Reads.nonneg {text : String} {q : ℚ} (h : Reads text q) : 0 ≤ q := by
  obtain ⟨d, suffix, ms, -, -, rfl⟩ := h
  exact mul_nonneg d.value_nonneg (Nat.cast_nonneg ms)

/-- A text stands for one duration at most. -/
theorem Reads.unique {text : String} {q q' : ℚ} (h : Reads text q) (h' : Reads text q') :
    q = q' := by
  obtain ⟨d, suffix, ms, htext, hunit, rfl⟩ := h
  obtain ⟨d', suffix', ms', htext', hunit', rfl⟩ := h'
  obtain ⟨hchars, rfl⟩ := append_inj_of_head (p := Decimal.isNumeral)
    (fun _ => Decimal.isNumeral_of_mem) (fun _ => Decimal.isNumeral_of_mem)
    hunit.not_isNumeral_head hunit'.not_isNumeral_head (htext.symm.trans htext')
  rw [Decimal.value_eq_of_chars_eq hchars, hunit.unique hunit']

end Timespan
