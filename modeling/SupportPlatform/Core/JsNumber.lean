import Mathlib.Data.Rat.Defs
import Mathlib.Algebra.Order.Ring.Rat

/-!
# JavaScript numbers

The values a JSON-like header can hold and their coercion by `Number`. Finite doubles are taken as
the rationals they stand for, so the arithmetic is exact where a double would be rounded.
-/

/-- A JavaScript number. -/
inductive JsNumber where
  | nan
  | infinite (negative : Bool)
  | finite (q : ℚ)
deriving DecidableEq, Repr

namespace JsNumber

instance (n : Nat) : OfNat JsNumber n := ⟨.finite n⟩

/-- `a < b`; false when one of them is `NaN`. -/
def lt : JsNumber → JsNumber → Bool
  | .finite a, .finite b => a < b
  | .infinite a, .infinite b => a && !b
  | .infinite a, .finite _ => a
  | .finite _, .infinite b => !b
  | _, _ => false

/-- `a + 1`. -/
def succ : JsNumber → JsNumber
  | .finite q => .finite (q + 1)
  | a => a

/-! ### Numerals -/

private def digit? (base : Nat) (c : Char) : Option Nat :=
  let n :=
    if c.isDigit then c.toNat - '0'.toNat
    else if 'a' ≤ c ∧ c ≤ 'z' then c.toNat - 'a'.toNat + 10
    else if 'A' ≤ c ∧ c ≤ 'Z' then c.toNat - 'A'.toNat + 10
    else base
  if n < base then some n else none

/-- A non-empty sequence of digits. -/
private def digits? (base : Nat) (cs : List Char) : Option Nat :=
  if cs = [] then none
  else cs.foldlM (fun n c => (digit? base c).map fun d => base * n + d) 0

private def sign : List Char → Bool × List Char
  | '-' :: cs => (true, cs)
  | '+' :: cs => (false, cs)
  | cs => (false, cs)

/-- The exponent part of a decimal numeral, from its `e` on. -/
private def exponent? : List Char → Option Int
  | [] => some 0
  | _ :: cs =>
    let (negative, cs) := sign cs
    (digits? 10 cs).map fun n => if negative then -(n : Int) else n

/-- An unsigned decimal numeral, such as `12`, `1.5`, `.5` or `1e3`. -/
private def decimal? (cs : List Char) : Option ℚ := do
  let (mantissa, e) := cs.span fun c => c ≠ 'e' ∧ c ≠ 'E'
  let (whole, fraction) := mantissa.span (· ≠ '.')
  let fraction := fraction.drop 1
  let n ← digits? 10 (whole ++ fraction)
  let e ← exponent? e
  return n * (10 : ℚ) ^ (e - fraction.length)

/-- White space and line terminators, which `Number` and `parseInt` skip. -/
def isWhiteSpace (c : Char) : Bool :=
  let n := c.toNat
  (0x9 ≤ n && n ≤ 0xd) || n = 0x20 || n = 0xa0 || n = 0x1680 || (0x2000 ≤ n && n ≤ 0x200a) ||
    n = 0x2028 || n = 0x2029 || n = 0x202f || n = 0x205f || n = 0x3000 || n = 0xfeff

lemma isWhiteSpace_of_isDigit {c : Char} (h : c.isDigit) : isWhiteSpace c = false := by
  have hbounds : 48 ≤ c.toNat ∧ c.toNat ≤ 57 := Char.isDigit_iff_toNat.mp h
  simp only [isWhiteSpace, Bool.or_eq_false_iff, Bool.and_eq_false_iff, decide_eq_false_iff_not]
  omega

private def trim (cs : List Char) : List Char :=
  ((cs.dropWhile isWhiteSpace).reverse.dropWhile isWhiteSpace).reverse

/-- `Number` of a string. -/
def ofString (s : String) : JsNumber :=
  let unwrap : Option ℚ → JsNumber := fun q => q.elim .nan .finite
  match trim s.toList with
  | [] => 0
  | '0' :: 'x' :: cs | '0' :: 'X' :: cs => unwrap ((digits? 16 cs).map Nat.cast)
  | '0' :: 'o' :: cs | '0' :: 'O' :: cs => unwrap ((digits? 8 cs).map Nat.cast)
  | '0' :: 'b' :: cs | '0' :: 'B' :: cs => unwrap ((digits? 2 cs).map Nat.cast)
  | cs =>
    let (negative, cs) := sign cs
    if cs = "Infinity".toList then .infinite negative
    else unwrap ((decimal? cs).map fun q => if negative then -q else q)

end JsNumber

/-- A value in a header. An object counts through the number its primitive value gives. -/
inductive JsValue where
  | null
  | boolean (b : Bool)
  | number (n : JsNumber)
  | string (s : String)
  | object (primitive : JsNumber)
deriving DecidableEq, Repr

def JsValue.toNumber : JsValue → JsNumber
  | .null => 0
  | .boolean b => if b then 1 else 0
  | .number n => n
  | .string s => .ofString s
  | .object n => n

/-- `Number(value ?? 0)` of a header that may be missing. -/
def JsValue.toNumberOrZero : Option JsValue → JsNumber
  | none | some .null => 0
  | some v => v.toNumber

def JsValue.toBoolean : JsValue → Bool
  | .null => false
  | .boolean b => b
  | .number n => n ≠ 0 ∧ n ≠ .nan
  | .string s => s ≠ ""
  | .object _ => true
