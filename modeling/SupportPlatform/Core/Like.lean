import Mathlib.Data.List.Infix

/-!
# Patterns with wildcards

The patterns of `LIKE`: `%` stands for any text, `_` for any one character, a backslash takes the
character behind it for itself. Whether a text matches is decided for any notion of two characters
being the same, so that the case of letters may be left out of account.
-/

namespace Like

inductive Item (α : Type*) where
  | any
  | one
  | char (c : α)
deriving DecidableEq, Repr

abbrev Pattern (α : Type*) := List (Item α)

/-- The pattern that a text writes. -/
def parse : List Char → Pattern Char
  | [] => []
  | '\\' :: c :: cs => .char c :: parse cs
  | '%' :: cs => .any :: parse cs
  | '_' :: cs => .one :: parse cs
  | c :: cs => .char c :: parse cs

/-- The characters of a text that write nothing but themselves in a pattern. -/
def Plain (cs : List Char) : Prop :=
  ∀ c ∈ cs, c ≠ '%' ∧ c ≠ '_' ∧ c ≠ '\\'

instance (cs : List Char) : Decidable (Plain cs) :=
  inferInstanceAs (Decidable (∀ c ∈ cs, c ≠ '%' ∧ c ≠ '_' ∧ c ≠ '\\'))

section

variable {α β : Type*} {same : α → α → Bool} {p : Pattern α} {text : List α}

def isMatch (same : α → α → Bool) : Pattern α → List α → Bool
  | [], text => text.isEmpty
  | .any :: p, text => text.tails.any (isMatch same p)
  | .one :: _, [] => false
  | .one :: p, _ :: text => isMatch same p text
  | .char _ :: _, [] => false
  | .char c :: p, d :: text => same c d && isMatch same p text

/-- The text matches the pattern, item by item. -/
inductive Matches (same : α → α → Bool) : Pattern α → List α → Prop
  | nil : Matches same [] []
  | any {q : Pattern α} {t : List α} (s : List α) (h : Matches same q t) :
    Matches same (.any :: q) (s ++ t)
  | one {q : Pattern α} {t : List α} (c : α) (h : Matches same q t) :
    Matches same (.one :: q) (c :: t)
  | char {q : Pattern α} {t : List α} {c d : α} (hsame : same c d) (h : Matches same q t) :
    Matches same (.char c :: q) (d :: t)

@[simp]
lemma matches_nil : Matches same [] text ↔ text = [] := by
  constructor
  · intro h
    cases h
    rfl
  · rintro rfl
    exact .nil

lemma matches_any : Matches same (.any :: p) text ↔ ∃ t, t <:+ text ∧ Matches same p t := by
  constructor
  · intro h
    cases h with
    | any s h => exact ⟨_, List.suffix_append s _, h⟩
  · rintro ⟨t, ⟨s, rfl⟩, h⟩
    exact .any s h

lemma matches_one : Matches same (.one :: p) text ↔ ∃ c t, text = c :: t ∧ Matches same p t := by
  constructor
  · intro h
    cases h with
    | one c h => exact ⟨c, _, rfl, h⟩
  · rintro ⟨c, t, rfl, h⟩
    exact .one c h

lemma matches_char {c : α} :
    Matches same (.char c :: p) text ↔ ∃ d t, text = d :: t ∧ same c d ∧ Matches same p t := by
  constructor
  · intro h
    cases h with
    | char hsame h => exact ⟨_, _, rfl, hsame, h⟩
  · rintro ⟨d, t, rfl, hsame, h⟩
    exact .char hsame h

/-- The decision agrees with the relation. -/
lemma isMatch_iff : isMatch same p text ↔ Matches same p text := by
  induction p generalizing text with
  | nil => simp [isMatch]
  | cons item p ih =>
    cases item with
    | any => simp [isMatch, matches_any, ih]
    | one =>
      rw [matches_one]
      cases text <;> simp [isMatch, ih]
    | char c =>
      rw [matches_char]
      cases text <;> simp [isMatch, ih]

/-! ### A pattern between two wildcards -/

lemma matches_append_any :
    Matches same (p ++ [.any]) text ↔ ∃ s, s <+: text ∧ Matches same p s := by
  induction p generalizing text with
  | nil =>
    simp only [List.nil_append, matches_any, matches_nil]
    exact ⟨fun _ => ⟨[], List.nil_prefix, rfl⟩, fun _ => ⟨[], List.nil_suffix, rfl⟩⟩
  | cons item p ih =>
    rw [List.cons_append]
    constructor
    · intro h
      cases h with
      | any s h =>
        obtain ⟨t, ht, hmatch⟩ := ih.mp h
        exact ⟨s ++ t, (List.prefix_append_right_inj s).mpr ht, .any s hmatch⟩
      | one c h =>
        obtain ⟨t, ht, hmatch⟩ := ih.mp h
        exact ⟨c :: t, List.cons_prefix_cons.mpr ⟨rfl, ht⟩, .one c hmatch⟩
      | char hsame h =>
        obtain ⟨t, ht, hmatch⟩ := ih.mp h
        exact ⟨_ :: t, List.cons_prefix_cons.mpr ⟨rfl, ht⟩, .char hsame hmatch⟩
    · rintro ⟨s, ⟨rest, rfl⟩, h⟩
      cases h with
      | any s h =>
        rw [List.append_assoc]
        exact .any s (ih.mpr ⟨_, List.prefix_append _ rest, h⟩)
      | one c h => exact .one c (ih.mpr ⟨_, List.prefix_append _ rest, h⟩)
      | char hsame h => exact .char hsame (ih.mpr ⟨_, List.prefix_append _ rest, h⟩)

/-- Between two wildcards, the pattern is searched for in the text. -/
lemma matches_between :
    Matches same (.any :: p ++ [.any]) text ↔ ∃ s, s <:+: text ∧ Matches same p s := by
  rw [List.cons_append, matches_any]
  constructor
  · rintro ⟨t, hsuffix, h⟩
    obtain ⟨s, hprefix, hmatch⟩ := matches_append_any.mp h
    exact ⟨s, hprefix.isInfix.trans hsuffix.isInfix, hmatch⟩
  · rintro ⟨s, ⟨before, after, rfl⟩, h⟩
    refine ⟨s ++ after, ?_, matches_append_any.mpr ⟨s, List.prefix_append s after, h⟩⟩
    rw [List.append_assoc]
    exact List.suffix_append before _

/-- Characters are matched by those of the same form. -/
lemma matches_chars [DecidableEq β] {form : α → β} {cs : List α} :
    Matches (fun c d => decide (form c = form d)) (cs.map .char) text ↔
      cs.map form = text.map form := by
  induction cs generalizing text with
  | nil => simp [eq_comm]
  | cons c cs ih =>
    rw [List.map_cons, matches_char]
    cases text with
    | nil => simp
    | cons d text => simp [ih]

end

/-! ### Plain texts -/

lemma parse_append_of_plain {cs : List Char} (h : Plain cs) (ds : List Char) :
    parse (cs ++ ds) = cs.map .char ++ parse ds := by
  induction cs with
  | nil => rfl
  | cons c cs ih =>
    obtain ⟨hpercent, hunderscore, hbackslash⟩ := h c List.mem_cons_self
    have hcs : parse (cs ++ ds) = cs.map .char ++ parse ds :=
      ih fun c' hc' => h c' (List.mem_cons_of_mem c hc')
    rw [List.cons_append, List.map_cons, List.cons_append, ← hcs, parse]
    · rintro d ds' rfl
      exact (hbackslash rfl).elim
    · exact hpercent
    · exact hunderscore

/-- A text matches `%search%`, for a search without wildcards, if and only if it contains it, up
to the form of the characters. -/
lemma isMatch_between_iff_of_plain {β : Type*} [DecidableEq β] {form : Char → β}
    {search text : List Char} (h : Plain search) :
    isMatch (fun c d => decide (form c = form d)) (parse ('%' :: search ++ ['%'])) text ↔
      search.map form <:+: text.map form := by
  have hparse : parse ('%' :: search ++ ['%']) = .any :: search.map .char ++ [.any] := by
    rw [List.cons_append, parse, parse_append_of_plain h]
    rfl
  rw [isMatch_iff, hparse, matches_between, List.infix_map_iff]
  simp only [matches_chars]

end Like
