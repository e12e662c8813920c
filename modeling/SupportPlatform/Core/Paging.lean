import Mathlib.Data.List.Nodup
import Mathlib.Data.List.Perm.Basic
import Mathlib.Data.Nat.Cast.Order.Field
import Mathlib.Data.Rat.Floor
import Mathlib.Order.Interval.Finset.Nat
import Mathlib.Tactic.Lemma

/-!
# Pages of sorted lists

A query with an `ORDER BY`, an `OFFSET` and a `LIMIT` answers with a slice of the rows in an order
in which their sort keys ascend. Rows with equal keys come in any order, and in another one in
every query. The pages of one listing are queries of their own, so they fit together for every
order the queries may choose exactly if no class of ties is split between two pages.
-/

namespace Paging

variable {α : Type*}

/-- An order of the rows that a query sorting by `le` may choose. -/
structure Sorts (le : α → α → Bool) (rows l : List α) : Prop where
  perm : l.Perm rows
  pairwise : l.Pairwise fun a b => le a b

/-- The page with number `i`, counted from zero. -/
def page (limit i : ℕ) (l : List α) : List α := (l.drop (i * limit)).take limit

/-- The first `n` pages one after the other, each a slice of an order of its own. -/
def pages (limit n : ℕ) (order : ℕ → List α) : List α :=
  (List.range n).flatMap fun i => page limit i (order i)

/-- How many rows come before a row in every order. -/
def before (le : α → α → Bool) (rows : List α) (a : α) : ℕ :=
  rows.countP fun b => le b a && !le a b

/-- How many rows have the key of a row, itself included. -/
def tied (le : α → α → Bool) (rows : List α) (a : α) : ℕ :=
  rows.countP fun b => le b a && le a b

/-- The first and the last place a class of ties takes are on one page. -/
def Unsplit (le : α → α → Bool) (limit : ℕ) (rows : List α) : Prop :=
  ∀ a ∈ rows, before le rows a / limit = (before le rows a + tied le rows a - 1) / limit

instance (le : α → α → Bool) (limit : ℕ) (rows : List α) : Decidable (Unsplit le limit rows) :=
  inferInstanceAs (Decidable (∀ a ∈ rows, _ = _))

variable {le : α → α → Bool} {rows l : List α} {a b : α} {limit i j : ℕ}

/-! ### The places of a page -/

/-- The places of the page with number `i`, counted from zero. -/
def window (limit i : ℕ) : Finset ℕ := Finset.Ico (i * limit) (i * limit + limit)

/-- Each place is on one page. -/
lemma mem_window (hlimit : 0 < limit) : j ∈ window limit i ↔ j / limit = i := by
  rw [window, Finset.mem_Ico, Nat.div_eq_iff hlimit]
  omega

lemma disjoint_window (hlimit : 0 < limit) (hij : i ≠ j) :
    Disjoint (window limit i) (window limit j) := by
  refine Finset.disjoint_left.mpr fun k hi hj => hij ?_
  rw [← (mem_window hlimit).mp hi, (mem_window hlimit).mp hj]

/-- The pages that begin in front of the end are as many as the quotient, rounded up. -/
lemma lt_ceil_div_iff (hlimit : 0 < limit) {n : ℕ} :
    i < (n + limit - 1) / limit ↔ i * limit < n := by
  rw [Nat.lt_div_iff_mul_lt hlimit]
  omega

lemma le_ceil_div_mul (hlimit : 0 < limit) (n : ℕ) : n ≤ (n + limit - 1) / limit * limit :=
  Nat.not_lt.mp fun h => Nat.lt_irrefl _ ((lt_ceil_div_iff hlimit).mpr h)

/-- A page behind those has no place in front of the end. -/
lemma disjoint_window_range (hlimit : 0 < limit) {n : ℕ} (hi : (n + limit - 1) / limit ≤ i) :
    Disjoint (window limit i) (Finset.range n) := by
  refine Finset.disjoint_left.mpr fun k hk hn => Nat.not_lt.mpr hi ((lt_ceil_div_iff hlimit).mpr ?_)
  exact (Finset.mem_Ico.mp hk).1.trans_lt (Finset.mem_range.mp hn)

lemma ceil_div_natCast (hlimit : 0 < limit) (n : ℕ) :
    ⌈(n : ℚ) / limit⌉₊ = (n + limit - 1) / limit := by
  refine eq_of_forall_lt_iff fun i => ?_
  rw [lt_ceil_div_iff hlimit, Nat.lt_ceil, lt_div_iff₀ (Nat.cast_pos.mpr hlimit)]
  exact_mod_cast Iff.rfl

/-! ### The places of a row -/

lemma before_add_tied (le : α → α → Bool) (rows : List α) (a : α) :
    before le rows a + tied le rows a = rows.countP fun b => le b a := by
  induction rows with
  | nil => rfl
  | cons b rows ih =>
    simp only [before, tied, List.countP_cons] at ih ⊢
    cases le b a <;> cases le a b <;> simp <;> omega

lemma Sorts.before_eq (h : Sorts le rows l) (a : α) : before le l a = before le rows a :=
  h.perm.countP_eq _

lemma Sorts.le_of_lt (h : Sorts le rows l) (hij : i < j) (hi : l[i]? = some a)
    (hj : l[j]? = some b) : le a b := by
  obtain ⟨hilt, rfl⟩ := List.getElem?_eq_some_iff.mp hi
  obtain ⟨hjlt, rfl⟩ := List.getElem?_eq_some_iff.mp hj
  exact List.pairwise_iff_getElem.mp h.pairwise i j hilt hjlt hij

/-- What holds of no row from a place on is counted in front of that place. -/
lemma countP_le_of_forall_ge {p : α → Bool} (h : ∀ j b, i ≤ j → l[j]? = some b → ¬p b) :
    l.countP p ≤ i := by
  have hdrop : (l.drop i).countP p = 0 := by
    refine List.countP_eq_zero.mpr fun b hb => ?_
    obtain ⟨j, hj⟩ := List.mem_iff_getElem?.mp hb
    rw [List.getElem?_drop] at hj
    exact h (i + j) b (Nat.le_add_right i j) hj
  calc l.countP p = (l.take i ++ l.drop i).countP p := by rw [List.take_append_drop]
    _ = (l.take i).countP p := by rw [List.countP_append, hdrop, Nat.add_zero]
    _ ≤ (l.take i).length := List.countP_le_length
    _ ≤ i := List.length_take_le i l

/-- What holds of every row up to a place is counted there at least. -/
lemma lt_countP_of_forall_le {p : α → Bool} (hi : i < l.length)
    (h : ∀ j b, j ≤ i → l[j]? = some b → p b) : i < l.countP p := by
  have htake : (l.take (i + 1)).countP p = (l.take (i + 1)).length := by
    refine List.countP_eq_length.mpr fun b hb => ?_
    obtain ⟨j, hj⟩ := List.mem_iff_getElem?.mp hb
    rw [List.getElem?_take] at hj
    split at hj
    · exact h j b (by omega) hj
    · cases hj
  calc i < (l.take (i + 1)).length := by rw [List.length_take]; omega
    _ = (l.take (i + 1)).countP p := htake.symm
    _ ≤ l.countP p := (List.take_sublist (i + 1) l).countP_le

section Order

variable (trans : ∀ a b c, le a b → le b c → le a c) (total : ∀ a b, (le a b || le b a) = true)
include total

lemma le_self (a : α) : le a a := by simpa using total a a

lemma Sorts.le_of_le (h : Sorts le rows l) (hij : i ≤ j) (hi : l[i]? = some a)
    (hj : l[j]? = some b) : le a b := by
  obtain rfl | hij := Nat.eq_or_lt_of_le hij
  · obtain rfl : a = b := Option.some.inj (hi.symm.trans hj)
    exact le_self total a
  · exact h.le_of_lt hij hi hj

/-- A row stands behind all rows before it and among its ties. -/
lemma Sorts.place (h : Sorts le rows l) (hi : l[i]? = some a) :
    before le rows a ≤ i ∧ i < before le rows a + tied le rows a := by
  have hlt : i < l.length := (List.getElem?_eq_some_iff.mp hi).1
  constructor
  · rw [← h.before_eq a]
    refine countP_le_of_forall_ge fun j b hij hj => ?_
    simp [h.le_of_le total hij hi hj]
  · rw [before_add_tied, ← h.perm.countP_eq]
    exact lt_countP_of_forall_le hlt fun j b hji hj => h.le_of_le total hji hj hi

lemma Sorts.tied_pos (h : Sorts le rows l) (ha : a ∈ rows) : 0 < tied le rows a := by
  obtain ⟨i, hi⟩ := List.mem_iff_getElem?.mp (h.perm.mem_iff.mpr ha)
  have := h.place total hi
  omega

include trans

/-- The row at one of the places of a class of ties belongs to it. -/
lemma Sorts.tied_of_place (h : Sorts le rows l) (hi : l[i]? = some b)
    (hbefore : before le rows a ≤ i) (hlt : i < before le rows a + tied le rows a) :
    le a b ∧ le b a := by
  have hlength : i < l.length := (List.getElem?_eq_some_iff.mp hi).1
  constructor
  · -- otherwise the rows up to this place all come before `a`
    by_contra hab
    have hba : le b a := by simpa [hab] using total a b
    refine absurd hbefore (Nat.not_le.mpr ?_)
    rw [← h.before_eq a]
    refine lt_countP_of_forall_le hlength fun j c hji hj => ?_
    have hcb := h.le_of_le total hji hj hi
    have hac : ¬le a c := fun hac => hab (trans a c b hac hcb)
    simp [trans c b a hcb hba, hac]
  · -- otherwise no row from this place on is among the ties
    by_contra hba
    refine absurd hlt (Nat.not_lt.mpr ?_)
    rw [before_add_tied, ← h.perm.countP_eq]
    refine countP_le_of_forall_ge fun j c hij hj hca => hba ?_
    exact trans b c a (h.le_of_le total hij hi hj) hca

end Order

/-! ### The rows of a page -/

lemma mem_page (hlimit : 0 < limit) : a ∈ page limit i l ↔ ∃ j, l[j]? = some a ∧ j / limit = i := by
  rw [page, List.mem_iff_getElem?]
  constructor
  · rintro ⟨j, hj⟩
    rw [List.getElem?_take] at hj
    split at hj
    case isTrue hlt =>
      rw [List.getElem?_drop] at hj
      refine ⟨i * limit + j, hj, ?_⟩
      rw [Nat.mul_comm, Nat.mul_add_div hlimit, Nat.div_eq_of_lt hlt, Nat.add_zero]
    case isFalse => cases hj
  · rintro ⟨j, hj, rfl⟩
    refine ⟨j % limit, ?_⟩
    rw [List.getElem?_take, if_pos (Nat.mod_lt j hlimit), List.getElem?_drop, Nat.mul_comm,
      Nat.div_add_mod]
    exact hj

lemma page_sublist (limit i : ℕ) (l : List α) : (page limit i l).Sublist l :=
  (List.take_sublist _ _).trans (List.drop_sublist _ _)

lemma mem_pages {order : ℕ → List α} {n : ℕ} (hlimit : 0 < limit) :
    a ∈ pages limit n order ↔ ∃ j, j / limit < n ∧ (order (j / limit))[j]? = some a := by
  simp only [pages, List.mem_flatMap, List.mem_range, mem_page hlimit]
  constructor
  · rintro ⟨_, hn, j, hj, rfl⟩
    exact ⟨j, hn, hj⟩
  · rintro ⟨j, hn, hj⟩
    exact ⟨_, hn, j, hj, rfl⟩

lemma length_page (limit i : ℕ) (l : List α) :
    (page limit i l).length = min limit (l.length - i * limit) := by
  rw [page, List.length_take, List.length_drop]

/-- Rows that sort behind all others may be appended. -/
lemma Sorts.append {rows' l' : List α} (h : Sorts le rows l) (h' : Sorts le rows' l')
    (hle : ∀ a ∈ l, ∀ b ∈ l', le a b) : Sorts le (rows ++ rows') (l ++ l') :=
  ⟨h.perm.append h'.perm, List.pairwise_append.mpr ⟨h.pairwise, h'.pairwise, hle⟩⟩

/-- They leave a full page as it is. -/
lemma page_append {l' : List α} (h : i * limit + limit ≤ l.length) :
    page limit i (l ++ l') = page limit i l := by
  rw [page, page, List.take_drop, List.take_drop, List.take_append_of_le_length h]

/-- The pages of one order are the order itself, as far as they go. -/
lemma pages_const (limit n : ℕ) (l : List α) : pages limit n (fun _ => l) = l.take (n * limit) := by
  induction n with
  | zero => simp [pages]
  | succ n ih =>
    rw [pages] at ih ⊢
    rw [List.range_succ, List.flatMap_append, ih, Nat.succ_mul, List.take_add]
    simp [page]

/-! ### Each row exactly once -/

lemma Sorts.swap {x y : α} {front back : List α} (h : Sorts le rows (front ++ x :: y :: back))
    (hyx : le y x) : Sorts le rows (front ++ y :: x :: back) := by
  refine ⟨((List.Perm.swap x y back).append_left front).trans h.perm, ?_⟩
  have hpairwise := h.pairwise
  simp only [List.pairwise_append, List.pairwise_cons, List.mem_cons] at hpairwise ⊢
  obtain ⟨hfront, ⟨hx, hy, hback⟩, hacross⟩ := hpairwise
  refine ⟨hfront, ⟨?_, fun b hb => hx b (.inr hb), hback⟩, ?_⟩
  · rintro b (rfl | hb)
    · exact hyx
    · exact hy b hb
  · rintro a ha b (rfl | rfl | hb)
    · exact hacross a ha b (.inr (.inl rfl))
    · exact hacross a ha b (.inl rfl)
    · exact hacross a ha b (.inr (.inr hb))

lemma Sorts.place_unique (h : Sorts le rows l) (hrows : rows.Nodup) (hi : l[i]? = some a)
    (hj : l[j]? = some a) : i = j :=
  (List.getElem?_inj (List.getElem?_eq_some_iff.mp hi).1 (h.perm.nodup_iff.mpr hrows)).mp
    (hi.trans hj.symm)

/-- Between a page and a later one there is a place that is the last of its page. -/
lemma exists_boundary (h : i / limit < j / limit) :
    ∃ k, i ≤ k ∧ k < j ∧ k / limit < (k + 1) / limit := by
  induction j with
  | zero => simp at h
  | succ j ih =>
    by_cases hj : i / limit < j / limit
    · obtain ⟨k, hik, hkj, hk⟩ := ih hj
      exact ⟨k, hik, Nat.lt_succ_of_lt hkj, hk⟩
    · refine ⟨j, ?_, Nat.lt_succ_self j, Nat.lt_of_le_of_lt (Nat.le_of_not_lt hj) h⟩
      exact Nat.lt_succ_iff.mp (Nat.lt_of_div_lt_div h)

/-- Two neighbours with equal keys may change places. -/
lemma Sorts.exists_swap (h : Sorts le rows l) (hi : l[i]? = some a) (hsucc : l[i + 1]? = some b)
    (hba : le b a) : ∃ l', Sorts le rows l' ∧ l'[i]? = some b := by
  obtain ⟨hilt, rfl⟩ := List.getElem?_eq_some_iff.mp hi
  obtain ⟨hsucclt, rfl⟩ := List.getElem?_eq_some_iff.mp hsucc
  have hsplit : l = l.take i ++ l[i] :: l[i + 1] :: l.drop (i + 2) := by
    rw [← List.drop_eq_getElem_cons hsucclt, ← List.drop_eq_getElem_cons hilt,
      List.take_append_drop]
  rw [hsplit] at h
  refine ⟨_, h.swap hba, ?_⟩
  rw [List.getElem?_append_right (List.length_take_le i l), List.length_take,
    Nat.min_eq_left (Nat.le_of_lt hilt), Nat.sub_self, List.getElem?_cons_zero]

section Order

variable (trans : ∀ a b c, le a b → le b c → le a c) (total : ∀ a b, (le a b || le b a) = true)
include total

/-- Where no class of ties is split, the page of a row is the same in all orders. -/
lemma Unsplit.page_eq (h : Unsplit le limit rows) (hl : Sorts le rows l) (hi : l[i]? = some a) :
    i / limit = before le rows a / limit := by
  have ha : a ∈ rows := hl.perm.mem_iff.mp (List.mem_of_getElem? hi)
  obtain ⟨hfirst, hlast⟩ := hl.place total hi
  refine Nat.le_antisymm ?_ (Nat.div_le_div_right hfirst)
  rw [h a ha]
  exact Nat.div_le_div_right (by omega)

/-- If no class of ties is split between two pages, the pages that hold all the rows contain each
row exactly once. -/
theorem Unsplit.pages_perm {order : ℕ → List α} {n : ℕ} (h : Unsplit le limit rows)
    (hrows : rows.Nodup) (hlimit : 0 < limit) (hn : rows.length ≤ n * limit)
    (horder : ∀ i, Sorts le rows (order i)) : (pages limit n order).Perm rows := by
  have hnodup : (pages limit n order).Nodup := by
    refine List.nodup_flatMap.mpr ⟨fun i _ => ?_, ?_⟩
    · exact ((horder i).perm.nodup_iff.mpr hrows).sublist (page_sublist limit i _)
    · refine List.nodup_range.imp fun {i j} hij a hi hj => hij ?_
      obtain ⟨i', hi', rfl⟩ := (mem_page hlimit).mp hi
      obtain ⟨j', hj', rfl⟩ := (mem_page hlimit).mp hj
      rw [h.page_eq total (horder _) hi', h.page_eq total (horder _) hj']
  refine (List.perm_ext_iff_of_nodup hnodup hrows).mpr fun a => ?_
  rw [mem_pages hlimit]
  constructor
  · rintro ⟨j, _, hj⟩
    exact (horder _).perm.mem_iff.mp (List.mem_of_getElem? hj)
  · intro ha
    -- the page of `a` is known before the order that this page is cut from is chosen
    have hmem := (horder (before le rows a / limit)).perm.mem_iff.mpr ha
    obtain ⟨j, hj⟩ := List.mem_iff_getElem?.mp hmem
    have hpage := h.page_eq total (horder _) hj
    refine ⟨j, ?_, by rwa [hpage]⟩
    have hlt := (List.getElem?_eq_some_iff.mp hj).1
    rw [(horder _).perm.length_eq] at hlt
    exact Nat.div_lt_of_lt_mul (by rw [Nat.mul_comm]; omega)

include trans

/-- If a class of ties is split, there are orders whose pages miss a row of it. -/
theorem exists_missing_of_not_unsplit (hrows : rows.Nodup) (hlimit : 0 < limit)
    (h : ¬Unsplit le limit rows) :
    ∃ order : ℕ → List α, (∀ i, Sorts le rows (order i)) ∧
      ∃ a ∈ rows, ∀ n, a ∉ pages limit n order := by
  obtain ⟨a, ha, hsplit⟩ : ∃ a ∈ rows,
      before le rows a / limit ≠ (before le rows a + tied le rows a - 1) / limit := by
    simpa [Unsplit] using h
  have hsorted : Sorts le rows (rows.mergeSort le) :=
    ⟨List.mergeSort_perm rows le, List.pairwise_mergeSort trans total rows⟩
  generalize rows.mergeSort le = l at hsorted
  have hlt : before le rows a / limit < (before le rows a + tied le rows a - 1) / limit :=
    Nat.lt_of_le_of_ne (Nat.div_le_div_right (by have := hsorted.tied_pos total ha; omega)) hsplit
  obtain ⟨i, hfirst, hlast, hboundary⟩ := exists_boundary hlt
  have hlength : i + 1 < l.length := by
    have := List.countP_le_length (p := fun b => le b a) (l := rows)
    rw [← before_add_tied, ← hsorted.perm.length_eq] at this
    omega
  have hx : l[i]? = some l[i] := List.getElem?_eq_getElem (by omega)
  have hy : l[i + 1]? = some l[i + 1] := List.getElem?_eq_getElem hlength
  have hxplace : i < before le rows a + tied le rows a := by omega
  have hyplace : i + 1 < before le rows a + tied le rows a := by omega
  obtain ⟨hax, -⟩ := hsorted.tied_of_place trans total hx hfirst hxplace
  obtain ⟨-, hya⟩ := hsorted.tied_of_place trans total hy (Nat.le_succ_of_le hfirst) hyplace
  obtain ⟨l', hsorted', hy'⟩ := hsorted.exists_swap hx hy (trans _ a _ hya hax)
  -- the pages up to the boundary show the row behind it last, those from there on show it first
  refine ⟨fun p => if p ≤ i / limit then l else l', fun p => ?_, l[i + 1], ?_, fun n hmem => ?_⟩
  · by_cases hp : p ≤ i / limit <;> simp only [hp, if_true, if_false] <;> assumption
  · exact hsorted.perm.mem_iff.mp (List.mem_of_getElem? hy)
  · obtain ⟨j, -, hj⟩ := (mem_pages hlimit).mp hmem
    by_cases hp : j / limit ≤ i / limit
    · rw [if_pos hp] at hj
      obtain rfl := hsorted.place_unique hrows hj hy
      omega
    · rw [if_neg hp] at hj
      obtain rfl := hsorted'.place_unique hrows hj hy'
      omega

end Order

end Paging
