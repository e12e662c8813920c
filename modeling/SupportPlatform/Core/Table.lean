import Mathlib.Algebra.GroupWithZero.Nat
import Mathlib.Data.List.Nodup
import Mathlib.Data.List.Lemmas

/-!
# Keyed tables

A table of a relational database as the list of its rows, in the order of insertion. The primary
key constraint is carried by the type. So is the memory of the keys that removed rows had: a key
names one row for ever, as a generated uuid does.
-/

/-- A row type with a primary key. -/
class Keyed (α : Type*) (κ : outParam Type*) where
  key : α → κ

/-- The rows of a table, in insertion order, and the keys of the rows removed from it. -/
structure Table (α : Type*) {κ : Type*} [Keyed α κ] where
  rows : List α
  retired : List κ
  nodup : (rows.map Keyed.key ++ retired).Nodup

namespace Table

variable {α β κ : Type*} [Keyed α κ]

@[ext] lemma ext {s t : Table α} (h : s.rows = t.rows) (h' : s.retired = t.retired) : s = t := by
  cases s; cases t; cases h; cases h'; rfl

/-- The table without rows. -/
def empty : Table α := ⟨[], [], List.nodup_nil⟩

@[simp] lemma rows_empty : (empty : Table α).rows = [] := rfl

@[simp] lemma retired_empty : (empty : Table α).retired = [] := rfl

/-- The keys in use, now or before. -/
def keys (t : Table α) : List κ := t.rows.map Keyed.key ++ t.retired

lemma mem_keys {t : Table α} {k : κ} :
    k ∈ t.keys ↔ (∃ r ∈ t.rows, Keyed.key r = k) ∨ k ∈ t.retired := by
  simp [keys]

lemma key_mem_keys {t : Table α} {r : α} (h : r ∈ t.rows) : Keyed.key r ∈ t.keys :=
  mem_keys.mpr (.inl ⟨r, h, rfl⟩)

lemma nodup_keys (t : Table α) : (t.rows.map Keyed.key).Nodup := (List.nodup_append.mp t.nodup).1

lemma nodup_rows (t : Table α) : t.rows.Nodup := t.nodup_keys.of_map

/-- Two rows of a table with the same key are the same row. -/
lemma eq_of_key_eq (t : Table α) {a b : α} (ha : a ∈ t.rows) (hb : b ∈ t.rows)
    (h : Keyed.key a = Keyed.key b) : a = b :=
  List.inj_on_of_nodup_map t.nodup_keys ha hb h

lemma key_notMem_retired {t : Table α} {r : α} (h : r ∈ t.rows) : Keyed.key r ∉ t.retired :=
  fun hr => (List.nodup_append.mp t.nodup).2.2 _ (List.mem_map_of_mem h) _ hr rfl

/-- A row that stands behind others has none of their keys. -/
lemma key_ne_of_append {t : Table α} {l l' : List α} (h : t.rows = l ++ l') {a b : α} (ha : a ∈ l)
    (hb : b ∈ l') : Keyed.key a ≠ Keyed.key b := by
  have hnodup := t.nodup_keys
  rw [h, List.map_append] at hnodup
  exact (List.nodup_append.mp hnodup).2.2 _ (List.mem_map_of_mem ha) _ (List.mem_map_of_mem hb)

section Lookup

variable [DecidableEq κ]

/-- `findUnique` by primary key. -/
def find? (t : Table α) (k : κ) : Option α := t.rows.find? fun r => Keyed.key r = k

lemma find?_eq_some {t : Table α} {k : κ} {r : α} :
    t.find? k = some r ↔ r ∈ t.rows ∧ Keyed.key r = k := by
  constructor
  · intro h
    exact ⟨List.mem_of_find?_eq_some h, by simpa using List.find?_some h⟩
  · rintro ⟨hr, rfl⟩
    cases h : t.find? (Keyed.key r) with
    | none =>
      have := List.find?_eq_none.mp h r hr
      simp at this
    | some r' =>
      have hr' : r' ∈ t.rows := List.mem_of_find?_eq_some h
      have hk : Keyed.key r' = Keyed.key r := by simpa using List.find?_some h
      rw [t.eq_of_key_eq hr' hr hk]

lemma find?_eq_none {t : Table α} {k : κ} : t.find? k = none ↔ ∀ r ∈ t.rows, Keyed.key r ≠ k := by
  simp [find?]

lemma find?_self {t : Table α} {r : α} (h : r ∈ t.rows) : t.find? (Keyed.key r) = some r :=
  find?_eq_some.mpr ⟨h, rfl⟩

/-- A lookup by the key and more finds the row of the key if it meets the rest. -/
lemma rows_find?_eq_some {t : Table α} {k : κ} {p : α → Bool} {r : α}
    (hp : ∀ r, p r → Keyed.key r = k) : t.rows.find? p = some r ↔ t.find? k = some r ∧ p r := by
  rw [find?_eq_some]
  constructor
  · intro h
    have hr : p r := List.find?_some h
    exact ⟨⟨List.mem_of_find?_eq_some h, hp r hr⟩, hr⟩
  · rintro ⟨⟨hmem, rfl⟩, hr⟩
    obtain ⟨r', hr'⟩ := Option.isSome_iff_exists.mp (List.find?_isSome.mpr ⟨r, hmem, hr⟩)
    have hkey := hp r' (List.find?_some hr')
    rw [hr', t.eq_of_key_eq (List.mem_of_find?_eq_some hr') hmem hkey]

/-- A lookup fails exactly for a key that was never used and for the key of a removed row. -/
lemma find?_isSome {t : Table α} {k : κ} : (t.find? k).isSome ↔ k ∈ t.keys ∧ k ∉ t.retired := by
  rw [Option.isSome_iff_exists, mem_keys]
  simp only [find?_eq_some]
  constructor
  · rintro ⟨r, hr, rfl⟩
    exact ⟨.inl ⟨r, hr, rfl⟩, key_notMem_retired hr⟩
  · rintro ⟨⟨r, hr, hk⟩ | hk, hretired⟩
    · exact ⟨r, hr, hk⟩
    · exact absurd hk hretired

lemma find?_isSome_of_mem {t : Table α} {r : α} (h : r ∈ t.rows) :
    (t.find? (Keyed.key r)).isSome := by
  rw [find?_self h]
  rfl

@[simp] lemma find?_empty (k : κ) : (empty : Table α).find? k = none := rfl

/-- Insert a row; `none` when its key is taken. -/
def insert? (t : Table α) (r : α) : Option (Table α) :=
  if h : Keyed.key r ∈ t.keys then none
  else some ⟨t.rows ++ [r], t.retired, by
    have : (t.rows ++ [r]).map Keyed.key ++ t.retired =
        t.rows.map Keyed.key ++ Keyed.key r :: t.retired := by simp
    rw [this]
    exact List.nodup_middle.mpr (List.nodup_cons.mpr ⟨h, t.nodup⟩)⟩

/-- What a successful insertion tells: the key was free and the row is the last one now. -/
lemma insert?_eq_some {t u : Table α} {r : α} :
    t.insert? r = some u ↔
      Keyed.key r ∉ t.keys ∧ u.rows = t.rows ++ [r] ∧ u.retired = t.retired := by
  unfold insert?
  split
  · next h => simp [h]
  · next h =>
    rw [Option.some.injEq, Table.ext_iff]
    simp only [h, not_false_eq_true, true_and, eq_comm]

lemma insert?_of_free {t : Table α} {r : α} (h : Keyed.key r ∉ t.keys) :
    ∃ u, t.insert? r = some u := by
  simp [insert?, h]

lemma mem_insert? {t u : Table α} {r a : α} (h : t.insert? r = some u) :
    a ∈ u.rows ↔ a ∈ t.rows ∨ a = r := by
  simp [(insert?_eq_some.mp h).2.1]

lemma mem_keys_insert? {t u : Table α} {r : α} {k : κ} (h : t.insert? r = some u) :
    k ∈ u.keys ↔ k ∈ t.keys ∨ k = Keyed.key r := by
  obtain ⟨-, hrows, hretired⟩ := insert?_eq_some.mp h
  simp only [keys, hrows, hretired, List.map_append, List.mem_append, List.map_singleton,
    List.mem_singleton]
  tauto

/-- An insertion keeps every row that could be looked up. -/
lemma find?_insert? {t u : Table α} {r a : α} {k : κ} (h : t.insert? r = some u)
    (ha : t.find? k = some a) : u.find? k = some a := by
  obtain ⟨hmem, hk⟩ := find?_eq_some.mp ha
  exact find?_eq_some.mpr ⟨(mem_insert? h).mpr (.inl hmem), hk⟩

lemma find?_isSome_insert? {t u : Table α} {r : α} {k : κ} (h : t.insert? r = some u)
    (hk : (t.find? k).isSome) : (u.find? k).isSome := by
  obtain ⟨a, ha⟩ := Option.isSome_iff_exists.mp hk
  rw [find?_insert? h ha]
  rfl

lemma find?_insert?_self {t u : Table α} {r : α} (h : t.insert? r = some u) :
    u.find? (Keyed.key r) = some r :=
  find?_self ((mem_insert? h).mpr (.inr rfl))

/-- An insertion leaves the row of every other key as it was. -/
lemma find?_insert?_of_ne {t u : Table α} {r : α} {k : κ} (h : t.insert? r = some u)
    (hk : k ≠ Keyed.key r) : u.find? k = t.find? k := by
  have hne : ¬ Keyed.key r = k := fun heq => hk heq.symm
  rw [find?, (insert?_eq_some.mp h).2.1, List.find?_append]
  simp [hne, find?]

/-- `createMany`: insert rows one after another, all of them or none. -/
def insertAll? (t : Table α) (rs : List α) : Option (Table α) := rs.foldlM insert? t

lemma insertAll?_eq_some {t u : Table α} {rs : List α} (h : t.insertAll? rs = some u) :
    u.rows = t.rows ++ rs ∧ u.retired = t.retired := by
  induction rs generalizing t with
  | nil => cases h; simp
  | cons r rs ih =>
    obtain ⟨v, hv, hu⟩ := Option.bind_eq_some_iff.mp (by simpa [insertAll?] using h)
    obtain ⟨-, hrows, hretired⟩ := insert?_eq_some.mp hv
    obtain ⟨hrows', hretired'⟩ := ih hu
    exact ⟨by simp [hrows', hrows], hretired'.trans hretired⟩

end Lookup

section Update

/-- `updateMany`: rewrite the rows that satisfy `p`, leaving the keys as they are. -/
def modifyWhere (t : Table α) (p : α → Bool) (f : α → α)
    (hf : ∀ r, Keyed.key (f r) = Keyed.key r) : Table α :=
  ⟨t.rows.map fun r => if p r then f r else r, t.retired, by
    rw [List.map_map]
    convert t.nodup using 2
    refine List.map_congr_left fun r _ => ?_
    simp only [Function.comp]
    split <;> simp [hf]⟩

@[simp] lemma rows_modifyWhere (t : Table α) (p : α → Bool) (f : α → α)
    (hf : ∀ r, Keyed.key (f r) = Keyed.key r) :
    (t.modifyWhere p f hf).rows = t.rows.map fun r => if p r then f r else r := rfl

@[simp] lemma retired_modifyWhere (t : Table α) (p : α → Bool) (f : α → α)
    (hf : ∀ r, Keyed.key (f r) = Keyed.key r) :
    (t.modifyWhere p f hf).retired = t.retired := rfl

/-- A column that the update does not write is the same in all rows. -/
lemma map_rows_modifyWhere (t : Table α) (p : α → Bool) (f : α → α)
    (hf : ∀ r, Keyed.key (f r) = Keyed.key r) (g : α → β) (hg : ∀ r, p r → g (f r) = g r) :
    (t.modifyWhere p f hf).rows.map g = t.rows.map g := by
  rw [rows_modifyWhere, List.map_map]
  refine List.map_congr_left fun r _ => ?_
  by_cases hp : p r <;> simp [hp, hg]

/-- An update counts nothing twice and loses nothing that it leaves in its class. -/
lemma countP_modifyWhere (t : Table α) (p q : α → Bool) (f : α → α)
    (hf : ∀ r, Keyed.key (f r) = Keyed.key r) (hq : ∀ r, q (f r) = q r) :
    (t.modifyWhere p f hf).rows.countP q = t.rows.countP q := by
  rw [rows_modifyWhere, List.countP_map]
  refine List.countP_congr fun r _ => ?_
  by_cases hp : p r <;> simp [hp, hq]

@[simp] lemma keys_modifyWhere (t : Table α) (p : α → Bool) (f : α → α)
    (hf : ∀ r, Keyed.key (f r) = Keyed.key r) : (t.modifyWhere p f hf).keys = t.keys := by
  rw [keys, keys, map_rows_modifyWhere t p f hf Keyed.key fun r _ => hf r, retired_modifyWhere]

lemma mem_modifyWhere {t : Table α} {p : α → Bool} {f : α → α}
    {hf : ∀ r, Keyed.key (f r) = Keyed.key r} {r : α} :
    r ∈ (t.modifyWhere p f hf).rows ↔ ∃ a ∈ t.rows, (if p a then f a else a) = r := by
  rw [rows_modifyWhere, List.mem_map]

/-- Rows outside a class that the update neither enters nor leaves stay as they are. -/
lemma filter_modifyWhere (t : Table α) (p q : α → Bool) (f : α → α)
    (hf : ∀ r, Keyed.key (f r) = Keyed.key r)
    (h : ∀ r ∈ t.rows, p r → q r = false ∧ q (f r) = false) :
    (t.modifyWhere p f hf).rows.filter q = t.rows.filter q := by
  rw [rows_modifyWhere]
  generalize t.rows = rows at h
  induction rows with
  | nil => rfl
  | cons r rows ih =>
    have ih := ih fun a ha => h a (List.mem_cons_of_mem r ha)
    rw [List.map_cons, List.filter_cons, List.filter_cons, ih]
    by_cases hp : p r
    · obtain ⟨hq, hq'⟩ := h r List.mem_cons_self hp
      simp [hp, hq, hq']
    · simp [hp]

/-- A row that is no longer counted makes a difference of one. -/
lemma countP_ne [DecidableEq κ] (t : Table α) {p : α → Bool} {r : α} (hr : r ∈ t.rows)
    (hp : p r) :
    t.rows.countP (fun a => p a && Keyed.key a ≠ Keyed.key r) + 1 = t.rows.countP p := by
  have hkeys := t.nodup_keys
  generalize t.rows = rows at hr hkeys
  induction rows with
  | nil => cases hr
  | cons a rows ih =>
    obtain ⟨hnot, hnodup⟩ := List.nodup_cons.mp hkeys
    simp only [List.countP_cons]
    rcases List.mem_cons.mp hr with rfl | hr
    · have hrest : rows.countP (fun a => p a && Keyed.key a ≠ Keyed.key r) = rows.countP p := by
        refine List.countP_congr fun a ha => ?_
        have hne : Keyed.key a ≠ Keyed.key r := fun h => hnot (h ▸ List.mem_map_of_mem ha)
        simp [hne]
      simp only [hrest, hp, ne_eq, not_true_eq_false, decide_false, Bool.and_false,
        Bool.false_eq_true, if_false, if_true]
    · have hne : Keyed.key a ≠ Keyed.key r := fun h => hnot (h ▸ List.mem_map_of_mem hr)
      have := ih hr hnodup
      simp only [ne_eq] at this
      simp only [hne, ne_eq, not_false_eq_true, decide_true, Bool.and_true]
      omega

/-- `deleteMany`: the keys of the removed rows stay in use. -/
def removeWhere (t : Table α) (p : α → Bool) : Table α :=
  ⟨t.rows.filter (!p ·), (t.rows.filter p).map Keyed.key ++ t.retired, by
    refine (List.Perm.nodup_iff ?_).mpr t.nodup
    rw [← List.append_assoc, ← List.map_append]
    exact (((List.perm_append_comm.trans (List.filter_append_perm p t.rows)).map _).append_right _)⟩

@[simp] lemma rows_removeWhere (t : Table α) (p : α → Bool) :
    (t.removeWhere p).rows = t.rows.filter (!p ·) := rfl

lemma mem_keys_removeWhere {t : Table α} {p : α → Bool} {k : κ} :
    k ∈ (t.removeWhere p).keys ↔ k ∈ t.keys := by
  refine List.Perm.mem_iff ?_
  rw [keys, keys, removeWhere, ← List.append_assoc, ← List.map_append]
  exact (((List.perm_append_comm.trans (List.filter_append_perm p t.rows)).map _).append_right _)

variable [DecidableEq κ]

/-- `update` by primary key. -/
def modify (t : Table α) (k : κ) (f : α → α) (hf : ∀ r, Keyed.key (f r) = Keyed.key r) : Table α :=
  t.modifyWhere (fun r => Keyed.key r = k) f hf

lemma find?_modifyWhere (t : Table α) (p : α → Bool) (f : α → α)
    (hf : ∀ r, Keyed.key (f r) = Keyed.key r) (k : κ) :
    (t.modifyWhere p f hf).find? k = (t.find? k).map fun r => if p r then f r else r := by
  unfold find?
  rw [rows_modifyWhere, List.find?_map]
  congr 2
  funext r
  simp only [Function.comp]
  split <;> simp [hf]

@[simp] lemma find?_isSome_modifyWhere (t : Table α) (p : α → Bool) (f : α → α)
    (hf : ∀ r, Keyed.key (f r) = Keyed.key r) (k : κ) :
    ((t.modifyWhere p f hf).find? k).isSome = (t.find? k).isSome := by
  rw [find?_modifyWhere, Option.isSome_map]

lemma find?_modify (t : Table α) (k k' : κ) (f : α → α)
    (hf : ∀ r, Keyed.key (f r) = Keyed.key r) :
    (t.modify k f hf).find? k' = if k' = k then (t.find? k').map f else t.find? k' := by
  rw [modify, find?_modifyWhere]
  cases h : t.find? k' with
  | none => simp
  | some r =>
    obtain ⟨-, rfl⟩ := find?_eq_some.mp h
    split_ifs with hk <;> simp [hk]

/-- An update by the key of a row replaces it where it is. -/
lemma exists_rows_modify {t : Table α} {a : α} (ha : a ∈ t.rows) (f : α → α)
    (hf : ∀ r, Keyed.key (f r) = Keyed.key r) :
    ∃ front back, t.rows = front ++ a :: back ∧
      (t.modify (Keyed.key a) f hf).rows = front ++ f a :: back := by
  obtain ⟨front, back, hrows⟩ := List.append_of_mem ha
  have hothers : ∀ r ∈ front ++ back, Keyed.key r ≠ Keyed.key a := by
    have hnodup := t.nodup_keys
    rw [hrows, List.map_append, List.map_cons, List.nodup_middle, ← List.map_append] at hnodup
    exact fun r hr heq => (List.nodup_cons.mp hnodup).1 (heq ▸ List.mem_map_of_mem hr)
  have hkept (l : List α) (hl : ∀ r ∈ l, Keyed.key r ≠ Keyed.key a) :
      l.map (fun r => if Keyed.key r = Keyed.key a then f r else r) = l := by
    conv_rhs => rw [← List.map_id l]
    exact List.map_congr_left fun r hr => if_neg (hl r hr)
  have hfront := hkept front fun r hr => hothers r (List.mem_append_left _ hr)
  have hback := hkept back fun r hr => hothers r (List.mem_append_right _ hr)
  refine ⟨front, back, hrows, ?_⟩
  rw [modify, rows_modifyWhere, hrows]
  simp only [List.map_append, List.map_cons, decide_eq_true_eq, hfront, hback, if_true]

/-- An update of one row changes a count by what it changes of this row. -/
lemma countP_modify {t : Table α} {a : α} (ha : a ∈ t.rows) (p : α → Bool) (f : α → α)
    (hf : ∀ r, Keyed.key (f r) = Keyed.key r) :
    (t.modify (Keyed.key a) f hf).rows.countP p + (p a).toNat =
      t.rows.countP p + (p (f a)).toNat := by
  obtain ⟨front, back, hrows, hmodify⟩ := exists_rows_modify ha f hf
  rw [hmodify, hrows]
  simp only [List.countP_append, List.countP_cons]
  cases p a <;> cases p (f a) <;> simp <;> omega

/-- An update of one row changes a total by what it changes of this row. -/
lemma sum_modify {t : Table α} {a : α} (ha : a ∈ t.rows) (g : α → Nat) (f : α → α)
    (hf : ∀ r, Keyed.key (f r) = Keyed.key r) :
    ((t.modify (Keyed.key a) f hf).rows.map g).sum + g a = (t.rows.map g).sum + g (f a) := by
  obtain ⟨front, back, hrows, hmodify⟩ := exists_rows_modify ha f hf
  rw [hmodify, hrows]
  simp only [List.map_append, List.map_cons, List.sum_append, List.sum_cons]
  omega

/-- The rows after an update by the key of a row: its new version, and the other rows. -/
lemma mem_modify {t : Table α} {a : α} (ha : a ∈ t.rows) {f : α → α}
    (hf : ∀ r, Keyed.key (f r) = Keyed.key r) {r : α} :
    r ∈ (t.modify (Keyed.key a) f hf).rows ↔
      r = f a ∨ (r ∈ t.rows ∧ Keyed.key r ≠ Keyed.key a) := by
  rw [modify, mem_modifyWhere]
  constructor
  · rintro ⟨b, hb, rfl⟩
    by_cases hk : Keyed.key b = Keyed.key a
    · obtain rfl := t.eq_of_key_eq hb ha hk
      simp
    · simp [hk, hb]
  · rintro (rfl | ⟨hr, hk⟩)
    · exact ⟨a, ha, by simp⟩
    · exact ⟨r, hr, by simp [hk]⟩

end Update

/-! ### Columns -/

section Column

variable [DecidableEq κ] {t u : Table α} {g : α → β}

/-- The value of a column in the row with a key. -/
def column (t : Table α) (g : α → β) (k : κ) : Option β := (t.find? k).map g

lemma column_eq_some {k : κ} {b : β} :
    t.column g k = some b ↔ ∃ r ∈ t.rows, Keyed.key r = k ∧ g r = b := by
  simp only [column, Option.map_eq_some_iff, find?_eq_some, and_assoc]

lemma column_self {r : α} (h : r ∈ t.rows) : t.column g (Keyed.key r) = some (g r) :=
  column_eq_some.mpr ⟨r, h, rfl, rfl⟩

lemma column_eq_none {k : κ} : t.column g k = none ↔ ∀ r ∈ t.rows, Keyed.key r ≠ k := by
  rw [column, Option.map_eq_none_iff, find?_eq_none]

@[simp] lemma column_isSome {k : κ} : (t.column g k).isSome = (t.find? k).isSome := by
  rw [column, Option.isSome_map]

lemma column_insert? {r : α} {k : κ} (h : t.insert? r = some u) (hk : k ≠ Keyed.key r) :
    u.column g k = t.column g k := by
  rw [column, find?_insert?_of_ne h hk, column]

lemma column_modifyWhere {p : α → Bool} {f : α → α} {hf : ∀ r, Keyed.key (f r) = Keyed.key r}
    (hg : ∀ r, g (f r) = g r) (k : κ) : (t.modifyWhere p f hf).column g k = t.column g k := by
  rw [column, find?_modifyWhere, Option.map_map, column]
  congr 1
  funext r
  simp only [Function.comp]
  split <;> simp [hg]

lemma column_removeWhere [DecidableEq β] {p : α → Bool} {b : β} (hp : ∀ r, p r = decide (g r = b))
    (k : κ) : (t.removeWhere p).column g k =
      if t.column g k = some b then none else t.column g k := by
  ext c
  simp only [column_eq_some, rows_removeWhere, List.mem_filter, hp]
  split_ifs with h
  · obtain ⟨a, ha, rfl, rfl⟩ := h
    simp only [iff_false, not_exists, not_and]
    rintro r ⟨hr, hgr⟩ hk
    have := t.eq_of_key_eq hr ha hk
    simp [this] at hgr
  · simp only [column_eq_some]
    constructor
    · rintro ⟨r, ⟨hr, -⟩, hk, hc⟩
      exact ⟨r, hr, hk, hc⟩
    · rintro ⟨r, hr, hk, hc⟩
      refine ⟨r, ⟨hr, ?_⟩, hk, hc⟩
      have : g r ≠ b := fun hb => h ⟨r, hr, hk, hb⟩
      simp [this]

/-- Removed keys are those of the removed class and of earlier removals. -/
lemma mem_retired_removeWhere [DecidableEq β] {p : α → Bool} {b : β}
    (hp : ∀ r, p r = decide (g r = b)) {k : κ} :
    k ∈ (t.removeWhere p).retired ↔ t.column g k = some b ∨ k ∈ t.retired := by
  simp only [removeWhere, List.mem_append, List.mem_map, List.mem_filter, hp, decide_eq_true_eq,
    column_eq_some, and_assoc]
  simp only [and_comm]

/-- A row outside the removed class is still there. -/
lemma find?_isSome_removeWhere [DecidableEq β] {p : α → Bool} {b : β}
    (hp : ∀ r, p r = decide (g r = b)) {k : κ} (h : (t.find? k).isSome)
    (hne : t.column g k ≠ some b) : ((t.removeWhere p).find? k).isSome := by
  rw [← column_isSome (g := g), column_removeWhere hp, if_neg hne, column_isSome]
  exact h

end Column

/-! ### What a key names -/

/-- `k` is in use, and the row it names, as long as there is one, has `b` in the column `g`. -/
def Names (t : Table α) (g : α → β) (k : κ) (b : β) : Prop :=
  k ∈ t.keys ∧ ∀ r ∈ t.rows, Keyed.key r = k → g r = b

lemma names_of_mem {t : Table α} {r : α} (g : α → β) (h : r ∈ t.rows) :
    t.Names g (Keyed.key r) (g r) :=
  ⟨key_mem_keys h, fun _ ha hk => congrArg g (t.eq_of_key_eq ha h hk)⟩

lemma names_of_column [DecidableEq κ] {t : Table α} {g : α → β} {k : κ} {b : β}
    (h : t.column g k = some b) : t.Names g k b := by
  obtain ⟨r, hr, rfl, rfl⟩ := column_eq_some.mp h
  exact names_of_mem g hr

lemma Names.column_eq [DecidableEq κ] {t : Table α} {g : α → β} {k : κ} {b : β}
    (h : t.Names g k b) (hr : k ∉ t.retired) : t.column g k = some b := by
  obtain ⟨r, hr, hk⟩ := (mem_keys.mp h.1).resolve_right hr
  exact column_eq_some.mpr ⟨r, hr, hk, h.2 r hr hk⟩

/-- The row under `k`, as long as there is one, has `b` in the column `g`, and `b` is `b₀` as long
as the key has not been used. -/
structure Tracks (t : Table α) (g : α → β) (k : κ) (b₀ b : β) : Prop where
  row : ∀ r ∈ t.rows, Keyed.key r = k → g r = b
  fresh : k ∉ t.keys → b = b₀

namespace Tracks

variable {t u : Table α} {g : α → β} {k : κ} {b₀ b : β}

lemma empty (g : α → β) (k : κ) (b₀ : β) : (Table.empty : Table α).Tracks g k b₀ b₀ :=
  ⟨fun _ hr => (by cases hr), fun _ => rfl⟩

/-- A new row starts with the first value. -/
lemma insert? [DecidableEq κ] {r : α} (ht : t.Tracks g k b₀ b) (h : t.insert? r = some u)
    (hr : g r = b₀) : u.Tracks g k b₀ b := by
  refine ⟨fun a ha hk => ?_,
    fun hk => ht.fresh fun hmem => hk ((mem_keys_insert? h).mpr (.inl hmem))⟩
  rcases (mem_insert? h).mp ha with ha | rfl
  · exact ht.row a ha hk
  · exact hr.trans (ht.fresh (hk ▸ (insert?_eq_some.mp h).1)).symm

/-- An update that leaves the column of the row as it is. -/
lemma modifyWhere (ht : t.Tracks g k b₀ b) {p : α → Bool} {f : α → α}
    (hf : ∀ r, Keyed.key (f r) = Keyed.key r) (hu : u = t.modifyWhere p f hf)
    (hg : ∀ r, p r → Keyed.key r = k → g (f r) = g r) : u.Tracks g k b₀ b := by
  subst hu
  refine ⟨fun r hr hk => ?_, fun hk => ht.fresh (keys_modifyWhere t p f hf ▸ hk)⟩
  obtain ⟨a, ha, rfl⟩ := mem_modifyWhere.mp hr
  split_ifs at hk ⊢ with hp
  · rw [hf] at hk
    exact (hg a hp hk).trans (ht.row a ha hk)
  · exact ht.row a ha hk

/-- An update of another row. -/
lemma modify_of_ne [DecidableEq κ] (ht : t.Tracks g k b₀ b) {k' : κ} {f : α → α}
    (hf : ∀ r, Keyed.key (f r) = Keyed.key r) (hu : u = t.modify k' f hf) (hk : k' ≠ k) :
    u.Tracks g k b₀ b :=
  ht.modifyWhere hf hu fun _ hp hr => absurd ((of_decide_eq_true hp).symm.trans hr) hk

/-- An update of the row itself. -/
lemma modify [DecidableEq κ] {b' : β} {r : α} (h : t.find? k = some r) {f : α → α}
    (hf : ∀ r, Keyed.key (f r) = Keyed.key r) (hu : u = t.modify k f hf) (hg : g (f r) = b') :
    u.Tracks g k b₀ b' := by
  subst hu
  obtain ⟨hr, rfl⟩ := find?_eq_some.mp h
  refine ⟨fun a ha hk => ?_, fun hk => absurd (key_mem_keys hr) ?_⟩
  · rcases (mem_modify hr hf).mp ha with rfl | ⟨-, hne⟩
    · exact hg
    · exact absurd hk hne
  · rwa [Table.modify, keys_modifyWhere] at hk

lemma removeWhere (ht : t.Tracks g k b₀ b) (p : α → Bool) :
    (t.removeWhere p).Tracks g k b₀ b :=
  ⟨fun r hr => ht.row r (List.mem_of_mem_filter hr),
    fun hk => ht.fresh fun hmem => hk (mem_keys_removeWhere.mpr hmem)⟩

end Tracks

/-- A table of later: keys stay in use, and a row under an old key keeps its column `g`. -/
def Evolves (g : α → β) (t u : Table α) : Prop :=
  (∀ k ∈ t.keys, k ∈ u.keys) ∧
    ∀ r ∈ u.rows, Keyed.key r ∈ t.keys → ∃ a ∈ t.rows, Keyed.key a = Keyed.key r ∧ g a = g r

namespace Evolves

variable {g : α → β} {t u v : Table α}

@[refl] lemma refl (g : α → β) (t : Table α) : Evolves g t t :=
  ⟨fun _ h => h, fun r hr _ => ⟨r, hr, rfl, rfl⟩⟩

lemma trans (h : Evolves g t u) (h' : Evolves g u v) : Evolves g t v := by
  refine ⟨fun k hk => h'.1 k (h.1 k hk), fun r hr hk => ?_⟩
  obtain ⟨b, hb, hbk, hbg⟩ := h'.2 r hr (h.1 _ hk)
  obtain ⟨a, ha, hak, hag⟩ := h.2 b hb (hbk ▸ hk)
  exact ⟨a, ha, hak.trans hbk, hag.trans hbg⟩

/-- What a key names in a column that never changes, it names from then on. -/
lemma names {k : κ} {b : β} (h : Evolves g t u) (hn : t.Names g k b) : u.Names g k b := by
  refine ⟨h.1 k hn.1, ?_⟩
  rintro r hr rfl
  obtain ⟨a, ha, hk, hg⟩ := h.2 r hr hn.1
  exact hg ▸ hn.2 a ha hk

lemma of_insert? [DecidableEq κ] {r : α} (h : t.insert? r = some u) : Evolves g t u := by
  refine ⟨fun k hk => (mem_keys_insert? h).mpr (.inl hk), fun a ha hk => ?_⟩
  rcases (mem_insert? h).mp ha with ha | rfl
  · exact ⟨a, ha, rfl, rfl⟩
  · exact absurd hk (insert?_eq_some.mp h).1

lemma of_insertAll? [DecidableEq κ] {rs : List α} (h : t.insertAll? rs = some u) :
    Evolves g t u := by
  induction rs generalizing t with
  | nil => cases h; rfl
  | cons r rs ih =>
    obtain ⟨v, hv, hu⟩ := Option.bind_eq_some_iff.mp (by simpa [insertAll?] using h)
    exact (of_insert? hv).trans (ih hu)

lemma modifyWhere (t : Table α) {p : α → Bool} {f : α → α}
    {hf : ∀ r, Keyed.key (f r) = Keyed.key r} (hg : ∀ r, g (f r) = g r) :
    Evolves g t (t.modifyWhere p f hf) := by
  refine ⟨fun k hk => (keys_modifyWhere t p f hf).symm ▸ hk, fun r hr _ => ?_⟩
  obtain ⟨a, ha, rfl⟩ := mem_modifyWhere.mp hr
  refine ⟨a, ha, ?_⟩
  split <;> simp [hf, hg]

lemma modify [DecidableEq κ] (t : Table α) {k : κ} {f : α → α}
    {hf : ∀ r, Keyed.key (f r) = Keyed.key r} (hg : ∀ r, g (f r) = g r) :
    Evolves g t (t.modify k f hf) :=
  modifyWhere t hg

lemma removeWhere (t : Table α) (p : α → Bool) : Evolves g t (t.removeWhere p) :=
  ⟨fun _ hk => mem_keys_removeWhere.mpr hk,
    fun r hr _ => ⟨r, (List.mem_filter.mp hr).1, rfl, rfl⟩⟩

end Evolves

end Table
