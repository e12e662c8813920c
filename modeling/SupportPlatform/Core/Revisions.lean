import Mathlib.Order.Basic
import SupportPlatform.Core.Table

/-!
# Revisions of rows

What may become of a row while a table is written: the changes that are allowed form a preorder,
which is put together column by column. A table lasts if each of its rows is still there in an
allowed version, or had a reason to go.
-/

/-- The changes that a row may undergo. -/
structure Revision (α : Type*) where
  allows : α → α → Prop
  refl : ∀ a, allows a a
  trans : ∀ {a b c}, allows a b → allows b c → allows a c

namespace Revision

variable {α β : Type*}

/-- The columns `g` never change. -/
def keeping (g : α → β) : Revision α where
  allows a b := g b = g a
  refl _ := rfl
  trans h h' := h'.trans h

/-- The columns `g` never decrease. -/
def growing [Preorder β] (g : α → β) : Revision α where
  allows a b := g a ≤ g b
  refl _ := le_rfl
  trans h h' := h.trans h'

/-- The reference `g` never changes but to null. -/
def fading (g : α → Option β) : Revision α where
  allows a b := g b = g a ∨ g b = none
  refl _ := .inl rfl
  trans h h' := h'.elim (fun h' => h.imp h'.trans h'.trans) .inr

/-- The changes that both allow. -/
def both (R S : Revision α) : Revision α where
  allows a b := R.allows a b ∧ S.allows a b
  refl a := ⟨R.refl a, S.refl a⟩
  trans h h' := ⟨R.trans h.1 h'.1, S.trans h.2 h'.2⟩

end Revision

namespace Table

variable {α κ : Type*} [Keyed α κ] {R : Revision α} {gone gone' : α → Prop} {t u v : Table α}

/-- The rows of a table at a later time: what has been removed stays removed, and every row is there
in a version that `R` allows, unless it is `gone`. -/
structure Lasts (R : Revision α) (gone : α → Prop) (t u : Table α) : Prop where
  retired : ∀ k ∈ t.retired, k ∈ u.retired
  row : ∀ r ∈ t.rows, gone r ∨ ∃ a ∈ u.rows, R.allows r a

namespace Lasts

@[refl] lemma refl (R : Revision α) (gone : α → Prop) (t : Table α) : t.Lasts R gone t :=
  ⟨fun _ hk => hk, fun r hr => .inr ⟨r, hr, R.refl r⟩⟩

/-- Two spells of time make one, if what is gone stays so and a version is gone with its row. -/
lemma trans (h : t.Lasts R gone u) (h' : u.Lasts R gone' v) (hstays : ∀ r, gone r → gone' r)
    (hversion : ∀ r a, R.allows r a → gone' a → gone' r) : t.Lasts R gone' v where
  retired k hk := h'.retired k (h.retired k hk)
  row r hr := by
    rcases h.row r hr with hgone | ⟨a, ha, hra⟩
    · exact .inl (hstays r hgone)
    · rcases h'.row a ha with hgone | ⟨b, hb, hab⟩
      · exact .inl (hversion r a hra hgone)
      · exact .inr ⟨b, hb, R.trans hra hab⟩

/-- A row whose key has been removed is gone, as long as its versions keep the key. -/
lemma gone_of_retired (h : t.Lasts R gone u)
    (hkey : ∀ {a b}, R.allows a b → Keyed.key b = Keyed.key a) {r : α} (hr : r ∈ t.rows)
    (hretired : Keyed.key r ∈ u.retired) : gone r := by
  refine (h.row r hr).resolve_right ?_
  rintro ⟨a, ha, hra⟩
  exact key_notMem_retired ha (hkey hra ▸ hretired)

lemma of_append {rs : List α} (hrows : u.rows = t.rows ++ rs) (hretired : u.retired = t.retired) :
    t.Lasts R gone u where
  retired _ hk := hretired ▸ hk
  row r hr := .inr ⟨r, hrows ▸ List.mem_append_left rs hr, R.refl r⟩

lemma of_insert? [DecidableEq κ] {r : α} (h : t.insert? r = some u) : t.Lasts R gone u :=
  have hu := (insert?_eq_some.mp h).2
  of_append hu.1 hu.2

lemma of_insertAll? [DecidableEq κ] {rs : List α} (h : t.insertAll? rs = some u) :
    t.Lasts R gone u :=
  have hu := insertAll?_eq_some h
  of_append hu.1 hu.2

lemma modifyWhere (t : Table α) {p : α → Bool} {f : α → α}
    {hf : ∀ r, Keyed.key (f r) = Keyed.key r} (hR : ∀ r, p r → R.allows r (f r)) :
    t.Lasts R gone (t.modifyWhere p f hf) where
  retired _ hk := hk
  row r hr := by
    refine .inr ⟨_, mem_modifyWhere.mpr ⟨r, hr, rfl⟩, ?_⟩
    split_ifs with hp
    · exact hR r hp
    · exact R.refl r

lemma modify [DecidableEq κ] (t : Table α) {k : κ} {f : α → α}
    {hf : ∀ r, Keyed.key (f r) = Keyed.key r} (hR : ∀ r, R.allows r (f r)) :
    t.Lasts R gone (t.modify k f hf) :=
  modifyWhere t fun r _ => hR r

lemma removeWhere (t : Table α) {p : α → Bool} (hp : ∀ r, p r → gone r) :
    t.Lasts R gone (t.removeWhere p) where
  retired _ hk := List.mem_append_right _ hk
  row r hr := by
    cases hpr : p r with
    | true => exact .inl (hp r hpr)
    | false => exact .inr ⟨r, List.mem_filter.mpr ⟨hr, by simp [hpr]⟩, R.refl r⟩

end Lasts

end Table
