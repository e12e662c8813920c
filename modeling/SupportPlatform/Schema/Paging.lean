import Mathlib.Data.Finset.Card
import Mathlib.Order.Defs.LinearOrder
import SupportPlatform.Core.Paging
import SupportPlatform.Schema.Queries

/-!
# The pages of a listing

The columns a row can be sorted by, the orders a query with an `orderBy` may answer in, and what
the pages of one listing show together, each a query of its own.
-/

namespace SupportPlatform

/-- The value of a column that rows are sorted by: a time or the place of an enum value in its
declaration, or a text. -/
inductive SortKey where
  | number (n : Nat)
  | text (s : String)
deriving DecidableEq, Repr

/-- Texts are compared by the collation of the database. -/
def SortKey.le (collation : LinearOrder String) : SortKey → SortKey → Bool
  | .number m, .number n => m ≤ n
  | .number _, .text _ => true
  | .text _, .number _ => false
  | .text s, .text t => collation.toDecidableLE s t |>.decide

/-- The columns by which the rows of a table can be sorted. -/
class Columns (α : Type) where
  column : String → α → SortKey

/-- `orderBy: { [field]: direction }`. -/
def OrderBy.le {α : Type} [Columns α] (collation : LinearOrder String) (orderBy : OrderBy)
    (a b : α) : Bool :=
  match orderBy.direction with
  | .asc => (Columns.column orderBy.field a).le collation (Columns.column orderBy.field b)
  | .desc => (Columns.column orderBy.field b).le collation (Columns.column orderBy.field a)

/-- The request for another page of the same listing; pages are counted from zero here. -/
def PaginationQueryDto.atPage (query : PaginationQueryDto) (i : Nat) : PaginationQueryDto :=
  { query with
    page := i + 1
    page_pos := Nat.succ_pos i }

variable {α : Type} {collation : LinearOrder String}

lemma SortKey.le_trans (k₁ k₂ k₃ : SortKey) (h₁ : k₁.le collation k₂) (h₂ : k₂.le collation k₃) :
    k₁.le collation k₃ := by
  cases k₁ <;> cases k₂ <;> cases k₃ <;> simp only [SortKey.le, decide_eq_true_eq] at h₁ h₂ ⊢
  case number.number.number => exact Nat.le_trans h₁ h₂
  case text.text.text => exact collation.le_trans _ _ _ h₁ h₂
  all_goals contradiction

lemma SortKey.le_total (k₁ k₂ : SortKey) : (k₁.le collation k₂ || k₂.le collation k₁) = true := by
  cases k₁ <;> cases k₂ <;> simp only [SortKey.le, Bool.or_eq_true, decide_eq_true_eq, Bool.true_or,
    Bool.or_true]
  case number.number => exact Nat.le_total _ _
  case text.text => exact collation.le_total _ _

namespace OrderBy

variable [Columns α] {orderBy : OrderBy}

lemma le_trans (a b c : α) (h₁ : orderBy.le collation a b) (h₂ : orderBy.le collation b c) :
    orderBy.le collation a c := by
  obtain ⟨field, direction⟩ := orderBy
  cases direction with
  | asc => exact SortKey.le_trans _ _ _ h₁ h₂
  | desc => exact SortKey.le_trans _ _ _ h₂ h₁

lemma le_total (a b : α) : (orderBy.le collation a b || orderBy.le collation b a) = true := by
  obtain ⟨field, direction⟩ := orderBy
  cases direction with
  | asc => exact SortKey.le_total _ _
  | desc => exact SortKey.le_total _ _

end OrderBy

namespace Postgres

/-- Every query for a page of these rows is answered by a slice of the rows in an order that its
`orderBy` allows; rows with equal keys may come in a different order in each query. -/
def Sorts [Columns α] (pg : Postgres) (collation : LinearOrder String) (orderBy : OrderBy)
    (rows : Finset α) : Prop :=
  ∀ args, ∃ l, Paging.Sorts (orderBy.le collation) rows.toList l ∧
    pg.page orderBy args rows = (l.drop args.skip).take args.take

open Classical in
/-- A database like `pg` that answers the queries for pages of the given rows by slices of the
given orders. -/
noncomputable def answering (pg : Postgres) (orderBy : OrderBy) (rows : Finset α)
    (order : PrismaPageArgs → List α) (horder : ∀ args, (order args).Perm rows.toList) :
    Postgres where
  page {β} orderBy' args rows' :=
    if h : orderBy' = orderBy ∧ (⟨β, rows'⟩ : Σ α : Type, Finset α) = ⟨α, rows⟩ then
      cast (congrArg (fun s => List s.1) h.2.symm) (((order args).drop args.skip).take args.take)
    else pg.page orderBy' args rows'
  lower := pg.lower
  nodup_page {β} orderBy' args rows' := by
    split
    case isTrue h =>
      obtain ⟨rfl, h⟩ := h
      cases h
      have hnodup := (horder args).nodup_iff.mpr rows.nodup_toList
      exact (hnodup.sublist (List.drop_sublist _ _)).sublist (List.take_sublist _ _)
    case isFalse => exact pg.nodup_page orderBy' args rows'
  mem_of_mem_page {β orderBy' args rows' r} := by
    split
    case isTrue h =>
      obtain ⟨rfl, h⟩ := h
      cases h
      intro hr
      have hr := (horder args).mem_iff.mp (List.mem_of_mem_drop (List.mem_of_mem_take hr))
      exact Finset.mem_toList.mp hr
    case isFalse => exact pg.mem_of_mem_page
  length_page {β} orderBy' args rows' := by
    split
    case isTrue h =>
      obtain ⟨rfl, h⟩ := h
      cases h
      have hlength := (horder args).length_eq
      rw [Finset.length_toList] at hlength
      simp [hlength]
    case isFalse => exact pg.length_page orderBy' args rows'

lemma page_answering (pg : Postgres) (orderBy : OrderBy) (rows : Finset α)
    (order : PrismaPageArgs → List α) (horder : ∀ args, (order args).Perm rows.toList)
    (args : PrismaPageArgs) :
    (pg.answering orderBy rows order horder).page orderBy args rows =
      ((order args).drop args.skip).take args.take :=
  (dif_pos ⟨rfl, rfl⟩).trans (cast_eq _ _)

end Postgres

/-! ### Listings -/

/-- A listing: the rows of a table that satisfy a `where`, in the order and the page size a query
asks for, and what the caller is shown of a row. -/
structure Listing (β : Type) where
  Row : Type
  decEq : DecidableEq Row
  columns : Columns Row
  rows : List Row
  «where» : Row → Bool
  orderBy : OrderBy
  query : PaginationQueryDto
  select : Row → β
  nodup : rows.Nodup
  select_inj : ∀ r ∈ rows, ∀ r' ∈ rows, select r = select r' → r = r'

namespace Listing

variable {β : Type}

instance (listing : Listing β) : DecidableEq listing.Row := listing.decEq
instance (listing : Listing β) : Columns listing.Row := listing.columns

/-- The rows that match. -/
def matching (listing : Listing β) : List listing.Row := listing.rows.filter listing.where

/-- What is shown of the rows that match. -/
def shown (listing : Listing β) : List β := listing.matching.map listing.select

/-- The answer for one page. -/
def page (listing : Listing β) (pg : Postgres) (i : Nat) : PaginatedResult β :=
  let result := pg.list listing.rows listing.where listing.orderBy (listing.query.atPage i)
  ⟨result.items.map listing.select, result.meta⟩

/-- The items of the pages from the first to `meta.totalPages`. -/
def pages (listing : Listing β) (pg : Postgres) : List β :=
  (List.range (listing.page pg 0).meta.totalPages).flatMap fun i => (listing.page pg i).items

/-- The database answers the queries of the listing in orders its `orderBy` allows. -/
def SortedBy (listing : Listing β) (collation : LinearOrder String) (pg : Postgres) : Prop :=
  pg.Sorts collation listing.orderBy listing.matching.toFinset

/-- The database answers the queries of the listing in one order of the matching rows. -/
def InOneOrder (listing : Listing β) (pg : Postgres) : Prop :=
  ∃ l, l.Perm listing.matching ∧ ∀ i,
    pg.page listing.orderBy (toPrismaPage (listing.query.atPage i)) listing.matching.toFinset =
      Paging.page listing.query.limit i l

/-- The matching rows with one sort key are all on one page. -/
def Unsplit (listing : Listing β) (collation : LinearOrder String) : Prop :=
  Paging.Unsplit (listing.orderBy.le collation) listing.query.limit listing.matching

instance (listing : Listing β) : Decidable (listing.Unsplit collation) :=
  inferInstanceAs (Decidable (Paging.Unsplit _ _ _))

variable (listing : Listing β) {pg : Postgres}

lemma nodup_matching : listing.matching.Nodup := listing.nodup.filter _

lemma toList_toFinset_perm : listing.matching.toFinset.toList.Perm listing.matching := by
  refine (List.perm_ext_iff_of_nodup (Finset.nodup_toList _) listing.nodup_matching).mpr ?_
  simp

/-- The total is the number of matching rows. -/
lemma total_page (pg : Postgres) (i : Nat) :
    (listing.page pg i).meta.total = listing.matching.length :=
  List.toFinset_card_of_nodup listing.nodup_matching

/-- A page is full, or it ends with the matching rows. -/
lemma length_items (pg : Postgres) (i : Nat) : (listing.page pg i).items.length =
    min listing.query.limit (listing.matching.length - i * listing.query.limit) := by
  have hcard : listing.matching.toFinset.card = listing.matching.length :=
    List.toFinset_card_of_nodup listing.nodup_matching
  refine (List.length_map _).trans ((pg.length_page _ _ _).trans ?_)
  rw [← hcard]
  rfl

/-- A page is a slice of the matching rows in an order that the listing allows. -/
lemma SortedBy.exists_page {listing : Listing β} (h : listing.SortedBy collation pg) (i : Nat) :
    ∃ l, Paging.Sorts (listing.orderBy.le collation) listing.matching l ∧
      pg.page listing.orderBy (toPrismaPage (listing.query.atPage i)) listing.matching.toFinset =
        Paging.page listing.query.limit i l := by
  obtain ⟨l, hl, hpage⟩ := h (toPrismaPage (listing.query.atPage i))
  exact ⟨l, ⟨hl.perm.trans listing.toList_toFinset_perm, hl.pairwise⟩, hpage⟩

lemma matching_length_le : listing.matching.length ≤
    (listing.page pg 0).meta.totalPages * listing.query.limit := by
  have hlimit := listing.query.limit_pos
  have htotal : (listing.page pg 0).meta.totalPages =
      max 1 ((listing.matching.length + listing.query.limit - 1) / listing.query.limit) := by
    rw [← listing.total_page pg 0]
    rfl
  rw [htotal]
  exact (Paging.le_ceil_div_mul hlimit _).trans (Nat.mul_le_mul_right _ (Nat.le_max_right 1 _))

lemma pages_eq {order : Nat → List listing.Row}
    (h : ∀ i, pg.page listing.orderBy (toPrismaPage (listing.query.atPage i))
      listing.matching.toFinset = Paging.page listing.query.limit i (order i)) :
    listing.pages pg = (Paging.pages listing.query.limit (listing.page pg 0).meta.totalPages
      order).map listing.select := by
  rw [pages, Paging.pages, List.map_flatMap]
  refine List.flatMap_congr fun i _ => ?_
  rw [← h i]
  rfl

/-- Where all queries are answered in one order, the pages show each matching row exactly once. -/
lemma pages_perm_of_inOneOrder (h : listing.InOneOrder pg) :
    (listing.pages pg).Perm listing.shown := by
  obtain ⟨l, hperm, hpage⟩ := h
  rw [listing.pages_eq hpage, Paging.pages_const]
  have hlength : l.length ≤ (listing.page pg 0).meta.totalPages * listing.query.limit :=
    hperm.length_eq ▸ listing.matching_length_le
  rw [List.take_of_length_le hlength]
  exact hperm.map _

/-- Where no class of ties is split, the pages show each matching row exactly once. -/
lemma pages_perm (hsorted : listing.SortedBy collation pg) (h : listing.Unsplit collation) :
    (listing.pages pg).Perm listing.shown := by
  choose order horder hpage using hsorted.exists_page
  rw [listing.pages_eq hpage]
  exact (h.pages_perm OrderBy.le_total listing.nodup_matching listing.query.limit_pos
    listing.matching_length_le horder).map _

/-- Where a class of ties is split, the database may leave a matching row out of all pages. -/
lemma exists_not_pages_perm (pg : Postgres) (h : ¬listing.Unsplit collation) :
    ∃ pg' : Postgres, pg'.lower = pg.lower ∧ listing.SortedBy collation pg' ∧
      ¬(listing.pages pg').Perm listing.shown := by
  obtain ⟨order, horder, a, ha, hmissing⟩ := Paging.exists_missing_of_not_unsplit
    OrderBy.le_trans OrderBy.le_total listing.nodup_matching listing.query.limit_pos h
  have hperm : ∀ i, (order i).Perm listing.matching.toFinset.toList := fun i =>
    (horder i).perm.trans listing.toList_toFinset_perm.symm
  refine ⟨pg.answering listing.orderBy listing.matching.toFinset
    (fun args => order (args.skip / args.take)) fun args => hperm _, rfl, fun args => ?_,
    fun hpages => ?_⟩
  · exact ⟨_, ⟨hperm _, (horder _).pairwise⟩, Postgres.page_answering ..⟩
  · have hpage : ∀ i, (pg.answering listing.orderBy listing.matching.toFinset
        (fun args => order (args.skip / args.take)) fun args => hperm _).page listing.orderBy
          (toPrismaPage (listing.query.atPage i)) listing.matching.toFinset =
        Paging.page listing.query.limit i (order i) := by
      intro i
      rw [Postgres.page_answering, Paging.page]
      have hskip : i * listing.query.limit / listing.query.limit = i :=
        Nat.mul_div_cancel i listing.query.limit_pos
      simp only [toPrismaPage, PaginationQueryDto.atPage, Nat.add_sub_cancel, hskip]
    rw [listing.pages_eq hpage] at hpages
    -- what is shown of the missing row would have to be shown of another one
    obtain ⟨b, hb, heq⟩ := List.mem_map.mp (hpages.mem_iff.mpr (List.mem_map_of_mem ha))
    have hbrows : b ∈ listing.matching := by
      obtain ⟨j, -, hj⟩ := (Paging.mem_pages listing.query.limit_pos).mp hb
      exact (horder _).perm.mem_iff.mp (List.mem_of_getElem? hj)
    obtain rfl := listing.select_inj b (List.mem_of_mem_filter hbrows) a
      (List.mem_of_mem_filter ha) heq
    exact hmissing _ hb

end Listing

end SupportPlatform
