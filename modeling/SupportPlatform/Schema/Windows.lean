import SupportPlatform.Schema.Paging

/-!
# Page windows

`toPrismaPage` and `buildPaginatedResult` for any page and any limit from 1 on, whether a DTO bounds
them or not. The first says which rows a page takes, the second how many pages there are.
-/

namespace SupportPlatform

/-- A query as the helpers read it: two integers that may be missing. The code computes with
doubles, which agrees with the arithmetic of the naturals and the rationals here as long as what
comes up stays below 2^53. -/
structure Pagination where
  page : Option Nat
  limit : Option Nat
  page_pos : ∀ n ∈ page, 1 ≤ n
  limit_pos : ∀ n ∈ limit, 1 ≤ n
deriving DecidableEq

/-- A query behind the validation pipe, which has both. -/
def PaginationQueryDto.toPagination (query : PaginationQueryDto) : Pagination where
  page := some query.page
  limit := some query.limit
  page_pos _ h := Option.mem_some.mp h ▸ query.page_pos
  limit_pos _ h := Option.mem_some.mp h ▸ query.limit_pos

/-- `list.slice(skip, skip + take)`. -/
def PrismaPageArgs.slice {α : Type} (args : PrismaPageArgs) (l : List α) : List α :=
  (l.drop args.skip).take args.take

namespace Pagination

/-- `query.page ?? 1`. -/
def pageOrDefault (query : Pagination) : Nat := query.page.getD 1

/-- `query.limit ?? 20`. -/
def limitOrDefault (query : Pagination) : Nat := query.limit.getD 20

def toPrismaPage (query : Pagination) : PrismaPageArgs where
  skip := (query.pageOrDefault - 1) * query.limitOrDefault
  take := query.limitOrDefault

/-- An empty list has one page all the same. -/
def buildPaginatedResult {α : Type} (items : List α) (total : Nat) (query : Pagination) :
    PaginatedResult α where
  items
  «meta» :=
    { page := query.pageOrDefault
      limit := query.limitOrDefault
      total
      totalPages := max 1 ⌈(total : ℚ) / query.limitOrDefault⌉₊ }

lemma limitOrDefault_pos (query : Pagination) : 0 < query.limitOrDefault := by
  rw [limitOrDefault]
  cases h : query.limit with
  | none => exact Nat.succ_pos 19
  | some n => exact query.limit_pos n h

/-! ### The helpers behind the validation pipe -/

lemma toPrismaPage_toPagination (query : PaginationQueryDto) :
    query.toPagination.toPrismaPage = SupportPlatform.toPrismaPage query := rfl

lemma buildPaginatedResult_toPagination {α : Type} (items : List α) (total : Nat)
    (query : PaginationQueryDto) :
    buildPaginatedResult items total query.toPagination =
      SupportPlatform.buildPaginatedResult items total query := by
  have hceil : ⌈(total : ℚ) / query.limit⌉₊ = (total + query.limit - 1) / query.limit :=
    Paging.ceil_div_natCast query.limit_pos total
  rw [SupportPlatform.buildPaginatedResult, ← hceil]
  rfl

/-! ### The windows -/

/-- The same query for page `i + 1`. -/
def atPage (query : Pagination) (i : Nat) : Pagination :=
  { query with
    page := some (i + 1)
    page_pos := fun _ h => Option.mem_some.mp h ▸ Nat.succ_pos i }

/-- The places `[skip, skip + take)`. -/
def window (query : Pagination) : Finset Nat :=
  let args := query.toPrismaPage
  Finset.Ico args.skip (args.skip + args.take)

lemma window_atPage (query : Pagination) (i : Nat) :
    (query.atPage i).window = Paging.window query.limitOrDefault i := rfl

/-- The windows of the first pages, as many as there are `pages`, part a list of `total` rows. -/
structure Parts (query : Pagination) (total pages : Nat) : Prop where
  disjoint : ∀ i < pages, ∀ j < pages, i ≠ j →
    Disjoint (query.atPage i).window (query.atPage j).window
  covers : Finset.range total ⊆ (Finset.range pages).biUnion fun i => (query.atPage i).window
  meets : 0 < total → ∀ i < pages, ((query.atPage i).window ∩ Finset.range total).Nonempty
  beyond : ∀ i, pages ≤ i → Disjoint (query.atPage i).window (Finset.range total)
  slices : ∀ {α : Type} (l : List α), l.length = total →
    (List.range pages).flatMap (fun i => (query.atPage i).toPrismaPage.slice l) = l

/-- The windows of the pages from the first to `meta.totalPages` part every list whose length is the
total. -/
theorem windows_part (query : Pagination) {α : Type} (items : List α) (total : Nat) :
    query.Parts total (buildPaginatedResult items total query).meta.totalPages := by
  have hlimit := query.limitOrDefault_pos
  have hpages : (buildPaginatedResult items total query).meta.totalPages =
      max 1 ((total + query.limitOrDefault - 1) / query.limitOrDefault) :=
    congrArg (max 1) (Paging.ceil_div_natCast hlimit total)
  rw [hpages]
  constructor
  · intro i _ j _ hij
    rw [window_atPage, window_atPage]
    exact Paging.disjoint_window hlimit hij
  · intro k hk
    refine Finset.mem_biUnion.mpr ⟨k / query.limitOrDefault, ?_, (Paging.mem_window hlimit).mpr rfl⟩
    have hfirst : k / query.limitOrDefault * query.limitOrDefault < total :=
      (Nat.div_mul_le_self _ _).trans_lt (Finset.mem_range.mp hk)
    exact Finset.mem_range.mpr (lt_max_of_lt_right ((Paging.lt_ceil_div_iff hlimit).mpr hfirst))
  · intro htotal i hi
    have hfirst : i * query.limitOrDefault < total := by
      rcases lt_max_iff.mp hi with hi | hi
      · rwa [Nat.lt_one_iff.mp hi, Nat.zero_mul]
      · exact (Paging.lt_ceil_div_iff hlimit).mp hi
    refine ⟨i * query.limitOrDefault, Finset.mem_inter.mpr ⟨?_, Finset.mem_range.mpr hfirst⟩⟩
    exact Finset.mem_Ico.mpr ⟨Nat.le_refl _, Nat.lt_add_of_pos_right hlimit⟩
  · intro i hi
    rw [window_atPage]
    exact Paging.disjoint_window_range hlimit ((Nat.le_max_right 1 _).trans hi)
  · intro β l hl
    refine (Paging.pages_const query.limitOrDefault _ l).trans (List.take_of_length_le ?_)
    rw [hl]
    exact (Paging.le_ceil_div_mul hlimit total).trans
      (Nat.mul_le_mul_right _ (Nat.le_max_right 1 _))

end Pagination

end SupportPlatform
