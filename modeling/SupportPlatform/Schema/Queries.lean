import Mathlib.Data.Finset.Card
import Mathlib.Data.List.Nodup
import SupportPlatform.Core.Like
import SupportPlatform.Schema.Basic

/-!
# Queries with pages

The pagination helpers shared by the list endpoints, and what a `findMany` with `orderBy`, `skip`
and `take` gives: a page of the set of rows that satisfy the `where`.
-/

namespace SupportPlatform

inductive SortDirection where
  | asc
  | desc
deriving DecidableEq, Repr

/-- `PaginationQueryDto` after the validation pipe: `page` and `limit` are always there. The code
has doubles in them, which are integers by the checks of the pipe; here they are naturals, and the
arithmetic on them is exact where the code's rounds from 2^53 on. -/
structure PaginationQueryDto where
  page : Nat
  limit : Nat
  sort : Field String
  search : Field String
  page_pos : 1 ≤ page
  limit_pos : 1 ≤ limit
  limit_le : limit ≤ 100
deriving DecidableEq, Repr

/-- The value of an optional string that is truthy: there, and not empty. -/
def Field.text? : Field String → Option String
  | .value s => if s = "" then none else some s
  | _ => none

/-- The value of an optional field, if it has one. -/
def Field.value? {α : Type} : Field α → Option α
  | .value a => some a
  | _ => none

/-- `{ [field]: direction }`. -/
structure OrderBy where
  field : String
  direction : SortDirection
deriving DecidableEq, Repr

/-- The default order, newest first. -/
def OrderBy.newest : OrderBy := ⟨"createdAt", .desc⟩

structure PrismaPageArgs where
  skip : Nat
  take : Nat
deriving DecidableEq, Repr

def toPrismaPage (query : PaginationQueryDto) : PrismaPageArgs where
  skip := (query.page - 1) * query.limit
  take := query.limit

/-- `toPrismaOrderBy` with its default fallback. -/
def toPrismaOrderBy (sort : Field String) (allowedFields : List String) : OrderBy :=
  match sort.text? with
  | none => .newest
  | some sort =>
    match sort.splitOn ":" with
    | [] => .newest
    | field :: rest =>
      if field ∈ allowedFields then
        ⟨field, if rest.head? = some "asc" then .asc else .desc⟩
      else .newest

structure PaginationMeta where
  page : Nat
  limit : Nat
  total : Nat
  totalPages : Nat
deriving DecidableEq, Repr

structure PaginatedResult (α : Type) where
  items : List α
  «meta» : PaginationMeta
deriving DecidableEq, Repr

/-- `buildPaginatedResult`; the quotient is rounded up. -/
def buildPaginatedResult {α : Type} (items : List α) (total : Nat) (query : PaginationQueryDto) :
    PaginatedResult α where
  items
  «meta» :=
    { page := query.page
      limit := query.limit
      total
      totalPages := max 1 ((total + query.limit - 1) / query.limit) }

/-- What the database decides: the rows of a page of a set of rows in an order, with the ties and
the collation it likes, and the lower case of a character in its locale. -/
structure Postgres where
  page {α : Type} (orderBy : OrderBy) (args : PrismaPageArgs) (rows : Finset α) : List α
  lower (c : Char) : Char
  nodup_page {α : Type} (orderBy : OrderBy) (args : PrismaPageArgs) (rows : Finset α) :
    (page orderBy args rows).Nodup
  mem_of_mem_page {α : Type} {orderBy : OrderBy} {args : PrismaPageArgs} {rows : Finset α} {r : α} :
    r ∈ page orderBy args rows → r ∈ rows
  length_page {α : Type} (orderBy : OrderBy) (args : PrismaPageArgs) (rows : Finset α) :
    (page orderBy args rows).length = min args.take (rows.card - args.skip)

namespace Postgres

/-- `{ contains: search, mode: 'insensitive' }`: `ILIKE` with the search text between two `%`. What
the text has of `%`, `_` and backslashes reaches the pattern as it is. -/
def contains (pg : Postgres) (text search : String) : Bool :=
  Like.isMatch (fun c d => decide (pg.lower c = pg.lower d))
    (Like.parse ('%' :: search.toList ++ ['%'])) text.toList

/-- A search text without wildcards finds the texts that contain it, the case of letters aside. -/
lemma contains_iff_of_plain {pg : Postgres} {text search : String}
    (h : Like.Plain search.toList) :
    pg.contains text search ↔ search.toList.map pg.lower <:+: text.toList.map pg.lower :=
  Like.isMatch_between_iff_of_plain h

variable {α : Type} [DecidableEq α]

/-- `findMany` and `count` of one `where` in one transaction, as a paginated result. -/
def list (pg : Postgres) (rows : List α) («where» : α → Bool) (orderBy : OrderBy)
    (query : PaginationQueryDto) : PaginatedResult α :=
  let matching := (rows.filter «where»).toFinset
  buildPaginatedResult (pg.page orderBy (toPrismaPage query) matching) matching.card query

/-- Two lists with the same rows in a class have the same rows for a `where` inside the class. -/
lemma toFinset_filter_congr {rows rows' : List α} {«where» p : α → Bool}
    (h : ∀ r, p r → (r ∈ rows ↔ r ∈ rows')) (hp : ∀ r, «where» r → p r) :
    (rows.filter «where»).toFinset = (rows'.filter «where»).toFinset := by
  ext r
  simp only [List.mem_toFinset, List.mem_filter]
  exact and_congr_left fun hr => h r (hp r hr)

lemma list_congr (pg : Postgres) {rows rows' : List α} {«where» p : α → Bool} (orderBy : OrderBy)
    (query : PaginationQueryDto) (h : ∀ r, p r → (r ∈ rows ↔ r ∈ rows'))
    (hp : ∀ r, «where» r → p r) :
    pg.list rows «where» orderBy query = pg.list rows' «where» orderBy query := by
  rw [list, list, toFinset_filter_congr h hp]

/-- What a page shows satisfies the `where`. -/
lemma mem_items_list {pg : Postgres} {rows : List α} {«where» : α → Bool} {orderBy : OrderBy}
    {query : PaginationQueryDto} {r : α} (h : r ∈ (pg.list rows «where» orderBy query).items) :
    r ∈ rows ∧ «where» r := by
  have := pg.mem_of_mem_page h
  rwa [List.mem_toFinset, List.mem_filter] at this

end Postgres

end SupportPlatform
