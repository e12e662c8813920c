import SupportPlatform.Api.Bodies
import SupportPlatform.Core.QueryString
import SupportPlatform.Services.Reads

/-!
# Query strings of the list endpoints

The classes of queries behind the validation pipe. A parameter is a text; `page` and `limit` are
read by `parseInt` before their rules are applied, and a parameter that the class does not declare
is refused.
-/

namespace SupportPlatform

/-- The value of an option, with `undefined` for `none`. -/
def Field.ofOption {α : Type} : Option α → Field α
  | none => .undefined
  | some a => .value a

namespace QueryParam

/-- `@IsOptional` and `@IsString`. -/
def text (params : QueryString) (name : String) : Field String := .ofOption (params.lookup name)

/-- `@IsOptional` and `@IsEnum`, or another rule that a text has to satisfy; `none` refuses it. -/
def read {α : Type} (value? : String → Option α) (params : QueryString) (name : String) :
    Option (Field α) :=
  match params.lookup name with
  | none => some .undefined
  | some s => (value? s).map .value

/-- `@Transform` with `parseInt`, and `@IsInt`; a missing parameter leaves the initial value. -/
def int (params : QueryString) (name : String) (initial : Int) : Option Int :=
  match params.lookup name with
  | none => some initial
  | some s => QueryString.parseInt s

end QueryParam

/-- The value of an enum that a text stands for. -/
def enumValue? {α : Type} (values : List α) (text : α → String) (s : String) : Option α :=
  values.find? fun a => text a = s

/-- `whitelist` with `forbidNonWhitelisted`. -/
def Whitelisted (names : List String) (params : QueryString) : Prop := ∀ p ∈ params, p.1 ∈ names

instance (names : List String) (params : QueryString) : Decidable (Whitelisted names params) :=
  inferInstanceAs (Decidable (∀ p ∈ params, p.1 ∈ names))

namespace PaginationQueryDto

def names : List String := ["page", "limit", "sort", "search"]

/-- The properties of the class: `page` has the minimum 1, `limit` also the maximum 100. -/
def transform (params : QueryString) : Option PaginationQueryDto := do
  let page ← QueryParam.int params "page" 1
  let limit ← QueryParam.int params "limit" 20
  if h : 1 ≤ page ∧ 1 ≤ limit ∧ limit ≤ 100 then
    return {
      page := page.toNat
      limit := limit.toNat
      sort := QueryParam.text params "sort"
      search := QueryParam.text params "search"
      page_pos := by omega
      limit_pos := by omega
      limit_le := by omega }
  else none

lemma transform_eq_some {params : QueryString} {page limit : Nat}
    (hpage : QueryParam.int params "page" 1 = some (page : Int))
    (hlimit : QueryParam.int params "limit" 20 = some (limit : Int)) (hpos : 1 ≤ page)
    (hlimitPos : 1 ≤ limit) (hle : limit ≤ 100) :
    transform params = some {
      page
      limit
      sort := QueryParam.text params "sort"
      search := QueryParam.text params "search"
      page_pos := hpos
      limit_pos := hlimitPos
      limit_le := hle } := by
  have hbounds : 1 ≤ (page : Int) ∧ 1 ≤ (limit : Int) ∧ (limit : Int) ≤ 100 := by omega
  rw [transform, hpage, hlimit]
  simp only [Option.bind_eq_bind, Option.bind_some, dif_pos hbounds, Int.toNat_natCast]
  rfl

/-- `OrganizationQueryDto` and `CommentQueryDto` are this class under other names. -/
def ofParams (params : QueryString) : Option PaginationQueryDto := do
  guard (Whitelisted names params)
  transform params

end PaginationQueryDto

namespace TicketQueryDto

def names : List String := PaginationQueryDto.names ++ ["status", "priority", "assignedToId"]

/-- The query of a ticket list; `uuid?` is the uuid a text stands for. -/
def ofParams (uuid? : String → Option Uuid) (params : QueryString) : Option TicketQueryDto := do
  guard (Whitelisted names params)
  let pagination ← PaginationQueryDto.transform params
  let status ← QueryParam.read (enumValue? ticketStatuses TicketStatus.text) params "status"
  let priority ← QueryParam.read (enumValue? ticketPriorities TicketPriority.text) params "priority"
  let assignedToId ← QueryParam.read uuid? params "assignedToId"
  return { pagination with status, priority, assignedToId }

end TicketQueryDto

namespace UserQueryDto

def names : List String := PaginationQueryDto.names ++ ["role"]

def ofParams (params : QueryString) : Option UserQueryDto := do
  guard (Whitelisted names params)
  let pagination ← PaginationQueryDto.transform params
  let role ← QueryParam.read (enumValue? roles Role.text) params "role"
  return { pagination with role }

end UserQueryDto

/-! ### Reading back -/

end SupportPlatform
