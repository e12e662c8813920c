import Mathlib.Data.String.Basic
import SupportPlatform.Platform.NonInterference
import SupportPlatform.Schema.Paging

/-!
# The pages of the list endpoints

Every list endpoint pages through its matching rows in an order with one sort key and no second
one to break ties. So the pages of a listing contain each row exactly once as long as all rows
with one key are on one page; if they are not, the database may answer so that a row is on two
pages and another on none.
-/

namespace SupportPlatform

/-! ### The columns that rows are sorted by -/

/-- An enum is sorted by the order of its declaration. -/
def TicketStatus.rank : TicketStatus → Nat
  | .open => 0
  | .inProgress => 1
  | .pending => 2
  | .resolved => 3
  | .closed => 4

def TicketPriority.rank : TicketPriority → Nat
  | .low => 0
  | .medium => 1
  | .high => 2
  | .urgent => 3

instance : Columns Ticket where
  column
    | "updatedAt", t => .number t.updatedAt
    | "priority", t => .number t.priority.rank
    | "status", t => .number t.status.rank
    | "reference", t => .text t.reference
    | _, t => .number t.createdAt

instance : Columns User where
  column
    | "firstName", u => .text u.firstName
    | "lastName", u => .text u.lastName
    | "email", u => .text u.email
    | _, u => .number u.createdAt

instance : Columns Organization where
  column
    | "name", o => .text o.name
    | "slug", o => .text o.slug
    | _, o => .number o.createdAt

instance : Columns Comment := ⟨fun _ c => .number c.createdAt⟩
instance : Columns Notification := ⟨fun _ n => .number n.createdAt⟩
instance : Columns AuditLog := ⟨fun _ a => .number a.createdAt⟩

/-! ### The endpoints -/

/-- What a list endpoint shows of a row. -/
inductive ListedRow where
  | ticket (t : Ticket)
  | comment (c : Comment)
  | user (u : UserResponseDto)
  | organization (o : Organization)
  | notification (n : Notification)
  | auditLog (a : AuditLog)
deriving DecidableEq, Repr

/-- The same page of the rows as an endpoint shows them. -/
def PaginatedResult.map {α β : Type} (f : α → β) (result : PaginatedResult α) :
    PaginatedResult β :=
  ⟨result.items.map f, result.meta⟩

/-- A request to one of the list endpoints, whose page is left open. -/
inductive ListRequest where
  | tickets (actor : AuthenticatedUser) (query : TicketQueryDto)
  | comments (actor : AuthenticatedUser) (ticketId : Uuid) (query : CommentQueryDto)
  | users (organizationId : Uuid) (query : UserQueryDto)
  | organizations (query : PaginationQueryDto)
  | notifications (userId : Uuid) (query : NotificationQueryDto)
  | audit (organizationId : Uuid) (query : AuditQueryDto)
deriving DecidableEq, Repr

namespace ListRequest

/-- The answer to the request for one page, counted from zero. -/
def respond (pg : Postgres) (db : Db) (i : Nat) :
    ListRequest → Except Failure (PaginatedResult ListedRow)
  | tickets actor query =>
    .ok ((TicketsService.findAll pg actor
      { query with toPaginationQueryDto := query.atPage i } db).map .ticket)
  | comments actor ticketId query =>
    ((CommentsService.findForTicket pg actor ticketId (query.atPage i) db).map
      (·.map .comment)).mapError .http
  | users organizationId query =>
    .ok ((UsersService.findAll pg organizationId
      { query with toPaginationQueryDto := query.atPage i } db).map .user)
  | organizations query =>
    .ok ((OrganizationsService.findAll pg (query.atPage i) db).map .organization)
  | notifications userId query =>
    ((NotificationsService.findForUser pg userId
      { query with toPaginationQueryDto := query.atPage i } db).map
        (·.map .notification)).mapError .prisma
  | audit organizationId query =>
    .ok ((AuditService.findAll pg organizationId
      { query with toPaginationQueryDto := query.atPage i } db).map .auditLog)

/-- The items of all pages: the first page tells how many there are. -/
def traverse (request : ListRequest) (pg : Postgres) (db : Db) :
    Except Failure (List ListedRow) := do
  let first ← request.respond pg db 0
  let pages ← (List.range first.meta.totalPages).mapM fun i => request.respond pg db i
  return pages.flatMap (·.items)

/-- The listing behind a request. -/
def listing (pg : Postgres) (db : Db) : ListRequest → Listing ListedRow
  | tickets actor query =>
    { Row := Ticket
      decEq := inferInstance
      columns := inferInstance
      rows := db.tickets.rows
      «where» := TicketsService.where pg actor query
      orderBy := toPrismaOrderBy query.sort TicketsService.SORTABLE
      query := query.toPaginationQueryDto
      select := .ticket
      nodup := db.tickets.nodup_rows
      select_inj := by simp }
  | comments actor ticketId query =>
    { Row := Comment
      decEq := inferInstance
      columns := inferInstance
      rows := db.comments.rows
      «where» := CommentsService.where actor ticketId
      orderBy := ⟨"createdAt", .asc⟩
      query
      select := .comment
      nodup := db.comments.nodup_rows
      select_inj := by simp }
  | users organizationId query =>
    { Row := User
      decEq := inferInstance
      columns := inferInstance
      rows := db.users.rows
      «where» := UsersService.where pg organizationId query
      orderBy := toPrismaOrderBy query.sort UsersService.SORTABLE
      query := query.toPaginationQueryDto
      select := fun u => .user (UsersService.userSelect u)
      nodup := db.users.nodup_rows
      select_inj := fun u hu u' hu' h => by
        -- the password hash is left out, the id is not
        simp only [ListedRow.user.injEq, UsersService.userSelect, UserResponseDto.mk.injEq] at h
        exact db.users.eq_of_key_eq hu hu' h.1 }
  | organizations query =>
    { Row := Organization
      decEq := inferInstance
      columns := inferInstance
      rows := db.organizations.rows
      «where» := OrganizationsService.where pg query
      orderBy := toPrismaOrderBy query.sort OrganizationsService.SORTABLE
      query
      select := .organization
      nodup := db.organizations.nodup_rows
      select_inj := by simp }
  | notifications userId query =>
    { Row := Notification
      decEq := inferInstance
      columns := inferInstance
      rows := db.notifications.rows
      «where» := NotificationsService.where userId query
      orderBy := .newest
      query := query.toPaginationQueryDto
      select := .notification
      nodup := db.notifications.nodup_rows
      select_inj := by simp }
  | audit organizationId query =>
    { Row := AuditLog
      decEq := inferInstance
      columns := inferInstance
      rows := db.auditLogs.rows
      «where» := AuditService.where organizationId query
      orderBy := .newest
      query := query.toPaginationQueryDto
      select := .auditLog
      nodup := db.auditLogs.nodup_rows
      select_inj := by simp }

/-- What an endpoint refuses a request with, whatever page it asks for. -/
def refusal? (db : Db) : ListRequest → Option Failure
  | comments actor ticketId _ =>
    match TicketsService.findOne actor ticketId db with
    | .error e => some (.http e)
    | .ok _ => none
  | notifications _ query => if query.isRead = .null then some (.prisma .nullArgument) else none
  | _ => none

variable {collation : LinearOrder String} {pg pg' : Postgres} {db : Db} {request : ListRequest}

/-- Every page is the page of one listing, or every page is refused. -/
lemma respond_eq (request : ListRequest) (pg : Postgres) (db : Db) (i : Nat) :
    request.respond pg db i =
      match request.refusal? db with
      | none => .ok ((request.listing pg db).page pg i)
      | some e => .error e := by
  cases request with
  | tickets actor query => rfl
  | comments actor ticketId query =>
    simp only [respond, CommentsService.findForTicket, refusal?]
    cases TicketsService.findOne actor ticketId db <;> rfl
  | users organizationId query =>
    simp only [respond, PaginatedResult.map, UsersService.findAll, List.map_map]
    rfl
  | organizations query => rfl
  | notifications userId query =>
    simp only [respond, NotificationsService.findForUser, refusal?]
    split_ifs <;> rfl
  | audit organizationId query => rfl

/-- Going through the pages gives the pages of the listing. -/
lemma traverse_eq (request : ListRequest) (pg : Postgres) (db : Db) :
    request.traverse pg db =
      match request.refusal? db with
      | none => .ok ((request.listing pg db).pages pg)
      | some e => .error e := by
  have hrespond := request.respond_eq pg db
  unfold traverse
  cases h : request.refusal? db with
  | some e =>
    simp only [h] at hrespond
    rw [hrespond]
    rfl
  | none =>
    simp only [h] at hrespond
    have hpages (n : Nat) : (List.range n).mapM
        (fun i => (.ok ((request.listing pg db).page pg i) : Except Failure _)) =
          .ok ((List.range n).map fun i => (request.listing pg db).page pg i) := List.mapM_pure
    simp only [hrespond, bind, Except.bind, hpages]
    rw [Listing.pages, List.flatMap_map]
    rfl

/-- The listing depends on the database only through its lower case, by which a search finds. -/
lemma listing_congr (h : pg'.lower = pg.lower) :
    request.listing pg' db = request.listing pg db := by
  have htickets : TicketsService.where pg' = TicketsService.where pg := by
    funext actor query t
    simp only [TicketsService.where, Postgres.contains, h]
  have husers : UsersService.where pg' = UsersService.where pg := by
    funext organizationId query u
    simp only [UsersService.where, Postgres.contains, h]
  have horganizations : OrganizationsService.where pg' = OrganizationsService.where pg := by
    funext query o
    simp only [OrganizationsService.where, Postgres.contains, h]
  cases request <;> simp only [listing, htickets, husers, horganizations]

/-- For every order the database may choose for each of its queries, the items of the pages from
the first to `meta.totalPages` contain each matching row exactly once. -/
def EachOnce (collation : LinearOrder String) (pg : Postgres) (db : Db) (request : ListRequest) :
    Prop :=
  ∀ pg' : Postgres, pg'.lower = pg.lower →
    (request.listing pg db).SortedBy collation pg' →
      ∀ items, request.traverse pg' db = .ok items →
        items.Perm (request.listing pg db).shown

lemma eachOnce_of_unsplit
    (h : request.refusal? db = none → (request.listing pg db).Unsplit collation) :
    request.EachOnce collation pg db := by
  intro pg' hlower hsorted items hitems
  rw [traverse_eq, listing_congr hlower] at hitems
  cases hrefusal : request.refusal? db with
  | some e =>
    rw [hrefusal] at hitems
    cases hitems
  | none =>
    rw [hrefusal] at hitems
    cases hitems
    exact (request.listing pg db).pages_perm hsorted (h hrefusal)

lemma unsplit_of_eachOnce (h : request.EachOnce collation pg db)
    (hrefusal : request.refusal? db = none) : (request.listing pg db).Unsplit collation := by
  by_contra hsplit
  obtain ⟨pg', hlower, hsorted, hmissing⟩ :=
    (request.listing pg db).exists_not_pages_perm pg hsplit
  refine hmissing (h pg' hlower hsorted _ ?_)
  rw [traverse_eq, listing_congr hlower, hrefusal]

/-- The pages of an answered listing contain each matching row exactly once, in all orders the
database may choose, if and only if no group of matching rows with one sort key is split between
two pages. -/
theorem eachOnce_iff (collation : LinearOrder String) (pg : Postgres) (db : Db)
    (request : ListRequest) :
    request.EachOnce collation pg db ↔
      (request.refusal? db = none → (request.listing pg db).Unsplit collation) :=
  ⟨unsplit_of_eachOnce, eachOnce_of_unsplit⟩

end ListRequest

/-! ### Two tickets with one status -/

namespace Seed

/-- A second open ticket of the organization. -/
def secondTicket : Ticket :=
  { ticket with
    id := 141
    reference := "TKT-000002"
    createdAt := 2
    updatedAt := 2 }

def twoTickets : Db :=
  { Db.empty with
    users := admins
    tickets := ⟨[ticket, secondTicket], [], by decide⟩ }

/-- The tickets by status, one on a page. -/
def byStatus : ListRequest :=
  .tickets ⟨11, "admin@acme.test", .admin, 1⟩
    ⟨⟨1, 1, .value "status", .undefined, firstPage_pos, firstPage_pos, by decide⟩, .undefined,
      .undefined, .undefined⟩

end Seed

private lemma splitOn_status : "status".splitOn ":" = ["status"] := by
  rw [String.splitOn, if_neg (by decide)]
  iterate 6 rw [String.splitOnAux, if_neg (by decide), if_neg (by decide)]
  rw [String.splitOnAux, if_pos (by decide)]
  decide

theorem not_eachOnce_byStatus :
    ¬∀ collation pg db request, ListRequest.EachOnce collation pg db request := by
  intro h
  have hunsplit := ListRequest.unsplit_of_eachOnce
    (h inferInstance .arbitrary Seed.twoTickets Seed.byStatus) rfl
  have horder : toPrismaOrderBy (.value "status") TicketsService.SORTABLE = ⟨"status", .desc⟩ := by
    rw [toPrismaOrderBy, Field.text?, if_neg (by decide)]
    simp only [splitOn_status]
    decide
  change Paging.Unsplit (OrderBy.le inferInstance (toPrismaOrderBy (.value "status") _)) 1
    [Seed.ticket, Seed.secondTicket] at hunsplit
  rw [horder] at hunsplit
  revert hunsplit
  decide

end SupportPlatform
