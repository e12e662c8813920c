import SupportPlatform.Schema.Queries
import SupportPlatform.Services.Comments
import SupportPlatform.Services.Accounts

/-!
# The read operations of the services

The list endpoints, each as the `where` it builds from the actor and the query and the page the
database gives of the matching rows. The single-row reads stand with the write operations that
share them.
-/

namespace SupportPlatform

/-! ### Tickets and comments -/

structure TicketQueryDto extends PaginationQueryDto where
  status : Field TicketStatus
  priority : Field TicketPriority
  assignedToId : Field Uuid
deriving DecidableEq, Repr

namespace TicketsService

def SORTABLE : List String := ["createdAt", "updatedAt", "priority", "status", "reference"]

/-- The `where` of `findAll`; customers only ever see their own tickets. -/
def «where» (pg : Postgres) (actor : AuthenticatedUser) (query : TicketQueryDto) (t : Ticket) :
    Bool :=
  t.organizationId = actor.organizationId &&
    query.status.value?.all (t.status = ·) &&
    query.priority.value?.all (t.priority = ·) &&
    query.assignedToId.value?.all (t.assignedToId = some ·) &&
    query.search.text?.all (fun s => pg.contains t.title s || pg.contains t.reference s) &&
    (actor.role ≠ .customer || t.createdById = actor.id)

def findAll (pg : Postgres) (actor : AuthenticatedUser) (query : TicketQueryDto) (db : Db) :
    PaginatedResult Ticket :=
  pg.list db.tickets.rows («where» pg actor query) (toPrismaOrderBy query.sort SORTABLE)
    query.toPaginationQueryDto

end TicketsService

/-- `CommentQueryDto` adds nothing to the pagination. -/
abbrev CommentQueryDto := PaginationQueryDto

namespace CommentsService

/-- The `where` of `findForTicket`; customers never see internal notes. -/
def «where» (actor : AuthenticatedUser) (ticketId : Uuid) (c : Comment) : Bool :=
  c.ticketId = ticketId && (actor.role ≠ .customer || !c.isInternal)

/-- `findForTicket`, after the access check of `TicketsService.findOne`. -/
def findForTicket (pg : Postgres) (actor : AuthenticatedUser) (ticketId : Uuid)
    (query : CommentQueryDto) (db : Db) : Except HttpException (PaginatedResult Comment) :=
  match TicketsService.findOne actor ticketId db with
  | .error e => .error e
  | .ok _ =>
    .ok (pg.list db.comments.rows («where» actor ticketId) ⟨"createdAt", .asc⟩ query)

end CommentsService

/-! ### Users -/

structure UserQueryDto extends PaginationQueryDto where
  role : Field Role
deriving DecidableEq, Repr

/-- `UserResponseDto`, the columns of `userSelect`: all but the password hash. -/
structure UserResponseDto where
  id : Uuid
  email : String
  firstName : String
  lastName : String
  role : Role
  organizationId : Uuid
  isActive : Bool
  lastLoginAt : Option Time
  createdAt : Time
deriving DecidableEq, Repr

namespace UsersService

def SORTABLE : List String := ["firstName", "lastName", "email", "createdAt"]

def userSelect (u : User) : UserResponseDto :=
  ⟨u.id, u.email, u.firstName, u.lastName, u.role, u.organizationId, u.isActive, u.lastLoginAt,
    u.createdAt⟩

/-- The search text may stand in the first name, the last name or the email. -/
def «where» (pg : Postgres) (organizationId : Uuid) (query : UserQueryDto) (u : User) : Bool :=
  u.organizationId = organizationId &&
    query.role.value?.all (u.role = ·) &&
    query.search.text?.all (fun s =>
      pg.contains u.firstName s || pg.contains u.lastName s || pg.contains u.email s)

/-- The page is read whole and then narrowed to the columns of `userSelect`. -/
def findAll (pg : Postgres) (organizationId : Uuid) (query : UserQueryDto) (db : Db) :
    PaginatedResult UserResponseDto :=
  let result := pg.list db.users.rows («where» pg organizationId query)
    (toPrismaOrderBy query.sort SORTABLE) query.toPaginationQueryDto
  ⟨result.items.map userSelect, result.meta⟩

/-- `findOne` as the controller gets it. -/
def findOneResponse (organizationId id : Uuid) (db : Db) : Except HttpException UserResponseDto :=
  (findOne organizationId id db).map userSelect

end UsersService

/-! ### Organizations -/

namespace OrganizationsService

def SORTABLE : List String := ["name", "slug", "createdAt"]

/-- The search text may stand in the name or the slug. -/
def «where» (pg : Postgres) (query : PaginationQueryDto) (o : Organization) : Bool :=
  query.search.text?.all fun s => pg.contains o.name s || pg.contains o.slug s

/-- Every organization, whichever the administrator belongs to. -/
def findAll (pg : Postgres) (query : PaginationQueryDto) (db : Db) :
    PaginatedResult Organization :=
  pg.list db.organizations.rows («where» pg query) (toPrismaOrderBy query.sort SORTABLE) query

end OrganizationsService

/-! ### Audit and notifications -/

structure AuditQueryDto extends PaginationQueryDto where
  entityType : Field String
  entityId : Field Uuid
deriving DecidableEq, Repr

namespace AuditService

/-- Rows without an organization are in no list. -/
def «where» (organizationId : Uuid) (query : AuditQueryDto) (a : AuditLog) : Bool :=
  a.organizationId = some organizationId &&
    query.entityType.text?.all (a.entityType = ·) &&
    query.entityId.value?.all (a.entityId = ·)

/-- Always the newest first: `query.sort` is accepted and not used. -/
def findAll (pg : Postgres) (organizationId : Uuid) (query : AuditQueryDto) (db : Db) :
    PaginatedResult AuditLog :=
  pg.list db.auditLogs.rows («where» organizationId query) .newest query.toPaginationQueryDto

end AuditService

structure NotificationQueryDto extends PaginationQueryDto where
  isRead : Field Bool
deriving DecidableEq, Repr

namespace NotificationsService

/-- The `where` of `findForUser`, for a filter that is not `null`. -/
def «where» (userId : Uuid) (query : NotificationQueryDto) (n : Notification) : Bool :=
  n.userId = userId && query.isRead.value?.all (n.isRead = ·)

/-- `findForUser`; only `undefined` leaves the filter out, and a `null` is refused. -/
def findForUser (pg : Postgres) (userId : Uuid) (query : NotificationQueryDto) (db : Db) :
    Except PrismaError (PaginatedResult Notification) :=
  if query.isRead = .null then .error .nullArgument
  else
    .ok (pg.list db.notifications.rows («where» userId query) .newest query.toPaginationQueryDto)

def countUnread (userId : Uuid) (db : Db) : Nat :=
  (db.notifications.rows.filter fun n => n.userId = userId && !n.isRead).toFinset.card

lemma card_filter (p : Notification → Bool) (db : Db) :
    (db.notifications.rows.filter p).toFinset.card = db.notifications.rows.countP p := by
  rw [List.toFinset_card_of_nodup (db.notifications.nodup_rows.filter _),
    List.countP_eq_length_filter]

end NotificationsService

end SupportPlatform
