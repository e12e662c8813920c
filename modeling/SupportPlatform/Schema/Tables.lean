import SupportPlatform.Core.Table
import SupportPlatform.Messaging.Contracts

/-!
# Tables

The tables of `schema.prisma` that the domain, the outbox and the consumers work on. Surrogate ids
of rows that are only ever found by another unique constraint are left out, and so is every
`updatedAt` column but the one of `tickets`, the only one a query sorts by.
-/

namespace SupportPlatform

structure Organization where
  id : Uuid
  name : String
  slug : String
  isActive : Bool
  createdAt : Time
deriving DecidableEq, Repr

structure User where
  id : Uuid
  email : String
  passwordHash : String
  firstName : String
  lastName : String
  role : Role
  isActive : Bool
  lastLoginAt : Option Time
  organizationId : Uuid
  createdAt : Time
deriving DecidableEq, Repr

structure Ticket where
  id : Uuid
  reference : String
  title : String
  description : String
  status : TicketStatus
  priority : TicketPriority
  category : Option String
  organizationId : Uuid
  createdById : Uuid
  assignedToId : Option Uuid
  createdAt : Time
  updatedAt : Time
  closedAt : Option Time
deriving DecidableEq, Repr

structure Comment where
  id : Uuid
  ticketId : Uuid
  authorId : Uuid
  body : String
  isInternal : Bool
  createdAt : Time
deriving DecidableEq, Repr

structure Notification where
  id : Uuid
  userId : Uuid
  type : NotificationType
  title : String
  message : String
  ticketId : Option Uuid
  isRead : Bool
  readAt : Option Time
  createdAt : Time
deriving DecidableEq, Repr

structure AuditLog where
  id : Uuid
  action : RoutingKey
  entityType : String
  entityId : Uuid
  actorId : Option Uuid
  organizationId : Option Uuid
  metadata : Payload
  correlationId : Option String
  createdAt : Time
deriving DecidableEq, Repr

/-- A row of `ticket_metrics_daily`; `date` counts UTC days since the epoch. -/
structure TicketMetricDaily where
  organizationId : Uuid
  date : Nat
  ticketsCreated : Nat
  ticketsClosed : Nat
  ticketsAssigned : Nat
deriving DecidableEq, Repr

/-- A row of `event_outbox`. -/
structure EventOutbox where
  id : Uuid
  routingKey : RoutingKey
  payload : Payload
  correlationId : Option String
  status : OutboxStatus
  attempts : Nat
  lastError : Option String
  createdAt : Time
  dispatchedAt : Option Time
  key_eq : payload.routingKey = routingKey
deriving DecidableEq, Repr

/-- What a row says about its event, which no later update changes. -/
def EventOutbox.content (r : EventOutbox) : Uuid × Payload × Option String :=
  (r.id, r.payload, r.correlationId)

/-- A row of `processed_events`. -/
structure ProcessedEvent where
  eventId : Uuid
  consumer : Consumer
  processedAt : Time
deriving DecidableEq, Repr

instance : Keyed Organization Uuid := ⟨Organization.id⟩
instance : Keyed User Uuid := ⟨User.id⟩
instance : Keyed Ticket Uuid := ⟨Ticket.id⟩
instance : Keyed Comment Uuid := ⟨Comment.id⟩
instance : Keyed Notification Uuid := ⟨Notification.id⟩
instance : Keyed AuditLog Uuid := ⟨AuditLog.id⟩
instance : Keyed EventOutbox Uuid := ⟨EventOutbox.id⟩

/-- `@@unique([organizationId, date])`. -/
instance : Keyed TicketMetricDaily (Uuid × Nat) := ⟨fun m => (m.organizationId, m.date)⟩

/-- `@@unique([eventId, consumer])`. -/
instance : Keyed ProcessedEvent (Uuid × Consumer) := ⟨fun p => (p.eventId, p.consumer)⟩

@[simp] lemma Organization.key_eq_id (o : Organization) : Keyed.key o = o.id := rfl
@[simp] lemma User.key_eq_id (u : User) : Keyed.key u = u.id := rfl
@[simp] lemma Ticket.key_eq_id (t : Ticket) : Keyed.key t = t.id := rfl
@[simp] lemma Comment.key_eq_id (c : Comment) : Keyed.key c = c.id := rfl
@[simp] lemma Notification.key_eq_id (n : Notification) : Keyed.key n = n.id := rfl
@[simp] lemma AuditLog.key_eq_id (a : AuditLog) : Keyed.key a = a.id := rfl
@[simp] lemma EventOutbox.key_eq_id (r : EventOutbox) : Keyed.key r = r.id := rfl

@[simp] lemma TicketMetricDaily.key_eq (m : TicketMetricDaily) :
    Keyed.key m = (m.organizationId, m.date) := rfl

@[simp] lemma ProcessedEvent.key_eq (p : ProcessedEvent) :
    Keyed.key p = (p.eventId, p.consumer) := rfl

/-- The database. -/
structure Db where
  organizations : Table Organization
  users : Table User
  tickets : Table Ticket
  comments : Table Comment
  notifications : Table Notification
  auditLogs : Table AuditLog
  ticketMetrics : Table TicketMetricDaily
  outbox : Table EventOutbox
  processedEvents : Table ProcessedEvent

namespace Db

/-- The empty database. -/
def empty : Db :=
  ⟨.empty, .empty, .empty, .empty, .empty, .empty, .empty, .empty, .empty⟩

/-- The organization a user belongs to. -/
def userOrg (db : Db) (id : Uuid) : Option Uuid := db.users.column User.organizationId id

/-- The organization a ticket belongs to. -/
def ticketOrg (db : Db) (id : Uuid) : Option Uuid := db.tickets.column Ticket.organizationId id

/-- The database after `ON DELETE` of an organization: its users, tickets and metrics go, with the
comments of these tickets and the notifications of these users; where a remaining row refers to
one of them, the reference becomes null. -/
def dropOrganization (db : Db) (id : Uuid) : Db :=
  { db with
    organizations := db.organizations.removeWhere (·.id = id)
    users := db.users.removeWhere (·.organizationId = id)
    tickets :=
      (db.tickets.removeWhere (·.organizationId = id)).modifyWhere
        (fun t => t.assignedToId.any fun u => db.userOrg u = some id)
        (fun t => { t with assignedToId := none }) fun _ => rfl
    comments := db.comments.removeWhere fun c => db.ticketOrg c.ticketId = some id
    notifications := db.notifications.removeWhere fun n => db.userOrg n.userId = some id
    auditLogs :=
      (db.auditLogs.modifyWhere (fun a => a.actorId.any fun u => db.userOrg u = some id)
        (fun a => { a with actorId := none }) fun _ => rfl).modifyWhere
        (·.organizationId = some id) (fun a => { a with organizationId := none }) fun _ => rfl
    ticketMetrics := db.ticketMetrics.removeWhere (·.organizationId = id) }

/-- The organization is removed for good, next to those removed before. -/
lemma mem_retired_dropOrganization {db : Db} {id o : Uuid}
    (hid : (db.organizations.find? id).isSome) :
    o ∈ (db.dropOrganization id).organizations.retired ↔ o = id ∨ o ∈ db.organizations.retired := by
  have hcolumn : db.organizations.column Organization.id o = some id ↔ o = id := by
    rw [Table.column_eq_some]
    constructor
    · rintro ⟨r, -, hk, hr⟩
      exact hk.symm.trans hr
    · rintro rfl
      obtain ⟨r, hr⟩ := Option.isSome_iff_exists.mp hid
      obtain ⟨hmem, hk⟩ := Table.find?_eq_some.mp hr
      exact ⟨r, hmem, hk, hk⟩
  rw [← hcolumn]
  exact Table.mem_retired_removeWhere fun _ => rfl

/-- A user of the organization created a ticket of another one, or wrote a comment (`ON DELETE
RESTRICT`). The cascade removes the users, then the tickets, and checks what refers to the users
next; the comments on the tickets are to go only after that. -/
def restrictsDrop (db : Db) (id : Uuid) : Bool :=
  db.tickets.rows.any (fun t => t.organizationId ≠ id ∧ db.userOrg t.createdById = some id) ||
    db.comments.rows.any fun c => db.userOrg c.authorId = some id

end Db

/-! ### The data of the seed script -/

namespace Seed

/-- The organization of the seed script. -/
def acme : Organization := ⟨1, "Acme Inc.", "acme-inc", true, 0⟩

/-- Another tenant, which the seed script does not have. -/
def globex : Organization := ⟨2, "Globex", "globex", true, 0⟩

def admin : User :=
  ⟨11, "admin@acme.test", "hash", "Alice", "Admin", .admin, true, none, 1, 0⟩

def agent : User :=
  ⟨12, "agent@acme.test", "hash", "Gary", "Agent", .agent, true, none, 1, 0⟩

def customer : User :=
  ⟨13, "customer@acme.test", "hash", "Carol", "Customer", .customer, true, none, 1, 0⟩

def organizations : Table Organization := ⟨[acme], [], by decide⟩

def users : Table User := ⟨[admin, agent, customer], [], by decide⟩

/-- The uuids generated at the `n`-th step of a run. -/
def uuid (n : Nat) (st : Statement) (i : Nat) : Uuid :=
  100 * n + i + match st with
    | .query => 10
    | .processed => 20
    | .count => 30
    | .write => 40
    | .enqueue .ticketClosed => 60
    | .enqueue _ => 50
    | .commit => 70

/-- The environment of the `n`-th step when nothing fails. -/
def env (n : Nat) : Env where
  now := n
  uuid := uuid n
  fault _ := none
  rank _ := 0
  passwordHash := "hash"
  compare _ _ := true

/-- The environment of the `n`-th step when the database does not answer. -/
def unavailable (n : Nat) : Env := { env n with fault := fun _ => some (.other "Connection lost") }

/-- A notification of the customer that has not been read. -/
def unreadDb : Db :=
  { Db.empty with
    notifications := ⟨[⟨1, 13, .commentAdded, "New comment", "", some 140, false, none, 1⟩], [],
      by decide⟩ }

/-- A body of `POST /tickets`. -/
def ticketDto : CreateTicketDto := ⟨"Cannot log in", "The dashboard returns a 500.", .undefined,
  .undefined⟩

/-- A body of `PATCH /tickets/:id` that closes the ticket. -/
def closeDto : UpdateTicketDto := ⟨.undefined, .undefined, .value .closed, .undefined, .undefined⟩

end Seed

end SupportPlatform
