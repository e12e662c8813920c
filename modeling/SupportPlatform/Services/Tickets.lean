import SupportPlatform.Core.Numeral
import SupportPlatform.Messaging.EventPublisher

/-!
# TicketsService

The write operations of the ticket domain. `create` is one interactive transaction. `update` and
`assign` first read outside a transaction (`findOne`, and for `assign` the lookup of the assignee)
and then run their transaction, whose body is given here with the values it closes over.
-/

namespace SupportPlatform.TicketsService

open EventPublisherService

/-- The reference given out when `count` tickets exist. -/
def reference (count : Nat) : String :=
  "TKT-" ++ Numeral.padStart (toString (count + 1)) 6 '0'

/-- Two transactions that count before either has committed get the same reference. -/
def nextReference : DbTx String := do
  let count ← countTickets
  return reference count

/-- The row `create` inserts. -/
def newTicket (env : Env) (actor : AuthenticatedUser) (dto : CreateTicketDto)
    (reference : String) (priority : TicketPriority) : Ticket where
  id := env.uuid .write 0
  reference
  title := dto.title
  description := dto.description
  status := .open
  priority
  category := dto.category.overwrite none
  organizationId := actor.organizationId
  createdById := actor.id
  assignedToId := none
  createdAt := env.now
  updatedAt := env.now
  closedAt := none

/-- The `ticket.created` payload of a row. -/
def createdPayload (ticket : Ticket) : TicketCreatedPayload where
  ticketId := ticket.id
  reference := ticket.reference
  title := ticket.title
  status := ticket.status
  priority := ticket.priority
  organizationId := ticket.organizationId
  createdById := ticket.createdById
  assignedToId := ticket.assignedToId

/-- The reference, the row and the event of one transaction. -/
def create (actor : AuthenticatedUser) (dto : CreateTicketDto) (correlationId : Option String) :
    DbTx Ticket :=
  interactive do
    let env ← Transaction.ask
    let reference ← nextReference
    let priority ← required dto.priority .medium
    let ticket ← createTicket (newTicket env actor dto reference priority)
    enqueue .ticketCreated (.ticketCreated (createdPayload ticket)) correlationId
    return ticket

/-- `findOne`: the lookup in the actor's organization, and for customers the ownership check. -/
def findOne (actor : AuthenticatedUser) (id : Uuid) (db : Db) : Except HttpException Ticket :=
  match db.tickets.rows.find? fun t => t.id = id ∧ t.organizationId = actor.organizationId with
  | none => .error (.notFound "Ticket not found")
  | some ticket =>
    if actor.role = .customer ∧ ticket.createdById ≠ actor.id then
      .error (.forbidden "You cannot access this ticket")
    else .ok ticket

/-- What `update` checks before its transaction: the access rule and the customer rule. -/
def checkUpdate (actor : AuthenticatedUser) (id : Uuid) (dto : UpdateTicketDto) (db : Db) :
    Except HttpException Ticket :=
  match findOne actor id db with
  | .error e => .error e
  | .ok existing =>
    if actor.role = .customer ∧ (dto.status.truthy ∨ dto.priority.truthy) then
      .error (.forbidden "Customers cannot change status or priority")
    else .ok existing

/-- `willClose`, computed from the ticket `findOne` returned. -/
def willClose (dto : UpdateTicketDto) (existing : Ticket) : Bool :=
  dto.status = .value .closed ∧ existing.status ≠ .closed

/-- The transaction of `update`. -/
def updateTransaction (actor : AuthenticatedUser) (id : Uuid) (dto : UpdateTicketDto)
    (correlationId : Option String) (willClose : Bool) : DbTx Ticket :=
  interactive do
    let env ← Transaction.ask
    let ticket ← updateTicket id dto (if willClose then some env.now else none) env.now
    enqueue .ticketUpdated
      (.ticketUpdated
        { ticketId := ticket.id
          reference := ticket.reference
          organizationId := ticket.organizationId
          changes := dto
          updatedById := actor.id })
      correlationId
    if willClose then
      enqueue .ticketClosed
        (.ticketClosed
          { ticketId := ticket.id
            reference := ticket.reference
            organizationId := ticket.organizationId
            closedById := actor.id
            closedAt := ticket.closedAt.getD env.now })
        correlationId
    return ticket

/-- The lookup of the assignee: an active agent or admin of the actor's organization. -/
def findAssignee (actor : AuthenticatedUser) (dto : AssignTicketDto) (db : Db) :
    Except HttpException User :=
  match db.users.rows.find? fun u =>
      u.id = dto.assigneeId ∧ u.organizationId = actor.organizationId ∧ u.isActive ∧
        (u.role = .agent ∨ u.role = .admin) with
  | none => .error (.notFound "Assignee must be an active agent or admin")
  | some assignee => .ok assignee

/-- The transaction of `assign`. -/
def assignTransaction (actor : AuthenticatedUser) (id : Uuid) (dto : AssignTicketDto)
    (correlationId : Option String) : DbTx Ticket :=
  interactive do
    let env ← Transaction.ask
    let ticket ← assignTicket id dto.assigneeId env.now
    enqueue .ticketAssigned
      (.ticketAssigned
        { ticketId := ticket.id
          reference := ticket.reference
          organizationId := ticket.organizationId
          assignedToId := dto.assigneeId
          assignedById := actor.id })
      correlationId
    return ticket

end SupportPlatform.TicketsService
