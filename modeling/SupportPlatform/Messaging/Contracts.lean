import SupportPlatform.Services.Dto

/-!
# Event contracts and topology

The payloads of the domain events, the envelope they travel in, and the queues, consumers and
bindings of the `support.events` exchange.
-/

namespace SupportPlatform

/-! ### Payloads -/

structure TicketCreatedPayload where
  ticketId : Uuid
  reference : String
  title : String
  status : TicketStatus
  priority : TicketPriority
  organizationId : Uuid
  createdById : Uuid
  assignedToId : Option Uuid
deriving DecidableEq, Repr

structure TicketUpdatedPayload where
  ticketId : Uuid
  reference : String
  organizationId : Uuid
  changes : UpdateTicketDto
  updatedById : Uuid
deriving DecidableEq, Repr

structure TicketAssignedPayload where
  ticketId : Uuid
  reference : String
  organizationId : Uuid
  assignedToId : Uuid
  assignedById : Uuid
deriving DecidableEq, Repr

structure TicketClosedPayload where
  ticketId : Uuid
  reference : String
  organizationId : Uuid
  closedById : Uuid
  closedAt : Time
deriving DecidableEq, Repr

structure CommentCreatedPayload where
  commentId : Uuid
  ticketId : Uuid
  organizationId : Uuid
  authorId : Uuid
  isInternal : Bool
deriving DecidableEq, Repr

/-- The JSON payload of an event. No payload is declared for `notification.created`. -/
inductive Payload where
  | ticketCreated (p : TicketCreatedPayload)
  | ticketUpdated (p : TicketUpdatedPayload)
  | ticketAssigned (p : TicketAssignedPayload)
  | ticketClosed (p : TicketClosedPayload)
  | commentCreated (p : CommentCreatedPayload)
  | notificationCreated
deriving DecidableEq, Repr

namespace Payload

/-- The routing key a payload of this shape is enqueued under. -/
abbrev routingKey : Payload → RoutingKey
  | .ticketCreated _ => .ticketCreated
  | .ticketUpdated _ => .ticketUpdated
  | .ticketAssigned _ => .ticketAssigned
  | .ticketClosed _ => .ticketClosed
  | .commentCreated _ => .commentCreated
  | .notificationCreated => .notificationCreated

/-- The ticket a payload names. -/
def ticketId? : Payload → Option Uuid
  | .ticketCreated p => some p.ticketId
  | .ticketUpdated p => some p.ticketId
  | .ticketAssigned p => some p.ticketId
  | .ticketClosed p => some p.ticketId
  | .commentCreated p => some p.ticketId
  | .notificationCreated => none

/-- The organization a payload names. -/
def organizationId? : Payload → Option Uuid
  | .ticketCreated p => some p.organizationId
  | .ticketUpdated p => some p.organizationId
  | .ticketAssigned p => some p.organizationId
  | .ticketClosed p => some p.organizationId
  | .commentCreated p => some p.organizationId
  | .notificationCreated => none

end Payload

/-- The envelope on the wire. `eventId` is the id of the outbox row; the payload always has the
shape its routing key announces. -/
structure DomainEvent where
  eventId : Uuid
  routingKey : RoutingKey
  occurredAt : Time
  correlationId : Option String
  payload : Payload
  key_eq : payload.routingKey = routingKey
deriving Repr

/-- The routing key is that of the payload, so it need not be compared. -/
instance : DecidableEq DomainEvent := fun e e' =>
  decidable_of_iff
    (e.eventId = e'.eventId ∧ e.occurredAt = e'.occurredAt ∧ e.correlationId = e'.correlationId ∧
      e.payload = e'.payload) <| by
    obtain ⟨eventId, key, occurredAt, correlationId, payload, rfl⟩ := e
    obtain ⟨eventId', key', occurredAt', correlationId', payload', rfl⟩ := e'
    simp only [DomainEvent.mk.injEq]
    constructor
    · rintro ⟨rfl, rfl, rfl, rfl⟩
      exact ⟨rfl, rfl, rfl, rfl, rfl⟩
    · rintro ⟨rfl, -, rfl, rfl, rfl⟩
      exact ⟨rfl, rfl, rfl, rfl⟩

/-- What an event carries of its outbox row. -/
def DomainEvent.content (e : DomainEvent) : Uuid × Payload × Option String :=
  (e.eventId, e.payload, e.correlationId)

/-! ### Topology -/

/-- The logical consumer names, which partition the idempotency table. -/
inductive Consumer where
  | notification
  | audit
  | analytics
deriving DecidableEq, Repr

instance : LawfulBEq (Uuid × Consumer) := inferInstance

/-- A binding of a queue to the topic exchange: one routing key, or the wildcard `#`. -/
inductive Binding where
  | key (k : RoutingKey)
  | wildcard
deriving DecidableEq, Repr

/-- Topic matching, for the patterns in use. -/
def Binding.matches : Binding → RoutingKey → Bool
  | .key k, k' => k = k'
  | .wildcard, _ => true

/-- The bindings of the queue a consumer owns: `NotificationBindings`, `AuditBindings` and
`AnalyticsBindings`. -/
def Consumer.bindings : Consumer → List Binding
  | .notification =>
    [.key .ticketCreated, .key .ticketUpdated, .key .ticketAssigned, .key .ticketClosed,
      .key .commentCreated]
  | .audit => [.wildcard]
  | .analytics => [.key .ticketCreated, .key .ticketAssigned, .key .ticketClosed]

/-- Whether the exchange routes a key to the queue of a consumer. -/
def Consumer.bound (c : Consumer) (k : RoutingKey) : Bool := c.bindings.any (·.matches k)

end SupportPlatform
