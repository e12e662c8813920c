import Mathlib.Tactic.Lemma

/-!
# Scalars, enums and errors

The scalar types and enums of `schema.prisma`, the three-valued fields of a request body, the
errors the services see, and the environment of a database statement: the clock, the generated
ids and the fault, if any, that hits it.
-/

namespace SupportPlatform

/-- A uuid, of which only equality is used. -/
abbrev Uuid := Nat

/-- Milliseconds since the epoch. -/
abbrev Time := Nat

inductive Role where
  | admin
  | agent
  | customer
deriving DecidableEq, Repr

inductive TicketStatus where
  | «open»
  | inProgress
  | pending
  | resolved
  | closed
deriving DecidableEq, Repr

inductive TicketPriority where
  | low
  | medium
  | high
  | urgent
deriving DecidableEq, Repr

inductive NotificationType where
  | ticketCreated
  | ticketUpdated
  | ticketAssigned
  | ticketClosed
  | commentAdded
deriving DecidableEq, Repr

inductive OutboxStatus where
  | pending
  | dispatched
  | failed
deriving DecidableEq, Repr

/-- The routing keys of the `support.events` exchange. -/
inductive RoutingKey where
  | ticketCreated
  | ticketUpdated
  | ticketAssigned
  | ticketClosed
  | commentCreated
  | notificationCreated
deriving DecidableEq, Repr

/-- The text of a routing key on the wire. -/
def RoutingKey.name : RoutingKey → String
  | .ticketCreated => "ticket.created"
  | .ticketUpdated => "ticket.updated"
  | .ticketAssigned => "ticket.assigned"
  | .ticketClosed => "ticket.closed"
  | .commentCreated => "comment.created"
  | .notificationCreated => "notification.created"

instance {p : RoutingKey → Prop} [DecidablePred p] : Decidable (∀ key, p key) :=
  decidable_of_iff
    (p .ticketCreated ∧ p .ticketUpdated ∧ p .ticketAssigned ∧ p .ticketClosed ∧
      p .commentCreated ∧ p .notificationCreated)
    ⟨fun ⟨h₁, h₂, h₃, h₄, h₅, h₆⟩ key => by cases key <;> assumption,
      fun h => ⟨h _, h _, h _, h _, h _, h _⟩⟩

/-! ### Request bodies -/

/-- An optional field of a request body: absent, `null`, or a value. -/
inductive Field (α : Type) where
  | undefined
  | null
  | value (a : α)
deriving DecidableEq, Repr

namespace Field

variable {α : Type}

/-- The JavaScript `??`: the default for `undefined` and for `null`. -/
def getD : Field α → α → α
  | .value a, _ => a
  | _, d => d

/-- Truthiness of an optional enum field, whose values are non-empty strings. -/
def truthy : Field α → Bool
  | .value _ => true
  | _ => false

end Field

/-- `request.user`, as the JWT strategy rehydrates it. -/
structure AuthenticatedUser where
  id : Uuid
  email : String
  role : Role
  organizationId : Uuid
deriving DecidableEq, Repr

/-! ### Errors -/

/-- What a Prisma call can throw: a `PrismaClientKnownRequestError` with its code, or anything
else (a validation error, a lost connection, an error of the surrounding code). -/
inductive PrismaError where
  | knownRequest (code message : String)
  | other (message : String)
deriving DecidableEq, Repr

namespace PrismaError

def message : PrismaError → String
  | .knownRequest _ m => m
  | .other m => m

/-- `P2002`: a unique constraint failed. -/
def uniqueViolation : PrismaError := .knownRequest "P2002" "Unique constraint failed"

/-- `P2003`: a foreign key constraint failed. -/
def foreignKeyViolation : PrismaError := .knownRequest "P2003" "Foreign key constraint failed"

/-- `P2025`: the record to update was not found. -/
def recordNotFound : PrismaError := .knownRequest "P2025" "Record to update not found"

/-- The validation error for a `null` in a required column, raised before any statement. -/
def nullArgument : PrismaError := .other "Argument must not be null"

end PrismaError

/-- The HTTP exceptions the services throw themselves. -/
inductive HttpException where
  | unauthorized (message : String)
  | forbidden (message : String)
  | notFound (message : String)
  | conflict (message : String)
deriving DecidableEq, Repr

/-- What a service call can throw. -/
inductive Failure where
  | http (e : HttpException)
  | prisma (e : PrismaError)
deriving DecidableEq, Repr

/-! ### The environment of a statement -/

/-- The statements of a call: a single query outside a transaction, the statements of an
interactive transaction (`processed` is the insertion into `processed_events`), and its commit. -/
inductive Statement where
  | query
  | processed
  | count
  | write
  | enqueue (key : RoutingKey)
  | commit
deriving DecidableEq, Repr

/-- What the outside world contributes to the statements of one step: the clock, the uuids
generated for the rows a statement inserts, the statements that fail and how, the order in which
a query returns rows its `orderBy` leaves equal, and what bcrypt makes of a password. -/
structure Env where
  now : Time
  uuid : Statement → Nat → Uuid
  fault : Statement → Option PrismaError
  rank : Uuid → Nat
  passwordHash : String
  compare : String → String → Bool

end SupportPlatform
