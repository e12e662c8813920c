import SupportPlatform.Schema.Statements

/-!
# The transactional outbox writer
-/

namespace SupportPlatform.EventPublisherService

/-- The row `enqueue` inserts. -/
def newRow (env : Env) (routingKey : RoutingKey) (payload : Payload)
    (correlationId : Option String) (key_eq : payload.routingKey = routingKey) : EventOutbox where
  id := env.uuid (.enqueue routingKey) 0
  routingKey
  payload
  correlationId
  status := .pending
  attempts := 0
  lastError := none
  createdAt := env.now
  dispatchedAt := none
  key_eq

/-- `enqueue`: persist an event inside the transaction that changes the domain state. -/
def enqueue (routingKey : RoutingKey) (payload : Payload) (correlationId : Option String)
    (key_eq : payload.routingKey = routingKey := by rfl) : DbTx Unit := do
  let env ← Transaction.ask
  createOutbox (newRow env routingKey payload correlationId key_eq)

lemma enqueue_eq_ok {routingKey : RoutingKey} {payload : Payload} {correlationId : Option String}
    {key_eq : payload.routingKey = routingKey} {env : Env} {db db' : Db} {u : Unit} :
    enqueue routingKey payload correlationId key_eq env db = .ok (u, db') ↔
      env.fault (.enqueue routingKey) = none ∧ ∃ outbox,
        db.outbox.insert? (newRow env routingKey payload correlationId key_eq) = some outbox ∧
          db' = { db with outbox } := by
  rw [enqueue, Transaction.bind_of_ok (Transaction.ask_apply env db), createOutbox_eq_ok]
  rfl

/-- `enqueue`, failures included. -/
lemma enqueue_apply (routingKey : RoutingKey) (payload : Payload) (correlationId : Option String)
    (key_eq : payload.routingKey = routingKey) (env : Env) (db : Db) :
    enqueue routingKey payload correlationId key_eq env db =
      match env.fault (.enqueue routingKey) with
      | some e => .error e
      | none =>
        match db.outbox.insert? (newRow env routingKey payload correlationId key_eq) with
        | none => .error .uniqueViolation
        | some outbox => .ok ((), { db with outbox }) := by
  rw [enqueue, Transaction.bind_of_ok (Transaction.ask_apply env db), createOutbox, attempt]
  show (match env.fault (.enqueue routingKey) with | some e => _ | none => _) = _
  cases env.fault (.enqueue routingKey) with
  | some e => rfl
  | none =>
    cases h : db.outbox.insert? (newRow env routingKey payload correlationId key_eq) <;>
      simp [insertRow, h, Except.map]

end SupportPlatform.EventPublisherService
