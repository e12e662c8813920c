import Mathlib.Data.List.Perm.Basic
import SupportPlatform.Core.JsNumber
import SupportPlatform.Messaging.Contracts

/-!
# The broker

The topic exchanges with the queues of the consumers and the dead-letter exchange, as far as the
code relies on them: a message an exchange has accepted is kept in every queue that is declared and
bound to this exchange with its routing key. The relay publishes to the exchange of its settings,
and the consumers bind their queues to `EXCHANGE`.
-/

namespace SupportPlatform

/-- The exchange the queues of the consumers are bound to. -/
def EXCHANGE : String := "support.events"

/-- The retry header and the header with the last error. -/
def RETRY_HEADER : String := "x-retry"

def LAST_ERROR_HEADER : String := "x-last-error"

/-- The properties of a raw AMQP message that `ConsumerRunner` reads. -/
structure RawAmqpMessage where
  headers : Option (List (String × JsValue))
  messageId : Option Uuid
  correlationId : Option String
deriving DecidableEq, Repr

/-- A message of a consumer queue. -/
structure Message where
  event : DomainEvent
  raw : RawAmqpMessage
deriving DecidableEq, Repr

/-- A message of the dead-letter queue. -/
structure DeadLetter where
  originQueue : Consumer
  error : String
  failedAt : Time
  event : DomainEvent
  messageId : Option Uuid
deriving DecidableEq, Repr

/-- The settings `rabbitmq.exchange`, `outbox.batchSize`, `outbox.maxAttempts` and
`consumer.maxRetries`. -/
structure Config where
  exchange : String
  batchSize : Nat
  maxAttempts : Nat
  maxRetries : Nat
deriving DecidableEq, Repr

/-- The defaults of the settings. -/
def Config.default : Config := ⟨"support.events", 50, 5, 3⟩

/-- What becomes of a publish: accepted; refused, so that the call throws; or accepted although
the call throws, as when the confirmation is lost. -/
inductive PublishOutcome where
  | accepted
  | refused (error : String)
  | unconfirmed (error : String)
deriving DecidableEq, Repr

namespace PublishOutcome

/-- Whether the broker took the message. -/
def taken : PublishOutcome → Bool
  | .refused _ => false
  | _ => true

/-- The error the call throws. -/
def error? : PublishOutcome → Option String
  | .accepted => none
  | .refused e | .unconfirmed e => some e

end PublishOutcome

/-- The queues. `declared` holds from the first connection of a worker on. -/
structure Broker where
  declared : Bool
  queues : Consumer → List Message
  deadLetters : List DeadLetter

namespace Broker

/-- The broker before any worker has connected. -/
def empty : Broker := ⟨false, fun _ => [], []⟩

/-- A message for one queue. -/
def push (b : Broker) (c : Consumer) (m : Message) : Broker :=
  { b with queues := Function.update b.queues c (b.queues c ++ [m]) }

/-- A message back at the head of its queue. -/
def requeue (b : Broker) (c : Consumer) (m : Message) : Broker :=
  { b with queues := Function.update b.queues c (m :: b.queues c) }

/-- The message at a position of a queue, and the broker without it. -/
def take? (b : Broker) (c : Consumer) (k : Nat) : Option (Message × Broker) :=
  (b.queues c)[k]?.map fun m =>
    (m, { b with queues := Function.update b.queues c ((b.queues c).eraseIdx k) })

/-- A message published to a topic exchange. -/
def route (b : Broker) (exchange : String) (m : Message) : Broker :=
  { b with queues := fun c =>
      if b.declared ∧ exchange = EXCHANGE ∧ c.bound m.event.routingKey then b.queues c ++ [m]
      else b.queues c }

/-- A message published to the dead-letter exchange. -/
def deadLetter (b : Broker) (d : DeadLetter) : Broker :=
  { b with deadLetters := b.deadLetters ++ [d] }

lemma mem_push {b : Broker} {c c' : Consumer} {m m' : Message} :
    m' ∈ (b.push c m).queues c' ↔ m' ∈ b.queues c' ∨ c' = c ∧ m' = m := by
  by_cases h : c' = c
  · subst h
    simp [push]
  · simp [push, h]

lemma mem_requeue {b : Broker} {c c' : Consumer} {m m' : Message} :
    m' ∈ (b.requeue c m).queues c' ↔ m' ∈ b.queues c' ∨ c' = c ∧ m' = m := by
  by_cases h : c' = c
  · subst h
    simp [requeue, or_comm]
  · simp [requeue, h]

lemma mem_of_take? {b b' : Broker} {c : Consumer} {k : Nat} {m : Message}
    (h : b.take? c k = some (m, b')) :
    m ∈ b.queues c ∧ ∀ c' m', m' ∈ b'.queues c' → m' ∈ b.queues c' := by
  obtain ⟨m₁, hm, heq⟩ := Option.map_eq_some_iff.mp h
  obtain ⟨rfl, rfl⟩ := Prod.mk.inj heq
  refine ⟨List.mem_of_getElem? hm, fun c' m' hm' => ?_⟩
  by_cases hc : c' = c
  · subst hc
    simp only [Function.update_self] at hm'
    exact List.mem_of_mem_eraseIdx hm'
  · simpa only [Function.update_of_ne hc] using hm'

/-- Taking a message leaves the rest of its queue, and everything else as it was. -/
lemma take?_eq_some {b b' : Broker} {c : Consumer} {k : Nat} {m : Message}
    (h : b.take? c k = some (m, b')) :
    (b.queues c).Perm (m :: b'.queues c) ∧ (∀ c', c' ≠ c → b'.queues c' = b.queues c') ∧
      b'.deadLetters = b.deadLetters := by
  obtain ⟨m₁, hm, heq⟩ := Option.map_eq_some_iff.mp h
  obtain ⟨rfl, rfl⟩ := Prod.mk.inj heq
  obtain ⟨hk, rfl⟩ := List.getElem?_eq_some_iff.mp hm
  refine ⟨?_, fun c' hc => by simp [hc], rfl⟩
  simpa using (List.getElem_cons_eraseIdx_perm hk).symm

lemma mem_route {b : Broker} {exchange : String} {c : Consumer} {m m' : Message}
    (h : m' ∈ (b.route exchange m).queues c) : m' ∈ b.queues c ∨ m' = m := by
  simp only [route] at h
  split at h
  · simpa using h
  · exact .inl h

end Broker

end SupportPlatform
