import SupportPlatform.Api.Calls
import SupportPlatform.Consumers.Delivery
import SupportPlatform.Core.Machine
import SupportPlatform.Messaging.Relay

/-!
# The platform

One database, the service calls in progress, any number of API processes running the relay, the
broker, and the deliveries the workers are handling. An event is one step of one of them; what the
environment contributes to the step is part of the event.
-/

namespace SupportPlatform

/-- A request in progress, with the user the guards found. -/
structure InFlight where
  user : Option AuthenticatedUser
  call : Call
deriving DecidableEq

structure World where
  db : Db
  calls : List InFlight
  relays : List RelayProcess
  broker : Broker
  deliveries : List Delivery

inductive Event where
  | arrive (sub : Option Uuid) (correlationId : Option String) (request : Request)
  | proceed (i : Nat) (env : Env)
  | relay (i : Nat) (action : RelayAction)
  | connect
  | deliver (worker : Nat) (queue : Consumer) (k : Nat)
  | consume (i : Nat) (action : DeliveryAction)
  | redeliver (i : Nat)
  | crash (worker : Nat)

/-- The arrival of a request to remove an organization. -/
def Event.isRemoval : Event → Bool
  | .arrive _ _ request => request.isRemoval
  | _ => false

namespace World

/-- The world before the first request: organizations and users as they are, everything else
empty, and `n` relay processes just started. -/
def initial (organizations : Table Organization) (users : Table User) (n : Nat) : World where
  db := { Db.empty with organizations, users }
  calls := []
  relays := List.replicate n OutboxRelayService.started
  broker := .empty
  deliveries := []

/-- An open transaction of some delivery holds the key. -/
def locked (w : World) (key : Uuid × Consumer) : Bool :=
  w.deliveries.any fun d => d.holds && d.key = key

/-- The unacknowledged deliveries of a worker go back to their queues. -/
def giveBack (broker : Broker) (deliveries : List Delivery) (worker : Nat) : Broker :=
  deliveries.foldr (fun d b =>
    if d.worker = worker ∧ d.unacked then b.requeue d.consumer d.message else b) broker

/-- One step of the platform; `none` when the event is not enabled. -/
def step (cfg : Config) (w : World) : Event → Option World
  | .arrive sub correlationId request =>
    let (user, call) := Call.receive w.db sub correlationId request
    some { w with calls := w.calls ++ [⟨user, call⟩] }
  | .proceed i env =>
    w.calls[i]?.map fun c =>
      { w with
        db := (c.call.exec env w.db).1
        calls := w.calls.set i { c with call := (c.call.exec env w.db).2 } }
  | .relay i action =>
    w.relays[i]?.bind fun p =>
      (OutboxRelayService.step cfg w.db w.broker p action).map fun (db, broker, p') =>
        { w with db, broker, relays := w.relays.set i p' }
  | .connect => some { w with broker := { w.broker with declared := true } }
  | .deliver worker queue k =>
    (w.broker.take? queue k).map fun (message, broker) =>
      { w with broker, deliveries := w.deliveries ++ [⟨worker, queue, message, true, .received⟩] }
  | .consume i action =>
    w.deliveries[i]?.bind fun d =>
      (d.exec cfg w.db w.broker (w.locked d.key) action).map fun (db, broker, d') =>
        { w with
          db, broker
          deliveries := match d' with
            | some d' => w.deliveries.set i d'
            | none => w.deliveries.eraseIdx i }
  | .redeliver i =>
    w.deliveries[i]?.bind fun d =>
      if d.unacked then
        some { w with
          broker := w.broker.requeue d.consumer d.message
          deliveries := w.deliveries.set i { d with unacked := false } }
      else none
  | .crash worker =>
    some { w with
      broker := giveBack w.broker w.deliveries worker
      deliveries := w.deliveries.filter (·.worker ≠ worker) }

/-! ### What a step can do -/

/-- All that a step of the platform can do. -/
inductive Steps (cfg : Config) (w : World) : Event → World → Prop
  | arrive {sub correlationId request} :
    Steps cfg w (.arrive sub correlationId request)
      { w with
        calls := w.calls ++
          [⟨(Call.receive w.db sub correlationId request).1,
            (Call.receive w.db sub correlationId request).2⟩] }
  | proceed {i env c db call} (hc : w.calls[i]? = some c)
    (h : Call.Executes env w.db c.call db call) :
    Steps cfg w (.proceed i env) { w with db, calls := w.calls.set i { c with call } }
  | relay {i action p db broker p'} (hp : w.relays[i]? = some p)
    (h : OutboxRelayService.Steps cfg w.db w.broker p db broker p') :
    Steps cfg w (.relay i action) { w with db, broker, relays := w.relays.set i p' }
  | connect : Steps cfg w .connect { w with broker := { w.broker with declared := true } }
  | deliver {worker queue k message broker}
    (h : w.broker.take? queue k = some (message, broker)) :
    Steps cfg w (.deliver worker queue k)
      { w with
        broker
        deliveries := w.deliveries ++ [⟨worker, queue, message, true, .received⟩] }
  | consume {i action d db broker d'} (hd : w.deliveries[i]? = some d)
    (h : d.Executes w.db w.broker (w.locked d.key) action db broker (some d')) :
    Steps cfg w (.consume i action)
      { w with db, broker, deliveries := w.deliveries.set i d' }
  | finish {i action d db broker} (hd : w.deliveries[i]? = some d)
    (h : d.Executes w.db w.broker (w.locked d.key) action db broker none) :
    Steps cfg w (.consume i action)
      { w with db, broker, deliveries := w.deliveries.eraseIdx i }
  | redeliver {i d} (hd : w.deliveries[i]? = some d) (hunacked : d.unacked) :
    Steps cfg w (.redeliver i)
      { w with
        broker := w.broker.requeue d.consumer d.message
        deliveries := w.deliveries.set i { d with unacked := false } }
  | crash {worker} :
    Steps cfg w (.crash worker)
      { w with
        broker := giveBack w.broker w.deliveries worker
        deliveries := w.deliveries.filter (·.worker ≠ worker) }

theorem step_cases {cfg : Config} {w w' : World} {e : Event} (h : step cfg w e = some w') :
    Steps cfg w e w' := by
  cases e with
  | arrive sub correlationId request =>
    cases h
    exact .arrive
  | proceed i env =>
    obtain ⟨c, hc, rfl⟩ := Option.map_eq_some_iff.mp h
    exact .proceed hc (Call.exec_cases rfl)
  | relay i action =>
    obtain ⟨p, hp, h⟩ := Option.bind_eq_some_iff.mp h
    obtain ⟨⟨db, broker, p'⟩, hstep, rfl⟩ := Option.map_eq_some_iff.mp h
    exact .relay hp (OutboxRelayService.step_cases hstep)
  | connect =>
    cases h
    exact .connect
  | deliver worker queue k =>
    obtain ⟨⟨message, broker⟩, hm, rfl⟩ := Option.map_eq_some_iff.mp h
    exact .deliver hm
  | consume i action =>
    obtain ⟨d, hd, h⟩ := Option.bind_eq_some_iff.mp h
    obtain ⟨⟨db, broker, d'⟩, hexec, rfl⟩ := Option.map_eq_some_iff.mp h
    cases d' with
    | none => exact .finish hd (Delivery.exec_cases hexec)
    | some d' => exact .consume hd (Delivery.exec_cases hexec)
  | redeliver i =>
    obtain ⟨d, hd, h⟩ := Option.bind_eq_some_iff.mp h
    split_ifs at h with hunacked
    cases h
    exact .redeliver hd hunacked
  | crash worker =>
    cases h
    exact .crash

lemma mem_giveBack {broker : Broker} {deliveries : List Delivery} {worker : Nat} {c : Consumer}
    {m : Message} (h : m ∈ (giveBack broker deliveries worker).queues c) :
    m ∈ broker.queues c ∨ ∃ d ∈ deliveries, m = d.message := by
  induction deliveries with
  | nil => exact .inl h
  | cons d ds ih =>
    have ih' : ∀ h, _ := fun h => (ih h).imp_right fun ⟨d', hd', hm⟩ =>
      (⟨d', List.mem_cons_of_mem d hd', hm⟩ : ∃ d' ∈ d :: ds, m = d'.message)
    rw [giveBack, List.foldr_cons] at h
    split_ifs at h
    · rcases Broker.mem_requeue.mp h with h | ⟨-, rfl⟩
      · exact ih' h
      · exact .inr ⟨d, List.mem_cons_self, rfl⟩
    · exact ih' h

/-- Where a delivery comes from: it was there, it has just been taken from a queue, it is one that
has gone on, or one the broker no longer counts on. -/
inductive Arises (w : World) (e : Event) (w' : World) : Delivery → Prop
  | kept {d} (hd : d ∈ w.deliveries) : Arises w e w' d
  | received {worker c m} (hm : m ∈ w.broker.queues c) :
    Arises w e w' ⟨worker, c, m, true, .received⟩
  | next {i a d d'} (he : e = .consume i a) (hd : w.deliveries[i]? = some d)
    (h : d.Executes w.db w.broker (w.locked d.key) a w'.db w'.broker (some d')) : Arises w e w' d'
  | lost {d} (hd : d ∈ w.deliveries) : Arises w e w' { d with unacked := false }

/-- Where a queued message comes from: it was there, it has come back from a worker, or it has been
published. -/
inductive Enqueued (w : World) (e : Event) (c : Consumer) (m : Message) : Prop
  | kept (hm : m ∈ w.broker.queues c)
  | returned {d} (hd : d ∈ w.deliveries) (hevent : m.event = d.message.event)
  | published {i a p t r} (he : e = .relay i a) (hp : p ∈ w.relays) (ht : t ∈ p.ticks)
    (hr : r ∈ t.rows) (hcontent : m.event.content = r.content)

namespace Steps

variable {cfg : Config} {w w' : World} {e : Event}

lemma arises (h : Steps cfg w e w') {d : Delivery} (hd : d ∈ w'.deliveries) :
    Arises w e w' d := by
  cases h with
  | deliver h =>
    rcases List.mem_append.mp hd with hd | hd
    · exact .kept hd
    · obtain rfl := List.mem_singleton.mp hd
      exact .received (Broker.mem_of_take? h).1
  | consume hget h =>
    rcases List.mem_or_eq_of_mem_set hd with hd | rfl
    · exact .kept hd
    · exact .next rfl hget h
  | finish _ _ => exact .kept (List.mem_of_mem_eraseIdx hd)
  | redeliver hget _ =>
    rcases List.mem_or_eq_of_mem_set hd with hd | rfl
    · exact .kept hd
    · exact .lost (List.mem_of_getElem? hget)
  | crash => exact .kept (List.mem_of_mem_filter hd)
  | _ => exact .kept hd

lemma enqueued (h : Steps cfg w e w') {c : Consumer} {m : Message}
    (hm : m ∈ w'.broker.queues c) : Enqueued w e c m := by
  cases h with
  | relay hp h =>
    rcases h.queues hm with hm | ⟨t, ht, r, hr, hcontent⟩
    · exact .kept hm
    · exact .published rfl (List.mem_of_getElem? hp) ht hr hcontent
  | deliver h => exact .kept ((Broker.mem_of_take? h).2 c m hm)
  | consume hd h | finish hd h =>
    rcases h.queues hm with hm | hevent
    · exact .kept hm
    · exact .returned (List.mem_of_getElem? hd) hevent
  | redeliver hd _ =>
    rcases Broker.mem_requeue.mp hm with hm | ⟨-, rfl⟩
    · exact .kept hm
    · exact .returned (List.mem_of_getElem? hd) rfl
  | crash =>
    rcases mem_giveBack hm with hm | ⟨d, hd, rfl⟩
    · exact .kept hm
    · exact .returned hd rfl
  | _ => exact .kept hm

/-- The rows a relay holds are rows one has held, or that it has polled. -/
lemma held (h : Steps cfg w e w') {p : RelayProcess} (hp : p ∈ w'.relays) {t : Tick}
    (ht : t ∈ p.ticks) {r : EventOutbox} (hr : r ∈ t.rows) :
    (∃ q ∈ w.relays, ∃ u ∈ q.ticks, r ∈ u.rows) ∨ r ∈ w.db.outbox.rows := by
  cases h with
  | relay hget h =>
    rcases List.mem_or_eq_of_mem_set hp with hp | rfl
    · exact .inl ⟨p, hp, t, ht, hr⟩
    · exact (h.rows ht hr).imp_left fun hu => ⟨_, List.mem_of_getElem? hget, hu⟩
  | _ => exact .inl ⟨p, hp, t, ht, hr⟩

end Steps

/-- No organization is being removed. -/
def NoRemoval (w : World) : Prop := ∀ c ∈ w.calls, c.call.isRemoval = false

lemma noRemoval_initial (organizations : Table Organization) (users : Table User) (n : Nat) :
    (initial organizations users n).NoRemoval := fun _ hc => by cases hc

lemma Steps.noRemoval {cfg : Config} {w w' : World} {e : Event} (h : Steps cfg w e w')
    (he : e.isRemoval = false) (hw : w.NoRemoval) : w'.NoRemoval := by
  cases h with
  | arrive =>
    intro c hc
    rcases List.mem_append.mp hc with hc | hc
    · exact hw c hc
    · obtain rfl := List.mem_singleton.mp hc
      exact Call.receive_isRemoval he
  | proceed hc h =>
    intro c' hc'
    rcases List.mem_or_eq_of_mem_set hc' with hc' | rfl
    · exact hw c' hc'
    · exact h.isRemoval (hw _ (List.mem_of_getElem? hc))
  | _ => exact hw

/-- The life of a ticket: a customer creates it, an agent takes it, the customer comments, the agent
closes it, and the worker notifies the customer of the first event. -/
def lifecycleRun : List Event :=
  [.arrive (some 13) none (.createTicket Seed.ticketDto), .proceed 0 (Seed.env 1),
    .arrive (some 12) none (.assignTicket 140 ⟨12⟩), .proceed 1 (Seed.env 2),
    .proceed 1 (Seed.env 3), .proceed 1 (Seed.env 4),
    .arrive (some 13) none (.createComment 140 ⟨"It is back.", .undefined⟩),
    .proceed 2 (Seed.env 5), .proceed 2 (Seed.env 6),
    .arrive (some 12) none (.updateTicket 140 Seed.closeDto), .proceed 3 (Seed.env 7),
    .proceed 3 (Seed.env 8), .connect, .relay 0 .tick,
    .relay 0 (.proceed 0 (Seed.env 9) .accepted), .relay 0 (.proceed 0 (Seed.env 10) .accepted),
    .deliver 0 .notification 0, .consume 0 (.insert (Seed.env 11)),
    .consume 0 (.project (Seed.env 12)), .consume 0 (.commit (Seed.env 13))]

end World

end SupportPlatform
