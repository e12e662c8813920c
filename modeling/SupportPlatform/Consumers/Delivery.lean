import SupportPlatform.Consumers.ConsumerRunner

/-!
# Deliveries in progress

`ConsumerRunner.handle` on one delivery, step by step: the insertion into `processed_events`, which
the transaction holds until it ends, the reads of the projector, its write with the commit, the
republish after a failure, and the acknowledgement.
-/

namespace SupportPlatform

/-- Where the handling of a delivery stands. -/
inductive Phase where
  | received
  | claimed
  | planned (p : Projection)
  | failed (e : PrismaError)
  | settled
deriving DecidableEq, Repr

/-- A message a worker is handling; `unacked` as long as the broker counts on it. -/
structure Delivery where
  worker : Nat
  consumer : Consumer
  message : Message
  unacked : Bool
  phase : Phase
deriving DecidableEq, Repr

/-- The steps of `handle`, and the acknowledgement. -/
inductive DeliveryAction where
  | insert (env : Env)
  | project (env : Env)
  | commit (env : Env)
  | republish (now : Time) (publish : PublishOutcome)
  | ack

namespace Delivery

/-- The key of the row in `processed_events`. -/
def key (d : Delivery) : Uuid × Consumer := (d.message.event.eventId, d.consumer)

/-- The transaction of the delivery is open and holds its key. -/
def holds (d : Delivery) : Bool :=
  match d.phase with
  | .claimed | .planned _ => true
  | _ => false

/-- The transaction threw: a duplicate, or a failure to retry. -/
def thrown (e : PrismaError) : Phase :=
  match IdempotencyService.caught e with
  | .ok _ => .settled
  | .error e => .failed e

/-- The next step of a delivery; the result has no delivery when its handling is over. `locked`
says that another open transaction has inserted the same key, which makes the insertion wait. -/
def exec (cfg : Config) (db : Db) (broker : Broker) (locked : Bool) (d : Delivery) :
    DeliveryAction → Option (Db × Broker × Option Delivery)
  | .insert env =>
    if d.phase = .received then
      match env.fault .processed with
      | some e => some (db, broker, some { d with phase := thrown e })
      | none =>
        if d.key ∈ db.processedEvents.keys then
          some (db, broker, some { d with phase := thrown .uniqueViolation })
        else if locked then none
        else some (db, broker, some { d with phase := .claimed })
    else none
  | .project env =>
    if d.phase = .claimed then
      match env.fault .query with
      | some e => some (db, broker, some { d with phase := thrown e })
      | none =>
        some (db, broker,
          some { d with phase := .planned (d.consumer.plan env db d.message.event) })
    else none
  | .commit env =>
    match d.phase with
    | .planned p =>
      match (IdempotencyService.transaction d.consumer d.message.event.eventId p.exec).commit
        env db with
      | (.ok _, db') => some (db', broker, some { d with phase := .settled })
      | (.error e, db') => some (db', broker, some { d with phase := thrown e })
    | _ => none
  | .republish now publish =>
    match d.phase with
    | .failed e =>
      match ConsumerRunner.retryOrDeadLetter cfg d.consumer d.message e.message now publish
        broker with
      | (.ok _, broker') => some (db, broker', some { d with phase := .settled })
      -- the handler rejects: the delivery goes back to its queue
      | (.error _, broker') =>
        some (db, if d.unacked then broker'.requeue d.consumer d.message else broker', none)
    | _ => none
  | .ack => if d.phase = .settled then some (db, broker, none) else none

/-! ### What a step can do -/

/-- A projection that has committed. -/
structure Commit where
  event : DomainEvent
  consumer : Consumer
deriving DecidableEq, Repr

/-- The key of the row in `processed_events`. -/
def Commit.key (c : Commit) : Uuid × Consumer := (c.event.eventId, c.consumer)

/-- The projection a step commits, if it commits one. -/
def commits (db : Db) (d : Delivery) : DeliveryAction → List Commit
  | .commit env =>
    match d.phase with
    | .planned p =>
      match IdempotencyService.transaction d.consumer d.message.event.eventId p.exec env db with
      | .ok _ => [⟨d.message.event, d.consumer⟩]
      | .error _ => []
    | _ => []
  | _ => []

/-- What a step does. The broker is only ever given messages with the event of the delivery. -/
inductive Executes (db : Db) (broker : Broker) (locked : Bool) (d : Delivery) :
    DeliveryAction → Db → Broker → Option Delivery → Prop
  | threw {a e} (hc : d.commits db a = []) :
    Executes db broker locked d a db broker (some { d with phase := thrown e })
  | inserted {env} (hkey : d.key ∉ db.processedEvents.keys) (hlocked : locked = false) :
    Executes db broker locked d (.insert env) db broker (some { d with phase := .claimed })
  | projected {env} (hphase : d.phase = .claimed) :
    Executes db broker locked d (.project env) db broker
      (some { d with phase := .planned (d.consumer.plan env db d.message.event) })
  | committed {env p processedEvents db'} (hphase : d.phase = .planned p)
    (hc : d.commits db (.commit env) = [⟨d.message.event, d.consumer⟩])
    (hrow : db.processedEvents.insert? ⟨d.message.event.eventId, d.consumer, env.now⟩ =
      some processedEvents)
    (hwrite : p.Writes env { db with processedEvents } db') :
    Executes db broker locked d (.commit env) db' broker (some { d with phase := .settled })
  | published {now publish broker'}
    (hb : ∀ c m, m ∈ broker'.queues c → m ∈ broker.queues c ∨ m.event = d.message.event) :
    Executes db broker locked d (.republish now publish) db broker'
      (some { d with phase := .settled })
  | rejected {now publish broker'}
    (hb : ∀ c m, m ∈ broker'.queues c → m ∈ broker.queues c ∨ m.event = d.message.event) :
    Executes db broker locked d (.republish now publish) db broker' none
  | acked : Executes db broker locked d .ack db broker none

/-- What a republish adds to the queues has the event of the message. -/
lemma mem_queues_retryOrDeadLetter {cfg : Config} {queue : Consumer} {m : Message} {error : String}
    {now : Time} {publish : PublishOutcome} {broker : Broker} {c : Consumer} {m' : Message}
    (h : m' ∈ (ConsumerRunner.retryOrDeadLetter cfg queue m error now publish
      broker).2.queues c) : m' ∈ broker.queues c ∨ m'.event = m.event := by
  simp only [ConsumerRunner.retryOrDeadLetter, ConsumerRunner.republish] at h
  split_ifs at h
  · rcases Broker.mem_push.mp h with h | ⟨-, rfl⟩
    · exact .inl h
    · exact .inr rfl
  · exact .inl h
  · exact .inl h

lemma transaction_ok {consumer : Consumer} {eventId : Uuid} {work : DbTx Unit} {env : Env}
    {db db' : Db} {u : Unit}
    (h : IdempotencyService.transaction consumer eventId work env db = .ok (u, db')) :
    ∃ processedEvents, db.processedEvents.insert? ⟨eventId, consumer, env.now⟩ =
      some processedEvents ∧ work env { db with processedEvents } = .ok (u, db') := by
  obtain ⟨hbody, -⟩ := interactive_eq_ok.mp h
  obtain ⟨_, db₁, hins, hwork⟩ := Transaction.bind_eq_ok.mp hbody
  rw [IdempotencyService.createProcessed,
    Transaction.bind_of_ok (Transaction.ask_apply env db)] at hins
  obtain ⟨-, hins⟩ := attempt_eq_ok.mp hins
  obtain ⟨processedEvents, hrow, heq⟩ := map_eq_ok.mp hins
  cases heq
  exact ⟨processedEvents, (insertRow_eq_ok.mp hrow).2.2, hwork⟩

/-- All that a step can do. -/
theorem exec_cases {cfg : Config} {db db' : Db} {broker broker' : Broker} {locked : Bool}
    {d : Delivery} {a : DeliveryAction} {d' : Option Delivery}
    (h : d.exec cfg db broker locked a = some (db', broker', d')) :
    Executes db broker locked d a db' broker' d' := by
  cases a with
  | insert env =>
    rw [exec] at h
    split at h
    · split at h
      · cases h
        exact .threw rfl
      · split_ifs at h with hkey hlocked
        · cases h
          exact .threw rfl
        · cases h
          exact .inserted hkey (by simpa using hlocked)
    · cases h
  | project env =>
    rw [exec] at h
    split at h
    · next hphase =>
      split at h
      · cases h
        exact .threw rfl
      · cases h
        exact .projected hphase
    · cases h
  | commit env =>
    rw [exec] at h
    split at h
    · next p hphase =>
      split at h
      · next hok =>
        cases h
        have hok := Transaction.commit_eq_ok.mp hok
        obtain ⟨processedEvents, hrow, hwork⟩ := transaction_ok hok
        exact .committed hphase (by simp [commits, hphase, hok]) hrow
          (Projection.exec_cases hwork)
      · next e _ herror =>
        cases h
        rw [Transaction.commit_error herror]
        refine .threw ?_
        rw [commits, hphase]
        unfold Transaction.commit at herror
        split at herror
        · next he => simp [he]
        · cases herror
    · cases h
  | republish now publish =>
    rw [exec] at h
    split at h
    · next e hphase =>
      have hb := @mem_queues_retryOrDeadLetter cfg d.consumer d.message e.message now publish
        broker
      split at h
      · next heq =>
        cases h
        rw [heq] at hb
        exact .published fun c m hm => hb hm
      · next heq =>
        cases h
        rw [heq] at hb
        refine .rejected fun c m hm => ?_
        split at hm
        · rcases Broker.mem_requeue.mp hm with hm | ⟨-, rfl⟩
          · exact hb hm
          · exact .inr rfl
        · exact hb hm
    · cases h
  | ack =>
    rw [exec] at h
    split_ifs at h
    cases h
    exact .acked

/-! ### What no step touches -/

namespace Executes

variable {db db' : Db} {broker broker' : Broker} {locked : Bool} {d : Delivery}
  {a : DeliveryAction} {d' : Option Delivery}

/-- A delivery writes to the tables of the projections and to `processed_events` only. -/
lemma frame (h : d.Executes db broker locked a db' broker' d') :
    db' = { db with
      notifications := db'.notifications
      auditLogs := db'.auditLogs
      ticketMetrics := db'.ticketMetrics
      processedEvents := db'.processedEvents } := by
  cases h with
  | committed _ _ _ hwrite => cases hwrite <;> rfl
  | _ => rfl

lemma tickets (h : d.Executes db broker locked a db' broker' d') : db'.tickets = db.tickets := by
  rw [h.frame]

lemma comments (h : d.Executes db broker locked a db' broker' d') : db'.comments = db.comments := by
  rw [h.frame]

lemma outbox (h : d.Executes db broker locked a db' broker' d') : db'.outbox = db.outbox := by
  rw [h.frame]

/-- The queues are only ever given messages with the event of the delivery. -/
lemma queues (h : d.Executes db broker locked a db' broker' d') {c : Consumer} {m : Message}
    (hm : m ∈ broker'.queues c) : m ∈ broker.queues c ∨ m.event = d.message.event := by
  cases h with
  | published hb => exact hb c m hm
  | rejected hb => exact hb c m hm
  | _ => exact .inl hm

variable {next : Delivery}

lemma message (h : d.Executes db broker locked a db' broker' (some next)) :
    next.message = d.message := by
  cases h <;> rfl

lemma consumer (h : d.Executes db broker locked a db' broker' (some next)) :
    next.consumer = d.consumer := by
  cases h <;> rfl

/-- What is planned now has been planned in this step. -/
lemma planned (h : d.Executes db broker locked a db' broker' (some next)) {p : Projection}
    (hp : next.phase = .planned p) :
    ∃ env, a = .project env ∧ p = d.consumer.plan env db d.message.event := by
  cases h with
  | projected _ =>
    cases hp
    exact ⟨_, rfl, rfl⟩
  | threw _ =>
    simp only [thrown] at hp
    split at hp <;> cases hp
  | _ => cases hp

end Executes

end Delivery

end SupportPlatform
