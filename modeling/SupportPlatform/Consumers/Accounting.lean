import SupportPlatform.Consumers.Delivery

/-!
# What becomes of a handled delivery

`ConsumerRunner.handle` resolves when the delivery may be acknowledged. By then its projection is
committed, or its event is back in the queue, or it is with the dead letters, unless the
transaction threw a `P2002` that is not the conflict of its own row in `processed_events`.
-/

namespace SupportPlatform

namespace IdempotencyService

/-- The row of the event and the consumer has been committed. -/
def Processed (db : Db) (consumer : Consumer) (eventId : Uuid) : Prop :=
  (eventId, consumer) ∈ db.processedEvents.keys

/-- The row has been inserted and the work done on top of it, in one committed transaction. -/
def Applied (consumer : Consumer) (eventId : Uuid) (work : DbTx Unit) (env : Env) (db db' : Db) :
    Prop :=
  transaction consumer eventId work env db = .ok ((), db') ∧
    ∃ processedEvents, db.processedEvents.insert? ⟨eventId, consumer, env.now⟩ =
      some processedEvents ∧ work env { db with processedEvents } = .ok ((), db')

/-- The errors the transaction throws where its own row does not conflict: one of the insertion,
one of the work, one of the commit. -/
inductive Raises (consumer : Consumer) (eventId : Uuid) (work : DbTx Unit) (env : Env) (db : Db) :
    PrismaError → Prop
  | insert {e} (h : env.fault .processed = some e) : Raises consumer eventId work env db e
  | work {processedEvents e} (hinsert : env.fault .processed = none)
    (hrow : db.processedEvents.insert? ⟨eventId, consumer, env.now⟩ = some processedEvents)
    (h : work env { db with processedEvents } = .error e) : Raises consumer eventId work env db e
  | commit {processedEvents e db'} (hinsert : env.fault .processed = none)
    (hrow : db.processedEvents.insert? ⟨eventId, consumer, env.now⟩ = some processedEvents)
    (hwork : work env { db with processedEvents } = .ok ((), db'))
    (h : env.fault .commit = some e) : Raises consumer eventId work env db e

variable {consumer : Consumer} {eventId : Uuid} {work : DbTx Unit} {env : Env} {db : Db}

lemma createProcessed_of_fault {e : PrismaError} (h : env.fault .processed = some e) :
    createProcessed consumer eventId env db = .error e := by
  rw [createProcessed, Transaction.bind_of_ok (Transaction.ask_apply env db), attempt, h]

lemma createProcessed_of_processed (h : env.fault .processed = none)
    (hp : Processed db consumer eventId) :
    createProcessed consumer eventId env db = .error .uniqueViolation := by
  rw [createProcessed, Transaction.bind_of_ok (Transaction.ask_apply env db), attempt, h]
  simp [insertRow, Table.insert?, ProcessedEvent.key_eq, show (eventId, consumer) ∈ _ from hp,
    Except.map]

lemma createProcessed_of_insert {processedEvents : Table ProcessedEvent}
    (h : env.fault .processed = none)
    (hrow : db.processedEvents.insert? ⟨eventId, consumer, env.now⟩ = some processedEvents) :
    createProcessed consumer eventId env db = .ok ((), { db with processedEvents }) := by
  rw [createProcessed, Transaction.bind_of_ok (Transaction.ask_apply env db), attempt, h]
  simp [insertRow, hrow, Except.map]

/-- The transaction from the result of its insertion on. -/
lemma transaction_of_createProcessed {x : Except PrismaError (Unit × Db)} :
    createProcessed consumer eventId env db = x →
      transaction consumer eventId work env db = match x with
        | .error e => .error e
        | .ok (_, db₁) => match work env db₁ with
          | .error e => .error e
          | .ok (_, db₂) => match env.fault .commit with
            | some e => .error e
            | none => .ok ((), db₂) := by
  rintro rfl
  simp only [transaction, interactive, Transaction.bind_apply]
  cases createProcessed consumer eventId env db with
  | error e => rfl
  | ok p =>
    cases hw : work env p.2 with
    | error e => simp [hw]
    | ok q => cases hc : env.fault .commit <;> simp [hw, attempt, hc]

lemma transaction_of_raises {e : PrismaError} (h : Raises consumer eventId work env db e) :
    transaction consumer eventId work env db = .error e := by
  cases h with
  | insert h => exact transaction_of_createProcessed (createProcessed_of_fault h)
  | work hinsert hrow h =>
    rw [transaction_of_createProcessed (createProcessed_of_insert hinsert hrow)]
    simp [h]
  | commit hinsert hrow hwork h =>
    rw [transaction_of_createProcessed (createProcessed_of_insert hinsert hrow)]
    simp [hwork, h]

/-- The three ways a transaction of `runOnce` can go. -/
lemma transaction_cases (consumer : Consumer) (eventId : Uuid) (work : DbTx Unit) (env : Env)
    (db : Db) :
    (∃ db', Applied consumer eventId work env db db') ∨
      (Processed db consumer eventId ∧
        transaction consumer eventId work env db = .error .uniqueViolation) ∨
      ∃ e, Raises consumer eventId work env db e ∧
        transaction consumer eventId work env db = .error e := by
  have raised : ∀ {e}, Raises consumer eventId work env db e → ∃ e,
      Raises consumer eventId work env db e ∧ transaction consumer eventId work env db = .error e :=
    fun h => ⟨_, h, transaction_of_raises h⟩
  cases hinsert : env.fault .processed with
  | some e => exact .inr (.inr (raised (.insert hinsert)))
  | none =>
    by_cases hp : Processed db consumer eventId
    · exact .inr (.inl ⟨hp,
        transaction_of_createProcessed (createProcessed_of_processed hinsert hp)⟩)
    · obtain ⟨processedEvents, hrow⟩ :=
        Table.insert?_of_free (r := (⟨eventId, consumer, env.now⟩ : ProcessedEvent)) hp
      cases hwork : work env { db with processedEvents } with
      | error e => exact .inr (.inr (raised (.work hinsert hrow hwork)))
      | ok p =>
        cases hcommit : env.fault .commit with
        | some e => exact .inr (.inr (raised (.commit hinsert hrow hwork hcommit)))
        | none =>
          refine .inl ⟨p.2, ?_, processedEvents, hrow, hwork⟩
          rw [transaction_of_createProcessed (createProcessed_of_insert hinsert hrow)]
          simp [hwork, hcommit]

lemma runOnce_of_raises {e : PrismaError} (h : Raises consumer eventId work env db e) :
    runOnce consumer eventId work env db = (caught e, db) := by
  rw [runOnce, Transaction.commit, transaction_of_raises h]

lemma not_applied_of_raises {e : PrismaError} {db' : Db}
    (h : Raises consumer eventId work env db e) : ¬ Applied consumer eventId work env db db' := by
  rintro ⟨htx, -⟩
  simp [transaction_of_raises h] at htx

/-- `runOnce` reports a duplicate although no row is committed exactly when the transaction throws
a `P2002` of another origin. -/
lemma runOnce_cases (consumer : Consumer) (eventId : Uuid) (work : DbTx Unit) (env : Env)
    (db : Db) :
    (∃ db', runOnce consumer eventId work env db = (.ok true, db') ∧
        Applied consumer eventId work env db db') ∨
      (runOnce consumer eventId work env db = (.ok false, db) ∧ Processed db consumer eventId) ∨
      ∃ e, runOnce consumer eventId work env db = (caught e, db) ∧
        Raises consumer eventId work env db e := by
  rcases transaction_cases consumer eventId work env db with ⟨db', h⟩ | ⟨hp, h⟩ | ⟨e, he, -⟩
  · exact .inl ⟨db', by rw [runOnce, Transaction.commit, h.1], h⟩
  · exact .inr (.inl ⟨by rw [runOnce, Transaction.commit, h]; rfl, hp⟩)
  · exact .inr (.inr ⟨e, runOnce_of_raises he, he⟩)

end IdempotencyService

namespace ConsumerRunner

open IdempotencyService

/-- The delivery of `m` is accounted for: its projection is committed, now or before, or its event
is back in the queue with the retry count increased by one, or it is with the dead letters. -/
def Accounted (consumer : Consumer) (m : Message) (work : DbTx Unit) (env : Env) (db db' : Db)
    (broker broker' : Broker) : Prop :=
  (Processed db consumer m.event.eventId ∨ Applied consumer m.event.eventId work env db db') ∨
    (∃ m', m'.event = m.event ∧ attempt m'.raw = (attempt m.raw).succ ∧
      broker' = broker.push consumer m') ∨
    ∃ d, d.originQueue = consumer ∧ d.event = m.event ∧ broker' = broker.deadLetter d

/-- `runOnce` reports only true duplicates. -/
def DuplicatesAreProcessed (consumer : Consumer) (m : Message) (work : DbTx Unit) (env : Env)
    (db : Db) : Prop :=
  (runOnce consumer m.event.eventId work env db).1 = .ok false →
    Processed db consumer m.event.eventId

/-- When `handle` resolves, the delivery is accounted for. -/
def ResolvedIsAccounted (cfg : Config) (consumer : Consumer) (m : Message)
    (project : DomainEvent → DbTx Unit) (env : Env) (publish : PublishOutcome) (db : Db)
    (broker : Broker) : Prop :=
  ∀ db' broker', handle cfg consumer m project env publish db broker = (.ok (), db', broker') →
    Accounted consumer m (project m.event) env db db' broker broker'

lemma lookup_setHeader_self (headers : List (String × JsValue)) (name : String) (v : JsValue) :
    (setHeader headers name v).lookup name = some v := by
  unfold setHeader
  split_ifs with h
  · induction headers with
    | nil => simp at h
    | cons p ps ih =>
      obtain ⟨k, a⟩ := p
      by_cases hk : k = name
      · simp [hk]
      · have hps : ps.any (·.1 = name) := by simpa [hk] using h
        have hne : (name == k) = false := by simpa using Ne.symm hk
        simpa [hk, List.lookup_cons, hne] using ih hps
  · have : headers.lookup name = none := by
      rw [List.lookup_eq_none_iff]
      intro p hp
      simp only [List.any_eq_true, decide_eq_true_eq, not_exists, not_and] at h
      simpa using Ne.symm (h p hp)
    simp [List.lookup_append, this]

lemma lookup_setHeader_of_ne (headers : List (String × JsValue)) {name name' : String}
    (v : JsValue) (h : name' ≠ name) :
    (setHeader headers name v).lookup name' = headers.lookup name' := by
  have hne : (name' == name) = false := by simpa using h
  unfold setHeader
  split_ifs with hany
  · clear hany
    induction headers with
    | nil => rfl
    | cons p ps ih =>
      obtain ⟨k, a⟩ := p
      by_cases hk : k = name
      · simpa [hk, List.lookup_cons, hne] using ih
      · simp only [List.map_cons, hk, if_false, List.lookup_cons, ih]
  · simp [List.lookup_append, List.lookup_cons, hne]

/-- A retried message counts one attempt more. -/
lemma attempt_retried (m : Message) (error : String) :
    attempt (retried m error).raw = (attempt m.raw).succ := by
  have hne : RETRY_HEADER ≠ LAST_ERROR_HEADER := by decide
  simp [attempt, header?, retried, lookup_setHeader_of_ne _ _ hne, lookup_setHeader_self,
    JsValue.toNumberOrZero, JsValue.toNumber]

lemma push_ne_self (broker : Broker) (c : Consumer) (m : Message) : broker.push c m ≠ broker := by
  intro h
  have := congrArg (fun b => (b.queues c).length) h
  simp [Broker.push] at this

lemma deadLetter_ne_self (broker : Broker) (d : DeadLetter) : broker.deadLetter d ≠ broker := by
  intro h
  have := congrArg (fun b => b.deadLetters.length) h
  simp [Broker.deadLetter] at this

variable {cfg : Config} {consumer : Consumer} {m : Message} {project : DomainEvent → DbTx Unit}
  {env : Env} {publish : PublishOutcome} {db : Db} {broker : Broker}

/-- What the broker has taken once `retryOrDeadLetter` returns. -/
lemma accounted_of_retryOrDeadLetter {work : DbTx Unit} {error : String} {now : Time}
    {broker' : Broker}
    (h : retryOrDeadLetter cfg consumer m error now publish broker = (.ok (), broker')) :
    Accounted consumer m work env db db broker broker' := by
  cases publish with
  | accepted =>
    simp only [retryOrDeadLetter, PublishOutcome.taken, PublishOutcome.error?, if_true,
      Prod.mk.injEq, true_and] at h
    subst h
    unfold republish
    split_ifs
    · exact .inr (.inl ⟨retried m error, rfl, attempt_retried m error, rfl⟩)
    · exact .inr (.inr ⟨_, rfl, rfl, rfl⟩)
  | refused e => simp [retryOrDeadLetter, PublishOutcome.error?] at h
  | unconfirmed e => simp [retryOrDeadLetter, PublishOutcome.error?] at h

/-- A `P2002` that is not the conflict of its own row makes `handle` resolve with nothing done. -/
lemma handle_of_raises {e : PrismaError}
    (h : Raises consumer m.event.eventId (project m.event) env db e)
    (hunique : e.isUniqueViolation) :
    handle cfg consumer m project env publish db broker = (.ok (), db, broker) := by
  simp [handle, runOnce_of_raises h, caught, hunique]

lemma not_accounted_of_raises {e : PrismaError}
    (h : Raises consumer m.event.eventId (project m.event) env db e)
    (hp : ¬ Processed db consumer m.event.eventId) :
    ¬ Accounted consumer m (project m.event) env db db broker broker := by
  rintro ((hdone | hdone) | ⟨m', -, -, hb⟩ | ⟨d, -, -, hb⟩)
  · exact hp hdone
  · exact not_applied_of_raises h hdone
  · exact push_ne_self broker consumer m' hb.symm
  · exact deadLetter_ne_self broker d hb.symm

/-- `runOnce` takes an event for a duplicate only if it is one, and no resolved delivery is lost,
exactly when the row of the event is there already or no `P2002` other than the conflict of that
row is thrown in the transaction. -/
theorem no_silent_drop_iff (cfg : Config) (consumer : Consumer) (m : Message)
    (project : DomainEvent → DbTx Unit) (env : Env) (publish : PublishOutcome) (db : Db)
    (broker : Broker) :
    (DuplicatesAreProcessed consumer m (project m.event) env db ↔
      Processed db consumer m.event.eventId ∨
        ∀ e, Raises consumer m.event.eventId (project m.event) env db e → ¬ e.isUniqueViolation) ∧
    (ResolvedIsAccounted cfg consumer m project env publish db broker ↔
      Processed db consumer m.event.eventId ∨
        ∀ e, Raises consumer m.event.eventId (project m.event) env db e →
          ¬ e.isUniqueViolation) := by
  constructor
  · constructor
    · intro hdup
      by_contra hcon
      push Not at hcon
      obtain ⟨hp, e, he, hunique⟩ := hcon
      exact hp (hdup (by rw [runOnce_of_raises he, caught, if_pos hunique]))
    · rintro (hp | hnone) hfalse
      · exact hp
      · rcases runOnce_cases consumer m.event.eventId (project m.event) env db with
          ⟨db', h, -⟩ | ⟨-, hp⟩ | ⟨e, h, he⟩
        · simp [h] at hfalse
        · exact hp
        · simp [h, caught, hnone e he] at hfalse
  · constructor
    · intro hresolved
      by_contra hcon
      push Not at hcon
      obtain ⟨hp, e, he, hunique⟩ := hcon
      exact not_accounted_of_raises he hp (hresolved db broker (handle_of_raises he hunique))
    · rintro hcond db' broker' h
      rcases runOnce_cases consumer m.event.eventId (project m.event) env db with
        ⟨db₁, hrun, happlied⟩ | ⟨-, hp⟩ | ⟨e, hrun, he⟩
      · simp only [handle, hrun, Prod.mk.injEq, true_and] at h
        obtain ⟨rfl, -⟩ := h
        exact .inl (.inr happlied)
      · exact .inl (.inl hp)
      · rcases hcond with hp | hnone
        · exact .inl (.inl hp)
        · simp only [handle, hrun, caught, hnone e he, Bool.false_eq_true, if_false,
            Prod.mk.injEq] at h
          obtain ⟨hresult, rfl, hbroker⟩ := h
          exact accounted_of_retryOrDeadLetter (Prod.ext hresult hbroker)

/-- The first delivery of a `ticket.created` event of the seeded organization. -/
def createdMessage : Message where
  event :=
    { eventId := 150
      routingKey := .ticketCreated
      occurredAt := 2
      correlationId := none
      payload := .ticketCreated ⟨140, "TKT-000001", "Cannot log in", .open, .medium, 1, 12, none⟩
      key_eq := rfl }
  raw := ⟨none, some 150, none⟩

/-- Another transaction has just inserted the metrics row of the day. -/
def racedUpsert : Env :=
  { Seed.env 3 with fault := fun st => if st = .write then some .uniqueViolation else none }

/-- A metrics upsert that loses its race makes the analytics consumer drop the event. -/
theorem raced_upsert_dropped :
    ¬ ResolvedIsAccounted .default .analytics createdMessage Consumer.analytics.project racedUpsert
      .accepted { Db.empty with organizations := Seed.organizations, users := Seed.users }
      .empty := by
  intro hresolved
  have hfree : ¬ Processed
      { Db.empty with organizations := Seed.organizations, users := Seed.users } .analytics
      createdMessage.event.eventId := by
    simp [Processed, Db.empty, Table.keys]
  obtain ⟨processedEvents, hrow⟩ :=
    Table.insert?_of_free (r := (⟨150, .analytics, racedUpsert.now⟩ : ProcessedEvent)) hfree
  have hraises : Raises .analytics 150 (Consumer.analytics.project createdMessage.event)
      racedUpsert _ .uniqueViolation := .work rfl hrow rfl
  exact not_accounted_of_raises hraises hfree (hresolved _ _ (handle_of_raises hraises rfl))

end ConsumerRunner

end SupportPlatform
