import Mathlib.Data.List.Sort
import SupportPlatform.Messaging.Broker
import SupportPlatform.Schema.Statements

/-!
# OutboxRelayService

One process running the relay: its `running` and `stopped` flags and the calls of
`dispatchPending` in progress. A call holds the rows `findMany` returned and works through them
with two awaited steps a row, the publish and the status update.
-/

namespace SupportPlatform

/-- Where a call of `dispatchPending` stands. -/
inductive Tick where
  | polling
  | publishing (row : EventOutbox) (rest : List EventOutbox)
  | marking (row : EventOutbox) (rest : List EventOutbox)
  | recording (row : EventOutbox) (rest : List EventOutbox) (error : String)
deriving DecidableEq, Repr

namespace Tick

/-- The rows a call still holds. -/
def rows : Tick → List EventOutbox
  | .polling => []
  | .publishing row rest | .marking row rest | .recording row rest _ => row :: rest

/-- The loop over the rows: the next one, or the end of the call. -/
def next : List EventOutbox → Option Tick
  | [] => none
  | row :: rest => some (.publishing row rest)

end Tick

/-- A process running the relay. -/
structure RelayProcess where
  running : Bool
  stopped : Bool
  ticks : List Tick
deriving DecidableEq, Repr

/-- What can happen in a relay process: the interval fires, a call in progress takes its next
step, the module is destroyed, or the process crashes and is started again. -/
inductive RelayAction where
  | tick
  | proceed (i : Nat) (env : Env) (publish : PublishOutcome)
  | destroy
  | crash

namespace OutboxRelayService

/-- A process just started. -/
def started : RelayProcess := ⟨false, false, []⟩

/-- The order of `orderBy: { createdAt: 'asc' }`. -/
def Earlier (env : Env) (a b : EventOutbox) : Prop :=
  a.createdAt < b.createdAt ∨ a.createdAt = b.createdAt ∧ env.rank a.id ≤ env.rank b.id

instance (env : Env) : DecidableRel (Earlier env) :=
  fun a b => inferInstanceAs (Decidable (a.createdAt < b.createdAt ∨
    a.createdAt = b.createdAt ∧ env.rank a.id ≤ env.rank b.id))

/-- `findMany` of the pending rows. -/
def findPending (cfg : Config) (env : Env) (db : Db) : List EventOutbox :=
  ((db.outbox.rows.filter (·.status = .pending)).insertionSort (Earlier env)).take cfg.batchSize

lemma mem_of_mem_findPending {cfg : Config} {env : Env} {db : Db} {r : EventOutbox}
    (h : r ∈ findPending cfg env db) : r ∈ db.outbox.rows := by
  have := List.mem_of_mem_take h
  rw [List.mem_insertionSort] at this
  exact List.mem_of_mem_filter this

/-- The event published for a row. -/
def eventOf (env : Env) (row : EventOutbox) : DomainEvent where
  eventId := row.id
  routingKey := row.routingKey
  occurredAt := env.now
  correlationId := row.correlationId
  payload := row.payload
  key_eq := row.key_eq

/-- The message published for a row. -/
def messageOf (env : Env) (row : EventOutbox) : Message where
  event := eventOf env row
  raw :=
    { headers := none
      messageId := some row.id
      correlationId := row.correlationId }

/-- The columns written after an accepted publish. -/
def dispatched (now : Time) (r : EventOutbox) : EventOutbox :=
  { r with status := .dispatched, dispatchedAt := some now }

/-- The columns written after a failure, with the attempts the call has read. -/
def failed (cfg : Config) (attempts : Nat) (error : String) (r : EventOutbox) : EventOutbox :=
  { r with
    attempts := attempts + 1
    status := if attempts + 1 ≥ cfg.maxAttempts then .failed else .pending
    lastError := some error }

/-- The update after an accepted publish. -/
def markDispatched (row : EventOutbox) : DbTx EventOutbox := do
  let env ← Transaction.ask
  attempt .query fun db =>
    (updateRow db.outbox row.id (dispatched env.now) (fun _ => rfl) false true).map
      fun p => (p.1, { db with outbox := p.2 })

/-- The update after a failure. -/
def recordFailure (cfg : Config) (row : EventOutbox) (error : String) : DbTx EventOutbox :=
  attempt .query fun db =>
    (updateRow db.outbox row.id (failed cfg row.attempts error) (fun _ => rfl) false true).map
      fun p => (p.1, { db with outbox := p.2 })

/-- The next step of a call of `dispatchPending`; it is over when no tick is left. -/
def advance (cfg : Config) (env : Env) (publish : PublishOutcome) (db : Db) (broker : Broker) :
    Tick → Db × Broker × Option Tick
  | .polling =>
    match env.fault .query with
    | some _ => (db, broker, none)
    | none => (db, broker, Tick.next (findPending cfg env db))
  | .publishing row rest =>
    (db, if publish.taken then broker.route cfg.exchange (messageOf env row) else broker,
      match publish.error? with
      | none => some (.marking row rest)
      | some error => some (.recording row rest error))
  | .marking row rest =>
    match (markDispatched row).commit env db with
    | (.error e, db') => (db', broker, some (.recording row rest e.message))
    | (.ok _, db') => (db', broker, Tick.next rest)
  | .recording row rest error =>
    -- an error here leaves the loop and ends the call
    match (recordFailure cfg row error).commit env db with
    | (.error _, db') => (db', broker, none)
    | (.ok _, db') => (db', broker, Tick.next rest)

/-- A step of a relay process. -/
def step (cfg : Config) (db : Db) (broker : Broker) (p : RelayProcess) :
    RelayAction → Option (Db × Broker × RelayProcess)
  | .tick =>
    if p.running || p.stopped then some (db, broker, p)
    else some (db, broker, { p with running := true, ticks := p.ticks ++ [.polling] })
  | .proceed i env publish =>
    p.ticks[i]?.map fun tick =>
      match advance cfg env publish db broker tick with
      | (db', broker', some tick') => (db', broker', { p with ticks := p.ticks.set i tick' })
      | (db', broker', none) =>
        (db', broker', { p with running := false, ticks := p.ticks.eraseIdx i })
  | .destroy => some (db, broker, { p with stopped := true })
  | .crash => some (db, broker, started)

/-! ### What a step can do -/

lemma markDispatched_ok {row a : EventOutbox} {env : Env} {db db' : Db}
    (h : markDispatched row env db = .ok (a, db')) :
    ∃ f : EventOutbox → EventOutbox, ∃ hf, (∀ r, (f r).content = r.content) ∧
      db' = { db with outbox := db.outbox.modify row.id f hf } := by
  rw [markDispatched, Transaction.bind_of_ok (Transaction.ask_apply env db)] at h
  obtain ⟨-, -, -, r, -, -, hdb⟩ :=
    (attempt_updateRow_eq_ok Db.outbox fun db outbox => { db with outbox }).mp h
  exact ⟨dispatched env.now, fun _ => rfl, fun _ => rfl, hdb⟩

lemma recordFailure_ok {cfg : Config} {row a : EventOutbox} {error : String} {env : Env}
    {db db' : Db} (h : recordFailure cfg row error env db = .ok (a, db')) :
    ∃ f : EventOutbox → EventOutbox, ∃ hf, (∀ r, (f r).content = r.content) ∧
      db' = { db with outbox := db.outbox.modify row.id f hf } := by
  obtain ⟨-, -, -, r, -, -, hdb⟩ :=
    (attempt_updateRow_eq_ok Db.outbox fun db outbox => { db with outbox }).mp h
  exact ⟨failed cfg row.attempts error, fun _ => rfl, fun _ => rfl, hdb⟩

/-- What a step of a call of `dispatchPending` does: it looks, or publishes its row, or updates
columns of its row that are no part of the event. -/
inductive Advances (cfg : Config) (env : Env) (db : Db) (broker : Broker) :
    Tick → Db → Broker → Option Tick → Prop
  | polled {tick' : Option Tick} (h : ∀ t ∈ tick', ∀ r ∈ t.rows, r ∈ db.outbox.rows) :
    Advances cfg env db broker .polling db broker tick'
  | published {row rest tick'} (h : ∀ t ∈ tick', Tick.rows t = row :: rest) :
    Advances cfg env db broker (.publishing row rest) db
      (broker.route cfg.exchange (messageOf env row)) tick'
  | unchanged {tick tick'} (h : ∀ t ∈ tick', ∀ r ∈ Tick.rows t, r ∈ tick.rows) :
    Advances cfg env db broker tick db broker tick'
  | updated {tick tick' k f hf} (hcontent : ∀ r, EventOutbox.content (f r) = r.content)
    (h : ∀ t ∈ tick', ∀ r ∈ Tick.rows t, r ∈ tick.rows) :
    Advances cfg env db broker tick { db with outbox := db.outbox.modify k f hf } broker tick'

lemma rows_next {rest : List EventOutbox} {t : Tick} (h : t ∈ Tick.next rest) :
    t.rows = rest := by
  cases rest with
  | nil => simp [Tick.next] at h
  | cons row rest =>
    obtain rfl : .publishing row rest = t := by simpa [Tick.next] using h
    rfl

lemma advance_cases {cfg : Config} {env : Env} {publish : PublishOutcome} {db db' : Db}
    {broker broker' : Broker} {tick : Tick} {tick' : Option Tick}
    (h : advance cfg env publish db broker tick = (db', broker', tick')) :
    Advances cfg env db broker tick db' broker' tick' := by
  cases tick with
  | polling =>
    rw [advance] at h
    split at h
    · cases h
      exact .polled (by simp)
    · cases h
      refine .polled fun t ht r hr => ?_
      rw [rows_next ht] at hr
      exact mem_of_mem_findPending hr
  | publishing row rest =>
    have hrows : ∀ t ∈ tick', Tick.rows t = row :: rest := by
      intro t ht
      rw [advance] at h
      obtain ⟨-, -, rfl⟩ := by simpa using h
      split at ht <;> cases ht <;> rfl
    rw [advance] at h
    obtain ⟨rfl, rfl, -⟩ := by simpa using h
    split
    · exact .published hrows
    · refine .unchanged fun t ht r hr => ?_
      rwa [hrows t ht] at hr
  | marking row rest =>
    rw [advance] at h
    split at h
    · next e _ he =>
      cases h
      rw [Transaction.commit_error he]
      exact .unchanged fun t ht r hr => by cases ht; exact hr
    · next hok =>
      cases h
      obtain ⟨f, hf, hcontent, rfl⟩ := markDispatched_ok (Transaction.commit_eq_ok.mp hok)
      refine .updated hcontent fun t ht r hr => ?_
      rw [rows_next ht] at hr
      exact List.mem_cons_of_mem _ hr
  | recording row rest error =>
    rw [advance] at h
    split at h
    · next e _ he =>
      cases h
      rw [Transaction.commit_error he]
      exact .unchanged (by simp)
    · next hok =>
      cases h
      obtain ⟨f, hf, hcontent, rfl⟩ := recordFailure_ok (Transaction.commit_eq_ok.mp hok)
      refine .updated hcontent fun t ht r hr => ?_
      rw [rows_next ht] at hr
      exact List.mem_cons_of_mem _ hr

/-- What a step of a relay process does. -/
inductive Steps (cfg : Config) (db : Db) (broker : Broker) (p : RelayProcess) :
    Db → Broker → RelayProcess → Prop
  | idle {p'} (h : ∀ t ∈ p'.ticks, t ∈ p.ticks ∨ t = .polling) :
    Steps cfg db broker p db broker p'
  | advanced {env tick db' broker' tick' p'} (htick : tick ∈ p.ticks)
    (h : Advances cfg env db broker tick db' broker' tick')
    (hp : ∀ t ∈ p'.ticks, t ∈ p.ticks ∨ t ∈ tick') :
    Steps cfg db broker p db' broker' p'

theorem step_cases {cfg : Config} {db db' : Db} {broker broker' : Broker} {p p' : RelayProcess}
    {a : RelayAction} (h : step cfg db broker p a = some (db', broker', p')) :
    Steps cfg db broker p db' broker' p' := by
  cases a with
  | tick =>
    rw [step] at h
    split_ifs at h
    · cases h
      exact .idle fun t ht => .inl ht
    · cases h
      exact .idle fun t ht => by simpa using ht
  | proceed i env publish =>
    obtain ⟨tick, htick, h⟩ := Option.map_eq_some_iff.mp h
    have hmem := List.mem_of_getElem? htick
    split at h
    · next tick' heq =>
      cases h
      refine .advanced hmem (advance_cases heq) fun t ht => ?_
      rcases List.mem_or_eq_of_mem_set ht with ht | rfl
      · exact .inl ht
      · exact .inr rfl
    · next heq =>
      cases h
      exact .advanced hmem (advance_cases heq) fun t ht => .inl (List.mem_of_mem_eraseIdx ht)
  | destroy =>
    cases h
    exact .idle fun t ht => .inl ht
  | crash =>
    cases h
    exact .idle (by simp [started])

/-- The relay writes to the outbox only. -/
lemma Steps.frame {cfg : Config} {db db' : Db} {broker broker' : Broker} {p p' : RelayProcess}
    (h : Steps cfg db broker p db' broker' p') : db' = { db with outbox := db'.outbox } := by
  cases h with
  | idle _ => rfl
  | advanced _ h _ => cases h <;> rfl

/-- The rows in progress are rows that were in progress, or that have been polled. -/
lemma Steps.rows {cfg : Config} {db db' : Db} {broker broker' : Broker} {p p' : RelayProcess}
    (h : Steps cfg db broker p db' broker' p') {t : Tick} (ht : t ∈ p'.ticks) {r : EventOutbox}
    (hr : r ∈ t.rows) : (∃ u ∈ p.ticks, r ∈ u.rows) ∨ r ∈ db.outbox.rows := by
  cases h with
  | idle hticks =>
    rcases hticks t ht with ht | rfl
    · exact .inl ⟨t, ht, hr⟩
    · cases hr
  | advanced htick hadvances hticks =>
    rcases hticks t ht with ht | ht
    · exact .inl ⟨t, ht, hr⟩
    · cases hadvances with
      | polled h => exact .inr (h t ht r hr)
      | published h =>
        rw [h t ht] at hr
        exact .inl ⟨_, htick, hr⟩
      | unchanged h => exact .inl ⟨_, htick, h t ht r hr⟩
      | updated _ h => exact .inl ⟨_, htick, h t ht r hr⟩

/-- The queues are only ever given messages made of rows in progress. -/
lemma Steps.queues {cfg : Config} {db db' : Db} {broker broker' : Broker} {p p' : RelayProcess}
    (h : Steps cfg db broker p db' broker' p') {c : Consumer} {m : Message}
    (hm : m ∈ broker'.queues c) :
    m ∈ broker.queues c ∨ ∃ t ∈ p.ticks, ∃ r ∈ t.rows, m.event.content = r.content := by
  cases h with
  | idle _ => exact .inl hm
  | advanced htick hadvances _ =>
    cases hadvances with
    | published _ =>
      rcases Broker.mem_route hm with hm | rfl
      · exact .inl hm
      · exact .inr ⟨_, htick, _, List.mem_cons_self, rfl⟩
    | _ => exact .inl hm

end OutboxRelayService

end SupportPlatform
