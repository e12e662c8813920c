import SupportPlatform.Messaging.Relay

/-!
# How rows become DISPATCHED

A call of `dispatchPending` step by step, with what it writes. A row is marked only from a tick that
a confirmed publish of this row has led to.
-/

namespace SupportPlatform.OutboxRelayService

variable {cfg : Config} {env : Env} {db db' : Db} {broker broker' : Broker}

/-- All that a step of a call of `dispatchPending` does, by the outcome of the publish. -/
inductive Dispatches (cfg : Config) (env : Env) (db : Db) (broker : Broker) :
    PublishOutcome → Tick → Db → Broker → Option Tick → Prop
  | polled {publish} : Dispatches cfg env db broker publish .polling db broker
      (Tick.next (findPending cfg env db))
  | unpolled {publish} : Dispatches cfg env db broker publish .polling db broker none
  | confirmed {row rest} : Dispatches cfg env db broker .accepted (.publishing row rest) db
      (broker.route cfg.exchange (messageOf env row)) (some (.marking row rest))
  | refused {error row rest} : Dispatches cfg env db broker (.refused error) (.publishing row rest)
      db broker (some (.recording row rest error))
  | unconfirmed {error row rest} : Dispatches cfg env db broker (.unconfirmed error)
      (.publishing row rest) db (broker.route cfg.exchange (messageOf env row))
      (some (.recording row rest error))
  | marked {publish row rest} : Dispatches cfg env db broker publish (.marking row rest)
      { db with outbox := db.outbox.modify row.id (dispatched env.now) fun _ => rfl } broker
      (Tick.next rest)
  | unmarked {publish row rest error} : Dispatches cfg env db broker publish (.marking row rest)
      db broker (some (.recording row rest error))
  | recorded {publish row rest error} : Dispatches cfg env db broker publish
      (.recording row rest error)
      { db with outbox := db.outbox.modify row.id (failed cfg row.attempts error) fun _ => rfl }
      broker (Tick.next rest)
  | unrecorded {publish row rest error} : Dispatches cfg env db broker publish
      (.recording row rest error) db broker none

lemma markDispatched_commit {row r : EventOutbox}
    (h : (markDispatched row).commit env db = (.ok r, db')) :
    db' = { db with outbox := db.outbox.modify row.id (dispatched env.now) fun _ => rfl } := by
  have hok := Transaction.commit_eq_ok.mp h
  rw [markDispatched, Transaction.bind_of_ok (Transaction.ask_apply env db)] at hok
  obtain ⟨-, -, -, _, -, -, hdb⟩ :=
    (attempt_updateRow_eq_ok Db.outbox fun db outbox => { db with outbox }).mp hok
  exact hdb

lemma recordFailure_commit {row r : EventOutbox} {error : String}
    (h : (recordFailure cfg row error).commit env db = (.ok r, db')) :
    db' = { db with
      outbox := db.outbox.modify row.id (failed cfg row.attempts error) fun _ => rfl } := by
  obtain ⟨-, -, -, _, -, -, hdb⟩ :=
    (attempt_updateRow_eq_ok Db.outbox fun db outbox => { db with outbox }).mp
      (Transaction.commit_eq_ok.mp h)
  exact hdb

theorem advance_dispatches {publish : PublishOutcome} {tick : Tick} {tick' : Option Tick}
    (h : advance cfg env publish db broker tick = (db', broker', tick')) :
    Dispatches cfg env db broker publish tick db' broker' tick' := by
  cases tick with
  | polling =>
    rw [advance] at h
    split at h
    · cases h
      exact .unpolled
    · cases h
      exact .polled
  | publishing row rest =>
    cases publish with
    | accepted =>
      cases h
      exact .confirmed
    | refused error =>
      cases h
      exact .refused
    | unconfirmed error =>
      cases h
      exact .unconfirmed
  | marking row rest =>
    rw [advance] at h
    split at h
    · next he =>
      cases h
      rw [Transaction.commit_error he]
      exact .unmarked
    · next hok =>
      cases h
      rw [markDispatched_commit hok]
      exact .marked
  | recording row rest error =>
    rw [advance] at h
    split at h
    · next he =>
      cases h
      rw [Transaction.commit_error he]
      exact .unrecorded
    · next hok =>
      cases h
      rw [recordFailure_commit hok]
      exact .recorded

/-- A step of a relay process moves one of its calls, or it touches neither the database nor the
broker and keeps the calls it has, but for one that starts. -/
theorem step_dispatches {p p' : RelayProcess} {a : RelayAction}
    (h : step cfg db broker p a = some (db', broker', p')) :
    (db' = db ∧ broker' = broker ∧ ∀ t ∈ p'.ticks, t ∈ p.ticks ∨ t = .polling) ∨
      ∃ i env publish tick tick', a = .proceed i env publish ∧ p.ticks[i]? = some tick ∧
        Dispatches cfg env db broker publish tick db' broker' tick' ∧
        ∀ t ∈ p'.ticks, t ∈ p.ticks ∨ t ∈ tick' := by
  cases a with
  | tick =>
    left
    rw [step] at h
    split_ifs at h
    · cases h
      exact ⟨rfl, rfl, fun t ht => .inl ht⟩
    · cases h
      exact ⟨rfl, rfl, fun t ht => by simpa using ht⟩
  | proceed i env publish =>
    right
    obtain ⟨tick, htick, h⟩ := Option.map_eq_some_iff.mp h
    split at h
    · next tick' heq =>
      cases h
      refine ⟨i, env, publish, tick, some tick', rfl, htick, advance_dispatches heq,
        fun t ht => ?_⟩
      rcases List.mem_or_eq_of_mem_set ht with ht | rfl
      · exact .inl ht
      · exact .inr rfl
    · next heq =>
      cases h
      exact ⟨i, env, publish, tick, none, rfl, htick, advance_dispatches heq,
        fun t ht => .inl (List.mem_of_mem_eraseIdx ht)⟩
  | destroy =>
    left
    cases h
    exact ⟨rfl, rfl, fun t ht => .inl ht⟩
  | crash =>
    left
    cases h
    exact ⟨rfl, rfl, by simp [started]⟩

end SupportPlatform.OutboxRelayService
