import Mathlib.Data.Nat.Cast.Order.Ring
import SupportPlatform.Consumers.Accounting
import SupportPlatform.Core.Machine

/-!
# The retries of an event

The three consumers over a broker that takes every publish and delivers each message once. An event
that has been published once is delivered to a consumer again and again, until it is applied, taken
for a duplicate, or dead: each delivery leaves at most one message of the event in the queue it came
from, and the retry header counts them.
-/

namespace SupportPlatform

/-- A delivery that has been handled, with what `runOnce` made of it: applied, a duplicate, or an
error. -/
structure Attempted where
  consumer : Consumer
  message : Message
  result : Except PrismaError Bool

namespace Attempted

def failed (d : Attempted) : Bool := !d.result.isOk

/-- A delivery of an event to a consumer. -/
def isOf (c : Consumer) (id : Uuid) (d : Attempted) : Bool :=
  d.consumer = c && d.message.event.eventId = id

end Attempted

/-- The broker and the deliveries so far. -/
structure RetryRun where
  broker : Broker
  deliveries : List Attempted

/-- A message is published to the exchange, or one is delivered: its attempt runs in a database and
an environment of its own. -/
inductive RetryEvent where
  | publish (m : Message)
  | deliver (c : Consumer) (k : Nat) (env : Env) (db : Db)

namespace RetryRun

open ConsumerRunner

/-- An event has just been published to the exchange of the consumers. -/
def start (broker : Broker) (m : Message) : RetryRun := ⟨broker.route EXCHANGE m, []⟩

/-- A publish, or a delivery from its receipt to its acknowledgement. -/
def step (cfg : Config) (project : Consumer → DomainEvent → DbTx Unit) (s : RetryRun) :
    RetryEvent → Option RetryRun
  | .publish m => some { s with broker := s.broker.route EXCHANGE m }
  | .deliver c k env db =>
    (s.broker.take? c k).map fun (m, broker) =>
      { broker := (handle cfg c m (project c) env .accepted db broker).2.2
        deliveries := s.deliveries ++
          [⟨c, m, (IdempotencyService.runOnce c m.event.eventId (project c m.event) env db).1⟩] }

section

variable (c : Consumer) (id : Uuid) (s : RetryRun)

/-- The deliveries of an event to a consumer. -/
def chain : List Attempted := s.deliveries.filter (·.isOf c id)

/-- The messages of an event that wait in the queue of a consumer. -/
def waiting : List Message := (s.broker.queues c).filter (·.event.eventId = id)

/-- The dead letters of an event that come from the queue of a consumer. -/
def dead : List DeadLetter :=
  s.broker.deadLetters.filter fun d => d.originQueue = c && d.event.eventId = id

/-- The event has been applied or taken for a duplicate, by the last delivery and no other. -/
def EndsResolved : Prop :=
  (∃ ds d, s.chain c id = ds ++ [d] ∧ (∀ x ∈ ds, x.failed) ∧ d.failed = false) ∧ s.dead c id = []

/-- Every delivery has failed, and the event is with the dead letters, once. -/
def EndsDead (cfg : Config) : Prop :=
  (s.chain c id).length = cfg.maxRetries + 1 ∧ (∀ d ∈ s.chain c id, d.failed) ∧
    (s.dead c id).length = 1

end

/-- The `k`-th message of the retries of a message. -/
structure IsRetry (m : Message) (k : Nat) (m' : Message) : Prop where
  count : ConsumerRunner.attempt m'.raw = .finite k
  event : m'.event = m.event
  messageId : m'.raw.messageId = m.raw.messageId

/-- The deliveries of the event of a message to a consumer, as far as they have come; `ends` is
about the time when none is left to be made. -/
structure Bounded (cfg : Config) (m : Message) (c : Consumer) (s : RetryRun) : Prop where
  length : (s.chain c m.event.eventId).length ≤ cfg.maxRetries + 1
  numbered : ∀ k d, (s.chain c m.event.eventId)[k]? = some d → IsRetry m k d.message
  ends : s.waiting c m.event.eventId = [] →
    1 ≤ (s.chain c m.event.eventId).length ∧
      Xor (s.EndsResolved c m.event.eventId) (s.EndsDead c m.event.eventId cfg)

/-! ### The stages of a chain -/

/-- Where the chain stands, given its deliveries, the messages of the event that wait, and its dead
letters. -/
inductive Stage (cfg : Config) (m : Message) :
    List Attempted → List Message → List DeadLetter → Prop
  | live {ds m'} (hfailed : ∀ d ∈ ds, d.failed) (hlength : ds.length ≤ cfg.maxRetries)
    (hretry : IsRetry m ds.length m') : Stage cfg m ds [m'] []
  | resolved {ds d} (hfailed : ∀ x ∈ ds, x.failed) (hlength : ds.length ≤ cfg.maxRetries)
    (hd : d.failed = false) : Stage cfg m (ds ++ [d]) [] []
  | dead {ds letter} (hfailed : ∀ d ∈ ds, d.failed) (hlength : ds.length = cfg.maxRetries + 1) :
    Stage cfg m ds [] [letter]

/-- The chain of an event at a consumer is at one of its stages, and its deliveries are numbered. -/
structure Chained (cfg : Config) (m : Message) (c : Consumer) (s : RetryRun) : Prop where
  stage : Stage cfg m (s.chain c m.event.eventId) (s.waiting c m.event.eventId)
    (s.dead c m.event.eventId)
  numbered : ∀ k d, (s.chain c m.event.eventId)[k]? = some d → IsRetry m k d.message

variable {cfg : Config} {project : Consumer → DomainEvent → DbTx Unit} {m : Message} {c : Consumer}
  {s t : RetryRun} {e : RetryEvent}

lemma Stage.of_perm {ds : List Attempted} {ms ms' : List Message} {ls : List DeadLetter}
    (h : Stage cfg m ds ms ls) (hperm : ms'.Perm ms) : Stage cfg m ds ms' ls := by
  cases h with
  | live hfailed hlength hretry =>
    rw [List.perm_singleton.mp hperm]
    exact .live hfailed hlength hretry
  | resolved hfailed hlength hd =>
    rw [List.perm_nil.mp hperm]
    exact .resolved hfailed hlength hd
  | dead hfailed hlength =>
    rw [List.perm_nil.mp hperm]
    exact .dead hfailed hlength

lemma Chained.bounded (h : s.Chained cfg m c) : s.Bounded cfg m c := by
  obtain ⟨hstage, hnumbered⟩ := h
  generalize hds : s.chain c m.event.eventId = ds at hstage
  generalize hms : s.waiting c m.event.eventId = ms at hstage
  generalize hls : s.dead c m.event.eventId = ls at hstage
  refine ⟨?_, hnumbered, fun hnone => ?_⟩
  · rw [hds]
    cases hstage with
    | live hfailed hlength => omega
    | resolved hfailed hlength => simpa using hlength
    | dead hfailed hlength => omega
  · rw [hms] at hnone
    cases hstage with
    | live => cases hnone
    | @resolved ds d hfailed hlength hd =>
      refine ⟨by simp [hds], .inl ⟨⟨⟨ds, d, hds, hfailed, hd⟩, hls⟩, fun hdead => ?_⟩⟩
      have := hdead.2.1 d (by simp [hds])
      rw [hd] at this
      cases this
    | @dead ds letter hfailed hlength =>
      refine ⟨by rw [hds]; omega, .inr ⟨⟨by rw [hds, hlength], by rwa [hds], by rw [hls]; rfl⟩, ?_⟩⟩
      rintro ⟨-, hempty⟩
      rw [hls] at hempty
      cases hempty

/-! ### Steps -/

/-- The broker after a delivery whose publishes it takes. -/
lemma broker_handle (cfg : Config) (c : Consumer) (m : Message)
    (project : DomainEvent → DbTx Unit) (env : Env) (db : Db) (broker : Broker) :
    (handle cfg c m project env .accepted db broker).2.2 =
      match (IdempotencyService.runOnce c m.event.eventId (project m.event) env db).1 with
      | .ok _ => broker
      | .error e => republish cfg c m e.message env.now broker := by
  rw [handle]
  rcases hrun : IdempotencyService.runOnce c m.event.eventId (project m.event) env db with
    ⟨e | b, db'⟩
  · simp [retryOrDeadLetter, PublishOutcome.taken]
  · simp

/-- What a delivery leaves in the queues: nothing but the retry, in the queue it came from. -/
lemma queues_republish_of_ne {error : String} {now : Time} {broker : Broker} {m' : Message}
    {c' : Consumer} (hc : c' ≠ c) :
    (republish cfg c m' error now broker).queues c' = broker.queues c' := by
  unfold republish
  split_ifs
  · simp [Broker.push, hc]
  · rfl

/-- A delivery to a consumer leaves the queues of the others as they are. -/
theorem queues_deliver_of_ne {k : Nat} {env : Env} {db : Db}
    (h : step cfg project s (.deliver c k env db) = some t) {c' : Consumer} (hc : c' ≠ c) :
    t.broker.queues c' = s.broker.queues c' := by
  obtain ⟨⟨m, broker⟩, htake, rfl⟩ := Option.map_eq_some_iff.mp h
  obtain ⟨-, hothers, -⟩ := Broker.take?_eq_some htake
  simp only [broker_handle]
  split
  · exact hothers c' hc
  · rw [queues_republish_of_ne hc, hothers c' hc]

/-- The retry of the last message of a chain is the next one. -/
lemma IsRetry.retried {m' : Message} {k : Nat} (h : IsRetry m k m') (error : String) :
    IsRetry m (k + 1) (ConsumerRunner.retried m' error) where
  count := by
    rw [attempt_retried, h.count]
    simp [JsNumber.succ]
  event := h.event
  messageId := h.messageId

lemma IsRetry.lt_iff {m' : Message} {k n : Nat} (h : IsRetry m k m') :
    (ConsumerRunner.attempt m'.raw).lt (.finite n) ↔ k < n := by
  rw [h.count]
  simp [JsNumber.lt]

/-- A delivery of another event, or to another consumer, leaves the chain where it is. -/
lemma chained_of_frame (hs : s.Chained cfg m c)
    (hchain : t.chain c m.event.eventId = s.chain c m.event.eventId)
    (hwaiting : (t.waiting c m.event.eventId).Perm (s.waiting c m.event.eventId))
    (hdead : t.dead c m.event.eventId = s.dead c m.event.eventId) : t.Chained cfg m c where
  stage := by
    rw [hchain, hdead]
    exact hs.stage.of_perm hwaiting
  numbered := by
    rw [hchain]
    exact hs.numbered

/-- A message of the event that waits is the next one of the chain, and all before it have
failed. -/
lemma Chained.live {m' : Message} {ms : List Message} (hs : s.Chained cfg m c)
    (h : (s.waiting c m.event.eventId).Perm (m' :: ms)) :
    ms = [] ∧ (∀ d ∈ s.chain c m.event.eventId, d.failed) ∧
      (s.chain c m.event.eventId).length ≤ cfg.maxRetries ∧
      IsRetry m (s.chain c m.event.eventId).length m' ∧ s.dead c m.event.eventId = [] := by
  obtain ⟨hstage, -⟩ := hs
  generalize s.chain c m.event.eventId = chain at hstage ⊢
  generalize s.waiting c m.event.eventId = waiting at h hstage
  generalize s.dead c m.event.eventId = dead at hstage ⊢
  cases hstage with
  | live hfailed hlength hretry =>
    obtain ⟨rfl, rfl⟩ := List.cons_eq_cons.mp (List.perm_singleton.mp h.symm)
    exact ⟨rfl, hfailed, hlength, hretry, rfl⟩
  | resolved => exact absurd h.symm (by simp)
  | dead => exact absurd h.symm (by simp)

lemma numbered_append {ds : List Attempted} {d : Attempted}
    (h : ∀ k x, ds[k]? = some x → IsRetry m k x.message) (hd : IsRetry m ds.length d.message) :
    ∀ k x, (ds ++ [d])[k]? = some x → IsRetry m k x.message := by
  intro k x hx
  rw [List.getElem?_append] at hx
  split_ifs at hx with hk
  · exact h k x hx
  · obtain ⟨hk', rfl⟩ := by simpa [List.getElem?_singleton] using hx
    obtain rfl : k = ds.length := by omega
    exact hd

/-- A delivery of the event takes its chain to the next stage. -/
lemma chained_own {k : Nat} {env : Env} {db : Db} {m' : Message} {broker : Broker}
    (hs : s.Chained cfg m c) (htake : s.broker.take? c k = some (m', broker))
    (hid : m'.event.eventId = m.event.eventId)
    (h : step cfg project s (.deliver c k env db) = some t) : t.Chained cfg m c := by
  obtain ⟨hperm, -, hletters⟩ := Broker.take?_eq_some htake
  have hwaiting : (s.waiting c m.event.eventId).Perm
      (m' :: (broker.queues c).filter (·.event.eventId = m.event.eventId)) := by
    simpa [waiting, hid] using hperm.filter (·.event.eventId = m.event.eventId)
  obtain ⟨hnone, hfailed, hlength, hretry, hdead⟩ := hs.live hwaiting
  have hnone' : ∀ m₁ ∈ broker.queues c, m₁.event.eventId ≠ m.event.eventId := by
    simpa using hnone
  have hdead' : broker.deadLetters.filter
      (fun d => d.originQueue = c && d.event.eventId = m.event.eventId) = [] := by
    rw [hletters]
    exact hdead
  simp only [step, htake, Option.map_some, Option.some.injEq, broker_handle] at h
  generalize (IdempotencyService.runOnce c m'.event.eventId (project c m'.event) env db).1 =
    result at h
  have hchain : t.chain c m.event.eventId =
      s.chain c m.event.eventId ++ [⟨c, m', result⟩] := by
    simp [← h, chain, Attempted.isOf, hid]
  refine ⟨?_, by rw [hchain]; exact numbered_append hs.numbered hretry⟩
  rw [hchain]
  cases result with
  | ok b =>
    have hw : t.waiting c m.event.eventId = [] := by
      simpa [← h, waiting] using hnone'
    have hd : t.dead c m.event.eventId = [] := by
      rw [← h]
      exact hdead'
    rw [hw, hd]
    exact .resolved hfailed hlength rfl
  | error e =>
    have hall : ∀ d ∈ s.chain c m.event.eventId ++ [⟨c, m', .error e⟩], d.failed := by
      simpa [or_imp, forall_and, Attempted.failed, Except.isOk, Except.toBool] using hfailed
    by_cases hlt : (s.chain c m.event.eventId).length < cfg.maxRetries
    · have hbroker : t.broker = broker.push c (ConsumerRunner.retried m' e.message) := by
        simp [← h, republish, hretry.lt_iff.mpr hlt]
      have hw : t.waiting c m.event.eventId = [ConsumerRunner.retried m' e.message] := by
        rw [waiting, hbroker]
        simpa [Broker.push, ConsumerRunner.retried, hid] using hnone'
      have hd : t.dead c m.event.eventId = [] := by
        rw [dead, hbroker]
        exact hdead'
      rw [hw, hd]
      exact .live hall (by rw [List.length_append]; exact hlt)
        (by simpa using hretry.retried e.message)
    · have hnot : ¬ (ConsumerRunner.attempt m'.raw).lt (.finite cfg.maxRetries) :=
        fun hcount => hlt (hretry.lt_iff.mp hcount)
      have hbroker : t.broker = broker.deadLetter (deadLetterOf c m' e.message env.now) := by
        simp [← h, republish, hnot]
      have hw : t.waiting c m.event.eventId = [] := by
        rw [waiting, hbroker]
        simpa [Broker.deadLetter] using hnone'
      have hd : t.dead c m.event.eventId = [deadLetterOf c m' e.message env.now] := by
        rw [dead, hbroker]
        simpa [Broker.deadLetter, deadLetterOf, hid] using hdead'
      rw [hw, hd]
      exact .dead hall (by simp; omega)

/-- A delivery of another event, or to another consumer, leaves the chain alone. -/
lemma chained_other {c' : Consumer} {k : Nat} {env : Env} {db : Db} {m' : Message}
    {broker : Broker} (hs : s.Chained cfg m c) (htake : s.broker.take? c' k = some (m', broker))
    (hother : c' ≠ c ∨ m'.event.eventId ≠ m.event.eventId)
    (h : step cfg project s (.deliver c' k env db) = some t) : t.Chained cfg m c := by
  have hqueues : c ≠ c' → t.broker.queues c = s.broker.queues c := queues_deliver_of_ne h
  obtain ⟨hperm, -, hletters⟩ := Broker.take?_eq_some htake
  simp only [step, htake, Option.map_some, Option.some.injEq, broker_handle] at h
  generalize (IdempotencyService.runOnce c' m'.event.eventId (project c' m'.event) env db).1 =
    result at h
  refine chained_of_frame hs ?_ ?_ ?_
  · have hnot : Attempted.isOf c m.event.eventId ⟨c', m', result⟩ = false := by
      rcases hother with hc | hid
      · simp [Attempted.isOf, hc]
      · simp [Attempted.isOf, hid]
    simp [← h, chain, hnot]
  · by_cases hc : c = c'
    · obtain rfl := hc
      have hid := hother.resolve_left (by simp)
      have hrest : (s.waiting c m.event.eventId).Perm
          ((broker.queues c).filter (·.event.eventId = m.event.eventId)) := by
        simpa [waiting, hid] using hperm.filter (·.event.eventId = m.event.eventId)
      refine (List.Perm.of_eq ?_).trans hrest.symm
      rw [waiting, ← h]
      cases result with
      | ok b => rfl
      | error e =>
        simp only [republish]
        split_ifs
        · simp [Broker.push, ConsumerRunner.retried, hid]
        · rfl
    · rw [waiting, hqueues hc, waiting]
  · rw [dead, ← h]
    cases result with
    | ok b => simp [dead, hletters]
    | error e =>
      simp only [republish]
      split_ifs
      · simp [Broker.push, dead, hletters]
      · rcases hother with hc | hid
        · simp [Broker.deadLetter, deadLetterOf, dead, hletters, hc]
        · simp [Broker.deadLetter, deadLetterOf, dead, hletters, hid]

/-- Anything happens but another publish of the event. -/
def publishesOther (id : Uuid) : RetryEvent → Bool
  | .publish m => m.event.eventId ≠ id
  | .deliver .. => true

theorem step_chained (hs : s.Chained cfg m c) (he : publishesOther m.event.eventId e)
    (h : step cfg project s e = some t) : t.Chained cfg m c := by
  cases e with
  | publish m' =>
    obtain rfl := Option.some.inj h
    have hid : m'.event.eventId ≠ m.event.eventId := by simpa [publishesOther] using he
    refine chained_of_frame hs rfl (List.Perm.of_eq ?_) rfl
    simp only [waiting, Broker.route]
    split_ifs
    · simp [hid]
    · rfl
  | deliver c' k env db =>
    obtain ⟨⟨m', broker⟩, htake, -⟩ := Option.map_eq_some_iff.mp h
    by_cases hown : c' = c ∧ m'.event.eventId = m.event.eventId
    · obtain ⟨rfl, hid⟩ := hown
      exact chained_own hs htake hid h
    · exact chained_other hs htake (not_and_or.mp hown) h

/-! ### Runs -/

/-- A broker that has not seen an event: no queue holds a message of it, and no dead letter. -/
structure Unseen (id : Uuid) (broker : Broker) : Prop where
  queues : ∀ c, ∀ m ∈ broker.queues c, m.event.eventId ≠ id
  deadLetters : ∀ d ∈ broker.deadLetters, d.event.eventId ≠ id

lemma chained_start {broker : Broker} (hdeclared : broker.declared)
    (hunseen : Unseen m.event.eventId broker) (hheader : header? m.raw RETRY_HEADER = none)
    (hbound : c.bound m.event.routingKey) : (start broker m).Chained cfg m c := by
  have hw : (start broker m).waiting c m.event.eventId = [m] := by
    simpa [waiting, start, Broker.route, hdeclared, hbound] using hunseen.queues c
  have hd : (start broker m).dead c m.event.eventId = [] := by
    simp only [dead, start, Broker.route, List.filter_eq_nil_iff]
    intro d hd
    simp [hunseen.deadLetters d hd]
  have hcount : ConsumerRunner.attempt m.raw = .finite (0 : Nat) := by
    rw [ConsumerRunner.attempt, hheader]
    rfl
  constructor
  · rw [hw, hd]
    exact .live (by simp [chain, start]) (Nat.zero_le _) ⟨hcount, rfl, rfl⟩
  · simp [chain, start]

/-- An event that is published once, without a retry header, is delivered to every consumer bound to
it at most `maxRetries + 1` times, with its deliveries numbered, and ends applied, as a duplicate or
as one dead letter; no delivery of anything changes the queue of another consumer. -/
theorem retries_bounded (cfg : Config) (project : Consumer → DomainEvent → DbTx Unit)
    {broker : Broker} {m : Message} {es : List RetryEvent} {s : RetryRun}
    (hdeclared : broker.declared) (hunseen : Unseen m.event.eventId broker)
    (hheader : header? m.raw RETRY_HEADER = none)
    (hes : ∀ e ∈ es, publishesOther m.event.eventId e)
    (h : Machine.exec (step cfg project) (start broker m) es = some s) :
    (∀ c : Consumer, c.bound m.event.routingKey → s.Bounded cfg m c) ∧
      ∀ c k env db t, step cfg project s (.deliver c k env db) = some t →
        ∀ c', c' ≠ c → t.broker.queues c' = s.broker.queues c' := by
  refine ⟨fun c hbound => ?_, fun c k env db t ht c' hc => queues_deliver_of_ne ht hc⟩
  have hchained : s.Chained cfg m c :=
    Machine.exec_invariant_of_forall (step cfg project)
      (fun u e v hu he hv => step_chained hu he hv)
      (chained_start hdeclared hunseen hheader hbound) hes h
  exact hchained.bounded

namespace Seed

/-- A broker that a worker has connected to. -/
def connected : Broker := { Broker.empty with declared := true }

/-- A database with the seeded organization. -/
def seeded : Db :=
  { Db.empty with
    organizations := SupportPlatform.Seed.organizations
    users := SupportPlatform.Seed.users }

/-- One retry is left to the analytics consumer, which fails both times; the others succeed. -/
def failingRun : List RetryEvent :=
  [.deliver .analytics 0 (SupportPlatform.Seed.unavailable 3) seeded,
    .deliver .notification 0 (SupportPlatform.Seed.env 4) seeded,
    .deliver .analytics 0 (SupportPlatform.Seed.unavailable 5) seeded,
    .deliver .audit 0 (SupportPlatform.Seed.env 6) seeded]

end Seed

theorem retries_bounded_failing :
    ∃ s, Machine.exec (step { Config.default with maxRetries := 1 } Consumer.project)
        (start Seed.connected createdMessage) Seed.failingRun = some s ∧
      ((s.chain .analytics 150).length = 2 ∧ (s.chain .audit 150).length = 1 ∧
        ∀ c, s.waiting c 150 = []) ∧
      (∀ c : Consumer, c.bound createdMessage.event.routingKey →
        s.Bounded { Config.default with maxRetries := 1 } createdMessage c) ∧
      ∀ c k env db t, step { Config.default with maxRetries := 1 } Consumer.project s
          (.deliver c k env db) = some t →
        ∀ c', c' ≠ c → t.broker.queues c' = s.broker.queues c' := by
  have hrun : (Machine.exec (step { Config.default with maxRetries := 1 } Consumer.project)
      (start Seed.connected createdMessage) Seed.failingRun).any fun s =>
        (s.chain .analytics 150).length = 2 ∧ (s.chain .audit 150).length = 1 ∧
          s.waiting .notification 150 = [] ∧ s.waiting .audit 150 = [] ∧
          s.waiting .analytics 150 = [] := by decide +kernel
  obtain ⟨s, hs, hanalytics, haudit, hnone⟩ := Machine.exists_of_any hrun
  have hunseen : Unseen createdMessage.event.eventId Seed.connected :=
    ⟨by simp [Seed.connected, Broker.empty], by simp [Seed.connected, Broker.empty]⟩
  refine ⟨s, hs, ⟨hanalytics, haudit, ?_⟩,
    retries_bounded _ _ rfl hunseen rfl (by decide) hs⟩
  rintro (_ | _ | _)
  · exact hnone.1
  · exact hnone.2.1
  · exact hnone.2.2

end RetryRun

end SupportPlatform
