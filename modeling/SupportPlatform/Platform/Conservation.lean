import SupportPlatform.Platform.Routing

/-!
# Conservation of routed events

Once the broker has confirmed an event for the queue of a consumer, the event is somewhere: its
projection is committed, or it is with the dead letters, in the queue, or in the hands of a worker
whose delivery the broker counts on. Crashes, redeliveries and failures of the projectors move it
from one place to another. Only a unique violation of foreign origin, taken for a duplicate, loses
it.
-/

namespace SupportPlatform

namespace Broker

variable {b b' : Broker} {c c' : Consumer} {m m' : Message} {k : Nat}

lemma mem_route_of_mem {exchange : String} (h : m ∈ b.queues c) :
    m ∈ (b.route exchange m').queues c := by
  simp only [route]
  split
  · exact List.mem_append_left _ h
  · exact h

lemma mem_or_eq_of_take? (h : b.take? c k = some (m, b')) (hm : m' ∈ b.queues c') :
    m' ∈ b'.queues c' ∨ c' = c ∧ m' = m := by
  obtain ⟨m₁, hget, heq⟩ := Option.map_eq_some_iff.mp h
  obtain ⟨rfl, rfl⟩ := Prod.mk.inj heq
  by_cases hc : c' = c
  · subst hc
    obtain ⟨j, hj⟩ := List.mem_iff_getElem?.mp hm
    by_cases hjk : j = k
    · subst hjk
      exact .inr ⟨rfl, Option.some.inj (hj.symm.trans hget)⟩
    · left
      simp only [Function.update_self]
      exact List.mem_eraseIdx_iff_getElem?.mpr ⟨j, hjk, hj⟩
  · left
    simpa only [Function.update_of_ne hc] using hm

lemma deadLetters_of_take? (h : b.take? c k = some (m, b')) : b'.deadLetters = b.deadLetters := by
  obtain ⟨_, -, heq⟩ := Option.map_eq_some_iff.mp h
  obtain ⟨rfl, rfl⟩ := Prod.mk.inj heq
  rfl

end Broker

/-! ### One delivery -/

namespace Delivery

variable {cfg : Config} {db db' : Db} {broker broker' : Broker} {locked : Bool} {d : Delivery}
  {a : DeliveryAction} {d' : Option Delivery}

/-- The error a step throws, but for the conflict that the insertion into `processed_events`
finds. -/
def raises (db : Db) (d : Delivery) : DeliveryAction → Option PrismaError
  | .insert env => env.fault .processed
  | .project env => env.fault .query
  | .commit env =>
    match d.phase with
    | .planned p =>
      match IdempotencyService.transaction d.consumer d.message.event.eventId p.exec env db with
      | .ok _ => none
      | .error e => some e
    | _ => none
  | _ => none

/-- A delivery the broker counts on, and which has not been settled. -/
def Open (d : Delivery) : Prop := d.unacked ∧ d.phase ≠ .settled

/-- Where the event of a delivery is after a step of it. -/
inductive Moved (d : Delivery) (db' : Db) (broker' : Broker) (d' : Option Delivery) : Prop
  | processed (h : d.key ∈ db'.processedEvents.keys)
  | deadLettered {l} (hl : l ∈ broker'.deadLetters) (horigin : l.originQueue = d.consumer)
    (hevent : l.event = d.message.event)
  | queued {m} (hm : m ∈ broker'.queues d.consumer) (hevent : m.event = d.message.event)
  | kept {phase} (h : d' = some { d with phase }) (hphase : phase ≠ .settled)

lemma moved_of_thrown {e : PrismaError}
    (hunique : e.isUniqueViolation → d.key ∈ db.processedEvents.keys) :
    d.Moved db broker (some { d with phase := thrown e }) := by
  by_cases he : e.isUniqueViolation
  · exact .processed (hunique he)
  · refine .kept rfl ?_
    simp [thrown, IdempotencyService.caught, he]

/-- A step of an open delivery leaves its event somewhere. -/
theorem exec_moved (h : d.exec cfg db broker locked a = some (db', broker', d')) (hopen : d.Open)
    (hunique : ∀ e ∈ d.raises db a, e.isUniqueViolation → d.key ∈ db.processedEvents.keys) :
    d.Moved db' broker' d' := by
  cases a with
  | insert env =>
    rw [exec] at h
    split at h
    · split at h
      · next e he =>
        cases h
        exact moved_of_thrown (hunique e he)
      · split_ifs at h with hkey
        · cases h
          exact .processed hkey
        · cases h
          exact .kept rfl (by simp)
    · cases h
  | project env =>
    rw [exec] at h
    split at h
    · split at h
      · next e he =>
        cases h
        exact moved_of_thrown (hunique e he)
      · cases h
        exact .kept rfl (by simp)
    · cases h
  | commit env =>
    rw [exec] at h
    split at h
    · next p hphase =>
      split at h
      · next hok =>
        cases h
        obtain ⟨processedEvents, hrow, hwork⟩ := transaction_ok (Transaction.commit_eq_ok.mp hok)
        refine .processed ?_
        rw [(Projection.exec_cases hwork).processedEvents]
        exact (Table.mem_keys_insert? hrow).mpr (.inr rfl)
      · next e _ herror =>
        cases h
        rw [Transaction.commit_error herror]
        refine moved_of_thrown (hunique e ?_)
        unfold Transaction.commit at herror
        split at herror
        · next he =>
          cases herror
          simp [raises, hphase, he]
        · cases herror
    · cases h
  | republish now publish =>
    rw [exec] at h
    split at h
    · next e hphase =>
      cases publish with
      | accepted =>
        cases h
        simp only [PublishOutcome.taken, if_true, ConsumerRunner.republish]
        split
        · exact .queued (Broker.mem_push.mpr (.inr ⟨rfl, rfl⟩)) rfl
        · exact .deadLettered (List.mem_append_right _ (List.mem_singleton_self _)) rfl rfl
      | refused error | unconfirmed error =>
        cases h
        rw [if_pos hopen.1]
        exact .queued (Broker.mem_requeue.mpr (.inr ⟨rfl, rfl⟩)) rfl
    · cases h
  | ack =>
    rw [exec] at h
    split_ifs at h with hphase
    exact absurd hphase hopen.2

lemma broker_retryOrDeadLetter (cfg : Config) (queue : Consumer) (m : Message) (error : String)
    (now : Time) (publish : PublishOutcome) (broker : Broker) :
    (∀ c, ∀ m' ∈ broker.queues c,
        m' ∈ (ConsumerRunner.retryOrDeadLetter cfg queue m error now publish broker).2.queues c) ∧
      ∀ l ∈ broker.deadLetters,
        l ∈ (ConsumerRunner.retryOrDeadLetter cfg queue m error now publish
          broker).2.deadLetters := by
  simp only [ConsumerRunner.retryOrDeadLetter, ConsumerRunner.republish]
  split_ifs
  · exact ⟨fun c m' hm => Broker.mem_push.mpr (.inl hm), fun l hl => hl⟩
  · exact ⟨fun c m' hm => hm, fun l hl => List.mem_append_left _ hl⟩
  · exact ⟨fun c m' hm => hm, fun l hl => hl⟩

/-- A step takes nothing from the queues or from the dead letters. -/
lemma exec_broker (h : d.exec cfg db broker locked a = some (db', broker', d')) :
    (∀ c, ∀ m ∈ broker.queues c, m ∈ broker'.queues c) ∧
      ∀ l ∈ broker.deadLetters, l ∈ broker'.deadLetters := by
  cases a with
  | republish now publish =>
    rw [exec] at h
    split at h
    · next e hphase =>
      obtain ⟨hqueues, hletters⟩ :=
        broker_retryOrDeadLetter cfg d.consumer d.message e.message now publish broker
      split at h
      · next heq =>
        cases h
        rw [heq] at hqueues hletters
        exact ⟨hqueues, hletters⟩
      · next heq =>
        cases h
        rw [heq] at hqueues hletters
        split
        · exact ⟨fun c m hm => Broker.mem_requeue.mpr (.inl (hqueues c m hm)), hletters⟩
        · exact ⟨hqueues, hletters⟩
    · cases h
  | insert env | project env | commit env | ack =>
    have hsteps := exec_cases h
    clear h
    cases hsteps <;> exact ⟨fun _ _ hm => hm, fun _ hl => hl⟩

/-- Where a step throws nothing, a delivery that has not failed before does not fail, and no dead
letter is written. -/
lemma exec_unfailing (h : d.exec cfg db broker locked a = some (db', broker', d'))
    (hraises : d.raises db a = none) (hphase : ∀ e, d.phase ≠ .failed e) :
    broker'.deadLetters = broker.deadLetters ∧ ∀ d₁ ∈ d', ∀ e, d₁.phase ≠ .failed e := by
  cases a with
  | insert env =>
    have hfault : env.fault .processed = none := hraises
    simp only [exec, hfault] at h
    split_ifs at h
    · cases h
      refine ⟨rfl, fun d₁ hd₁ e he => ?_⟩
      cases hd₁
      cases he
    · cases h
      refine ⟨rfl, fun d₁ hd₁ e he => ?_⟩
      cases hd₁
      cases he
  | project env =>
    have hfault : env.fault .query = none := hraises
    simp only [exec, hfault] at h
    split_ifs at h
    cases h
    refine ⟨rfl, fun d₁ hd₁ e he => ?_⟩
    cases hd₁
    cases he
  | commit env =>
    rw [exec] at h
    split at h
    · next p hp =>
      split at h
      · cases h
        refine ⟨rfl, fun d₁ hd₁ e he => ?_⟩
        cases hd₁
        cases he
      · next e _ herror =>
        unfold Transaction.commit at herror
        split at herror
        · next he => simp [raises, hp, he] at hraises
        · cases herror
    · cases h
  | republish now publish =>
    rw [exec] at h
    split at h
    · next e hp => exact absurd hp (hphase e)
    · cases h
  | ack =>
    rw [exec] at h
    split_ifs at h
    cases h
    exact ⟨rfl, fun d₁ hd₁ => by cases hd₁⟩

/-- A dead letter that a step writes comes from the queue of the delivery. -/
lemma exec_deadLetters (h : d.exec cfg db broker locked a = some (db', broker', d'))
    {l : DeadLetter} (hl : l ∈ broker'.deadLetters) :
    l ∈ broker.deadLetters ∨ l.originQueue = d.consumer := by
  cases a with
  | republish now publish =>
    rw [exec] at h
    split at h
    · next e hphase =>
      have hletters : ∀ l ∈ (ConsumerRunner.retryOrDeadLetter cfg d.consumer d.message e.message
          now publish broker).2.deadLetters,
            l ∈ broker.deadLetters ∨ l.originQueue = d.consumer := by
        intro l hl
        simp only [ConsumerRunner.retryOrDeadLetter, ConsumerRunner.republish] at hl
        split_ifs at hl
        · exact .inl hl
        · rcases List.mem_append.mp hl with hl | hl
          · exact .inl hl
          · obtain rfl := List.mem_singleton.mp hl
            exact .inr rfl
        · exact .inl hl
      split at h
      · next heq =>
        cases h
        rw [heq] at hletters
        exact hletters l hl
      · next heq =>
        cases h
        rw [heq] at hletters
        split at hl
        · exact hletters l hl
        · exact hletters l hl
    · cases h
  | insert env | project env | commit env | ack =>
    have hsteps := exec_cases h
    clear h
    cases hsteps <;> exact .inl hl

/-- A step that commits has run the planned projection in the transaction. -/
lemma commits_cases {x : Commit} (h : d.exec cfg db broker locked a = some (db', broker', d'))
    (hx : x ∈ d.commits db a) :
    x = ⟨d.message.event, d.consumer⟩ ∧ ∃ env p processedEvents, d.phase = .planned p ∧
      db.processedEvents.insert? ⟨d.message.event.eventId, d.consumer, env.now⟩ =
        some processedEvents ∧ p.exec env { db with processedEvents } = .ok ((), db') := by
  unfold commits at hx
  split at hx
  · next env =>
    split at hx
    · next p hphase =>
      split at hx
      · next hok =>
        obtain ⟨processedEvents, hrow, hwork⟩ := transaction_ok hok
        simp only [exec, hphase, Transaction.commit, hok] at h
        cases h
        exact ⟨List.mem_singleton.mp hx, env, p, processedEvents, hphase, hrow, hwork⟩
      · cases hx
    · cases hx
  · cases hx

lemma commits_eq {x : Commit} (hx : x ∈ d.commits db a) : d.commits db a = [x] := by
  unfold commits at hx ⊢
  split at hx
  · split at hx
    · split at hx
      · next hok =>
        rw [List.mem_singleton.mp hx]
      · cases hx
    · cases hx
  · cases hx

lemma Executes.processed (h : d.Executes db broker locked a db' broker' d') {k : Uuid × Consumer}
    (hk : k ∈ db.processedEvents.keys) : k ∈ db'.processedEvents.keys := by
  cases h with
  | committed _ _ hrow hwrite =>
    rw [hwrite.processedEvents]
    exact (Table.mem_keys_insert? hrow).mpr (.inl hk)
  | _ => exact hk

end Delivery

/-! ### The platform -/

namespace World

open Machine

variable {cfg : Config} {w w' : World} {e : Event} {c : Consumer}
  {x : Uuid × Payload × Option String}

/-- The condition on a step: a worker of this consumer meets no unique violation that it would take
for a duplicate. -/
def TrueDuplicates (c : Consumer) (w : World) : Event → Prop
  | .consume i a => ∀ d ∈ w.deliveries[i]?, d.consumer = c →
      ∀ error ∈ d.raises w.db a, error.isUniqueViolation → d.key ∈ w.db.processedEvents.keys
  | _ => True

instance (c : Consumer) (w : World) (e : Event) : Decidable (w.TrueDuplicates c e) := by
  unfold TrueDuplicates
  split <;> infer_instance

/-- Where the event may be, from the publish for the queue of `c` on. -/
inductive Accounted (c : Consumer) (x : Uuid × Payload × Option String) (w : World) : Prop
  | processed (h : (x.1, c) ∈ w.db.processedEvents.keys)
  | deadLettered {l} (hl : l ∈ w.broker.deadLetters) (horigin : l.originQueue = c)
    (hcontent : l.event.content = x)
  | queued {m} (hm : m ∈ w.broker.queues c) (hcontent : m.event.content = x)
  | handled {d} (hd : d ∈ w.deliveries) (hconsumer : d.consumer = c)
    (hcontent : d.message.event.content = x) (hopen : d.Open)

lemma Steps.processed (h : Steps cfg w e w') {k : Uuid × Consumer}
    (hk : k ∈ w.db.processedEvents.keys) : k ∈ w'.db.processedEvents.keys := by
  cases h with
  | proceed _ h => exact (executes_nothingProjected h).2 ▸ hk
  | relay _ h => exact (relay_nothingProjected h).2 ▸ hk
  | consume _ h => exact h.processed hk
  | finish _ h => exact h.processed hk
  | _ => exact hk

lemma mem_giveBack_of_mem {broker : Broker} {deliveries : List Delivery} {worker : Nat}
    {m : Message} (h : m ∈ broker.queues c) : m ∈ (giveBack broker deliveries worker).queues c := by
  induction deliveries with
  | nil => exact h
  | cons d ds ih =>
    rw [giveBack, List.foldr_cons]
    split
    · exact Broker.mem_requeue.mpr (.inl ih)
    · exact ih

lemma deadLetters_giveBack (broker : Broker) (deliveries : List Delivery) (worker : Nat) :
    (giveBack broker deliveries worker).deadLetters = broker.deadLetters := by
  induction deliveries with
  | nil => rfl
  | cons d ds ih =>
    rw [giveBack, List.foldr_cons]
    split <;> exact ih

/-- A crash gives every message of the worker back that the broker counts on. -/
lemma mem_giveBack_of_unacked {broker : Broker} {deliveries : List Delivery} {d : Delivery}
    (hd : d ∈ deliveries) (hunacked : d.unacked) :
    d.message ∈ (giveBack broker deliveries d.worker).queues d.consumer := by
  induction deliveries with
  | nil => cases hd
  | cons d' ds ih =>
    rw [giveBack, List.foldr_cons]
    rcases List.mem_cons.mp hd with rfl | hd
    · rw [if_pos ⟨rfl, hunacked⟩]
      exact Broker.mem_requeue.mpr (.inr ⟨rfl, rfl⟩)
    · split
      · exact Broker.mem_requeue.mpr (.inl (ih hd))
      · exact ih hd

lemma relay_broker {i : Nat} {a : RelayAction} (h : step cfg w (.relay i a) = some w') :
    (∀ c, ∀ m ∈ w.broker.queues c, m ∈ w'.broker.queues c) ∧
      w'.broker.deadLetters = w.broker.deadLetters ∧ w'.deliveries = w.deliveries := by
  have hsteps := step_cases h
  clear h
  cases hsteps with
  | relay _ h =>
    cases h with
    | idle _ => exact ⟨fun _ _ hm => hm, rfl, rfl⟩
    | advanced _ h _ =>
      cases h with
      | published _ => exact ⟨fun _ _ hm => Broker.mem_route_of_mem hm, rfl, rfl⟩
      | _ => exact ⟨fun _ _ hm => hm, rfl, rfl⟩

/-- A step of a delivery, with the delivery. -/
lemma consume_cases {i : Nat} {a : DeliveryAction} (h : step cfg w (.consume i a) = some w') :
    ∃ d d', w.deliveries[i]? = some d ∧
      d.exec cfg w.db w.broker (w.locked d.key) a = some (w'.db, w'.broker, d') ∧
      w'.deliveries = match d' with
        | some d' => w.deliveries.set i d'
        | none => w.deliveries.eraseIdx i := by
  obtain ⟨d, hd, h⟩ := Option.bind_eq_some_iff.mp h
  obtain ⟨⟨db, broker, d'⟩, hexec, rfl⟩ := Option.map_eq_some_iff.mp h
  exact ⟨d, d', hd, hexec, rfl⟩

lemma mem_deliveries_of_ne {i j : Nat} {d₁ : Delivery} (d' : Option Delivery)
    (hj : w.deliveries[j]? = some d₁) (hne : j ≠ i) :
    d₁ ∈ (match d' with
      | some d' => w.deliveries.set i d'
      | none => w.deliveries.eraseIdx i) := by
  cases d' with
  | some d' => exact List.mem_of_getElem? ((List.getElem?_set_ne hne.symm).trans hj)
  | none => exact List.mem_eraseIdx_iff_getElem?.mpr ⟨j, hne, hj⟩

/-- A step loses no event on the way to a consumer whose workers meet true duplicates only. -/
theorem Accounted.of_step (h : step cfg w e = some w') (hunique : w.TrueDuplicates c e)
    (hw : w.Accounted c x) : w'.Accounted c x := by
  have hprocessed : (x.1, c) ∈ w.db.processedEvents.keys → w'.Accounted c x :=
    fun hk => .processed ((step_cases h).processed hk)
  cases e with
  | consume i a =>
    obtain ⟨d, d', hd, hexec, hdeliveries⟩ := consume_cases h
    obtain ⟨hqueues, hletters⟩ := Delivery.exec_broker hexec
    cases hw with
    | processed hk => exact hprocessed hk
    | deadLettered hl horigin hcontent => exact .deadLettered (hletters _ hl) horigin hcontent
    | queued hm hcontent => exact .queued (hqueues c _ hm) hcontent
    | @handled d₁ hd₁ hconsumer hcontent hopen =>
      obtain ⟨j, hj⟩ := List.mem_iff_getElem?.mp hd₁
      by_cases hji : j = i
      · subst hji
        obtain rfl := Option.some.inj (hd.symm.trans hj)
        subst hconsumer hcontent
        cases Delivery.exec_moved hexec hopen (hunique d hd rfl) with
        | processed hk => exact .processed hk
        | deadLettered hl horigin hevent => exact .deadLettered hl horigin (congrArg _ hevent)
        | queued hm hevent => exact .queued hm (congrArg _ hevent)
        | @kept phase hnext hphase =>
          refine .handled (d := { d with phase }) ?_ rfl rfl ⟨hopen.1, hphase⟩
          rw [hdeliveries, hnext]
          exact List.mem_of_getElem? (List.getElem?_set_self (List.getElem?_eq_some_iff.mp hd).1)
      · exact .handled (hdeliveries ▸ mem_deliveries_of_ne d' hj hji) hconsumer hcontent hopen
  | relay i a =>
    obtain ⟨hqueues, hletters, hdeliveries⟩ := relay_broker h
    cases hw with
    | processed hk => exact hprocessed hk
    | deadLettered hl horigin hcontent => exact .deadLettered (hletters ▸ hl) horigin hcontent
    | queued hm hcontent => exact .queued (hqueues c _ hm) hcontent
    | handled hd hconsumer hcontent hopen =>
      exact .handled (hdeliveries ▸ hd) hconsumer hcontent hopen
  | deliver worker queue k =>
    have hsteps := step_cases h
    clear h
    cases hsteps with
    | @deliver _ _ _ message broker h =>
      cases hw with
      | processed hk => exact .processed hk
      | deadLettered hl horigin hcontent =>
        exact .deadLettered ((Broker.deadLetters_of_take? h).symm ▸ hl) horigin hcontent
      | queued hm hcontent =>
        rcases Broker.mem_or_eq_of_take? h hm with hm | ⟨hc, rfl⟩
        · exact .queued hm hcontent
        · exact .handled (List.mem_append_right _ (List.mem_singleton_self _)) hc.symm hcontent
            ⟨rfl, by simp⟩
      | handled hd hconsumer hcontent hopen =>
        exact .handled (List.mem_append_left _ hd) hconsumer hcontent hopen
  | redeliver i =>
    have hsteps := step_cases h
    clear h
    cases hsteps with
    | @redeliver _ d hd hunacked =>
      cases hw with
      | processed hk => exact .processed hk
      | deadLettered hl horigin hcontent => exact .deadLettered hl horigin hcontent
      | queued hm hcontent => exact .queued (Broker.mem_requeue.mpr (.inl hm)) hcontent
      | @handled d₁ hd₁ hconsumer hcontent hopen =>
        obtain ⟨j, hj⟩ := List.mem_iff_getElem?.mp hd₁
        by_cases hji : j = i
        · subst hji
          obtain rfl := Option.some.inj (hd.symm.trans hj)
          exact .queued (Broker.mem_requeue.mpr (.inr ⟨hconsumer.symm, rfl⟩)) hcontent
        · exact .handled (mem_deliveries_of_ne (some _) hj hji) hconsumer hcontent hopen
  | crash worker =>
    have hsteps := step_cases h
    clear h
    cases hsteps
    cases hw with
    | processed hk => exact .processed hk
    | deadLettered hl horigin hcontent =>
      exact .deadLettered ((deadLetters_giveBack _ _ _).symm ▸ hl) horigin hcontent
    | queued hm hcontent => exact .queued (mem_giveBack_of_mem hm) hcontent
    | @handled d hd hconsumer hcontent hopen =>
      by_cases hworker : d.worker = worker
      · subst hworker hconsumer
        exact .queued (mem_giveBack_of_unacked hd hopen.1) hcontent
      · exact .handled (List.mem_filter.mpr ⟨hd, by simpa using hworker⟩) hconsumer hcontent hopen
  | arrive | proceed | connect =>
    have hsteps := step_cases h
    clear h
    cases hsteps
    cases hw with
    | processed hk => exact hprocessed hk
    | deadLettered hl horigin hcontent => exact .deadLettered hl horigin hcontent
    | queued hm hcontent => exact .queued hm hcontent
    | handled hd hconsumer hcontent hopen => exact .handled hd hconsumer hcontent hopen

/-- Nothing is queued for the consumer or in the hands of its workers. -/
def Drained (c : Consumer) (w : World) : Prop :=
  w.broker.queues c = [] ∧ ∀ d ∈ w.deliveries, d.consumer ≠ c

instance (c : Consumer) (w : World) : Decidable (w.Drained c) := by
  unfold Drained
  infer_instance

/-- Once the queue is drained, the event has come to an end. -/
lemma Accounted.drained (hw : w.Accounted c x) (hdrained : w.Drained c) :
    (x.1, c) ∈ w.db.processedEvents.keys ∨
      ∃ l ∈ w.broker.deadLetters, l.originQueue = c ∧ l.event.content = x := by
  cases hw with
  | processed hk => exact .inl hk
  | deadLettered hl horigin hcontent => exact .inr ⟨_, hl, horigin, hcontent⟩
  | queued hm _ =>
    rw [hdrained.1] at hm
    cases hm
  | handled hd hconsumer _ _ => exact absurd hconsumer (hdrained.2 _ hd)

lemma queued_of_confirmed {m : Message} (hm : m ∈ w.confirmed e) (hdeclared : w.DeclaredFirst cfg e)
    (hbound : c.bound m.event.routingKey) (h : step cfg w e = some w') :
    m ∈ w'.broker.queues c := by
  obtain ⟨hd, hexchange⟩ := hdeclared (by rw [Option.mem_def.mp hm]; rfl)
  rw [broker_of_confirmed hm h]
  simp [Broker.route, hd, hexchange, hbound]

/-- In a run in which the worker has connected by the time the broker confirms a publish, and
workers of the consumer meet true duplicates only, a dispatched event it subscribes to is accounted
for. -/
theorem dispatched_accounted {organizations : Table Organization} {users : Table User} {n : Nat}
    {es : List Event} (h : exec (step cfg) (initial organizations users n) es = some w)
    (hguarded : Guarded (step cfg) (fun w e => w.DeclaredFirst cfg e ∧ w.TrueDuplicates c e)
      (initial organizations users n) es) {r : EventOutbox} (hr : r ∈ w.db.outbox.rows)
    (hstatus : r.status = .dispatched) (hbound : c.bound r.routingKey) :
    w.Accounted c r.content := by
  have key := exec_guarded_invariant (step cfg)
    (I := fun w => w.Sourced ∧ w.Backed fun x => c.bound x.2.1.routingKey → w.Accounted c x) ?_
    ⟨sourced_initial organizations users n, backed_initial organizations users n⟩ hguarded h
  · exact key.2.dispatched r hr hstatus (r.key_eq ▸ hbound)
  · rintro s e t ⟨hs, hb⟩ ⟨hdeclared, hunique⟩ ht
    refine ⟨(step_cases ht).sourced hs, backed_of_step hs hb ht (fun x hx hbound => ?_)
      fun m hm hbound => ?_⟩
    · exact (hx hbound).of_step ht hunique
    · exact .queued (queued_of_confirmed hm hdeclared (m.event.key_eq ▸ hbound) ht) rfl

/-! ### Runs without failures -/

/-- The condition on a step: a worker of this consumer meets no error. -/
def Unfailing (c : Consumer) (w : World) : Event → Prop
  | .consume i a => ∀ d ∈ w.deliveries[i]?, d.consumer = c → d.raises w.db a = none
  | _ => True

instance (c : Consumer) (w : World) (e : Event) : Decidable (w.Unfailing c e) := by
  unfold Unfailing
  split <;> infer_instance

lemma Unfailing.trueDuplicates (h : w.Unfailing c e) : w.TrueDuplicates c e := by
  unfold TrueDuplicates
  split
  · next i a =>
    intro d hd hconsumer error herror
    rw [h d hd hconsumer] at herror
    cases herror
  · trivial

/-- No delivery of this consumer has failed. -/
structure Unfailed (c : Consumer) (w : World) : Prop where
  deliveries : ∀ d ∈ w.deliveries, d.consumer = c → ∀ error, d.phase ≠ .failed error
  deadLetters : ∀ l ∈ w.broker.deadLetters, l.originQueue ≠ c

lemma unfailed_initial (organizations : Table Organization) (users : Table User) (n : Nat) :
    (initial organizations users n).Unfailed c where
  deliveries _ hd := by cases hd
  deadLetters _ hl := by cases hl

theorem Unfailed.of_step (h : step cfg w e = some w') (hunfailing : w.Unfailing c e)
    (hw : w.Unfailed c) : w'.Unfailed c := by
  cases e with
  | consume i a =>
    obtain ⟨d, d', hd, hexec, hdeliveries⟩ := consume_cases h
    have hmem := List.mem_of_getElem? hd
    have hstep (hconsumer : d.consumer = c) :=
      Delivery.exec_unfailing hexec (hunfailing d hd hconsumer) (hw.deliveries d hmem hconsumer)
    refine ⟨fun d₁ hd₁ hconsumer => ?_, fun l hl horigin => ?_⟩
    · rw [hdeliveries] at hd₁
      cases d' with
      | none => exact hw.deliveries d₁ (List.mem_of_mem_eraseIdx hd₁) hconsumer
      | some d₂ =>
        rcases List.mem_or_eq_of_mem_set hd₁ with hd₁ | rfl
        · exact hw.deliveries d₁ hd₁ hconsumer
        · have hsame := (Delivery.exec_cases hexec).consumer
          exact (hstep (hsame.symm.trans hconsumer)).2 d₁ rfl
    · rcases Delivery.exec_deadLetters hexec hl with hold | hnew
      · exact hw.deadLetters l hold horigin
      · rw [(hstep (hnew.symm.trans horigin)).1] at hl
        exact hw.deadLetters l hl horigin
  | relay i a =>
    obtain ⟨-, hletters, hdeliveries⟩ := relay_broker h
    exact ⟨hdeliveries ▸ hw.deliveries, hletters ▸ hw.deadLetters⟩
  | deliver worker queue k =>
    have hsteps := step_cases h
    clear h
    cases hsteps with
    | deliver h =>
      refine ⟨fun d hd hconsumer error herror => ?_, ?_⟩
      · rcases List.mem_append.mp hd with hd | hd
        · exact hw.deliveries d hd hconsumer error herror
        · obtain rfl := List.mem_singleton.mp hd
          cases herror
      · rw [Broker.deadLetters_of_take? h]
        exact hw.deadLetters
  | redeliver i =>
    have hsteps := step_cases h
    clear h
    cases hsteps with
    | @redeliver _ d₀ hd _ =>
      refine ⟨fun d hd' hconsumer => ?_, hw.deadLetters⟩
      rcases List.mem_or_eq_of_mem_set hd' with hd' | rfl
      · exact hw.deliveries d hd' hconsumer
      · exact hw.deliveries d₀ (List.mem_of_getElem? hd) hconsumer
  | crash worker =>
    have hsteps := step_cases h
    clear h
    cases hsteps
    refine ⟨fun d hd => hw.deliveries d (List.mem_of_mem_filter hd), ?_⟩
    rw [deadLetters_giveBack]
    exact hw.deadLetters
  | arrive | proceed | connect =>
    have hsteps := step_cases h
    clear h
    cases hsteps
    exact ⟨hw.deliveries, hw.deadLetters⟩

end World

end SupportPlatform
