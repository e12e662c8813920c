import SupportPlatform.Messaging.Dispatch
import SupportPlatform.Platform.AtMostOnce

/-!
# Dispatched events and their subscribers

The relay marks a row DISPATCHED once the broker has confirmed the message. The exchange also
confirms a message that no queue is bound for. The queues are declared by the worker, which binds
them to one exchange, whatever exchange the relay is configured with. So a dispatched event has been
routed to its subscribers if by the time of the publish the worker had connected, and the relay
published to the exchange of the worker.
-/

namespace SupportPlatform

lemma Call.Writes.outbox {env : Env} {db db' : Db} {call : Call} (h : Call.Writes env db call db') :
    ∃ new, db'.outbox.rows = db.outbox.rows ++ new ∧
      ∀ r ∈ new, r.status = .pending ∧ r.createdAt = env.now := by
  cases h with
  | ticketsCreate _ ho _ _ | ticketsAssign _ ho _ _ | commentsCreate _ ho _ _ =>
    refine ⟨_, ho, fun r hr => ?_⟩
    obtain rfl := List.mem_singleton.mp hr
    exact ⟨rfl, rfl⟩
  | ticketsUpdate _ ho _ =>
    refine ⟨_, ho, fun r hr => ?_⟩
    rcases List.mem_cons.mp hr with rfl | hr
    · exact ⟨rfl, rfl⟩
    · split at hr
      · obtain rfl := List.mem_singleton.mp hr
        exact ⟨rfl, rfl⟩
      · cases hr
  | _ => exact ⟨[], (List.append_nil _).symm, fun _ hr => by cases hr⟩

lemma Call.Executes.outbox {env : Env} {db db' : Db} {call call' : Call}
    (h : Call.Executes env db call db' call') :
    ∃ new, db'.outbox.rows = db.outbox.rows ++ new ∧
      ∀ r ∈ new, r.status = .pending ∧ r.createdAt = env.now := by
  cases h with
  | wrote h => exact h.outbox
  | _ => exact ⟨[], (List.append_nil _).symm, fun _ hr => by cases hr⟩

namespace World

open Machine OutboxRelayService

variable {cfg : Config} {w w' : World} {e : Event} {P P' : Uuid × Payload × Option String → Prop}

/-- The message whose publish the broker confirms in this step. -/
def confirmed (w : World) : Event → Option Message
  | .relay i (.proceed k env .accepted) =>
    match w.relays[i]?.bind (·.ticks[k]?) with
    | some (.publishing row _) => some (messageOf env row)
    | _ => none
  | _ => none

/-- The messages a publish to the exchange adds to the queue of a consumer. -/
def routed (c : Consumer) (w : World) (e : Event) (w' : World) : List Message :=
  match e with
  | .relay _ _ => (w'.broker.queues c).drop (w.broker.queues c).length
  | _ => []

/-- The condition on a step: when the broker confirms a publish, the worker has connected and bound
its queues to the exchange of the publish. -/
def DeclaredFirst (cfg : Config) (w : World) (e : Event) : Prop :=
  (w.confirmed e).isSome → w.broker.declared ∧ cfg.exchange = EXCHANGE

instance (cfg : Config) (w : World) (e : Event) : Decidable (w.DeclaredFirst cfg e) :=
  inferInstanceAs (Decidable ((w.confirmed e).isSome → w.broker.declared ∧ cfg.exchange = EXCHANGE))

/-- A row that is dispatched, or about to be marked so, has the property `P`. -/
structure Backed (w : World) (P : Uuid × Payload × Option String → Prop) : Prop where
  dispatched : ∀ r ∈ w.db.outbox.rows, r.status = .dispatched → P r.content
  marking : ∀ p ∈ w.relays, ∀ row rest, .marking row rest ∈ p.ticks → P row.content

lemma backed_initial (organizations : Table Organization) (users : Table User) (n : Nat) :
    (initial organizations users n).Backed P where
  dispatched _ hr := by cases hr
  marking p hp _ _ ht := by
    obtain rfl := List.eq_of_mem_replicate hp
    cases ht

/-- A step of a relay, with the tick it moves. -/
lemma relay_cases {i : Nat} {a : RelayAction} (h : step cfg w (.relay i a) = some w') :
    ∃ p p', w.relays[i]? = some p ∧
      w' = { w with db := w'.db, broker := w'.broker, relays := w.relays.set i p' } ∧
      ((w'.db = w.db ∧ w'.broker = w.broker ∧ ∀ t ∈ p'.ticks, t ∈ p.ticks ∨ t = .polling) ∨
        ∃ k env publish tick tick', a = .proceed k env publish ∧ p.ticks[k]? = some tick ∧
          Dispatches cfg env w.db w.broker publish tick w'.db w'.broker tick' ∧
          ∀ t ∈ p'.ticks, t ∈ p.ticks ∨ t ∈ tick') := by
  obtain ⟨p, hp, h⟩ := Option.bind_eq_some_iff.mp h
  obtain ⟨⟨db, broker, p'⟩, hstep, rfl⟩ := Option.map_eq_some_iff.mp h
  exact ⟨p, p', hp, rfl, step_dispatches hstep⟩

/-- A row that a relay holds is the row of the outbox under its id, as far as its event goes. -/
lemma content_eq_of_held {db : Db} {row r : EventOutbox} (hrow : row.content ∈ db.log)
    (hr : r ∈ db.outbox.rows) (hid : r.id = row.id) : r.content = row.content := by
  obtain ⟨a, ha, hcontent⟩ := List.mem_map.mp hrow
  have haid : a.id = row.id := congrArg (·.1) hcontent
  obtain rfl := db.outbox.eq_of_key_eq hr ha (hid.trans haid.symm)
  exact hcontent

lemma next_ne_marking {rows rest : List EventOutbox} {row : EventOutbox} :
    Tick.next rows ≠ some (.marking row rest) := by
  cases rows <;> simp [Tick.next]

/-- What is marked, a confirmed publish has led to. -/
lemma backed_of_dispatches {env : Env} {publish : PublishOutcome} {db db' : Db}
    {broker broker' : Broker} {tick : Tick} {tick' : Option Tick}
    (h : Dispatches cfg env db broker publish tick db' broker' tick')
    (hheld : ∀ r ∈ tick.rows, r.content ∈ db.log)
    (hdispatched : ∀ r ∈ db.outbox.rows, r.status = .dispatched → P r.content)
    (hmarking : ∀ row rest, tick = .marking row rest → P row.content)
    (hmono : ∀ x, P x → P' x)
    (hconfirmed : ∀ row rest, tick = .publishing row rest → publish = .accepted →
      P' row.content) :
    (∀ r ∈ db'.outbox.rows, r.status = .dispatched → P' r.content) ∧
      ∀ row rest, tick' = some (.marking row rest) → P' row.content := by
  have hold : ∀ r ∈ db.outbox.rows, r.status = .dispatched → P' r.content :=
    fun r hr hstatus => hmono _ (hdispatched r hr hstatus)
  cases h with
  | polled => exact ⟨hold, fun _ _ ht => absurd ht next_ne_marking⟩
  | confirmed =>
    refine ⟨hold, fun row rest ht => ?_⟩
    cases ht
    exact hconfirmed _ _ rfl rfl
  | @marked _ row rest =>
    refine ⟨fun r hr hstatus => ?_, fun _ _ ht => absurd ht next_ne_marking⟩
    obtain ⟨a, ha, rfl⟩ := List.mem_map.mp hr
    split at hstatus
    · next hid =>
      have hcontent := content_eq_of_held (hheld row List.mem_cons_self) ha (of_decide_eq_true hid)
      rw [if_pos hid]
      exact hmono _ (hcontent ▸ hmarking row rest rfl)
    · next hid =>
      rw [if_neg hid]
      exact hold a ha hstatus
  | recorded =>
    refine ⟨fun r hr hstatus => ?_, fun _ _ ht => absurd ht next_ne_marking⟩
    obtain ⟨a, ha, rfl⟩ := List.mem_map.mp hr
    split at hstatus
    · simp only [failed] at hstatus
      split at hstatus <;> cases hstatus
    · next hid =>
      rw [if_neg hid]
      exact hold a ha hstatus
  | unpolled | unrecorded => exact ⟨hold, fun _ _ ht => by cases ht⟩
  | refused | unconfirmed | unmarked => exact ⟨hold, fun _ _ ht => by cases ht⟩

/-- A step keeps dispatched and marked rows in `P`, if a confirmed publish leads to `P`. -/
theorem backed_of_step (hs : w.Sourced) (hw : w.Backed P) (h : step cfg w e = some w')
    (hmono : ∀ x, P x → P' x) (hconfirmed : ∀ m ∈ w.confirmed e, P' m.event.content) :
    w'.Backed P' := by
  have hold : ∀ p ∈ w.relays, ∀ row rest, .marking row rest ∈ p.ticks → P' row.content :=
    fun p hp row rest ht => hmono _ (hw.marking p hp row rest ht)
  cases e with
  | relay i a =>
    obtain ⟨p, p', hp, heq, hcases⟩ := relay_cases h
    have hmem := List.mem_of_getElem? hp
    -- only the moved tick may have become one that marks
    have hnew : (∀ r ∈ w'.db.outbox.rows, r.status = .dispatched → P' r.content) ∧
        ∀ row rest, .marking row rest ∈ p'.ticks → P' row.content := by
      rcases hcases with ⟨hdb, -, hticks⟩ | ⟨k, env, publish, tick, tick', rfl, htick, hd, hticks⟩
      · refine ⟨fun r hr hstatus => ?_, fun row rest ht => ?_⟩
        · exact hmono _ (hw.dispatched r (hdb ▸ hr) hstatus)
        · rcases hticks _ ht with ht | ht
          · exact hold p hmem row rest ht
          · cases ht
      · have htickmem := List.mem_of_getElem? htick
        obtain ⟨hrows, hmarked⟩ := backed_of_dispatches hd (hs.held p hmem tick htickmem)
          hw.dispatched (fun row rest ht => hw.marking p hmem row rest (ht ▸ htickmem)) hmono
          fun row rest ht hpublish => by
            subst ht hpublish
            exact hconfirmed (messageOf env row) (by simp [confirmed, hp, htick])
        refine ⟨hrows, fun row rest ht => ?_⟩
        rcases hticks _ ht with ht | ht
        · exact hold p hmem row rest ht
        · exact hmarked row rest ht
    refine ⟨hnew.1, fun q hq row rest ht => ?_⟩
    rw [heq] at hq
    rcases List.mem_or_eq_of_mem_set hq with hq | rfl
    · exact hold q hq row rest ht
    · exact hnew.2 row rest ht
  | proceed i env =>
    have hsteps := step_cases h
    clear h
    cases hsteps with
    | proceed _ h =>
      obtain ⟨new, hrows, hpending⟩ := h.outbox
      refine ⟨fun r hr hstatus => ?_, hold⟩
      rcases List.mem_append.mp (hrows ▸ hr) with hr | hr
      · exact hmono _ (hw.dispatched r hr hstatus)
      · rw [(hpending r hr).1] at hstatus
        cases hstatus
  | consume i a =>
    have hsteps := step_cases h
    clear h
    cases hsteps with
    | consume _ h | finish _ h =>
      exact ⟨fun r hr hstatus => hmono _ (hw.dispatched r (h.outbox ▸ hr) hstatus), hold⟩
  | arrive | connect | deliver | redeliver | crash =>
    have hsteps := step_cases h
    clear h
    cases hsteps
    exact ⟨fun r hr hstatus => hmono _ (hw.dispatched r hr hstatus), hold⟩

/-- A confirmed publish is a message routed to the exchange. -/
lemma broker_of_confirmed {m : Message} (hm : m ∈ w.confirmed e)
    (h : step cfg w e = some w') :
    w' = { w with broker := w.broker.route cfg.exchange m, relays := w'.relays } := by
  unfold confirmed at hm
  split at hm
  · next i k env =>
    split at hm
    · next row rest hp =>
      obtain ⟨p, hp, htick⟩ := Option.bind_eq_some_iff.mp hp
      obtain rfl := Option.some.inj hm
      simp only [step, hp, Option.bind_some, OutboxRelayService.step, htick, Option.map_some] at h
      obtain rfl := Option.some.inj h
      rfl
    · cases hm
  · cases hm

lemma routed_of_confirmed {c : Consumer} {m : Message} (hm : m ∈ w.confirmed e)
    (hdeclared : w.DeclaredFirst cfg e) (hbound : c.bound m.event.routingKey)
    (h : step cfg w e = some w') : m ∈ routed c w e w' := by
  obtain ⟨hd, hexchange⟩ := hdeclared (by rw [Option.mem_def.mp hm]; rfl)
  rw [broker_of_confirmed hm h]
  unfold confirmed at hm
  split at hm
  · simp [routed, Broker.route, hd, hexchange, hbound]
  · cases hm

/-- In every run in which the worker has connected by the time the broker confirms a publish, and
has bound its queues to the exchange of the publish, a copy of the event of a DISPATCHED row has
been routed to the queue of every consumer that subscribes to its key. -/
theorem dispatched_routed (cfg : Config) (organizations : Table Organization) (users : Table User)
    (n : Nat) {es : List Event} {w : World}
    (h : exec (step cfg) (initial organizations users n) es = some w)
    (hdeclared : Guarded (step cfg) (DeclaredFirst cfg) (initial organizations users n) es) :
    ∀ r ∈ w.db.outbox.rows, r.status = .dispatched → ∀ c : Consumer, c.bound r.routingKey →
      ∃ m ∈ collect (step cfg) (routed c) (initial organizations users n) es,
        m.event.content = r.content := by
  intro r hr hstatus c hbound
  have key := exec_guarded_collect_invariant (step cfg) (f := routed c)
    (I := fun w l => w.Sourced ∧ w.Backed fun x =>
      c.bound x.2.1.routingKey → ∃ m ∈ l, m.event.content = x) ?_
    ⟨sourced_initial organizations users n, backed_initial organizations users n⟩ hdeclared h
    (l := [])
  · exact key.2.dispatched r hr hstatus (r.key_eq ▸ hbound)
  · rintro s e t l ⟨hs, hb⟩ hdeclared ht
    refine ⟨(step_cases ht).sourced hs, backed_of_step hs hb ht (fun x hx hbound => ?_)
      fun m hm hbound => ?_⟩
    · obtain ⟨m, hm, hcontent⟩ := hx hbound
      exact ⟨m, List.mem_append_left _ hm, hcontent⟩
    · have hkey : c.bound m.event.routingKey := m.event.key_eq ▸ hbound
      exact ⟨m, List.mem_append_right _ (routed_of_confirmed hm hdeclared hkey ht), rfl⟩

/-- A ticket is created and its event published, as soon as a worker has connected or without
any. -/
def startupRun (connects : List Event) : List Event :=
  [.arrive (some 12) none (.createTicket Seed.ticketDto), .proceed 0 (Seed.env 1)] ++ connects ++
    [.relay 0 .tick, .relay 0 (.proceed 0 (Seed.env 2) .accepted),
      .relay 0 (.proceed 0 (Seed.env 3) .accepted), .relay 0 (.proceed 0 (Seed.env 4) .accepted)]

theorem dispatched_routed_connected :
    ∃ w, exec (step .default) (initial Seed.organizations Seed.users 1) (startupRun [.connect]) =
        some w ∧
      (∃ r ∈ w.db.outbox.rows, r.status = .dispatched) ∧
      ∀ r ∈ w.db.outbox.rows, r.status = .dispatched →
        ∀ c : Consumer, c.bound r.routingKey →
          ∃ m ∈ collect (step .default) (routed c) (initial Seed.organizations Seed.users 1)
            (startupRun [.connect]), m.event.content = r.content := by
  have hrun : (exec (step .default) (initial Seed.organizations Seed.users 1)
      (startupRun [.connect])).any fun w =>
        ∃ r ∈ w.db.outbox.rows, r.status = .dispatched := by decide
  obtain ⟨w, hw, hrow⟩ := exists_of_any hrun
  exact ⟨w, hw, hrow,
    dispatched_routed .default Seed.organizations Seed.users 1 hw (by decide)⟩

/-- Nothing makes the relay wait for the worker. -/
theorem dispatched_unrouted :
    ¬ ∀ cfg organizations users n es w,
      exec (step cfg) (initial organizations users n) es = some w →
        ∀ r ∈ w.db.outbox.rows, r.status = .dispatched → ∀ c : Consumer, c.bound r.routingKey →
          ∃ m ∈ collect (step cfg) (routed c) (initial organizations users n) es,
            m.event.content = r.content := by
  intro hall
  have hrun : (exec (step .default) (initial Seed.organizations Seed.users 1)
      (startupRun [])).any fun w =>
        ∃ r ∈ w.db.outbox.rows, r.status = .dispatched := by decide
  obtain ⟨w, hw, r, hr, hstatus⟩ := exists_of_any hrun
  obtain ⟨m, hm, -⟩ := hall _ _ _ _ _ w hw r hr hstatus .audit rfl
  have hnone : collect (step .default) (routed .audit) (initial Seed.organizations Seed.users 1)
      (startupRun []) = [] := by decide
  rw [hnone] at hm
  cases hm

end World

end SupportPlatform
