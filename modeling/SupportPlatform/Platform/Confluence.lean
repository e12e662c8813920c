import SupportPlatform.Consumers.Commutation
import SupportPlatform.Platform.AuditTrail

/-!
# Order and duplicates

Workers that handle the same events, in two runs, with the same tickets and on the same day: however
the deliveries are ordered, repeated and interleaved, the idempotency table lets each projection
through once, the projections are the same in both runs, and their writes commute.
-/

namespace SupportPlatform

open AnalyticsConsumer (startOfUtcDay)

/-! ### What a projection depends on -/

/-- An event with this content. -/
def DomainEvent.ofContent (x : Uuid × Payload × Option String) : DomainEvent where
  eventId := x.1
  routingKey := x.2.1.routingKey
  occurredAt := 0
  correlationId := x.2.2
  payload := x.2.1
  key_eq := rfl

/-- What a consumer makes of an event on a day, with the tickets as they are. -/
def Consumer.effect (tickets : Table Ticket) (day : Nat) (x : Uuid × Payload × Option String) :
    Consumer → Projection
  | .notification => NotificationConsumer.plan { Db.empty with tickets } (.ofContent x)
  | .audit => AuditConsumer.plan (.ofContent x)
  | .analytics =>
    match x.2.1.metric? with
    | some (organizationId, field) => .count organizationId day field
    | none => .skip

lemma Consumer.plan_eq_effect (env : Env) (db : Db) (event : DomainEvent) (c : Consumer) :
    c.plan env db event = c.effect db.tickets (startOfUtcDay env.now) event.content := by
  cases c with
  | notification => rfl
  | audit =>
    obtain ⟨_, _, _, _, _, rfl⟩ := event
    rfl
  | analytics => exact AnalyticsConsumer.plan_eq env event

/-- The notifications, the audit rows and the metrics are equal as multisets, but for generated ids
and timestamps. -/
def Db.SameProjections (db db' : Db) : Prop :=
  (db.notifications.rows.map Notification.shown).Perm
      (db'.notifications.rows.map Notification.shown) ∧
    (db.auditLogs.rows.map AuditLog.shown).Perm (db'.auditLogs.rows.map AuditLog.shown) ∧
    db.ticketMetrics.rows.Perm db'.ticketMetrics.rows

lemma Db.sameProjections_of_shown {db db' : Db} (h : db.shown = db'.shown) :
    db.SameProjections db' := by
  refine ⟨Multiset.coe_eq_coe.mp (congrArg Shown.notifications h),
    Multiset.coe_eq_coe.mp (congrArg Shown.auditLogs h), ?_⟩
  have hfind : ∀ k, db.ticketMetrics.find? k = db'.ticketMetrics.find? k :=
    congrFun (congrArg Shown.metrics h)
  refine (List.perm_ext_iff_of_nodup db.ticketMetrics.nodup_rows db'.ticketMetrics.nodup_rows).mpr
    fun m => ?_
  constructor
  · intro hm
    exact (Table.find?_eq_some.mp (hfind _ ▸ Table.find?_self hm)).1
  · intro hm
    exact (Table.find?_eq_some.mp (hfind _ ▸ Table.find?_self hm)).1

/-! ### Workers -/

/-- A step of a worker or its channel. -/
def Event.isWorker : Event → Bool
  | .deliver _ _ _ | .consume _ _ | .redeliver _ | .crash _ => true
  | _ => false

/-- If the step projects an event, it does so on this day. -/
def Event.OnDay (day : Nat) : Event → Prop
  | .consume _ (.project env) => startOfUtcDay env.now = day
  | _ => True

instance (day : Nat) (e : Event) : Decidable (e.OnDay day) := by
  unfold Event.OnDay
  split <;> infer_instance

namespace World

open Machine

variable {cfg : Config} {w w' : World} {e : Event} {tickets : Table Ticket} {day : Nat}
  {events : List (Uuid × Payload × Option String)}

/-- Nothing but queued deliveries. -/
def delivering (db : Db) (queues : Consumer → List Message) : World where
  db
  calls := []
  relays := []
  broker := ⟨true, queues, []⟩
  deliveries := []

/-- The condition on a step: no projector fails. -/
def NoFailure (w : World) : Event → Prop
  | .consume i a => ∀ d ∈ w.deliveries[i]?, d.raises w.db a = none
  | _ => True

instance (w : World) (e : Event) : Decidable (w.NoFailure e) :=
  match e with
  | .consume i a => inferInstanceAs (Decidable (∀ d ∈ w.deliveries[i]?, d.raises w.db a = none))
  | .arrive .. | .proceed .. | .relay .. | .connect | .deliver .. | .redeliver _ | .crash _ =>
    isTrue trivial

lemma NoFailure.unfailing (h : w.NoFailure e) (c : Consumer) : w.Unfailing c e := by
  unfold Unfailing
  split
  · exact fun d hd _ => h d hd
  · trivial

/-- Only these events are about, and what is planned is their effect. -/
structure Projecting (tickets : Table Ticket) (day : Nat)
    (events : List (Uuid × Payload × Option String)) (w : World) : Prop where
  unchanged : w.db.tickets = tickets
  queued : ∀ c, ∀ m ∈ w.broker.queues c, m.event.content ∈ events
  handled : ∀ d ∈ w.deliveries, d.message.event.content ∈ events
  planned : ∀ d ∈ w.deliveries, ∀ p, d.phase = .planned p →
    p = d.consumer.effect tickets day d.message.event.content

theorem Steps.projecting (h : Steps cfg w e w') (hworker : e.isWorker) (hday : e.OnDay day)
    (hw : w.Projecting tickets day events) : w'.Projecting tickets day events := by
  constructor
  case unchanged =>
    rw [← hw.unchanged]
    cases h with
    | consume _ h | finish _ h => exact h.tickets
    | arrive | proceed | relay | connect => cases hworker
    | _ => rfl
  case queued =>
    intro c m hm
    cases h.enqueued hm with
    | kept hm => exact hw.queued c m hm
    | returned hd hevent => exact hevent ▸ hw.handled _ hd
    | published he =>
      subst he
      cases hworker
  case handled =>
    intro d hd
    cases h.arises hd with
    | kept hold => exact hw.handled d hold
    | received hm => exact hw.queued _ _ hm
    | next _ hget h => exact h.message ▸ hw.handled _ (List.mem_of_getElem? hget)
    | @lost d₀ hold => exact hw.handled d₀ hold
  case planned =>
    intro d hd p hp
    cases h.arises hd with
    | kept hold => exact hw.planned d hold p hp
    | received _ => cases hp
    | next he _ hexec =>
      obtain ⟨env, rfl, rfl⟩ := hexec.planned hp
      subst he
      rw [hexec.message, hexec.consumer, Consumer.plan_eq_effect, hw.unchanged,
        show startOfUtcDay env.now = day from hday]
    | @lost d₀ hold => exact hw.planned d₀ hold p hp

/-- What a committed projection adds to what is shown. -/
def shows (tickets : Table Ticket) (day : Nat) (v : Shown)
    (x : Consumer × (Uuid × Payload × Option String)) : Shown :=
  v.write (x.1.effect tickets day x.2)

/-- The consumer and the content of a committed projection. -/
def effectKey (x : Delivery.Commit) : Consumer × (Uuid × Payload × Option String) :=
  (x.consumer, x.event.content)

/-- What is shown, and which keys are processed, after these commits. -/
structure Told (db₀ : Db) (day : Nat) (events : List (Uuid × Payload × Option String)) (w : World)
    (l : List Delivery.Commit) : Prop where
  shown : w.db.shown = (l.map effectKey).foldl (shows db₀.tickets day) db₀.shown
  keys : w.db.processedEvents.rows.map Keyed.key =
    db₀.processedEvents.rows.map Keyed.key ++ l.map Delivery.Commit.key
  retired : w.db.processedEvents.retired = db₀.processedEvents.retired
  content : ∀ x ∈ l, x.event.content ∈ events

variable {db₀ : Db} {l : List Delivery.Commit}

lemma db_of_commits_nil {db db' : Db} {broker broker' : Broker} {locked : Bool} {d : Delivery}
    {a : DeliveryAction} {d' : Option Delivery}
    (h : d.Executes db broker locked a db' broker' d') (hc : d.commits db a = []) : db' = db := by
  cases h with
  | committed _ hx _ _ =>
    rw [hc] at hx
    cases hx
  | _ => rfl

theorem told_of_step (hworker : e.isWorker) (hw : w.Projecting db₀.tickets day events)
    (hl : w.Told db₀ day events l) (h : step cfg w e = some w') :
    w'.Told db₀ day events (l ++ committed w e w') := by
  have still (hdb : w'.db = w.db) : w'.Told db₀ day events l :=
    ⟨hdb ▸ hl.shown, hdb ▸ hl.keys, hdb ▸ hl.retired, hl.content⟩
  cases e with
  | consume i a =>
    obtain ⟨d, d', hd, hexec, -⟩ := consume_cases h
    have hmem := List.mem_of_getElem? hd
    have hcommitted : committed w (.consume i a) w' = d.commits w.db a := by simp [committed, hd]
    rw [hcommitted]
    cases hc : d.commits w.db a with
    | nil =>
      rw [List.append_nil]
      exact still (db_of_commits_nil (Delivery.exec_cases hexec) hc)
    | cons x xs =>
      have hx : x ∈ d.commits w.db a := hc ▸ List.mem_cons_self
      have hone : x :: xs = [x] := hc ▸ Delivery.commits_eq hx
      obtain ⟨rfl, env, p, processedEvents, hphase, hrow, hwork⟩ :=
        Delivery.commits_cases hexec hx
      have hwrite := Projection.exec_cases hwork
      obtain ⟨-, hrows, hretired⟩ := Table.insert?_eq_some.mp hrow
      rw [hone]
      refine ⟨?_, ?_, ?_, fun y hy => ?_⟩
      · rw [List.map_append, List.foldl_append, ← hl.shown, hwrite.shown,
          hw.planned d hmem p hphase]
        rfl
      · rw [hwrite.processedEvents, hrows, List.map_append, List.map_append, hl.keys,
          List.append_assoc]
        rfl
      · rw [hwrite.processedEvents, hretired, hl.retired]
      · rcases List.mem_append.mp hy with hy | hy
        · exact hl.content y hy
        · obtain rfl := List.mem_singleton.mp hy
          exact hw.handled d hmem
  | deliver | redeliver | crash =>
    have hsteps := step_cases h
    clear h
    cases hsteps
    simpa [committed] using still rfl
  | arrive | proceed | relay | connect => cases hworker

/-- From this database, workers handle deliveries of these events without failures, each at least
once for each consumer, and on one day. The queues give how often, the run gives the order. -/
structure Delivers (cfg : Config) (db : Db) (day : Nat)
    (events : List (Uuid × Payload × Option String)) (queues : Consumer → List Message)
    (es : List Event) (w : World) : Prop where
  queued : ∀ c x, (∃ m ∈ queues c, m.event.content = x) ↔ x ∈ events
  run : exec (step cfg) (delivering db queues) es = some w
  workers : ∀ e ∈ es, e.isWorker
  onDay : ∀ e ∈ es, e.OnDay day
  unfailing : Guarded (step cfg) NoFailure (delivering db queues) es
  drained : ∀ c, w.Drained c

namespace Delivers

variable {db : Db} {queues : Consumer → List Message} {es : List Event}

lemma told (h : Delivers cfg db day events queues es w) :
    w.Told db day events (commits cfg (delivering db queues) es) := by
  have hstart : (delivering db queues).Projecting db.tickets day events :=
    ⟨rfl, fun c m hm => (h.queued c _).mp ⟨m, hm, rfl⟩, fun d hd => (by cases hd),
      fun d hd => by cases hd⟩
  have htold : (delivering db queues).Told db day events [] :=
    ⟨rfl, (List.append_nil _).symm, rfl, fun x hx => by cases hx⟩
  have key := exec_guarded_collect_invariant (step cfg) (f := committed) (l := [])
    (C := fun _ e => e.isWorker ∧ e.OnDay day)
    (I := fun w l => w.Projecting db.tickets day events ∧ w.Told db day events l)
    (fun s e t l hs he ht => ⟨(step_cases ht).projecting he.1 he.2 hs.1,
      told_of_step he.1 hs.1 hs.2 ht⟩) ⟨hstart, htold⟩
    (.of_forall (step cfg) fun e he => ⟨h.workers e he, h.onDay e he⟩) h.run
  exact key.2

/-- Every event has been projected for every consumer in the end. -/
lemma processed (h : Delivers cfg db day events queues es w)
    {x : Uuid × Payload × Option String} (hx : x ∈ events) (c : Consumer) :
    (x.1, c) ∈ w.db.processedEvents.keys := by
  obtain ⟨m, hm, hcontent⟩ := (h.queued c x).mpr hx
  have key := exec_guarded_invariant (step cfg) (I := fun w => w.Accounted c x ∧ w.Unfailed c)
    (fun s e t hs hup ht =>
      have hunfailing := hup.unfailing c
      ⟨hs.1.of_step ht hunfailing.trueDuplicates, hs.2.of_step ht hunfailing⟩)
    ⟨.queued hm hcontent, ⟨fun d hd => (by cases hd), fun l hl => by cases hl⟩⟩ h.unfailing h.run
  rcases key.1.drained (h.drained c) with hk | ⟨l, hl, horigin, -⟩
  · exact hk
  · exact absurd horigin (key.2.deadLetters l hl)

end Delivers

lemma Told.nodup (hl : w.Told db₀ day events l) :
    (l.map effectKey).Nodup ∧ ∀ x ∈ l, x.key ∉ db₀.processedEvents.keys := by
  have hnodup := w.db.processedEvents.nodup
  rw [hl.keys, hl.retired, List.append_assoc] at hnodup
  obtain ⟨-, hrest, hdisjoint⟩ := List.nodup_append.mp hnodup
  obtain ⟨hkeys, -, hdisjoint'⟩ := List.nodup_append.mp hrest
  constructor
  · refine List.Nodup.of_map (fun y => ((y.2.1, y.1) : Uuid × Consumer)) ?_
    rw [List.map_map]
    exact hkeys
  · intro x hx hk
    have hmem : x.key ∈ l.map Delivery.Commit.key := List.mem_map_of_mem hx
    rcases List.mem_append.mp hk with hk | hk
    · exact hdisjoint _ hk _ (List.mem_append_left _ hmem) rfl
    · exact hdisjoint' _ hmem _ hk rfl

/-- Whatever the order, a run commits the projections of the events that were not processed. -/
lemma Delivers.mem_commits {db : Db} {queues : Consumer → List Message} {es : List Event}
    (h : Delivers cfg db day events queues es w)
    (hevents : ∀ x ∈ events, ∀ y ∈ events, x.1 = y.1 → x = y)
    (z : Consumer × (Uuid × Payload × Option String)) :
    z ∈ (commits cfg (delivering db queues) es).map effectKey ↔
      z.2 ∈ events ∧ (z.2.1, z.1) ∉ db.processedEvents.keys := by
  have htold := h.told
  constructor
  · intro hz
    obtain ⟨x, hx, rfl⟩ := List.mem_map.mp hz
    exact ⟨htold.content x hx, htold.nodup.2 x hx⟩
  · rintro ⟨hmem, hfree⟩
    have hk := h.processed hmem z.1
    rw [Table.keys, htold.keys, htold.retired] at hk
    have hcommitted : (z.2.1, z.1) ∈
        (commits cfg (delivering db queues) es).map Delivery.Commit.key := by
      rcases List.mem_append.mp hk with hk | hk
      · exact (List.mem_append.mp hk).resolve_left fun hold =>
          hfree (List.mem_append_left _ hold)
      · exact absurd (List.mem_append_right _ hk) hfree
    obtain ⟨x, hx, hkey⟩ := List.mem_map.mp hcommitted
    obtain ⟨hid, hconsumer⟩ := Prod.mk.inj hkey
    have hcontent : x.event.content = z.2 := hevents _ (htold.content x hx) _ hmem hid
    exact List.mem_map.mpr ⟨x, hx, Prod.ext hconsumer hcontent⟩

/-- Two runs that handle the same events from the same database, each at least once for each
consumer and without failures, in any order, with any duplicates and however the workers interleave,
and on the same day, leave the same projections. -/
theorem projections_confluent (cfg : Config) (db : Db) (day : Nat)
    (events : List (Uuid × Payload × Option String))
    (hevents : ∀ x ∈ events, ∀ y ∈ events, x.1 = y.1 → x = y)
    {queues₁ queues₂ : Consumer → List Message} {es₁ es₂ : List Event} {w₁ w₂ : World}
    (h₁ : Delivers cfg db day events queues₁ es₁ w₁)
    (h₂ : Delivers cfg db day events queues₂ es₂ w₂) : w₁.db.SameProjections w₂.db := by
  have hperm : ((commits cfg (delivering db queues₁) es₁).map effectKey).Perm
      ((commits cfg (delivering db queues₂) es₂).map effectKey) := by
    refine (List.perm_ext_iff_of_nodup h₁.told.nodup.1 h₂.told.nodup.1).mpr fun z => ?_
    rw [h₁.mem_commits hevents, h₂.mem_commits hevents]
  refine Db.sameProjections_of_shown ?_
  rw [h₁.told.shown, h₂.told.shown]
  exact Shown.foldl_write_perm hperm db.shown

/-- The creation of a ticket, in an event with this id. -/
def createdEvent (id : Uuid) : Uuid × Payload × Option String :=
  (id, .ticketCreated ⟨id, "TCK-1", "Cannot log in", .open, .medium, 1, 13, none⟩, none)

/-- Every queue holds deliveries of these creations. -/
def createdQueues (ids : List Uuid) (_ : Consumer) : List Message :=
  ids.map fun id => ⟨.ofContent (createdEvent id), none, some id, none⟩

/-- The first delivery of a queue is handled. -/
def handling (n : Nat) (c : Consumer) : List Event :=
  [.deliver 0 c 0, .consume 0 (.insert (Seed.env n)), .consume 0 (.project (Seed.env n)),
    .consume 0 (.commit (Seed.env n)), .consume 0 .ack]

/-- The first delivery of a queue is a duplicate. -/
def skipping (n : Nat) (c : Consumer) : List Event :=
  [.deliver 0 c 0, .consume 0 (.insert (Seed.env n)), .consume 0 .ack]

/-- One event after the other. -/
def orderedRun : List Event :=
  handling 1 .notification ++ handling 2 .audit ++ handling 3 .analytics ++
    handling 4 .notification ++ handling 5 .audit ++ handling 6 .analytics

/-- One consumer after the other. -/
def duplicatedRun : List Event :=
  handling 1 .analytics ++ handling 2 .analytics ++ skipping 3 .analytics ++
    handling 4 .audit ++ handling 5 .audit ++ skipping 6 .audit ++
    handling 7 .notification ++ handling 8 .notification ++ skipping 9 .notification

theorem projections_confluent_duplicated :
    ∃ w₁ w₂, w₁.db.ticketMetrics.rows = [⟨1, 0, 2, 0, 0⟩] ∧
      exec (step .default)
        (delivering (initial Seed.organizations Seed.users 0).db (createdQueues [501, 502]))
        orderedRun = some w₁ ∧
      exec (step .default)
        (delivering (initial Seed.organizations Seed.users 0).db (createdQueues [502, 501, 502]))
        duplicatedRun = some w₂ ∧ w₁.db.SameProjections w₂.db := by
  have hqueued (ids : List Uuid) (hids : ∀ id, id ∈ ids ↔ id ∈ [501, 502]) (c : Consumer)
      (x : Uuid × Payload × Option String) :
      (∃ m ∈ createdQueues ids c, m.event.content = x) ↔ x ∈ [501, 502].map createdEvent := by
    simp only [createdQueues, List.mem_map, exists_exists_and_eq_and, hids]
    rfl
  have hrun₁ : (exec (step .default)
      (delivering (initial Seed.organizations Seed.users 0).db (createdQueues [501, 502]))
      orderedRun).any fun w => w.db.ticketMetrics.rows = [⟨1, 0, 2, 0, 0⟩] ∧
        ∀ c ∈ [Consumer.notification, .audit, .analytics], w.Drained c := by decide
  have hrun₂ : (exec (step .default)
      (delivering (initial Seed.organizations Seed.users 0).db (createdQueues [502, 501, 502]))
      duplicatedRun).any fun w => ∀ c ∈ [Consumer.notification, .audit, .analytics],
        w.Drained c := by decide
  obtain ⟨w₁, hw₁, hrows, hdrained₁⟩ := exists_of_any hrun₁
  obtain ⟨w₂, hw₂, hdrained₂⟩ := exists_of_any hrun₂
  have hdelivers₁ : Delivers .default (initial Seed.organizations Seed.users 0).db 0
      ([501, 502].map createdEvent) (createdQueues [501, 502]) orderedRun w₁ :=
    ⟨hqueued _ (by simp), hw₁, by decide, by decide, by decide,
      fun c => hdrained₁ c (by cases c <;> decide)⟩
  have hdelivers₂ : Delivers .default (initial Seed.organizations Seed.users 0).db 0
      ([501, 502].map createdEvent) (createdQueues [502, 501, 502]) duplicatedRun w₂ :=
    ⟨hqueued _ (by simp), hw₂, by decide, by decide, by decide,
      fun c => hdrained₂ c (by cases c <;> decide)⟩
  exact ⟨w₁, w₂, hrows, hw₁, hw₂, projections_confluent .default _ 0 _ (by decide) hdelivers₁
    hdelivers₂⟩

end World

end SupportPlatform
