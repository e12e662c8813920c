import SupportPlatform.Consumers.Metrics
import SupportPlatform.Platform.Conservation

/-!
# Daily metrics

The analytics consumer counts an event on the day its worker handles it. So the counters of a day
tell what was committed on that day if every event is handled before midnight, and only then.
-/

namespace SupportPlatform

open AnalyticsConsumer (startOfUtcDay)

/-- The row is of an event that moves this counter, committed on this day. -/
def EventOutbox.counts (organizationId : Uuid) (date : Nat) (field : MetricField)
    (r : EventOutbox) : Bool :=
  r.payload.metric? = some (organizationId, field) && startOfUtcDay r.createdAt = date

namespace Db

/-- How many of the rows that move this counter the analytics consumer has processed. -/
def counted (db : Db) (organizationId : Uuid) (date : Nat) (field : MetricField) : Nat :=
  db.outbox.rows.countP fun r => r.counts organizationId date field &&
    decide ((r.id, Consumer.analytics) ∈ db.processedEvents.keys)

/-- The row is as it was but for the columns the relay writes. -/
def Restamped (r r' : EventOutbox) : Prop :=
  r'.id = r.id ∧ r'.payload = r.payload ∧ r'.createdAt = r.createdAt

/-- The counters move in neither of the two senses, except those of removed organizations. -/
structure KeepsMetrics (db db' : Db) : Prop where
  retired : ∀ o ∈ db.organizations.retired, o ∈ db'.organizations.retired
  metric : ∀ o ∉ db'.organizations.retired, ∀ d f, db'.metric o d f = db.metric o d f
  outbox : ∃ g new, db'.outbox.rows = db.outbox.rows.map g ++ new ∧ ∀ r, Restamped r (g r)
  processed : ∀ k ∈ db'.processedEvents.keys, k ∈ db.processedEvents.keys ∨
    k.2 ≠ .analytics ∧ ∃ r ∈ db.outbox.rows, r.id = k.1
  kept : ∀ k ∈ db.processedEvents.keys, k ∈ db'.processedEvents.keys

/-- Every processed key is of an event in the outbox. -/
def ProcessedSourced (db : Db) : Prop :=
  ∀ k ∈ db.processedEvents.keys, ∃ r ∈ db.outbox.rows, r.id = k.1

variable {db db' : Db}

lemma KeepsMetrics.processed_iff (h : db.KeepsMetrics db') (id : Uuid) :
    (id, .analytics) ∈ db'.processedEvents.keys ↔ (id, .analytics) ∈ db.processedEvents.keys := by
  refine ⟨fun hk => ?_, h.kept _⟩
  rcases h.processed _ hk with hk | ⟨hne, -⟩
  · exact hk
  · exact absurd rfl hne

/-- A row that has been added is under no id of before. -/
lemma fresh_of_append {rows new : List EventOutbox} {g : EventOutbox → EventOutbox}
    (hrows : db'.outbox.rows = rows.map g ++ new) (hg : ∀ r, Restamped r (g r)) {r a : EventOutbox}
    (hr : r ∈ new) (ha : a ∈ rows) : a.id ≠ r.id := by
  have hne := Table.key_ne_of_append hrows (List.mem_map_of_mem ha) hr
  exact fun h => hne ((hg a).1.trans h)

lemma KeepsMetrics.counted (h : db.KeepsMetrics db') (hs : db.ProcessedSourced) (o : Uuid) (d : Nat)
    (f : MetricField) : db'.counted o d f = db.counted o d f := by
  obtain ⟨g, new, hrows, hg⟩ := h.outbox
  have hnew : new.countP (fun r => r.counts o d f &&
      decide ((r.id, Consumer.analytics) ∈ db'.processedEvents.keys)) = 0 := by
    rw [List.countP_eq_zero]
    intro r hr hcounted
    have hk : (r.id, Consumer.analytics) ∈ db'.processedEvents.keys := by simp_all
    obtain ⟨a, ha, hid⟩ := hs _ ((h.processed_iff r.id).mp hk)
    exact fresh_of_append hrows hg hr ha hid
  rw [Db.counted, hrows, List.countP_append, hnew, List.countP_map, Db.counted, Nat.add_zero]
  refine List.countP_congr fun r _ => ?_
  obtain ⟨hid, hpayload, hcreated⟩ := hg r
  simp [EventOutbox.counts, hid, hpayload, hcreated, h.processed_iff]

/-- A processed event of the outbox is one more that counts, where it counts. -/
lemma counted_of_insert {processedEvents : Table ProcessedEvent} {id : Uuid} {now : Time}
    {r : EventOutbox} (hr : r ∈ db.outbox.rows) (hid : r.id = id)
    (hinsert : db.processedEvents.insert? ⟨id, .analytics, now⟩ = some processedEvents)
    (ho : db'.outbox = db.outbox) (hp : db'.processedEvents = processedEvents) (o : Uuid) (d : Nat)
    (f : MetricField) :
    db'.counted o d f = db.counted o d f + if r.counts o d f then 1 else 0 := by
  have hfree : (id, Consumer.analytics) ∉ db.processedEvents.keys :=
    (Table.insert?_eq_some.mp hinsert).1
  have hmem (a : EventOutbox) : (a.id, Consumer.analytics) ∈ db'.processedEvents.keys ↔
      (a.id, Consumer.analytics) ∈ db.processedEvents.keys ∨ a.id = id := by
    rw [hp, Table.mem_keys_insert? hinsert]
    simp
  subst hid
  by_cases hcounts : r.counts o d f
  · rw [if_pos hcounts, Db.counted, ho, ← Table.countP_ne db.outbox hr (by simp [hcounts, hmem]),
      Db.counted]
    congr 1
    refine List.countP_congr fun a _ => ?_
    by_cases ha : a.id = r.id
    · simp [ha, hfree]
    · simp [ha, hmem]
  · rw [if_neg hcounts, Db.counted, ho, Db.counted, Nat.add_zero]
    refine List.countP_congr fun a ha => ?_
    by_cases haid : a.id = r.id
    · obtain rfl := db.outbox.eq_of_key_eq ha hr haid
      simp [hcounts]
    · simp [haid, hmem]

lemma KeepsMetrics.of_eq {new : List EventOutbox} (hm : db'.ticketMetrics = db.ticketMetrics)
    (ho : db'.organizations.retired = db.organizations.retired)
    (hrows : db'.outbox.rows = db.outbox.rows ++ new)
    (hp : db'.processedEvents = db.processedEvents) : db.KeepsMetrics db' where
  retired o hr := ho ▸ hr
  metric o _ d f := by simp only [Db.metric, hm]
  outbox := ⟨id, new, by rw [hrows, List.map_id], fun _ => ⟨rfl, rfl, rfl⟩⟩
  processed k hk := .inl (hp ▸ hk)
  kept k hk := hp ▸ hk

lemma KeepsMetrics.modifyOutbox {k : Uuid} {g : EventOutbox → EventOutbox}
    {hg : ∀ r, (g r).id = r.id} (h : ∀ r, Restamped r (g r)) :
    db.KeepsMetrics { db with outbox := db.outbox.modify k g hg } where
  retired _ hr := hr
  metric _ _ _ _ := rfl
  outbox := by
    refine ⟨fun r => if Keyed.key r = k then g r else r, [], ?_, fun r => ?_⟩
    · simp [Table.modify]
    · dsimp only
      split
      · exact h r
      · exact ⟨rfl, rfl, rfl⟩
  processed _ hk := .inl hk
  kept _ hk := hk

/-- The counters of other organizations survive the removal of one. -/
lemma metric_dropOrganization {id o : Uuid} (hne : o ≠ id) (d : Nat) (f : MetricField) :
    (db.dropOrganization id).metric o d f = db.metric o d f := by
  unfold metric
  congr 1
  ext b
  simp only [dropOrganization, Table.column_eq_some, Table.rows_removeWhere, List.mem_filter]
  constructor
  · rintro ⟨r, ⟨hr, -⟩, hkey, hb⟩
    exact ⟨r, hr, hkey, hb⟩
  · rintro ⟨r, hr, hkey, hb⟩
    have horg : r.organizationId = o := congrArg Prod.fst hkey
    exact ⟨r, ⟨hr, by simp [horg, hne]⟩, hkey, hb⟩

lemma KeepsMetrics.dropOrganization {id : Uuid} (hid : (db.organizations.find? id).isSome) :
    db.KeepsMetrics (db.dropOrganization id) where
  retired o hr := (mem_retired_dropOrganization hid).mpr (.inr hr)
  metric o ho d f := by
    have hne : o ≠ id := fun heq => ho ((mem_retired_dropOrganization hid).mpr (.inl heq))
    exact metric_dropOrganization hne d f
  outbox := ⟨fun r => r, [], by simp [Db.dropOrganization], fun _ => ⟨rfl, rfl, rfl⟩⟩
  processed _ hk := .inl hk
  kept _ hk := hk

end Db

lemma Call.keepsMetrics {env : Env} {db db' : Db} {call call' : Call}
    (h : exec env db call = (db', call')) : db.KeepsMetrics db' := by
  obtain ⟨new, hrows, -⟩ := (exec_cases h).outbox
  cases exec_cases h with
  | wrote hw =>
    cases hw with
    | organizationsRemove _ _ => exact .dropOrganization (removed_isSome h)
    | organizationsCreate hi => exact .of_eq rfl (Table.insert?_eq_some.mp hi).2.2 hrows rfl
    | _ => exact .of_eq rfl rfl hrows rfl
  | _ => exact .of_eq rfl rfl hrows rfl

lemma OutboxRelayService.Dispatches.keepsMetrics {cfg : Config} {env : Env}
    {publish : PublishOutcome} {db db' : Db} {broker broker' : Broker} {tick : Tick}
    {tick' : Option Tick} (h : Dispatches cfg env db broker publish tick db' broker' tick') :
    db.KeepsMetrics db' := by
  cases h with
  | marked | recorded => exact .modifyOutbox fun _ => ⟨rfl, rfl, rfl⟩
  | _ => exact .of_eq rfl rfl (List.append_nil _).symm rfl

lemma Projection.Writes.outbox {env : Env} {db db' : Db} {p : Projection}
    (h : p.Writes env db db') : db'.outbox = db.outbox ∧ db'.organizations = db.organizations := by
  cases h <;> exact ⟨rfl, rfl⟩

/-! ### One delivery -/

namespace Db

variable {db db' : Db}

/-- Counters and counts agree, except for removed organizations. -/
def Metered (db : Db) : Prop :=
  ∀ o ∉ db.organizations.retired, ∀ d f, db.metric o d f = db.counted o d f

lemma Metered.keep (hm : db.Metered) (hs : db.ProcessedSourced) (h : db.KeepsMetrics db') :
    db'.Metered := by
  intro o ho d f
  rw [h.metric o ho, h.counted hs]
  exact hm o (fun hr => ho (h.retired o hr)) d f

lemma KeepsMetrics.processedSourced (h : db.KeepsMetrics db') (hs : db.ProcessedSourced) :
    db'.ProcessedSourced := by
  obtain ⟨g, new, hrows, hg⟩ := h.outbox
  have keep : ∀ r ∈ db.outbox.rows, ∃ r' ∈ db'.outbox.rows, r'.id = r.id := fun r hr =>
    ⟨g r, hrows ▸ List.mem_append_left _ (List.mem_map_of_mem hr), (hg r).1⟩
  intro k hk
  have hold : ∃ r ∈ db.outbox.rows, r.id = k.1 := by
    rcases h.processed k hk with hk | ⟨-, hr⟩
    · exact hs k hk
    · exact hr
  obtain ⟨r, hr, hid⟩ := hold
  obtain ⟨r', hr', hid'⟩ := keep r hr
  exact ⟨r', hr', hid'.trans hid⟩

/-- The row of the outbox whose event this is. -/
lemma row_of_content {event : DomainEvent} (h : event.content ∈ db.log) :
    ∃ r ∈ db.outbox.rows, r.id = event.eventId ∧ r.payload = event.payload := by
  obtain ⟨r, hr, hcontent⟩ := List.mem_map.mp h
  exact ⟨r, hr, congrArg (·.1) hcontent, congrArg (·.2.1) hcontent⟩

end Db

namespace Delivery

variable {db db' : Db} {broker broker' : Broker} {locked : Bool} {d : Delivery}
  {a : DeliveryAction} {d' : Option Delivery}

/-- What the analytics consumer plans for a delivery is for the day of its outbox row. -/
def OnDay (db : Db) (d : Delivery) : Prop :=
  d.consumer = .analytics → ∀ p, d.phase = .planned p →
    ∃ env, p = AnalyticsConsumer.plan env d.message.event ∧
      ∀ r ∈ db.outbox.rows, r.id = d.message.event.eventId →
        startOfUtcDay r.createdAt = startOfUtcDay env.now

lemma OnDay.keep (hd : d.OnDay db) (h : db.KeepsMetrics db')
    (hlog : d.message.event.content ∈ db.log) : d.OnDay db' := by
  intro hc p hp
  obtain ⟨env, hplan, hday⟩ := hd hc p hp
  obtain ⟨g, new, hrows, hg⟩ := h.outbox
  obtain ⟨a, ha, haid, -⟩ := Db.row_of_content hlog
  refine ⟨env, hplan, fun r hr hid => ?_⟩
  rw [hrows] at hr
  rcases List.mem_append.mp hr with hr | hr
  · obtain ⟨b, hb, rfl⟩ := List.mem_map.mp hr
    rw [(hg b).2.2]
    exact hday b hb ((hg b).1.symm.trans hid)
  · exact absurd (haid.trans hid.symm) (Db.fresh_of_append hrows hg hr ha)

/-- A commit of the analytics consumer moves a counter and the count of its row alike. -/
lemma metered_of_commit {env env₀ : Env} {event : DomainEvent}
    {processedEvents : Table ProcessedEvent}
    (hrow : db.processedEvents.insert? ⟨event.eventId, .analytics, env.now⟩ = some processedEvents)
    (hwrite : (AnalyticsConsumer.plan env₀ event).Writes env { db with processedEvents } db')
    (hlog : event.content ∈ db.log)
    (hday : ∀ r ∈ db.outbox.rows, r.id = event.eventId →
      startOfUtcDay r.createdAt = startOfUtcDay env₀.now) (hm : db.Metered) : db'.Metered := by
  obtain ⟨r, hr, hid, hpayload⟩ := Db.row_of_content hlog
  have hdate := hday r hr hid
  obtain ⟨ho', horg⟩ := hwrite.outbox
  intro o ho d f
  have hold : db.metric o d f = db.counted o d f := hm o (horg ▸ ho) d f
  rw [Db.counted_of_insert hr hid hrow ho' hwrite.processedEvents o d f, ← hold]
  rw [AnalyticsConsumer.plan_eq] at hwrite
  cases hmetric : event.payload.metric? with
  | none =>
    have hcounts : r.counts o d f = false := by simp [EventOutbox.counts, hpayload, hmetric]
    rw [hmetric] at hwrite
    cases hwrite
    rw [if_neg (by simp [hcounts]), Nat.add_zero]
    rfl
  | some key =>
    obtain ⟨o', f'⟩ := key
    rw [hmetric] at hwrite
    have hcounts : r.counts o d f ↔ (o, d, f) = (o', startOfUtcDay env₀.now, f') := by
      simp only [EventOutbox.counts, hpayload, hmetric, hdate, Bool.and_eq_true, decide_eq_true_eq,
        Option.some.injEq, Prod.mk.injEq]
      constructor
      · rintro ⟨⟨rfl, rfl⟩, rfl⟩
        exact ⟨rfl, rfl, rfl⟩
      · rintro ⟨rfl, rfl, rfl⟩
        exact ⟨⟨rfl, rfl⟩, rfl⟩
    rw [Db.metric_of_writes hwrite]
    by_cases hc : r.counts o d f
    · rw [if_pos hc, if_pos (hcounts.mp hc)]
      rfl
    · rw [if_neg hc, if_neg fun h => hc (hcounts.mpr h)]
      rfl

/-- A projection of another consumer, or none at all, moves no counter. -/
lemma Executes.keepsMetrics (h : d.Executes db broker locked a db' broker' d')
    (hplan : ∀ p, d.phase = .planned p → ∃ env db, p = d.consumer.plan env db d.message.event)
    (hlog : d.message.event.content ∈ db.log)
    (hother : d.commits db a = [] ∨ d.consumer ≠ .analytics) : db.KeepsMetrics db' := by
  cases h with
  | committed hphase hc hrow hwrite =>
    have hconsumer : d.consumer ≠ .analytics := hother.resolve_left (by simp [hc])
    obtain ⟨env, db₀, hp⟩ := hplan _ hphase
    have hsame : db'.ticketMetrics = db.ticketMetrics := by
      cases hwrite with
      | increment _ | start _ => exact absurd (Consumer.eq_of_plan hp.symm rfl) hconsumer
      | _ => rfl
    obtain ⟨houtbox, horg⟩ := hwrite.outbox
    obtain ⟨r, hr, hid, -⟩ := Db.row_of_content hlog
    have hkeys : ∀ k, k ∈ db'.processedEvents.keys ↔
        k ∈ db.processedEvents.keys ∨ k = (d.message.event.eventId, d.consumer) := fun k => by
      rw [hwrite.processedEvents, Table.mem_keys_insert? hrow]
      rfl
    refine ⟨fun o ho => horg ▸ ho, fun o _ d f => by rw [Db.metric, Db.metric, hsame],
      ⟨fun r => r, [], by simp [houtbox], fun _ => ⟨rfl, rfl, rfl⟩⟩, fun k hk => ?_,
      fun k hk => (hkeys k).mpr (.inl hk)⟩
    rcases (hkeys k).mp hk with hk | rfl
    · exact .inl hk
    · exact .inr ⟨hconsumer, r, hr, hid⟩
  | _ => exact .of_eq rfl rfl (List.append_nil _).symm rfl

/-- A delivery that is planned now has been projected in this step. -/
lemma Executes.onDay {d' : Delivery} (h : d.Executes db broker locked a db' broker' (some d'))
    (hday : ∀ env, a = .project env → d.consumer = .analytics → ∀ r ∈ db.outbox.rows,
      r.id = d.message.event.eventId → startOfUtcDay r.createdAt = startOfUtcDay env.now) :
    d'.OnDay db := by
  intro hc p hp
  obtain ⟨env, ha, rfl⟩ := h.planned hp
  rw [h.consumer] at hc
  rw [h.message, hc]
  exact ⟨env, rfl, hday env ha hc⟩

end Delivery

namespace World

open Machine

variable {cfg : Config} {w w' : World} {e : Event}

/-- The condition on a step: the analytics consumer projects an event on the day of its outbox
row. -/
def SameDay (w : World) : Event → Prop
  | .consume i (.project env) => ∀ d ∈ w.deliveries[i]?, d.consumer = .analytics →
      ∀ r ∈ w.db.outbox.rows, r.id = d.message.event.eventId →
        startOfUtcDay r.createdAt = startOfUtcDay env.now
  | _ => True

instance (w : World) (e : Event) : Decidable (w.SameDay e) :=
  match e with
  | .consume i (.project env) =>
    inferInstanceAs (Decidable (∀ d ∈ w.deliveries[i]?, d.consumer = .analytics →
      ∀ r ∈ w.db.outbox.rows, r.id = d.message.event.eventId →
        startOfUtcDay r.createdAt = startOfUtcDay env.now))
  | .consume _ (.insert _) | .consume _ (.commit _) | .consume _ (.republish ..)
  | .consume _ .ack | .arrive .. | .proceed .. | .relay .. | .connect | .deliver ..
  | .redeliver _ | .crash _ => isTrue trivial

/-- The invariant behind the counters. -/
structure Metered (w : World) : Prop where
  db : w.db.Metered
  processed : w.db.ProcessedSourced
  onDay : ∀ d ∈ w.deliveries, d.OnDay w.db

lemma metered_initial (organizations : Table Organization) (users : Table User) (n : Nat) :
    (initial organizations users n).Metered where
  db _ _ _ _ := rfl
  processed _ hk := by cases hk
  onDay _ hd := by cases hd

lemma Metered.keep (hw : w.Metered) (h : w.db.KeepsMetrics w'.db)
    (hdeliveries : ∀ d ∈ w'.deliveries, d.OnDay w.db ∧ d.message.event.content ∈ w.db.log) :
    w'.Metered where
  db := hw.db.keep hw.processed h
  processed := h.processedSourced hw.processed
  onDay d hd := (hdeliveries d hd).1.keep h (hdeliveries d hd).2

lemma onDay_of_mem (hs : w.Sourced) (hw : w.Metered) {d : Delivery} (hd : d ∈ w.deliveries) :
    d.OnDay w.db ∧ d.message.event.content ∈ w.db.log :=
  ⟨hw.onDay d hd, hs.handled d hd⟩

theorem metered_of_step (hs : w.Sourced) (hw : w.Metered) (hday : w.SameDay e)
    (h : step cfg w e = some w') : w'.Metered := by
  have hall : ∀ d ∈ w'.deliveries, d.OnDay w.db ∧ d.message.event.content ∈ w.db.log := by
    intro d hd
    cases (step_cases h).arises hd with
    | kept hold => exact onDay_of_mem hs hw hold
    | received hm => exact ⟨fun _ p hp => (by cases hp), hs.queued _ _ hm⟩
    | @next i a d₀ _ he hget hexec =>
      refine ⟨hexec.onDay fun env ha hc => ?_,
        hexec.message ▸ hs.handled _ (List.mem_of_getElem? hget)⟩
      subst he ha
      exact hday d₀ hget hc
    | @lost d₀ hold => exact ⟨hw.onDay d₀ hold, hs.handled d₀ hold⟩
  cases e with
  | proceed i env =>
    obtain ⟨c, hc, rfl⟩ := Option.map_eq_some_iff.mp h
    exact hw.keep (Call.keepsMetrics (Prod.ext rfl rfl)) hall
  | relay i a =>
    obtain ⟨p, p', -, -, ⟨hdb, -, -⟩ | ⟨_, _, _, _, _, -, -, hd, -⟩⟩ := relay_cases h
    · exact hw.keep (.of_eq (by rw [hdb]) (by rw [hdb]) (by rw [hdb, List.append_nil])
        (by rw [hdb])) hall
    · exact hw.keep hd.keepsMetrics hall
  | consume i a =>
    obtain ⟨d, d', hd, hexec, -⟩ := consume_cases h
    have hmem := List.mem_of_getElem? hd
    by_cases hother : d.commits w.db a = [] ∨ d.consumer ≠ .analytics
    · exact hw.keep ((Delivery.exec_cases hexec).keepsMetrics (hs.planned d hmem)
        (hs.handled d hmem) hother) hall
    · push Not at hother
      obtain ⟨hcommits, hconsumer⟩ := hother
      obtain ⟨x, hx⟩ := List.exists_mem_of_ne_nil _ hcommits
      obtain ⟨-, env, p, processedEvents, hphase, hrow, hwork⟩ := Delivery.commits_cases hexec hx
      obtain ⟨env₀, rfl, hsame⟩ := hw.onDay d hmem hconsumer p hphase
      rw [hconsumer] at hrow
      have hwrite := Projection.exec_cases hwork
      obtain ⟨houtbox, -⟩ := hwrite.outbox
      refine ⟨Delivery.metered_of_commit hrow hwrite (hs.handled d hmem) hsame hw.db,
        fun k hk => ?_, fun d₁ hd₁ => ?_⟩
      · rw [hwrite.processedEvents, Table.mem_keys_insert? hrow] at hk
        rw [houtbox]
        rcases hk with hk | rfl
        · exact hw.processed k hk
        · obtain ⟨r, hr, hid, -⟩ := Db.row_of_content (hs.handled d hmem)
          exact ⟨r, hr, hid⟩
      · have := (hall d₁ hd₁).1
        rwa [Delivery.OnDay, ← houtbox] at this
  | arrive | connect | deliver | redeliver | crash =>
    have hsteps := step_cases h
    clear h
    cases hsteps
    exact hw.keep (.of_eq rfl rfl (List.append_nil _).symm rfl) hall

/-- The condition on a step that the pipeline is up: publishes are confirmed for declared queues,
and the workers of the analytics consumer meet no error. -/
def PipelineUp (cfg : Config) (w : World) (e : Event) : Prop :=
  w.DeclaredFirst cfg e ∧ w.Unfailing .analytics e

instance (cfg : Config) (w : World) (e : Event) : Decidable (w.PipelineUp cfg e) := by
  unfold PipelineUp
  infer_instance

/-- In a run without failures in which every event is projected on the day of its outbox row, once
all rows are dispatched and the queue is drained, the counters of an organization tell how many
events of each kind have been committed on each day. -/
theorem metrics_count_days (cfg : Config) (organizations : Table Organization)
    (users : Table User) (n : Nat) {es : List Event} {w : World}
    (h : exec (step cfg) (initial organizations users n) es = some w)
    (hup : Guarded (step cfg) (PipelineUp cfg) (initial organizations users n) es)
    (hday : Guarded (step cfg) SameDay (initial organizations users n) es)
    (hdispatched : ∀ r ∈ w.db.outbox.rows, r.status = .dispatched)
    (hdrained : w.Drained .analytics) :
    ∀ o ∈ w.db.organizations.rows, ∀ date field,
      w.db.metric o.id date field = w.db.outbox.rows.countP (·.counts o.id date field) := by
  have hmetered := exec_guarded_invariant (step cfg) (I := fun w => w.Sourced ∧ w.Metered)
    (fun s e t hs hsame ht =>
      ⟨(step_cases ht).sourced hs.1, metered_of_step hs.1 hs.2 hsame ht⟩)
    ⟨sourced_initial organizations users n, metered_initial organizations users n⟩ hday h
  have hunfailed := exec_guarded_invariant (step cfg) (I := fun w => w.Unfailed .analytics)
    (fun s e t hs hup ht => hs.of_step ht hup.2) (unfailed_initial organizations users n) hup h
  have hprocessed : ∀ r ∈ w.db.outbox.rows, r.payload.metric?.isSome →
      (r.id, .analytics) ∈ w.db.processedEvents.keys := by
    intro r hr hmetric
    have hbound : Consumer.analytics.bound r.routingKey :=
      r.key_eq ▸ Consumer.bound_analytics hmetric
    have haccounted := dispatched_accounted h
      (hup.imp (step cfg) fun s e hup => ⟨hup.1, hup.2.trueDuplicates⟩) hr (hdispatched r hr) hbound
    rcases haccounted.drained hdrained with hk | ⟨l, hl, horigin, -⟩
    · exact hk
    · exact absurd horigin (hunfailed.deadLetters l hl)
  intro o ho date field
  rw [hmetered.2.db o.id (Table.key_notMem_retired ho) date field, Db.counted]
  refine List.countP_congr fun r hr => ?_
  rw [Bool.and_eq_true, decide_eq_true_eq, and_iff_left_iff_imp]
  intro hcounts
  simp only [EventOutbox.counts, Bool.and_eq_true, decide_eq_true_eq] at hcounts
  exact hprocessed r hr (by simp [hcounts.1])

/-- A ticket is created on the first day, and its creation counted at the time given. -/
def countedRun (now : Time) : List Event :=
  [.connect, .arrive (some 12) none (.createTicket Seed.ticketDto), .proceed 0 (Seed.env 1),
    .relay 0 .tick, .relay 0 (.proceed 0 (Seed.env 2) .accepted),
    .relay 0 (.proceed 0 (Seed.env 3) .accepted), .relay 0 (.proceed 0 (Seed.env 4) .accepted),
    .deliver 0 .analytics 0, .consume 0 (.insert (Seed.env 5)),
    .consume 0 (.project { Seed.env 6 with now }), .consume 0 (.commit (Seed.env 7)),
    .consume 0 .ack]

theorem metrics_count_days_same :
    ∃ w, exec (step .default) (initial Seed.organizations Seed.users 1) (countedRun 6) = some w ∧
      w.db.ticketMetrics.rows = [⟨1, 0, 1, 0, 0⟩] ∧
      ∀ o ∈ w.db.organizations.rows, ∀ date field,
        w.db.metric o.id date field = w.db.outbox.rows.countP (·.counts o.id date field) := by
  have hrun : (exec (step .default) (initial Seed.organizations Seed.users 1)
      (countedRun 6)).any fun w => ((∀ r ∈ w.db.outbox.rows, r.status = .dispatched) ∧
        w.Drained .analytics) ∧ w.db.ticketMetrics.rows = [⟨1, 0, 1, 0, 0⟩] := by decide
  obtain ⟨w, hw, ⟨hdispatched, hdrained⟩, hrows⟩ := exists_of_any hrun
  exact ⟨w, hw, hrows, metrics_count_days .default Seed.organizations Seed.users 1 hw (by decide)
    (by decide) hdispatched hdrained⟩

/-- The event is counted on the day after. -/
theorem metrics_past_midnight :
    ¬ ∀ cfg organizations users n es w,
      exec (step cfg) (initial organizations users n) es = some w →
        Guarded (step cfg) (PipelineUp cfg) (initial organizations users n) es →
        (∀ r ∈ w.db.outbox.rows, r.status = .dispatched) → w.Drained .analytics →
          ∀ o ∈ w.db.organizations.rows, ∀ date field,
            w.db.metric o.id date field = w.db.outbox.rows.countP (·.counts o.id date field) := by
  intro hall
  have hrun : (exec (step .default) (initial Seed.organizations Seed.users 1)
      (countedRun (24 * 60 * 60 * 1000))).any fun w =>
        ((∀ r ∈ w.db.outbox.rows, r.status = .dispatched) ∧ w.Drained .analytics) ∧
          ∃ o ∈ w.db.organizations.rows, w.db.metric o.id 0 .ticketsCreated ≠
            w.db.outbox.rows.countP (·.counts o.id 0 .ticketsCreated) := by decide
  obtain ⟨w, hw, ⟨hdispatched, hdrained⟩, o, ho, hne⟩ := exists_of_any hrun
  exact hne (hall _ _ _ _ _ w hw (by decide) hdispatched hdrained o ho 0 .ticketsCreated)

end World

end SupportPlatform
