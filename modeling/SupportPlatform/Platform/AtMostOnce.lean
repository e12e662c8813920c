import SupportPlatform.Platform.Lineage

/-!
# Projections commit at most once

The ledger behind the idempotency table: whatever relays, workers and the broker do, the rows of
`processed_events` are the projections committed so far, in commit order.
-/

namespace SupportPlatform.World

open Machine

variable {cfg : Config} {w w' : World} {e : Event}

/-- The projection a step commits, if it commits one. -/
def committed (w : World) (e : Event) (_ : World) : List Delivery.Commit :=
  match e with
  | .consume i action =>
    match w.deliveries[i]? with
    | some d => d.commits w.db action
    | none => []
  | _ => []

/-- The projections a run commits, in order. -/
def commits (cfg : Config) (w : World) (es : List Event) : List Delivery.Commit :=
  collect (step cfg) committed w es

/-- The keys in `processed_events`. -/
def processedKeys (w : World) : List (Uuid × Consumer) :=
  w.db.processedEvents.rows.map Keyed.key

/-- The projection tables have no row that is new, and no counter has moved. -/
def NothingProjected (s t : Db) : Prop :=
  t.auditLogs.keys = s.auditLogs.keys ∧
    (∀ n ∈ t.notifications.rows, ∃ n' ∈ s.notifications.rows, n'.id = n.id) ∧
    ∀ m ∈ t.ticketMetrics.rows, m ∈ s.ticketMetrics.rows

/-- One projection of the event was written, together with its row in `processed_events`. -/
def Projected (s t : Db) (x : Delivery.Commit) : Prop :=
  ∃ env env₀ db₀ processedEvents,
    s.processedEvents.insert? ⟨x.event.eventId, x.consumer, env.now⟩ = some processedEvents ∧
      (x.consumer.plan env₀ db₀ x.event).Writes env { s with processedEvents } t

/-! ### One step -/

lemma NothingProjected.refl (db : Db) : NothingProjected db db :=
  ⟨rfl, fun n hn => ⟨n, hn, rfl⟩, fun _ hm => hm⟩

lemma nothingProjected_dropOrganization (db : Db) (id : Uuid) :
    NothingProjected db (db.dropOrganization id) :=
  ⟨by simp [Db.dropOrganization], fun n hn => ⟨n, List.mem_of_mem_filter hn, rfl⟩,
    fun _ hm => List.mem_of_mem_filter hm⟩

lemma nothingProjected_read (db : Db) (p : Notification → Bool) (now : Time) :
    NothingProjected db
      { db with
        notifications := db.notifications.modifyWhere p (NotificationsService.read now)
          fun _ => rfl } := by
  refine ⟨rfl, fun n hn => ?_, fun _ hm => hm⟩
  obtain ⟨n', hn', rfl⟩ := List.mem_map.mp hn
  refine ⟨n', hn', ?_⟩
  split <;> rfl

lemma executes_nothingProjected {env : Env} {db db' : Db} {call call' : Call}
    (h : Call.Executes env db call db' call') :
    NothingProjected db db' ∧ db'.processedEvents = db.processedEvents := by
  cases h with
  | wrote h =>
    cases h with
    | organizationsRemove => exact ⟨nothingProjected_dropOrganization db _, rfl⟩
    | notificationsMarkRead => exact ⟨nothingProjected_read db _ _, rfl⟩
    | notificationsMarkAllRead => exact ⟨nothingProjected_read db _ _, rfl⟩
    | _ => exact ⟨.refl db, rfl⟩
  | _ => exact ⟨.refl db, rfl⟩

lemma relay_nothingProjected {db db' : Db} {broker broker' : Broker} {p p' : RelayProcess}
    (h : OutboxRelayService.Steps cfg db broker p db' broker' p') :
    NothingProjected db db' ∧ db'.processedEvents = db.processedEvents := by
  rw [h.frame]
  exact ⟨.refl db, rfl⟩

/-- A step of a delivery either writes nothing or commits one projection with its row. -/
lemma delivery_projects {db db' : Db} {broker broker' : Broker} {locked : Bool} {d : Delivery}
    {a : DeliveryAction} {d' : Option Delivery}
    (hplan : ∀ p, d.phase = .planned p →
      ∃ env db, p = d.consumer.plan env db d.message.event)
    (h : d.Executes db broker locked a db' broker' d') :
    (d.commits db a = [] ∧ db' = db) ∨
      ∃ x, d.commits db a = [x] ∧ Projected db db' x := by
  cases h with
  | threw hc => exact .inl ⟨hc, rfl⟩
  | inserted _ _ => exact .inl ⟨rfl, rfl⟩
  | projected _ => exact .inl ⟨rfl, rfl⟩
  | committed hphase hc hrow hwrite =>
    obtain ⟨env₀, db₀, rfl⟩ := hplan _ hphase
    exact .inr ⟨_, hc, _, env₀, db₀, _, hrow, hwrite⟩
  | published _ => exact .inl ⟨rfl, rfl⟩
  | rejected _ => exact .inl ⟨rfl, rfl⟩
  | acked => exact .inl ⟨rfl, rfl⟩

lemma Projected.processedKeys {s t : Db} {x : Delivery.Commit} (h : Projected s t x) :
    t.processedEvents.rows.map Keyed.key =
      s.processedEvents.rows.map Keyed.key ++ [x.key] := by
  obtain ⟨env, env₀, db₀, processedEvents, hrow, hwrite⟩ := h
  rw [hwrite.processedEvents, (Table.insert?_eq_some.mp hrow).2.1, List.map_append]
  rfl

/-- A step commits one projection, with its row in `processed_events`, or none. -/
lemma Steps.projects (hw : w.Sourced) (h : Steps cfg w e w') :
    (committed w e w' = [] ∧ NothingProjected w.db w'.db ∧
        w'.db.processedEvents = w.db.processedEvents) ∨
      ∃ x, committed w e w' = [x] ∧ x.event.content ∈ w.db.log ∧ Projected w.db w'.db x := by
  have consumed : ∀ {i d a db broker d'}, w.deliveries[i]? = some d →
      d.Executes w.db w.broker (w.locked d.key) a db broker d' →
      (committed w (.consume i a) w' = [] ∧ NothingProjected w.db db ∧
          db.processedEvents = w.db.processedEvents) ∨
        ∃ x, committed w (.consume i a) w' = [x] ∧ x.event.content ∈ w.db.log ∧
          Projected w.db db x := by
    intro i d a db broker d' hd h
    have hmem := List.mem_of_getElem? hd
    have hcommitted : committed w (.consume i a) w' = d.commits w.db a := by
      simp [committed, hd]
    rw [hcommitted]
    rcases delivery_projects (hw.planned d hmem) h with ⟨hc, rfl⟩ | ⟨x, hx, hp⟩
    · exact .inl ⟨hc, .refl _, rfl⟩
    · refine .inr ⟨x, hx, ?_, hp⟩
      have : x = ⟨d.message.event, d.consumer⟩ := by
        unfold Delivery.commits at hx
        split at hx
        · split at hx
          · split at hx
            · simpa using hx.symm
            · cases hx
          · cases hx
        · cases hx
      exact this ▸ hw.handled d hmem
  cases h with
  | proceed _ h => exact .inl ⟨rfl, executes_nothingProjected h⟩
  | relay _ h => exact .inl ⟨rfl, relay_nothingProjected h⟩
  | consume hd h => exact consumed hd h
  | finish hd h => exact consumed hd h
  | _ => exact .inl ⟨rfl, .refl _, rfl⟩

/-! ### Whole runs -/

lemma sourced_of_exec {organizations : Table Organization} {users : Table User} {n : Nat}
    {es : List Event} (h : exec (step cfg) (initial organizations users n) es = some w) :
    w.Sourced :=
  exec_invariant (step cfg) (fun _ _ _ hw h => (step_cases h).sourced hw)
    (sourced_initial organizations users n) h

/-- The idempotency table is the ledger of the committed projections. -/
lemma processedKeys_of_exec {organizations : Table Organization} {users : Table User} {n : Nat}
    {es : List Event} (h : exec (step cfg) (initial organizations users n) es = some w) :
    w.processedKeys = (commits cfg (initial organizations users n) es).map Delivery.Commit.key := by
  have key : ∀ s e t, s.Sourced → step cfg s e = some t →
      t.processedKeys = s.processedKeys ++ (committed s e t).map Delivery.Commit.key := by
    intro s e t hs ht
    rcases (step_cases ht).projects hs with ⟨hc, -, hp⟩ | ⟨x, hx, -, hp⟩
    · rw [hc, processedKeys, hp]
      simp [processedKeys]
    · rw [hx, processedKeys, hp.processedKeys]
      rfl
  rw [commits, map_collect]
  simpa [processedKeys, initial, Db.empty] using
    collect_ledger (step cfg) (fun _ _ _ hw h => (step_cases h).sourced hw) key
      (sourced_initial organizations users n) h

/-- Every commit of a run is of an event that the outbox holds. -/
lemma content_of_mem_commits {organizations : Table Organization} {users : Table User} {n : Nat}
    {es : List Event} (h : exec (step cfg) (initial organizations users n) es = some w)
    {x : Delivery.Commit} (hx : x ∈ commits cfg (initial organizations users n) es) :
    x.event.content ∈ w.db.log := by
  obtain ⟨fs, e, gs, s, t, rfl, hs, ht, hw, hx⟩ := mem_collect (step cfg) h hx
  rcases (step_cases ht).projects (sourced_of_exec hs) with ⟨hc, -⟩ | ⟨x', hx', hcontent, -⟩
  · rw [hc] at hx
    cases hx
  · rw [hx', List.mem_singleton] at hx
    subst hx
    have hmono : t.db.log <+: w.db.log :=
      exec_relation (step cfg) (R := fun s t : World => s.db.log <+: t.db.log)
        (fun _ => List.prefix_rfl) (fun _ _ _ h h' => h.trans h')
        (fun _ _ _ h => (step_cases h).log) hw
    exact hmono.subset ((step_cases ht).log.subset hcontent)

/-- In every run, the projection of an outbox row by a consumer commits at most once, and the row
in `processed_events` is there exactly when it has. What is committed are projections of outbox
rows, and nothing else is ever written to the projection tables. -/
theorem projection_at_most_once (cfg : Config) (organizations : Table Organization)
    (users : Table User) (n : Nat) {es : List Event} {w : World}
    (h : exec (step cfg) (initial organizations users n) es = some w) :
    (∀ r ∈ w.db.outbox.rows, ∀ c : Consumer,
      ((commits cfg (initial organizations users n) es).map Delivery.Commit.key).count
          (r.id, c) ≤ 1 ∧
        ((∃ p ∈ w.db.processedEvents.rows, p.eventId = r.id ∧ p.consumer = c) ↔
          (r.id, c) ∈
            (commits cfg (initial organizations users n) es).map Delivery.Commit.key)) ∧
    (∀ x ∈ commits cfg (initial organizations users n) es, x.event.content ∈ w.db.log) ∧
    ∀ fs e gs s t, es = fs ++ e :: gs →
      exec (step cfg) (initial organizations users n) fs = some s → step cfg s e = some t →
      (committed s e t = [] ∧ NothingProjected s.db t.db) ∨
        ∃ x, committed s e t = [x] ∧ Projected s.db t.db x := by
  refine ⟨fun r _ c => ?_, fun x hx => content_of_mem_commits h hx, ?_⟩
  · rw [← processedKeys_of_exec h]
    constructor
    · exact List.nodup_iff_count_le_one.mp w.db.processedEvents.nodup_keys _
    · simp [processedKeys]
  · intro fs e gs s t _ hs ht
    rcases (step_cases ht).projects (sourced_of_exec hs) with ⟨hc, hn, -⟩ | ⟨x, hx, -, hp⟩
    · exact .inl ⟨hc, hn⟩
    · exact .inr ⟨x, hx, hp⟩

/-- A relay crashes after its publish was accepted, another one publishes the row again, and two
workers get a copy for the audit queue each. -/
def republishedRun : List Event :=
  [.arrive (some 12) none (.createTicket Seed.ticketDto), .proceed 0 (Seed.env 1), .connect,
    .relay 0 .tick, .relay 0 (.proceed 0 (Seed.env 2) .accepted),
    .relay 0 (.proceed 0 (Seed.env 3) .accepted), .relay 0 .crash,
    .relay 1 .tick, .relay 1 (.proceed 0 (Seed.env 4) .accepted),
    .relay 1 (.proceed 0 (Seed.env 5) .accepted), .relay 1 (.proceed 0 (Seed.env 6) .accepted),
    .deliver 0 .audit 0, .deliver 1 .audit 0,
    .consume 0 (.insert (Seed.env 7)), .consume 0 (.project (Seed.env 8)),
    .consume 0 (.commit (Seed.env 9)), .consume 1 (.insert (Seed.env 10)), .consume 1 .ack]

theorem projection_at_most_once_republished :
    ∃ w, exec (step Config.default) (initial Seed.organizations Seed.users 2) republishedRun =
        some w ∧
      ∀ r ∈ w.db.outbox.rows, ((commits Config.default (initial Seed.organizations Seed.users 2)
        republishedRun).map Delivery.Commit.key).count (r.id, .audit) ≤ 1 := by
  have hrun : (exec (step Config.default) (initial Seed.organizations Seed.users 2)
      republishedRun).isSome := by decide
  obtain ⟨w, hw⟩ := Option.isSome_iff_exists.mp hrun
  exact ⟨w, hw, fun r hr =>
    ((projection_at_most_once Config.default Seed.organizations Seed.users 2 hw).1 r hr .audit).1⟩

end SupportPlatform.World
