import SupportPlatform.Messaging.RelayRun

/-!
# The life cycle of an outbox row

One relay process over an outbox that starts empty and that events are enqueued into at any time.
A row is PENDING until it is dispatched or out of attempts, and what it is then it stays. The broker
takes its message at most once more often than a status update of the row is lost.
-/

namespace SupportPlatform

/-- What can happen to the outbox: an event is enqueued, in a transaction of its own, or the relay
takes a step. -/
inductive OutboxEvent where
  | enqueue (env : Env) (routingKey : RoutingKey) (payload : Payload)
      (correlationId : Option String) (key_eq : payload.routingKey = routingKey)
  | relay (action : RelayAction)

namespace OutboxEvent

/-- A publish that throws although the broker took the message. -/
def isUnconfirmed : OutboxEvent → Bool
  | .relay action => action.isUnconfirmed
  | .enqueue .. => false

end OutboxEvent

namespace RelayRun

/-- A step of the relay or an enqueue. -/
def step (cfg : Config) (s : RelayRun) : OutboxEvent → Option RelayRun
  | .enqueue env routingKey payload correlationId key_eq =>
    some { s with
      db := ((EventPublisherService.enqueue routingKey payload correlationId key_eq).commit
        env s.db).2 }
  | .relay action => act cfg s action

/-- What holds of the rows of an outbox, of the messages published for them and of the process. -/
structure LifeCycle (cfg : Config) (s : RelayRun) : Prop where
  pending : ∀ r ∈ s.db.outbox.rows, r.status = .pending → r.attempts < cfg.maxAttempts
  failed : ∀ r ∈ s.db.outbox.rows, r.status = .failed → r.attempts = cfg.maxAttempts
  dispatched : ∀ r ∈ s.db.outbox.rows, r.status = .dispatched → r.id ∈ s.accepted
  published : ∀ k, s.accepted.count k ≤ 1 + s.lost.count k
  running : s.process.ticks.length = if s.process.running then 1 else 0

variable {cfg : Config} {s t : RelayRun} {a : RelayAction} {e : OutboxEvent}

/-! ### Enqueued rows -/

/-- An enqueue adds a PENDING row without attempts, or nothing. -/
lemma enqueue_cases {env : Env} {routingKey : RoutingKey} {payload : Payload}
    {correlationId : Option String} {key_eq : payload.routingKey = routingKey}
    (h : step cfg s (.enqueue env routingKey payload correlationId key_eq) = some t) :
    ∃ outbox : Table EventOutbox, t = { s with db := { s.db with outbox } } ∧
      (∀ r ∈ s.db.outbox.rows, r ∈ outbox.rows) ∧
      ∀ r ∈ outbox.rows, r ∈ s.db.outbox.rows ∨ r.status = .pending ∧ r.attempts = 0 := by
  obtain rfl := Option.some.inj h
  obtain ⟨⟨r, db'⟩, hc⟩ : ∃ p, (EventPublisherService.enqueue routingKey payload correlationId
    key_eq).commit env s.db = p := ⟨_, rfl⟩
  rw [hc]
  cases r with
  | error e =>
    rw [Transaction.commit_error hc]
    exact ⟨s.db.outbox, rfl, fun r hr => hr, fun r hr => .inl hr⟩
  | ok u =>
    obtain ⟨-, outbox, hinsert, rfl⟩ :=
      EventPublisherService.enqueue_eq_ok.mp (Transaction.commit_eq_ok.mp hc)
    refine ⟨outbox, rfl, fun r hr => (Table.mem_insert? hinsert).mpr (.inl hr), fun r hr => ?_⟩
    rcases (Table.mem_insert? hinsert).mp hr with hr | rfl
    · exact .inl hr
    · exact .inr ⟨rfl, rfl⟩

/-! ### Settled rows -/

lemma mem_update_of_settled {row r : EventOutbox} {rest : List EventOutbox}
    {f : EventOutbox → EventOutbox} {hf : ∀ r, Keyed.key (f r) = Keyed.key r}
    (hhand : InHand s.db (row :: rest)) (hr : r ∈ s.db.outbox.rows)
    (hstatus : r.status ≠ .pending) :
    r ∈ (s.update row f hf).db.outbox.rows := by
  have hmem := hhand.mem row List.mem_cons_self
  refine (mem_rows_update hmem).mpr (.inr ⟨hr, fun hid => hstatus ?_⟩)
  obtain rfl := s.db.outbox.eq_of_key_eq hr hmem hid
  exact hhand.pending r List.mem_cons_self

/-- A row that is DISPATCHED or FAILED stays in the outbox as it is. -/
theorem Acts.settled (h : Acts cfg s a t) (hs : s.Sound) {r : EventOutbox}
    (hr : r ∈ s.db.outbox.rows) (hstatus : r.status ≠ .pending) : r ∈ t.db.outbox.rows := by
  cases h with
  | marked h | recorded h => exact mem_update_of_settled (hs.inHand h) hr hstatus
  | _ => exact hr

/-! ### Attempts -/

/-- A row has attempts left while it is PENDING, and none when it is FAILED. -/
structure Budgeted (cfg : Config) (s : RelayRun) : Prop where
  pending : ∀ r ∈ s.db.outbox.rows, r.status = .pending → r.attempts < cfg.maxAttempts
  failed : ∀ r ∈ s.db.outbox.rows, r.status = .failed → r.attempts = cfg.maxAttempts

theorem Acts.budgeted (h : Acts cfg s a t) (hs : s.Sound) (hb : s.Budgeted cfg) :
    t.Budgeted cfg := by
  cases h with
  | marked h =>
    have hmem := (hs.inHand h).mem _ List.mem_cons_self
    refine ⟨fun r hr hstatus => ?_, fun r hr hstatus => ?_⟩
    · rcases (mem_rows_update hmem).mp hr with rfl | ⟨hr, -⟩
      · cases hstatus
      · exact hb.pending r hr hstatus
    · rcases (mem_rows_update hmem).mp hr with rfl | ⟨hr, -⟩
      · cases hstatus
      · exact hb.failed r hr hstatus
  | @recorded _ row rest error h =>
    have hhand := hs.inHand h
    have hmem := hhand.mem row List.mem_cons_self
    have hleft := hb.pending row hmem (hhand.pending row List.mem_cons_self)
    refine ⟨fun r hr hstatus => ?_, fun r hr hstatus => ?_⟩
    · rcases (mem_rows_update hmem).mp hr with rfl | ⟨hr, -⟩
      · simp only [OutboxRelayService.failed] at hstatus ⊢
        split_ifs at hstatus with hmax
        omega
      · exact hb.pending r hr hstatus
    · rcases (mem_rows_update hmem).mp hr with rfl | ⟨hr, -⟩
      · simp only [OutboxRelayService.failed] at hstatus ⊢
        split_ifs at hstatus with hmax
        omega
      · exact hb.failed r hr hstatus
  | _ => exact ⟨hb.pending, hb.failed⟩

/-! ### Messages published twice -/

/-- The message of a row that is DISPATCHED or about to be has been taken for good. -/
def Spent (s : RelayRun) (k : Uuid) : Prop :=
  (∃ r ∈ s.db.outbox.rows, r.id = k ∧ r.status = .dispatched) ∨
    ∃ row rest, s.process.ticks = [.marking row rest] ∧ row.id = k

/-- Every message of a row but one goes with an update of the row that was lost, and every one does
until the row is spent. -/
structure Counted (s : RelayRun) : Prop where
  published : ∀ k, s.accepted.count k ≤ s.lost.count k + 1
  unspent : ∀ k, ¬ s.Spent k → s.accepted.count k ≤ s.lost.count k

lemma Spent.imp {k : Uuid} {P : Prop} (h : s.Spent k)
    (hrows : ∀ r ∈ s.db.outbox.rows, r.status ≠ .pending → r ∈ t.db.outbox.rows)
    (hmarking : ∀ row rest, s.process.ticks = [.marking row rest] → row.id = k → P) :
    t.Spent k ∨ P := by
  rcases h with ⟨r, hr, hk, hd⟩ | ⟨row, rest, hticks, hk⟩
  · exact .inl (.inl ⟨r, hrows r hr (by simp [hd]), hk, hd⟩)
  · exact .inr (hmarking row rest hticks hk)

/-- A step that publishes nothing may only end what a row has spent by losing an update of it. -/
lemma Counted.of_spent (hc : s.Counted) (haccepted : t.accepted = s.accepted)
    (hlost : ∀ k, s.lost.count k ≤ t.lost.count k)
    (hspent : ∀ k, s.Spent k → t.Spent k ∨ s.lost.count k + 1 ≤ t.lost.count k) :
    t.Counted where
  published k := by
    have := hc.published k
    have := hlost k
    rw [haccepted]
    omega
  unspent k hk := by
    rw [haccepted]
    by_cases hs : s.Spent k
    · have := (hspent k hs).resolve_left hk
      have := hc.published k
      omega
    · exact (hc.unspent k hs).trans (hlost k)

/-- A row that is still to be published is not spent. -/
lemma not_spent {row : EventOutbox} {rest : List EventOutbox} (hs : s.Sound)
    (h : s.process.ticks = [.publishing row rest]) : ¬ s.Spent row.id := by
  have hhand := hs.inHand h
  rintro (⟨r, hr, hid, hd⟩ | ⟨row', rest', hticks, -⟩)
  · obtain rfl := s.db.outbox.eq_of_key_eq hr (hhand.mem row List.mem_cons_self) hid
    rw [hhand.pending r List.mem_cons_self] at hd
    cases hd
  · rw [h] at hticks
    cases hticks

theorem Acts.counted (h : Acts cfg s a t) (ha : a.isUnconfirmed = false) (hs : s.Sound)
    (hc : s.Counted) : t.Counted := by
  have hrows := fun r hr hstatus => h.settled hs (r := r) hr hstatus
  cases h with
  | idle => exact ⟨hc.published, hc.unspent⟩
  | crashed =>
    refine hc.of_spent rfl (fun k => ?_) fun k hk => hk.imp hrows fun row rest hticks hid => ?_
    · simp only [lose, List.count_append]
      omega
    · simp [lose, hticks, Tick.updating, hid]
  | started h | polled h | unpolled h | refused h | recorded h =>
    exact hc.of_spent rfl (fun k => le_rfl) fun k hk => hk.imp hrows (by simp [h])
  | unconfirmed hunconfirmed => simp [ha] at hunconfirmed
  | @confirmed _ env row rest h =>
    have hunspent := hc.unspent row.id (not_spent hs h)
    refine ⟨fun k => ?_, fun k hk => ?_⟩
    · have := hc.published k
      simp only [resume, deliver, List.count_append, List.count_singleton]
      split_ifs with hid
      · rw [beq_iff_eq] at hid
        subst hid
        omega
      · omega
    · have hne : row.id ≠ k := fun hid => hk (.inr ⟨row, rest, rfl, hid⟩)
      have hold : ¬ s.Spent k := by
        intro hspent
        rcases hspent.imp hrows (P := False) (by simp [h]) with hspent | hfalse
        · exact hk hspent
        · exact hfalse
      simpa [resume, deliver, hne] using hc.unspent k hold
  | @marked _ now row rest h =>
    refine hc.of_spent rfl (fun k => le_rfl) fun k hk => ?_
    have hmem := (hs.inHand h).mem row List.mem_cons_self
    rcases hk.imp hrows (P := row.id = k) (by simp [h]) with hspent | rfl
    · exact .inl hspent
    · exact .inl (.inl ⟨_, (mem_rows_update hmem).mpr (.inl rfl), rfl, rfl⟩)
  | unmarked h =>
    refine hc.of_spent rfl (fun k => ?_) fun k hk => hk.imp hrows fun row rest hticks hid => ?_
    · simp only [resume, lose, List.count_append]
      omega
    · rw [h] at hticks
      cases hticks
      simp [resume, lose, hid]
  | unrecorded h =>
    refine hc.of_spent rfl (fun k => ?_) fun k hk => hk.imp hrows (by simp [h])
    simp only [resume, lose, List.count_append]
    omega

/-! ### Runs -/

/-- All that holds in every state of a run. -/
structure Invariant (cfg : Config) (s : RelayRun) : Prop
  extends Sound s, Taken [] s, Budgeted cfg s, Counted s

lemma invariant_start {db : Db} (hdb : db.outbox.rows = []) : (start db).Invariant cfg where
  toSound := sound_start db
  toTaken := by
    have htaken := taken_start db
    rwa [dispatchedIds, hdb] at htaken
  toBudgeted := ⟨by simp [start, hdb], by simp [start, hdb]⟩
  toCounted := ⟨by simp [start], by simp [start]⟩

theorem step_sound (hs : s.Sound) (h : step cfg s e = some t) : t.Sound := by
  cases e with
  | enqueue =>
    obtain ⟨outbox, rfl, hkept, -⟩ := enqueue_cases h
    refine ⟨⟨hs.running, hs.single, hs.idle⟩, fun tick htick => ?_⟩
    have hhand := hs.held tick htick
    exact ⟨hhand.nodup, fun r hr => hkept r (hhand.mem r hr), hhand.pending⟩
  | relay a => exact act_sound hs h

theorem step_settled (hs : s.Sound) (h : step cfg s e = some t) {r : EventOutbox}
    (hr : r ∈ s.db.outbox.rows) (hstatus : r.status ≠ .pending) : r ∈ t.db.outbox.rows := by
  cases e with
  | enqueue =>
    obtain ⟨outbox, rfl, hkept, -⟩ := enqueue_cases h
    exact hkept r hr
  | relay a => exact (act_cases hs.toOneCall h).settled hs hr hstatus

theorem step_invariant (hmax : 1 ≤ cfg.maxAttempts) (hi : s.Invariant cfg)
    (he : e.isUnconfirmed = false) (h : step cfg s e = some t) : t.Invariant cfg := by
  have hsound := step_sound hi.toSound h
  cases e with
  | enqueue =>
    obtain ⟨outbox, rfl, hkept, hnew⟩ := enqueue_cases h
    refine ⟨hsound, ⟨fun r hr hstatus => ?_, hi.marking⟩,
      ⟨fun r hr hstatus => ?_, fun r hr hstatus => ?_⟩,
      hi.toCounted.of_spent rfl (fun k => le_rfl) fun k hk => ?_⟩
    · rcases hnew r hr with hr | ⟨hpending, -⟩
      · exact hi.dispatched r hr hstatus
      · simp [hpending] at hstatus
    · rcases hnew r hr with hr | ⟨-, hattempts⟩
      · exact hi.pending r hr hstatus
      · omega
    · rcases hnew r hr with hr | ⟨hpending, -⟩
      · exact hi.failed r hr hstatus
      · simp [hpending] at hstatus
    · rcases hk with ⟨r, hr, hid, hd⟩ | hmarking
      · exact .inl (.inl ⟨r, hkept r hr, hid, hd⟩)
      · exact .inl (.inr hmarking)
  | relay a =>
    have hacts := act_cases hi.toOneCall h
    exact ⟨hsound, hacts.taken hi.toSound hi.toTaken, hacts.budgeted hi.toSound hi.toBudgeted,
      hacts.counted he hi.toSound hi.toCounted⟩

lemma Invariant.lifeCycle_of (hi : s.Invariant cfg) : s.LifeCycle cfg where
  pending := hi.pending
  failed := hi.failed
  dispatched r hr hstatus := by simpa using hi.dispatched r hr hstatus
  published k := by
    have := hi.published k
    omega
  running := by
    have hsingle := hi.single
    rw [hi.running]
    cases hticks : s.process.ticks with
    | nil => rfl
    | cons tick ticks =>
      rw [hticks, List.length_cons] at hsingle
      obtain rfl : ticks = [] := List.length_eq_zero_iff.mp (by omega)
      rfl

/-- The life cycle of the rows of an outbox that starts empty, in every run whose failed publishes
are failures on the side of the broker too; what is DISPATCHED or FAILED stays so in every run that
goes on from there. -/
theorem lifeCycle {db : Db} {es fs : List OutboxEvent} (hmax : 1 ≤ cfg.maxAttempts)
    (hdb : db.outbox.rows = []) (hes : ∀ e ∈ es, e.isUnconfirmed = false)
    (hs : Machine.exec (step cfg) (start db) es = some s)
    (ht : Machine.exec (step cfg) s fs = some t) :
    s.LifeCycle cfg ∧ ∀ r ∈ s.db.outbox.rows, r.status = .dispatched ∨ r.status = .failed →
      r ∈ t.db.outbox.rows := by
  have hi : s.Invariant cfg :=
    Machine.exec_invariant_of_forall (step cfg)
      (fun u e v hu he hv => step_invariant hmax hu he hv) (invariant_start hdb) hes hs
  refine ⟨hi.lifeCycle_of, fun r hr hstatus => ?_⟩
  have hsettled : r.status ≠ .pending := by rcases hstatus with h | h <;> simp [h]
  have hrun : t.Sound ∧ r ∈ t.db.outbox.rows :=
    Machine.exec_invariant (step cfg) (I := fun u => u.Sound ∧ r ∈ u.db.outbox.rows)
      (fun u e v hu hv => ⟨step_sound hu.1 hv, step_settled hu.1 hv hu.2 hsettled⟩)
      ⟨hi.toSound, hr⟩ ht
  exact hrun.2

namespace Seed

/-- The payload of the first ticket. -/
def createdPayload : Payload :=
  .ticketCreated ⟨140, "TKT-000001", "Cannot log in", .open, .medium, 1, 12, none⟩

/-- A row is enqueued and published; the update fails, so that it is published once more. -/
def republishedRun : List OutboxEvent :=
  [.enqueue (SupportPlatform.Seed.env 1) .ticketCreated createdPayload none rfl, .relay .tick,
    .relay (.proceed 0 (SupportPlatform.Seed.env 2) .accepted), .relay .tick,
    .relay (.proceed 0 (SupportPlatform.Seed.env 3) .accepted),
    .relay (.proceed 0 (SupportPlatform.Seed.unavailable 4) .accepted),
    .relay (.proceed 0 (SupportPlatform.Seed.env 5) .accepted), .relay .tick,
    .relay (.proceed 0 (SupportPlatform.Seed.env 6) .accepted),
    .relay (.proceed 0 (SupportPlatform.Seed.env 7) .accepted),
    .relay (.proceed 0 (SupportPlatform.Seed.env 8) .accepted)]

end Seed

theorem lifeCycle_republished :
    ∃ s, Machine.exec (step .default) (start .empty) Seed.republishedRun = some s ∧
      s.accepted = [150, 150] ∧ s.lost = [150] ∧ s.LifeCycle .default ∧
      ∀ r ∈ s.db.outbox.rows, r.status = .dispatched ∨ r.status = .failed →
        r ∈ s.db.outbox.rows := by
  have hrun : (Machine.exec (step .default) (start .empty) Seed.republishedRun).any fun s =>
      s.accepted = [150, 150] ∧ s.lost = [150] := by decide
  obtain ⟨s, hs, haccepted, hlost⟩ := Machine.exists_of_any hrun
  have hidle : Machine.exec (step .default) s [] = some s := rfl
  exact ⟨s, hs, haccepted, hlost, lifeCycle (by decide) rfl (by decide) hs hidle⟩

end RelayRun

end SupportPlatform
