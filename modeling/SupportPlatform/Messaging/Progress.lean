import Mathlib.Algebra.Order.BigOperators.Group.List
import Mathlib.Algebra.Order.Group.Nat
import SupportPlatform.Messaging.Lifecycle
import SupportPlatform.Messaging.Ordering

/-!
# Progress of the relay

A PENDING row does not wait for ever. Calls of `dispatchPending` may be cut off, queries may fail
and publishes may be refused; but every call that gets to the end of its batch takes an attempt from
a row that is at least as old as the row in question, as long as this one is PENDING. So it has been
settled after as many calls as those rows had attempts left.
-/

namespace SupportPlatform

/-- A row that the event adds is created after an instant. -/
def OutboxEvent.EnqueuesAfter (instant : Time) : OutboxEvent → Prop
  | .enqueue env .. => instant < env.now
  | .relay _ => True

instance (instant : Time) (e : OutboxEvent) : Decidable (e.EnqueuesAfter instant) :=
  match e with
  | .enqueue env _ _ _ _ => inferInstanceAs (Decidable (instant < env.now))
  | .relay _ => inferInstanceAs (Decidable True)

namespace RelayRun

variable {cfg : Config} {instant : Time} {s t : RelayRun} {e : OutboxEvent}

/-! ### The backlog -/

/-- The attempts that a row created up to an instant can still take, while it is PENDING. -/
def attemptsLeft (cfg : Config) (instant : Time) (r : EventOutbox) : Nat :=
  if r.status = .pending ∧ r.createdAt ≤ instant then max 1 (cfg.maxAttempts - r.attempts) else 0

/-- The attempts that all rows created up to an instant can still take. -/
def backlog (cfg : Config) (instant : Time) (db : Db) : Nat :=
  (db.outbox.rows.map (attemptsLeft cfg instant)).sum

/-- A row created after an instant. -/
def Late (instant : Time) (r : EventOutbox) : Prop := instant < r.createdAt

instance (instant : Time) (r : EventOutbox) : Decidable (Late instant r) :=
  inferInstanceAs (Decidable (instant < r.createdAt))

lemma attemptsLeft_pos {r : EventOutbox} (hpending : r.status = .pending)
    (hlate : ¬ Late instant r) : 1 ≤ attemptsLeft cfg instant r := by
  rw [attemptsLeft, if_pos ⟨hpending, Nat.not_lt.mp hlate⟩]
  exact le_max_left _ _

lemma attemptsLeft_eq_zero {r : EventOutbox} (h : r.status ≠ .pending) :
    attemptsLeft cfg instant r = 0 := if_neg fun hpending => h hpending.1

/-- A failed publish takes an attempt. -/
lemma attemptsLeft_failed {r : EventOutbox} {error : String} (hpending : r.status = .pending)
    (hlate : ¬ Late instant r) :
    attemptsLeft cfg instant (OutboxRelayService.failed cfg r.attempts error r) + 1 ≤
      attemptsLeft cfg instant r := by
  have hpos : 1 ≤ attemptsLeft cfg instant r := attemptsLeft_pos hpending hlate
  by_cases hmax : cfg.maxAttempts ≤ r.attempts + 1
  · have hfailed : (OutboxRelayService.failed cfg r.attempts error r).status ≠ .pending := by
      simp [OutboxRelayService.failed, hmax]
    rw [attemptsLeft_eq_zero hfailed]
    omega
  · have hcreated : r.createdAt ≤ instant := Nat.not_lt.mp hlate
    simp only [attemptsLeft, OutboxRelayService.failed, ge_iff_le, hmax, hpending, hcreated,
      if_false, and_self, if_true]
    omega

lemma attemptsLeft_of_late {r : EventOutbox} (h : Late instant r) :
    attemptsLeft cfg instant r = 0 :=
  if_neg fun hcreated => absurd hcreated.2 (Nat.not_le.mpr h)

lemma le_backlog {db : Db} {r : EventOutbox} (hr : r ∈ db.outbox.rows) :
    attemptsLeft cfg instant r ≤ backlog cfg instant db :=
  List.single_le_sum (fun _ _ => Nat.zero_le _) _ (List.mem_map_of_mem hr)

/-- The status update of a row in hand takes an attempt from the backlog, unless the row is late. -/
lemma backlog_update {row : EventOutbox} {rest : List EventOutbox}
    {f : EventOutbox → EventOutbox} (hf : ∀ r, Keyed.key (f r) = Keyed.key r)
    (hhand : InHand s.db (row :: rest)) (hcreated : (f row).createdAt = row.createdAt)
    (hleft : ¬ Late instant row →
      attemptsLeft cfg instant (f row) + 1 ≤ attemptsLeft cfg instant row) :
    backlog cfg instant (s.update row f hf).db + (if Late instant row then 0 else 1) ≤
      backlog cfg instant s.db := by
  have hsum := Table.sum_modify (hhand.mem row List.mem_cons_self) (attemptsLeft cfg instant) f hf
  change backlog cfg instant (s.update row f hf).db + _ = backlog cfg instant s.db + _ at hsum
  split_ifs with hlate
  · have hlate' : Late instant (f row) := by rwa [Late, hcreated]
    rw [attemptsLeft_of_late hlate, attemptsLeft_of_late hlate'] at hsum
    omega
  · have := hleft hlate
    omega

/-! ### Calls that get to the end of their batch -/

/-- Whether a step of a call throws out of the loop over the rows, or before it. -/
def throws (cfg : Config) (env : Env) (db : Db) : Tick → Bool
  | .polling => (env.fault .query).isSome
  | .recording row rest error => updateFails cfg env db (.recording row rest error)
  | _ => false

/-- The calls that a step brings to the end of their batch. -/
def completed (cfg : Config) (s : RelayRun) (e : OutboxEvent) (t : RelayRun) : List Unit :=
  match e with
  | .relay (.proceed i env _) =>
    match s.process.ticks[i]? with
    | some tick => if t.process.ticks = [] ∧ throws cfg env s.db tick = false then [()] else []
    | none => []
  | _ => []

/-- The calls in progress that have only late rows left to handle. -/
def lateCalls (instant : Time) (ticks : List Tick) : Nat :=
  ticks.countP fun tick => tick.rows.head?.any fun row => Late instant row

lemma lateCalls_singleton {tick : Tick} {row : EventOutbox} {rest : List EventOutbox}
    (hrows : tick.rows = row :: rest) :
    lateCalls instant [tick] = if Late instant row then 1 else 0 := by
  simp [lateCalls, hrows]

/-- A call that goes on has late rows left at most, and otherwise it is at its end. -/
lemma lateCalls_next (instant : Time) (rows : List EventOutbox) :
    lateCalls instant (Tick.next rows).toList +
      (if (Tick.next rows).toList = [] then 1 else 0) ≤ 1 := by
  cases rows with
  | nil => simp [lateCalls, Tick.next]
  | cons row rest =>
    have hle : lateCalls instant (Tick.next (row :: rest)).toList ≤ 1 := List.countP_le_length
    simpa [Tick.next] using hle

/-! ### What a step does to the backlog -/

/-- What a step of a call leaves of the outbox and of the calls: the call throws; it has polled; it
goes on with the row it has; or it has updated this row. -/
inductive Proceeds (cfg : Config) (env : Env) (s : RelayRun) : Tick → Db → List Tick → Prop
  | threw {tick} (h : throws cfg env s.db tick = true) : Proceeds cfg env s tick s.db []
  | polled : Proceeds cfg env s .polling s.db
      (Tick.next (OutboxRelayService.findPending cfg env s.db)).toList
  | goesOn {tick tick' row rest} (hrows : Tick.rows tick = row :: rest)
      (hrows' : Tick.rows tick' = row :: rest) : Proceeds cfg env s tick s.db [tick']
  | updated {tick row rest f hf} (hrows : Tick.rows tick = row :: rest)
      (hupdate : f = OutboxRelayService.dispatched env.now ∨
        ∃ error, f = OutboxRelayService.failed cfg row.attempts error) :
      Proceeds cfg env s tick (s.update row f hf).db (Tick.next rest).toList

theorem act_proceeds (hone : s.OneCall) {tick : Tick} (hticks : s.process.ticks = [tick])
    {env : Env} {publish : PublishOutcome} (h : act cfg s (.proceed 0 env publish) = some t) :
    Proceeds cfg env s tick t.db t.process.ticks := by
  obtain rfl := Option.some.inj ((act_proceed hone hticks).symm.trans h)
  cases tick with
  | polling =>
    simp only [resume, OutboxRelayService.advance]
    cases hfault : env.fault .query with
    | none => exact .polled
    | some e => exact .threw (by simp [throws, hfault])
  | publishing row rest =>
    cases publish <;> exact .goesOn rfl rfl
  | marking row rest =>
    obtain ⟨⟨r, db'⟩, hok⟩ :
      ∃ p, (OutboxRelayService.markDispatched row).commit env s.db = p := ⟨_, rfl⟩
    simp only [resume, OutboxRelayService.advance, hok]
    cases r with
    | error e =>
      rw [Transaction.commit_error hok]
      exact .goesOn rfl rfl
    | ok r =>
      rw [OutboxRelayService.markDispatched_commit hok]
      exact .updated (f := OutboxRelayService.dispatched env.now) rfl (.inl rfl)
  | recording row rest error =>
    obtain ⟨⟨r, db'⟩, hok⟩ :
      ∃ p, (OutboxRelayService.recordFailure cfg row error).commit env s.db = p := ⟨_, rfl⟩
    simp only [resume, OutboxRelayService.advance, hok]
    cases r with
    | error e =>
      rw [Transaction.commit_error hok]
      exact .threw (by simp [throws, updateFails, hok, Except.isOk, Except.toBool])
    | ok r =>
      rw [OutboxRelayService.recordFailure_commit hok]
      exact .updated (f := OutboxRelayService.failed cfg row.attempts error) rfl
        (.inr ⟨error, rfl⟩)

/-- The row of a key waits: it is PENDING, and the calls so far and the backlog up to its creation
stay below a bound. -/
def Waits (cfg : Config) (instant : Time) (k : Uuid) (bound : Nat) (s : RelayRun)
    (calls : List Unit) : Prop :=
  ∃ r ∈ s.db.outbox.rows, r.id = k ∧ r.status = .pending ∧ ¬ Late instant r ∧
    calls.length + lateCalls instant s.process.ticks + backlog cfg instant s.db ≤ bound

/-- The row of a key is no longer PENDING. -/
def Settled (k : Uuid) (s : RelayRun) : Prop :=
  ∃ r ∈ s.db.outbox.rows, r.id = k ∧ r.status ≠ .pending

lemma Waits.of_le {k : Uuid} {bound : Nat} {calls : List Unit}
    (hw : s.Waits cfg instant k bound calls) (hdb : t.db = s.db)
    (hle : lateCalls instant t.process.ticks ≤ lateCalls instant s.process.ticks) :
    t.Waits cfg instant k bound calls := by
  obtain ⟨r, hr, hid, hpending, hlate, hbound⟩ := hw
  refine ⟨r, hdb ▸ hr, hid, hpending, hlate, ?_⟩
  rw [hdb]
  omega

lemma attemptsLeft_update {env : Env} {row : EventOutbox} {f : EventOutbox → EventOutbox}
    (hpending : row.status = .pending)
    (hupdate : f = OutboxRelayService.dispatched env.now ∨
      ∃ error, f = OutboxRelayService.failed cfg row.attempts error)
    (hlate : ¬ Late instant row) :
    attemptsLeft cfg instant (f row) + 1 ≤ attemptsLeft cfg instant row := by
  rcases hupdate with rfl | ⟨error, rfl⟩
  · have hsettled : (OutboxRelayService.dispatched env.now row).status ≠ .pending := by
      simp [OutboxRelayService.dispatched]
    rw [attemptsLeft_eq_zero hsettled, Nat.zero_add]
    exact attemptsLeft_pos hpending hlate
  · exact attemptsLeft_failed hpending hlate

/-- A batch that is polled while a row is PENDING begins with a row that is not younger. -/
lemma exists_findPending (hbatch : 1 ≤ cfg.batchSize) (env : Env) {db : Db} {r : EventOutbox}
    (hr : r ∈ db.outbox.rows) (hpending : r.status = .pending) :
    ∃ row rest, OutboxRelayService.findPending cfg env db = row :: rest ∧
      row.createdAt ≤ r.createdAt := by
  have hsorted := OutboxRelayService.pairwise_findPending cfg env db
  have holdest := @OutboxRelayService.findPending_oldest cfg env db r hr hpending
  cases hrows : OutboxRelayService.findPending cfg env db with
  | nil =>
    have hlength : (OutboxRelayService.findPending cfg env db).length = 0 := by simp [hrows]
    have hmem : r ∈ db.outbox.rows.filter (·.status = .pending) :=
      List.mem_filter.mpr ⟨hr, by simpa using hpending⟩
    have hpos := List.length_pos_of_mem hmem
    rw [OutboxRelayService.findPending, List.length_take, List.length_insertionSort] at hlength
    omega
  | cons row rest =>
    refine ⟨row, rest, rfl, ?_⟩
    rw [hrows] at hsorted holdest
    rcases holdest with hmem | hyounger
    · rcases List.mem_cons.mp hmem with rfl | hmem
      · exact le_rfl
      · exact ((List.pairwise_cons.mp hsorted).1 r hmem).elim Nat.le_of_lt fun h => h.1.le
    · exact (hyounger row List.mem_cons_self).elim Nat.le_of_lt fun h => h.1.le

/-- A step of a call keeps the balance of the calls and the backlog. -/
theorem Proceeds.waits {env : Env} {tick : Tick} {k : Uuid} {bound : Nat} {calls new : List Unit}
    (hbatch : 1 ≤ cfg.batchSize) (hs : s.Sound) (hticks : s.process.ticks = [tick])
    (h : Proceeds cfg env s tick t.db t.process.ticks)
    (hnew : new = if t.process.ticks = [] ∧ throws cfg env s.db tick = false then [()] else [])
    (hw : s.Waits cfg instant k bound calls) :
    t.Settled k ∨ t.Waits cfg instant k bound (calls ++ new) := by
  have hhand := hs.inHand hticks
  generalize hdb : t.db = db, hafter : t.process.ticks = ticks at h hnew
  cases h with
  | threw hthrows =>
    obtain rfl : new = [] := by rw [hnew, hthrows]; simp
    rw [List.append_nil]
    exact .inr (hw.of_le hdb (by simp [hafter, lateCalls]))
  | polled =>
    obtain ⟨r, hr, -, hpending, hlate, -⟩ := id hw
    obtain ⟨row, rest, hrows, hcreated⟩ := exists_findPending hbatch env hr hpending
    have hrow : ¬ Late instant row := fun h => hlate (Nat.lt_of_lt_of_le h hcreated)
    rw [hrows] at hnew hafter
    obtain rfl : new = [] := by rw [hnew]; simp [Tick.next]
    rw [List.append_nil]
    refine .inr (hw.of_le hdb ?_)
    rw [hafter]
    simp [Tick.next, lateCalls_singleton (Tick.rows.eq_2 row rest), hrow]
  | @goesOn _ tick' row rest hrows hrows' =>
    obtain rfl : new = [] := by rw [hnew]; simp
    rw [List.append_nil]
    refine .inr (hw.of_le hdb ?_)
    rw [hafter, hticks, lateCalls_singleton hrows', lateCalls_singleton hrows]
  | @updated _ row rest f hf hrows hupdate =>
    obtain ⟨r, hr, hid, hpending, hlate, hbound⟩ := hw
    rw [hticks] at hbound
    rw [hrows] at hhand
    have hrow := hhand.mem row List.mem_cons_self
    have hcreated : (f row).createdAt = row.createdAt := by
      rcases hupdate with rfl | ⟨error, rfl⟩ <;> rfl
    have hleft (hlate : ¬ Late instant row) :
        attemptsLeft cfg instant (f row) + 1 ≤ attemptsLeft cfg instant row :=
      attemptsLeft_update (hhand.pending row List.mem_cons_self) hupdate hlate
    have hbacklog := backlog_update hf hhand hcreated hleft
    have hnext := lateCalls_next instant rest
    have hcalls : new.length ≤ if (Tick.next rest).toList = [] then 1 else 0 := by
      rw [hnew]
      by_cases hend : (Tick.next rest).toList = [] <;>
      cases throws cfg env s.db tick <;> simp [hend]
    have hbound' : (calls ++ new).length + lateCalls instant t.process.ticks +
        backlog cfg instant t.db ≤ bound := by
      rw [lateCalls_singleton hrows] at hbound
      rw [hdb, hafter, List.length_append]
      split_ifs at hbound hbacklog <;> omega
    have hmem {a : EventOutbox} : a ∈ t.db.outbox.rows ↔ _ := hdb ▸ mem_rows_update hrow
    by_cases hkey : r.id = row.id
    · obtain rfl := s.db.outbox.eq_of_key_eq hr hrow hkey
      have hrowId : (f r).id = k := (hf r).trans hid
      by_cases hsettled : (f r).status = .pending
      · refine .inr ⟨f r, hmem.mpr (.inl rfl), hrowId, hsettled, ?_, hbound'⟩
        rwa [Late, hcreated]
      · exact .inl ⟨f r, hmem.mpr (.inl rfl), hrowId, hsettled⟩
    · exact .inr ⟨r, hmem.mpr (.inr ⟨hr, hkey⟩), hid, hpending, hlate, hbound'⟩


/-- A row that is enqueued later adds nothing to the backlog. -/
lemma waits_enqueue {env : Env} {routingKey : RoutingKey} {payload : Payload}
    {correlationId : Option String} {key_eq : payload.routingKey = routingKey} {k : Uuid}
    {bound : Nat} {calls : List Unit} (hnow : instant < env.now)
    (h : step cfg s (.enqueue env routingKey payload correlationId key_eq) = some t)
    (hw : s.Waits cfg instant k bound calls) : t.Waits cfg instant k bound calls := by
  obtain rfl := Option.some.inj h
  obtain ⟨⟨r, db'⟩, hc⟩ : ∃ p, (EventPublisherService.enqueue routingKey payload correlationId
    key_eq).commit env s.db = p := ⟨_, rfl⟩
  rw [hc]
  cases r with
  | error e =>
    rw [Transaction.commit_error hc]
    exact hw
  | ok u =>
    obtain ⟨-, outbox, hinsert, rfl⟩ :=
      EventPublisherService.enqueue_eq_ok.mp (Transaction.commit_eq_ok.mp hc)
    obtain ⟨r, hr, hid, hpending, hlate, hbound⟩ := hw
    obtain ⟨-, hrows, -⟩ := Table.insert?_eq_some.mp hinsert
    refine ⟨r, (Table.mem_insert? hinsert).mpr (.inl hr), hid, hpending, hlate, ?_⟩
    rw [backlog] at hbound ⊢
    rwa [hrows, List.map_append, List.sum_append, List.map_singleton,
      attemptsLeft_of_late (by exact hnow), List.sum_singleton, Nat.add_zero]

theorem step_waits {k : Uuid} {bound : Nat} {calls : List Unit} (hbatch : 1 ≤ cfg.batchSize)
    (hs : s.Sound) (he : e.EnqueuesAfter instant) (h : step cfg s e = some t)
    (hw : s.Waits cfg instant k bound calls) :
    t.Settled k ∨ t.Waits cfg instant k bound (calls ++ completed cfg s e t) := by
  cases e with
  | enqueue =>
    simp only [completed, List.append_nil]
    exact .inr (waits_enqueue he h hw)
  | relay a =>
    cases a with
    | tick =>
      simp only [completed, List.append_nil]
      obtain ⟨⟨db, broker, process⟩, hstep, rfl⟩ := Option.map_eq_some_iff.mp h
      rw [OutboxRelayService.step] at hstep
      split_ifs at hstep <;> cases hstep
      · exact .inr (hw.of_le rfl le_rfl)
      · exact .inr (hw.of_le rfl (by simp [lateCalls, Tick.rows]))
    | destroy =>
      simp only [completed, List.append_nil]
      cases h
      exact .inr (hw.of_le rfl le_rfl)
    | crash =>
      simp only [completed, List.append_nil]
      cases h
      exact .inr (hw.of_le rfl (by simp [lateCalls, OutboxRelayService.started]))
    | proceed i env publish =>
      obtain ⟨_, hstep, -⟩ := Option.map_eq_some_iff.mp h
      obtain ⟨tick, htick, -⟩ := Option.map_eq_some_iff.mp hstep
      obtain ⟨hticks, rfl⟩ := hs.eq_singleton htick
      refine (act_proceeds hs.toOneCall hticks h).waits hbatch hs hticks ?_ hw
      rw [completed, htick]

/-! ### What a row is settled as -/

/-- The row of a key is out of attempts when it is FAILED. -/
def OutOfAttempts (cfg : Config) (k : Uuid) (s : RelayRun) : Prop :=
  ∀ r ∈ s.db.outbox.rows, r.id = k → r.status = .failed → cfg.maxAttempts ≤ r.attempts

lemma step_outOfAttempts {k : Uuid} (hs : s.Sound) (h : step cfg s e = some t)
    (hk : s.OutOfAttempts cfg k) : t.OutOfAttempts cfg k := by
  cases e with
  | enqueue =>
    obtain ⟨outbox, rfl, -, hnew⟩ := enqueue_cases h
    intro r hr hid hfailed
    rcases hnew r hr with hr | ⟨hpending, -⟩
    · exact hk r hr hid hfailed
    · simp [hpending] at hfailed
  | relay a =>
    cases act_cases hs.toOneCall h with
    | marked hticks =>
      intro r hr hid hfailed
      rcases (mem_rows_update ((hs.inHand hticks).mem _ List.mem_cons_self)).mp hr with
        rfl | ⟨hr, -⟩
      · cases hfailed
      · exact hk r hr hid hfailed
    | recorded hticks =>
      intro r hr hid hfailed
      rcases (mem_rows_update ((hs.inHand hticks).mem _ List.mem_cons_self)).mp hr with
        rfl | ⟨hr, -⟩
      · simp only [OutboxRelayService.failed] at hfailed ⊢
        split_ifs at hfailed with hmax
        exact hmax
      · exact hk r hr hid hfailed
    | _ => exact hk

lemma step_taken {before : List Uuid} (hs : s.Sound) (h : step cfg s e = some t)
    (hk : s.Taken before) : t.Taken before := by
  cases e with
  | enqueue =>
    obtain ⟨outbox, rfl, -, hnew⟩ := enqueue_cases h
    refine ⟨fun r hr hdispatched => ?_, hk.marking⟩
    rcases hnew r hr with hr | ⟨hpending, -⟩
    · exact hk.dispatched r hr hdispatched
    · simp [hpending] at hdispatched
  | relay a => exact (act_cases hs.toOneCall h).taken hs hk

/-! ### Runs -/

theorem exec_sound {es : List OutboxEvent} (hs : s.Sound)
    (h : Machine.exec (step cfg) s es = some t) : t.Sound :=
  Machine.exec_invariant (step cfg) (fun _ _ _ => step_sound) hs h

/-- What has been settled in a run stays as it is. -/
theorem exec_settled {es : List OutboxEvent} {r : EventOutbox} (hs : s.Sound)
    (h : Machine.exec (step cfg) s es = some t) (hr : r ∈ s.db.outbox.rows)
    (hstatus : r.status ≠ .pending) : r ∈ t.db.outbox.rows :=
  (Machine.exec_invariant (step cfg) (I := fun u => u.Sound ∧ r ∈ u.db.outbox.rows)
    (fun _ _ _ hu hv => ⟨step_sound hu.1 hv, step_settled hu.1 hv hu.2 hstatus⟩) ⟨hs, hr⟩ h).2

/-- The rows that are DISPATCHED have been taken, but for those that were when the run began. -/
theorem exec_taken {db : Db} {es : List OutboxEvent}
    (h : Machine.exec (step cfg) (start db) es = some t) : t.Taken (dispatchedIds db) :=
  (Machine.exec_invariant (step cfg) (I := fun u => u.Sound ∧ u.Taken (dispatchedIds db))
    (fun _ _ _ hu hv => ⟨step_sound hu.1 hv, step_taken hu.1 hv hu.2⟩)
    ⟨sound_start db, taken_start db⟩ h).2

lemma exec_outOfAttempts {k : Uuid} {es : List OutboxEvent} (hs : s.Sound)
    (h : Machine.exec (step cfg) s es = some t) (hk : s.OutOfAttempts cfg k) :
    t.OutOfAttempts cfg k :=
  (Machine.exec_invariant (step cfg) (I := fun u => u.Sound ∧ u.OutOfAttempts cfg k)
    (fun _ _ _ hu hv => ⟨step_sound hu.1 hv, step_outOfAttempts hu.1 hv hu.2⟩) ⟨hs, hk⟩ h).2

/-- A row that waits is settled, or it still waits after the calls of the run. -/
theorem exec_waits {k : Uuid} {bound : Nat} {es : List OutboxEvent} (hbatch : 1 ≤ cfg.batchSize)
    (hs : s.Sound) (hes : ∀ e ∈ es, e.EnqueuesAfter instant)
    (h : Machine.exec (step cfg) s es = some t) (hw : s.Waits cfg instant k bound []) :
    t.Settled k ∨
      t.Waits cfg instant k bound (Machine.collect (step cfg) (completed cfg) s es) := by
  have hrun := Machine.exec_guarded_collect_invariant (step cfg) (f := completed cfg) (l := [])
    (I := fun u calls => u.Sound ∧ (u.Settled k ∨ u.Waits cfg instant k bound calls))
    (fun u e v calls hu he hv => ⟨step_sound hu.1 hv, ?_⟩) ⟨hs, .inr hw⟩
    (.of_forall (step cfg) hes) h
  · exact hrun.2
  · rcases hu.2 with ⟨r, hr, hid, hsettled⟩ | hwaits
    · exact .inl ⟨r, step_settled hu.1 hv hr hsettled, hid, hsettled⟩
    · exact step_waits hbatch hu.1 he hv hwaits

/-- A row that is PENDING in any state of a run has been settled when as many calls have got to the
end of their batch as the rows that are not younger have attempts left, and one more when a call is
in progress: it is DISPATCHED and the broker has its message, or it is FAILED and out of attempts.
Only the rows enqueued from then on are younger than it; publishes, queries and whole calls may fail
at any time. -/
theorem settled_of_backlog {db : Db} {es fs : List OutboxEvent} {r : EventOutbox}
    (hbatch : 1 ≤ cfg.batchSize) (hs : Machine.exec (step cfg) (start db) es = some s)
    (hr : r ∈ s.db.outbox.rows) (hpending : r.status = .pending)
    (hfs : ∀ e ∈ fs, e.EnqueuesAfter r.createdAt) (ht : Machine.exec (step cfg) s fs = some t)
    (hcalls : backlog cfg r.createdAt s.db + s.process.ticks.length ≤
      (Machine.collect (step cfg) (completed cfg) s fs).length) :
    ∃ r' ∈ t.db.outbox.rows, r'.id = r.id ∧
      (r'.status = .dispatched ∧ r.id ∈ t.accepted ∨
        r'.status = .failed ∧ cfg.maxAttempts ≤ r'.attempts) := by
  have hsound : s.Sound := exec_sound (sound_start db) hs
  have hlate : ¬ Late r.createdAt r := lt_irrefl r.createdAt
  have hwaits : s.Waits cfg r.createdAt r.id
      (backlog cfg r.createdAt s.db + s.process.ticks.length) [] := by
    have hle : lateCalls r.createdAt s.process.ticks ≤ s.process.ticks.length :=
      List.countP_le_length
    exact ⟨r, hr, rfl, hpending, hlate, by rw [List.length_nil]; omega⟩
  rcases exec_waits hbatch hsound hfs ht hwaits with hsettled | ⟨r', hr', -, hpending', hlate', hle⟩
  · obtain ⟨r', hr', hid, hstatus⟩ := hsettled
    refine ⟨r', hr', hid, ?_⟩
    cases hstatus' : r'.status with
    | pending => exact absurd hstatus' hstatus
    | dispatched =>
      have htaken := exec_taken ((Machine.exec_append (step cfg)).mpr ⟨s, hs, ht⟩)
      refine .inl ⟨rfl, hid ▸ (htaken.dispatched r' hr' hstatus').resolve_left fun hbefore => ?_⟩
      -- what was DISPATCHED when the run began is not PENDING in the middle of it
      obtain ⟨r₀, hr₀, hid₀⟩ := List.mem_map.mp hbefore
      obtain ⟨hr₀, hdispatched⟩ := List.mem_filter.mp hr₀
      have hstatus₀ : r₀.status ≠ .pending := by simp [of_decide_eq_true hdispatched]
      have hr₀' := exec_settled (sound_start db) hs hr₀ hstatus₀
      obtain rfl := s.db.outbox.eq_of_key_eq hr₀' hr (hid₀.trans hid)
      exact hstatus₀ hpending
    | failed =>
      have hattempts : s.OutOfAttempts cfg r.id := by
        intro a ha hida hfailed
        obtain rfl := s.db.outbox.eq_of_key_eq ha hr hida
        simp [hpending] at hfailed
      exact .inr ⟨rfl, exec_outOfAttempts hsound ht hattempts r' hr' hid hstatus'⟩
  · -- a row that still waits has attempts left, and the calls have used up the whole bound
    have hleft : 1 ≤ backlog cfg r.createdAt t.db :=
      (attemptsLeft_pos hpending' hlate').trans (le_backlog hr')
    omega

namespace Seed

lemma created_key : createdPayload.routingKey = .ticketCreated := rfl

/-- The process crashes in its first call, the message of the older row is refused, and a row is
enqueued in between. -/
def waitingRun : List OutboxEvent :=
  [.relay .tick, .relay .crash, .relay .tick,
    .relay (.proceed 0 (SupportPlatform.Seed.env 4) .accepted),
    .relay (.proceed 0 (SupportPlatform.Seed.env 5) (.refused "Channel closed")),
    .enqueue (SupportPlatform.Seed.env 6) .ticketCreated createdPayload none created_key,
    .relay (.proceed 0 (SupportPlatform.Seed.env 7) .accepted), .relay .tick,
    .relay (.proceed 0 (SupportPlatform.Seed.env 8) .accepted),
    .relay (.proceed 0 (SupportPlatform.Seed.env 9) .accepted),
    .relay (.proceed 0 (SupportPlatform.Seed.env 10) .accepted)]

end Seed

theorem settled_of_backlog_waiting :
    ∃ t, Machine.exec (step { Config.default with batchSize := 1, maxAttempts := 1 })
        (start Seed.closedDb) Seed.waitingRun = some t ∧
      ∃ r ∈ t.db.outbox.rows, r.id = 260 ∧
        (r.status = .dispatched ∧ 260 ∈ t.accepted ∨ r.status = .failed ∧ 1 ≤ r.attempts) := by
  have hrun : (Machine.exec (step { Config.default with batchSize := 1, maxAttempts := 1 })
      (start Seed.closedDb) Seed.waitingRun).any fun _ => True := by decide
  obtain ⟨t, ht, -⟩ := Machine.exists_of_any hrun
  exact ⟨t, ht, settled_of_backlog (r := Seed.closedRow) (by decide)
    (Machine.exec_nil (step { Config.default with batchSize := 1, maxAttempts := 1 }) _)
    (by decide) rfl (by decide) ht (by decide)⟩

end RelayRun

end SupportPlatform
