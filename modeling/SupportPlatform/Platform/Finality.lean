import SupportPlatform.Platform.Routing

/-!
# The rows of a shared outbox

Several processes run the relay over one outbox. Each writes the status and the attempts of a row
from the copy it has read, by the id alone, whatever the row says by then. So a process that records
a failed publish late takes back what another one has settled.
-/

namespace SupportPlatform

/-- No row is lost, a row that was dispatched is so still, and no row has fewer attempts. -/
def Db.KeepsDispatched (s t : Db) : Prop :=
  ∀ r ∈ s.outbox.rows, ∃ r' ∈ t.outbox.rows, r'.id = r.id ∧
    (r.status = .dispatched → r'.status = .dispatched) ∧ r.attempts ≤ r'.attempts

namespace Db.KeepsDispatched

variable {s t u : Db}

lemma refl (s : Db) : s.KeepsDispatched s :=
  fun r hr => ⟨r, hr, rfl, fun h => h, Nat.le_refl _⟩

lemma trans (h : s.KeepsDispatched t) (h' : t.KeepsDispatched u) : s.KeepsDispatched u := by
  intro r hr
  obtain ⟨r', hr', hid, hstatus, hattempts⟩ := h r hr
  obtain ⟨r'', hr'', hid', hstatus', hattempts'⟩ := h' r' hr'
  exact ⟨r'', hr'', hid'.trans hid, fun hd => hstatus' (hstatus hd), hattempts.trans hattempts'⟩

lemma of_append {rows : List EventOutbox} (h : t.outbox.rows = s.outbox.rows ++ rows) :
    s.KeepsDispatched t :=
  fun r hr => ⟨r, h ▸ List.mem_append_left rows hr, rfl, fun h => h, Nat.le_refl _⟩

lemma of_eq (h : t.outbox = s.outbox) : s.KeepsDispatched t :=
  @of_append s t [] (by rw [h, List.append_nil])

/-- An update of a row keeps the outbox if and only if it keeps this row. -/
lemma modify_iff {k : Uuid} {f : EventOutbox → EventOutbox}
    {hf : ∀ r, Keyed.key (f r) = Keyed.key r} :
    s.KeepsDispatched { s with outbox := s.outbox.modify k f hf } ↔
      ∀ r ∈ s.outbox.find? k,
        (r.status = .dispatched → (f r).status = .dispatched) ∧ r.attempts ≤ (f r).attempts := by
  constructor
  · intro h r hfind
    obtain ⟨hr, rfl⟩ := Table.find?_eq_some.mp hfind
    obtain ⟨r', hr', hid, hkept⟩ := h r hr
    rcases (Table.mem_modify hr hf).mp hr' with rfl | ⟨-, hne⟩
    · exact hkept
    · exact absurd hid hne
  · intro h r hr
    by_cases hk : r.id = k
    · subst hk
      obtain ⟨hstatus, hattempts⟩ := h r (Table.find?_self hr)
      exact ⟨f r, (Table.mem_modify hr hf).mpr (.inl rfl), hf r, hstatus, hattempts⟩
    · have hkept : r ∈ (s.outbox.modify k f hf).rows :=
        Table.mem_modifyWhere.mpr ⟨r, hr, by simp [hk]⟩
      exact ⟨r, hkept, rfl, fun h => h, Nat.le_refl _⟩

end Db.KeepsDispatched

/-! ### One step of a relay -/

/-- What a call is about to record is no older than the row: it has not been dispatched since it was
read, and no more attempts have been recorded than the one that failed makes. -/
def Tick.RecordsInTime (env : Env) (db : Db) : Tick → Prop
  | .recording row _ _ =>
    env.fault .query = none → ∀ r ∈ db.outbox.find? row.id,
      r.status ≠ .dispatched ∧ r.attempts ≤ row.attempts + 1
  | _ => True

instance (env : Env) (db : Db) (tick : Tick) : Decidable (tick.RecordsInTime env db) := by
  unfold Tick.RecordsInTime
  split <;> infer_instance

namespace OutboxRelayService

variable {cfg : Config} {env : Env} {db : Db} {broker : Broker}

lemma recordFailure_eq_ok {row a : EventOutbox} {error : String} {db' : Db} :
    recordFailure cfg row error env db = .ok (a, db') ↔
      env.fault .query = none ∧ ∃ r, db.outbox.find? row.id = some r ∧
        a = failed cfg row.attempts error r ∧
        db' = { db with
          outbox := db.outbox.modify row.id (failed cfg row.attempts error) fun _ => rfl } :=
  (attempt_updateRow_eq_ok Db.outbox fun db outbox => { db with outbox }).trans (by simp)

/-- A recorded failure leaves the row PENDING or FAILED, with one more attempt than was read. -/
lemma keepsDispatched_failed {row : EventOutbox} {error : String} :
    db.KeepsDispatched
        { db with
          outbox := db.outbox.modify row.id (failed cfg row.attempts error) fun _ => rfl } ↔
      ∀ r ∈ db.outbox.find? row.id, r.status ≠ .dispatched ∧ r.attempts ≤ row.attempts + 1 := by
  refine Db.KeepsDispatched.modify_iff.trans (forall₂_congr fun r _ => and_congr_left fun _ => ?_)
  have hstatus : (failed cfg row.attempts error r).status ≠ .dispatched := by
    simp only [failed]
    split <;> simp
  simp [hstatus]

lemma keepsDispatched_recording {row : EventOutbox} {rest : List EventOutbox} {error : String} :
    db.KeepsDispatched ((recordFailure cfg row error).commit env db).2 ↔
      (Tick.recording row rest error).RecordsInTime env db := by
  obtain ⟨⟨result, db'⟩, hcommit⟩ : ∃ p, (recordFailure cfg row error).commit env db = p := ⟨_, rfl⟩
  rw [hcommit]
  cases result with
  | error e =>
    obtain rfl := Transaction.commit_error hcommit
    refine iff_of_true (.refl db') fun hfault r hr => ?_
    -- with the row there and no fault the update would have gone through
    have hok : recordFailure cfg row error env db' = .ok _ :=
      recordFailure_eq_ok.mpr ⟨hfault, r, hr, rfl, rfl⟩
    cases hcommit.symm.trans (Transaction.commit_eq_ok.mpr hok)
  | ok a =>
    obtain ⟨hfault, -⟩ := recordFailure_eq_ok.mp (Transaction.commit_eq_ok.mp hcommit)
    rw [recordFailure_commit hcommit]
    exact keepsDispatched_failed.trans ⟨fun h _ => h, fun h => h hfault⟩

/-- The step lemma of a call of `dispatchPending`. -/
lemma advance_keepsDispatched {publish : PublishOutcome} {tick : Tick} :
    db.KeepsDispatched (advance cfg env publish db broker tick).1 ↔
      tick.RecordsInTime env db := by
  cases tick with
  | polling =>
    refine iff_of_true ?_ trivial
    rw [advance]
    split <;> exact .refl db
  | publishing row rest => exact iff_of_true (.refl db) trivial
  | marking row rest =>
    refine iff_of_true ?_ trivial
    rw [advance]
    split
    · next he =>
      rw [Transaction.commit_error he]
      exact .refl db
    · next hok =>
      rw [markDispatched_commit hok]
      exact Db.KeepsDispatched.modify_iff.mpr fun r _ => ⟨fun _ => rfl, Nat.le_refl _⟩
  | recording row rest error =>
    have hkeeps : db.KeepsDispatched ((recordFailure cfg row error).commit env db).2 ↔
        (Tick.recording row rest error).RecordsInTime env db := keepsDispatched_recording
    rw [← hkeeps, advance]
    split
    · next hcommit => rw [hcommit]
    · next hcommit => rw [hcommit]

end OutboxRelayService

/-! ### Runs -/

namespace World

open Machine

variable {cfg : Config} {w w' : World} {e : Event}

/-- The condition on a step: a relay that records a failed publish does so in time. -/
def RecordsInTime (w : World) : Event → Prop
  | .relay i (.proceed k env _) =>
    ∀ p ∈ w.relays[i]?, ∀ tick ∈ p.ticks[k]?, tick.RecordsInTime env w.db
  | _ => True

instance (w : World) (e : Event) : Decidable (w.RecordsInTime e) := by
  unfold RecordsInTime
  split <;> infer_instance

lemma keepsDispatched_of_steps (h : Steps cfg w e w') (he : ∀ i a, e ≠ .relay i a) :
    w.db.KeepsDispatched w'.db := by
  cases h with
  | proceed _ h =>
    obtain ⟨rows, hrows, -⟩ := h.outbox
    exact .of_append hrows
  | relay _ _ => exact absurd rfl (he _ _)
  | consume _ h | finish _ h => exact .of_eq h.outbox
  | _ => exact .refl w.db

/-- The step lemma: what has been dispatched is kept exactly when failures are recorded in time. -/
lemma keepsDispatched_iff (h : step cfg w e = some w') :
    w.db.KeepsDispatched w'.db ↔ w.RecordsInTime e := by
  cases e with
  | relay i a =>
    obtain ⟨p, hp, h⟩ := Option.bind_eq_some_iff.mp h
    obtain ⟨⟨db, broker, p'⟩, hstep, rfl⟩ := Option.map_eq_some_iff.mp h
    cases a with
    | proceed k env publish =>
      obtain ⟨tick, htick, hadvance⟩ := Option.map_eq_some_iff.mp hstep
      have hdb : db = (OutboxRelayService.advance cfg env publish w.db w.broker tick).1 := by
        split at hadvance <;> next heq => cases hadvance; rw [heq]
      have hcondition : w.RecordsInTime (.relay i (.proceed k env publish)) ↔
          tick.RecordsInTime env w.db := by
        simp [RecordsInTime, hp, htick]
      rw [hcondition, hdb]
      exact OutboxRelayService.advance_keepsDispatched
    | tick =>
      rw [OutboxRelayService.step] at hstep
      split at hstep <;> cases hstep <;> exact iff_of_true (.refl w.db) trivial
    | destroy | crash =>
      cases hstep
      exact iff_of_true (.refl w.db) trivial
  | _ =>
    exact iff_of_true (keepsDispatched_of_steps (step_cases h) fun _ _ he => by cases he) trivial

/-- In a run of any number of relays a row that has become DISPATCHED stays so and attempts never
decrease, from each state to all later ones, if and only if every failed publish is recorded in
time. -/
theorem dispatched_final_iff (cfg : Config) {w₀ w : World} {es : List Event}
    (h : exec (step cfg) w₀ es = some w) :
    (∀ fs gs s t, fs ++ gs <+: es → exec (step cfg) w₀ fs = some s →
      exec (step cfg) s gs = some t → s.db.KeepsDispatched t.db) ↔
      Guarded (step cfg) RecordsInTime w₀ es :=
  exec_relation_iff (step cfg) (R := fun s t => s.db.KeepsDispatched t.db) (fun s => .refl s.db)
    (fun _ _ _ hst htu => hst.trans htu) (fun _ _ _ h => keepsDispatched_iff h) h

/-- Two relays poll the event of a new ticket; the first one dispatches it. -/
def sharedRun : List Event :=
  [.arrive (some 13) none (.createTicket Seed.ticketDto), .proceed 0 (Seed.env 1), .connect,
    .relay 0 .tick, .relay 1 .tick, .relay 0 (.proceed 0 (Seed.env 2) .accepted),
    .relay 1 (.proceed 0 (Seed.env 3) .accepted), .relay 0 (.proceed 0 (Seed.env 4) .accepted),
    .relay 0 (.proceed 0 (Seed.env 5) .accepted)]

/-- The second one fails to publish it and records the failure. -/
def lateFailure : List Event :=
  [.relay 1 (.proceed 0 (Seed.env 6) (.refused "Channel closed")),
    .relay 1 (.proceed 0 (Seed.env 7) .accepted)]

theorem dispatched_final_iff_shared :
    ∃ w, exec (step .default) (initial Seed.organizations Seed.users 2) sharedRun = some w ∧
      w.db.outbox.rows.map (·.status) = [.dispatched] ∧
      ((∀ fs gs s t, fs ++ gs <+: sharedRun →
          exec (step .default) (initial Seed.organizations Seed.users 2) fs = some s →
          exec (step .default) s gs = some t → s.db.KeepsDispatched t.db) ↔
        Guarded (step .default) RecordsInTime (initial Seed.organizations Seed.users 2)
          sharedRun) := by
  have hrun : (exec (step .default) (initial Seed.organizations Seed.users 2) sharedRun).any
      fun w => w.db.outbox.rows.map (·.status) = [.dispatched] := by decide
  obtain ⟨w, hw, hstatus⟩ := exists_of_any hrun
  exact ⟨w, hw, hstatus, dispatched_final_iff .default hw⟩

theorem dispatched_undone :
    ¬ ∀ fs gs s t, exec (step .default) (initial Seed.organizations Seed.users 2) fs = some s →
      exec (step .default) s gs = some t → s.db.KeepsDispatched t.db := by
  intro hall
  have hrun : (exec (step .default) (initial Seed.organizations Seed.users 2) sharedRun).any
      fun s => s.db.outbox.rows.map (·.status) = [.dispatched] ∧
        (exec (step .default) s lateFailure).any fun t =>
          t.db.outbox.rows.map (·.status) = [.pending] := by decide
  obtain ⟨s, hs, hdispatched, hlate⟩ := exists_of_any hrun
  obtain ⟨t, ht, hpending⟩ := exists_of_any hlate
  obtain ⟨r, hr, hrstatus⟩ := List.mem_map.mp (hdispatched ▸ List.mem_singleton_self _)
  obtain ⟨r', hr', -, hkept, -⟩ := hall sharedRun lateFailure s t hs ht r hr
  have hr'status : r'.status ∈ t.db.outbox.rows.map (·.status) := List.mem_map_of_mem hr'
  rw [hpending, hkept hrstatus] at hr'status
  cases List.mem_singleton.mp hr'status

end World

end SupportPlatform
