import SupportPlatform.Core.Machine
import SupportPlatform.Messaging.Dispatch
import SupportPlatform.Messaging.EventPublisher

/-!
# One relay process and its outbox

A single process running the relay over a database and a broker, together with the history of what
it has done: the messages the broker took, the status updates that never took effect, and the rows
that were left waiting when a later one was taken. Only the events enqueued meanwhile come from
elsewhere.
-/

namespace SupportPlatform

namespace Tick

/-- The row whose message the broker takes in this step. -/
def taken (publish : PublishOutcome) : Tick → List Uuid
  | .publishing row _ => if publish.taken then [row.id] else []
  | _ => []

/-- The row whose status update comes next. -/
def updating : Tick → List Uuid
  | .marking row _ | .recording row _ _ => [row.id]
  | _ => []

end Tick

namespace RelayAction

/-- A publish that throws although the broker took the message. -/
def isUnconfirmed : RelayAction → Bool
  | .proceed _ _ (.unconfirmed _) => true
  | _ => false

end RelayAction

/-- A relay process with its database and broker. `accepted` has an entry for every message the
broker took and `lost` one for every status update that failed or was cut off. `postponed` are the
rows that the call in progress has failed to publish and left PENDING; `overtaken` are the pairs of
such a row and one that the same call has handed to the broker after it. -/
structure RelayRun where
  db : Db
  broker : Broker
  process : RelayProcess
  accepted : List Uuid
  lost : List Uuid
  postponed : List Uuid
  overtaken : List (Uuid × Uuid)

namespace RelayRun

/-- A process just started, with no history. -/
def start (db : Db) : RelayRun := ⟨db, .empty, OutboxRelayService.started, [], [], [], []⟩

/-- Whether the status update of a call fails. -/
def updateFails (cfg : Config) (env : Env) (db : Db) : Tick → Bool
  | .marking row _ => !((OutboxRelayService.markDispatched row).commit env db).1.isOk
  | .recording row _ error =>
    !((OutboxRelayService.recordFailure cfg row error).commit env db).1.isOk
  | _ => false

/-- The row that the step of a call leaves PENDING for a later call. -/
def postpones (cfg : Config) (env : Env) (db : Db) : Tick → List Uuid
  | .recording row rest error =>
    if updateFails cfg env db (.recording row rest error) || cfg.maxAttempts ≤ row.attempts + 1
    then [] else [row.id]
  | _ => []

/-- The history after a step of a call. -/
def remember (cfg : Config) (s : RelayRun) : RelayAction → RelayRun
  | .proceed i env publish =>
    match s.process.ticks[i]? with
    | some tick =>
      { s with
        accepted := s.accepted ++ tick.taken publish
        lost := s.lost ++ if updateFails cfg env s.db tick then tick.updating else []
        postponed := s.postponed ++ postpones cfg env s.db tick
        overtaken := s.overtaken ++ (tick.taken publish).flatMap fun k =>
          s.postponed.map fun a => (a, k) }
    | none => s
  | .crash => { s with lost := s.lost ++ s.process.ticks.flatMap Tick.updating }
  | _ => s

/-- A step of the process. -/
def act (cfg : Config) (s : RelayRun) (a : RelayAction) : Option RelayRun :=
  (OutboxRelayService.step cfg s.db s.broker s.process a).map fun (db, broker, process) =>
    let t := s.remember cfg a
    { t with
      db, broker, process
      postponed := if process.ticks.isEmpty then [] else t.postponed }

/-! ### What a step can do -/

/-- There is one call at a time, and `running` tells whether there is one. -/
structure OneCall (s : RelayRun) : Prop where
  running : s.process.running = !s.process.ticks.isEmpty
  single : s.process.ticks.length ≤ 1
  idle : s.process.ticks = [] → s.postponed = []

/-- The call in progress goes on, or it is over. -/
def resume (s : RelayRun) (tick? : Option Tick) : RelayRun :=
  { s with
    process := ⟨tick?.isSome, s.process.stopped, tick?.toList⟩
    postponed := if tick?.isSome then s.postponed else [] }

/-- The broker takes the message of a row. -/
def deliver (cfg : Config) (s : RelayRun) (env : Env) (row : EventOutbox) : RelayRun :=
  { s with
    broker := s.broker.route cfg.exchange (OutboxRelayService.messageOf env row)
    accepted := s.accepted ++ [row.id]
    overtaken := s.overtaken ++ s.postponed.map fun a => (a, row.id) }

/-- The status update of a row takes effect. -/
def update (s : RelayRun) (row : EventOutbox) (f : EventOutbox → EventOutbox)
    (hf : ∀ r, Keyed.key (f r) = Keyed.key r) : RelayRun :=
  { s with db := { s.db with outbox := s.db.outbox.modify row.id f hf } }

/-- The status update of a row never takes effect. -/
def lose (s : RelayRun) (rows : List Uuid) : RelayRun := { s with lost := s.lost ++ rows }

/-- All that a step of the process can do when there is one call at a time. -/
inductive Acts (cfg : Config) (s : RelayRun) : RelayAction → RelayRun → Prop
  | idle {a stopped} : Acts cfg s a { s with process := { s.process with stopped } }
  | started (h : s.process.ticks = []) : Acts cfg s .tick (s.resume (some .polling))
  | crashed : Acts cfg s .crash
      { s.lose (s.process.ticks.flatMap Tick.updating) with
        process := OutboxRelayService.started
        postponed := [] }
  | polled {a env} (h : s.process.ticks = [.polling]) :
      Acts cfg s a (s.resume (Tick.next (OutboxRelayService.findPending cfg env s.db)))
  | unpolled {a} (h : s.process.ticks = [.polling]) : Acts cfg s a (s.resume none)
  | confirmed {a env row rest} (h : s.process.ticks = [.publishing row rest]) :
      Acts cfg s a ((s.deliver cfg env row).resume (some (.marking row rest)))
  | refused {a row rest error} (h : s.process.ticks = [.publishing row rest]) :
      Acts cfg s a (s.resume (some (.recording row rest error)))
  | unconfirmed {a env row rest error} (ha : a.isUnconfirmed)
      (h : s.process.ticks = [.publishing row rest]) :
      Acts cfg s a ((s.deliver cfg env row).resume (some (.recording row rest error)))
  | marked {a now row rest} (h : s.process.ticks = [.marking row rest]) :
      Acts cfg s a ((s.update row (OutboxRelayService.dispatched now) fun _ => rfl).resume
        (Tick.next rest))
  | unmarked {a row rest error} (h : s.process.ticks = [.marking row rest]) :
      Acts cfg s a ((s.lose [row.id]).resume (some (.recording row rest error)))
  | recorded {a row rest error} (h : s.process.ticks = [.recording row rest error]) :
      Acts cfg s a
        ({ s.update row (OutboxRelayService.failed cfg row.attempts error) fun _ => rfl with
            postponed := s.postponed ++
              if cfg.maxAttempts ≤ row.attempts + 1 then [] else [row.id] }.resume
          (Tick.next rest))
  | unrecorded {a row rest error} (h : s.process.ticks = [.recording row rest error]) :
      Acts cfg s a ((s.lose [row.id]).resume none)

variable {cfg : Config} {s t : RelayRun} {a : RelayAction}

lemma OneCall.resume (s : RelayRun) (tick? : Option Tick) : (s.resume tick?).OneCall := by
  cases tick? <;> constructor <;> simp [RelayRun.resume]

lemma OneCall.eq_singleton (hone : s.OneCall) {i : Nat} {tick : Tick}
    (h : s.process.ticks[i]? = some tick) : s.process.ticks = [tick] ∧ i = 0 := by
  have hsingle := hone.single
  have hi := (List.getElem?_eq_some_iff.mp h).1
  obtain rfl : i = 0 := by omega
  obtain ⟨tick', htick⟩ := List.length_eq_one_iff.mp (by omega : s.process.ticks.length = 1)
  rw [htick] at h ⊢
  simp_all

/-- A step of the only call. -/
lemma act_proceed (hone : s.OneCall) {tick : Tick} (hticks : s.process.ticks = [tick]) {env : Env}
    {publish : PublishOutcome} :
    act cfg s (.proceed 0 env publish) =
      some ({ s with
        db := (OutboxRelayService.advance cfg env publish s.db s.broker tick).1
        broker := (OutboxRelayService.advance cfg env publish s.db s.broker tick).2.1
        accepted := s.accepted ++ tick.taken publish
        lost := s.lost ++ if updateFails cfg env s.db tick then tick.updating else []
        postponed := s.postponed ++ postpones cfg env s.db tick
        overtaken := s.overtaken ++ (tick.taken publish).flatMap fun k =>
          s.postponed.map fun a => (a, k) }.resume
        (OutboxRelayService.advance cfg env publish s.db s.broker tick).2.2) := by
  have hrunning : s.process.running = true := by simp [hone.running, hticks]
  rcases hadv : OutboxRelayService.advance cfg env publish s.db s.broker tick with
    ⟨db', broker', _ | tick'⟩ <;>
  simp [act, OutboxRelayService.step, remember, resume, hticks, hadv, hrunning]

theorem act_cases (hone : s.OneCall) (h : act cfg s a = some t) : Acts cfg s a t := by
  -- a step that keeps the calls keeps what they have postponed
  have hkeep : (if s.process.ticks.isEmpty then [] else s.postponed) = s.postponed := by
    split_ifs with hticks
    · exact (hone.idle (List.isEmpty_iff.mp hticks)).symm
    · rfl
  cases a with
  | tick =>
    obtain ⟨⟨db, broker, process⟩, hstep, rfl⟩ := Option.map_eq_some_iff.mp h
    rw [OutboxRelayService.step] at hstep
    split_ifs at hstep with hrun
    · cases hstep
      simp only [remember, hkeep]
      exact .idle
    · cases hstep
      have hticks : s.process.ticks = [] := by
        have := hone.running
        simp_all
      simpa [resume, remember, hticks] using (.started hticks : Acts cfg s _ _)
  | destroy =>
    cases h
    simp only [remember, hkeep]
    exact .idle
  | crash =>
    cases h
    exact .crashed
  | proceed i env publish =>
    obtain ⟨_, hstep, -⟩ := Option.map_eq_some_iff.mp h
    obtain ⟨tick, htick, -⟩ := Option.map_eq_some_iff.mp hstep
    obtain ⟨hticks, rfl⟩ := hone.eq_singleton htick
    obtain rfl := Option.some.inj ((act_proceed hone hticks).symm.trans h)
    clear h hstep htick hkeep
    cases tick with
    | polling =>
      simp only [OutboxRelayService.advance, Tick.taken, updateFails, postpones, List.append_nil,
        List.flatMap_nil, Bool.false_eq_true, if_false]
      cases env.fault .query with
      | none => exact .polled hticks
      | some e => exact .unpolled hticks
    | publishing row rest =>
      simp only [OutboxRelayService.advance, updateFails, postpones, List.append_nil,
        Bool.false_eq_true, if_false]
      cases publish with
      | accepted =>
        simpa [deliver, Tick.taken, PublishOutcome.taken, PublishOutcome.error?] using
          (.confirmed hticks : Acts cfg s (.proceed 0 env .accepted) _)
      | refused error =>
        simpa [Tick.taken, PublishOutcome.taken, PublishOutcome.error?] using
          (.refused hticks : Acts cfg s (.proceed 0 env (.refused error)) _)
      | unconfirmed error =>
        simpa [deliver, Tick.taken, PublishOutcome.taken, PublishOutcome.error?] using
          (.unconfirmed rfl hticks : Acts cfg s (.proceed 0 env (.unconfirmed error)) _)
    | marking row rest =>
      obtain ⟨⟨r, db'⟩, hok⟩ :
        ∃ p, (OutboxRelayService.markDispatched row).commit env s.db = p := ⟨_, rfl⟩
      simp only [OutboxRelayService.advance, Tick.taken, updateFails, postpones, List.append_nil,
        List.flatMap_nil, hok]
      cases r with
      | error e =>
        rw [Transaction.commit_error hok]
        exact .unmarked hticks
      | ok r =>
        rw [OutboxRelayService.markDispatched_commit hok]
        simpa [update, Except.isOk, Except.toBool] using (.marked hticks : Acts cfg s _ _)
    | recording row rest error =>
      obtain ⟨⟨r, db'⟩, hok⟩ :
        ∃ p, (OutboxRelayService.recordFailure cfg row error).commit env s.db = p := ⟨_, rfl⟩
      simp only [OutboxRelayService.advance, Tick.taken, updateFails, postpones, List.append_nil,
        List.flatMap_nil, hok]
      cases r with
      | error e =>
        rw [Transaction.commit_error hok]
        simpa [lose, Tick.updating, Except.isOk, Except.toBool] using
          (.unrecorded hticks : Acts cfg s _ _)
      | ok r =>
        rw [OutboxRelayService.recordFailure_commit hok]
        simpa [update, Except.isOk, Except.toBool] using (.recorded hticks : Acts cfg s _ _)

/-! ### The rows in hand -/

@[simp] lemma mem_ticks_resume {tick? : Option Tick} {tick : Tick} :
    tick ∈ (s.resume tick?).process.ticks ↔ tick ∈ tick? := Option.mem_toList

lemma mem_rows_update {row r : EventOutbox} {f : EventOutbox → EventOutbox}
    {hf : ∀ r, Keyed.key (f r) = Keyed.key r} (hrow : row ∈ s.db.outbox.rows) :
    r ∈ (s.update row f hf).db.outbox.rows ↔
      r = f row ∨ (r ∈ s.db.outbox.rows ∧ r.id ≠ row.id) :=
  Table.mem_modify hrow hf

/-- The rows a call holds are different rows of the outbox, still PENDING and as it has read
them. -/
structure InHand (db : Db) (rows : List EventOutbox) : Prop where
  nodup : rows.Nodup
  mem : ∀ r ∈ rows, r ∈ db.outbox.rows
  pending : ∀ r ∈ rows, r.status = .pending

lemma inHand_nil (db : Db) : InHand db [] := ⟨List.nodup_nil, by simp, by simp⟩

lemma inHand_findPending (cfg : Config) (env : Env) (db : Db) :
    InHand db (OutboxRelayService.findPending cfg env db) where
  nodup := by
    have hperm := List.perm_insertionSort (OutboxRelayService.Earlier env)
      (db.outbox.rows.filter (·.status = .pending))
    exact (hperm.nodup_iff.mpr (db.outbox.nodup_rows.filter _)).sublist (List.take_sublist _ _)
  mem r hr := OutboxRelayService.mem_of_mem_findPending hr
  pending r hr := by
    have := List.mem_of_mem_take hr
    rw [List.mem_insertionSort] at this
    simpa using List.of_mem_filter this

/-- An update of the first row in hand leaves the others in hand. -/
lemma InHand.update {row : EventOutbox} {rest : List EventOutbox}
    {f : EventOutbox → EventOutbox} {hf : ∀ r, Keyed.key (f r) = Keyed.key r}
    (h : InHand s.db (row :: rest)) : InHand (s.update row f hf).db rest where
  nodup := h.nodup.of_cons
  mem r hr := by
    have hrow := h.mem row List.mem_cons_self
    have hmem := h.mem r (List.mem_cons_of_mem row hr)
    refine (mem_rows_update hrow).mpr (.inr ⟨hmem, fun hid => ?_⟩)
    obtain rfl := s.db.outbox.eq_of_key_eq hmem hrow hid
    exact (List.nodup_cons.mp h.nodup).1 hr
  pending r hr := h.pending r (List.mem_cons_of_mem row hr)

/-- There is one call at a time, and the rows it holds are in hand. -/
structure Sound (s : RelayRun) : Prop extends OneCall s where
  held : ∀ tick ∈ s.process.ticks, InHand s.db tick.rows

lemma sound_start (db : Db) : (start db).Sound :=
  ⟨⟨rfl, Nat.zero_le 1, fun _ => rfl⟩, by simp [start, OutboxRelayService.started]⟩

lemma sound_resume {tick? : Option Tick} (h : ∀ tick ∈ tick?, InHand s.db tick.rows) :
    (s.resume tick?).Sound :=
  ⟨.resume s tick?, fun tick htick => h tick (mem_ticks_resume.mp htick)⟩

/-- A call that goes on with the rows it has. -/
lemma sound_goOn {tick tick' : Tick} (h : InHand s.db tick.rows) (hrows : tick'.rows = tick.rows) :
    (s.resume (some tick')).Sound := by
  refine sound_resume fun _ heq => ?_
  obtain rfl := Option.some.inj heq
  rwa [hrows]

/-- A call that goes on with the rows after the first, or with the first ones it has read. -/
lemma sound_next {rows : List EventOutbox} (h : InHand s.db rows) :
    (s.resume (Tick.next rows)).Sound := by
  refine sound_resume fun tick htick => ?_
  rwa [OutboxRelayService.rows_next htick]

lemma Sound.inHand (hs : s.Sound) {tick : Tick} (h : s.process.ticks = [tick]) :
    InHand s.db tick.rows := hs.held tick (by simp [h])

theorem Acts.sound (h : Acts cfg s a t) (hs : s.Sound) : t.Sound := by
  cases h with
  | idle => exact ⟨⟨hs.running, hs.single, hs.idle⟩, hs.held⟩
  | crashed =>
    exact ⟨⟨rfl, Nat.zero_le 1, fun _ => rfl⟩, by simp [OutboxRelayService.started]⟩
  | started => exact sound_resume (by simp [Tick.rows, inHand_nil])
  | unpolled | unrecorded => exact sound_resume (by simp)
  | confirmed h | refused h | unmarked h => exact sound_goOn (hs.inHand h) rfl
  | unconfirmed _ h => exact sound_goOn (hs.inHand h) rfl
  | polled => exact sound_next (inHand_findPending cfg _ s.db)
  | marked h | recorded h => exact sound_next (hs.inHand h).update

theorem act_sound (hs : s.Sound) (h : act cfg s a = some t) : t.Sound :=
  (act_cases hs.toOneCall h).sound hs

/-! ### The messages the broker took -/

/-- The message of a DISPATCHED row, or of one that is about to be, has been taken. `before` are the
rows that were DISPATCHED when the run began. -/
structure Taken (before : List Uuid) (s : RelayRun) : Prop where
  dispatched : ∀ r ∈ s.db.outbox.rows, r.status = .dispatched → r.id ∈ before ∨ r.id ∈ s.accepted
  marking : ∀ row rest, .marking row rest ∈ s.process.ticks → row.id ∈ s.accepted

/-- The rows of an outbox that are DISPATCHED. -/
def dispatchedIds (db : Db) : List Uuid :=
  (db.outbox.rows.filter (·.status = .dispatched)).map (·.id)

lemma taken_start (db : Db) : (start db).Taken (dispatchedIds db) := by
  refine ⟨fun r hr hd => .inl ?_, by simp [start, OutboxRelayService.started]⟩
  exact List.mem_map_of_mem (List.mem_filter.mpr ⟨hr, by simpa using hd⟩)

lemma marking_notMem_next {row : EventOutbox} {rest rows : List EventOutbox} :
    .marking row rest ∉ Tick.next rows := by
  cases rows <;> simp [Tick.next]

lemma failed_status_ne {cfg : Config} {n : Nat} {error : String} {r : EventOutbox} :
    (OutboxRelayService.failed cfg n error r).status ≠ .dispatched := by
  simp only [OutboxRelayService.failed]
  split_ifs <;> simp

theorem Acts.taken {before : List Uuid} (h : Acts cfg s a t) (hs : s.Sound)
    (ht : s.Taken before) : t.Taken before := by
  cases h with
  | idle => exact ⟨ht.dispatched, ht.marking⟩
  | crashed => exact ⟨ht.dispatched, by simp [OutboxRelayService.started]⟩
  | started | unpolled | refused | unmarked | unrecorded =>
    exact ⟨ht.dispatched, fun row rest h => by simp at h⟩
  | polled =>
    exact ⟨ht.dispatched, fun row rest h => absurd (mem_ticks_resume.mp h) marking_notMem_next⟩
  | confirmed =>
    refine ⟨fun r hr hd => (ht.dispatched r hr hd).imp_right (List.mem_append_left _),
      fun row rest h => ?_⟩
    cases mem_ticks_resume.mp h
    exact List.mem_append_right _ List.mem_cons_self
  | unconfirmed =>
    exact ⟨fun r hr hd => (ht.dispatched r hr hd).imp_right (List.mem_append_left _),
      fun row rest h => by simp at h⟩
  | @marked _ _ row rest h =>
    have htaken : row.id ∈ s.accepted := ht.marking row rest (by simp [h])
    refine ⟨fun r hr hd => ?_,
      fun row rest h => absurd (mem_ticks_resume.mp h) marking_notMem_next⟩
    rcases (mem_rows_update ((hs.inHand h).mem _ List.mem_cons_self)).mp hr with rfl | ⟨hr, -⟩
    · exact .inr htaken
    · exact ht.dispatched r hr hd
  | recorded h =>
    refine ⟨fun r hr hd => ?_,
      fun row rest h => absurd (mem_ticks_resume.mp h) marking_notMem_next⟩
    rcases (mem_rows_update ((hs.inHand h).mem _ List.mem_cons_self)).mp hr with rfl | ⟨hr, -⟩
    · exact absurd hd failed_status_ne
    · exact ht.dispatched r hr hd

end RelayRun

end SupportPlatform
