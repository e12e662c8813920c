import SupportPlatform.Messaging.RelayRun

/-!
# The order in which the events of a ticket leave

A call reads the oldest PENDING rows and publishes them one by one, whatever becomes of the ones
before. A row that fails and has attempts left is PENDING again, and the rows behind it in the batch
overtake it. This is the only way in which the events of a ticket leave out of order.
-/

namespace SupportPlatform

/-- Two rows whose events are about the same ticket. -/
def EventOutbox.SameTicket (a b : EventOutbox) : Prop :=
  ∃ ticketId, a.payload.ticketId? = some ticketId ∧ b.payload.ticketId? = some ticketId

namespace OutboxRelayService

variable {cfg : Config} {env : Env} {db : Db}

instance : Std.Total (Earlier env) where
  total a b := by
    rcases Nat.lt_trichotomy a.createdAt b.createdAt with h | h | h
    · exact .inl (.inl h)
    · rcases Nat.le_total (env.rank a.id) (env.rank b.id) with hr | hr
      · exact .inl (.inr ⟨h, hr⟩)
      · exact .inr (.inr ⟨h.symm, hr⟩)
    · exact .inr (.inl h)

instance : IsTrans EventOutbox (Earlier env) where
  trans a b c := by
    rintro (hab | ⟨hab, hr⟩) (hbc | ⟨hbc, hr'⟩)
    · exact .inl (Nat.lt_trans hab hbc)
    · exact .inl (hbc ▸ hab)
    · exact .inl (hab ▸ hbc)
    · exact .inr ⟨hab.trans hbc, hr.trans hr'⟩

/-- The batch is in the order of creation, and a PENDING row that is not in it is not older than
one that is. -/
lemma findPending_oldest {a : EventOutbox} (ha : a ∈ db.outbox.rows)
    (hstatus : a.status = .pending) :
    a ∈ findPending cfg env db ∨ ∀ r ∈ findPending cfg env db, Earlier env r a := by
  have hsorted := List.pairwise_insertionSort (Earlier env)
    (db.outbox.rows.filter (·.status = .pending))
  have hmem : a ∈ (db.outbox.rows.filter (·.status = .pending)).insertionSort (Earlier env) := by
    rw [List.mem_insertionSort]
    exact List.mem_filter.mpr ⟨ha, by simpa using hstatus⟩
  rw [← List.take_append_drop cfg.batchSize (List.insertionSort _ _)] at hsorted hmem
  rcases List.mem_append.mp hmem with htake | hdrop
  · exact .inl htake
  · exact .inr fun r hr => (List.pairwise_append.mp hsorted).2.2 r hr a hdrop

lemma pairwise_findPending (cfg : Config) (env : Env) (db : Db) :
    (findPending cfg env db).Pairwise (Earlier env) :=
  (List.pairwise_insertionSort (Earlier env) _).sublist (List.take_sublist _ _)

end OutboxRelayService

namespace RelayRun

variable {cfg : Config} {before : List Uuid} {s t : RelayRun} {a : RelayAction}

/-- Of two rows of a ticket the later one is taken after the earlier one, in this run or `before`
it, unless the earlier one has FAILED or was left PENDING by the call that handed the later one to
the broker. -/
def InOrderUnlessOvertaken (before : List Uuid) (s : RelayRun) : Prop :=
  ∀ a ∈ s.db.outbox.rows, ∀ b ∈ s.db.outbox.rows, a.SameTicket b → a.createdAt < b.createdAt →
    b.id ∈ s.accepted →
    a.status = .failed ∨ (a.id ∈ before ∨ s.accepted.idxOf a.id < s.accepted.idxOf b.id) ∨
      (a.id, b.id) ∈ s.overtaken

/-- No two rows are created at the same time. -/
def CreatedApart (db : Db) : Prop := (db.outbox.rows.map (·.createdAt)).Nodup

/-- Of two rows the later one is taken after the earlier one, unless the earlier one has FAILED or
has been overtaken. -/
def InOrder (before : List Uuid) (s : RelayRun) : Prop :=
  ∀ a ∈ s.db.outbox.rows, ∀ b ∈ s.db.outbox.rows, a.createdAt < b.createdAt → b.id ∈ s.accepted →
    a.status = .failed ∨ (a.id ∈ before ∨ s.accepted.idxOf a.id < s.accepted.idxOf b.id) ∨
      (a.id, b.id) ∈ s.overtaken

/-- The rows a call still holds are in the order of creation. A PENDING row is among them, or the
call has postponed it, or it is younger than all of them. -/
structure OldestFirst (db : Db) (postponed : List Uuid) (rows : List EventOutbox) : Prop where
  sorted : rows.Pairwise (·.createdAt < ·.createdAt)
  rest : ∀ a ∈ db.outbox.rows, a.status = .pending →
    a.id ∈ postponed ∨ a ∈ rows ∨ ∀ r ∈ rows, r.createdAt < a.createdAt

/-- All that holds in every state of a run about the order of the rows. -/
structure Ordered (before : List Uuid) (s : RelayRun) : Prop extends Sound s, Taken before s where
  apart : CreatedApart s.db
  oldestFirst : ∀ tick ∈ s.process.ticks, OldestFirst s.db s.postponed tick.rows
  inOrder : s.InOrder before

/-! ### Batches -/

lemma CreatedApart.lt_of_earlier {db : Db} (h : CreatedApart db) {env : Env} {a b : EventOutbox}
    (ha : a ∈ db.outbox.rows) (hb : b ∈ db.outbox.rows) (hne : a ≠ b)
    (hab : OutboxRelayService.Earlier env a b) : a.createdAt < b.createdAt := by
  rcases hab with hlt | ⟨heq, -⟩
  · exact hlt
  · exact absurd (List.inj_on_of_nodup_map h ha hb heq) hne

lemma oldestFirst_findPending {cfg : Config} {env : Env} {db : Db} {postponed : List Uuid}
    (h : CreatedApart db) :
    OldestFirst db postponed (OutboxRelayService.findPending cfg env db) := by
  have hhand := inHand_findPending cfg env db
  constructor
  · have hsorted := OutboxRelayService.pairwise_findPending cfg env db
    refine (hsorted.and hhand.nodup).imp_of_mem fun {a b} ha hb hab => ?_
    exact h.lt_of_earlier (hhand.mem a ha) (hhand.mem b hb) hab.2 hab.1
  · intro a ha hstatus
    by_cases hmem : a ∈ OutboxRelayService.findPending cfg env db
    · exact .inr (.inl hmem)
    · have holdest := (OutboxRelayService.findPending_oldest ha hstatus).resolve_left hmem
      refine .inr (.inr fun r hr => ?_)
      have hne : r ≠ a := fun heq => hmem (heq ▸ hr)
      exact h.lt_of_earlier (hhand.mem r hr) ha hne (holdest r hr)

lemma oldestFirst_nil (db : Db) (postponed : List Uuid) : OldestFirst db postponed [] :=
  ⟨List.Pairwise.nil, fun _ _ _ => .inr (.inr (by simp))⟩

/-- A row that has been dealt with leaves the others in order; if it is PENDING again, it has been
postponed. -/
lemma OldestFirst.update {row : EventOutbox} {rest : List EventOutbox} {postponed : List Uuid}
    {f : EventOutbox → EventOutbox} {hf : ∀ r, Keyed.key (f r) = Keyed.key r}
    (h : OldestFirst s.db s.postponed (row :: rest)) (hrow : row ∈ s.db.outbox.rows)
    (hkept : ∀ k ∈ s.postponed, k ∈ postponed)
    (hagain : (f row).status = .pending → row.id ∈ postponed) :
    OldestFirst (s.update row f hf).db postponed rest where
  sorted := h.sorted.of_cons
  rest a ha hstatus := by
    rcases (mem_rows_update hrow).mp ha with rfl | ⟨ha, hne⟩
    · have hid : (f row).id = row.id := hf row
      rw [hid]
      exact .inl (hagain hstatus)
    · rcases h.rest a ha hstatus with hpostponed | hmem | hyounger
      · exact .inl (hkept _ hpostponed)
      · rcases List.mem_cons.mp hmem with rfl | hmem
        · exact absurd rfl hne
        · exact .inr (.inl hmem)
      · exact .inr (.inr fun r hr => hyounger r (List.mem_cons_of_mem row hr))

lemma createdAt_update {row : EventOutbox} {f : EventOutbox → EventOutbox}
    {hf : ∀ r, Keyed.key (f r) = Keyed.key r} (hcreated : ∀ r, (f r).createdAt = r.createdAt)
    (h : CreatedApart s.db) : CreatedApart (s.update row f hf).db := by
  have hmap := Table.map_rows_modifyWhere s.db.outbox (fun r => Keyed.key r = row.id) f hf
    (·.createdAt) fun r _ => hcreated r
  rw [CreatedApart, RelayRun.update, Table.modify, hmap]
  exact h

theorem Acts.apart (h : Acts cfg s a t) (hs : CreatedApart s.db) : CreatedApart t.db := by
  cases h with
  | marked => exact createdAt_update (fun _ => rfl) hs
  | recorded => exact createdAt_update (fun _ => rfl) hs
  | _ => exact hs

lemma oldestFirst_resume {tick? : Option Tick}
    (h : ∀ tick ∈ tick?, OldestFirst s.db s.postponed tick.rows) {tick : Tick}
    (htick : tick ∈ (s.resume tick?).process.ticks) :
    OldestFirst (s.resume tick?).db (s.resume tick?).postponed tick.rows := by
  have htick := mem_ticks_resume.mp htick
  have hkeep : (s.resume tick?).postponed = s.postponed := by
    cases htick
    rfl
  rw [hkeep]
  exact h tick htick

/-- A call that goes on with the rows it has. -/
lemma oldestFirst_goOn {tick tick' : Tick} (h : OldestFirst s.db s.postponed tick.rows)
    (hrows : tick'.rows = tick.rows) :
    ∀ tick ∈ (s.resume (some tick')).process.ticks,
      OldestFirst (s.resume (some tick')).db (s.resume (some tick')).postponed tick.rows := by
  refine fun _ => oldestFirst_resume fun _ heq => ?_
  obtain rfl := Option.some.inj heq
  rwa [hrows]

/-- A call that goes on with the rows after the first, or with the first ones it has read. -/
lemma oldestFirst_next {rows : List EventOutbox} (h : OldestFirst s.db s.postponed rows) :
    ∀ tick ∈ (s.resume (Tick.next rows)).process.ticks,
      OldestFirst (s.resume (Tick.next rows)).db (s.resume (Tick.next rows)).postponed
        tick.rows := by
  refine fun _ => oldestFirst_resume fun tick htick => ?_
  rwa [OutboxRelayService.rows_next htick]

theorem Acts.oldestFirst (h : Acts cfg s a t) (ho : s.Ordered before) :
    ∀ tick ∈ t.process.ticks, OldestFirst t.db t.postponed tick.rows := by
  have hof := fun tick (htick : s.process.ticks = [tick]) =>
    ho.oldestFirst tick (by simp [htick])
  cases h with
  | idle => exact ho.oldestFirst
  | crashed => simp [OutboxRelayService.started]
  | started =>
    refine fun tick => oldestFirst_resume fun tick htick => ?_
    cases htick
    exact oldestFirst_nil _ _
  | unpolled | unrecorded => simp
  | confirmed h | refused h | unmarked h => exact oldestFirst_goOn (hof _ h) rfl
  | unconfirmed _ h => exact oldestFirst_goOn (hof _ h) rfl
  | polled => exact oldestFirst_next (oldestFirst_findPending ho.apart)
  | marked h =>
    have hmem := (ho.inHand h).mem _ List.mem_cons_self
    exact oldestFirst_next
      ((hof _ h).update hmem (fun k hk => hk) (by simp [OutboxRelayService.dispatched]))
  | recorded h =>
    have hmem := (ho.inHand h).mem _ List.mem_cons_self
    refine oldestFirst_next
      ((hof _ h).update hmem (fun k hk => List.mem_append_left _ hk) fun hstatus => ?_)
    simp only [OutboxRelayService.failed] at hstatus
    split_ifs at hstatus with hmax
    simp [hmax]

/-! ### Who overtakes whom -/

/-- A row of the outbox is an earlier version of itself, and FAILED it has only that one. -/
lemma Acts.origin (h : Acts cfg s a t) (hs : s.Sound) {r : EventOutbox}
    (hr : r ∈ t.db.outbox.rows) :
    ∃ r' ∈ s.db.outbox.rows, r'.id = r.id ∧ r'.createdAt = r.createdAt ∧
      (r'.status = .failed → r.status = .failed) := by
  cases h with
  | marked h | recorded h =>
    have hhand := hs.inHand h
    have hmem := hhand.mem _ List.mem_cons_self
    rcases (mem_rows_update hmem).mp hr with rfl | ⟨hr, -⟩
    · exact ⟨_, hmem, rfl, rfl, by simp [hhand.pending _ List.mem_cons_self]⟩
    · exact ⟨r, hr, rfl, rfl, id⟩
  | _ => exact ⟨r, hr, rfl, rfl, id⟩

lemma Acts.inOrder_of_silent (h : Acts cfg s a t) (hs : s.Sound) (ho : s.InOrder before)
    (haccepted : t.accepted = s.accepted) (hovertaken : t.overtaken = s.overtaken) :
    t.InOrder before := by
  intro a ha b hb hlt hmem
  obtain ⟨a', ha', haid, hat, hfailed⟩ := h.origin hs ha
  obtain ⟨b', hb', hbid, hbt, -⟩ := h.origin hs hb
  rw [haccepted, ← hbid] at hmem
  rw [haccepted, hovertaken, ← haid, ← hbid]
  rcases ho a' ha' b' hb' (by rwa [hat, hbt]) hmem with hf | hor
  · exact .inl (hfailed hf)
  · exact .inr hor

/-- When the broker takes the message of the row in hand, every older row has FAILED, has been
taken before, or has been postponed by the same call. -/
lemma inOrder_deliver (cfg : Config) (env : Env) {row : EventOutbox} {rest : List EventOutbox}
    (ho : s.Ordered before) (h : s.process.ticks = [.publishing row rest]) :
    (s.deliver cfg env row).InOrder before := by
  have hrow := (ho.inHand h).mem row List.mem_cons_self
  have hof := ho.oldestFirst (.publishing row rest) (by simp [h])
  intro a ha b hb hlt hmem
  simp only [deliver] at ha hb hmem ⊢
  by_cases hbefore : b.id ∈ s.accepted
  · rcases ho.inOrder a ha b hb hlt hbefore with hf | (hearly | hidx) | hover
    · exact .inl hf
    · exact .inr (.inl (.inl hearly))
    · have hmemA : a.id ∈ s.accepted :=
        List.idxOf_lt_length_iff.mp (hidx.trans (List.idxOf_lt_length_iff.mpr hbefore))
      rw [List.idxOf_append_of_mem hmemA, List.idxOf_append_of_mem hbefore]
      exact .inr (.inl (.inr hidx))
    · exact .inr (.inr (List.mem_append_left _ hover))
  · have hid : b.id = row.id := by simpa [hbefore] using hmem
    obtain rfl := s.db.outbox.eq_of_key_eq hb hrow hid
    have htaken : a.id ∈ s.accepted →
        (s.accepted ++ [b.id]).idxOf a.id < (s.accepted ++ [b.id]).idxOf b.id := by
      intro hmemA
      rw [List.idxOf_append_of_mem hmemA, List.idxOf_append_of_notMem hbefore]
      exact Nat.lt_add_right _ (List.idxOf_lt_length_iff.mpr hmemA)
    cases hstatus : a.status with
    | failed => exact .inl rfl
    | dispatched => exact .inr (.inl ((ho.dispatched a ha hstatus).imp_right htaken))
    | pending =>
      rcases hof.rest a ha hstatus with hpostponed | hin | hyounger
      · exact .inr (.inr (List.mem_append_right _ (List.mem_map_of_mem hpostponed)))
      · rcases List.mem_cons.mp hin with rfl | hin
        · exact absurd hlt (lt_irrefl _)
        · exact absurd hlt (lt_asymm (List.rel_of_pairwise_cons hof.sorted hin))
      · exact absurd hlt (lt_asymm (hyounger b List.mem_cons_self))

theorem Acts.ordered (h : Acts cfg s a t) (ho : s.Ordered before) : t.Ordered before where
  toSound := h.sound ho.toSound
  toTaken := h.taken ho.toSound ho.toTaken
  apart := h.apart ho.apart
  oldestFirst := h.oldestFirst ho
  inOrder := by
    have hsilent := h.inOrder_of_silent ho.toSound ho.inOrder
    cases h with
    | @confirmed _ env _ _ h => exact inOrder_deliver cfg env ho h
    | @unconfirmed _ env _ _ _ _ h => exact inOrder_deliver cfg env ho h
    | _ => exact hsilent rfl rfl

/-- In every run over a set of rows created at different times, the events of a ticket leave in
order unless one is overtaken. -/
theorem inOrderUnlessOvertaken {db : Db} {as : List RelayAction} (hapart : CreatedApart db)
    (h : Machine.exec (act cfg) (start db) as = some s) :
    s.InOrderUnlessOvertaken (dispatchedIds db) := by
  have hstart : (start db).Ordered (dispatchedIds db) :=
    { toSound := sound_start db
      toTaken := taken_start db
      apart := hapart
      oldestFirst := by simp [start, OutboxRelayService.started]
      inOrder := by simp [InOrder, start] }
  have ho : s.Ordered (dispatchedIds db) := Machine.exec_invariant (act cfg)
    (fun u a v hu hv => (act_cases hu.toOneCall hv).ordered hu) hstart h
  exact fun a ha b hb _ hlt hmem => ho.inOrder a ha b hb hlt hmem

namespace Seed

/-- The first of the two rows that closing a ticket enqueues. -/
def updatedRow : EventOutbox where
  id := 250
  routingKey := .ticketUpdated
  payload := .ticketUpdated ⟨140, "TKT-000001", 1, SupportPlatform.Seed.closeDto, 12⟩
  correlationId := none
  status := .pending
  attempts := 0
  lastError := none
  createdAt := 2
  dispatchedAt := none
  key_eq := rfl

/-- The second one. -/
def closedRow : EventOutbox where
  id := 260
  routingKey := .ticketClosed
  payload := .ticketClosed ⟨140, "TKT-000001", 1, 12, 2⟩
  correlationId := none
  status := .pending
  attempts := 0
  lastError := none
  createdAt := 3
  dispatchedAt := none
  key_eq := rfl

/-- A ticket has just been closed. -/
def closedDb : Db := { Db.empty with outbox := ⟨[updatedRow, closedRow], [], by decide⟩ }

/-- The broker refuses the first message of the batch and takes the second. -/
def refusedRun : List RelayAction :=
  [.tick, .proceed 0 (SupportPlatform.Seed.env 4) .accepted,
    .proceed 0 (SupportPlatform.Seed.env 5) (.refused "Channel closed"),
    .proceed 0 (SupportPlatform.Seed.env 6) .accepted,
    .proceed 0 (SupportPlatform.Seed.env 7) .accepted]

end Seed

theorem inOrderUnlessOvertaken_closedRow :
    ∃ s, Machine.exec (act .default) (start Seed.closedDb) Seed.refusedRun = some s ∧
      s.overtaken = [(250, 260)] ∧ s.InOrderUnlessOvertaken (dispatchedIds Seed.closedDb) := by
  have hrun : (Machine.exec (act .default) (start Seed.closedDb) Seed.refusedRun).any fun s =>
      s.overtaken = [(250, 260)] := by decide
  obtain ⟨s, hs, hovertaken⟩ := Machine.exists_of_any hrun
  exact ⟨s, hs, hovertaken,
    inOrderUnlessOvertaken (by simp [CreatedApart, Seed.closedDb, Seed.updatedRow,
      Seed.closedRow]) hs⟩

/-- The news that a ticket is closed can arrive before the news that it was updated. -/
theorem not_inOrder_closedRow :
    ¬ ∀ cfg db as s, CreatedApart db → Machine.exec (act cfg) (start db) as = some s →
      ∀ a ∈ s.db.outbox.rows, ∀ b ∈ s.db.outbox.rows, a.SameTicket b → a.createdAt < b.createdAt →
        b.id ∈ s.accepted →
        a.status = .failed ∨ a.id ∈ dispatchedIds db ∨
          s.accepted.idxOf a.id < s.accepted.idxOf b.id := by
  intro hall
  have hrun : (Machine.exec (act .default) (start Seed.closedDb) Seed.refusedRun).any fun s =>
      s.accepted = [260] ∧ s.db.outbox.rows =
        [OutboxRelayService.failed .default 0 "Channel closed" Seed.updatedRow,
          Seed.closedRow] := by decide
  obtain ⟨s, hs, haccepted, hrows⟩ := Machine.exists_of_any hrun
  have hapart : CreatedApart Seed.closedDb := by
    simp [CreatedApart, Seed.closedDb, Seed.updatedRow, Seed.closedRow]
  have hclaim := hall .default Seed.closedDb Seed.refusedRun s hapart hs
    (OutboxRelayService.failed .default 0 "Channel closed" Seed.updatedRow) (by simp [hrows])
    Seed.closedRow (by simp [hrows]) ⟨140, rfl, rfl⟩ (by decide)
    (by rw [haccepted]; decide)
  rw [haccepted] at hclaim
  revert hclaim
  decide

end RelayRun

end SupportPlatform
