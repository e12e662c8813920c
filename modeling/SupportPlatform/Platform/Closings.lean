import SupportPlatform.Platform.Lineage

/-!
# Closings and their events

How often a ticket has been closed, against the `ticket.closed` rows it has in the outbox. The two
counts part as soon as an update decides on a status that has changed since it was read.
-/

namespace SupportPlatform

/-- The status of a ticket. -/
def Db.status (db : Db) (id : Uuid) : Option TicketStatus := db.tickets.column Ticket.status id

/-- The payload is that of a `ticket.closed` event of the ticket. -/
def Payload.isClosed (id : Uuid) : Payload → Bool
  | .ticketClosed p => p.ticketId = id
  | _ => false

/-- The number of `ticket.closed` rows of a ticket. -/
def Db.closedRows (db : Db) (id : Uuid) : Nat :=
  db.log.countP fun row => row.2.1.isClosed id

/-- The ticket has changed from another status to `CLOSED`. -/
def Db.closes (s t : Db) (id : Uuid) : Bool :=
  s.status id ≠ none && s.status id ≠ some .closed && t.status id = some .closed

/-- The removal of an organization keeps what is tracked of a ticket, but for its assignee. -/
lemma Db.tracks_dropOrganization {β : Type} {db : Db} {g : Ticket → β} {id o : Uuid} {b₀ b : β}
    (h : db.tickets.Tracks g id b₀ b) (hg : ∀ t : Ticket, g { t with assignedToId := none } = g t) :
    (db.dropOrganization o).tickets.Tracks g id b₀ b :=
  (h.removeWhere _).modifyWhere (f := fun t => { t with assignedToId := none }) (fun _ => rfl) rfl
    fun t _ _ => hg t

/-! ### One step of a call -/

lemma Db.closedRows_of_log {s t : Db} (h : t.log = s.log) (id : Uuid) :
    t.closedRows id = s.closedRows id := by
  rw [closedRows, closedRows, h]

lemma Db.closes_eq_false {s t : Db} {id : Uuid}
    (h : t.status id = some .closed → s.status id = some .closed ∨ s.status id = none) :
    s.closes t id = false := by
  unfold Db.closes
  by_cases ht : t.status id = some .closed
  · rcases h ht with hs | hs <;> simp [hs]
  · simp [ht]

lemma Db.closes_of_tickets {s t : Db} (h : t.tickets = s.tickets) (id : Uuid) :
    s.closes t id = false :=
  closes_eq_false fun ht => .inl (by simpa [Db.status, h] using ht)

/-- A step that enqueues no `ticket.closed` of the ticket and does not close it. -/
def Quiet (id : Uuid) (s t : Db) : Prop :=
  t.closedRows id = s.closedRows id ∧ s.closes t id = false

lemma Quiet.of_tickets {s t : Db} (id : Uuid) (hlog : t.log = s.log)
    (htickets : t.tickets = s.tickets) : Quiet id s t :=
  ⟨Db.closedRows_of_log hlog id, Db.closes_of_tickets htickets id⟩

section Writes

variable {env : Env} {db : Db} {outbox : Table EventOutbox} {cid : Option String}
  {actor : AuthenticatedUser} {id : Uuid}

lemma Db.closedRows_append {t : Db} {rows : List EventOutbox}
    (ho : t.outbox.rows = db.outbox.rows ++ rows) :
    t.closedRows id = db.closedRows id + rows.countP fun r => r.payload.isClosed id := by
  rw [closedRows, closedRows, log, Db.log_of_append ho, List.countP_append, List.countP_map]
  rfl

lemma Quiet.create {dto : CreateTicketDto} {tickets : Table Ticket}
    (ht : db.tickets.insert? (TicketsService.nextTicket env actor dto db) = some tickets)
    (ho : outbox.rows = db.outbox.rows ++
      [TicketsService.createdRow env (TicketsService.nextTicket env actor dto db) cid]) :
    Quiet id db { db with tickets, outbox } := by
  refine ⟨(Db.closedRows_append ho).trans rfl, Db.closes_eq_false fun hclosed => ?_⟩
  obtain ⟨t, hmem, hid, hstatus⟩ := Table.column_eq_some.mp hclosed
  rcases (Table.mem_insert? ht).mp hmem with hmem | rfl
  · exact .inl (Table.column_eq_some.mpr ⟨t, hmem, hid, hstatus⟩)
  · cases hstatus

lemma Quiet.comment {comments : Table Comment} {dto : CreateCommentDto} {comment : Comment}
    (ho : outbox.rows = db.outbox.rows ++
      [CommentsService.createdRow env actor dto comment cid]) :
    Quiet id db { db with comments, outbox } :=
  ⟨(Db.closedRows_append ho).trans rfl, Db.closes_of_tickets rfl id⟩

lemma Db.status_modify {db' : Db} {id' : Uuid} {f : Ticket → Ticket}
    {hf : ∀ t, Keyed.key (f t) = Keyed.key t}
    (h : db'.tickets = db.tickets.modify id' f hf) :
    db'.status id =
      if id = id' then ((db.tickets.find? id).map f).map Ticket.status else db.status id := by
  rw [Db.status, h, Table.column, Table.find?_modify]
  split_ifs <;> rfl

lemma Quiet.assign {db' : Db} {id' : Uuid} {dto : AssignTicketDto} {t : Ticket}
    (hf : ∀ r, Keyed.key (Ticket.assign dto.assigneeId env.now r) = Keyed.key r)
    (ho : db'.outbox.rows = db.outbox.rows ++ [TicketsService.assignedRow env actor dto t cid])
    (htickets : db'.tickets =
      db.tickets.modify id' (Ticket.assign dto.assigneeId env.now) hf) : Quiet id db db' := by
  refine ⟨(Db.closedRows_append ho).trans rfl, Db.closes_eq_false fun hclosed => ?_⟩
  rw [Db.status_modify htickets] at hclosed
  split_ifs at hclosed
  · obtain ⟨t, ht, hstatus⟩ := Option.map_eq_some_iff.mp hclosed
    obtain ⟨a, -, rfl⟩ := Option.map_eq_some_iff.mp ht
    cases hstatus
  · exact .inl hclosed

lemma Quiet.drop (organizationId : Uuid) : Quiet id db (db.dropOrganization organizationId) := by
  refine ⟨rfl, Db.closes_eq_false fun hclosed => ?_⟩
  obtain ⟨t, hmem, hid, hstatus⟩ := Table.column_eq_some.mp hclosed
  obtain ⟨a, ha, rfl⟩ := List.mem_map.mp hmem
  refine .inl (Table.column_eq_some.mpr ⟨a, List.mem_of_mem_filter ha, ?_, ?_⟩)
  · rw [← hid]
    split <;> rfl
  · rw [← hstatus]
    split <;> rfl

/-- An update closes the ticket it is for when it says so and the ticket is not closed yet. -/
lemma Db.closes_update {db' : Db} {id' : Uuid} {dto : UpdateTicketDto} {closedAt : Option Time}
    {now : Time} {t : Ticket}
    (hf : ∀ r, Keyed.key (Ticket.apply dto closedAt now r) = Keyed.key r)
    (ht : db.tickets.find? id' = some t)
    (htickets : db'.tickets = db.tickets.modify id' (Ticket.apply dto closedAt now) hf) :
    db.closes db' id = decide (id' = id ∧ dto.status = .value .closed ∧ t.status ≠ .closed) := by
  have hstatus : db'.status id = if id = id' then some (dto.status.getD t.status)
      else db.status id := by
    rw [Db.status_modify htickets]
    split_ifs with hid
    · rw [hid, ht]
      rfl
    · rfl
  by_cases hid : id' = id
  · subst hid
    have hs : db.status id' = some t.status := by
      rw [Db.status, Table.column, ht, Option.map_some]
    rw [Db.closes, hstatus, hs, if_pos rfl]
    cases hnow : t.status <;> cases hdto : dto.status <;> simp [Field.getD]
  · simp only [hid, false_and, decide_false]
    refine Db.closes_eq_false fun hclosed => .inl ?_
    rwa [hstatus, if_neg (Ne.symm hid)] at hclosed

/-- An update moves the two counts alike exactly when it closes the ticket, or leaves it closed, by
the status the ticket has now as well as by the one that was read. -/
lemma update_closings {db' : Db} {id' : Uuid} {dto : UpdateTicketDto} {existing t : Ticket}
    (hf : ∀ r, Keyed.key (Ticket.apply dto
      (TicketsService.closingTime env (TicketsService.willClose dto existing)) env.now r) =
        Keyed.key r)
    (ht : db.tickets.find? id' = some t)
    (ho : db'.outbox.rows = db.outbox.rows ++
      TicketsService.updateRows env actor dto
        (t.apply dto (TicketsService.closingTime env (TicketsService.willClose dto existing))
          env.now) cid (TicketsService.willClose dto existing))
    (htickets : db'.tickets = db.tickets.modify id'
      (Ticket.apply dto (TicketsService.closingTime env (TicketsService.willClose dto existing))
        env.now) hf) :
    db'.closedRows id = db.closedRows id + (db.closes db' id).toNat ↔
      (id' = id → dto.status = .value .closed →
        (existing.status = .closed ↔ t.status = .closed)) := by
  have htid : t.id = id' := (Table.find?_eq_some.mp ht).2
  have hrows : db'.closedRows id = db.closedRows id +
      if id' = id ∧ TicketsService.willClose dto existing then 1 else 0 := by
    rw [Db.closedRows_append ho, TicketsService.updateRows, ← htid]
    cases TicketsService.willClose dto existing <;>
      simp [TicketsService.updatedRow, TicketsService.closedRow, EventPublisherService.newRow,
        Payload.isClosed, List.countP_cons, Ticket.apply]
  rw [hrows, Db.closes_update hf ht htickets]
  by_cases hid : id' = id <;> by_cases hdto : dto.status = .value .closed <;>
    by_cases hread : existing.status = .closed <;> by_cases hnow : t.status = .closed <;>
    simp [hid, hdto, hread, hnow, TicketsService.willClose]

/-- An update of the ticket to `CLOSED` that is going through has read a status that is `CLOSED`
exactly if the status is so now. -/
def Call.ReadsFreshStatus (id : Uuid) (env : Env) (db : Db) : Call → Prop
  | .ticketsUpdateTransaction _ id' dto _ existing =>
    id' = id → dto.status = .value .closed →
      TicketsService.UpdateGoesThrough env db dto (TicketsService.willClose dto existing) →
        ∀ t, db.tickets.find? id = some t → (existing.status = .closed ↔ t.status = .closed)
  | _ => True

lemma Call.Writes.quiet {call : Call} {db' : Db} (h : Call.Writes env db call db')
    (hcall : ∀ actor id dto cid existing,
      call ≠ .ticketsUpdateTransaction actor id dto cid existing) : Quiet id db db' := by
  cases h with
  | organizationsRemove => exact .drop _
  | ticketsCreate ht ho => exact .create ht ho
  | ticketsUpdate _ _ => exact absurd rfl (hcall _ _ _ _ _)
  | ticketsAssign _ ho => exact .assign (fun _ => rfl) ho rfl
  | commentsCreate _ ho => exact .comment ho
  | _ => exact .of_tickets id rfl rfl

/-- The step lemma of a call: the two counts move alike exactly when the status was read fresh. -/
lemma Call.closedRows_exec (id : Uuid) (env : Env) (db : Db) (call : Call) :
    (call.exec env db).1.closedRows id =
        db.closedRows id + (db.closes (call.exec env db).1 id).toNat ↔
      call.ReadsFreshStatus id env db := by
  have quiet : Quiet id db (call.exec env db).1 → (call.exec env db).1.closedRows id =
      db.closedRows id + (db.closes (call.exec env db).1 id).toNat := fun hq => by
    rw [hq.1, hq.2]
    rfl
  by_cases hcall : ∀ actor id dto cid existing,
      call ≠ .ticketsUpdateTransaction actor id dto cid existing
  · have hfresh : call.ReadsFreshStatus id env db := by
      cases call <;> first | trivial | exact absurd rfl (hcall _ _ _ _ _)
    refine iff_of_true (quiet ?_) hfresh
    have hexec : Call.Executes env db call (call.exec env db).1 (call.exec env db).2 :=
      Call.exec_cases rfl
    generalize call.exec env db = next at hexec ⊢
    obtain ⟨db', call'⟩ := next
    dsimp only at hexec ⊢
    cases hexec with
    | wrote h => exact h.quiet hcall
    | _ => exact .of_tickets id rfl rfl
  · push Not at hcall
    obtain ⟨actor, id', dto, cid, existing, rfl⟩ := hcall
    rcases Call.exec_update env db actor id' dto cid existing with
      ⟨hthrough, t, outbox, ht, ho, hexec⟩ | ⟨hnot, e, hexec⟩
    · rw [hexec, update_closings (fun _ => rfl) ht ho rfl]
      constructor
      · rintro hfresh rfl hclosed - t' ht'
        cases ht.symm.trans ht'
        exact hfresh rfl hclosed
      · rintro hfresh rfl hclosed
        exact hfresh rfl hclosed hthrough t ht
    · refine iff_of_true (quiet ?_) ?_
      · rw [hexec]
        exact .of_tickets id rfl rfl
      · rintro rfl hclosed hthrough t ht
        exact absurd ⟨by simp [ht], hthrough⟩ hnot

end Writes

/-! ### Whole runs -/

namespace World

open Machine

variable {cfg : Config} {w w' : World} {e : Event}

/-- The closings of a ticket in a run. -/
def closings (cfg : Config) (id : Uuid) (w : World) (es : List Event) : Nat :=
  (collect (step cfg) (fun s _ t => List.replicate (s.db.closes t.db id).toNat ()) w es).length

/-- The condition on a step: a call that takes it has read a fresh status. -/
def ReadsFreshStatus (id : Uuid) (w : World) : Event → Prop
  | .proceed i env => ∀ c ∈ w.calls[i]?, c.call.ReadsFreshStatus id env w.db
  | _ => True

lemma quiet_of_steps {id : Uuid} (h : Steps cfg w e w') (he : ∀ i env, e ≠ .proceed i env) :
    Quiet id w.db w'.db := by
  cases h with
  | proceed _ _ => exact absurd rfl (he _ _)
  | relay _ h => exact .of_tickets id h.log (by rw [h.frame])
  | consume _ h => exact .of_tickets id h.log h.tickets
  | finish _ h => exact .of_tickets id h.log h.tickets
  | _ => exact .of_tickets id rfl rfl

/-- The step lemma: the two counts move alike exactly when the status was read fresh. -/
lemma closedRows_step {id : Uuid} (h : step cfg w e = some w') :
    w'.db.closedRows id = w.db.closedRows id +
        (List.replicate (w.db.closes w'.db id).toNat ()).length ↔
      ReadsFreshStatus id w e := by
  rw [List.length_replicate]
  by_cases he : ∀ i env, e ≠ .proceed i env
  · refine iff_of_true ?_ ?_
    · obtain ⟨hrows, hcloses⟩ := @quiet_of_steps cfg w w' e id (step_cases h) he
      rw [hrows, hcloses]
      rfl
    · cases e <;> first | trivial | exact absurd rfl (he _ _)
  · push Not at he
    obtain ⟨i, env, rfl⟩ := he
    obtain ⟨c, hc, rfl⟩ := Option.map_eq_some_iff.mp h
    have := Call.closedRows_exec id env w.db c.call
    simpa [ReadsFreshStatus, hc] using this

/-- At every point of a run a ticket has as many `ticket.closed` rows as it has been closed,
exactly when every update to `CLOSED` that commits has read a fresh status. -/
theorem closedRows_iff (cfg : Config) (organizations : Table Organization) (users : Table User)
    (n : Nat) (id : Uuid) {es : List Event} {w : World}
    (h : exec (step cfg) (initial organizations users n) es = some w) :
    (∀ fs t, fs <+: es → exec (step cfg) (initial organizations users n) fs = some t →
      t.db.closedRows id = closings cfg id (initial organizations users n) fs) ↔
      Guarded (step cfg) (ReadsFreshStatus id) (initial organizations users n) es := by
  have hzero : (initial organizations users n).db.closedRows id = 0 := rfl
  have := tally_iff (step cfg) (g := fun w => w.db.closedRows id) (C := ReadsFreshStatus id)
    (fun _ _ _ h => closedRows_step h) h
  simp only [hzero, Nat.zero_add] at this
  exact this

theorem closedRows_iff_lifecycle :
    ∃ w, exec (step .default) (initial Seed.organizations Seed.users 1) lifecycleRun = some w ∧
      w.db.closedRows 140 = 1 ∧
      ((∀ fs t, fs <+: lifecycleRun →
          exec (step .default) (initial Seed.organizations Seed.users 1) fs = some t →
          t.db.closedRows 140 =
            closings .default 140 (initial Seed.organizations Seed.users 1) fs) ↔
        Guarded (step .default) (ReadsFreshStatus 140) (initial Seed.organizations Seed.users 1)
          lifecycleRun) := by
  have hrun : (exec (step .default) (initial Seed.organizations Seed.users 1)
      lifecycleRun).any fun w => w.db.closedRows 140 = 1 := by decide
  obtain ⟨w, hw, hone⟩ := exists_of_any hrun
  exact ⟨w, hw, hone,
    closedRows_iff .default Seed.organizations Seed.users 1 140 hw⟩

/-- Two agents close the same ticket: both read it open, and both announce its closing. -/
def closedTwiceRun : List Event :=
  [.arrive (some 13) none (.createTicket Seed.ticketDto), .proceed 0 (Seed.env 1),
    .arrive (some 11) none (.updateTicket 140 Seed.closeDto),
    .arrive (some 12) none (.updateTicket 140 Seed.closeDto),
    .proceed 1 (Seed.env 2), .proceed 2 (Seed.env 3), .proceed 1 (Seed.env 4),
    .proceed 2 (Seed.env 5)]

theorem closed_twice :
    ¬ ∀ es w, exec (step .default) (initial Seed.organizations Seed.users 0) es = some w →
      ∀ id, w.db.closedRows id =
        closings .default id (initial Seed.organizations Seed.users 0) es := by
  intro hall
  have hrun : (exec (step .default) (initial Seed.organizations Seed.users 0)
      closedTwiceRun).isSome := by decide
  obtain ⟨w, hw⟩ := Option.isSome_iff_exists.mp hrun
  have hrows : ((exec (step .default) (initial Seed.organizations Seed.users 0)
      closedTwiceRun).map fun w => w.db.closedRows 140) = some 2 := by decide
  have hclosings : closings .default 140 (initial Seed.organizations Seed.users 0)
      closedTwiceRun = 1 := by decide
  have := hall closedTwiceRun w hw 140
  rw [hw, Option.map_some, Option.some.injEq] at hrows
  omega

end World

end SupportPlatform
