import SupportPlatform.Creation.Serial
import SupportPlatform.Platform.Closings

/-!
# The closing time of a ticket

`closedAt` is written when an update takes a ticket to `CLOSED`, and never again until it is closed
once more. So it is the time of the latest closing, also of a ticket that has been reopened since,
by an update of its status or by an assignment, which takes it to `IN_PROGRESS`.
-/

namespace SupportPlatform

/-- The closing time of a ticket is there exactly if the ticket is closed, and then it is the last
of the given times. -/
def Db.ClosedAtTells (db : Db) (id : Uuid) (closings : List Time) : Prop :=
  ∀ t ∈ db.tickets.find? id, (t.closedAt.isSome ↔ t.status = .closed) ∧
    (t.closedAt.isSome → t.closedAt = closings.getLast?)

/-- The closing time of a ticket is the last of the given times. -/
def Db.Dated (db : Db) (id : Uuid) (closings : List Time) : Prop :=
  db.tickets.Tracks Ticket.closedAt id none closings.getLast?

/-- A ticket has a closing time exactly if it is closed. -/
def Db.ClosedAtFits (db : Db) (id : Uuid) : Prop :=
  ∀ t ∈ db.tickets.find? id, t.closedAt.isSome ↔ t.status = .closed

/-! ### One step of a call -/

section

variable {env : Env} {db db' : Db} {call call' : Call} {id : Uuid} {l : List Time}

/-- Every ticket found under the id was there, with the same status and closing time. -/
def Db.SameClosing (id : Uuid) (s t : Db) : Prop :=
  ∀ x ∈ t.tickets.find? id, ∃ a ∈ s.tickets.find? id,
    x.status = a.status ∧ x.closedAt = a.closedAt

lemma Db.SameClosing.of_find? (h : db'.tickets.find? id = db.tickets.find? id) :
    db.SameClosing id db' :=
  fun t ht => ⟨t, h ▸ ht, rfl, rfl⟩

lemma Db.SameClosing.of_tickets (h : db'.tickets = db.tickets) : db.SameClosing id db' :=
  .of_find? (by rw [h])

lemma Db.SameClosing.dropOrganization (o : Uuid) : db.SameClosing id (db.dropOrganization o) := by
  intro t ht
  obtain ⟨hmem, rfl⟩ := Table.find?_eq_some.mp ht
  obtain ⟨a, ha, rfl⟩ := List.mem_map.mp hmem
  refine ⟨a, Table.find?_eq_some.mpr ⟨List.mem_of_mem_filter ha, ?_⟩, ?_, ?_⟩ <;>
    (split <;> rfl)

lemma Db.ClosedAtFits.mono (hdb : db.ClosedAtFits id) (h : db.SameClosing id db') :
    db'.ClosedAtFits id := by
  intro t ht
  obtain ⟨a, ha, hstatus, hclosedAt⟩ := h t ht
  rw [hstatus, hclosedAt]
  exact hdb a ha

/-- The read of an update in progress is the row as it is. -/
def Call.ReadsRow (db : Db) : Call → Prop
  | .ticketsUpdateTransaction _ id _ _ existing => db.tickets.find? id = some existing
  | _ => True

lemma Call.Executes.readsRow (h : Call.Executes env db call db' call') : call'.ReadsRow db' := by
  cases h with
  | checked h =>
    cases h with
    | ticketsUpdate h => exact (TicketsService.findOne_ok (TicketsService.checkUpdate_ok h).1).1
    | _ => trivial
  | @finished outcome => trivial
  | _ => trivial

/-- The closings of the ticket that a step makes. -/
def Db.closing (s t : Db) (id : Uuid) (now : Time) : List Time :=
  if s.closes t id then [now] else []

lemma Db.Dated.quiet (h : db'.Dated id l) (hcloses : db.closes db' id = false) :
    db'.Dated id (l ++ db.closing db' id env.now) := by
  simpa [Db.closing, hcloses] using h

lemma Db.Dated.update {id' : Uuid} {dto : UpdateTicketDto} {t : Ticket}
    (hf : ∀ r, Keyed.key (Ticket.apply dto
      (TicketsService.closingTime env (TicketsService.willClose dto t)) env.now r) = Keyed.key r)
    (hdb : db.Dated id l) (ht : db.tickets.find? id' = some t)
    (htickets : db'.tickets = db.tickets.modify id' (Ticket.apply dto
      (TicketsService.closingTime env (TicketsService.willClose dto t)) env.now) hf) :
    db'.Dated id (l ++ db.closing db' id env.now) := by
  have hcloses : db.closes db' id = _ := Db.closes_update hf ht htickets
  by_cases hid : id' = id
  · subst hid
    refine .modify ht hf htickets ?_
    rw [Db.closing, hcloses]
    by_cases hclose : dto.status = .value .closed ∧ t.status ≠ .closed
    · simp [Ticket.apply, TicketsService.closingTime, TicketsService.willClose, hclose]
    · have hwill : TicketsService.willClose dto t = false := by
        simpa [TicketsService.willClose] using hclose
      have hold : t.closedAt = l.getLast? :=
        hdb.row t (Table.find?_eq_some.mp ht).1 (Table.find?_eq_some.mp ht).2
      simp [Ticket.apply, TicketsService.closingTime, hwill, hclose, hold]
  · have hnone : db.closing db' id env.now = [] := by simp [Db.closing, hcloses, hid]
    rw [hnone, List.append_nil]
    exact Table.Tracks.modify_of_ne hdb hf htickets hid

/-- The step lemma of the closing times. -/
lemma Call.Writes.dated (h : Call.Writes env db call db') (hread : call.ReadsRow db)
    (hdb : db.Dated id l) : db'.Dated id (l ++ db.closing db' id env.now) := by
  cases h with
  | organizationsRemove =>
    exact .quiet (Db.tracks_dropOrganization hdb fun _ => rfl) (Quiet.drop _).2
  | ticketsCreate ht ho => exact .quiet (hdb.insert? ht rfl) (Quiet.create ht ho).2
  | @ticketsUpdate _ _ _ _ existing t _ ht _ _ =>
    obtain rfl : existing = t := Option.some.inj (hread.symm.trans ht)
    exact hdb.update (fun _ => rfl) ht rfl
  | @ticketsAssign _ _ dto _ _ _ _ ho =>
    refine .quiet ?_ (Quiet.assign (fun _ => rfl) ho rfl).2
    exact Table.Tracks.modifyWhere (f := (·.assign dto.assigneeId env.now)) hdb (fun _ => rfl) rfl
      fun _ _ _ => rfl
  | _ => exact .quiet hdb (Db.closes_of_tickets rfl id)

lemma Call.Executes.dated (h : Call.Executes env db call db' call') (hread : call.ReadsRow db)
    (hdb : db.Dated id l) : db'.Dated id (l ++ db.closing db' id env.now) := by
  cases h with
  | wrote h => exact h.dated hread hdb
  | _ => exact hdb.quiet (Db.closes_of_tickets rfl id)

/-- A closed ticket is not taken to another status by a write that goes through. -/
def Call.KeepsClosed (id : Uuid) (env : Env) (db : Db) : Call → Prop
  | .ticketsUpdateTransaction _ id' dto _ existing =>
    id' = id → db.status id = some .closed →
      TicketsService.UpdateGoesThrough env db dto (TicketsService.willClose dto existing) →
        ∀ status, dto.status = .value status → status = .closed
  | .ticketsAssignTransaction _ id' dto _ =>
    id' = id → db.status id = some .closed → ¬ TicketsService.AssignGoesThrough env db dto
  | _ => True

lemma Db.status_of_find? {t : Ticket} (h : db.tickets.find? id = some t) :
    db.status id = some t.status := by
  rw [Db.status, Table.column, h, Option.map_some]

lemma Db.find?_of_status {status : TicketStatus} (h : db.status id = some status) :
    (db.tickets.find? id).isSome := by
  obtain ⟨t, ht, -⟩ := Option.map_eq_some_iff.mp h
  simp [ht]

/-- An update keeps the ticket it is for fit exactly when it does not reopen it. -/
lemma Ticket.apply_fits {dto : UpdateTicketDto} {t : Ticket} (hnull : dto.hasNull = false)
    (ht : t.closedAt.isSome ↔ t.status = .closed) :
    ((t.apply dto (TicketsService.closingTime env (TicketsService.willClose dto t))
        env.now).closedAt.isSome ↔
      (t.apply dto (TicketsService.closingTime env (TicketsService.willClose dto t))
        env.now).status = .closed) ↔
      (t.status = .closed → ∀ status, dto.status = .value status → status = .closed) := by
  cases hdto : dto.status with
  | null => simp [UpdateTicketDto.hasNull, hdto] at hnull
  | undefined =>
    have hwill : TicketsService.willClose dto t = false := by simp [TicketsService.willClose, hdto]
    simp [Ticket.apply, TicketsService.closingTime, hwill, hdto, Field.getD, ht]
  | value status =>
    by_cases hclosed : status = .closed <;> by_cases hold : t.status = .closed <;>
      simp_all [Ticket.apply, TicketsService.closingTime, TicketsService.willClose, Field.getD]

lemma Call.Writes.closedAtFits (h : Call.Writes env db call db') (hcall : call.movesStatus = false)
    (hdb : db.ClosedAtFits id) : db'.ClosedAtFits id := by
  cases h with
  | organizationsRemove => exact hdb.mono (.dropOrganization _)
  | @ticketsCreate actor dto _ _ _ ht =>
    intro t hfind
    by_cases hid : id = (TicketsService.nextTicket env actor dto db).id
    · subst hid
      cases (Table.find?_insert?_self ht).symm.trans hfind
      simp [TicketsService.nextTicket, TicketsService.newTicket]
    · exact hdb t ((Table.find?_insert?_of_ne ht hid).symm.trans hfind)
  | ticketsUpdate _ _ _ => cases hcall
  | ticketsAssign _ _ _ _ => cases hcall
  | _ => exact hdb.mono (.of_tickets rfl)

lemma Call.Executes.closedAtFits (h : Call.Executes env db call db' call')
    (hcall : call.movesStatus = false) (hdb : db.ClosedAtFits id) : db'.ClosedAtFits id := by
  cases h with
  | wrote h => exact h.closedAtFits hcall hdb
  | _ => exact hdb

/-- A write to one ticket keeps the table fit exactly when it keeps this ticket fit. -/
lemma Db.closedAtFits_modify {id' : Uuid} {f : Ticket → Ticket} {t : Ticket}
    (hf : ∀ r, Keyed.key (f r) = Keyed.key r) (hdb : db.ClosedAtFits id)
    (ht : db.tickets.find? id' = some t) (htickets : db'.tickets = db.tickets.modify id' f hf) :
    db'.ClosedAtFits id ↔ (id' = id → ((f t).closedAt.isSome ↔ (f t).status = .closed)) := by
  have hfind : db'.tickets.find? id =
      if id = id' then (db.tickets.find? id).map f else db.tickets.find? id := by
    rw [htickets, Table.find?_modify]
  by_cases hid : id' = id
  · subst hid
    simp [Db.ClosedAtFits, hfind, ht]
  · simp only [hid, false_implies, iff_true]
    exact hdb.mono (.of_find? (by rw [hfind, if_neg (Ne.symm hid)]))

lemma Call.closedAtFits_update {actor : AuthenticatedUser} {id' : Uuid} {dto : UpdateTicketDto}
    {cid : Option String} {existing : Ticket} (hread : db.tickets.find? id' = some existing)
    (hdb : db.ClosedAtFits id) :
    (exec env db (.ticketsUpdateTransaction actor id' dto cid existing)).1.ClosedAtFits id ↔
      (Call.ticketsUpdateTransaction actor id' dto cid existing).KeepsClosed id env db := by
  have hstatus := Db.status_of_find? hread
  rcases exec_update env db actor id' dto cid existing with
    ⟨hthrough, t, outbox, ht, -, hexec⟩ | ⟨hnot, e, hexec⟩
  · obtain rfl : existing = t := Option.some.inj (hread.symm.trans ht)
    rw [hexec, Db.closedAtFits_modify (f := (·.apply dto (TicketsService.closingTime env
      (TicketsService.willClose dto existing)) env.now)) (fun _ => rfl) hdb ht rfl]
    refine forall_congr' fun hid => ?_
    subst hid
    rw [Ticket.apply_fits hthrough.1 (hdb existing ht), hstatus, Option.some.injEq]
    exact forall_congr' fun _ => ⟨fun h _ => h, fun h => h hthrough⟩
  · rw [hexec]
    exact iff_of_true hdb fun _ _ hthrough => absurd ⟨by simp [hread], hthrough⟩ hnot

lemma Call.closedAtFits_assign {actor : AuthenticatedUser} {id' : Uuid} {dto : AssignTicketDto}
    {cid : Option String} (hdb : db.ClosedAtFits id) :
    (exec env db (.ticketsAssignTransaction actor id' dto cid)).1.ClosedAtFits id ↔
      (Call.ticketsAssignTransaction actor id' dto cid).KeepsClosed id env db := by
  rcases exec_assign env db actor id' dto cid with
    ⟨hthrough, t, outbox, ht, -, hexec⟩ | ⟨hnot, e, hexec⟩
  · rw [hexec, Db.closedAtFits_modify (f := (·.assign dto.assigneeId env.now)) (fun _ => rfl) hdb ht
      rfl]
    refine forall_congr' fun hid => ?_
    subst hid
    have hfits := hdb t ht
    simp only [Ticket.assign, Db.status_of_find? ht, Option.some.injEq, hthrough, not_true_eq_false,
      reduceCtorEq, iff_false, hfits]
  · rw [hexec]
    refine iff_of_true hdb fun hid hclosed hthrough => hnot ⟨?_, hthrough⟩
    subst hid
    exact Db.find?_of_status hclosed

/-- The step lemma of a call: closing time and status fit on exactly when no ticket is reopened. -/
lemma Call.closedAtFits_exec (call : Call) (hread : call.ReadsRow db) (hdb : db.ClosedAtFits id) :
    (call.exec env db).1.ClosedAtFits id ↔ call.KeepsClosed id env db := by
  have hexec : Executes env db call (call.exec env db).1 (call.exec env db).2 := exec_cases rfl
  cases call with
  | ticketsUpdateTransaction => exact closedAtFits_update hread hdb
  | ticketsAssignTransaction => exact closedAtFits_assign hdb
  | _ => exact iff_of_true (hexec.closedAtFits rfl hdb) trivial

end

/-! ### Serial runs -/

namespace Serial

open Machine

/-- The times at which a ticket is closed in a run. -/
def closings (id : Uuid) (es : List SerialEvent) : List Time :=
  collect step (fun s e t =>
    match e with
    | .proceed env => s.db.closing t.db id env.now
    | .request .. => []) initial es

/-- The condition on a step: no closed ticket is taken to another status. -/
def KeepsClosed (id : Uuid) (s : Serial) : SerialEvent → Prop
  | .proceed env => s.call.KeepsClosed id env s.db
  | .request .. => True

variable {s t : Serial} {e : SerialEvent} {id : Uuid}

/-- A request starts with a query or with an insertion. -/
lemma readsRow_ofRequest (db : Db) (user : AuthenticatedUser) (correlationId : Option String)
    (request : Request) : (Call.ofRequest user correlationId request).ReadsRow db := by
  cases request <;> trivial

lemma readsRow_step (h : step s e = some t) : t.call.ReadsRow t.db := by
  cases step_cases h with
  | request _ => exact readsRow_ofRequest _ _ _ _
  | proceed hexec => exact hexec.readsRow

lemma readsRow_initial : initial.call.ReadsRow initial.db := trivial

/-- In every serial run the closing time of a ticket is the time of its latest closing. -/
theorem dated_of_exec {es : List SerialEvent} (h : exec step initial es = some s) :
    s.db.Dated id (closings id es) := by
  have hinitial : initial.db.Dated id [] := .empty _ _ _
  refine (exec_collect_invariant step (l := [])
    (I := fun s l => s.call.ReadsRow s.db ∧ s.db.Dated id l) ?_ ⟨readsRow_initial, hinitial⟩ h).2
  rintro s e t l ⟨hread, hdated⟩ hstep
  refine ⟨readsRow_step hstep, ?_⟩
  cases step_cases hstep with
  | request _ => simpa using hdated
  | proceed hexec => exact hexec.dated hread hdated

/-- The step lemma: closing time and status fit on exactly when no ticket is reopened. -/
lemma closedAtFits_step (h : step s e = some t) (hread : s.call.ReadsRow s.db)
    (hs : s.db.ClosedAtFits id) : t.db.ClosedAtFits id ↔ s.KeepsClosed id e := by
  cases e with
  | request user correlationId request =>
    cases step_cases h with
    | request _ => exact iff_of_true hs trivial
  | proceed env =>
    cases h
    exact Call.closedAtFits_exec s.call hread hs

/-- In every state of a serial run a ticket has a closing time exactly if it is closed, and then it
is the time of its latest closing, if and only if no closed ticket is taken to another status. -/
theorem closedAt_iff (id : Uuid) {es : List SerialEvent} (h : exec step initial es = some s) :
    (∀ fs t, fs <+: es → exec step initial fs = some t → t.db.ClosedAtTells id (closings id fs)) ↔
      Guarded step (KeepsClosed id) initial es := by
  rw [← exec_invariant_iff step (I := fun s => s.db.ClosedAtFits id)
    (J := fun s => s.call.ReadsRow s.db) (fun _ _ _ _ hstep => readsRow_step hstep)
    (fun _ _ _ hread hs hstep => closedAtFits_step hstep hread hs) readsRow_initial
    (fun _ ht => by cases ht) h]
  refine forall₄_congr fun fs t _ ht => ⟨fun h x hx => (h x hx).1, fun h x hx => ?_⟩
  obtain ⟨hmem, hid⟩ := Table.find?_eq_some.mp hx
  exact ⟨h x hx, fun _ => (dated_of_exec ht).row x hmem hid⟩

/-! ### A ticket that is reopened -/

/-- The customer who reports a problem. -/
def reporter : AuthenticatedUser := ⟨410, "carol@acme.test", .customer, 110⟩

/-- The agent who solves it. -/
def solver : AuthenticatedUser := ⟨610, "gary@acme.test", .agent, 110⟩

/-- An organization with a customer and an agent is set up, the customer creates a ticket, and the
agent closes it. -/
def closingRun : List SerialEvent :=
  [.request operator none (.createOrganization ⟨"Acme Inc.", "acme-inc"⟩), .proceed (Seed.env 1),
    .request operator none (.register ⟨reporter.email, "Password123!", "Carol", "Customer", 110⟩),
    .proceed (Seed.env 2), .proceed (Seed.env 3), .proceed (Seed.env 4),
    .request operator none
      (.createUser ⟨solver.email, "Password123!", "Gary", "Agent", .agent, 110⟩),
    .proceed (Seed.env 5), .proceed (Seed.env 6),
    .request reporter none (.createTicket Seed.ticketDto), .proceed (Seed.env 7),
    .request solver none (.updateTicket 740 Seed.closeDto), .proceed (Seed.env 8),
    .proceed (Seed.env 9)]

/-- The agent takes the ticket up again. -/
def reopeningRun : List SerialEvent :=
  closingRun ++ [.request solver none (.assignTicket 740 ⟨610⟩), .proceed (Seed.env 10),
    .proceed (Seed.env 11), .proceed (Seed.env 12)]

theorem closedAt_iff_closing :
    ∃ s, exec step initial closingRun = some s ∧
      s.db.tickets.rows.map (fun t => (t.status, t.closedAt)) = [(.closed, some 9)] ∧
      ((∀ fs t, fs <+: closingRun → exec step initial fs = some t →
          t.db.ClosedAtTells 740 (closings 740 fs)) ↔
        Guarded step (KeepsClosed 740) initial closingRun) := by
  have hrun : (exec step initial closingRun).any fun s =>
      s.db.tickets.rows.map (fun t => (t.status, t.closedAt)) = [(.closed, some 9)] := by decide
  obtain ⟨s, hs, hrows⟩ := exists_of_any hrun
  exact ⟨s, hs, hrows, closedAt_iff 740 hs⟩

/-- The ticket is in progress and keeps its closing time. -/
theorem closedAt_reopened :
    ¬ ∀ es s, exec step initial es = some s → ∀ id, s.db.ClosedAtTells id (closings id es) := by
  intro hall
  have hrun : (exec step initial reopeningRun).any fun s =>
      (s.db.tickets.find? 740).any fun t => t.status = .inProgress ∧ t.closedAt = some 9 := by
    decide
  obtain ⟨s, hs, hticket⟩ := (Option.any_eq_true _ _).mp hrun
  obtain ⟨t, ht, hstatus, hclosedAt⟩ := exists_of_any hticket
  have hclosed := (hall reopeningRun s hs 740 t ht).1.mp (by simp [hclosedAt])
  cases hstatus.symm.trans hclosed

end Serial

end SupportPlatform
