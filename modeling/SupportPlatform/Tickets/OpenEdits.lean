import SupportPlatform.Core.History
import SupportPlatform.Platform.Authority
import SupportPlatform.Platform.Closings
import SupportPlatform.Schema.Queries

/-!
# Edits by customers

`update` lets a customer edit his own tickets only and refuses him a status and a priority. Whether
the ticket is OPEN it looks at nowhere, neither in the check nor in the transaction. So customers
edit OPEN tickets only, as long as whatever staff has taken out of OPEN is put back before its
customer's next edit goes through.
-/

namespace SupportPlatform

namespace Call

/-- The call is over after this step, without an error. -/
def Commits (env : Env) (db : Db) (call : Call) : Prop := (call.exec env db).2 = .done (.ok ())

instance (env : Env) (db : Db) (call : Call) : Decidable (call.Commits env db) :=
  inferInstanceAs (Decidable (_ = _))

/-- The status that a step writes to a ticket, if it writes one. -/
def statusWrites (id : Uuid) (env : Env) (db : Db) (call : Call) : List TicketStatus :=
  match call with
  | .ticketsUpdateTransaction _ id' dto _ _ =>
    if id' = id ∧ call.Commits env db then dto.status.value?.toList else []
  | .ticketsAssignTransaction _ id' _ _ =>
    if id' = id ∧ call.Commits env db then [.inProgress] else []
  | _ => []

/-- When the update of a customer commits, the ticket is one he created, and it is OPEN. -/
def EditsOwnOpen (env : Env) (db : Db) (call : Call) : Prop :=
  match call with
  | .ticketsUpdateTransaction actor id _ _ _ =>
    actor.role = .customer → call.Commits env db →
      ∃ t ∈ db.tickets.find? id, t.createdById = actor.id ∧ t.status = .open
  | _ => True

instance (env : Env) (db : Db) (call : Call) : Decidable (call.EditsOwnOpen env db) := by
  unfold EditsOwnOpen
  split <;> infer_instance

/-- The update of the ticket by a customer, which is going to go through. -/
def CustomerEdits (id : Uuid) (env : Env) (db : Db) : Call → Prop
  | .ticketsUpdateTransaction actor id' dto _ existing =>
    id' = id ∧ actor.role = .customer ∧ (db.tickets.find? id).isSome ∧
      TicketsService.UpdateGoesThrough env db dto (TicketsService.willClose dto existing)
  | _ => False

/-- An update of a customer is one of a ticket he created. -/
def OfCreator (db : Db) : Call → Prop
  | .ticketsUpdateTransaction actor id _ _ _ =>
    actor.role = .customer → db.tickets.Names Ticket.createdById id actor.id
  | _ => True

section

variable {env : Env} {db db' : Db} {call call' : Call} {id : Uuid} {l : List TicketStatus}

lemma OfCreator.mono (h : Table.Evolves Ticket.createdById db.tickets db'.tickets)
    (hcall : call.OfCreator db) : call.OfCreator db' := by
  cases call with
  | ticketsUpdateTransaction => exact fun hrole => h.names (hcall hrole)
  | _ => trivial

lemma Executes.ofCreator (h : Executes env db call db' call') (hcall : call.OfCreator db) :
    call'.OfCreator db' := by
  cases h with
  | finished => exact hcall
  | checked h =>
    cases h with
    | ticketsUpdate h =>
      obtain ⟨hfind, -, howner⟩ := TicketsService.findOne_ok (TicketsService.checkUpdate_ok h).1
      obtain ⟨hmem, rfl⟩ := Table.find?_eq_some.mp hfind
      exact fun hrole => howner hrole ▸ Table.names_of_mem _ hmem
    | _ => trivial
  | _ => trivial

lemma ofCreator_receive (db : Db) (sub : Option Uuid) (correlationId : Option String)
    (request : Request) : (receive db sub correlationId request).2.OfCreator db := by
  have hguarded : (guarded db sub correlationId request).2.OfCreator db := by
    unfold guarded
    split
    · split_ifs
      · cases request <;> trivial
      · trivial
    · trivial
  cases request <;> first | exact hguarded | trivial

/-! ### The status and its writes -/

/-- The status of the ticket is the last one written, and OPEN before any. -/
def LastWritten (id : Uuid) (db : Db) (l : List TicketStatus) : Prop :=
  db.tickets.Tracks Ticket.status id .open (l.getLast?.getD .open)

lemma lastWritten_update {actor : AuthenticatedUser} {id' : Uuid} {dto : UpdateTicketDto}
    {cid : Option String} {existing : Ticket} (hdb : LastWritten id db l) :
    LastWritten id (exec env db (.ticketsUpdateTransaction actor id' dto cid existing)).1
      (l ++ statusWrites id env db (.ticketsUpdateTransaction actor id' dto cid existing)) := by
  rcases exec_update env db actor id' dto cid existing with
    ⟨hthrough, t, outbox, ht, -, hexec⟩ | ⟨-, e, hexec⟩
  · have hcommits : Commits env db (.ticketsUpdateTransaction actor id' dto cid existing) := by
      rw [Commits, hexec]
    simp only [statusWrites, hcommits, and_true, hexec]
    let f : Ticket → Ticket := (·.apply dto
      (TicketsService.closingTime env (TicketsService.willClose dto existing)) env.now)
    by_cases hid : id' = id
    · subst hid
      have hold := hdb.row t (Table.find?_eq_some.mp ht).1 (Table.find?_eq_some.mp ht).2
      refine Table.Tracks.modify (f := f) ht (fun _ => rfl) rfl ?_
      cases hdto : dto.status with
      | undefined => simp [f, Ticket.apply, hdto, Field.getD, Field.value?, hold]
      | null => simp [TicketsService.UpdateGoesThrough, UpdateTicketDto.hasNull, hdto] at hthrough
      | value status => simp [f, Ticket.apply, hdto, Field.getD, Field.value?]
    · rw [if_neg hid, List.append_nil]
      exact Table.Tracks.modify_of_ne (f := f) hdb (fun _ => rfl) rfl hid
  · have hfails : ¬ Commits env db (.ticketsUpdateTransaction actor id' dto cid existing) := by
      rw [Commits, hexec]
      simp
    simpa [statusWrites, hfails, hexec] using hdb

lemma lastWritten_assign {actor : AuthenticatedUser} {id' : Uuid} {dto : AssignTicketDto}
    {cid : Option String} (hdb : LastWritten id db l) :
    LastWritten id (exec env db (.ticketsAssignTransaction actor id' dto cid)).1
      (l ++ statusWrites id env db (.ticketsAssignTransaction actor id' dto cid)) := by
  rcases exec_assign env db actor id' dto cid with
    ⟨hthrough, t, outbox, ht, -, hexec⟩ | ⟨-, e, hexec⟩
  · have hcommits : Commits env db (.ticketsAssignTransaction actor id' dto cid) := by
      rw [Commits, hexec]
    simp only [statusWrites, hcommits, and_true, hexec]
    let f : Ticket → Ticket := (·.assign dto.assigneeId env.now)
    by_cases hid : id' = id
    · subst hid
      exact Table.Tracks.modify (f := f) ht (fun _ => rfl) rfl (by simp [f, Ticket.assign])
    · rw [if_neg hid, List.append_nil]
      exact Table.Tracks.modify_of_ne (f := f) hdb (fun _ => rfl) rfl hid
  · have hfails : ¬ Commits env db (.ticketsAssignTransaction actor id' dto cid) := by
      rw [Commits, hexec]
      simp
    simpa [statusWrites, hfails, hexec] using hdb

lemma Writes.lastWritten (h : Writes env db call db') (hcall : call.movesStatus = false)
    (hdb : LastWritten id db l) : LastWritten id db' l := by
  cases h with
  | organizationsRemove =>
    exact Db.tracks_dropOrganization hdb fun _ => rfl
  | ticketsCreate ht _ => exact Table.Tracks.insert? hdb ht rfl
  | ticketsUpdate _ _ _ => cases hcall
  | ticketsAssign _ _ _ _ => cases hcall
  | _ => exact hdb

/-- The step lemma of a call. -/
lemma lastWritten_exec (call : Call) (hdb : LastWritten id db l) :
    LastWritten id (call.exec env db).1 (l ++ call.statusWrites id env db) := by
  have hexec : Executes env db call (call.exec env db).1 (call.exec env db).2 := exec_cases rfl
  have hother (hcall : call.movesStatus = false) : LastWritten id (call.exec env db).1 l := by
    generalize call.exec env db = next at hexec
    obtain ⟨db', call'⟩ := next
    dsimp only at hexec
    cases hexec with
    | wrote h => exact h.lastWritten hcall hdb
    | _ => exact hdb
  cases call with
  | ticketsUpdateTransaction => exact lastWritten_update hdb
  | ticketsAssignTransaction => exact lastWritten_assign hdb
  | _ => simpa [statusWrites] using hother rfl

/-- The update of a customer finds the ticket OPEN exactly when the last write of its status left it
so. -/
lemma editsOwnOpen_iff {statusLog : Uuid → List TicketStatus} (hcall : call.OfCreator db)
    (hdb : ∀ id, LastWritten id db (statusLog id)) :
    call.EditsOwnOpen env db ↔
      ∀ id, call.CustomerEdits id env db → (statusLog id).getLast?.getD .open = .open := by
  cases call with
  | ticketsUpdateTransaction actor id dto cid existing =>
    simp only [EditsOwnOpen, CustomerEdits, and_imp, forall_eq']
    refine imp_congr_right fun hrole => ?_
    have hlast (t : Ticket) (ht : db.tickets.find? id = some t) :
        t.status = (statusLog id).getLast?.getD .open :=
      (hdb id).row t (Table.find?_eq_some.mp ht).1 (Table.find?_eq_some.mp ht).2
    rcases exec_update env db actor id dto cid existing with
      ⟨hthrough, t, outbox, ht, -, hexec⟩ | ⟨hnot, e, hexec⟩
    · obtain ⟨hmem, hid⟩ := Table.find?_eq_some.mp ht
      constructor
      · rintro hedits - -
        obtain ⟨t', ht', -, hopen⟩ := hedits (by rw [Commits, hexec])
        rw [← hlast t' ht', hopen]
      · rintro hopen -
        refine ⟨t, ht, (hcall hrole).2 t hmem hid, ?_⟩
        rw [hlast t ht, hopen (by rw [ht, Option.isSome_some]) hthrough]
    · constructor
      · rintro - hsome hthrough
        exact absurd ⟨hsome, hthrough⟩ hnot
      · rintro - hcommits
        rw [Commits, hexec] at hcommits
        cases hcommits
  | _ => simp [EditsOwnOpen, CustomerEdits]

lemma length_statusWrites (id : Uuid) (env : Env) (db : Db) (call : Call) :
    (call.statusWrites id env db).length ≤ 1 := by
  unfold statusWrites
  split
  · split_ifs
    · exact Option.length_toList_le
    · exact Nat.zero_le 1
  · split_ifs <;> simp
  · exact Nat.zero_le 1

end

end Call

/-! ### Whole runs -/

namespace World

open Machine

variable {cfg : Config} {w w' : World} {e : Event} {id : Uuid}

/-- The status that a step of the platform writes to a ticket, if it writes one. -/
def statusWrites (id : Uuid) (w : World) : Event → List TicketStatus
  | .proceed i env => w.calls[i]?.elim [] fun c => c.call.statusWrites id env w.db
  | _ => []

/-- The writes of the status of a ticket in a run, in their order. -/
def statusLog (cfg : Config) (w : World) (es : List Event) (id : Uuid) : List TicketStatus :=
  collect (step cfg) (fun s e _ => s.statusWrites id e) w es

/-- If a step commits the update of a customer, the ticket is one he created and OPEN. -/
def EditsOwnOpen (w : World) : Event → Prop
  | .proceed i env => ∀ c ∈ w.calls[i]?, c.call.EditsOwnOpen env w.db
  | _ => True

/-- The step is an update of the ticket by a customer that goes through. -/
def CustomerEdits (id : Uuid) (w : World) : Event → Prop
  | .proceed i env => ∃ c ∈ w.calls[i]?, c.call.CustomerEdits id env w.db
  | _ => False

/-- The condition on a run: when a step takes a ticket out of OPEN, a later step puts it back before
the next update of its customer goes through. -/
def PutsBack (run : List (World × Event)) : Prop :=
  ∀ id before x between y after, run = before ++ x :: between ++ y :: after →
    (∃ status ∈ x.1.statusWrites id x.2, status ≠ .open) → y.1.CustomerEdits id y.2 →
      ∃ z ∈ between, .open ∈ z.1.statusWrites id z.2

/-- The updates of customers in progress are of tickets they created. -/
def OfCreators (w : World) : Prop := ∀ c ∈ w.calls, c.call.OfCreator w.db

lemma Steps.ofCreators (h : Steps cfg w e w') (hw : w.OfCreators) : w'.OfCreators := by
  have hold : ∀ c ∈ w.calls, c.call.OfCreator w'.db := fun c hc => (hw c hc).mono h.creators
  cases h with
  | arrive =>
    intro c hc
    rcases List.mem_append.mp hc with hc | hc
    · exact hold c hc
    · obtain rfl := List.mem_singleton.mp hc
      exact Call.ofCreator_receive _ _ _ _
  | proceed hc h =>
    intro c' hc'
    rcases List.mem_or_eq_of_mem_set hc' with hc' | rfl
    · exact hold c' hc'
    · exact h.ofCreator (hw _ (List.mem_of_getElem? hc))
  | _ => exact hold

/-- Only a step of a call changes the tickets. -/
lemma Steps.tickets (h : Steps cfg w e w') (he : ∀ i env, e ≠ .proceed i env) :
    w'.db.tickets = w.db.tickets := by
  cases h with
  | proceed _ _ => exact absurd rfl (he _ _)
  | relay _ h => rw [h.frame]
  | consume _ h => exact h.tickets
  | finish _ h => exact h.tickets
  | _ => rfl

/-- The step lemma: the status stays the one written last. -/
lemma lastWritten_step {l : List TicketStatus} (h : step cfg w e = some w')
    (hw : Call.LastWritten id w.db l) :
    Call.LastWritten id w'.db (l ++ w.statusWrites id e) := by
  cases e with
  | proceed i env =>
    obtain ⟨c, hc, rfl⟩ := Option.map_eq_some_iff.mp h
    simpa [statusWrites, hc] using Call.lastWritten_exec c.call hw
  | _ =>
    have htickets := (step_cases h).tickets fun _ _ he => by cases he
    rw [statusWrites, List.append_nil, Call.LastWritten, htickets]
    · exact hw
    · exact fun _ _ he => by cases he

lemma length_statusWrites (id : Uuid) (w : World) (e : Event) :
    (w.statusWrites id e).length ≤ 1 := by
  cases e with
  | proceed i env =>
    simp only [statusWrites]
    cases w.calls[i]? with
    | none => exact Nat.zero_le 1
    | some c => exact c.call.length_statusWrites id env w.db
  | _ => exact Nat.zero_le 1

/-- After a run, the step that commits the update of a customer finds a ticket he created, and finds
it OPEN if and only if the last write of its status left it so. -/
lemma editsOwnOpen_iff {organizations : Table Organization} {users : Table User} {n : Nat}
    {es : List Event} (h : exec (step cfg) (initial organizations users n) es = some w)
    (e : Event) :
    w.EditsOwnOpen e ↔ ∀ id, w.CustomerEdits id e →
      (statusLog cfg (initial organizations users n) es id).getLast?.getD .open = .open := by
  have hcreators : w.OfCreators := exec_invariant (step cfg)
    (fun _ _ _ hs ht => (step_cases ht).ofCreators hs) (fun c hc => by cases hc) h
  have hlast (id : Uuid) : Call.LastWritten id w.db
      (statusLog cfg (initial organizations users n) es id) :=
    exec_collect_invariant (step cfg) (l := []) (I := fun s l => Call.LastWritten id s.db l)
      (fun _ _ _ _ hs ht => lastWritten_step ht hs) (.empty _ _ _) h
  cases e with
  | proceed i env =>
    simp only [EditsOwnOpen, CustomerEdits]
    constructor
    · rintro hedits id ⟨c, hc, hcall⟩
      have hcreator := hcreators c (List.mem_of_getElem? hc)
      exact (Call.editsOwnOpen_iff hcreator hlast).mp (hedits c hc) id hcall
    · intro hopen c hc
      have hcreator := hcreators c (List.mem_of_getElem? hc)
      exact (Call.editsOwnOpen_iff hcreator hlast).mpr fun id hcall => hopen id ⟨c, hc, hcall⟩
  | _ => simp [EditsOwnOpen, CustomerEdits]

/-- In a run, whatever staff does meanwhile, every update of a customer that commits is of a ticket
he created that is OPEN just before, if and only if each step that takes a ticket out of OPEN is
followed by one that puts it back before the next update of its customer goes through. -/
theorem customer_edits_iff (cfg : Config) (organizations : Table Organization) (users : Table User)
    (n : Nat) (es : List Event) :
    (∀ x ∈ history (step cfg) (initial organizations users n) es, x.1.EditsOwnOpen x.2) ↔
      PutsBack (history (step cfg) (initial organizations users n) es) := by
  have hstep {past future : List (World × Event)} {y : World × Event}
      (hsplit : history (step cfg) (initial organizations users n) es = past ++ y :: future) :
      y.1.EditsOwnOpen y.2 ↔ ∀ id, y.1.CustomerEdits id y.2 →
        ∀ before x between, past = before ++ x :: between →
          (∃ status ∈ x.1.statusWrites id x.2, status ≠ .open) →
            ∃ z ∈ between, .open ∈ z.1.statusWrites id z.2 := by
    obtain ⟨fs, gs, -, hfs, rfl⟩ := history_eq_append (step cfg) hsplit
    rw [editsOwnOpen_iff hfs]
    refine forall₂_congr fun id _ => ?_
    rw [statusLog, collect_eq_flatMap (step cfg)]
    exact getLast?_flatMap_eq_iff
      (fun x : World × Event => length_statusWrites id x.1 x.2) _
  constructor
  · intro hedits id before x between y after hsplit hx hy
    have hopen := hedits y (by rw [hsplit]; simp)
    exact (hstep hsplit).mp hopen id hy before x between rfl hx
  · intro hback y hy
    obtain ⟨past, future, hsplit⟩ := List.append_of_mem hy
    refine (hstep hsplit).mpr fun id hedits before x between hpast hx => ?_
    exact hback id before x between y future (hpast ▸ hsplit) hx hedits

/-- A body of `PATCH /tickets/:id` that changes the title. -/
def titleDto : UpdateTicketDto :=
  ⟨.value "Login fails", .undefined, .undefined, .undefined, .undefined⟩

/-- A body of `PATCH /tickets/:id` that resolves the ticket. -/
def resolveDto : UpdateTicketDto :=
  ⟨.undefined, .undefined, .value .resolved, .undefined, .undefined⟩

/-- A customer creates a ticket and sends another title; his access has been checked. -/
def editRun : List Event :=
  [.arrive (some 13) none (.createTicket Seed.ticketDto), .proceed 0 (Seed.env 1),
    .arrive (some 13) none (.updateTicket 140 titleDto), .proceed 1 (Seed.env 2)]

/-- Meanwhile an agent resolves the ticket. -/
def resolvedRun : List Event :=
  editRun ++ [.arrive (some 12) none (.updateTicket 140 resolveDto), .proceed 2 (Seed.env 3),
    .proceed 2 (Seed.env 4)]

/-- The title of the resolved ticket is changed. -/
theorem customer_edits_resolved :
    ¬ ∀ es w, exec (step .default) (initial Seed.organizations Seed.users 1) es = some w →
      ∀ e, w.EditsOwnOpen e := by
  intro hall
  have hrun : (exec (step .default) (initial Seed.organizations Seed.users 1) resolvedRun).any
      fun w => w.calls[1]?.any fun c => ¬ c.call.EditsOwnOpen (Seed.env 5) w.db := by decide
  obtain ⟨w, hw, hcall⟩ := (Option.any_eq_true _ _).mp hrun
  obtain ⟨c, hc, hedits⟩ := exists_of_any hcall
  exact hedits (hall resolvedRun w hw (.proceed 1 (Seed.env 5)) c hc)

end World

end SupportPlatform
