import SupportPlatform.Platform.Lineage

/-!
# The outbox is a log of the domain

The abstract state is what the events speak of: of a ticket its id, reference, title, status,
priority, organization, creator, assignee and closing time, of a comment its id, ticket, author and
visibility. Replaying the payloads of the outbox in commit order gives the view of the database.
-/

namespace SupportPlatform

structure TicketView where
  id : Uuid
  reference : String
  title : String
  status : TicketStatus
  priority : TicketPriority
  organizationId : Uuid
  createdById : Uuid
  assignedToId : Option Uuid
  closedAt : Option Time
deriving DecidableEq, Repr

structure CommentView where
  id : Uuid
  ticketId : Uuid
  authorId : Uuid
  isInternal : Bool
deriving DecidableEq, Repr

structure DomainView where
  tickets : List TicketView
  comments : List CommentView
deriving DecidableEq, Repr

def Ticket.view (t : Ticket) : TicketView where
  id := t.id
  reference := t.reference
  title := t.title
  status := t.status
  priority := t.priority
  organizationId := t.organizationId
  createdById := t.createdById
  assignedToId := t.assignedToId
  closedAt := t.closedAt

def Comment.view (c : Comment) : CommentView where
  id := c.id
  ticketId := c.ticketId
  authorId := c.authorId
  isInternal := c.isInternal

/-- The view of a database. -/
def Db.view (db : Db) : DomainView where
  tickets := db.tickets.rows.map Ticket.view
  comments := db.comments.rows.map Comment.view

namespace TicketView

/-- `ticket.updated` applies its changes. -/
def update (changes : UpdateTicketDto) (t : TicketView) : TicketView :=
  { t with
    title := changes.title.getD t.title
    status := changes.status.getD t.status
    priority := changes.priority.getD t.priority }

/-- `ticket.assigned` sets the assignee and the status. -/
def assign (assigneeId : Uuid) (t : TicketView) : TicketView :=
  { t with assignedToId := some assigneeId, status := .inProgress }

/-- `ticket.closed` sets the closing time. -/
def close (closedAt : Time) (t : TicketView) : TicketView := { t with closedAt := some closedAt }

end TicketView

namespace DomainView

/-- The state before any event. -/
def empty : DomainView := ⟨[], []⟩

/-- Rewrite the ticket with an id. -/
def modify (v : DomainView) (id : Uuid) (f : TicketView → TicketView) : DomainView :=
  { v with tickets := v.tickets.map fun t => if t.id = id then f t else t }

/-- What an event does. -/
def apply (v : DomainView) : Payload → DomainView
  | .ticketCreated p =>
    { v with
      tickets := v.tickets ++
        [⟨p.ticketId, p.reference, p.title, p.status, p.priority, p.organizationId, p.createdById,
          p.assignedToId, none⟩] }
  | .ticketUpdated p => v.modify p.ticketId (TicketView.update p.changes)
  | .ticketAssigned p => v.modify p.ticketId (TicketView.assign p.assignedToId)
  | .ticketClosed p => v.modify p.ticketId (TicketView.close p.closedAt)
  | .commentCreated p =>
    { v with comments := v.comments ++ [⟨p.commentId, p.ticketId, p.authorId, p.isInternal⟩] }
  | .notificationCreated => v

/-- The replay of a log. -/
def replay (log : List Payload) : DomainView := log.foldl apply empty

lemma replay_append (log log' : List Payload) :
    replay (log ++ log') = log'.foldl apply (replay log) := List.foldl_append

lemma modify_modify (v : DomainView) (id : Uuid) {f : TicketView → TicketView}
    (g : TicketView → TicketView) (hf : ∀ t, (f t).id = t.id) :
    (v.modify id f).modify id g = v.modify id (g ∘ f) := by
  simp only [modify, List.map_map, mk.injEq, and_true]
  refine List.map_congr_left fun t _ => ?_
  by_cases h : t.id = id <;> simp [h, hf]

end DomainView

/-- A change of one ticket row, seen in the view. -/
lemma Db.view_modify (db : Db) (outbox : Table EventOutbox) (id : Uuid) {f : Ticket → Ticket}
    (hf : ∀ t, Keyed.key (f t) = Keyed.key t) {g : TicketView → TicketView}
    (hg : ∀ t, (f t).view = g t.view) :
    ({ db with tickets := db.tickets.modify id f hf, outbox } : Db).view =
      db.view.modify id g := by
  simp only [Db.view, DomainView.modify, Table.modify, Table.rows_modifyWhere, List.map_map,
    DomainView.mk.injEq, and_true]
  refine List.map_congr_left fun t _ => ?_
  by_cases h : t.id = id
  · simp [h, hg, show t.view.id = id from h]
  · simp [h, show t.view.id ≠ id from h]

/-- The payloads of the outbox, in commit order. -/
def Db.payloads (db : Db) : List Payload := db.outbox.rows.map EventOutbox.payload

/-- The replay of the outbox gives the domain. -/
def Db.Faithful (db : Db) : Prop := DomainView.replay db.payloads = db.view

/-! ### One transaction -/

section Writes

variable {env : Env} {db : Db} {outbox : Table EventOutbox} {cid : Option String}
  {actor : AuthenticatedUser}

/-- A transaction that adds rows to the outbox stays faithful when they tell what it did. -/
lemma Db.Faithful.append (h : db.Faithful) {db' : Db} {rows : List EventOutbox}
    (ho : db'.outbox.rows = db.outbox.rows ++ rows)
    (hview : (rows.map EventOutbox.payload).foldl DomainView.apply db.view = db'.view) :
    db'.Faithful := by
  rw [Db.Faithful, Db.payloads, ho, List.map_append, DomainView.replay_append, ← hview]
  exact congrArg (fun v => (rows.map EventOutbox.payload).foldl DomainView.apply v) h

lemma Db.Faithful.create (h : db.Faithful) {dto : CreateTicketDto} {tickets : Table Ticket}
    (ht : db.tickets.insert? (TicketsService.nextTicket env actor dto db) = some tickets)
    (ho : outbox.rows = db.outbox.rows ++
      [TicketsService.createdRow env (TicketsService.nextTicket env actor dto db) cid]) :
    ({ db with tickets, outbox } : Db).Faithful := by
  refine h.append ho ?_
  simp only [Db.view, (Table.insert?_eq_some.mp ht).2.1, List.map_append]
  rfl

/-- The event of an update tells what the update does to the columns of the view. -/
lemma Db.Faithful.update (h : db.Faithful) {id : Uuid} {dto : UpdateTicketDto} {t : Ticket}
    {willClose : Bool} (ht : db.tickets.find? id = some t)
    (ho : outbox.rows = db.outbox.rows ++
      TicketsService.updateRows env actor dto
        (t.apply dto (TicketsService.closingTime env willClose) env.now) cid willClose) :
    ({ db with
      tickets := db.tickets.modify id
        (·.apply dto (TicketsService.closingTime env willClose) env.now) fun _ => rfl
      outbox } : Db).Faithful := by
  obtain ⟨-, rfl⟩ := Table.find?_eq_some.mp ht
  refine h.append ho ?_
  cases willClose with
  | false => exact (Db.view_modify db outbox _ _ fun _ => rfl).symm
  | true =>
    -- the closing time in the payload is the one just written
    have hclose := DomainView.modify_modify db.view t.id (f := TicketView.update dto)
      (TicketView.close env.now) fun _ => rfl
    exact hclose.trans (Db.view_modify db outbox _ _ fun _ => rfl).symm

lemma Db.Faithful.assign (h : db.Faithful) {id : Uuid} {dto : AssignTicketDto} {t : Ticket}
    (ht : db.tickets.find? id = some t)
    (ho : outbox.rows = db.outbox.rows ++
      [TicketsService.assignedRow env actor dto (t.assign dto.assigneeId env.now) cid]) :
    ({ db with
      tickets := db.tickets.modify id (·.assign dto.assigneeId env.now) fun _ => rfl
      outbox } : Db).Faithful := by
  obtain ⟨-, rfl⟩ := Table.find?_eq_some.mp ht
  exact h.append ho (Db.view_modify db outbox _ _ fun _ => rfl).symm

lemma Db.Faithful.comment (h : db.Faithful) {ticketId : Uuid} {dto : CreateCommentDto}
    {comments : Table Comment}
    (hc : db.comments.insert? (CommentsService.newComment env actor ticketId dto) = some comments)
    (ho : outbox.rows = db.outbox.rows ++
      [CommentsService.createdRow env actor dto
        (CommentsService.newComment env actor ticketId dto) cid]) :
    ({ db with comments, outbox } : Db).Faithful := by
  refine h.append ho ?_
  simp only [Db.view, (Table.insert?_eq_some.mp hc).2.1, List.map_append]
  rfl

end Writes

lemma Call.Executes.faithful {env : Env} {db db' : Db} {call call' : Call}
    (h : Call.Executes env db call db' call') (hcall : call.isRemoval = false)
    (hdb : db.Faithful) : db'.Faithful := by
  cases h with
  | wrote h =>
    cases h with
    | organizationsRemove => cases hcall
    | ticketsCreate ht ho => exact hdb.create ht ho
    | ticketsUpdate ht ho => exact hdb.update ht ho
    | ticketsAssign ht ho => exact hdb.assign ht ho
    | commentsCreate hc ho => exact hdb.comment hc ho
    | _ => exact hdb
  | _ => exact hdb

/-- A call that fails leaves the database as it was. -/
lemma Call.Executes.db_of_error {env : Env} {db db' : Db} {call call' : Call} {e : Failure}
    (h : Call.Executes env db call db' call') (he : call' = .done (.error e)) : db' = db := by
  cases h with
  | wrote _ => cases he
  | _ => rfl

lemma OutboxRelayService.Steps.faithful {cfg : Config} {db db' : Db} {broker broker' : Broker}
    {p p' : RelayProcess} (h : Steps cfg db broker p db' broker' p') (hdb : db.Faithful) :
    db'.Faithful := by
  have hpayloads : db'.payloads = db.payloads := by
    have := congrArg (List.map fun c => c.2.1) h.log
    simpa [Db.log, Db.payloads, EventOutbox.content, Function.comp_def] using this
  have hview : db'.view = db.view := by rw [h.frame]; rfl
  rw [Db.Faithful, hpayloads, hview]
  exact hdb

lemma Delivery.Executes.faithful {db db' : Db} {broker broker' : Broker} {locked : Bool}
    {d : Delivery} {a : DeliveryAction} {d' : Option Delivery}
    (h : d.Executes db broker locked a db' broker' d') (hdb : db.Faithful) : db'.Faithful := by
  rw [h.frame]
  exact hdb

/-! ### Whole runs -/

namespace World

open Machine

variable {cfg : Config} {w w' : World} {e : Event}

lemma Steps.faithful (h : Steps cfg w e w') (hcalls : w.NoRemoval) (hdb : w.db.Faithful) :
    w'.db.Faithful := by
  cases h with
  | proceed hc h => exact h.faithful (hcalls _ (List.mem_of_getElem? hc)) hdb
  | relay _ h => exact h.faithful hdb
  | consume _ h => exact h.faithful hdb
  | finish _ h => exact h.faithful hdb
  | _ => exact hdb

/-- In every run without removals, replaying the outbox from the empty state gives the domain; and
a call that fails has left the database as it was. -/
theorem replay_payloads (cfg : Config) (organizations : Table Organization) (users : Table User)
    (n : Nat) {es : List Event} {w : World} (hes : ∀ e ∈ es, e.isRemoval = false)
    (h : exec (step cfg) (initial organizations users n) es = some w) :
    DomainView.replay w.db.payloads = w.db.view ∧
      ∀ i env e (w' : World) c, step cfg w (.proceed i env) = some w' → w'.calls[i]? = some c →
        c.call = .done (.error e) → w'.db = w.db := by
  constructor
  · have key := exec_invariant_of_forall (step cfg)
      (I := fun w => w.NoRemoval ∧ w.db.Faithful) (C := fun e => e.isRemoval = false)
      (fun s e t hs he ht =>
        ⟨(step_cases ht).noRemoval he hs.1, (step_cases ht).faithful hs.1 hs.2⟩)
      ⟨noRemoval_initial organizations users n, rfl⟩ hes h
    exact key.2
  · intro i env e w' c hstep hc hfailed
    cases step_cases hstep with
    | proceed hcall hexec =>
      have hlt : i < w.calls.length := (List.getElem?_eq_some_iff.mp hcall).1
      simp only [List.getElem?_set_self hlt, Option.some.injEq] at hc
      subst hc
      exact hexec.db_of_error hfailed

theorem replay_payloads_lifecycle :
    ∃ w, exec (step .default) (initial Seed.organizations Seed.users 1) lifecycleRun = some w ∧
      w.db.payloads.length = 5 ∧ DomainView.replay w.db.payloads = w.db.view := by
  have hrun : (exec (step .default) (initial Seed.organizations Seed.users 1)
      lifecycleRun).any fun w => w.db.payloads.length = 5 := by decide
  obtain ⟨w, hw, hlength⟩ := exists_of_any hrun
  exact ⟨w, hw, hlength,
    (replay_payloads .default Seed.organizations Seed.users 1 (by decide) hw).1⟩

end World

end SupportPlatform
