import SupportPlatform.Services.Comments
import SupportPlatform.Services.Accounts

/-!
# What the service transactions do

One lemma for each write operation, telling from its success what it wrote. Everything proved
about the services rests on these and not on the bodies.
-/

namespace SupportPlatform

open EventPublisherService

namespace TicketsService

/-- The references of different counts are different. -/
lemma reference_injective : Function.Injective reference := by
  intro m n h
  have := Numeral.padStart_injective 6 ((String.append_right_inj _).mp h)
  omega

lemma nextReference_eq_ok {env : Env} {db db' : Db} {r : String} :
    nextReference env db = .ok (r, db') ↔
      env.fault .count = none ∧ r = reference db.tickets.rows.length ∧ db' = db := by
  simp only [nextReference, Transaction.bind_eq_ok, countTickets_eq_ok, Transaction.pure_apply,
    Except.ok.injEq, Prod.mk.injEq]
  constructor
  · rintro ⟨n, db₁, ⟨hf, rfl, rfl⟩, rfl, rfl⟩
    exact ⟨hf, rfl, rfl⟩
  · rintro ⟨hf, rfl, rfl⟩
    exact ⟨_, _, ⟨hf, rfl, rfl⟩, rfl, rfl⟩

/-- The ticket `create` would insert into a database. -/
def nextTicket (env : Env) (actor : AuthenticatedUser) (dto : CreateTicketDto) (db : Db) : Ticket :=
  newTicket env actor dto (reference db.tickets.rows.length) (dto.priority.getD .medium)

lemma createdPayload_key (ticket : Ticket) :
    (Payload.ticketCreated (createdPayload ticket)).routingKey = .ticketCreated := rfl

/-- The outbox row `create` would insert. -/
def createdRow (env : Env) (ticket : Ticket) (correlationId : Option String) : EventOutbox :=
  newRow env .ticketCreated (.ticketCreated (createdPayload ticket)) correlationId
    (createdPayload_key ticket)

lemma create_eq_ok {actor : AuthenticatedUser} {dto : CreateTicketDto} {cid : Option String}
    {env : Env} {db db' : Db} {t : Ticket} :
    create actor dto cid env db = .ok (t, db') ↔
      (env.fault .count = none ∧ env.fault .write = none ∧
        env.fault (.enqueue .ticketCreated) = none ∧ env.fault .commit = none) ∧
      dto.priority ≠ .null ∧
      (∀ r ∈ db.tickets.rows, r.reference ≠ reference db.tickets.rows.length) ∧
      ((db.organizations.find? actor.organizationId).isSome ∧
        (db.users.find? actor.id).isSome) ∧
      ∃ tickets outbox, db.tickets.insert? (nextTicket env actor dto db) = some tickets ∧
        db.outbox.insert? (createdRow env (nextTicket env actor dto db) cid) = some outbox ∧
        t = nextTicket env actor dto db ∧ db' = { db with tickets, outbox } := by
  simp only [create, interactive_eq_ok, Transaction.bind_eq_ok, Transaction.ask_apply,
    nextReference_eq_ok, required_eq_ok, createTicket_eq_ok, enqueue_eq_ok,
    Transaction.pure_apply, Except.ok.injEq, Prod.mk.injEq]
  constructor
  · rintro ⟨⟨_, _, ⟨rfl, rfl⟩, _, _, ⟨hcount, rfl, rfl⟩, _, _, ⟨hnull, rfl, rfl⟩, _, _,
      ⟨hwrite, href, hlink, tickets, ht, rfl, rfl⟩, _, _, ⟨hq, outbox, ho, rfl⟩, rfl, rfl⟩, hc⟩
    exact ⟨⟨hcount, hwrite, hq, hc⟩, hnull, href, hlink, tickets, outbox, ht, ho, rfl, rfl⟩
  · rintro ⟨⟨hcount, hwrite, hq, hc⟩, hnull, href, hlink, tickets, outbox, ht, ho, rfl, rfl⟩
    exact ⟨⟨_, _, ⟨rfl, rfl⟩, _, _, ⟨hcount, rfl, rfl⟩, _, _, ⟨hnull, rfl, rfl⟩, _, _,
      ⟨hwrite, href, hlink, tickets, ht, rfl, rfl⟩, (), _, ⟨hq, outbox, ho, rfl⟩, rfl, rfl⟩, hc⟩

lemma updatedPayload_key (actor : AuthenticatedUser) (dto : UpdateTicketDto) (ticket : Ticket) :
    (Payload.ticketUpdated
      ⟨ticket.id, ticket.reference, ticket.organizationId, dto, actor.id⟩).routingKey =
        .ticketUpdated := rfl

/-- The outbox row for an update that left the ticket as `ticket`. -/
def updatedRow (env : Env) (actor : AuthenticatedUser) (dto : UpdateTicketDto) (ticket : Ticket)
    (correlationId : Option String) : EventOutbox :=
  newRow env .ticketUpdated
    (.ticketUpdated ⟨ticket.id, ticket.reference, ticket.organizationId, dto, actor.id⟩)
    correlationId (updatedPayload_key actor dto ticket)

/-- The outbox row for an update that closed the ticket. -/
def closedRow (env : Env) (actor : AuthenticatedUser) (ticket : Ticket)
    (correlationId : Option String) : EventOutbox :=
  newRow env .ticketClosed
    (.ticketClosed ⟨ticket.id, ticket.reference, ticket.organizationId, actor.id,
      ticket.closedAt.getD env.now⟩)
    correlationId rfl

/-- The rows an update enqueues. -/
def updateRows (env : Env) (actor : AuthenticatedUser) (dto : UpdateTicketDto) (ticket : Ticket)
    (correlationId : Option String) (willClose : Bool) : List EventOutbox :=
  updatedRow env actor dto ticket correlationId ::
    if willClose then [closedRow env actor ticket correlationId] else []

/-- The `closedAt` an update writes. -/
def closingTime (env : Env) (willClose : Bool) : Option Time :=
  if willClose then some env.now else none

lemma updateTransaction_ok {actor : AuthenticatedUser} {id : Uuid} {dto : UpdateTicketDto}
    {cid : Option String} {willClose : Bool} {env : Env} {db db' : Db} {a : Ticket}
    (h : updateTransaction actor id dto cid willClose env db = .ok (a, db')) :
    dto.hasNull = false ∧ ∃ t outbox, db.tickets.find? id = some t ∧
      a = t.apply dto (closingTime env willClose) env.now ∧
      outbox.rows = db.outbox.rows ++ updateRows env actor dto a cid willClose ∧
      outbox.retired = db.outbox.retired ∧ db' = { db with
        tickets := db.tickets.modify id (·.apply dto (closingTime env willClose) env.now)
          fun _ => rfl
        outbox } := by
  simp only [updateTransaction, interactive_eq_ok, Transaction.bind_eq_ok, Transaction.ask_apply,
    updateTicket_eq_ok, enqueue_eq_ok, Except.ok.injEq, Prod.mk.injEq] at h
  obtain ⟨⟨_, _, ⟨rfl, rfl⟩, _, _, ⟨hnull, -, t, ht, rfl, rfl⟩, _, _, ⟨-, outbox, ho, rfl⟩, h⟩,
    -⟩ := h
  refine ⟨hnull, t, ?_⟩
  obtain ⟨-, ho, hr⟩ := Table.insert?_eq_some.mp ho
  cases willClose with
  | false =>
    simp only [Bool.false_eq_true, if_false, Transaction.pure_apply, Except.ok.injEq,
      Prod.mk.injEq] at h
    obtain ⟨rfl, rfl⟩ := h
    exact ⟨outbox, ht, rfl, ho, hr, rfl⟩
  | true =>
    simp only [if_true, Transaction.bind_eq_ok, enqueue_eq_ok, Transaction.pure_apply,
      Except.ok.injEq, Prod.mk.injEq] at h
    obtain ⟨_, _, ⟨-, outbox', ho', rfl⟩, rfl, rfl⟩ := h
    obtain ⟨-, ho', hr'⟩ := Table.insert?_eq_some.mp ho'
    refine ⟨outbox', ht, rfl, ?_, hr'.trans hr, rfl⟩
    rw [ho', ho, List.append_assoc]
    rfl

/-- The transaction of an update goes through: its body has no `null` for a required column, no
statement fails, and the outbox rows get fresh ids. -/
def UpdateGoesThrough (env : Env) (db : Db) (dto : UpdateTicketDto) (willClose : Bool) : Prop :=
  dto.hasNull = false ∧ env.fault .write = none ∧ env.fault .commit = none ∧
    env.fault (.enqueue .ticketUpdated) = none ∧
    env.uuid (.enqueue .ticketUpdated) 0 ∉ db.outbox.keys ∧
    (willClose → env.fault (.enqueue .ticketClosed) = none ∧
      env.uuid (.enqueue .ticketClosed) 0 ∉ db.outbox.keys ∧
      env.uuid (.enqueue .ticketClosed) 0 ≠ env.uuid (.enqueue .ticketUpdated) 0)

/-- The transaction of an update commits exactly when the ticket is there and it goes through. -/
lemma updateTransaction_isOk (actor : AuthenticatedUser) (id : Uuid) (dto : UpdateTicketDto)
    (cid : Option String) (willClose : Bool) (env : Env) (db : Db) :
    (∃ a db', updateTransaction actor id dto cid willClose env db = .ok (a, db')) ↔
      (db.tickets.find? id).isSome ∧ UpdateGoesThrough env db dto willClose := by
  simp only [updateTransaction, interactive_eq_ok, Transaction.bind_eq_ok, Transaction.ask_apply,
    updateTicket_eq_ok, enqueue_eq_ok, Except.ok.injEq, Prod.mk.injEq]
  constructor
  · rintro ⟨_, _, ⟨_, _, ⟨rfl, rfl⟩, _, _, ⟨hnull, hwrite, t, ht, rfl, rfl⟩, _, _,
      ⟨hupdated, outbox, ho, rfl⟩, h⟩, hcommit⟩
    refine ⟨by simp [ht], hnull, hwrite, hcommit, hupdated, (Table.insert?_eq_some.mp ho).1,
      fun hclose => ?_⟩
    simp only [hclose, if_true, Transaction.bind_eq_ok, enqueue_eq_ok] at h
    obtain ⟨_, _, ⟨hclosed, outbox', ho', -⟩, -⟩ := h
    have hkey := (Table.insert?_eq_some.mp ho').1
    rw [Table.mem_keys_insert? ho, not_or] at hkey
    exact ⟨hclosed, hkey⟩
  · rintro ⟨hsome, hnull, hwrite, hcommit, hupdated, hkey, hclose⟩
    obtain ⟨t, ht⟩ := Option.isSome_iff_exists.mp hsome
    obtain ⟨outbox, ho⟩ := Table.insert?_of_free (t := db.outbox)
      (r := updatedRow env actor dto (t.apply dto (closingTime env willClose) env.now) cid) hkey
    cases willClose with
    | false =>
      exact ⟨_, _, ⟨_, _, ⟨rfl, rfl⟩, _, _, ⟨hnull, hwrite, t, ht, rfl, rfl⟩, (), _,
        ⟨hupdated, outbox, ho, rfl⟩, rfl⟩, hcommit⟩
    | true =>
      obtain ⟨hclosed, hfree, hne⟩ := hclose rfl
      obtain ⟨outbox', ho'⟩ := Table.insert?_of_free (t := outbox)
        (r := closedRow env actor (t.apply dto (closingTime env true) env.now) cid)
        fun hmem => ((Table.mem_keys_insert? ho).mp hmem).elim hfree hne
      refine ⟨t.apply dto (closingTime env true) env.now,
        { db with
          tickets := db.tickets.modify id (·.apply dto (closingTime env true) env.now) fun _ => rfl
          outbox := outbox' },
        ⟨_, _, ⟨rfl, rfl⟩, _, _, ⟨hnull, hwrite, t, ht, rfl, rfl⟩, (), _,
          ⟨hupdated, outbox, ho, rfl⟩, ?_⟩, hcommit⟩
      rw [if_pos rfl]
      exact Transaction.bind_eq_ok.mpr ⟨(), _, enqueue_eq_ok.mpr ⟨hclosed, outbox', ho', rfl⟩, rfl⟩

lemma assignedPayload_key (actor : AuthenticatedUser) (dto : AssignTicketDto) (ticket : Ticket) :
    (Payload.ticketAssigned
      ⟨ticket.id, ticket.reference, ticket.organizationId, dto.assigneeId, actor.id⟩).routingKey =
        .ticketAssigned := rfl

/-- The outbox row for an assignment that left the ticket as `ticket`. -/
def assignedRow (env : Env) (actor : AuthenticatedUser) (dto : AssignTicketDto) (ticket : Ticket)
    (correlationId : Option String) : EventOutbox :=
  newRow env .ticketAssigned
    (.ticketAssigned ⟨ticket.id, ticket.reference, ticket.organizationId, dto.assigneeId,
      actor.id⟩)
    correlationId (assignedPayload_key actor dto ticket)

lemma assignTransaction_ok {actor : AuthenticatedUser} {id : Uuid} {dto : AssignTicketDto}
    {cid : Option String} {env : Env} {db db' : Db} {a : Ticket}
    (h : assignTransaction actor id dto cid env db = .ok (a, db')) :
    (db.users.find? dto.assigneeId).isSome ∧ ∃ t outbox, db.tickets.find? id = some t ∧
      a = t.assign dto.assigneeId env.now ∧
      outbox.rows = db.outbox.rows ++ [assignedRow env actor dto a cid] ∧
      outbox.retired = db.outbox.retired ∧ db' = { db with
        tickets := db.tickets.modify id (·.assign dto.assigneeId env.now) fun _ => rfl
        outbox } := by
  simp only [assignTransaction, interactive_eq_ok, Transaction.bind_eq_ok, Transaction.ask_apply,
    assignTicket_eq_ok, enqueue_eq_ok, Transaction.pure_apply, Except.ok.injEq,
    Prod.mk.injEq] at h
  obtain ⟨⟨_, _, ⟨rfl, rfl⟩, _, _, ⟨-, hu, t, ht, rfl, rfl⟩, _, _, ⟨-, outbox, ho, rfl⟩, rfl, rfl⟩,
    -⟩ := h
  obtain ⟨-, hrows, hretired⟩ := Table.insert?_eq_some.mp ho
  exact ⟨hu, t, outbox, ht, rfl, hrows, hretired, rfl⟩

/-- The transaction of an assignment goes through: the assignee is there, no statement fails, and
the outbox row gets a fresh id. -/
def AssignGoesThrough (env : Env) (db : Db) (dto : AssignTicketDto) : Prop :=
  (db.users.find? dto.assigneeId).isSome ∧ env.fault .write = none ∧ env.fault .commit = none ∧
    env.fault (.enqueue .ticketAssigned) = none ∧
    env.uuid (.enqueue .ticketAssigned) 0 ∉ db.outbox.keys

/-- The transaction of an assignment commits exactly when the ticket is there and it goes
through. -/
lemma assignTransaction_isOk (actor : AuthenticatedUser) (id : Uuid) (dto : AssignTicketDto)
    (cid : Option String) (env : Env) (db : Db) :
    (∃ a db', assignTransaction actor id dto cid env db = .ok (a, db')) ↔
      (db.tickets.find? id).isSome ∧ AssignGoesThrough env db dto := by
  simp only [assignTransaction, interactive_eq_ok, Transaction.bind_eq_ok, Transaction.ask_apply,
    assignTicket_eq_ok, enqueue_eq_ok, Except.ok.injEq, Prod.mk.injEq]
  constructor
  · rintro ⟨_, _, ⟨_, _, ⟨rfl, rfl⟩, _, _, ⟨hwrite, hu, t, ht, rfl, rfl⟩, _, _,
      ⟨hassigned, outbox, ho, rfl⟩, -⟩, hcommit⟩
    exact ⟨by simp [ht], hu, hwrite, hcommit, hassigned, (Table.insert?_eq_some.mp ho).1⟩
  · rintro ⟨hsome, hu, hwrite, hcommit, hassigned, hkey⟩
    obtain ⟨t, ht⟩ := Option.isSome_iff_exists.mp hsome
    obtain ⟨outbox, ho⟩ := Table.insert?_of_free (t := db.outbox)
      (r := assignedRow env actor dto (t.assign dto.assigneeId env.now) cid) hkey
    exact ⟨_, _, ⟨_, _, ⟨rfl, rfl⟩, _, _, ⟨hwrite, hu, t, ht, rfl, rfl⟩, (), _,
      ⟨hassigned, outbox, ho, rfl⟩, rfl⟩, hcommit⟩

lemma findOne_ok {actor : AuthenticatedUser} {id : Uuid} {db : Db} {t : Ticket}
    (h : findOne actor id db = .ok t) :
    db.tickets.find? id = some t ∧ t.organizationId = actor.organizationId ∧
      (actor.role = .customer → t.createdById = actor.id) := by
  unfold findOne at h
  split at h
  · cases h
  · next ticket hfind =>
    have hp := List.find?_some hfind
    simp only [decide_eq_true_eq] at hp
    split_ifs at h with hcustomer
    cases h
    refine ⟨Table.find?_eq_some.mpr ⟨List.mem_of_find?_eq_some hfind, hp.1⟩, hp.2, fun hrole => ?_⟩
    by_contra hne
    exact hcustomer ⟨hrole, hne⟩

lemma checkUpdate_ok {actor : AuthenticatedUser} {id : Uuid} {dto : UpdateTicketDto} {db : Db}
    {t : Ticket} (h : checkUpdate actor id dto db = .ok t) :
    findOne actor id db = .ok t ∧
      (actor.role = .customer → dto.status.truthy = false ∧ dto.priority.truthy = false) := by
  unfold checkUpdate at h
  split at h
  · cases h
  · next existing hfind =>
    split_ifs at h with hcustomer
    cases h
    refine ⟨hfind, fun hrole => ?_⟩
    simpa [hrole] using hcustomer

lemma findAssignee_ok {actor : AuthenticatedUser} {dto : AssignTicketDto} {db : Db} {u : User}
    (h : findAssignee actor dto db = .ok u) :
    db.users.find? dto.assigneeId = some u ∧ u.organizationId = actor.organizationId ∧
      u.isActive ∧ (u.role = .agent ∨ u.role = .admin) := by
  unfold findAssignee at h
  split at h
  · cases h
  · next user hfind =>
    have hp := List.find?_some hfind
    simp only [decide_eq_true_eq] at hp
    cases h
    exact ⟨Table.find?_eq_some.mpr ⟨List.mem_of_find?_eq_some hfind, hp.1⟩, hp.2⟩

end TicketsService

namespace CommentsService

/-- The outbox row for a comment. -/
def createdRow (env : Env) (actor : AuthenticatedUser) (dto : CreateCommentDto) (comment : Comment)
    (correlationId : Option String) : EventOutbox :=
  newRow env .commentCreated
    (.commentCreated ⟨comment.id, comment.ticketId, actor.organizationId, actor.id,
      isInternal actor dto⟩)
    correlationId rfl

lemma createTransaction_ok {actor : AuthenticatedUser} {ticketId : Uuid} {dto : CreateCommentDto}
    {cid : Option String} {env : Env} {db db' : Db} {a : Comment}
    (h : createTransaction actor ticketId dto cid env db = .ok (a, db')) :
    ((db.tickets.find? ticketId).isSome ∧ (db.users.find? actor.id).isSome) ∧ ∃ comments outbox,
      a = newComment env actor ticketId dto ∧ db.comments.insert? a = some comments ∧
      outbox.rows = db.outbox.rows ++ [createdRow env actor dto a cid] ∧
      outbox.retired = db.outbox.retired ∧ db' = { db with comments, outbox } := by
  simp only [createTransaction, interactive_eq_ok, Transaction.bind_eq_ok, Transaction.ask_apply,
    createComment_eq_ok, enqueue_eq_ok, Transaction.pure_apply, Except.ok.injEq,
    Prod.mk.injEq] at h
  obtain ⟨⟨_, _, ⟨rfl, rfl⟩, _, _, ⟨-, hlink, comments, hc, rfl, rfl⟩, _, _, ⟨-, outbox, ho, rfl⟩,
    rfl, rfl⟩, -⟩ := h
  obtain ⟨-, hrows, hretired⟩ := Table.insert?_eq_some.mp ho
  exact ⟨hlink, comments, outbox, rfl, hc, hrows, hretired, rfl⟩

end CommentsService

/-! ### Users, registration, login, organizations and notifications -/

namespace UsersService

/-- The row `insert` creates. -/
def newUser (env : Env) (dto : CreateUserDto) : User where
  id := env.uuid .query 0
  email := dto.email
  passwordHash := env.passwordHash
  firstName := dto.firstName
  lastName := dto.lastName
  role := dto.role
  isActive := true
  lastLoginAt := none
  organizationId := dto.organizationId
  createdAt := env.now

lemma insert_eq_ok {dto : CreateUserDto} {env : Env} {db db' : Db} {a : User} :
    insert dto env db = .ok (a, db') ↔
      env.fault .query = none ∧ (∀ r ∈ db.users.rows, r.email ≠ dto.email) ∧
        (db.organizations.find? dto.organizationId).isSome ∧
        ∃ users, db.users.insert? (newUser env dto) = some users ∧ a = newUser env dto ∧
          db' = { db with users } := by
  rw [insert, Transaction.bind_of_ok (Transaction.ask_apply env db), createUser_eq_ok]
  rfl

lemma findOne_ok {organizationId id : Uuid} {db : Db} {u : User}
    (h : findOne organizationId id db = .ok u) :
    db.users.find? id = some u ∧ u.organizationId = organizationId := by
  unfold findOne at h
  split at h
  · cases h
  · next user hfind =>
    have hp := List.find?_some hfind
    simp only [decide_eq_true_eq] at hp
    cases h
    exact ⟨Table.find?_eq_some.mpr ⟨List.mem_of_find?_eq_some hfind, hp.1⟩, hp.2⟩

end UsersService

namespace NotificationsService

lemma findOwn_ok {userId id : Uuid} {db : Db} {n : Notification}
    (h : findOwn userId id db = .ok n) :
    db.notifications.find? id = some n ∧ n.userId = userId := by
  unfold findOwn at h
  split at h
  · cases h
  · next notification hfind =>
    have hp := List.find?_some hfind
    simp only [decide_eq_true_eq] at hp
    cases h
    exact ⟨Table.find?_eq_some.mpr ⟨List.mem_of_find?_eq_some hfind, hp.1⟩, hp.2⟩

lemma markRead_ok {id : Uuid} {env : Env} {db db' : Db} {a : Notification}
    (h : markRead id env db = .ok (a, db')) :
    db' = { db with
      notifications := db.notifications.modify id (read env.now) fun _ => rfl } := by
  rw [markRead, Transaction.bind_of_ok (Transaction.ask_apply env db)] at h
  obtain ⟨-, -, -, n, -, -, hdb⟩ :=
    (attempt_updateRow_eq_ok Db.notifications fun db notifications =>
      { db with notifications }).mp h
  exact hdb

lemma markAllRead_ok {userId : Uuid} {env : Env} {db db' : Db} {u : Unit}
    (h : markAllRead userId env db = .ok (u, db')) :
    db' = { db with
      notifications := db.notifications.modifyWhere (fun n => n.userId = userId ∧ !n.isRead)
        (read env.now) fun _ => rfl } := by
  rw [markAllRead, Transaction.bind_of_ok (Transaction.ask_apply env db)] at h
  obtain ⟨-, h⟩ := attempt_eq_ok.mp h
  cases h
  rfl

end NotificationsService

end SupportPlatform
