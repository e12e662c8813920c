import SupportPlatform.Api.Requests
import SupportPlatform.Services.Specs

/-!
# Service calls in progress

A request in progress is a `Call`, a program counter between two database steps that holds what
the rest of the call closes over. `Call.exec` runs the next step: a query outside any transaction,
or an interactive transaction as a whole.
-/

namespace SupportPlatform

/-- Where a service call stands. -/
inductive Call where
  | register (dto : RegisterDto)
  | registerEmail (dto : RegisterDto)
  | registerInsert (dto : RegisterDto)
  | login (dto : LoginDto)
  | loginStamp (id : Uuid)
  | organizationsCreate (dto : CreateOrganizationDto)
  | organizationsUpdate (id : Uuid) (dto : UpdateOrganizationDto)
  | organizationsUpdateWrite (id : Uuid) (dto : UpdateOrganizationDto)
  | organizationsRemove (id : Uuid)
  | organizationsRemoveWrite (id : Uuid)
  | usersCreate (dto : CreateUserDto)
  | usersInsert (dto : CreateUserDto)
  | usersUpdate (organizationId id : Uuid) (dto : UpdateUserDto)
  | usersUpdateWrite (organizationId id : Uuid) (dto : UpdateUserDto)
  | usersDeactivate (organizationId id : Uuid)
  | usersDeactivateWrite (organizationId id : Uuid)
  | ticketsCreate (actor : AuthenticatedUser) (dto : CreateTicketDto)
      (correlationId : Option String)
  | ticketsUpdate (actor : AuthenticatedUser) (id : Uuid) (dto : UpdateTicketDto)
      (correlationId : Option String)
  | ticketsUpdateTransaction (actor : AuthenticatedUser) (id : Uuid) (dto : UpdateTicketDto)
      (correlationId : Option String) (existing : Ticket)
  | ticketsAssign (actor : AuthenticatedUser) (id : Uuid) (dto : AssignTicketDto)
      (correlationId : Option String)
  | ticketsFindAssignee (actor : AuthenticatedUser) (id : Uuid) (dto : AssignTicketDto)
      (correlationId : Option String)
  | ticketsAssignTransaction (actor : AuthenticatedUser) (id : Uuid) (dto : AssignTicketDto)
      (correlationId : Option String)
  | commentsCreate (actor : AuthenticatedUser) (ticketId : Uuid) (dto : CreateCommentDto)
      (correlationId : Option String)
  | commentsCreateTransaction (actor : AuthenticatedUser) (ticketId : Uuid)
      (dto : CreateCommentDto) (correlationId : Option String)
  | notificationsMarkRead (userId id : Uuid)
  | notificationsMarkReadWrite (userId id : Uuid)
  | notificationsMarkAllRead (userId : Uuid)
  | done (outcome : Except Failure Unit)
deriving DecidableEq

namespace Call

/-- The call a handler behind the guards starts. -/
def ofRequest (user : AuthenticatedUser) (correlationId : Option String) : Request → Call
  | .register dto => .register dto
  | .login dto => .login dto
  | .createOrganization dto => .organizationsCreate dto
  | .updateOrganization id dto => .organizationsUpdate id dto
  | .removeOrganization id => .organizationsRemove id
  | .createUser dto => .usersCreate dto
  | .updateUser id dto => .usersUpdate user.organizationId id dto
  | .deactivateUser id => .usersDeactivate user.organizationId id
  | .createTicket dto => .ticketsCreate user dto correlationId
  | .updateTicket id dto => .ticketsUpdate user id dto correlationId
  | .assignTicket id dto => .ticketsAssign user id dto correlationId
  | .createComment ticketId dto => .commentsCreate user ticketId dto correlationId
  | .markRead id => .notificationsMarkRead user.id id
  | .markAllRead => .notificationsMarkAllRead user.id

/-- The call behind the guards: `JwtAuthGuard` takes the subject of a verified access token, and
`RolesGuard` the user found for it. -/
def guarded (db : Db) (sub : Option Uuid) (correlationId : Option String) (request : Request) :
    Option AuthenticatedUser × Call :=
  match sub.map (JwtStrategy.validate db) with
  | some (.ok user) =>
    if request.admits user then (some user, ofRequest user correlationId request)
    else
      (some user, .done (.error (.http
        (.forbidden "You do not have permission to perform this action"))))
  | _ => (none, .done (.error (.http (.unauthorized "Authentication required"))))

/-- The call a request starts; `register` and `login` are public. -/
def receive (db : Db) (sub : Option Uuid) (correlationId : Option String) :
    Request → Option AuthenticatedUser × Call
  | .register dto => (none, .register dto)
  | .login dto => (none, .login dto)
  | request => guarded db sub correlationId request

/-- A query and what the code makes of its result. -/
def query {α : Type} (env : Env) (db : Db) (check : Db → Except HttpException α)
    (next : α → Call) : Db × Call :=
  match env.fault .query with
  | some e => (db, .done (.error (.prisma e)))
  | none =>
    match check db with
    | .error e => (db, .done (.error (.http e)))
    | .ok a => (db, next a)

/-- The last write of a call. -/
def write {α : Type} (env : Env) (db : Db) (body : DbTx α) : Db × Call :=
  match body.commit env db with
  | (.error e, db') => (db', .done (.error (.prisma e)))
  | (.ok _, db') => (db', .done (.ok ()))

/-- The next step of a call. -/
def exec (env : Env) (db : Db) : Call → Db × Call
  | .register dto => query env db (AuthService.checkOrganization dto) fun _ => .registerEmail dto
  | .registerEmail dto =>
    query env db (UsersService.checkEmail dto.email) fun _ => .registerInsert dto
  | .registerInsert dto => write env db (AuthService.insert dto)
  | .login dto =>
    query env db (AuthService.authenticate env.compare dto) fun user => .loginStamp user.id
  | .loginStamp id => write env db (AuthService.stampLogin id)
  | .organizationsCreate dto => write env db (OrganizationsService.create dto)
  | .organizationsUpdate id dto =>
    query env db (OrganizationsService.findOne id) fun _ => .organizationsUpdateWrite id dto
  | .organizationsUpdateWrite id dto => write env db (OrganizationsService.update id dto)
  | .organizationsRemove id =>
    query env db (OrganizationsService.findOne id) fun _ => .organizationsRemoveWrite id
  | .organizationsRemoveWrite id => write env db (OrganizationsService.remove id)
  | .usersCreate dto => query env db (UsersService.checkEmail dto.email) fun _ => .usersInsert dto
  | .usersInsert dto => write env db (UsersService.insert dto)
  | .usersUpdate organizationId id dto =>
    query env db (UsersService.findOne organizationId id) fun _ =>
      .usersUpdateWrite organizationId id dto
  | .usersUpdateWrite _ id dto => write env db (UsersService.update id dto)
  | .usersDeactivate organizationId id =>
    query env db (UsersService.findOne organizationId id) fun _ =>
      .usersDeactivateWrite organizationId id
  | .usersDeactivateWrite _ id => write env db (UsersService.deactivate id)
  | .ticketsCreate actor dto cid => write env db (TicketsService.create actor dto cid)
  | .ticketsUpdate actor id dto cid =>
    query env db (TicketsService.checkUpdate actor id dto) fun existing =>
      .ticketsUpdateTransaction actor id dto cid existing
  | .ticketsUpdateTransaction actor id dto cid existing =>
    write env db
      (TicketsService.updateTransaction actor id dto cid (TicketsService.willClose dto existing))
  | .ticketsAssign actor id dto cid =>
    query env db (TicketsService.findOne actor id) fun _ => .ticketsFindAssignee actor id dto cid
  | .ticketsFindAssignee actor id dto cid =>
    query env db (TicketsService.findAssignee actor dto) fun _ =>
      .ticketsAssignTransaction actor id dto cid
  | .ticketsAssignTransaction actor id dto cid =>
    write env db (TicketsService.assignTransaction actor id dto cid)
  | .commentsCreate actor ticketId dto cid =>
    query env db (TicketsService.findOne actor ticketId) fun _ =>
      .commentsCreateTransaction actor ticketId dto cid
  | .commentsCreateTransaction actor ticketId dto cid =>
    write env db (CommentsService.createTransaction actor ticketId dto cid)
  | .notificationsMarkRead userId id =>
    query env db (NotificationsService.findOwn userId id) fun _ =>
      .notificationsMarkReadWrite userId id
  | .notificationsMarkReadWrite _ id => write env db (NotificationsService.markRead id)
  | .notificationsMarkAllRead userId => write env db (NotificationsService.markAllRead userId)
  | .done outcome => (db, .done outcome)

/-- A call of `OrganizationsService.remove`, the only one that deletes rows. -/
def isRemoval : Call → Bool
  | .organizationsRemove _ | .organizationsRemoveWrite _ => true
  | _ => false

/-- A transaction that can write the status of a ticket that is there. -/
def movesStatus : Call → Bool
  | .ticketsUpdateTransaction .. | .ticketsAssignTransaction .. => true
  | _ => false

/-! ### What a step can do -/

section Helpers

variable {α : Type} {env : Env} {db db' : Db} {call : Call}

lemma query_cases {check : Db → Except HttpException α} {next : α → Call}
    (h : query env db check next = (db', call)) :
    db' = db ∧ ((∃ e, call = .done (.error e)) ∨ ∃ a, check db = .ok a ∧ call = next a) := by
  unfold query at h
  split at h
  · cases h
    exact ⟨rfl, .inl ⟨_, rfl⟩⟩
  · split at h
    · cases h
      exact ⟨rfl, .inl ⟨_, rfl⟩⟩
    · next a ha =>
      cases h
      exact ⟨rfl, .inr ⟨a, ha, rfl⟩⟩

/-- A query passes when the database answers and the check does. -/
lemma query_eq_iff {check : Db → Except HttpException α} {next : α → Call}
    (hfault : env.fault .query = none) (hcall : ∀ e, call ≠ .done (.error e)) :
    query env db check next = (db, call) ↔ ∃ a, check db = .ok a ∧ next a = call := by
  rw [query, hfault]
  cases check db with
  | error e => simp [(hcall _).symm]
  | ok a => simp

lemma write_cases {body : DbTx α} (h : write env db body = (db', call)) :
    (db' = db ∧ ∃ e, call = .done (.error e)) ∨
      call = .done (.ok ()) ∧ ∃ a, body env db = .ok (a, db') := by
  unfold write at h
  split at h
  · next e _ he =>
    cases h
    exact .inl ⟨Transaction.commit_error he, _, rfl⟩
  · next a _ ha =>
    cases h
    exact .inr ⟨rfl, a, Transaction.commit_eq_ok.mp ha⟩

end Helpers

/-- The checks a call can pass, and where it goes on. -/
inductive Checks (env : Env) (db : Db) : Call → Call → Prop
  | register {dto} : Checks env db (.register dto) (.registerEmail dto)
  | registerEmail {dto} : Checks env db (.registerEmail dto) (.registerInsert dto)
  | login {dto id} : Checks env db (.login dto) (.loginStamp id)
  | organizationsUpdate {id dto} :
    Checks env db (.organizationsUpdate id dto) (.organizationsUpdateWrite id dto)
  | organizationsRemove {id} :
    Checks env db (.organizationsRemove id) (.organizationsRemoveWrite id)
  | usersCreate {dto} : Checks env db (.usersCreate dto) (.usersInsert dto)
  | usersUpdate {organizationId id dto user}
    (h : UsersService.findOne organizationId id db = .ok user) :
    Checks env db (.usersUpdate organizationId id dto) (.usersUpdateWrite organizationId id dto)
  | usersDeactivate {organizationId id user}
    (h : UsersService.findOne organizationId id db = .ok user) :
    Checks env db (.usersDeactivate organizationId id) (.usersDeactivateWrite organizationId id)
  | ticketsUpdate {actor id dto cid existing}
    (h : TicketsService.checkUpdate actor id dto db = .ok existing) :
    Checks env db (.ticketsUpdate actor id dto cid)
      (.ticketsUpdateTransaction actor id dto cid existing)
  | ticketsAssign {actor id dto cid ticket} (h : TicketsService.findOne actor id db = .ok ticket) :
    Checks env db (.ticketsAssign actor id dto cid) (.ticketsFindAssignee actor id dto cid)
  | ticketsFindAssignee {actor id dto cid assignee}
    (h : TicketsService.findAssignee actor dto db = .ok assignee) :
    Checks env db (.ticketsFindAssignee actor id dto cid)
      (.ticketsAssignTransaction actor id dto cid)
  | commentsCreate {actor ticketId dto cid ticket}
    (h : TicketsService.findOne actor ticketId db = .ok ticket) :
    Checks env db (.commentsCreate actor ticketId dto cid)
      (.commentsCreateTransaction actor ticketId dto cid)
  | notificationsMarkRead {userId id notification}
    (h : NotificationsService.findOwn userId id db = .ok notification) :
    Checks env db (.notificationsMarkRead userId id) (.notificationsMarkReadWrite userId id)

/-- The writes a call can end with, and the database they leave. -/
inductive Writes (env : Env) (db : Db) : Call → Db → Prop
  | registerInsert {dto users}
    (h : db.users.insert? (UsersService.newUser env (AuthService.customer dto)) = some users)
    (hlink : (db.organizations.find? dto.organizationId).isSome) :
    Writes env db (.registerInsert dto) { db with users }
  | loginStamp {id} :
    Writes env db (.loginStamp id)
      { db with
        users := db.users.modify id (fun u => { u with lastLoginAt := some env.now })
          fun _ => rfl }
  | organizationsCreate {dto o organizations}
      (h : db.organizations.insert? o = some organizations) :
    Writes env db (.organizationsCreate dto) { db with organizations }
  | organizationsUpdate {id dto} :
    Writes env db (.organizationsUpdateWrite id dto)
      { db with organizations := db.organizations.modify id (·.apply dto) fun _ => rfl }
  | organizationsRemove {id} (h : db.restrictsDrop id = false) (hfault : env.fault .query = none) :
    Writes env db (.organizationsRemoveWrite id) (db.dropOrganization id)
  | usersInsert {dto users} (h : db.users.insert? (UsersService.newUser env dto) = some users)
    (hlink : (db.organizations.find? dto.organizationId).isSome) :
    Writes env db (.usersInsert dto) { db with users }
  | usersUpdate {organizationId id dto} :
    Writes env db (.usersUpdateWrite organizationId id dto)
      { db with users := db.users.modify id (·.apply dto) fun _ => rfl }
  | usersDeactivate {organizationId id} :
    Writes env db (.usersDeactivateWrite organizationId id)
      { db with
        users := db.users.modify id (fun u => { u with isActive := false }) fun _ => rfl }
  | ticketsCreate {actor dto cid tickets outbox}
    (ht : db.tickets.insert? (TicketsService.nextTicket env actor dto db) = some tickets)
    (ho : outbox.rows = db.outbox.rows ++
      [TicketsService.createdRow env (TicketsService.nextTicket env actor dto db) cid])
    (hlink : (db.users.find? actor.id).isSome) (hr : outbox.retired = db.outbox.retired) :
    Writes env db (.ticketsCreate actor dto cid) { db with tickets, outbox }
  | ticketsUpdate {actor id dto cid existing t outbox}
    (ht : db.tickets.find? id = some t)
    (ho : outbox.rows = db.outbox.rows ++
      TicketsService.updateRows env actor dto
        (t.apply dto (TicketsService.closingTime env (TicketsService.willClose dto existing))
          env.now) cid (TicketsService.willClose dto existing))
    (hr : outbox.retired = db.outbox.retired) :
    Writes env db (.ticketsUpdateTransaction actor id dto cid existing)
      { db with
        tickets := db.tickets.modify id
          (·.apply dto (TicketsService.closingTime env (TicketsService.willClose dto existing))
            env.now) fun _ => rfl
        outbox }
  | ticketsAssign {actor id dto cid t outbox} (ht : db.tickets.find? id = some t)
    (ho : outbox.rows = db.outbox.rows ++
      [TicketsService.assignedRow env actor dto (t.assign dto.assigneeId env.now) cid])
    (hlink : (db.users.find? dto.assigneeId).isSome) (hr : outbox.retired = db.outbox.retired) :
    Writes env db (.ticketsAssignTransaction actor id dto cid)
      { db with
        tickets := db.tickets.modify id (·.assign dto.assigneeId env.now) fun _ => rfl
        outbox }
  | commentsCreate {actor ticketId dto cid comments outbox}
    (hc : db.comments.insert? (CommentsService.newComment env actor ticketId dto) = some comments)
    (ho : outbox.rows = db.outbox.rows ++
      [CommentsService.createdRow env actor dto
        (CommentsService.newComment env actor ticketId dto) cid])
    (hlink : (db.tickets.find? ticketId).isSome ∧ (db.users.find? actor.id).isSome)
    (hr : outbox.retired = db.outbox.retired) :
    Writes env db (.commentsCreateTransaction actor ticketId dto cid) { db with comments, outbox }
  | notificationsMarkRead {userId id} :
    Writes env db (.notificationsMarkReadWrite userId id)
      { db with
        notifications := db.notifications.modify id (NotificationsService.read env.now)
          fun _ => rfl }
  | notificationsMarkAllRead {userId} :
    Writes env db (.notificationsMarkAllRead userId)
      { db with
        notifications := db.notifications.modifyWhere (fun n => n.userId = userId ∧ !n.isRead)
          (NotificationsService.read env.now) fun _ => rfl }

/-- What one step of a call does: fail, pass a check, or write and return. -/
inductive Executes (env : Env) (db : Db) : Call → Db → Call → Prop
  | failed {call e} : Executes env db call db (.done (.error e))
  | finished {outcome} : Executes env db (.done outcome) db (.done outcome)
  | checked {call next} (h : Checks env db call next) : Executes env db call db next
  | wrote {call db'} (h : Writes env db call db') : Executes env db call db' (.done (.ok ()))

section Helpers

variable {α : Type} {env : Env} {db db' : Db} {call call' : Call}

lemma executes_of_query {check : Db → Except HttpException α} {next : α → Call}
    (h : query env db check next = (db', call'))
    (hnext : ∀ a, check db = .ok a → Checks env db call (next a)) :
    Executes env db call db' call' := by
  obtain ⟨rfl, ⟨e, rfl⟩ | ⟨a, ha, rfl⟩⟩ := query_cases h
  · exact .failed
  · exact .checked (hnext a ha)

lemma executes_of_write {body : DbTx α} (h : write env db body = (db', call'))
    (hbody : ∀ a, body env db = .ok (a, db') → Writes env db call db') :
    Executes env db call db' call' := by
  obtain ⟨rfl, e, rfl⟩ | ⟨rfl, a, ha⟩ := write_cases h
  · exact .failed
  · exact .wrote (hbody a ha)

end Helpers

/-- All that a step can do. -/
theorem exec_cases {env : Env} {db db' : Db} {call call' : Call}
    (h : exec env db call = (db', call')) : Executes env db call db' call' := by
  cases call with
  | register dto => exact executes_of_query h fun _ _ => .register
  | registerEmail dto => exact executes_of_query h fun _ _ => .registerEmail
  | registerInsert dto =>
    refine executes_of_write h fun _ ha => ?_
    obtain ⟨-, -, hlink, users, husers, -, rfl⟩ := UsersService.insert_eq_ok.mp ha
    exact .registerInsert husers hlink
  | login dto => exact executes_of_query h fun _ _ => .login
  | loginStamp id =>
    refine executes_of_write h fun _ ha => ?_
    rw [AuthService.stampLogin, Transaction.bind_of_ok (Transaction.ask_apply env db)] at ha
    obtain ⟨-, -, rfl⟩ := setUser_eq_ok ha
    exact .loginStamp
  | organizationsCreate dto =>
    refine executes_of_write h fun _ ha => ?_
    rw [OrganizationsService.create, Transaction.bind_of_ok (Transaction.ask_apply env db)] at ha
    obtain ⟨-, -, organizations, horganizations, -, rfl⟩ := createOrganization_eq_ok.mp ha
    exact .organizationsCreate horganizations
  | organizationsUpdate id dto => exact executes_of_query h fun _ _ => .organizationsUpdate
  | organizationsUpdateWrite id dto =>
    refine executes_of_write h fun _ ha => ?_
    obtain ⟨-, -, rfl⟩ := updateOrganization_eq_ok ha
    exact .organizationsUpdate
  | organizationsRemove id => exact executes_of_query h fun _ _ => .organizationsRemove
  | organizationsRemoveWrite id =>
    refine executes_of_write h fun _ ha => ?_
    obtain ⟨hfault, -, hr, rfl⟩ := deleteOrganization_eq_ok.mp ha
    exact .organizationsRemove hr hfault
  | usersCreate dto => exact executes_of_query h fun _ _ => .usersCreate
  | usersInsert dto =>
    refine executes_of_write h fun _ ha => ?_
    obtain ⟨-, -, hlink, users, husers, -, rfl⟩ := UsersService.insert_eq_ok.mp ha
    exact .usersInsert husers hlink
  | usersUpdate organizationId id dto =>
    exact executes_of_query h fun _ ha => .usersUpdate ha
  | usersUpdateWrite organizationId id dto =>
    refine executes_of_write h fun _ ha => ?_
    obtain ⟨-, -, rfl⟩ := updateUser_eq_ok ha
    exact .usersUpdate
  | usersDeactivate organizationId id =>
    exact executes_of_query h fun _ ha => .usersDeactivate ha
  | usersDeactivateWrite organizationId id =>
    refine executes_of_write h fun _ ha => ?_
    obtain ⟨-, -, rfl⟩ := setUser_eq_ok ha
    exact .usersDeactivate
  | ticketsCreate actor dto cid =>
    refine executes_of_write h fun _ ha => ?_
    obtain ⟨-, -, -, hlink, tickets, outbox, ht, ho, -, rfl⟩ := TicketsService.create_eq_ok.mp ha
    obtain ⟨-, hrows, hretired⟩ := Table.insert?_eq_some.mp ho
    exact .ticketsCreate ht hrows hlink.2 hretired
  | ticketsUpdate actor id dto cid => exact executes_of_query h fun _ ha => .ticketsUpdate ha
  | ticketsUpdateTransaction actor id dto cid existing =>
    refine executes_of_write h fun _ ha => ?_
    obtain ⟨-, t, outbox, ht, rfl, ho, hr, rfl⟩ := TicketsService.updateTransaction_ok ha
    exact .ticketsUpdate ht ho hr
  | ticketsAssign actor id dto cid => exact executes_of_query h fun _ ha => .ticketsAssign ha
  | ticketsFindAssignee actor id dto cid =>
    exact executes_of_query h fun _ ha => .ticketsFindAssignee ha
  | ticketsAssignTransaction actor id dto cid =>
    refine executes_of_write h fun _ ha => ?_
    obtain ⟨hlink, t, outbox, ht, rfl, ho, hr, rfl⟩ := TicketsService.assignTransaction_ok ha
    exact .ticketsAssign ht ho hlink hr
  | commentsCreate actor ticketId dto cid =>
    exact executes_of_query h fun _ ha => .commentsCreate ha
  | commentsCreateTransaction actor ticketId dto cid =>
    refine executes_of_write h fun _ ha => ?_
    obtain ⟨hlink, comments, outbox, rfl, hc, ho, hr, rfl⟩ :=
      CommentsService.createTransaction_ok ha
    exact .commentsCreate hc ho hlink hr
  | notificationsMarkRead userId id =>
    exact executes_of_query h fun _ ha => .notificationsMarkRead ha
  | notificationsMarkReadWrite userId id =>
    refine executes_of_write h fun _ ha => ?_
    rw [NotificationsService.markRead_ok ha]
    exact .notificationsMarkRead
  | notificationsMarkAllRead userId =>
    refine executes_of_write h fun _ ha => ?_
    rw [NotificationsService.markAllRead_ok ha]
    exact .notificationsMarkAllRead
  | done outcome =>
    cases h
    exact .finished

/-- The transaction of an update commits, or it leaves everything as it is. -/
theorem exec_update (env : Env) (db : Db) (actor : AuthenticatedUser) (id : Uuid)
    (dto : UpdateTicketDto) (cid : Option String) (existing : Ticket) :
    (TicketsService.UpdateGoesThrough env db dto (TicketsService.willClose dto existing) ∧
        ∃ t outbox, db.tickets.find? id = some t ∧
          outbox.rows = db.outbox.rows ++
            TicketsService.updateRows env actor dto
              (t.apply dto (TicketsService.closingTime env (TicketsService.willClose dto existing))
                env.now) cid (TicketsService.willClose dto existing) ∧
          exec env db (.ticketsUpdateTransaction actor id dto cid existing) =
            ({ db with
                tickets := db.tickets.modify id
                  (·.apply dto
                    (TicketsService.closingTime env (TicketsService.willClose dto existing))
                    env.now) fun _ => rfl
                outbox }, .done (.ok ()))) ∨
      (¬ ((db.tickets.find? id).isSome ∧
          TicketsService.UpdateGoesThrough env db dto (TicketsService.willClose dto existing)) ∧
        ∃ e, exec env db (.ticketsUpdateTransaction actor id dto cid existing) =
          (db, .done (.error e))) := by
  have hgoes := TicketsService.updateTransaction_isOk actor id dto cid
    (TicketsService.willClose dto existing) env db
  obtain ⟨⟨db', call'⟩, hexec⟩ :
    ∃ p, exec env db (.ticketsUpdateTransaction actor id dto cid existing) = p := ⟨_, rfl⟩
  rw [hexec]
  rcases write_cases hexec with ⟨rfl, e, rfl⟩ | ⟨rfl, a, ha⟩
  · refine .inr ⟨fun hthrough => ?_, e, rfl⟩
    obtain ⟨a, db'', hok⟩ := hgoes.mpr hthrough
    rw [exec, write, Transaction.commit_eq_ok.mpr hok] at hexec
    cases hexec
  · obtain ⟨-, hthrough⟩ := hgoes.mp ⟨a, _, ha⟩
    obtain ⟨-, t, outbox, ht, rfl, ho, -, rfl⟩ := TicketsService.updateTransaction_ok ha
    exact .inl ⟨hthrough, t, outbox, ht, ho, rfl⟩

/-- The transaction of an assignment commits, or it leaves everything as it is. -/
theorem exec_assign (env : Env) (db : Db) (actor : AuthenticatedUser) (id : Uuid)
    (dto : AssignTicketDto) (cid : Option String) :
    (TicketsService.AssignGoesThrough env db dto ∧
        ∃ t outbox, db.tickets.find? id = some t ∧
          outbox.rows = db.outbox.rows ++
            [TicketsService.assignedRow env actor dto (t.assign dto.assigneeId env.now) cid] ∧
          exec env db (.ticketsAssignTransaction actor id dto cid) =
            ({ db with
                tickets := db.tickets.modify id (·.assign dto.assigneeId env.now) fun _ => rfl
                outbox }, .done (.ok ()))) ∨
      (¬ ((db.tickets.find? id).isSome ∧ TicketsService.AssignGoesThrough env db dto) ∧
        ∃ e, exec env db (.ticketsAssignTransaction actor id dto cid) =
          (db, .done (.error e))) := by
  have hgoes := TicketsService.assignTransaction_isOk actor id dto cid env db
  obtain ⟨⟨db', call'⟩, hexec⟩ :
    ∃ p, exec env db (.ticketsAssignTransaction actor id dto cid) = p := ⟨_, rfl⟩
  rw [hexec]
  rcases write_cases hexec with ⟨rfl, e, rfl⟩ | ⟨rfl, a, ha⟩
  · refine .inr ⟨fun hthrough => ?_, e, rfl⟩
    obtain ⟨a, db'', hok⟩ := hgoes.mpr hthrough
    rw [exec, write, Transaction.commit_eq_ok.mpr hok] at hexec
    cases hexec
  · obtain ⟨-, hthrough⟩ := hgoes.mp ⟨a, _, ha⟩
    obtain ⟨-, t, outbox, ht, rfl, ho, -, rfl⟩ := TicketsService.assignTransaction_ok ha
    exact .inl ⟨hthrough, t, outbox, ht, ho, rfl⟩

/-- The organization a removal removes was there. -/
lemma removed_isSome {env : Env} {db db' : Db} {id : Uuid}
    (h : exec env db (.organizationsRemoveWrite id) = (db', .done (.ok ()))) :
    (db.organizations.find? id).isSome := by
  rcases write_cases h with ⟨-, _, hdone⟩ | ⟨-, _, hok⟩
  · cases hdone
  · exact (deleteOrganization_eq_ok.mp hok).2.1

lemma Executes.isRemoval {env : Env} {db db' : Db} {call call' : Call}
    (h : Executes env db call db' call') (hcall : call.isRemoval = false) :
    call'.isRemoval = false := by
  cases h with
  | failed => rfl
  | finished => rfl
  | wrote _ => rfl
  | checked h =>
    cases h with
    | organizationsRemove => cases hcall
    | _ => rfl

lemma receive_isRemoval {db : Db} {sub : Option Uuid} {correlationId : Option String}
    {request : Request} (h : request.isRemoval = false) :
    (receive db sub correlationId request).2.isRemoval = false := by
  have hguarded : (guarded db sub correlationId request).2.isRemoval = false := by
    unfold guarded
    split
    · split_ifs
      · cases request <;> first | rfl | cases h
      · rfl
    · rfl
  unfold receive
  split <;> first | rfl | exact hguarded

end Call

end SupportPlatform
