import SupportPlatform.Platform.World

/-!
# Where the calls in progress are confined to

The organization of a user or a ticket and the recipient of a notification never change, and an id
is never given out twice. So what a check has found out about an id still holds when a later
statement of the call uses it, whatever happens in between: every call of a user stays in the
user's organization, but for the organization that the body of `POST /users` names.
-/

namespace SupportPlatform

/-- The columns of users, tickets and notifications that never change. -/
structure Db.Evolves (s t : Db) : Prop where
  users : Table.Evolves User.organizationId s.users t.users
  tickets : Table.Evolves Ticket.organizationId s.tickets t.tickets
  notifications : Table.Evolves Notification.userId s.notifications t.notifications

namespace Db

/-- A user of the organization, as long as there is one under the id. -/
def UserIn (db : Db) (id organizationId : Uuid) : Prop :=
  db.users.Names User.organizationId id organizationId

/-- A ticket of the organization, as long as there is one under the id. -/
def TicketIn (db : Db) (id organizationId : Uuid) : Prop :=
  db.tickets.Names Ticket.organizationId id organizationId

/-- A notification of the user, as long as there is one under the id. -/
def NotificationOf (db : Db) (id userId : Uuid) : Prop :=
  db.notifications.Names Notification.userId id userId

namespace Evolves

variable {s t u : Db}

lemma refl (s : Db) : s.Evolves s := ⟨.refl _ _, .refl _ _, .refl _ _⟩

lemma trans (h : s.Evolves t) (h' : t.Evolves u) : s.Evolves u :=
  ⟨h.users.trans h'.users, h.tickets.trans h'.tickets, h.notifications.trans h'.notifications⟩

lemma userIn {id o : Uuid} (h : s.Evolves t) (hid : s.UserIn id o) : t.UserIn id o :=
  h.users.names hid

lemma ticketIn {id o : Uuid} (h : s.Evolves t) (hid : s.TicketIn id o) : t.TicketIn id o :=
  h.tickets.names hid

lemma notificationOf {id o : Uuid} (h : s.Evolves t) (hid : s.NotificationOf id o) :
    t.NotificationOf id o :=
  h.notifications.names hid

lemma of_users {users : Table User}
    (h : Table.Evolves User.organizationId s.users users) : s.Evolves { s with users } :=
  ⟨h, .refl _ _, .refl _ _⟩

lemma of_notifications {notifications : Table Notification}
    (h : Table.Evolves Notification.userId s.notifications notifications) :
    s.Evolves { s with notifications } :=
  ⟨.refl _ _, .refl _ _, h⟩

lemma of_tickets {tickets : Table Ticket} {outbox : Table EventOutbox}
    (h : Table.Evolves Ticket.organizationId s.tickets tickets) :
    s.Evolves { s with tickets, outbox } :=
  ⟨.refl _ _, h, .refl _ _⟩

/-- A step that leaves the three tables alone. -/
lemma of_eq (hu : t.users = s.users) (ht : t.tickets = s.tickets)
    (hn : t.notifications = s.notifications) : s.Evolves t :=
  ⟨hu ▸ .refl _ _, ht ▸ .refl _ _, hn ▸ .refl _ _⟩

lemma dropOrganization (s : Db) (id : Uuid) : s.Evolves (s.dropOrganization id) where
  users := .removeWhere _ _
  tickets := by
    simp only [Db.dropOrganization]
    refine Table.Evolves.trans (.removeWhere s.tickets (·.organizationId = id)) ?_
    exact .modifyWhere _ fun _ => rfl
  notifications := .removeWhere _ _

end Evolves

end Db

lemma Call.Writes.evolves {env : Env} {db db' : Db} {call : Call}
    (h : Call.Writes env db call db') : db.Evolves db' := by
  cases h with
  | registerInsert h _ => exact .of_users (.of_insert? h)
  | loginStamp => exact .of_users (.modify _ fun _ => rfl)
  | organizationsRemove => exact .dropOrganization _ _
  | usersInsert h _ => exact .of_users (.of_insert? h)
  | usersUpdate => exact .of_users (.modify _ fun _ => rfl)
  | usersDeactivate => exact .of_users (.modify _ fun _ => rfl)
  | ticketsCreate ht _ => exact .of_tickets (.of_insert? ht)
  | ticketsUpdate _ _ => exact .of_tickets (.modify _ fun _ => rfl)
  | ticketsAssign _ _ => exact .of_tickets (.modify _ fun _ => rfl)
  | notificationsMarkRead => exact .of_notifications (.modify _ fun _ => rfl)
  | notificationsMarkAllRead => exact .of_notifications (.modifyWhere _ fun _ => rfl)
  | _ => exact .of_eq rfl rfl rfl

lemma Call.Executes.evolves {env : Env} {db db' : Db} {call call' : Call}
    (h : Call.Executes env db call db' call') : db.Evolves db' := by
  cases h with
  | wrote h => exact h.evolves
  | _ => exact .refl db

lemma OutboxRelayService.Steps.evolves {cfg : Config} {db db' : Db} {broker broker' : Broker}
    {p p' : RelayProcess} (h : Steps cfg db broker p db' broker' p') : db.Evolves db' := by
  rw [h.frame]
  exact .of_eq rfl rfl rfl

lemma Projection.Writes.evolves {env : Env} {db db' : Db} {p : Projection}
    (h : p.Writes env db db') : db.Evolves db' := by
  cases h with
  | notify h => exact .of_notifications (.of_insertAll? h)
  | _ => exact .of_eq rfl rfl rfl

lemma Delivery.Executes.evolves {db db' : Db} {broker broker' : Broker} {locked : Bool}
    {d : Delivery} {a : DeliveryAction} {d' : Option Delivery}
    (h : d.Executes db broker locked a db' broker' d') : db.Evolves db' := by
  cases h with
  | committed _ _ _ hwrite =>
    refine Db.Evolves.trans ?_ hwrite.evolves
    exact .of_eq rfl rfl rfl
  | _ => exact .refl db

lemma World.Steps.evolves {cfg : Config} {w w' : World} {e : Event}
    (h : World.Steps cfg w e w') : w.db.Evolves w'.db := by
  cases h with
  | proceed _ h => exact h.evolves
  | relay _ h => exact h.evolves
  | consume _ h => exact h.evolves
  | finish _ h => exact h.evolves
  | _ => exact .refl _

/-! ### Scoped calls -/

/-- The actor belongs to the organization. -/
def Db.Actor (db : Db) (actor : AuthenticatedUser) (organizationId : Uuid) : Prop :=
  actor.organizationId = organizationId ∧ db.UserIn actor.id organizationId

namespace Call

/-- What holds of a call of a user of the organization: its actor and the ids it has checked are
of the organization. -/
def Scoped (db : Db) (o : Uuid) : Call → Prop
  | .usersUpdate organizationId _ _ | .usersDeactivate organizationId _ => organizationId = o
  | .usersUpdateWrite _ id _ | .usersDeactivateWrite _ id => db.UserIn id o
  | .ticketsCreate actor _ _ | .ticketsUpdate actor _ _ _ | .ticketsAssign actor _ _ _ =>
    db.Actor actor o
  | .ticketsUpdateTransaction actor id _ _ _ => db.Actor actor o ∧ db.TicketIn id o
  | .ticketsFindAssignee actor id _ _ => db.Actor actor o ∧ db.TicketIn id o
  | .ticketsAssignTransaction actor id dto _ =>
    db.Actor actor o ∧ db.TicketIn id o ∧ db.UserIn dto.assigneeId o
  | .commentsCreate actor _ _ _ => db.Actor actor o
  | .commentsCreateTransaction actor ticketId _ _ => db.Actor actor o ∧ db.TicketIn ticketId o
  | .notificationsMarkRead userId _ | .notificationsMarkAllRead userId => db.UserIn userId o
  | .notificationsMarkReadWrite userId id => db.UserIn userId o ∧ db.NotificationOf id userId
  | _ => True

/-- The calls of `register` and `login`, which have no user. -/
def isAnonymous : Call → Bool
  | .register _ | .registerEmail _ | .registerInsert _ | .login _ | .loginStamp _ | .done _ => true
  | _ => false

variable {env : Env} {db db' : Db} {call call' : Call} {o : Uuid}

lemma Scoped.mono (h : db.Evolves db') (hcall : call.Scoped db o) : call.Scoped db' o := by
  have actor : ∀ {a}, db.Actor a o → db'.Actor a o := fun ha => ⟨ha.1, h.userIn ha.2⟩
  cases call with
  | usersUpdateWrite | usersDeactivateWrite => exact h.userIn hcall
  | ticketsCreate | ticketsUpdate | ticketsAssign | commentsCreate => exact actor hcall
  | ticketsUpdateTransaction | ticketsFindAssignee | commentsCreateTransaction =>
    exact ⟨actor hcall.1, h.ticketIn hcall.2⟩
  | ticketsAssignTransaction =>
    exact ⟨actor hcall.1, h.ticketIn hcall.2.1, h.userIn hcall.2.2⟩
  | notificationsMarkRead | notificationsMarkAllRead => exact h.userIn hcall
  | notificationsMarkReadWrite => exact ⟨h.userIn hcall.1, h.notificationOf hcall.2⟩
  | usersUpdate | usersDeactivate => exact hcall
  | _ => trivial

lemma ticketIn_of_findOne {actor : AuthenticatedUser} {id : Uuid} {t : Ticket}
    (hactor : db.Actor actor o) (h : TicketsService.findOne actor id db = .ok t) :
    db.TicketIn id o := by
  obtain ⟨hfind, horg, -⟩ := TicketsService.findOne_ok h
  refine Table.names_of_column (Table.column_eq_some.mpr ⟨t, ?_, ?_, horg.trans hactor.1⟩)
  · exact (Table.find?_eq_some.mp hfind).1
  · exact (Table.find?_eq_some.mp hfind).2

/-- The check that a call passes tells that the id it goes on with is of the organization. -/
lemma Scoped.checked (h : Checks env db call call') (hcall : call.Scoped db o) :
    call'.Scoped db o := by
  cases h with
  | usersUpdate h | usersDeactivate h =>
    obtain ⟨hfind, horg⟩ := UsersService.findOne_ok h
    obtain ⟨hmem, hid⟩ := Table.find?_eq_some.mp hfind
    exact Table.names_of_column
      (Table.column_eq_some.mpr ⟨_, hmem, hid, horg.trans hcall⟩)
  | ticketsUpdate h =>
    exact ⟨hcall, ticketIn_of_findOne hcall (TicketsService.checkUpdate_ok h).1⟩
  | ticketsAssign h => exact ⟨hcall, ticketIn_of_findOne hcall h⟩
  | ticketsFindAssignee h =>
    obtain ⟨hfind, horg, -, -⟩ := TicketsService.findAssignee_ok h
    obtain ⟨hmem, hid⟩ := Table.find?_eq_some.mp hfind
    exact ⟨hcall.1, hcall.2, Table.names_of_column
      (Table.column_eq_some.mpr ⟨_, hmem, hid, horg.trans hcall.1.1⟩)⟩
  | commentsCreate h => exact ⟨hcall, ticketIn_of_findOne hcall h⟩
  | notificationsMarkRead h =>
    obtain ⟨hfind, huser⟩ := NotificationsService.findOwn_ok h
    obtain ⟨hmem, hid⟩ := Table.find?_eq_some.mp hfind
    exact ⟨hcall, Table.names_of_column (Table.column_eq_some.mpr ⟨_, hmem, hid, huser⟩)⟩
  | _ => trivial

lemma Scoped.executes (h : Executes env db call db' call') (hcall : call.Scoped db o) :
    call'.Scoped db' o := by
  cases h with
  | checked h => exact hcall.checked h
  | _ => trivial

lemma isAnonymous_executes (h : Executes env db call db' call') (hcall : call.isAnonymous) :
    call'.isAnonymous := by
  cases h with
  | checked h => cases h <;> first | rfl | cases hcall
  | _ => rfl

end Call

/-- The call is scoped to the organization of its user. -/
def InFlight.Scoped (db : Db) (c : InFlight) : Prop :=
  match c.user with
  | some user => c.call.Scoped db user.organizationId
  | none => c.call.isAnonymous

/-- The guards start a call that is scoped to the organization of the user they found. -/
lemma InFlight.scoped_guarded (db : Db) (sub : Option Uuid) (correlationId : Option String)
    (request : Request) : InFlight.Scoped db
      ⟨(Call.guarded db sub correlationId request).1,
        (Call.guarded db sub correlationId request).2⟩ := by
  unfold Call.guarded
  split
  · next user huser =>
    obtain ⟨id, -, hvalid⟩ := Option.map_eq_some_iff.mp huser
    obtain ⟨u, hmem, hid, horg, -⟩ := JwtStrategy.validate_ok hvalid
    have hactor : db.Actor user user.organizationId :=
      ⟨rfl, Table.names_of_column (Table.column_eq_some.mpr ⟨u, hmem, hid, horg⟩)⟩
    split_ifs
    · cases request <;> first | trivial | exact rfl | exact hactor | exact hactor.2
    · trivial
  · exact rfl

lemma InFlight.scoped_receive (db : Db) (sub : Option Uuid) (correlationId : Option String)
    (request : Request) : InFlight.Scoped db
      ⟨(Call.receive db sub correlationId request).1,
        (Call.receive db sub correlationId request).2⟩ := by
  unfold Call.receive
  split <;> first | exact rfl | exact scoped_guarded db sub correlationId _

lemma InFlight.Scoped.mono {c : InFlight} {db db' : Db} (h : db.Evolves db') (hc : c.Scoped db) :
    c.Scoped db' := by
  obtain ⟨_ | user, call⟩ := c
  · exact hc
  · exact Call.Scoped.mono h hc

lemma InFlight.Scoped.executes {c : InFlight} {env : Env} {db db' : Db} {call : Call}
    (h : Call.Executes env db c.call db' call) (hc : c.Scoped db) :
    InFlight.Scoped db' { c with call } := by
  obtain ⟨_ | user, _⟩ := c
  · exact Call.isAnonymous_executes h hc
  · exact Call.Scoped.executes h hc

namespace World

/-- Every call in progress is scoped to the organization of its user. -/
def Scoped (w : World) : Prop := ∀ c ∈ w.calls, c.Scoped w.db

lemma scoped_initial (organizations : Table Organization) (users : Table User) (n : Nat) :
    (initial organizations users n).Scoped := fun _ hc => by cases hc

theorem Steps.scoped {cfg : Config} {w w' : World} {e : Event} (h : Steps cfg w e w')
    (hw : w.Scoped) : w'.Scoped := by
  have hold : ∀ c ∈ w.calls, c.Scoped w'.db := fun c hc => (hw c hc).mono h.evolves
  cases h with
  | arrive =>
    intro c hc
    rcases List.mem_append.mp hc with hc | hc
    · exact hold c hc
    · obtain rfl := List.mem_singleton.mp hc
      exact InFlight.scoped_receive _ _ _ _
  | proceed hc h =>
    intro c' hc'
    rcases List.mem_or_eq_of_mem_set hc' with hc' | rfl
    · exact hold c' hc'
    · exact (hw _ (List.mem_of_getElem? hc)).executes h
  | _ => exact hold

end World

end SupportPlatform
