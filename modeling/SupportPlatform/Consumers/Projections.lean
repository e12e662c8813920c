import Mathlib.Data.List.Dedup
import Mathlib.Data.List.ReduceOption
import SupportPlatform.Schema.Statements

/-!
# The projectors

What the three consumers make of an event: first a `Projection`, the write with the values it
closes over, computed from the event and the ticket as it is then; later the write itself.
-/

namespace SupportPlatform

inductive MetricField where
  | ticketsCreated
  | ticketsAssigned
  | ticketsClosed
deriving DecidableEq, Repr

/-- The write of a projector. -/
inductive Projection where
  | skip
  | notify (userIds : List Uuid) (type : NotificationType) (title message : String)
      (ticketId : Uuid)
  | audit (action : RoutingKey) (entityType : String) (entityId : Uuid) (actorId : Option Uuid)
      (organizationId : Option Uuid) (correlationId : Option String) (metadata : Payload)
  | count (organizationId : Uuid) (date : Nat) (field : MetricField)
deriving DecidableEq, Repr

/-! ### Notification consumer -/

namespace NotificationConsumer

/-- `unique`: the ids that are not null, each once. -/
def unique (ids : List (Option Uuid)) : List Uuid := ids.reduceOption.reverse.dedup.reverse

@[simp] lemma mem_unique {ids : List (Option Uuid)} {id : Uuid} :
    id ∈ unique ids ↔ some id ∈ ids := by
  simp [unique, List.reduceOption_mem_iff]

/-- The text of a status. -/
def statusName : TicketStatus → String
  | .open => "OPEN"
  | .inProgress => "IN_PROGRESS"
  | .pending => "PENDING"
  | .resolved => "RESOLVED"
  | .closed => "CLOSED"

/-- The text of a priority. -/
def priorityName : TicketPriority → String
  | .low => "LOW"
  | .medium => "MEDIUM"
  | .high => "HIGH"
  | .urgent => "URGENT"

/-- The entry of one key in `describeChanges`; an absent key has none. -/
def describeField {α : Type} (key : String) (text : α → String) : Field α → Option String
  | .undefined => none
  | .null => some (key ++ " → null")
  | .value a => some (key ++ " → " ++ text a)

/-- `describeChanges`: the keys come in the order of the stored JSON, shorter ones first. -/
def describeChanges (changes : UpdateTicketDto) : String :=
  ", ".intercalate <| List.reduceOption
    [describeField "title" id changes.title,
      describeField "status" statusName changes.status,
      describeField "category" id changes.category,
      describeField "priority" priorityName changes.priority,
      describeField "description" id changes.description]

/-- `project` up to its `createMany`. -/
def plan (db : Db) (event : DomainEvent) : Projection :=
  match event.payload with
  | .ticketCreated p =>
    .notify (unique [some p.createdById, p.assignedToId]) .ticketCreated "Ticket created"
      ("Ticket " ++ p.reference ++ " — \"" ++ p.title ++ "\" was created.") p.ticketId
  | .ticketAssigned p =>
    .notify ((unique [some p.assignedToId]).filter (· ≠ p.assignedById)) .ticketAssigned
      "Ticket assigned to you" ("Ticket " ++ p.reference ++ " was assigned to you.") p.ticketId
  | .ticketUpdated p =>
    match db.tickets.find? p.ticketId with
    | none => .skip
    | some ticket =>
      let summary := describeChanges p.changes
      .notify ((unique [some ticket.createdById, ticket.assignedToId]).filter (· ≠ p.updatedById))
        .ticketUpdated "Ticket updated"
        ("Ticket " ++ p.reference ++ " was updated" ++
          (if summary = "" then "" else ": " ++ summary) ++ ".")
        p.ticketId
  | .ticketClosed p =>
    match db.tickets.find? p.ticketId with
    | none => .skip
    | some ticket =>
      .notify ((unique [some ticket.createdById, ticket.assignedToId]).filter (· ≠ p.closedById))
        .ticketClosed "Ticket closed" ("Ticket " ++ p.reference ++ " has been closed.") p.ticketId
  | .commentCreated p =>
    match db.tickets.find? p.ticketId with
    | none => .skip
    | some ticket =>
      -- internal notes stay between staff
      let candidates :=
        if p.isInternal then [ticket.assignedToId]
        else [some ticket.createdById, ticket.assignedToId]
      .notify ((unique candidates).filter (· ≠ p.authorId)) .commentAdded "New comment"
        ("A new comment was added to ticket " ++ ticket.reference ++ ".") p.ticketId
  | .notificationCreated => .skip

end NotificationConsumer

/-! ### Audit and analytics consumers -/

/-- `AuditConsumer.project` with its `describe`. -/
def AuditConsumer.plan (event : DomainEvent) : Projection :=
  let audit entityType entityId actorId organizationId : Projection :=
    .audit event.routingKey entityType entityId actorId organizationId event.correlationId
      event.payload
  match event.payload with
  | .ticketCreated p => audit "Ticket" p.ticketId (some p.createdById) (some p.organizationId)
  | .ticketUpdated p => audit "Ticket" p.ticketId (some p.updatedById) (some p.organizationId)
  | .ticketAssigned p => audit "Ticket" p.ticketId (some p.assignedById) (some p.organizationId)
  | .ticketClosed p => audit "Ticket" p.ticketId (some p.closedById) (some p.organizationId)
  | .commentCreated p => audit "Comment" p.commentId (some p.authorId) (some p.organizationId)
  | .notificationCreated => audit "Unknown" event.eventId none none

namespace AnalyticsConsumer

/-- `startOfUtcDay`, in days since the epoch. -/
def startOfUtcDay (now : Time) : Nat := now / (24 * 60 * 60 * 1000)

/-- `project` up to its upsert. -/
def plan (env : Env) (event : DomainEvent) : Projection :=
  match event.payload with
  | .ticketCreated p => .count p.organizationId (startOfUtcDay env.now) .ticketsCreated
  | .ticketAssigned p => .count p.organizationId (startOfUtcDay env.now) .ticketsAssigned
  | .ticketClosed p => .count p.organizationId (startOfUtcDay env.now) .ticketsClosed
  | _ => .skip

end AnalyticsConsumer

/-- The projector of a consumer, up to its write. -/
def Consumer.plan (env : Env) (db : Db) (event : DomainEvent) : Consumer → Projection
  | .notification => NotificationConsumer.plan db event
  | .audit => AuditConsumer.plan event
  | .analytics => AnalyticsConsumer.plan env event

/-- The consumer that owns the table of a write. -/
def Projection.consumer? : Projection → Option Consumer
  | .skip => none
  | .notify _ _ _ _ _ => some .notification
  | .audit _ _ _ _ _ _ _ => some .audit
  | .count _ _ _ => some .analytics

/-- A consumer plans writes to its own table only. -/
lemma Consumer.eq_of_plan {env : Env} {db : Db} {event : DomainEvent} {c c' : Consumer}
    {p : Projection} (h : c.plan env db event = p) (hp : p.consumer? = some c') : c = c' := by
  subst h
  have hown : (c.plan env db event).consumer?.getD c = c := by
    cases c with
    | notification =>
      simp only [plan, NotificationConsumer.plan]
      split <;> first | rfl | (split <;> rfl)
    | audit =>
      simp only [plan, AuditConsumer.plan]
      split <;> rfl
    | analytics =>
      simp only [plan, AnalyticsConsumer.plan]
      split <;> rfl
  rw [hp] at hown
  exact hown.symm

/-! ### The writes -/

/-- `notification.createMany`: every user must exist. -/
def createNotifications (rows : List Notification) : DbTx Unit :=
  attempt .write fun db =>
    if rows.all fun n => (db.users.find? n.userId).isSome then
      match db.notifications.insertAll? rows with
      | none => .error .uniqueViolation
      | some notifications => .ok ((), { db with notifications })
    else .error .foreignKeyViolation

/-- `auditLog.create`: the actor and the organization must exist, if there are any. -/
def createAuditLog (row : AuditLog) : DbTx Unit :=
  attempt .write fun db =>
    (insertRow db.auditLogs row false
      (row.actorId.all (fun u => (db.users.find? u).isSome) &&
        row.organizationId.all fun o => (db.organizations.find? o).isSome)).map
      fun auditLogs => ((), { db with auditLogs })

/-- `{ increment: 1 }` on one counter. -/
def TicketMetricDaily.increment (field : MetricField) (m : TicketMetricDaily) :
    TicketMetricDaily :=
  match field with
  | .ticketsCreated => { m with ticketsCreated := m.ticketsCreated + 1 }
  | .ticketsAssigned => { m with ticketsAssigned := m.ticketsAssigned + 1 }
  | .ticketsClosed => { m with ticketsClosed := m.ticketsClosed + 1 }

lemma TicketMetricDaily.key_increment (field : MetricField) (m : TicketMetricDaily) :
    Keyed.key (m.increment field) = Keyed.key m := by
  cases field <;> rfl

/-- The row `AuditConsumer.project` inserts. -/
def newAuditLog (env : Env) (action : RoutingKey) (entityType : String) (entityId : Uuid)
    (actorId organizationId : Option Uuid) (correlationId : Option String) (metadata : Payload) :
    AuditLog where
  id := env.uuid .write 0
  action
  entityType
  entityId
  actorId
  organizationId
  metadata
  correlationId
  createdAt := env.now

/-- The row an upsert inserts where there is none. -/
def newMetric (organizationId : Uuid) (date : Nat) (field : MetricField) : TicketMetricDaily :=
  (⟨organizationId, date, 0, 0, 0⟩ : TicketMetricDaily).increment field

/-- `ticketMetricDaily.upsert`: the organization must exist for a new row. -/
def upsertMetric (organizationId : Uuid) (date : Nat) (field : MetricField) : DbTx Unit :=
  attempt .write fun db =>
    match db.ticketMetrics.find? (organizationId, date) with
    | some _ =>
      .ok ((), { db with
        ticketMetrics := db.ticketMetrics.modify (organizationId, date)
          (TicketMetricDaily.increment field) (TicketMetricDaily.key_increment field) })
    | none =>
      (insertRow db.ticketMetrics (newMetric organizationId date field) false
        (db.organizations.find? organizationId).isSome).map
        fun ticketMetrics => ((), { db with ticketMetrics })

/-- The rows `notify` inserts. -/
def newNotifications (env : Env) (userIds : List Uuid) (type : NotificationType)
    (title message : String) (ticketId : Uuid) : List Notification :=
  userIds.mapIdx fun i userId =>
    { id := env.uuid .write i
      userId
      type
      title
      message
      ticketId := some ticketId
      isRead := false
      readAt := none
      createdAt := env.now }

/-- The write of a projector. -/
def Projection.exec : Projection → DbTx Unit
  | .skip => pure ()
  | .notify userIds type title message ticketId =>
    if userIds = [] then pure ()
    else do
      let env ← Transaction.ask
      createNotifications (newNotifications env userIds type title message ticketId)
  | .audit action entityType entityId actorId organizationId correlationId metadata => do
    let env ← Transaction.ask
    createAuditLog
      (newAuditLog env action entityType entityId actorId organizationId correlationId metadata)
  | .count organizationId date field => upsertMetric organizationId date field

/-- What the write of a projector leaves in the database. -/
inductive Projection.Writes (env : Env) (db : Db) : Projection → Db → Prop
  | skip : Writes env db .skip db
  | none {type title message ticketId} :
    Writes env db (.notify [] type title message ticketId) db
  | notify {userIds type title message ticketId notifications}
    (h : db.notifications.insertAll?
      (newNotifications env userIds type title message ticketId) = some notifications)
    (hlink : ∀ u ∈ userIds, (db.users.find? u).isSome) :
    Writes env db (.notify userIds type title message ticketId) { db with notifications }
  | audit {action entityType entityId actorId organizationId correlationId metadata auditLogs}
    (h : db.auditLogs.insert? (newAuditLog env action entityType entityId actorId organizationId
      correlationId metadata) = some auditLogs) :
    Writes env db
      (.audit action entityType entityId actorId organizationId correlationId metadata)
      { db with auditLogs }
  | increment {organizationId date field m}
    (h : db.ticketMetrics.find? (organizationId, date) = some m) :
    Writes env db (.count organizationId date field)
      { db with
        ticketMetrics := db.ticketMetrics.modify (organizationId, date)
          (TicketMetricDaily.increment field) (TicketMetricDaily.key_increment field) }
  | start {organizationId date field ticketMetrics}
    (h : db.ticketMetrics.insert? (newMetric organizationId date field) = some ticketMetrics) :
    Writes env db (.count organizationId date field) { db with ticketMetrics }

lemma createNotifications_eq_ok {rows : List Notification} {env : Env} {db db' : Db} {u : Unit}
    (h : createNotifications rows env db = .ok (u, db')) :
    (∀ n ∈ rows, (db.users.find? n.userId).isSome) ∧
      ∃ notifications, db.notifications.insertAll? rows = some notifications ∧
        db' = { db with notifications } := by
  obtain ⟨-, h⟩ := attempt_eq_ok.mp h
  split_ifs at h with hlink
  split at h
  · cases h
  · next notifications hn =>
    cases h
    exact ⟨List.all_eq_true.mp hlink, notifications, hn, rfl⟩

lemma Projection.exec_cases {p : Projection} {env : Env} {db db' : Db} {u : Unit}
    (h : p.exec env db = .ok (u, db')) : p.Writes env db db' := by
  cases p with
  | skip =>
    cases h
    exact .skip
  | notify userIds type title message ticketId =>
    rw [exec] at h
    split_ifs at h with hempty
    · subst hempty
      cases h
      exact .none
    · rw [Transaction.bind_of_ok (Transaction.ask_apply env db)] at h
      obtain ⟨hlink, notifications, hn, rfl⟩ := createNotifications_eq_ok h
      refine .notify hn fun u hu => ?_
      obtain ⟨i, hi, rfl⟩ := List.mem_iff_getElem.mp hu
      exact hlink _ (List.mem_mapIdx.mpr ⟨i, hi, rfl⟩)
  | audit action entityType entityId actorId organizationId correlationId metadata =>
    rw [exec, Transaction.bind_of_ok (Transaction.ask_apply env db)] at h
    obtain ⟨-, h⟩ := attempt_eq_ok.mp h
    obtain ⟨_, hrow, heq⟩ := map_eq_ok.mp h
    cases heq
    exact .audit (insertRow_eq_ok.mp hrow).2.2
  | count organizationId date field =>
    rw [exec, upsertMetric] at h
    obtain ⟨-, h⟩ := attempt_eq_ok.mp h
    split at h
    · next m hm =>
      cases h
      exact .increment hm
    · obtain ⟨_, hrow, heq⟩ := map_eq_ok.mp h
      cases heq
      exact .start (insertRow_eq_ok.mp hrow).2.2

/-- The projector of a consumer as one piece. -/
def Consumer.project (c : Consumer) (event : DomainEvent) : DbTx Unit := do
  let env ← Transaction.ask
  let projection ← attempt .query fun db => .ok (c.plan env db event, db)
  projection.exec

end SupportPlatform
