import SupportPlatform.Consumers.Projections

/-!
# Recipients

Who is to be told of an event, by the tickets as they are when it is projected. The notification
consumer inserts one row for each of them and none for anybody else.
-/

namespace SupportPlatform

/-- Whether a user is to be told of an event. -/
def Payload.Recipient (tickets : Table Ticket) : Payload → Uuid → Prop
  | .ticketCreated p, u => u = p.createdById ∨ p.assignedToId = some u
  | .ticketAssigned p, u => u = p.assignedToId ∧ u ≠ p.assignedById
  | .ticketUpdated p, u =>
    ∃ t ∈ tickets.find? p.ticketId,
      (u = t.createdById ∨ t.assignedToId = some u) ∧ u ≠ p.updatedById
  | .ticketClosed p, u =>
    ∃ t ∈ tickets.find? p.ticketId,
      (u = t.createdById ∨ t.assignedToId = some u) ∧ u ≠ p.closedById
  | .commentCreated p, u =>
    ∃ t ∈ tickets.find? p.ticketId,
      (t.assignedToId = some u ∨ (p.isInternal = false ∧ u = t.createdById)) ∧ u ≠ p.authorId
  | .notificationCreated, _ => False

/-- The type of the notifications of an event. -/
def Payload.notificationType? : Payload → Option NotificationType
  | .ticketCreated _ => some .ticketCreated
  | .ticketUpdated _ => some .ticketUpdated
  | .ticketAssigned _ => some .ticketAssigned
  | .ticketClosed _ => some .ticketClosed
  | .commentCreated _ => some .commentAdded
  | .notificationCreated => none

/-- The rows tell the recipients of the event, each of them once. -/
structure Payload.Tells (tickets : Table Ticket) (payload : Payload) (rows : List Notification) :
    Prop where
  once : (rows.map (·.userId)).Nodup
  exactly : ∀ u, u ∈ rows.map (·.userId) ↔ payload.Recipient tickets u
  labelled : ∀ n ∈ rows,
    payload.notificationType? = some n.type ∧ n.ticketId = payload.ticketId?

namespace NotificationConsumer

lemma nodup_unique (ids : List (Option Uuid)) : (unique ids).Nodup :=
  List.nodup_reverse.mpr (List.nodup_dedup _)

/-- What the consumer plans for an event: a row for each recipient, under the event's type and
ticket. -/
inductive Plans (tickets : Table Ticket) (payload : Payload) : Projection → Prop
  | skip (h : ∀ u, ¬ payload.Recipient tickets u) : Plans tickets payload .skip
  | notify {userIds type title message ticketId} (hnodup : userIds.Nodup)
    (hmem : ∀ u, u ∈ userIds ↔ payload.Recipient tickets u)
    (htype : payload.notificationType? = some type) (hticket : payload.ticketId? = some ticketId) :
    Plans tickets payload (.notify userIds type title message ticketId)

/-- The plan for an event about a ticket that must still be there. -/
lemma plans_ticket {tickets : Table Ticket} {payload : Payload} {k ticketId : Uuid}
    {candidates : Ticket → List (Option Uuid)} {actor : Uuid} {type : NotificationType}
    {title : String} {message : Ticket → String}
    (hrecipient : ∀ u, payload.Recipient tickets u ↔
      ∃ t ∈ tickets.find? k, some u ∈ candidates t ∧ u ≠ actor)
    (htype : payload.notificationType? = some type) (hticket : payload.ticketId? = some ticketId) :
    Plans tickets payload
      (match tickets.find? k with
      | none => .skip
      | some t => .notify ((unique (candidates t)).filter (· ≠ actor)) type title (message t)
          ticketId) := by
  cases hfind : tickets.find? k with
  | none =>
    refine .skip fun u hu => ?_
    obtain ⟨t, ht, -⟩ := (hrecipient u).mp hu
    cases hfind.symm.trans ht
  | some t =>
    refine .notify ((nodup_unique _).filter _) (fun u => ?_) htype hticket
    rw [hrecipient, hfind]
    simp

theorem plans (db : Db) (event : DomainEvent) :
    Plans db.tickets event.payload (plan db event) := by
  unfold plan
  cases event.payload with
  | ticketCreated p =>
    refine .notify (nodup_unique _) (fun u => ?_) rfl rfl
    simp [Payload.Recipient, eq_comm]
  | ticketAssigned p =>
    refine .notify ((nodup_unique _).filter _) (fun u => ?_) rfl rfl
    simp [Payload.Recipient]
  | ticketUpdated p | ticketClosed p =>
    refine plans_ticket (fun u => ?_) rfl rfl
    simp [Payload.Recipient, eq_comm]
  | commentCreated p =>
    refine plans_ticket (fun u => ?_) rfl rfl
    cases hinternal : p.isInternal <;> simp [Payload.Recipient, hinternal, eq_comm, or_comm]
  | notificationCreated => exact .skip fun _ hu => hu

/-- A projection that goes through adds one notification for each recipient of its event, of the
event's type and about its ticket, and changes nothing else. The ticket is read in one statement and
the rows are inserted in a later one, which may find another database. -/
theorem recipients_exact {event : DomainEvent} {env : Env} {read db db' : Db}
    (h : (plan read event).exec env db = .ok ((), db')) :
    ∃ rows, event.payload.Tells read.tickets rows ∧
      db'.notifications.rows = db.notifications.rows ++ rows ∧
      db' = { db with notifications := db'.notifications } := by
  have hplans := plans read event
  generalize plan read event = p at h hplans
  have hwrites := Projection.exec_cases h
  cases hplans with
  | skip hnobody =>
    cases hwrites
    refine ⟨[], ⟨List.nodup_nil, fun u => ?_, fun n hn => by cases hn⟩, by simp, rfl⟩
    simpa using hnobody u
  | @notify userIds type title message ticketId hnodup hmem htype hticket =>
    have husers : (newNotifications env userIds type title message ticketId).map (·.userId) =
        userIds := by
      refine List.ext_getElem? fun i => ?_
      simp [newNotifications, Function.comp_def]
    have htells : event.payload.Tells read.tickets
        (newNotifications env userIds type title message ticketId) := by
      refine ⟨husers.symm ▸ hnodup, fun u => by rw [husers, hmem], fun n hn => ?_⟩
      obtain ⟨i, hi, rfl⟩ := List.mem_mapIdx.mp hn
      exact ⟨htype, hticket.symm⟩
    cases hwrites with
    | none => exact ⟨[], htells, by simp, rfl⟩
    | notify hinsert _ => exact ⟨_, htells, (Table.insertAll?_eq_some hinsert).1, rfl⟩

/-- The ticket of the customer, which the agent has taken. -/
def takenTicket : Ticket :=
  ⟨140, "TKT-000001", "Cannot log in", "The dashboard returns a 500.", .inProgress, .medium, none,
    1, 13, some 12, 1, 4, none⟩

/-- The database with that ticket. -/
def takenDb : Db :=
  { Db.empty with
    organizations := Seed.organizations
    users := Seed.users
    tickets := ⟨[takenTicket], [], by decide⟩ }

/-- The event of a public comment of the agent. -/
def answeredEvent : DomainEvent :=
  ⟨250, .commentCreated, 2, none, .commentCreated ⟨240, 140, 1, 12, false⟩, rfl⟩

theorem recipients_exact_answered :
    ∃ db', (plan takenDb answeredEvent).exec (Seed.env 3) takenDb = .ok ((), db') ∧
      db'.notifications.rows.map (·.userId) = [13] ∧
      ∃ rows, answeredEvent.payload.Tells takenDb.tickets rows ∧
        db'.notifications.rows = takenDb.notifications.rows ++ rows ∧
        db' = { takenDb with notifications := db'.notifications } :=
  ⟨_, rfl, by decide, @recipients_exact answeredEvent (Seed.env 3) _ _ _ rfl⟩

end NotificationConsumer

end SupportPlatform
