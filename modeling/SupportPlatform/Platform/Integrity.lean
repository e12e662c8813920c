import SupportPlatform.Platform.World

/-!
# Referential integrity

The foreign keys between users, tickets, comments and notifications. Each write has the keys it
sets checked, and the removal of an organization cascades, sets null or is refused, so in every
reachable state the rows referred to are there.
-/

namespace SupportPlatform

namespace Db

/-- Every reference to a user or a ticket is to a row that is there. -/
structure Linked (db : Db) : Prop where
  creator : ∀ t ∈ db.tickets.rows, (db.users.find? t.createdById).isSome
  assignee : ∀ t ∈ db.tickets.rows, ∀ u ∈ t.assignedToId, (db.users.find? u).isSome
  ticket : ∀ c ∈ db.comments.rows, (db.tickets.find? c.ticketId).isSome
  author : ∀ c ∈ db.comments.rows, (db.users.find? c.authorId).isSome
  recipient : ∀ n ∈ db.notifications.rows, (db.users.find? n.userId).isSome

/-- A ticket left by the removal of an organization is of another one, and has an assignee only if
that user is left too. -/
lemma mem_tickets_dropOrganization {db : Db} {id : Uuid} {t : Ticket}
    (ht : t ∈ (db.dropOrganization id).tickets.rows) :
    ∃ a ∈ db.tickets.rows, a.organizationId ≠ id ∧
      t = { a with assignedToId := t.assignedToId } ∧
      ∀ u ∈ t.assignedToId, u ∈ a.assignedToId ∧ db.userOrg u ≠ some id := by
  obtain ⟨a, hmem, rfl⟩ := List.mem_map.mp ht
  obtain ⟨hmem, horg⟩ := List.mem_filter.mp hmem
  refine ⟨a, hmem, by simpa using horg, ?_⟩
  split
  · exact ⟨rfl, fun u hu => by cases hu⟩
  · next hany =>
    refine ⟨rfl, fun u hu => ⟨hu, fun hid => hany ?_⟩⟩
    simp [Option.mem_def.mp hu, hid]

namespace Linked

variable {db : Db}

lemma of_users {users : Table User} (h : db.Linked)
    (hkeep : ∀ id, (db.users.find? id).isSome → (users.find? id).isSome) :
    ({ db with users } : Db).Linked where
  creator t ht := hkeep _ (h.creator t ht)
  assignee t ht u hu := hkeep u (h.assignee t ht u hu)
  ticket := h.ticket
  author c hc := hkeep _ (h.author c hc)
  recipient n hn := hkeep _ (h.recipient n hn)

lemma modifyUsers {p : User → Bool} {f : User → User} {hf : ∀ u, (f u).id = u.id}
    (h : db.Linked) : ({ db with users := db.users.modifyWhere p f hf } : Db).Linked :=
  h.of_users fun _ hid => by rwa [Table.find?_isSome_modifyWhere]

lemma of_tickets {tickets : Table Ticket} {outbox : Table EventOutbox} (h : db.Linked)
    (hkeep : ∀ id, (db.tickets.find? id).isSome → (tickets.find? id).isSome)
    (hrows : ∀ t ∈ tickets.rows, (db.users.find? t.createdById).isSome ∧
      ∀ u ∈ t.assignedToId, (db.users.find? u).isSome) :
    ({ db with tickets, outbox } : Db).Linked where
  creator t ht := (hrows t ht).1
  assignee t ht := (hrows t ht).2
  ticket c hc := hkeep _ (h.ticket c hc)
  author := h.author
  recipient := h.recipient

lemma of_notifications {notifications : Table Notification} (h : db.Linked)
    (hrows : ∀ n ∈ notifications.rows, (db.users.find? n.userId).isSome) :
    ({ db with notifications } : Db).Linked :=
  ⟨h.creator, h.assignee, h.ticket, h.author, hrows⟩

/-- A rewriting of tickets that gives them at most a new assignee, who is there. -/
lemma modifyTickets {p : Ticket → Bool} {f : Ticket → Ticket} {hf : ∀ t, (f t).id = t.id}
    {outbox : Table EventOutbox} (h : db.Linked)
    (hcreator : ∀ t, (f t).createdById = t.createdById)
    (hassignee : ∀ t, (f t).assignedToId = t.assignedToId ∨
      ∀ u ∈ (f t).assignedToId, (db.users.find? u).isSome) :
    ({ db with tickets := db.tickets.modifyWhere p f hf, outbox } : Db).Linked := by
  refine h.of_tickets (fun id hid => by rwa [Table.find?_isSome_modifyWhere]) fun t ht => ?_
  obtain ⟨t, hmem, rfl⟩ := Table.mem_modifyWhere.mp ht
  split
  · refine ⟨hcreator t ▸ h.creator t hmem, ?_⟩
    rcases hassignee t with heq | hu
    · exact heq ▸ h.assignee t hmem
    · exact hu
  · exact ⟨h.creator t hmem, h.assignee t hmem⟩

lemma modifyNotifications {p : Notification → Bool} {f : Notification → Notification}
    {hf : ∀ n, (f n).id = n.id} (h : db.Linked) (huser : ∀ n, (f n).userId = n.userId) :
    ({ db with notifications := db.notifications.modifyWhere p f hf } : Db).Linked := by
  refine h.of_notifications fun n hn => ?_
  obtain ⟨n, hmem, rfl⟩ := Table.mem_modifyWhere.mp hn
  split
  · exact huser n ▸ h.recipient n hmem
  · exact h.recipient n hmem

/-- The removal of an organization leaves no dangling reference: what it does not cascade to it
sets null, and it is refused where neither is possible. -/
lemma dropOrganization {id : Uuid} (h : db.Linked) (hrestrict : db.restrictsDrop id = false) :
    (db.dropOrganization id).Linked := by
  have keepUser : ∀ u, (db.users.find? u).isSome → db.userOrg u ≠ some id →
      ((db.dropOrganization id).users.find? u).isSome :=
    fun u hu hne => Table.find?_isSome_removeWhere (fun _ => rfl) hu hne
  simp only [restrictsDrop, Bool.or_eq_false_iff, List.any_eq_false, decide_eq_true_eq,
    not_and] at hrestrict
  constructor
  case creator =>
    intro t ht
    obtain ⟨a, hmem, horg, heq, -⟩ := mem_tickets_dropOrganization ht
    rw [heq]
    exact keepUser _ (h.creator a hmem) (hrestrict.1 a hmem horg)
  case assignee =>
    intro t ht u hu
    obtain ⟨a, hmem, -, -, hassignee⟩ := mem_tickets_dropOrganization ht
    exact keepUser u (h.assignee a hmem u (hassignee u hu).1) (hassignee u hu).2
  case ticket =>
    intro c hc
    obtain ⟨hmem, horg⟩ := List.mem_filter.mp hc
    have hne : db.ticketOrg c.ticketId ≠ some id := by simpa using horg
    simp only [Db.dropOrganization, Table.find?_isSome_modifyWhere]
    exact Table.find?_isSome_removeWhere (fun _ => rfl) (h.ticket c hmem) hne
  case author =>
    intro c hc
    have hmem := List.mem_of_mem_filter hc
    exact keepUser _ (h.author c hmem) (hrestrict.2 c hmem)
  case recipient =>
    intro n hn
    obtain ⟨hmem, horg⟩ := List.mem_filter.mp hn
    exact keepUser _ (h.recipient n hmem) (by simpa using horg)

end Linked

end Db

lemma Call.Writes.linked {env : Env} {db db' : Db} {call : Call} (h : Call.Writes env db call db')
    (hdb : db.Linked) : db'.Linked := by
  cases h with
  | registerInsert h _ => exact hdb.of_users fun _ => Table.find?_isSome_insert? h
  | loginStamp => exact hdb.modifyUsers
  | organizationsRemove h _ => exact hdb.dropOrganization h
  | usersInsert h _ => exact hdb.of_users fun _ => Table.find?_isSome_insert? h
  | usersUpdate => exact hdb.modifyUsers
  | usersDeactivate => exact hdb.modifyUsers
  | ticketsCreate ht _ hlink =>
    refine hdb.of_tickets (fun _ => Table.find?_isSome_insert? ht) fun t hmem => ?_
    rcases (Table.mem_insert? ht).mp hmem with hmem | rfl
    · exact ⟨hdb.creator t hmem, hdb.assignee t hmem⟩
    · exact ⟨hlink, fun u hu => by cases hu⟩
  | ticketsUpdate _ _ => exact hdb.modifyTickets (fun _ => rfl) fun _ => .inl rfl
  | ticketsAssign _ _ hlink =>
    refine hdb.modifyTickets (fun _ => rfl) fun t => .inr fun u hu => ?_
    cases hu
    exact hlink
  | commentsCreate hc _ hlink =>
    refine ⟨hdb.creator, hdb.assignee, fun c hmem => ?_, fun c hmem => ?_, hdb.recipient⟩
    · rcases (Table.mem_insert? hc).mp hmem with hmem | rfl
      · exact hdb.ticket c hmem
      · exact hlink.1
    · rcases (Table.mem_insert? hc).mp hmem with hmem | rfl
      · exact hdb.author c hmem
      · exact hlink.2
  | notificationsMarkRead => exact hdb.modifyNotifications fun _ => rfl
  | notificationsMarkAllRead => exact hdb.modifyNotifications fun _ => rfl
  | _ => exact ⟨hdb.creator, hdb.assignee, hdb.ticket, hdb.author, hdb.recipient⟩

lemma Call.Executes.linked {env : Env} {db db' : Db} {call call' : Call}
    (h : Call.Executes env db call db' call') (hdb : db.Linked) : db'.Linked := by
  cases h with
  | wrote h => exact h.linked hdb
  | _ => exact hdb

lemma Projection.Writes.linked {env : Env} {db db' : Db} {p : Projection}
    (h : p.Writes env db db') (hdb : db.Linked) : db'.Linked := by
  cases h with
  | notify h hlink =>
    refine hdb.of_notifications fun n hn => ?_
    rw [(Table.insertAll?_eq_some h).1] at hn
    rcases List.mem_append.mp hn with hn | hn
    · exact hdb.recipient n hn
    · obtain ⟨i, hi, rfl⟩ := List.mem_mapIdx.mp hn
      exact hlink _ (List.getElem_mem hi)
  | _ => exact ⟨hdb.creator, hdb.assignee, hdb.ticket, hdb.author, hdb.recipient⟩

lemma Delivery.Executes.linked {db db' : Db} {broker broker' : Broker} {locked : Bool}
    {d : Delivery} {a : DeliveryAction} {d' : Option Delivery}
    (h : d.Executes db broker locked a db' broker' d') (hdb : db.Linked) : db'.Linked := by
  cases h with
  | committed _ _ _ hwrite =>
    exact hwrite.linked ⟨hdb.creator, hdb.assignee, hdb.ticket, hdb.author, hdb.recipient⟩
  | _ => exact hdb

namespace World

variable {cfg : Config} {w w' : World} {e : Event}

lemma Steps.linked (h : Steps cfg w e w') (hw : w.db.Linked) : w'.db.Linked := by
  cases h with
  | proceed _ h => exact h.linked hw
  | relay _ h =>
    rw [h.frame]
    exact ⟨hw.creator, hw.assignee, hw.ticket, hw.author, hw.recipient⟩
  | consume _ h => exact h.linked hw
  | finish _ h => exact h.linked hw
  | _ => exact hw

/-- In every reachable state, removals included, the references are to rows that are there. -/
theorem linked_of_exec {organizations : Table Organization} {users : Table User} {n : Nat}
    {es : List Event} (h : Machine.exec (step cfg) (initial organizations users n) es = some w) :
    w.db.Linked := by
  refine Machine.exec_invariant (step cfg) (I := fun w => w.db.Linked)
    (fun _ _ _ hw h => (step_cases h).linked hw) ?_ h
  constructor <;> intro _ h <;> cases h

end World

end SupportPlatform
