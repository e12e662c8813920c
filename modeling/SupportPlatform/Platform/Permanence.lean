import SupportPlatform.Core.Revisions
import SupportPlatform.Platform.Tenancy

/-!
# What is recorded stays recorded

The writes of the services, the relay and the consumers change few columns. A comment is never
altered, a ticket never changes hands between organizations, creators or references, a notification
is never unread again, an audit row only loses references, a counter never goes down. No row goes
away but with the organization it belongs to, and an organization whose members have commented is
never removed.
-/

namespace SupportPlatform

def Organization.revision : Revision Organization := .keeping fun o => (o.id, o.createdAt)

def User.revision : Revision User :=
  .keeping fun u => (u.id, u.passwordHash, u.organizationId, u.createdAt)

/-- A ticket that has been closed keeps a `closedAt`, whatever becomes of its status. -/
def Ticket.revision : Revision Ticket :=
  (Revision.keeping fun t => (t.id, t.reference, t.organizationId, t.createdById, t.createdAt)).both
    (.growing fun t => t.closedAt.isSome)

def Comment.revision : Revision Comment := .keeping fun c => c

def Notification.revision : Revision Notification :=
  (Revision.keeping fun n =>
    (n.id, n.userId, n.type, n.title, n.message, n.ticketId, n.createdAt)).both
    (.growing fun n => (n.isRead, n.readAt.isSome))

def AuditLog.revision : Revision AuditLog :=
  (Revision.keeping fun a =>
    (a.id, a.action, a.entityType, a.entityId, a.metadata, a.correlationId, a.createdAt)).both
    ((Revision.fading (·.actorId)).both (.fading (·.organizationId)))

def TicketMetricDaily.revision : Revision TicketMetricDaily :=
  (Revision.keeping fun m => (m.organizationId, m.date)).both
    (.growing fun m => (m.ticketsCreated, m.ticketsClosed, m.ticketsAssigned))

def EventOutbox.revision : Revision EventOutbox := .keeping EventOutbox.content

def ProcessedEvent.revision : Revision ProcessedEvent := .keeping fun p => p

namespace Db

/-- Every record of `s` is in `t` too, unless what it belongs to has been removed. -/
structure Lasts (s t : Db) : Prop where
  organizations : s.organizations.Lasts Organization.revision
    (·.id ∈ t.organizations.retired) t.organizations
  users : s.users.Lasts User.revision (·.organizationId ∈ t.organizations.retired) t.users
  tickets : s.tickets.Lasts Ticket.revision (·.organizationId ∈ t.organizations.retired) t.tickets
  comments : s.comments.Lasts Comment.revision (fun _ => False) t.comments
  notifications : s.notifications.Lasts Notification.revision (·.userId ∈ t.users.retired)
    t.notifications
  auditLogs : s.auditLogs.Lasts AuditLog.revision (fun _ => False) t.auditLogs
  ticketMetrics : s.ticketMetrics.Lasts TicketMetricDaily.revision
    (·.organizationId ∈ t.organizations.retired) t.ticketMetrics
  outbox : s.outbox.Lasts EventOutbox.revision (fun _ => False) t.outbox
  processedEvents : s.processedEvents.Lasts ProcessedEvent.revision (fun _ => False)
    t.processedEvents

namespace Lasts

variable {s t u : Db}

@[refl] lemma refl (s : Db) : s.Lasts s :=
  ⟨.refl _ _ _, .refl _ _ _, .refl _ _ _, .refl _ _ _, .refl _ _ _, .refl _ _ _, .refl _ _ _,
    .refl _ _ _, .refl _ _ _⟩

lemma trans (h : s.Lasts t) (h' : t.Lasts u) : s.Lasts u where
  organizations := by
    refine h.organizations.trans h'.organizations (fun o ho => h'.organizations.retired _ ho) ?_
    rintro o p hop hp
    exact (Prod.mk.inj hop).1 ▸ hp
  users := by
    refine h.users.trans h'.users (fun _ ho => h'.organizations.retired _ ho) ?_
    rintro a b hab hb
    simp only [User.revision, Revision.keeping, Prod.mk.injEq] at hab
    exact hab.2.2.1 ▸ hb
  tickets := by
    refine h.tickets.trans h'.tickets (fun _ ho => h'.organizations.retired _ ho) ?_
    rintro a b ⟨hab, -⟩ hb
    simp only [Revision.keeping, Prod.mk.injEq] at hab
    exact hab.2.2.1 ▸ hb
  comments := h.comments.trans h'.comments (fun _ h => h) fun _ _ _ h => h
  notifications := by
    refine h.notifications.trans h'.notifications (fun _ hn => h'.users.retired _ hn) ?_
    rintro a b ⟨hab, -⟩ hb
    simp only [Revision.keeping, Prod.mk.injEq] at hab
    exact hab.2.1 ▸ hb
  auditLogs := h.auditLogs.trans h'.auditLogs (fun _ h => h) fun _ _ _ h => h
  ticketMetrics := by
    refine h.ticketMetrics.trans h'.ticketMetrics (fun _ ho => h'.organizations.retired _ ho) ?_
    rintro a b ⟨hab, -⟩ hb
    simp only [Revision.keeping, Prod.mk.injEq] at hab
    exact hab.1 ▸ hb
  outbox := h.outbox.trans h'.outbox (fun _ h => h) fun _ _ _ h => h
  processedEvents :=
    h.processedEvents.trans h'.processedEvents (fun _ h => h) fun _ _ _ h => h

lemma of_users {users : Table User}
    (h : s.users.Lasts User.revision (·.organizationId ∈ s.organizations.retired) users) :
    s.Lasts { s with users } :=
  ⟨.refl _ _ _, h, .refl _ _ _, .refl _ _ _, .refl _ _ _, .refl _ _ _, .refl _ _ _,
    .refl _ _ _, .refl _ _ _⟩

lemma of_organizations {organizations : Table Organization}
    (h : s.organizations.Lasts Organization.revision (·.id ∈ organizations.retired)
      organizations) : s.Lasts { s with organizations } :=
  ⟨h, .refl _ _ _, .refl _ _ _, .refl _ _ _, .refl _ _ _, .refl _ _ _, .refl _ _ _,
    .refl _ _ _, .refl _ _ _⟩

lemma of_notifications {notifications : Table Notification}
    (h : s.notifications.Lasts Notification.revision (·.userId ∈ s.users.retired)
      notifications) : s.Lasts { s with notifications } :=
  ⟨.refl _ _ _, .refl _ _ _, .refl _ _ _, .refl _ _ _, h, .refl _ _ _, .refl _ _ _,
    .refl _ _ _, .refl _ _ _⟩

lemma of_projections {auditLogs : Table AuditLog} {ticketMetrics : Table TicketMetricDaily}
    {processedEvents : Table ProcessedEvent}
    (ha : s.auditLogs.Lasts AuditLog.revision (fun _ => False) auditLogs)
    (hm : s.ticketMetrics.Lasts TicketMetricDaily.revision
      (·.organizationId ∈ s.organizations.retired) ticketMetrics)
    (hp : s.processedEvents.Lasts ProcessedEvent.revision (fun _ => False) processedEvents) :
    s.Lasts { s with auditLogs, ticketMetrics, processedEvents } :=
  ⟨.refl _ _ _, .refl _ _ _, .refl _ _ _, .refl _ _ _, .refl _ _ _, ha, hm, .refl _ _ _, hp⟩

lemma of_outbox {outbox : Table EventOutbox}
    (h : s.outbox.Lasts EventOutbox.revision (fun _ => False) outbox) :
    s.Lasts { s with outbox } :=
  ⟨.refl _ _ _, .refl _ _ _, .refl _ _ _, .refl _ _ _, .refl _ _ _, .refl _ _ _, .refl _ _ _, h,
    .refl _ _ _⟩

/-- A write to the tickets, or to the comments, together with the outbox rows it enqueues. -/
lemma of_enqueue {tickets : Table Ticket} {comments : Table Comment} {outbox : Table EventOutbox}
    {new : List EventOutbox}
    (ht : s.tickets.Lasts Ticket.revision (·.organizationId ∈ s.organizations.retired) tickets)
    (hc : s.comments.Lasts Comment.revision (fun _ => False) comments)
    (ho : outbox.rows = s.outbox.rows ++ new) (hr : outbox.retired = s.outbox.retired) :
    s.Lasts { s with tickets, comments, outbox } :=
  ⟨.refl _ _ _, .refl _ _ _, ht, hc, .refl _ _ _, .refl _ _ _, .refl _ _ _, .of_append ho hr,
    .refl _ _ _⟩

/-- The removal of an organization takes what belongs to it, and references to what it takes. -/
lemma dropOrganization {id : Uuid} (hid : (s.organizations.find? id).isSome)
    (hcomments : ∀ c ∈ s.comments.rows, s.ticketOrg c.ticketId ≠ some id) :
    s.Lasts (s.dropOrganization id) := by
  have hretired : id ∈ (s.dropOrganization id).organizations.retired :=
    (mem_retired_dropOrganization hid).mpr (.inl rfl)
  constructor
  case organizations =>
    refine .removeWhere _ fun o ho => ?_
    rwa [of_decide_eq_true ho]
  case users =>
    refine .removeWhere _ fun u hu => ?_
    rwa [of_decide_eq_true hu]
  case tickets =>
    have hremoved : s.tickets.Lasts Ticket.revision (·.organizationId = id)
        (s.tickets.removeWhere (·.organizationId = id)) :=
      .removeWhere _ fun t ht => of_decide_eq_true ht
    simp only [Db.dropOrganization]
    refine hremoved.trans ?_ ?_ ?_
    · exact .modifyWhere _ fun _ _ => ⟨rfl, le_rfl⟩
    · rintro t rfl
      exact hretired
    · rintro t t' ⟨htt', -⟩ ht'
      simp only [Revision.keeping, Prod.mk.injEq] at htt'
      exact htt'.2.2.1 ▸ ht'
  case comments =>
    refine ⟨fun _ hk => List.mem_append_right _ hk, fun c hc => .inr ⟨c, ?_, rfl⟩⟩
    exact List.mem_filter.mpr ⟨hc, by simpa using hcomments c hc⟩
  case notifications =>
    refine .removeWhere _ fun n hn => ?_
    exact (Table.mem_retired_removeWhere fun _ => rfl).mpr (.inl (of_decide_eq_true hn))
  case auditLogs =>
    have hactor : s.auditLogs.Lasts AuditLog.revision (fun _ => False)
        (s.auditLogs.modifyWhere (fun a => a.actorId.any fun u => s.userOrg u = some id)
          (fun a => { a with actorId := none }) fun _ => rfl) :=
      .modifyWhere _ fun _ _ => ⟨rfl, .inr rfl, .inl rfl⟩
    simp only [Db.dropOrganization]
    refine hactor.trans ?_ (fun _ h => h) fun _ _ _ h => h
    exact .modifyWhere _ fun _ _ => ⟨rfl, .inl rfl, .inr rfl⟩
  case ticketMetrics =>
    refine .removeWhere _ fun m hm => ?_
    rwa [of_decide_eq_true hm]
  case outbox => rfl
  case processedEvents => rfl

end Lasts

/-- An organization that can be removed has no ticket with a comment: its author would be one of its
users. -/
lemma ticketOrg_ne_of_restrictsDrop {db : Db} {id : Uuid} (hdb : db.Tenancy) (hlinked : db.Linked)
    (h : db.restrictsDrop id = false) {c : Comment} (hc : c ∈ db.comments.rows) :
    db.ticketOrg c.ticketId ≠ some id := by
  intro hticket
  obtain ⟨o, ht, hauthor⟩ := hdb.comments c hc
  obtain rfl : o = id := by
    obtain ⟨t, hmem, hid, horg⟩ := Table.column_eq_some.mp hticket
    exact (ht.2 t hmem hid).symm.trans horg
  have hmember : db.userOrg c.authorId = some o :=
    hauthor.column_eq (Table.find?_isSome.mp (hlinked.author c hc)).2
  rw [restrictsDrop, Bool.or_eq_false_iff] at h
  exact List.any_eq_false.mp h.2 c hc (decide_eq_true hmember)

end Db

/-! ### The writes -/

lemma User.revision_id {u v : User} (h : User.revision.allows u v) : v.id = u.id :=
  (Prod.mk.inj h).1

lemma Ticket.revision_id {t u : Ticket} (h : Ticket.revision.allows t u) : u.id = t.id :=
  (Prod.mk.inj h.1).1

/-- An update of a ticket can only set `closedAt`. -/
lemma Ticket.revision_apply (dto : UpdateTicketDto) (closedAt : Option Time) (now : Time)
    (t : Ticket) : Ticket.revision.allows t (t.apply dto closedAt now) := by
  refine ⟨rfl, ?_⟩
  cases closedAt with
  | none => exact le_of_eq (by rw [apply, Option.none_or])
  | some time => exact le_top

lemma Notification.revision_read (now : Time) (n : Notification) :
    Notification.revision.allows n (NotificationsService.read now n) :=
  ⟨rfl, le_top, le_top⟩

lemma TicketMetricDaily.revision_increment (field : MetricField) (m : TicketMetricDaily) :
    TicketMetricDaily.revision.allows m (m.increment field) := by
  cases field
  · exact ⟨rfl, Nat.le_succ _, le_rfl, le_rfl⟩
  · exact ⟨rfl, le_rfl, le_rfl, Nat.le_succ _⟩
  · exact ⟨rfl, le_rfl, Nat.le_succ _, le_rfl⟩

lemma Call.lasts {env : Env} {db db' : Db} {call call' : Call} (hdb : db.Tenancy)
    (hlinked : db.Linked) (h : exec env db call = (db', call')) : db.Lasts db' := by
  cases exec_cases h with
  | failed => exact .refl db
  | finished => exact .refl db
  | checked _ => exact .refl db
  | wrote hw =>
    cases hw with
    | registerInsert hi _ | usersInsert hi _ => exact .of_users (.of_insert? hi)
    | loginStamp | usersUpdate | usersDeactivate => exact .of_users (.modify _ fun _ => rfl)
    | organizationsCreate hi => exact .of_organizations (.of_insert? hi)
    | organizationsUpdate => exact .of_organizations (.modify _ fun _ => rfl)
    | organizationsRemove hrestrict _ =>
      exact .dropOrganization (removed_isSome h) fun c hc =>
        Db.ticketOrg_ne_of_restrictsDrop hdb hlinked hrestrict hc
    | ticketsCreate ht ho _ hr => exact .of_enqueue (.of_insert? ht) (.refl _ _ _) ho hr
    | ticketsUpdate _ ho hr =>
      exact .of_enqueue (.modify _ fun t => t.revision_apply _ _ _) (.refl _ _ _) ho hr
    | ticketsAssign _ ho _ hr =>
      exact .of_enqueue (.modify _ fun _ => ⟨rfl, le_rfl⟩) (.refl _ _ _) ho hr
    | commentsCreate hc ho _ hr => exact .of_enqueue (.refl _ _ _) (.of_insert? hc) ho hr
    | notificationsMarkRead =>
      exact .of_notifications (.modify _ fun n => n.revision_read env.now)
    | notificationsMarkAllRead =>
      exact .of_notifications (.modifyWhere _ fun n _ => n.revision_read env.now)

lemma Projection.Writes.lasts {env : Env} {db db' : Db} {p : Projection}
    (h : p.Writes env db db') : db.Lasts db' := by
  cases h with
  | skip => exact .refl db
  | none => exact .refl db
  | notify h _ => exact .of_notifications (.of_insertAll? h)
  | audit h => exact .of_projections (.of_insert? h) (.refl _ _ _) (.refl _ _ _)
  | increment h =>
    exact .of_projections (.refl _ _ _) (.modify _ fun m => m.revision_increment _) (.refl _ _ _)
  | start h => exact .of_projections (.refl _ _ _) (.of_insert? h) (.refl _ _ _)

lemma Delivery.Executes.lasts {db db' : Db} {broker broker' : Broker} {locked : Bool}
    {d : Delivery} {a : DeliveryAction} {d' : Option Delivery}
    (h : d.Executes db broker locked a db' broker' d') : db.Lasts db' := by
  cases h with
  | committed _ _ hrow hwrite =>
    exact .trans (.of_projections (.refl _ _ _) (.refl _ _ _) (.of_insert? hrow)) hwrite.lasts
  | _ => exact .refl db

lemma OutboxRelayService.Steps.lasts {cfg : Config} {db db' : Db} {broker broker' : Broker}
    {p p' : RelayProcess} (h : Steps cfg db broker p db' broker' p') : db.Lasts db' := by
  cases h with
  | idle _ => exact .refl db
  | advanced _ h _ =>
    cases h with
    | updated hcontent _ => exact .of_outbox (.modify _ hcontent)
    | _ => exact .refl db

namespace World

variable {cfg : Config} {w w' : World} {e : Event}

lemma step_lasts (hdb : w.db.Tenancy) (hlinked : w.db.Linked) (h : step cfg w e = some w') :
    w.db.Lasts w'.db := by
  cases step_cases h with
  | proceed _ _ =>
    obtain ⟨c, -, hw'⟩ := Option.map_eq_some_iff.mp h
    exact congrArg World.db hw' ▸ Call.lasts hdb hlinked (Prod.ext rfl rfl)
  | relay _ hs => exact hs.lasts
  | consume _ hs => exact hs.lasts
  | finish _ hs => exact hs.lasts
  | _ => exact .refl w.db

/-- What has been recorded by a reachable state is there in every later one. -/
lemma lasts_of_exec {organizations : Table Organization} {users : Table User} {n : Nat}
    {es es' : List Event} (h : Machine.exec (step cfg) (initial organizations users n) es = some w)
    (h' : Machine.exec (step cfg) w es' = some w') : w.db.Lasts w'.db := by
  induction es' generalizing w es with
  | nil =>
    cases h'
    exact .refl _
  | cons e es' ih =>
    obtain ⟨v, hv, hw'⟩ := (Machine.exec_cons_eq_some (step cfg)).mp h'
    have hreached : Machine.exec (step cfg) (initial organizations users n) (es ++ [e]) = some v :=
      (Machine.exec_append (step cfg)).mpr
        ⟨w, h, (Machine.exec_cons_eq_some (step cfg)).mpr ⟨v, hv, rfl⟩⟩
    exact (step_lasts (tenancy_of_exec h).db (linked_of_exec h) hv).trans (ih hreached hw')

/-- From any reachable state on, whatever happens, the records stay. A comment is there for ever,
word for word, and a notification, read or not, unless the organization of its recipient is removed;
the other tables are as `Db.Lasts` tells. -/
theorem records_last {organizations : Table Organization} {users : Table User} {n : Nat}
    {es es' : List Event} (h : Machine.exec (step cfg) (initial organizations users n) es = some w)
    (h' : Machine.exec (step cfg) w es' = some w') :
    w.db.Lasts w'.db ∧ (∀ c ∈ w.db.comments.rows, c ∈ w'.db.comments.rows) ∧
      ∀ a ∈ w.db.notifications.rows, (∃ b ∈ w'.db.notifications.rows,
        Notification.revision.allows a b) ∨
          ∃ o ∈ w.db.userOrg a.userId, o ∈ w'.db.organizations.retired := by
  have hlasts := lasts_of_exec h h'
  have hlinked := linked_of_exec h
  refine ⟨hlasts, fun c hc => ?_, fun a ha => ?_⟩
  · obtain ⟨d, hd, hcd⟩ := (hlasts.comments.row c hc).resolve_left id
    obtain rfl : d = c := hcd
    exact hd
  · refine (hlasts.notifications.row a ha).symm.imp_right fun hgone => ?_
    obtain ⟨u, hu⟩ := Option.isSome_iff_exists.mp (hlinked.recipient a ha)
    obtain ⟨hu, hid⟩ := Table.find?_eq_some.mp hu
    refine ⟨u.organizationId, Table.column_eq_some.mpr ⟨u, hu, hid, rfl⟩, ?_⟩
    exact hlasts.users.gone_of_retired User.revision_id hu (hid ▸ hgone)

/-- The agent comments on a ticket of the customer. -/
def commentedRun : List Event :=
  [.arrive (some 13) none (.createTicket Seed.ticketDto), .proceed 0 (Seed.env 1),
    .arrive (some 12) none (.createComment 140 ⟨"Which browser?", .undefined⟩),
    .proceed 1 (Seed.env 2), .proceed 1 (Seed.env 3)]

/-- Later the agent closes the ticket, and the admin tries to remove the organization. -/
def closedAndRefusedRun : List Event :=
  [.arrive (some 12) none (.updateTicket 140 Seed.closeDto), .proceed 2 (Seed.env 4),
    .proceed 2 (Seed.env 5), .arrive (some 11) none (.removeOrganization 1),
    .proceed 3 (Seed.env 6), .proceed 3 (Seed.env 7)]

theorem records_last_refused :
    ∃ w w', Machine.exec (step .default) (initial Seed.organizations Seed.users 1) commentedRun =
        some w ∧ Machine.exec (step .default) w closedAndRefusedRun = some w' ∧
      w.db.comments.rows.length = 1 ∧
      w'.calls[3]?.map (·.call) = some (.done (.error (.prisma .foreignKeyViolation))) ∧
      w.db.Lasts w'.db ∧ (∀ c ∈ w.db.comments.rows, c ∈ w'.db.comments.rows) ∧
      ∀ a ∈ w.db.notifications.rows, (∃ b ∈ w'.db.notifications.rows,
        Notification.revision.allows a b) ∨
          ∃ o ∈ w.db.userOrg a.userId, o ∈ w'.db.organizations.retired := by
  have hrun : (Machine.exec (step .default) (initial Seed.organizations Seed.users 1)
      commentedRun).any fun w => w.db.comments.rows.length = 1 ∧
        (Machine.exec (step .default) w closedAndRefusedRun).any fun w' =>
          w'.calls[3]?.map (·.call) =
            some (.done (.error (.prisma .foreignKeyViolation))) := by decide
  obtain ⟨w, hw, hlength, hrun'⟩ := Machine.exists_of_any hrun
  obtain ⟨w', hw', hrefused⟩ := Machine.exists_of_any hrun'
  exact ⟨w, w', hw, hw', hlength, hrefused, records_last hw hw'⟩

end World

end SupportPlatform
