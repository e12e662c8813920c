import SupportPlatform.Platform.Integrity
import SupportPlatform.Platform.Lineage
import SupportPlatform.Platform.Scoping

/-!
# Tenant consistency

No constraint of the database ties the organizations of a ticket, its people, its comments, its
events and its notifications together. They agree all the same: the API checks an id once and the
worker notifies much later, but what an id names in the column `organizationId` never changes.
-/

namespace SupportPlatform

/-- The users a payload makes recipients of a notification by itself. -/
def Payload.recipients : Payload → List Uuid
  | .ticketCreated p => p.createdById :: p.assignedToId.toList
  | .ticketAssigned p => [p.assignedToId]
  | _ => []

namespace Db

/-- The creator and the assignee belong to the organization of the ticket. -/
def TicketScoped (db : Db) (t : Ticket) : Prop :=
  db.UserIn t.createdById t.organizationId ∧ ∀ u ∈ t.assignedToId, db.UserIn u t.organizationId

/-- The author belongs to the organization of the ticket. -/
def CommentScoped (db : Db) (c : Comment) : Prop :=
  ∃ o, db.TicketIn c.ticketId o ∧ db.UserIn c.authorId o

/-- The payload names a ticket with its organization, and recipients of that organization. -/
def PayloadScoped (db : Db) (p : Payload) : Prop :=
  ∃ id o, p.ticketId? = some id ∧ p.organizationId? = some o ∧ db.TicketIn id o ∧
    ∀ u ∈ p.recipients, db.UserIn u o

/-- The recipient belongs to the organization of the ticket the notification names. -/
def NotificationScoped (db : Db) (n : Notification) : Prop :=
  ∃ id o, n.ticketId = some id ∧ db.TicketIn id o ∧ db.UserIn n.userId o

/-- The users a projection is about to notify belong to the organization of the ticket. -/
def ProjectionScoped (db : Db) : Projection → Prop
  | .notify userIds _ _ _ ticketId => ∃ o, db.TicketIn ticketId o ∧ ∀ u ∈ userIds, db.UserIn u o
  | _ => True

/-- The organizations of the domain agree. -/
structure Tenancy (db : Db) : Prop where
  tickets : ∀ t ∈ db.tickets.rows, db.TicketScoped t
  comments : ∀ c ∈ db.comments.rows, db.CommentScoped c
  log : ∀ x ∈ db.log, db.PayloadScoped x.2.1
  notifications : ∀ n ∈ db.notifications.rows, db.NotificationScoped n

section Mono

variable {db db' : Db} (h : db.Evolves db')
include h

lemma TicketScoped.mono {t : Ticket} (ht : db.TicketScoped t) : db'.TicketScoped t :=
  ⟨h.userIn ht.1, fun u hu => h.userIn (ht.2 u hu)⟩

lemma CommentScoped.mono {c : Comment} (hc : db.CommentScoped c) : db'.CommentScoped c := by
  obtain ⟨o, ht, hu⟩ := hc
  exact ⟨o, h.ticketIn ht, h.userIn hu⟩

lemma PayloadScoped.mono {p : Payload} (hp : db.PayloadScoped p) : db'.PayloadScoped p := by
  obtain ⟨id, o, hid, ho, ht, hu⟩ := hp
  exact ⟨id, o, hid, ho, h.ticketIn ht, fun u hmem => h.userIn (hu u hmem)⟩

lemma NotificationScoped.mono {n : Notification} (hn : db.NotificationScoped n) :
    db'.NotificationScoped n := by
  obtain ⟨id, o, hid, ht, hu⟩ := hn
  exact ⟨id, o, hid, h.ticketIn ht, h.userIn hu⟩

lemma ProjectionScoped.mono {p : Projection} (hp : db.ProjectionScoped p) :
    db'.ProjectionScoped p := by
  cases p with
  | notify userIds type title message ticketId =>
    obtain ⟨o, ht, hu⟩ := hp
    exact ⟨o, h.ticketIn ht, fun u hmem => h.userIn (hu u hmem)⟩
  | _ => trivial

/-- Rows that were there stay consistent, so only new and changed rows have to be looked at. -/
lemma Tenancy.of_rows (hdb : db.Tenancy)
    (ht : ∀ t ∈ db'.tickets.rows, t ∈ db.tickets.rows ∨ db'.TicketScoped t)
    (hc : ∀ c ∈ db'.comments.rows, c ∈ db.comments.rows ∨ db'.CommentScoped c)
    (hl : ∀ x ∈ db'.log, x ∈ db.log ∨ db'.PayloadScoped x.2.1)
    (hn : ∀ n ∈ db'.notifications.rows, n ∈ db.notifications.rows ∨ db'.NotificationScoped n) :
    db'.Tenancy where
  tickets t hmem := (ht t hmem).elim (fun hmem => (hdb.tickets t hmem).mono h) id
  comments c hmem := (hc c hmem).elim (fun hmem => (hdb.comments c hmem).mono h) id
  log x hmem := (hl x hmem).elim (fun hmem => (hdb.log x hmem).mono h) id
  notifications n hmem := (hn n hmem).elim (fun hmem => (hdb.notifications n hmem).mono h) id

end Mono

/-! ### Facts about a consistent database -/

section Facts

variable {db db' : Db} {t : Ticket} {id o : Uuid}

lemma ticketIn_of_mem (h : t ∈ db.tickets.rows) : db.TicketIn t.id t.organizationId :=
  Table.names_of_mem Ticket.organizationId h

lemma organizationId_of_find? (h : db.TicketIn id o) (ht : db.tickets.find? id = some t) :
    t.organizationId = o := by
  obtain ⟨hmem, hid⟩ := Table.find?_eq_some.mp ht
  exact h.2 t hmem hid

/-- The people of a ticket belong to the organization the id of the ticket names. -/
lemma Tenancy.people (hdb : db.Tenancy) (h : db.TicketIn id o)
    (ht : db.tickets.find? id = some t) {u : Uuid}
    (hu : some u ∈ [some t.createdById, t.assignedToId]) : db.UserIn u o := by
  have hscoped := hdb.tickets t (Table.find?_eq_some.mp ht).1
  rw [← organizationId_of_find? h ht]
  rcases List.mem_cons.mp hu with heq | hu
  · cases heq
    exact hscoped.1
  · exact hscoped.2 u (List.mem_singleton.mp hu).symm

/-- What a consumer plans for a consistent payload notifies users of the organization of the
ticket: either the payload names them or the ticket does. -/
lemma Tenancy.plan (hdb : db.Tenancy) {event : DomainEvent} (h : db.PayloadScoped event.payload)
    (env : Env) (c : Consumer) : db.ProjectionScoped (c.plan env db event) := by
  obtain ⟨id, o, hid, -, hticket, hrecipients⟩ := h
  cases c with
  | audit =>
    simp only [Consumer.plan, AuditConsumer.plan]
    split <;> trivial
  | analytics =>
    simp only [Consumer.plan, AnalyticsConsumer.plan]
    split <;> trivial
  | notification =>
    simp only [Consumer.plan, NotificationConsumer.plan]
    cases hp : event.payload with
    | notificationCreated => trivial
    | ticketCreated p =>
      rw [hp] at hid hrecipients
      cases hid
      refine ⟨o, hticket, fun u hu => hrecipients u ?_⟩
      simpa [Payload.recipients, eq_comm] using hu
    | ticketAssigned p =>
      rw [hp] at hid hrecipients
      cases hid
      refine ⟨o, hticket, fun u hu => hrecipients u ?_⟩
      simpa [Payload.recipients] using (List.mem_filter.mp hu).1
    | ticketUpdated p | ticketClosed p =>
      rw [hp] at hid
      cases hid
      dsimp only
      split
      · trivial
      · next t ht =>
        refine ⟨o, hticket, fun u hu => hdb.people hticket ht ?_⟩
        exact NotificationConsumer.mem_unique.mp (List.mem_filter.mp hu).1
    | commentCreated p =>
      rw [hp] at hid
      cases hid
      dsimp only
      split
      · trivial
      · next t ht =>
        refine ⟨o, hticket, fun u hu => hdb.people hticket ht ?_⟩
        have hu := NotificationConsumer.mem_unique.mp (List.mem_filter.mp hu).1
        split at hu
        · exact List.mem_cons_of_mem _ hu
        · exact hu

end Facts

end Db

/-! ### One step -/

section Writes

variable {env : Env} {db db' : Db} {o : Uuid}

lemma Db.payloadScoped_of_append {rows : List EventOutbox}
    (ho : db'.outbox.rows = db.outbox.rows ++ rows)
    (h : ∀ r ∈ rows, db'.PayloadScoped r.payload) :
    ∀ x ∈ db'.log, x ∈ db.log ∨ db'.PayloadScoped x.2.1 := by
  intro x hx
  rw [Db.log, Db.log_of_append ho] at hx
  rcases List.mem_append.mp hx with hx | hx
  · exact .inl hx
  · obtain ⟨r, hr, rfl⟩ := List.mem_map.mp hx
    exact .inr (h r hr)

lemma Call.Writes.tenancy {call : Call} (h : Call.Writes env db call db')
    (hcall : call.Scoped db o) (hdb : db.Tenancy) : db'.Tenancy := by
  have hev := h.evolves
  have old {α : Type} {P : α → Prop} {l : List α} : ∀ a ∈ l, a ∈ l ∨ P a := fun _ => .inl
  cases h with
  | organizationsRemove _ _ =>
    refine hdb.of_rows hev (fun t ht => ?_) (fun c hc => .inl (List.mem_of_mem_filter hc)) old
      fun n hn => .inl (List.mem_of_mem_filter hn)
    obtain ⟨a, hmem, -, heq, hassignee⟩ := Db.mem_tickets_dropOrganization ht
    have hscoped := (hdb.tickets a hmem).mono hev
    rw [heq]
    exact .inr ⟨hscoped.1, fun u hu => hscoped.2 u (hassignee u hu).1⟩
  | ticketsCreate ht ho _ =>
    have hactor := hev.userIn hcall.2
    obtain ⟨rfl, -⟩ := hcall
    refine hdb.of_rows hev (fun t hmem => ?_) old (Db.payloadScoped_of_append ho fun r hr => ?_) old
    · rcases (Table.mem_insert? ht).mp hmem with hmem | rfl
      · exact .inl hmem
      · exact .inr ⟨hactor, fun u hu => by cases hu⟩
    · obtain rfl := List.mem_singleton.mp hr
      refine ⟨_, _, rfl, rfl, Db.ticketIn_of_mem ((Table.mem_insert? ht).mpr (.inr rfl)), ?_⟩
      intro u hu
      obtain rfl := List.mem_singleton.mp hu
      exact hactor
  | @ticketsUpdate _ _ _ _ _ t _ ht ho =>
    have hticket := hev.ticketIn (Db.ticketIn_of_mem (Table.find?_eq_some.mp ht).1)
    refine hdb.of_rows hev (fun t' hmem => ?_) old
      (Db.payloadScoped_of_append ho fun r hr => ?_) old
    · obtain ⟨a, ha, rfl⟩ := List.mem_map.mp hmem
      have hscoped := (hdb.tickets a ha).mono hev
      split <;> exact .inr hscoped
    · rcases List.mem_cons.mp hr with rfl | hr
      · exact ⟨_, _, rfl, rfl, hticket, fun u hu => by cases hu⟩
      · split at hr
        · obtain rfl := List.mem_singleton.mp hr
          exact ⟨_, _, rfl, rfl, hticket, fun u hu => by cases hu⟩
        · cases hr
  | @ticketsAssign _ _ dto _ t _ ht ho _ =>
    obtain ⟨-, hin, hassignee⟩ := hcall
    have hassignee := hev.userIn hassignee
    have horg := Db.organizationId_of_find? hin ht
    refine hdb.of_rows hev (fun t' hmem => ?_) old
      (Db.payloadScoped_of_append ho fun r hr => ?_) old
    · obtain ⟨a, ha, rfl⟩ := List.mem_map.mp hmem
      split
      · next hkey =>
        refine .inr ⟨((hdb.tickets a ha).mono hev).1, fun u hu => ?_⟩
        cases hu
        exact hin.2 a ha (by simpa using hkey) ▸ hassignee
      · exact .inl ha
    · obtain rfl := List.mem_singleton.mp hr
      have hticket := hev.ticketIn (Db.ticketIn_of_mem (Table.find?_eq_some.mp ht).1)
      refine ⟨_, _, rfl, rfl, hticket, fun u hu => ?_⟩
      obtain rfl := List.mem_singleton.mp hu
      exact horg ▸ hassignee
  | commentsCreate hc ho _ =>
    have hticket := hev.ticketIn hcall.2
    have hauthor := hev.userIn hcall.1.2
    obtain ⟨⟨rfl, -⟩, -⟩ := hcall
    refine hdb.of_rows hev old (fun c hmem => ?_)
      (Db.payloadScoped_of_append ho fun r hr => ?_) old
    · rcases (Table.mem_insert? hc).mp hmem with hmem | rfl
      · exact .inl hmem
      · exact .inr ⟨_, hticket, hauthor⟩
    · obtain rfl := List.mem_singleton.mp hr
      exact ⟨_, _, rfl, rfl, hticket, fun u hu => by cases hu⟩
  | notificationsMarkRead | notificationsMarkAllRead =>
    refine hdb.of_rows hev old old old fun n hmem => ?_
    obtain ⟨a, ha, rfl⟩ := List.mem_map.mp hmem
    have hscoped := (hdb.notifications a ha).mono hev
    split <;> exact .inr hscoped
  | _ => exact hdb.of_rows hev old old old old

lemma Call.Executes.tenancy {call call' : Call} (h : Call.Executes env db call db' call')
    (hcall : call.Scoped db o) (hdb : db.Tenancy) : db'.Tenancy := by
  cases h with
  | wrote h => exact h.tenancy hcall hdb
  | _ => exact hdb

lemma OutboxRelayService.Steps.tenancy {cfg : Config} {broker broker' : Broker}
    {p p' : RelayProcess} (h : Steps cfg db broker p db' broker' p') (hdb : db.Tenancy) :
    db'.Tenancy := by
  refine hdb.of_rows h.evolves ?_ ?_ (fun x hx => .inl (h.log ▸ hx)) ?_ <;> rw [h.frame] <;>
    exact fun _ => .inl

lemma Projection.Writes.tenancy {p : Projection} (h : p.Writes env db db')
    (hp : db.ProjectionScoped p) (hdb : db.Tenancy) : db'.Tenancy := by
  have hev := h.evolves
  have old {α : Type} {P : α → Prop} {l : List α} : ∀ a ∈ l, a ∈ l ∨ P a := fun _ => .inl
  cases h with
  | notify h _ =>
    refine hdb.of_rows hev old old old fun n hn => ?_
    rw [(Table.insertAll?_eq_some h).1] at hn
    rcases List.mem_append.mp hn with hn | hn
    · exact .inl hn
    · obtain ⟨i, hi, rfl⟩ := List.mem_mapIdx.mp hn
      obtain ⟨o, ht, hu⟩ := hp
      exact .inr ⟨_, o, rfl, hev.ticketIn ht, hev.userIn (hu _ (List.getElem_mem hi))⟩
  | _ => exact hdb.of_rows hev old old old old

lemma Delivery.Executes.tenancy {broker broker' : Broker} {locked : Bool} {d : Delivery}
    {a : DeliveryAction} {d' : Option Delivery}
    (h : d.Executes db broker locked a db' broker' d')
    (hp : ∀ p, d.phase = .planned p → db.ProjectionScoped p) (hdb : db.Tenancy) :
    db'.Tenancy := by
  cases h with
  | committed hphase _ _ hwrite =>
    have hscoped := hp _ hphase
    exact hwrite.tenancy hscoped ⟨hdb.tickets, hdb.comments, hdb.log, hdb.notifications⟩
  | _ => exact hdb

end Writes

/-- Only a removal takes tickets away. -/
lemma Call.Executes.retired {env : Env} {db db' : Db} {call call' : Call}
    (h : Call.Executes env db call db' call') (hcall : call.isRemoval = false) :
    db'.tickets.retired = db.tickets.retired := by
  cases h with
  | wrote h =>
    cases h with
    | organizationsRemove _ _ => cases hcall
    | ticketsCreate ht _ _ => exact (Table.insert?_eq_some.mp ht).2.2
    | _ => rfl
  | _ => rfl

namespace World

open Machine

variable {cfg : Config} {w w' : World} {e : Event}

/-- The domain is consistent, and so are the notifications about to be written. -/
structure Tenancy (w : World) : Prop where
  db : w.db.Tenancy
  planned : ∀ d ∈ w.deliveries, ∀ p, d.phase = .planned p → w.db.ProjectionScoped p

lemma tenancy_initial (organizations : Table Organization) (users : Table User) (n : Nat) :
    (initial organizations users n).Tenancy := by
  refine ⟨⟨?_, ?_, ?_, ?_⟩, ?_⟩ <;> intro _ h <;> cases h

/-- A call, whether of a user or not, is scoped to some organization. -/
lemma Scoped.call (hw : w.Scoped) {c : InFlight} (hc : c ∈ w.calls) :
    ∃ o, c.call.Scoped w.db o := by
  have hscoped := hw c hc
  obtain ⟨_ | user, call⟩ := c
  · refine ⟨0, ?_⟩
    cases call <;> trivial
  · exact ⟨_, hscoped⟩

theorem Steps.tenancy (h : Steps cfg w e w') (hcalls : w.Scoped) (hsourced : w.Sourced)
    (hw : w.Tenancy) : w'.Tenancy := by
  have hplanned : ∀ d ∈ w'.deliveries, ∀ p, d.phase = .planned p → w'.db.ProjectionScoped p := by
    intro d hd p hp
    refine Db.ProjectionScoped.mono h.evolves ?_
    cases h.arises hd with
    | kept hold => exact hw.planned d hold p hp
    | received _ => cases hp
    | next _ hget h =>
      obtain ⟨env, -, rfl⟩ := h.planned hp
      exact hw.db.plan (hw.db.log _ (hsourced.handled _ (List.mem_of_getElem? hget))) env _
    | @lost d₀ hold => exact hw.planned d₀ hold p hp
  cases h with
  | proceed hc h =>
    obtain ⟨o, hscoped⟩ := hcalls.call (List.mem_of_getElem? hc)
    exact ⟨h.tenancy hscoped hw.db, hplanned⟩
  | relay _ h => exact ⟨h.tenancy hw.db, hplanned⟩
  | consume hd h | finish hd h =>
    exact ⟨h.tenancy (hw.planned _ (List.mem_of_getElem? hd)) hw.db, hplanned⟩
  | _ => exact ⟨hw.db, hplanned⟩

/-- Removals included, every reachable state is consistent. -/
theorem tenancy_of_exec {organizations : Table Organization} {users : Table User} {n : Nat}
    {es : List Event} (h : exec (step cfg) (initial organizations users n) es = some w) :
    w.Tenancy := by
  have key := exec_invariant (step cfg) (I := fun w => w.Scoped ∧ w.Sourced ∧ w.Tenancy)
    (fun _ _ _ ⟨hs, hl, ht⟩ h =>
      ⟨(step_cases h).scoped hs, (step_cases h).sourced hl, (step_cases h).tenancy hs hl ht⟩)
    ⟨scoped_initial organizations users n, sourced_initial organizations users n,
      tenancy_initial organizations users n⟩ h
  exact key.2.2

/-! ### Without removals -/

lemma Steps.retired (h : Steps cfg w e w') (hcalls : w.NoRemoval) :
    w'.db.tickets.retired = w.db.tickets.retired := by
  cases h with
  | proceed hc h => exact h.retired (hcalls _ (List.mem_of_getElem? hc))
  | relay _ h => rw [h.frame]
  | consume _ h => rw [h.tickets]
  | finish _ h => rw [h.tickets]
  | _ => rfl

/-- In every run without removals, the creator and the assignee of every ticket, the author of
every comment, the payload of every outbox row and the recipient of every notification are of the
organization of the ticket. -/
theorem tenant_consistency (cfg : Config) (organizations : Table Organization)
    (users : Table User) (n : Nat) {es : List Event} {w : World}
    (hes : ∀ e ∈ es, e.isRemoval = false)
    (h : exec (step cfg) (initial organizations users n) es = some w) :
    (∀ t ∈ w.db.tickets.rows, w.db.userOrg t.createdById = some t.organizationId ∧
      ∀ u ∈ t.assignedToId, w.db.userOrg u = some t.organizationId) ∧
    (∀ c ∈ w.db.comments.rows, ∃ o,
      w.db.ticketOrg c.ticketId = some o ∧ w.db.userOrg c.authorId = some o) ∧
    (∀ r ∈ w.db.outbox.rows, ∃ id o,
      r.payload.ticketId? = some id ∧ r.payload.organizationId? = some o ∧
        w.db.ticketOrg id = some o) ∧
    ∀ m ∈ w.db.notifications.rows, ∃ id o,
      m.ticketId = some id ∧ w.db.ticketOrg id = some o ∧ w.db.userOrg m.userId = some o := by
  have hdb := (tenancy_of_exec h).db
  have hlinked := linked_of_exec h
  have hretired : w.db.tickets.retired = [] :=
    (exec_invariant_of_forall (step cfg)
      (I := fun w => w.NoRemoval ∧ w.db.tickets.retired = []) (C := fun e => e.isRemoval = false)
      (fun _ _ _ hs he ht =>
        ⟨(step_cases ht).noRemoval he hs.1, ((step_cases ht).retired hs.1).trans hs.2⟩)
      ⟨noRemoval_initial organizations users n, rfl⟩ hes h).2
  have user {u o : Uuid} (hu : w.db.UserIn u o) (hfind : (w.db.users.find? u).isSome) :
      w.db.userOrg u = some o := hu.column_eq (Table.find?_isSome.mp hfind).2
  have ticket {id o : Uuid} (hid : w.db.TicketIn id o) : w.db.ticketOrg id = some o :=
    hid.column_eq (by rw [hretired]; exact List.not_mem_nil)
  refine ⟨fun t ht => ⟨?_, fun u hu => ?_⟩, fun c hc => ?_, fun r hr => ?_, fun m hm => ?_⟩
  · exact user (hdb.tickets t ht).1 (hlinked.creator t ht)
  · exact user ((hdb.tickets t ht).2 u hu) (hlinked.assignee t ht u hu)
  · obtain ⟨o, hid, hu⟩ := hdb.comments c hc
    exact ⟨o, ticket hid, user hu (hlinked.author c hc)⟩
  · obtain ⟨id, o, hid, ho, hticket, -⟩ := hdb.log _ (List.mem_map_of_mem hr)
    exact ⟨id, o, hid, ho, ticket hticket⟩
  · obtain ⟨id, o, hid, hticket, hu⟩ := hdb.notifications m hm
    exact ⟨id, o, hid, ticket hticket, user hu (hlinked.recipient m hm)⟩

theorem tenant_consistency_lifecycle :
    ∃ w, exec (step Config.default) (initial Seed.organizations Seed.users 1) lifecycleRun =
        some w ∧
      w.db.notifications.rows ≠ [] ∧ ∀ m ∈ w.db.notifications.rows, ∃ id o,
        m.ticketId = some id ∧ w.db.ticketOrg id = some o ∧ w.db.userOrg m.userId = some o := by
  have hrun : (exec (step Config.default) (initial Seed.organizations Seed.users 1)
      lifecycleRun).any fun w => !w.db.notifications.rows.isEmpty := by decide
  obtain ⟨w, hw, hne⟩ := (Option.any_eq_true _ _).mp hrun
  exact ⟨w, hw, by simpa using hne, (tenant_consistency Config.default Seed.organizations
    Seed.users 1 (by decide) hw).2.2.2⟩

end World

end SupportPlatform
