import SupportPlatform.Api.Requests
import SupportPlatform.Services.Reads
import SupportPlatform.Services.Specs

/-!
# Reads do not see other tenants

Two databases that agree on the rows of an organization give its users the same answers: every
`where` is inside the rows of the organization, and the access check of a ticket comes before its
comments.
-/

namespace SupportPlatform

/-- The databases have the same rows of an organization: its users, its tickets, the comments of
these tickets, its audit rows and the notifications of its users. -/
structure Db.AgreeOn (o : Uuid) (db db' : Db) : Prop where
  users : ∀ u, u.organizationId = o → (u ∈ db.users.rows ↔ u ∈ db'.users.rows)
  tickets : ∀ t, t.organizationId = o → (t ∈ db.tickets.rows ↔ t ∈ db'.tickets.rows)
  comments : ∀ t ∈ db.tickets.rows, t.organizationId = o →
    ∀ c, c.ticketId = t.id → (c ∈ db.comments.rows ↔ c ∈ db'.comments.rows)
  auditLogs : ∀ a, a.organizationId = some o → (a ∈ db.auditLogs.rows ↔ a ∈ db'.auditLogs.rows)
  notifications : ∀ u ∈ db.users.rows, u.organizationId = o →
    ∀ n, n.userId = u.id → (n ∈ db.notifications.rows ↔ n ∈ db'.notifications.rows)

/-- A lookup by a primary key and a condition is told by the rows that meet the condition. -/
lemma Table.find?_rows_congr {α κ : Type*} [Keyed α κ] {s t : Table α} {k : κ}
    {p q : α → Bool} (hp : ∀ r, p r = true ↔ Keyed.key r = k ∧ q r)
    (h : ∀ r, q r → (r ∈ s.rows ↔ r ∈ t.rows)) : s.rows.find? p = t.rows.find? p := by
  have found : ∀ {s t : Table α}, (∀ r, q r → (r ∈ s.rows ↔ r ∈ t.rows)) → ∀ r,
      s.rows.find? p = some r → t.rows.find? p = some r := by
    intro s t h r hr
    have hpr : p r := List.find?_some hr
    obtain ⟨hk, hq⟩ := (hp r).mp hpr
    have hmem := (h r hq).mp (List.mem_of_find?_eq_some hr)
    cases hfind : t.rows.find? p with
    | none => exact absurd hpr (List.find?_eq_none.mp hfind r hmem)
    | some a =>
      have hka := ((hp a).mp (List.find?_some hfind)).1
      rw [t.eq_of_key_eq (List.mem_of_find?_eq_some hfind) hmem (hka.trans hk.symm)]
  ext r
  exact ⟨found h r, found (fun r hr => (h r hr).symm) r⟩

namespace Db.AgreeOn

variable {db db' : Db} {actor : AuthenticatedUser}

lemma findOne_ticket (h : db.AgreeOn actor.organizationId db') (id : Uuid) :
    TicketsService.findOne actor id db = TicketsService.findOne actor id db' := by
  have hfind := Table.find?_rows_congr (s := db.tickets) (t := db'.tickets) (k := id)
    (p := fun t => t.id = id ∧ t.organizationId = actor.organizationId)
    (q := fun t => t.organizationId = actor.organizationId) (by simp)
    (by simpa using h.tickets)
  rw [TicketsService.findOne, TicketsService.findOne, hfind]

lemma findAll_tickets (pg : Postgres) (h : db.AgreeOn actor.organizationId db')
    (query : TicketQueryDto) :
    TicketsService.findAll pg actor query db = TicketsService.findAll pg actor query db' := by
  refine pg.list_congr (p := fun t => t.organizationId = actor.organizationId) _ _
    (by simpa using h.tickets) fun t ht => ?_
  simp only [TicketsService.where, Bool.and_eq_true, decide_eq_true_eq] at ht
  simpa using ht.1.1.1.1.1

lemma findForTicket (pg : Postgres) (h : db.AgreeOn actor.organizationId db') (ticketId : Uuid)
    (query : CommentQueryDto) :
    CommentsService.findForTicket pg actor ticketId query db =
      CommentsService.findForTicket pg actor ticketId query db' := by
  rw [CommentsService.findForTicket, CommentsService.findForTicket, ← h.findOne_ticket]
  cases hfind : TicketsService.findOne actor ticketId db with
  | error e => rfl
  | ok t =>
    obtain ⟨ht, horg, -⟩ := TicketsService.findOne_ok hfind
    obtain ⟨hmem, rfl⟩ := Table.find?_eq_some.mp ht
    dsimp only
    rw [pg.list_congr (p := fun c => c.ticketId = t.id) _ _
      (by simpa using h.comments t hmem horg) fun c hc => ?_]
    simp only [CommentsService.where, Bool.and_eq_true] at hc
    exact hc.1

lemma findOne_user {o : Uuid} (h : db.AgreeOn o db') (id : Uuid) :
    UsersService.findOneResponse o id db = UsersService.findOneResponse o id db' := by
  have hfind := Table.find?_rows_congr (s := db.users) (t := db'.users) (k := id)
    (p := fun u => u.id = id ∧ u.organizationId = o) (q := fun u => u.organizationId = o)
    (by simp) (by simpa using h.users)
  rw [UsersService.findOneResponse, UsersService.findOneResponse, UsersService.findOne,
    UsersService.findOne, hfind]

lemma findAll_users (pg : Postgres) {o : Uuid} (h : db.AgreeOn o db') (query : UserQueryDto) :
    UsersService.findAll pg o query db = UsersService.findAll pg o query db' := by
  rw [UsersService.findAll, UsersService.findAll,
    pg.list_congr (p := fun u => u.organizationId = o) _ _ (by simpa using h.users)
      fun u hu => ?_]
  simp only [UsersService.where, Bool.and_eq_true] at hu
  exact hu.1.1

lemma findAll_auditLogs (pg : Postgres) {o : Uuid} (h : db.AgreeOn o db')
    (query : AuditQueryDto) :
    AuditService.findAll pg o query db = AuditService.findAll pg o query db' := by
  refine pg.list_congr (p := fun a => a.organizationId = some o) _ _
    (by simpa using h.auditLogs) fun a ha => ?_
  simp only [AuditService.where, Bool.and_eq_true] at ha
  exact ha.1.1

/-- The notifications of a user of the organization. -/
lemma notificationsOf {o : Uuid} (h : db.AgreeOn o db')
    (hactor : ∃ u ∈ db.users.rows, u.id = actor.id ∧ u.organizationId = o) (n : Notification)
    (hn : decide (n.userId = actor.id)) :
    n ∈ db.notifications.rows ↔ n ∈ db'.notifications.rows := by
  obtain ⟨u, hu, hid, horg⟩ := hactor
  exact h.notifications u hu horg n (hid ▸ of_decide_eq_true hn)

lemma findForUser (pg : Postgres) {o : Uuid} (h : db.AgreeOn o db')
    (hactor : ∃ u ∈ db.users.rows, u.id = actor.id ∧ u.organizationId = o)
    (query : NotificationQueryDto) :
    NotificationsService.findForUser pg actor.id query db =
      NotificationsService.findForUser pg actor.id query db' := by
  rw [NotificationsService.findForUser, NotificationsService.findForUser,
    pg.list_congr (p := fun n => n.userId = actor.id) _ _ (h.notificationsOf hactor)
      fun n hn => ?_]
  simp only [NotificationsService.where, Bool.and_eq_true] at hn
  exact hn.1

lemma countUnread {o : Uuid} (h : db.AgreeOn o db')
    (hactor : ∃ u ∈ db.users.rows, u.id = actor.id ∧ u.organizationId = o) :
    NotificationsService.countUnread actor.id db =
      NotificationsService.countUnread actor.id db' := by
  rw [NotificationsService.countUnread, NotificationsService.countUnread,
    Postgres.toFinset_filter_congr (h.notificationsOf hactor) fun n hn => ?_]
  rw [Bool.and_eq_true] at hn
  exact hn.1

end Db.AgreeOn

/-- Read non-interference: in two databases that agree on the rows of an organization, every read
operation gives a user of the organization the same outcome. -/
theorem read_noninterference (pg : Postgres) {db db' : Db} {sub : Uuid}
    {actor : AuthenticatedUser} (hactor : JwtStrategy.validate db sub = .ok actor)
    (h : db.AgreeOn actor.organizationId db') :
    (∀ query,
        TicketsService.findAll pg actor query db = TicketsService.findAll pg actor query db') ∧
      (∀ id, TicketsService.findOne actor id db = TicketsService.findOne actor id db') ∧
      (∀ ticketId query, CommentsService.findForTicket pg actor ticketId query db =
        CommentsService.findForTicket pg actor ticketId query db') ∧
      (∀ query, UsersService.findAll pg actor.organizationId query db =
        UsersService.findAll pg actor.organizationId query db') ∧
      (∀ id, UsersService.findOneResponse actor.organizationId id db =
        UsersService.findOneResponse actor.organizationId id db') ∧
      (∀ query, AuditService.findAll pg actor.organizationId query db =
        AuditService.findAll pg actor.organizationId query db') ∧
      (∀ query, NotificationsService.findForUser pg actor.id query db =
        NotificationsService.findForUser pg actor.id query db') ∧
      NotificationsService.countUnread actor.id db =
        NotificationsService.countUnread actor.id db' := by
  obtain ⟨u, hu, hid, horg, -⟩ := JwtStrategy.validate_ok hactor
  have huser : ∃ u ∈ db.users.rows, u.id = actor.id ∧ u.organizationId = actor.organizationId :=
    ⟨u, hu, hid, horg⟩
  exact ⟨h.findAll_tickets pg, h.findOne_ticket, h.findForTicket pg, h.findAll_users pg,
    h.findOne_user, h.findAll_auditLogs pg, h.findForUser pg huser, h.countUnread huser⟩

/-! ### Two databases -/

/-- A database that takes the rows in any order; with one matching row there is only one. -/
noncomputable def Postgres.arbitrary : Postgres where
  page _ args rows := (rows.toList.drop args.skip).take args.take
  lower := Char.toLower
  nodup_page _ args rows :=
    (rows.nodup_toList.sublist (List.drop_sublist args.skip _)).sublist (List.take_sublist _ _)
  mem_of_mem_page h := Finset.mem_toList.mp (List.mem_of_mem_drop (List.mem_of_mem_take h))
  length_page _ args rows := by simp

namespace Seed

/-- A ticket of the organization of the seed script. -/
def ticket : Ticket :=
  ⟨140, "TKT-000001", "Cannot log in", "The dashboard returns a 500.", .open, .medium, none, 1, 11,
    none, 1, 1, none⟩

/-- A ticket of the other organization. -/
def otherTicket : Ticket :=
  ⟨240, "TKT-000002", "Cannot log in", "Nothing happens.", .open, .medium, none, 2, 21, none, 2, 2,
    none⟩

def admins : Table User := ⟨[admin], [], by decide⟩

lemma firstPage_pos : 1 ≤ 1 := Nat.le_refl 1

/-- The organization on its own, with one user and one ticket. -/
def alone : Db :=
  { Db.empty with
    users := admins
    tickets := ⟨[ticket], [], by decide⟩ }

/-- The organization next to another one, whose rows stand first. -/
def shared : Db :=
  { Db.empty with
    users := ⟨[⟨21, "dave@globex.test", "hash", "Dave", "Admin", .admin, true, none, 2, 0⟩, admin],
      [], by decide⟩
    tickets := ⟨[otherTicket, ticket], [], by decide⟩ }

/-- The first page of the tickets. -/
def ticketQuery : TicketQueryDto :=
  ⟨⟨1, 20, .undefined, .undefined, firstPage_pos, by decide, by decide⟩, .undefined, .undefined,
    .undefined⟩

end Seed

theorem read_noninterference_shared :
    (TicketsService.findAll .arbitrary ⟨11, "admin@acme.test", .admin, 1⟩ Seed.ticketQuery
        Seed.shared).meta.total = 1 ∧
      TicketsService.findAll .arbitrary ⟨11, "admin@acme.test", .admin, 1⟩ Seed.ticketQuery
          Seed.alone =
        TicketsService.findAll .arbitrary ⟨11, "admin@acme.test", .admin, 1⟩ Seed.ticketQuery
          Seed.shared := by
  have hactor : JwtStrategy.validate Seed.alone 11 = .ok ⟨11, "admin@acme.test", .admin, 1⟩ := rfl
  have hagree : Seed.alone.AgreeOn 1 Seed.shared := by
    constructor
    · intro u hu
      simp only [Seed.alone, Seed.admins, Seed.shared, List.mem_cons, List.not_mem_nil, or_false]
      exact ⟨.inr, fun h => h.resolve_left (by rintro rfl; cases hu)⟩
    · intro t ht
      simp only [Seed.alone, Seed.shared, List.mem_cons, List.not_mem_nil, or_false]
      exact ⟨.inr, fun h => h.resolve_left (by rintro rfl; cases ht)⟩
    · intro _ _ _ c _
      exact Iff.rfl
    · intro a _
      exact Iff.rfl
    · intro _ _ _ n _
      exact Iff.rfl
  exact ⟨rfl, (read_noninterference .arbitrary hactor hagree).1 Seed.ticketQuery⟩

end SupportPlatform
