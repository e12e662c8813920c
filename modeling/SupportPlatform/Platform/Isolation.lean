import SupportPlatform.Platform.Integrity
import SupportPlatform.Platform.Scoping

/-!
# Write isolation between tenants

What a request of a user can write, seen from the other organizations. Every write of the users,
tickets, comments and notifications services stays in the organization of the user but one: the
insertion of `POST /users`, whose organization comes from the body.
-/

namespace SupportPlatform

/-- The rows of the other organizations are the same: a user and a ticket by its organization, a
comment by the one of its ticket, a notification by the one of its user. -/
structure Db.SameOutside (organizationId : Uuid) (s t : Db) : Prop where
  users : t.users.rows.filter (·.organizationId ≠ organizationId) =
    s.users.rows.filter (·.organizationId ≠ organizationId)
  tickets : t.tickets.rows.filter (·.organizationId ≠ organizationId) =
    s.tickets.rows.filter (·.organizationId ≠ organizationId)
  comments : t.comments.rows.filter (fun c => t.ticketOrg c.ticketId ≠ some organizationId) =
    s.comments.rows.filter (fun c => s.ticketOrg c.ticketId ≠ some organizationId)
  notifications :
    t.notifications.rows.filter (fun n => t.userOrg n.userId ≠ some organizationId) =
      s.notifications.rows.filter (fun n => s.userOrg n.userId ≠ some organizationId)

instance (o : Uuid) (s t : Db) : Decidable (s.SameOutside o t) :=
  decidable_of_iff (_ ∧ _ ∧ _ ∧ _)
    ⟨fun ⟨hu, ht, hc, hn⟩ => ⟨hu, ht, hc, hn⟩, fun ⟨hu, ht, hc, hn⟩ => ⟨hu, ht, hc, hn⟩⟩

/-- The insertion of `POST /users` will go through: no failure, a free email, an organization that
is there, a fresh id. -/
def UsersService.Inserts (env : Env) (db : Db) (dto : CreateUserDto) : Prop :=
  env.fault .query = none ∧ (∀ u ∈ db.users.rows, u.email ≠ dto.email) ∧
    (db.organizations.find? dto.organizationId).isSome ∧ env.uuid .query 0 ∉ db.users.keys

namespace Call

/-- A call of the users, tickets, comments or notifications controller. -/
def isTenant : Call → Bool
  | .usersCreate _ | .usersInsert _ | .usersUpdate _ _ _ | .usersUpdateWrite _ _ _
  | .usersDeactivate _ _ | .usersDeactivateWrite _ _ | .ticketsCreate _ _ _
  | .ticketsUpdate _ _ _ _ | .ticketsUpdateTransaction _ _ _ _ _ | .ticketsAssign _ _ _ _
  | .ticketsFindAssignee _ _ _ _ | .ticketsAssignTransaction _ _ _ _ | .commentsCreate _ _ _ _
  | .commentsCreateTransaction _ _ _ _ | .notificationsMarkRead _ _
  | .notificationsMarkReadWrite _ _ | .notificationsMarkAllRead _ => true
  | _ => false

/-- The call is about to insert a user of another organization. -/
def Crosses (organizationId : Uuid) (env : Env) (db : Db) : Call → Prop
  | .usersInsert dto => dto.organizationId ≠ organizationId ∧ UsersService.Inserts env db dto
  | _ => False

end Call

/-! ### One step of a call -/

namespace Db.SameOutside

variable {db db' : Db} {o : Uuid}

lemma refl (o : Uuid) (db : Db) : db.SameOutside o db := ⟨rfl, rfl, rfl, rfl⟩

/-- An update of users of the organization. -/
lemma modifyUsers {p : User → Bool} {f : User → User} {hf : ∀ u, (f u).id = u.id}
    (hp : ∀ u ∈ db.users.rows, p u → u.organizationId = o)
    (hg : ∀ u, (f u).organizationId = u.organizationId) :
    db.SameOutside o { db with users := db.users.modifyWhere p f hf } where
  users := by
    refine Table.filter_modifyWhere db.users p _ f hf fun u hu hpu => ?_
    simp [hg, hp u hu hpu]
  tickets := rfl
  comments := rfl
  notifications := by
    refine List.filter_congr fun n _ => ?_
    rw [userOrg, userOrg, Table.column_modifyWhere hg]

/-- An update of tickets of the organization. -/
lemma modifyTickets {p : Ticket → Bool} {f : Ticket → Ticket} {hf : ∀ t, (f t).id = t.id}
    {outbox : Table EventOutbox} (hp : ∀ t ∈ db.tickets.rows, p t → t.organizationId = o)
    (hg : ∀ t, (f t).organizationId = t.organizationId) :
    db.SameOutside o { db with tickets := db.tickets.modifyWhere p f hf, outbox } where
  users := rfl
  tickets := by
    refine Table.filter_modifyWhere db.tickets p _ f hf fun t ht hpt => ?_
    simp [hg, hp t ht hpt]
  comments := by
    refine List.filter_congr fun c _ => ?_
    rw [ticketOrg, ticketOrg, Table.column_modifyWhere hg]
  notifications := rfl

/-- An update of notifications of the organization. -/
lemma modifyNotifications {p : Notification → Bool} {f : Notification → Notification}
    {hf : ∀ n, (f n).id = n.id}
    (hp : ∀ n ∈ db.notifications.rows, p n → db.userOrg n.userId = some o)
    (hg : ∀ n, (f n).userId = n.userId) :
    db.SameOutside o { db with notifications := db.notifications.modifyWhere p f hf } where
  users := rfl
  tickets := rfl
  comments := rfl
  notifications := by
    refine Table.filter_modifyWhere db.notifications p (fun n => db.userOrg n.userId ≠ some o) f hf
      fun n hn hpn => ?_
    simp [hg, hp n hn hpn]

/-- A new user of the organization; the notifications there are belong to other users. -/
lemma insertUser {u : User} {users : Table User} (hlinked : db.Linked)
    (h : db.users.insert? u = some users) (hu : u.organizationId = o) :
    db.SameOutside o { db with users } where
  users := by simp [(Table.insert?_eq_some.mp h).2.1, hu]
  tickets := rfl
  comments := rfl
  notifications := by
    refine List.filter_congr fun n hn => ?_
    have hkey := (Table.find?_isSome.mp (hlinked.recipient n hn)).1
    have hne : n.userId ≠ Keyed.key u := fun heq =>
      (Table.insert?_eq_some.mp h).1 (heq ▸ hkey)
    rw [userOrg, userOrg, Table.column_insert? h hne]

/-- A new ticket of the organization; the comments there are belong to other tickets. -/
lemma insertTicket {t : Ticket} {tickets : Table Ticket} {outbox : Table EventOutbox}
    (hlinked : db.Linked) (h : db.tickets.insert? t = some tickets) (ht : t.organizationId = o) :
    db.SameOutside o { db with tickets, outbox } where
  users := rfl
  tickets := by simp [(Table.insert?_eq_some.mp h).2.1, ht]
  comments := by
    refine List.filter_congr fun c hc => ?_
    have hkey := (Table.find?_isSome.mp (hlinked.ticket c hc)).1
    have hne : c.ticketId ≠ Keyed.key t := fun heq =>
      (Table.insert?_eq_some.mp h).1 (heq ▸ hkey)
    rw [ticketOrg, ticketOrg, Table.column_insert? h hne]
  notifications := rfl

/-- A new comment on a ticket of the organization. -/
lemma insertComment {c : Comment} {comments : Table Comment} {outbox : Table EventOutbox}
    (h : db.comments.insert? c = some comments) (hc : db.ticketOrg c.ticketId = some o) :
    db.SameOutside o { db with comments, outbox } where
  users := rfl
  tickets := rfl
  comments := by
    have hrows := (Table.insert?_eq_some.mp h).2.1
    rw [hrows, List.filter_append]
    have hnew : [c].filter (fun c => db.ticketOrg c.ticketId ≠ some o) = [] := by simp [hc]
    exact (congrArg _ hnew).trans (List.append_nil _)
  notifications := rfl

end Db.SameOutside

/-- The write of a call scoped to an organization stays in it, unless it inserts a user. -/
lemma Call.Writes.sameOutside {env : Env} {db db' : Db} {call : Call} {o : Uuid}
    (h : Call.Writes env db call db') (htenant : call.isTenant) (hcall : call.Scoped db o)
    (hlinked : db.Linked) (hinsert : ∀ dto, call ≠ .usersInsert dto) :
    db.SameOutside o db' := by
  have ticket {id : Uuid} (hid : db.TicketIn id o) : ∀ t ∈ db.tickets.rows,
      decide (Keyed.key t = id) → t.organizationId = o :=
    fun t ht hk => hid.2 t ht (by simpa using hk)
  have recipient {userId : Uuid} (hu : db.UserIn userId o) : ∀ n ∈ db.notifications.rows,
      n.userId = userId → db.userOrg n.userId = some o := by
    rintro n hn rfl
    exact hu.column_eq (Table.find?_isSome.mp (hlinked.recipient n hn)).2
  cases h with
  | usersInsert _ _ => exact absurd rfl (hinsert _)
  | usersUpdate | usersDeactivate =>
    exact .modifyUsers (fun u hu hk => hcall.2 u hu (by simpa using hk)) fun _ => rfl
  | ticketsCreate ht _ _ => exact .insertTicket hlinked ht hcall.1
  | ticketsUpdate _ _ => exact .modifyTickets (ticket hcall.2) fun _ => rfl
  | ticketsAssign _ _ _ => exact .modifyTickets (ticket hcall.2.1) fun _ => rfl
  | commentsCreate hc _ hlink =>
    exact .insertComment hc (hcall.2.column_eq (Table.find?_isSome.mp hlink.1).2)
  | notificationsMarkRead =>
    refine .modifyNotifications (fun n hn hk => recipient hcall.1 n hn ?_) fun _ => rfl
    exact hcall.2.2 n hn (by simpa using hk)
  | notificationsMarkAllRead =>
    refine .modifyNotifications (fun n hn hk => recipient hcall n hn ?_) fun _ => rfl
    simp only [decide_eq_true_eq] at hk
    exact hk.1
  | _ => cases htenant

/-- `POST /users` inserts its user exactly when the insertion can go through. -/
lemma UsersService.exec_insert (env : Env) (db : Db) (dto : CreateUserDto) :
    (Inserts env db dto ∧ ∃ users, db.users.insert? (newUser env dto) = some users ∧
      ((Call.usersInsert dto).exec env db).1 = { db with users }) ∨
    (¬ Inserts env db dto ∧ ((Call.usersInsert dto).exec env db).1 = db) := by
  by_cases h : Inserts env db dto
  · obtain ⟨users, hu⟩ := Table.insert?_of_free (r := newUser env dto) h.2.2.2
    have hok : insert dto env db = .ok (newUser env dto, { db with users }) :=
      insert_eq_ok.mpr ⟨h.1, h.2.1, h.2.2.1, users, hu, rfl, rfl⟩
    refine .inl ⟨h, users, hu, ?_⟩
    simp only [Call.exec, Call.write, Transaction.commit_eq_ok.mpr hok]
  · refine .inr ⟨h, ?_⟩
    rcases Call.write_cases (rfl : Call.write env db (insert dto) = _) with ⟨hdb, -⟩ | ⟨-, a, ha⟩
    · exact hdb
    · obtain ⟨hf, hemail, horg, users, hu, -⟩ := insert_eq_ok.mp ha
      exact absurd ⟨hf, hemail, horg, (Table.insert?_eq_some.mp hu).1⟩ h

/-- The step lemma: a call of a user stays in the organization exactly when it does not insert a
user of another one. -/
lemma Call.sameOutside_exec {env : Env} {db : Db} {call : Call} {o : Uuid}
    (htenant : call.isTenant) (hcall : call.Scoped db o) (hlinked : db.Linked) :
    db.SameOutside o (call.exec env db).1 ↔ ¬ call.Crosses o env db := by
  by_cases hinsert : ∃ dto, call = .usersInsert dto
  · obtain ⟨dto, rfl⟩ := hinsert
    rcases UsersService.exec_insert env db dto with ⟨hins, users, hu, hexec⟩ | ⟨hins, hexec⟩
    · rw [hexec]
      constructor
      · rintro h ⟨hne, -⟩
        have hlength := congrArg List.length h.users
        simp [(Table.insert?_eq_some.mp hu).2.1, UsersService.newUser, hne] at hlength
      · intro h
        refine .insertUser hlinked hu ?_
        by_contra hne
        exact h ⟨hne, hins⟩
    · rw [hexec]
      exact iff_of_true (.refl o db) fun h => hins h.2
  · push Not at hinsert
    have hcrosses : ¬ call.Crosses o env db := by
      cases call <;> first | exact id | exact absurd rfl (hinsert _)
    refine iff_of_true ?_ hcrosses
    have hexec : Call.Executes env db call (call.exec env db).1 (call.exec env db).2 :=
      Call.exec_cases rfl
    generalize call.exec env db = next at hexec ⊢
    obtain ⟨db', call'⟩ := next
    dsimp only at hexec ⊢
    cases hexec with
    | wrote h => exact h.sameOutside htenant hcall hlinked hinsert
    | _ => exact .refl o db

/-! ### Whole runs -/

namespace World

open Machine

variable {cfg : Config} {w w' : World} {e : Event}

/-- A step of a request of a user leaves the rows of the other organizations as they are. -/
def Isolates (w : World) (e : Event) (w' : World) : Prop :=
  match e with
  | .proceed i _ => ∀ c ∈ w.calls[i]?, ∀ user ∈ c.user, c.call.isTenant →
      w.db.SameOutside user.organizationId w'.db
  | _ => True

/-- The condition on a step: it does not insert a user for `POST /users` into an organization
other than the one of the admin. -/
def StaysInside (w : World) : Event → Prop
  | .proceed i env => ∀ c ∈ w.calls[i]?, ∀ user ∈ c.user,
      ¬ c.call.Crosses user.organizationId env w.db
  | _ => True

lemma isolates_iff (hcalls : w.Scoped) (hlinked : w.db.Linked) (h : step cfg w e = some w') :
    w.Isolates e w' ↔ w.StaysInside e := by
  cases e with
  | proceed i env =>
    obtain ⟨c, hc, rfl⟩ := Option.map_eq_some_iff.mp h
    simp only [Isolates, StaysInside, hc, Option.mem_def, Option.some.injEq, forall_eq']
    refine forall₂_congr fun user huser => ?_
    have hscoped : c.call.Scoped w.db user.organizationId := by
      have hscoped := hcalls c (List.mem_of_getElem? hc)
      rwa [InFlight.Scoped, huser] at hscoped
    by_cases htenant : c.call.isTenant
    · simp only [htenant, true_implies]
      exact Call.sameOutside_exec htenant hscoped hlinked
    · refine iff_of_true (fun h => absurd h htenant) fun hcrosses => ?_
      cases hcall : c.call <;> rw [hcall] at htenant hcrosses <;>
        first | exact htenant rfl | exact hcrosses
  | _ => exact Iff.rfl

lemma scoped_of_exec {organizations : Table Organization} {users : Table User} {n : Nat}
    {es : List Event} (h : exec (step cfg) (initial organizations users n) es = some w) :
    w.Scoped :=
  exec_invariant (step cfg) (fun _ _ _ hw h => (step_cases h).scoped hw)
    (scoped_initial organizations users n) h

/-- In every run, a step of a request through the users, tickets, comments or notifications
controller leaves the rows of the other organizations as they are, exactly when it does not insert
a user of another organization. -/
theorem tenant_isolation_iff (cfg : Config) (organizations : Table Organization)
    (users : Table User) (n : Nat) {es : List Event} {w : World}
    (h : exec (step cfg) (initial organizations users n) es = some w) :
    (∀ e w', step cfg w e = some w' → (w.Isolates e w' ↔ w.StaysInside e)) ∧
      ((∀ fs e gs s t, es = fs ++ e :: gs →
          exec (step cfg) (initial organizations users n) fs = some s → step cfg s e = some t →
          s.Isolates e t) ↔
        Guarded (step cfg) StaysInside (initial organizations users n) es) := by
  have key {fs : List Event} {e : Event} {s t : World}
      (hs : exec (step cfg) (initial organizations users n) fs = some s)
      (ht : step cfg s e = some t) : s.Isolates e t ↔ s.StaysInside e :=
    isolates_iff (scoped_of_exec hs) (linked_of_exec hs) ht
  refine ⟨fun e w' hstep => key h hstep, ?_⟩
  rw [guarded_iff (step cfg) h]
  constructor
  · rintro hall fs e gs s rfl hs
    obtain ⟨s', hs', hes⟩ := (exec_append (step cfg)).mp h
    cases hs.symm.trans hs'
    obtain ⟨t, ht, -⟩ := (exec_cons_eq_some (step cfg)).mp hes
    exact (key hs ht).mp (hall fs e gs s t rfl hs ht)
  · rintro hall fs e gs s t hes hs ht
    exact (key hs ht).mpr (hall fs e gs s hes hs)

instance (w : World) (e : Event) (w' : World) : Decidable (w.Isolates e w') := by
  unfold Isolates
  split <;> infer_instance

/-- The admin of an organization creates a user in the one the body names. -/
def createUserRun (organizationId : Uuid) : List Event :=
  [.arrive (some 11) none (.createUser
      ⟨"eve@globex.test", "Password123!", "Eve", "Intruder", .admin, organizationId⟩),
    .proceed 0 (Seed.env 1)]

theorem tenant_isolation_create_user :
    ∃ w w', exec (step .default) (initial Seed.organizations Seed.users 0) (createUserRun 1) =
        some w ∧
      step .default w (.proceed 0 (Seed.env 2)) = some w' ∧ w.StaysInside (.proceed 0 (Seed.env 2))
      := by
  have hrun : (exec (step .default) (initial Seed.organizations Seed.users 0)
      (createUserRun 1)).any fun w => (step .default w (.proceed 0 (Seed.env 2))).any fun w' =>
        decide (w.Isolates (.proceed 0 (Seed.env 2)) w') := by decide
  obtain ⟨w, hw, hstep⟩ := (Option.any_eq_true _ _).mp hrun
  obtain ⟨w', hw', hisolates⟩ := exists_of_any hstep
  exact ⟨w, w', hw, hw', ((tenant_isolation_iff .default Seed.organizations Seed.users 0 hw).1
    _ _ hw').mp hisolates⟩

/-- The admin of one organization creates an admin of another one. -/
theorem other_tenant_written :
    ¬ ∀ organizations users n es w e w',
      exec (step .default) (initial organizations users n) es = some w →
        step .default w e = some w' → w.Isolates e w' := by
  intro hall
  have hrun : (exec (step .default)
      (initial ⟨[Seed.acme, Seed.globex], [], by decide⟩ Seed.users 0)
      (createUserRun 2)).any fun w => (step .default w (.proceed 0 (Seed.env 2))).any fun w' =>
        !decide (w.Isolates (.proceed 0 (Seed.env 2)) w') := by decide
  obtain ⟨w, hw, hstep⟩ := (Option.any_eq_true _ _).mp hrun
  obtain ⟨w', hw', hisolates⟩ := (Option.any_eq_true _ _).mp hstep
  simp [hall _ _ _ _ _ _ _ hw hw'] at hisolates

end World

end SupportPlatform
