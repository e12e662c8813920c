import SupportPlatform.Platform.Tenancy

/-!
# Assignees of tickets

`assign` demands an active agent or admin of the organization, and the staff-only routing of
internal notes relies on it. It is checked once: what becomes of the assignee between the check and
the transaction, and afterwards, is in the hands of `UsersService`.
-/

namespace SupportPlatform

/-- The condition `assign` demands of an assignee, besides the organization. -/
def User.isStaff (u : User) : Bool := u.isActive && (u.role = .agent || u.role = .admin)

namespace Db

/-- The assignee of the ticket is an active agent or admin of its organization. -/
def Eligible (db : Db) (t : Ticket) : Prop :=
  ∀ id ∈ t.assignedToId, ∃ u ∈ db.users.rows, u.id = id ∧ u.organizationId = t.organizationId ∧
    u.isStaff

/-- Every assignee is eligible. -/
def Assigned (db : Db) : Prop := ∀ t ∈ db.tickets.rows, db.Eligible t

/-- Whoever has a ticket under this id is staff once `f` is done to him. -/
def StaffAfter (db : Db) (id : Uuid) (f : User → User) : Prop :=
  ∀ t ∈ db.tickets.rows, t.assignedToId = some id → ∀ u ∈ db.users.rows, u.id = id → (f u).isStaff

variable {db : Db}

lemma Assigned.of_users {users : Table User} (h : db.Assigned)
    (hkeep : ∀ u ∈ db.users.rows, u ∈ users.rows) : ({ db with users } : Db).Assigned := by
  intro t ht id hid
  obtain ⟨u, hu, hprops⟩ := h t ht id hid
  exact ⟨u, hkeep u hu, hprops⟩

/-- An update of one user leaves the assignees eligible exactly if the user, where he has a ticket,
is staff afterwards. -/
lemma Assigned.modifyUser_iff (h : db.Assigned) {id : Uuid} (f : User → User)
    {hf : ∀ u, (f u).id = u.id} (horg : ∀ u, (f u).organizationId = u.organizationId) :
    ({ db with users := db.users.modify id f hf } : Db).Assigned ↔ db.StaffAfter id f := by
  constructor
  · intro h' t ht hassigned u hu hid
    obtain ⟨v, hv, hvid, -, hstaff⟩ := h' t ht id hassigned
    obtain ⟨a, ha, rfl⟩ := List.mem_map.mp hv
    have haid : a.id = id := by
      split at hvid
      · exact (hf a).symm.trans hvid
      · exact hvid
    obtain rfl := db.users.eq_of_key_eq ha hu (haid.trans hid.symm)
    simpa [hid] using hstaff
  · intro h' t ht uid huid
    obtain ⟨u, hu, hid, huorg, hstaff⟩ := h t ht uid huid
    refine ⟨_, List.mem_map_of_mem hu, ?_⟩
    split
    · next hkey =>
      have hkey : u.id = id := of_decide_eq_true hkey
      refine ⟨(hf u).trans hid, (horg u).trans huorg, h' t ht ?_ u hu hkey⟩
      exact (Option.mem_def.mp huid).trans (congrArg some (hid.symm.trans hkey))
    · exact ⟨hid, huorg, hstaff⟩

lemma Assigned.modifyTickets {p : Ticket → Bool} {f : Ticket → Ticket}
    {hf : ∀ t, (f t).id = t.id} {outbox : Table EventOutbox} (h : db.Assigned)
    (hsame : ∀ t, (f t).assignedToId = t.assignedToId ∧ (f t).organizationId = t.organizationId) :
    ({ db with tickets := db.tickets.modifyWhere p f hf, outbox } : Db).Assigned := by
  intro t ht
  obtain ⟨a, ha, rfl⟩ := List.mem_map.mp ht
  split
  · intro id hid
    obtain ⟨u, hu, huid, huorg, hstaff⟩ := h a ha id ((hsame a).1 ▸ hid)
    exact ⟨u, hu, huid, huorg.trans (hsame a).2.symm, hstaff⟩
  · exact h a ha

lemma Assigned.insertTicket {tickets : Table Ticket} {outbox : Table EventOutbox} {t : Ticket}
    (h : db.Assigned) (ht : db.tickets.insert? t = some tickets) (hnone : t.assignedToId = none) :
    ({ db with tickets, outbox } : Db).Assigned := by
  intro a ha
  rcases (Table.mem_insert? ht).mp ha with ha | rfl
  · exact h a ha
  · intro id hid
    rw [hnone] at hid
    cases hid

/-- The removal of an organization takes its users with their tickets. -/
lemma Assigned.dropOrganization (h : db.Assigned) (id : Uuid) :
    (db.dropOrganization id).Assigned := by
  intro t ht uid huid
  obtain ⟨a, ha, horg, heq, hassignee⟩ := mem_tickets_dropOrganization ht
  obtain ⟨u, hu, huid', huorg, hstaff⟩ := h a ha uid (hassignee uid huid).1
  have hsame : t.organizationId = a.organizationId := by rw [heq]
  refine ⟨u, List.mem_filter.mpr ⟨hu, ?_⟩, huid', huorg.trans hsame.symm, hstaff⟩
  simpa [huorg] using horg

end Db

namespace Call

/-- The condition on a write that goes through: a user who has tickets stays an active agent or
admin, and a new assignee still is one. -/
def KeepsStaff (db : Db) : Call → Prop
  | .usersUpdateWrite _ id dto => db.StaffAfter id (·.apply dto)
  | .usersDeactivateWrite _ id => ∀ t ∈ db.tickets.rows, t.assignedToId ≠ some id
  | .ticketsAssignTransaction _ _ dto _ => ∀ u ∈ db.users.rows, u.id = dto.assigneeId → u.isStaff
  | _ => True

instance (db : Db) (id : Uuid) (f : User → User) : Decidable (db.StaffAfter id f) := by
  unfold Db.StaffAfter
  infer_instance

instance (db : Db) (call : Call) : Decidable (call.KeepsStaff db) := by
  unfold KeepsStaff
  split <;> infer_instance

variable {env : Env} {db db' : Db} {call call' : Call} {o : Uuid}

/-- An assignment leaves the assignees eligible exactly if the new one is, who is of the
organization of the ticket since the call is scoped to it. -/
lemma assigned_assign_iff (h : db.Assigned) {id assignee : Uuid} {t : Ticket} {now : Time}
    {outbox : Table EventOutbox} (ht : db.tickets.find? id = some t) (hticket : db.TicketIn id o)
    (hassignee : db.UserIn assignee o) (hlink : (db.users.find? assignee).isSome) :
    ({ db with tickets := db.tickets.modify id (·.assign assignee now) fun _ => rfl, outbox } :
      Db).Assigned ↔ ∀ u ∈ db.users.rows, u.id = assignee → u.isStaff := by
  obtain ⟨hmem, hid⟩ := Table.find?_eq_some.mp ht
  have hid : t.id = id := hid
  constructor
  · intro h' u hu huid
    have hnew := h' _ (List.mem_map_of_mem hmem) assignee (by simp [hid, Ticket.assign])
    obtain ⟨v, hv, hvid, -, hstaff⟩ := hnew
    obtain rfl := db.users.eq_of_key_eq hv hu (hvid.trans huid.symm)
    exact hstaff
  · intro h' a ha
    obtain ⟨b, hb, rfl⟩ := List.mem_map.mp ha
    split
    · next hkey =>
      intro uid huid
      cases huid
      obtain ⟨u, hfind⟩ := Option.isSome_iff_exists.mp hlink
      obtain ⟨hu, huid⟩ := Table.find?_eq_some.mp hfind
      refine ⟨u, hu, huid, ?_, h' u hu huid⟩
      exact (hassignee.2 u hu huid).trans (hticket.2 b hb (of_decide_eq_true hkey)).symm
    · exact h b hb

lemma Writes.assigned_iff (h : Writes env db call db') (hcall : call.Scoped db o)
    (hdb : db.Assigned) : db'.Assigned ↔ call.KeepsStaff db := by
  cases h with
  | @usersUpdate _ _ dto => exact hdb.modifyUser_iff (·.apply dto) fun _ => rfl
  | @usersDeactivate _ id =>
    refine (hdb.modifyUser_iff (fun u => { u with isActive := false }) fun _ => rfl).trans
      ⟨fun h t ht hid => ?_, fun h t ht hid => ?_⟩
    · obtain ⟨u, hu, huid, -⟩ := hdb t ht id hid
      simpa [User.isStaff] using h t ht hid u hu huid
    · exact absurd hid (h t ht)
  | ticketsAssign ht _ hlink _ => exact assigned_assign_iff hdb ht hcall.2.1 hcall.2.2 hlink
  | registerInsert h _ | usersInsert h _ =>
    exact iff_of_true (hdb.of_users fun u hu => (Table.mem_insert? h).mpr (.inl hu)) trivial
  | loginStamp =>
    refine iff_of_true ((hdb.modifyUser_iff (fun u => { u with lastLoginAt := some env.now })
      fun _ => rfl).mpr fun t ht hid u hu huid => ?_) trivial
    obtain ⟨v, hv, hvid, -, hstaff⟩ := hdb t ht _ hid
    obtain rfl := db.users.eq_of_key_eq hv hu (hvid.trans huid.symm)
    exact hstaff
  | organizationsRemove _ _ => exact iff_of_true (hdb.dropOrganization _) trivial
  | ticketsCreate ht _ _ _ => exact iff_of_true (hdb.insertTicket ht rfl) trivial
  | ticketsUpdate _ _ _ =>
    exact iff_of_true (hdb.modifyTickets fun _ => ⟨rfl, rfl⟩) trivial
  | _ => exact iff_of_true hdb trivial

lemma Executes.assigned_iff (h : Executes env db call db' call') (hcall : call.Scoped db o)
    (hdb : db.Assigned) : db'.Assigned ↔ (call' = .done (.ok ()) → call.KeepsStaff db) := by
  cases h with
  | wrote h =>
    rw [h.assigned_iff hcall hdb]
    exact ⟨fun h _ => h, fun h => h rfl⟩
  | failed => exact iff_of_true hdb fun hdone => by cases hdone
  | finished => exact iff_of_true hdb fun _ => trivial
  | checked h => exact iff_of_true hdb fun hdone => by cases h <;> cases hdone

end Call

namespace World

open Machine

variable {cfg : Config} {w w' : World} {e : Event}

/-- The condition on a step: if it is a write of a call that goes through, it meets the condition
on such writes. -/
def KeepsStaff (w : World) : Event → Prop
  | .proceed i env => ∀ c ∈ w.calls[i]?, (c.call.exec env w.db).2 = .done (.ok ()) →
      c.call.KeepsStaff w.db
  | _ => True

instance (w : World) (e : Event) : Decidable (w.KeepsStaff e) :=
  match e with
  | .proceed i env =>
    inferInstanceAs (Decidable (∀ c ∈ w.calls[i]?, (c.call.exec env w.db).2 = .done (.ok ()) →
      c.call.KeepsStaff w.db))
  | .arrive .. | .relay .. | .connect | .deliver .. | .consume .. | .redeliver _ | .crash _ =>
    isTrue trivial

/-- A step leaves the assignees eligible exactly if it meets the condition. -/
lemma assigned_iff (hscoped : w.Scoped) (hw : w.db.Assigned) (h : step cfg w e = some w') :
    w'.db.Assigned ↔ w.KeepsStaff e := by
  cases e with
  | proceed i env =>
    obtain ⟨c, hc, rfl⟩ := Option.map_eq_some_iff.mp h
    obtain ⟨o, hcall⟩ := hscoped.call (List.mem_of_getElem? hc)
    simp only [KeepsStaff, hc, Option.mem_def, Option.some.injEq, forall_eq']
    exact (Call.exec_cases rfl).assigned_iff hcall hw
  | relay i action =>
    have hsteps := step_cases h
    clear h
    refine iff_of_true ?_ trivial
    cases hsteps with
    | relay _ h =>
      rw [h.frame]
      exact hw
  | consume i action =>
    have hsteps := step_cases h
    clear h
    refine iff_of_true ?_ trivial
    cases hsteps with
    | consume _ h | finish _ h =>
      rw [h.frame]
      exact hw
  | arrive | connect | deliver | redeliver | crash =>
    have hsteps := step_cases h
    clear h
    refine iff_of_true ?_ trivial
    cases hsteps
    exact hw

/-- All along a run every assignee is an active agent or admin of the organization of the ticket,
exactly when no write that goes through takes that from a user with tickets or assigns a ticket to
a user who has ceased to be one. -/
theorem assignees_eligible_iff (cfg : Config) (organizations : Table Organization)
    (users : Table User) (n : Nat) {es : List Event} {w : World}
    (h : exec (step cfg) (initial organizations users n) es = some w) :
    (∀ fs s, fs <+: es → exec (step cfg) (initial organizations users n) fs = some s →
      s.db.Assigned) ↔ Guarded (step cfg) KeepsStaff (initial organizations users n) es :=
  exec_invariant_iff (step cfg) (I := fun w => w.db.Assigned)
    (fun _ _ _ hs ht => (step_cases ht).scoped hs) (fun _ _ _ hs hI ht => assigned_iff hs hI ht)
    (scoped_initial organizations users n) (fun _ ht => by cases ht) h

/-- A customer's ticket is assigned to the agent, whom the admin then deactivates. -/
def deactivatedRun : List Event :=
  [.arrive (some 13) none (.createTicket Seed.ticketDto), .proceed 0 (Seed.env 1),
    .arrive (some 12) none (.assignTicket 140 ⟨12⟩), .proceed 1 (Seed.env 2),
    .proceed 1 (Seed.env 3), .proceed 1 (Seed.env 4),
    .arrive (some 11) none (.deactivateUser 12), .proceed 2 (Seed.env 5), .proceed 2 (Seed.env 6)]

instance (db : Db) : Decidable db.Assigned := by
  unfold Db.Assigned Db.Eligible
  infer_instance

/-- Up to the deactivation. -/
theorem assignees_eligible_iff_assigned :
    ∃ w, exec (step .default) (initial Seed.organizations Seed.users 0)
        (deactivatedRun.take 8) = some w ∧
      ∀ fs s, fs <+: deactivatedRun.take 8 →
        exec (step .default) (initial Seed.organizations Seed.users 0) fs = some s →
          s.db.Assigned := by
  have hrun : (exec (step .default) (initial Seed.organizations Seed.users 0)
      (deactivatedRun.take 8)).isSome := by decide
  obtain ⟨w, hw⟩ := Option.isSome_iff_exists.mp hrun
  exact ⟨w, hw, (assignees_eligible_iff .default Seed.organizations Seed.users 0 hw).mpr
    (by decide)⟩

theorem inactive_assignee :
    ¬ ∀ cfg organizations users n es w,
      exec (step cfg) (initial organizations users n) es = some w → w.db.Assigned := by
  intro hall
  have hrun : (exec (step .default) (initial Seed.organizations Seed.users 0)
      deactivatedRun).any fun w => !decide w.db.Assigned := by decide
  obtain ⟨w, hw, hassigned⟩ := (Option.any_eq_true _ _).mp hrun
  simp [hall _ _ _ _ _ w hw] at hassigned

end World

end SupportPlatform
