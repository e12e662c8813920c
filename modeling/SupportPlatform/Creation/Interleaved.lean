import SupportPlatform.Core.Machine
import SupportPlatform.Creation.Statements

/-!
# Interleaved operations

Any number of operations of the services from the empty database, of which `create` goes statement
by statement under READ COMMITTED: its count sees the committed tickets only, and an insertion
waits for an open transaction that has inserted the same reference.
-/

namespace SupportPlatform

open TicketsService

/-- An operation in progress. -/
inductive Task where
  | call (call : Call)
  | creation (creation : Creation)
deriving DecidableEq

namespace Task

/-- The next step of an operation; `none` while it has to wait. -/
def exec (env : Env) (db : Db) (locked : String → Bool) : Task → Option (Db × Task)
  | .call (.ticketsCreate actor dto cid) => some (db, .creation (.count env db actor dto cid))
  | .call c => some ((c.exec env db).1, .call (c.exec env db).2)
  | .creation c => (c.exec env db locked).map fun (db, c) => (db, .creation c)

/-- The operation is a `create` between its count and its commit. -/
def isOpen : Task → Bool
  | .creation c => c.isOpen
  | _ => false

/-- The operation is a `create` that is not over. -/
def isCreate : Task → Bool
  | .call (.ticketsCreate ..) => true
  | task => task.isOpen

lemma exec_call {env : Env} {db : Db} {locked : String → Bool} {c : Call}
    (h : (Task.call c).isCreate = false) :
    exec env db locked (.call c) = some ((c.exec env db).1, .call (c.exec env db).2) := by
  cases c <;> first | rfl | cases h

/-- The operation holds an uncommitted ticket with the reference. -/
def locks (reference : String) : Task → Bool
  | .creation c => c.uncommitted.any (·.reference = reference)
  | _ => false

/-- The operation holds an uncommitted event with the id. -/
def holds (id : Uuid) : Task → Bool
  | .creation (.committing _ row) => row.id = id
  | _ => false

end Task

/-- The database and the operations in progress. -/
structure Interleaved where
  db : Db
  tasks : List Task

inductive InterleavedEvent where
  | request (user : AuthenticatedUser) (correlationId : Option String) (request : Request)
  | proceed (i : Nat) (env : Env)

namespace Interleaved

/-- Nothing has happened. -/
def initial : Interleaved := ⟨.empty, []⟩

/-- One step of one operation; `none` when it has to wait. -/
def step (s : Interleaved) : InterleavedEvent → Option Interleaved
  | .request user correlationId request =>
    some { s with tasks := s.tasks ++ [.call (.ofRequest user correlationId request)] }
  | .proceed i env =>
    s.tasks[i]?.bind fun task =>
      (task.exec env s.db fun reference => s.tasks.any (·.locks reference)).map fun (db, task) =>
        ⟨db, s.tasks.set i task⟩

/-- What is assumed of a step: nothing is removed, a ticket is created by an active user with a body
of the declared type, no statement of a `create` fails, and ids are fresh. -/
def Assumed (s : Interleaved) : InterleavedEvent → Prop
  | .request user _ (.createTicket dto) =>
    dto.Typed ∧ JwtStrategy.validate s.db user.id = .ok user
  | .request _ _ request => request.isRemoval = false
  | .proceed i env =>
    (∀ task ∈ s.tasks[i]?, task.isCreate → env.Serves s.db) ∧
      ∀ key, s.tasks.all fun task => !task.holds (env.uuid (.enqueue key) 0)

/-- A `create` counts only while no other one is between its count and its commit. -/
def CountsAlone (s : Interleaved) : InterleavedEvent → Prop
  | .proceed i _ =>
    match s.tasks[i]? with
    | some (.call (.ticketsCreate ..)) => ∀ task ∈ s.tasks, task.isOpen = false
    | _ => True
  | _ => True

instance (s : Interleaved) : DecidablePred s.Assumed := fun e => by
  unfold Assumed
  split <;> infer_instance

instance (s : Interleaved) : DecidablePred s.CountsAlone := fun e => by
  unfold CountsAlone
  split
  · split <;> infer_instance
  · infer_instance

/-! ### What other operations leave alone -/

end Interleaved

/-- The actor of a `create` and the organization are there. -/
def Db.Knows (db : Db) (actor : AuthenticatedUser) : Prop :=
  (db.organizations.find? actor.organizationId).isSome ∧ (db.users.find? actor.id).isSome

/-- A later database in which the `create`s in progress find what they rely on: tickets keep id and
reference, nobody is gone, and the new events have ids of the environment. -/
structure Db.Undisturbed (env : Env) (db db' : Db) : Prop where
  references : db'.references = db.references
  keys : db'.tickets.keys = db.tickets.keys
  column (id : Uuid) :
    db'.tickets.column Ticket.reference id = db.tickets.column Ticket.reference id
  organizations (id : Uuid) :
    (db.organizations.find? id).isSome → (db'.organizations.find? id).isSome
  users (id : Uuid) : (db.users.find? id).isSome → (db'.users.find? id).isSome
  events : ∀ r ∈ db.outbox.rows, r ∈ db'.outbox.rows
  eventKeys : ∀ id ∈ db'.outbox.keys, id ∈ db.outbox.keys ∨ ∃ key, id = env.uuid (.enqueue key) 0

namespace Db.Undisturbed

variable {env : Env} {db db' : Db}

lemma refl (env : Env) (db : Db) : db.Undisturbed env db :=
  ⟨rfl, rfl, fun _ => rfl, fun _ h => h, fun _ h => h, fun _ h => h, fun _ h => .inl h⟩

/-- Users are added or rewritten. -/
lemma of_users {users : Table User}
    (hkeep : ∀ id, (db.users.find? id).isSome → (users.find? id).isSome) :
    db.Undisturbed env { db with users } :=
  ⟨rfl, rfl, fun _ => rfl, fun _ h => h, hkeep, fun _ h => h, fun _ h => .inl h⟩

lemma modifyUsers {p : User → Bool} {f : User → User} {hf : ∀ u, (f u).id = u.id} :
    db.Undisturbed env { db with users := db.users.modifyWhere p f hf } :=
  of_users fun id hid => by rwa [Table.find?_isSome_modifyWhere]

/-- Organizations are added or rewritten. -/
lemma of_organizations {organizations : Table Organization}
    (hkeep : ∀ id, (db.organizations.find? id).isSome → (organizations.find? id).isSome) :
    db.Undisturbed env { db with organizations } :=
  ⟨rfl, rfl, fun _ => rfl, hkeep, fun _ h => h, fun _ h => h, fun _ h => .inl h⟩

lemma modifyOrganizations {p : Organization → Bool} {f : Organization → Organization}
    {hf : ∀ o, (f o).id = o.id} :
    db.Undisturbed env { db with organizations := db.organizations.modifyWhere p f hf } :=
  of_organizations fun id hid => by rwa [Table.find?_isSome_modifyWhere]

/-- Events are added. -/
lemma of_events {outbox : Table EventOutbox} {new : List EventOutbox}
    {comments : Table Comment} (ho : outbox.rows = db.outbox.rows ++ new)
    (hr : outbox.retired = db.outbox.retired)
    (hnew : ∀ r ∈ new, ∃ key, r.id = env.uuid (.enqueue key) 0) :
    db.Undisturbed env { db with comments, outbox } := by
  refine ⟨rfl, rfl, fun _ => rfl, fun _ h => h, fun _ h => h, fun r h => ?_, fun id h => ?_⟩
  · rw [ho]
    exact List.mem_append_left _ h
  · rw [Table.mem_keys, ho, hr] at h
    rcases h with ⟨r, h, rfl⟩ | h
    · rcases List.mem_append.mp h with h | h
      · exact .inl (Table.key_mem_keys h)
      · exact .inr (hnew r h)
    · exact .inl (Table.mem_keys.mpr (.inr h))

/-- Tickets are rewritten, and events are added. -/
lemma modifyTickets {p : Ticket → Bool} {f : Ticket → Ticket} {hf : ∀ t, (f t).id = t.id}
    {outbox : Table EventOutbox} (href : ∀ t, (f t).reference = t.reference)
    (h : db.Undisturbed env { db with outbox }) :
    db.Undisturbed env { db with tickets := db.tickets.modifyWhere p f hf, outbox } where
  references := Table.map_rows_modifyWhere db.tickets p f hf Ticket.reference fun t _ => href t
  keys := Table.keys_modifyWhere db.tickets p f hf
  column id := by
    dsimp only
    rw [Table.column_modifyWhere href]
  organizations := h.organizations
  users := h.users
  events := h.events
  eventKeys := h.eventKeys

end Db.Undisturbed

/-- A call that neither creates a ticket nor removes an organization. -/
lemma Call.Writes.undisturbed {env : Env} {db db' : Db} {call : Call}
    (h : Call.Writes env db call db') (hremoval : call.isRemoval = false)
    (hcreate : (Task.call call).isCreate = false) : db.Undisturbed env db' := by
  cases h with
  | registerInsert h _ => exact .of_users fun _ => Table.find?_isSome_insert? h
  | loginStamp => exact .modifyUsers
  | organizationsCreate h => exact .of_organizations fun _ => Table.find?_isSome_insert? h
  | organizationsUpdate => exact .modifyOrganizations
  | organizationsRemove _ _ => cases hremoval
  | usersInsert h _ => exact .of_users fun _ => Table.find?_isSome_insert? h
  | usersUpdate => exact .modifyUsers
  | usersDeactivate => exact .modifyUsers
  | ticketsCreate _ _ _ _ => cases hcreate
  | ticketsUpdate _ ho hr =>
    refine .modifyTickets (fun _ => rfl) (.of_events ho hr fun r hmem => ?_)
    rcases List.mem_cons.mp hmem with rfl | hmem
    · exact ⟨_, rfl⟩
    · split at hmem
      · obtain rfl := List.mem_singleton.mp hmem
        exact ⟨_, rfl⟩
      · cases hmem
  | ticketsAssign _ ho _ hr =>
    refine .modifyTickets (fun _ => rfl) (.of_events ho hr fun r hmem => ?_)
    obtain rfl := List.mem_singleton.mp hmem
    exact ⟨_, rfl⟩
  | commentsCreate _ ho _ hr =>
    refine .of_events ho hr fun r hmem => ?_
    obtain rfl := List.mem_singleton.mp hmem
    exact ⟨_, rfl⟩
  | _ => exact ⟨rfl, rfl, fun _ => rfl, fun _ h => h, fun _ h => h, fun _ h => h, fun _ h => .inl h⟩

lemma Call.Executes.undisturbed {env : Env} {db db' : Db} {call call' : Call}
    (h : Call.Executes env db call db' call') (hremoval : call.isRemoval = false)
    (hcreate : (Task.call call).isCreate = false) : db.Undisturbed env db' := by
  cases h with
  | wrote h => exact h.undisturbed hremoval hcreate
  | _ => exact .refl env db

/-- No call becomes a `create` on its way. -/
lemma Call.Executes.isCreate {env : Env} {db db' : Db} {call call' : Call}
    (h : Call.Executes env db call db' call') (hcall : (Task.call call).isCreate = false) :
    (Task.call call').isCreate = false := by
  cases h with
  | checked h => cases h <;> rfl
  | finished => exact hcall
  | _ => rfl

end SupportPlatform
