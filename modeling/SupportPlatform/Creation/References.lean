import SupportPlatform.Api.Calls
import SupportPlatform.Core.Numbering

/-!
# Ticket references

`nextReference` labels a new ticket with the number of tickets there are. This gives a free
reference as long as the tickets, in the order they were created, have the references of
`0, 1, 2, ...`. Every write of a service call keeps this up, except the removal of an organization
that leaves a ticket younger than one it takes.
-/

namespace SupportPlatform

namespace Db

/-- The references of the tickets, in the order of their creation. -/
def references (db : Db) : List String := db.tickets.rows.map Ticket.reference

@[simp] lemma length_references (db : Db) : db.references.length = db.tickets.rows.length :=
  List.length_map ..

/-- The references in use are those of `0, 1, 2, ...`. -/
def ReferencesNumbered (db : Db) : Prop := Numbered TicketsService.reference db.references

/-- Every user belongs to an organization that is there. -/
def Homed (db : Db) : Prop :=
  ∀ u ∈ db.users.rows, (db.organizations.find? u.organizationId).isSome

/-- The tickets of the organization are the youngest ones. -/
def HasYoungest (db : Db) (id : Uuid) : Prop :=
  db.tickets.rows.filter (·.organizationId ≠ id) <+: db.tickets.rows

instance (db : Db) (id : Uuid) : Decidable (db.HasYoungest id) :=
  inferInstanceAs (Decidable (_ <+: _))

lemma homed_empty : empty.Homed := fun _ hu => by cases hu

lemma referencesNumbered_empty : empty.ReferencesNumbered := Numbered.nil _

/-- With the references numbered, the next one is free. -/
lemma ReferencesNumbered.free {db : Db} (h : db.ReferencesNumbered) :
    ∀ t ∈ db.tickets.rows, t.reference ≠ TicketsService.reference db.tickets.rows.length := by
  intro t ht heq
  apply h.length_notMem TicketsService.reference_injective
  rw [length_references, ← heq]
  exact List.mem_map_of_mem ht

/-- A new ticket with the reference of the present number goes on with the numbering. -/
lemma ReferencesNumbered.insertTicket {db : Db} {t : Ticket} {tickets : Table Ticket}
    {outbox : Table EventOutbox} (h : db.ReferencesNumbered)
    (ht : db.tickets.insert? t = some tickets)
    (href : t.reference = TicketsService.reference db.tickets.rows.length) :
    ({ db with tickets, outbox } : Db).ReferencesNumbered := by
  have hrows : tickets.rows = db.tickets.rows ++ [t] := (Table.insert?_eq_some.mp ht).2.1
  have hconcat := h.concat
  rw [length_references, ← href] at hconcat
  rw [ReferencesNumbered, references, hrows, List.map_append]
  exact hconcat

/-- A rewriting of tickets that leaves the references alone. -/
lemma ReferencesNumbered.modifyTickets {db : Db} {p : Ticket → Bool} {f : Ticket → Ticket}
    {hf : ∀ t, (f t).id = t.id} {outbox : Table EventOutbox} (h : db.ReferencesNumbered)
    (href : ∀ t, (f t).reference = t.reference) :
    ({ db with tickets := db.tickets.modifyWhere p f hf, outbox } : Db).ReferencesNumbered := by
  rw [ReferencesNumbered, references,
    Table.map_rows_modifyWhere _ _ _ _ Ticket.reference fun t _ => href t]
  exact h

/-- The removal of an organization whose tickets are the youngest keeps the numbering. -/
lemma ReferencesNumbered.dropOrganization {db : Db} {id : Uuid} (h : db.ReferencesNumbered)
    (hid : db.HasYoungest id) : (db.dropOrganization id).ReferencesNumbered := by
  have hrows : (db.tickets.removeWhere (·.organizationId = id)).rows =
      db.tickets.rows.filter (·.organizationId ≠ id) := by
    rw [Table.rows_removeWhere]
    simp only [ne_eq, decide_not]
  have hnumbered : Numbered TicketsService.reference
      ((db.tickets.removeWhere (·.organizationId = id)).rows.map Ticket.reference) :=
    h.of_prefix (hrows ▸ hid.map Ticket.reference)
  rw [← Table.map_rows_modifyWhere _ (fun t => t.assignedToId.any fun u => db.userOrg u = some id)
    (fun t => { t with assignedToId := none }) (fun _ => rfl) Ticket.reference fun _ _ => rfl]
    at hnumbered
  exact hnumbered

/-- A user the guards find belongs to an organization that is there. -/
lemma Homed.actor {db : Db} (h : db.Homed) {sub : Uuid} {actor : AuthenticatedUser}
    (hactor : JwtStrategy.validate db sub = .ok actor) :
    (db.organizations.find? actor.organizationId).isSome ∧ (db.users.find? actor.id).isSome := by
  obtain ⟨u, hu, hid, horg, -⟩ := JwtStrategy.validate_ok hactor
  rw [← hid, ← horg]
  exact ⟨h u hu, Table.find?_isSome_of_mem hu⟩

section Homed

variable {db : Db} (h : db.Homed)
include h

lemma Homed.insertUser {u : User} {users : Table User} (hu : db.users.insert? u = some users)
    (hlink : (db.organizations.find? u.organizationId).isSome) :
    ({ db with users } : Db).Homed := by
  intro a ha
  rcases (Table.mem_insert? hu).mp ha with ha | rfl
  · exact h a ha
  · exact hlink

lemma Homed.modifyUsers {p : User → Bool} {f : User → User} {hf : ∀ u, (f u).id = u.id}
    (horg : ∀ u, (f u).organizationId = u.organizationId) :
    ({ db with users := db.users.modifyWhere p f hf } : Db).Homed := by
  intro a ha
  obtain ⟨u, hu, rfl⟩ := List.mem_map.mp ha
  split
  · exact horg u ▸ h u hu
  · exact h u hu

lemma Homed.of_organizations {organizations : Table Organization}
    (hkeep : ∀ id, (db.organizations.find? id).isSome → (organizations.find? id).isSome) :
    ({ db with organizations } : Db).Homed :=
  fun u hu => hkeep _ (h u hu)

lemma Homed.modifyOrganizations {p : Organization → Bool} {f : Organization → Organization}
    {hf : ∀ o, (f o).id = o.id} :
    ({ db with organizations := db.organizations.modifyWhere p f hf } : Db).Homed :=
  h.of_organizations fun id hid => by rwa [Table.find?_isSome_modifyWhere]

lemma Homed.dropOrganization (id : Uuid) : (db.dropOrganization id).Homed := by
  intro u hu
  obtain ⟨hu, hne⟩ := List.mem_filter.mp hu
  have hne : u.organizationId ≠ id := by simpa using hne
  refine Table.find?_isSome_removeWhere (g := Organization.id) (fun _ => rfl) (h u hu) ?_
  intro hid
  obtain ⟨o, -, hkey, rfl⟩ := Table.column_eq_some.mp hid
  exact hne hkey.symm

end Homed

end Db

namespace Call

variable {env : Env} {db db' : Db} {call call' : Call}

lemma Writes.homed (h : Writes env db call db') (hdb : db.Homed) : db'.Homed := by
  cases h with
  | registerInsert h hlink => exact hdb.insertUser h hlink
  | loginStamp => exact hdb.modifyUsers fun _ => rfl
  | organizationsCreate h => exact hdb.of_organizations fun _ => Table.find?_isSome_insert? h
  | organizationsUpdate => exact hdb.modifyOrganizations
  | organizationsRemove _ _ => exact hdb.dropOrganization _
  | usersInsert h hlink => exact hdb.insertUser h hlink
  | usersUpdate => exact hdb.modifyUsers fun _ => rfl
  | usersDeactivate => exact hdb.modifyUsers fun _ => rfl
  | _ => exact hdb

lemma Executes.homed (h : Executes env db call db' call') (hdb : db.Homed) : db'.Homed := by
  cases h with
  | wrote h => exact h.homed hdb
  | _ => exact hdb

/-- A call about to take an organization that has not got the youngest tickets. -/
def LeavesGap (env : Env) (db : Db) : Call → Prop
  | .organizationsRemoveWrite id =>
    env.fault .query = none ∧ db.restrictsDrop id = false ∧ ¬ db.HasYoungest id
  | _ => False

instance (env : Env) (db : Db) : DecidablePred (LeavesGap env db) := fun call => by
  unfold LeavesGap
  split <;> infer_instance

/-- Every write but such a removal keeps the references numbered. -/
lemma Writes.referencesNumbered (h : Writes env db call db') (hgap : ¬ LeavesGap env db call)
    (hdb : db.ReferencesNumbered) : db'.ReferencesNumbered := by
  cases h with
  | organizationsRemove hrestrict hfault =>
    apply hdb.dropOrganization
    by_contra hid
    exact hgap ⟨hfault, hrestrict, hid⟩
  | ticketsCreate ht _ _ => exact hdb.insertTicket ht rfl
  | ticketsUpdate _ _ => exact hdb.modifyTickets fun _ => rfl
  | ticketsAssign _ _ _ => exact hdb.modifyTickets fun _ => rfl
  | _ => exact hdb

lemma Executes.referencesNumbered (h : Executes env db call db' call')
    (hgap : ¬ LeavesGap env db call) (hdb : db.ReferencesNumbered) : db'.ReferencesNumbered := by
  cases h with
  | wrote h => exact h.referencesNumbered hgap hdb
  | _ => exact hdb

end Call

/-! ### What `create` needs -/

/-- The body is of the type its class declares: `priority?: TicketPriority` has no `null`. The
bounds on the texts are not needed. -/
def CreateTicketDto.Typed (dto : CreateTicketDto) : Prop := dto.priority ≠ .null

instance (dto : CreateTicketDto) : Decidable dto.Typed := inferInstanceAs (Decidable (_ ≠ _))

/-- No statement of `create` fails. -/
def Env.Faultless (env : Env) : Prop :=
  env.fault .count = none ∧ env.fault .write = none ∧
    env.fault (.enqueue .ticketCreated) = none ∧ env.fault .commit = none

instance (env : Env) : Decidable env.Faultless := inferInstanceAs (Decidable (_ ∧ _))

/-- The environment of a `create` that is hit by no fault and gets fresh ids. -/
def Env.Serves (env : Env) (db : Db) : Prop :=
  env.Faultless ∧ env.uuid .write 0 ∉ db.tickets.keys ∧
    env.uuid (.enqueue .ticketCreated) 0 ∉ db.outbox.keys

instance (env : Env) (db : Db) : Decidable (env.Serves db) := inferInstanceAs (Decidable (_ ∧ _))

lemma TicketsService.create_isOk {actor : AuthenticatedUser} {dto : CreateTicketDto} {env : Env}
    {db : Db} (hdto : dto.Typed) (cid : Option String) (henv : env.Serves db)
    (hlink : (db.organizations.find? actor.organizationId).isSome ∧
      (db.users.find? actor.id).isSome)
    (hfree : ∀ t ∈ db.tickets.rows, t.reference ≠ reference db.tickets.rows.length) :
    ∃ t db', create actor dto cid env db = .ok (t, db') := by
  obtain ⟨hfault, hid, hevent⟩ := henv
  obtain ⟨tickets, ht⟩ := Table.insert?_of_free (t := db.tickets)
    (r := nextTicket env actor dto db) hid
  obtain ⟨outbox, ho⟩ := Table.insert?_of_free (t := db.outbox)
    (r := createdRow env (nextTicket env actor dto db) cid) hevent
  exact ⟨_, _, create_eq_ok.mpr ⟨hfault, hdto, hfree, hlink, tickets, outbox, ht, ho, rfl, rfl⟩⟩

end SupportPlatform
