import SupportPlatform.Core.Machine
import SupportPlatform.Creation.References

/-!
# One operation after the other

The operations of the services in a serial sequence, from the empty database: a new one starts when
the one before is over. The guards are left out, so an operation may come from any user.
-/

namespace SupportPlatform

/-- The database and the operation in progress, or the last one. -/
structure Serial where
  db : Db
  call : Call

/-- The call is over. -/
def Call.isDone : Call → Bool
  | .done _ => true
  | _ => false

inductive SerialEvent where
  | request (user : AuthenticatedUser) (correlationId : Option String) (request : Request)
  | proceed (env : Env)

namespace Serial

/-- Nothing has happened. -/
def initial : Serial := ⟨.empty, .done (.ok ())⟩

/-- One step of the sequence; `none` when the operation before is not over. -/
def step (s : Serial) : SerialEvent → Option Serial
  | .request user correlationId request =>
    if s.call.isDone then some { s with call := .ofRequest user correlationId request } else none
  | .proceed env => some ⟨(s.call.exec env s.db).1, (s.call.exec env s.db).2⟩

/-- All that a step can do. -/
inductive Steps (s : Serial) : SerialEvent → Serial → Prop
  | request {user correlationId request} (h : s.call.isDone) :
    Steps s (.request user correlationId request)
      { s with call := .ofRequest user correlationId request }
  | proceed {env db call} (h : Call.Executes env s.db s.call db call) :
    Steps s (.proceed env) ⟨db, call⟩

theorem step_cases {s s' : Serial} {e : SerialEvent} (h : step s e = some s') : Steps s e s' := by
  cases e with
  | request user correlationId request =>
    rw [step] at h
    split_ifs at h with hdone
    cases h
    exact .request hdone
  | proceed env =>
    cases h
    exact .proceed (Call.exec_cases rfl)

/-- No removal takes a ticket and leaves a younger one. -/
def LeavesNoGap (s : Serial) : SerialEvent → Prop
  | .proceed env => ¬ s.call.LeavesGap env s.db
  | _ => True

instance (s : Serial) : DecidablePred s.LeavesNoGap := fun e => by
  unfold LeavesNoGap
  split <;> infer_instance

lemma Steps.homed {s s' : Serial} {e : SerialEvent} (h : Steps s e s') (hs : s.db.Homed) :
    s'.db.Homed := by
  cases h with
  | request _ => exact hs
  | proceed h => exact h.homed hs

lemma Steps.referencesNumbered {s s' : Serial} {e : SerialEvent} (h : Steps s e s')
    (he : s.LeavesNoGap e) (hs : s.db.ReferencesNumbered) : s'.db.ReferencesNumbered := by
  cases h with
  | request _ => exact hs
  | proceed h => exact h.referencesNumbered he hs

lemma homed_of_exec {s : Serial} {es : List SerialEvent}
    (h : Machine.exec step initial es = some s) : s.db.Homed :=
  Machine.exec_invariant step (I := fun s => s.db.Homed)
    (fun _ _ _ hs h => (step_cases h).homed hs) Db.homed_empty h

lemma referencesNumbered_of_exec {s : Serial} {es : List SerialEvent}
    (h : Machine.exec step initial es = some s)
    (hgap : Machine.Guarded step LeavesNoGap initial es) : s.db.ReferencesNumbered :=
  Machine.exec_guarded_invariant step (I := fun s => s.db.ReferencesNumbered)
    (fun _ _ _ hs he h => (step_cases h).referencesNumbered he hs)
    Db.referencesNumbered_empty hgap h

end Serial

namespace Serial

/-- Ticket creation never wedges as long as no removal of an organization takes a ticket and leaves
a younger one: the reference of `nextReference` is free and `create` commits. -/
theorem create_never_wedges {s : Serial} {es : List SerialEvent}
    (hrun : Machine.exec step initial es = some s)
    (hgap : Machine.Guarded step LeavesNoGap initial es) {sub : Uuid} {actor : AuthenticatedUser}
    (hactor : JwtStrategy.validate s.db sub = .ok actor) {dto : CreateTicketDto}
    (hdto : dto.Typed) (cid : Option String) {env : Env} (henv : env.Serves s.db) :
    (∃ r, TicketsService.nextReference env s.db = .ok (r, s.db) ∧
        ∀ t ∈ s.db.tickets.rows, t.reference ≠ r) ∧
      ∃ t db, (TicketsService.create actor dto cid).commit env s.db = (.ok t, db) := by
  have hfree := (referencesNumbered_of_exec hrun hgap).free
  refine ⟨⟨_, TicketsService.nextReference_eq_ok.mpr ⟨henv.1.1, rfl, rfl⟩, hfree⟩, ?_⟩
  obtain ⟨t, db, hcreate⟩ := TicketsService.create_isOk hdto cid henv
    ((homed_of_exec hrun).actor hactor) hfree
  exact ⟨t, db, Transaction.commit_eq_ok.mpr hcreate⟩

/-! ### Two organizations -/

/-- The administrator who sets the organizations up. -/
def operator : AuthenticatedUser := ⟨11, "admin@acme.test", .admin, 1⟩

/-- The customer of the first organization. -/
def carol : AuthenticatedUser := ⟨510, "carol@acme.test", .customer, 110⟩

/-- The customer of the second organization. -/
def dave : AuthenticatedUser := ⟨810, "dave@globex.test", .customer, 210⟩

/-- Two organizations are set up, a customer registers in each, and each creates a ticket, the one
of the first organization before the other. Then the organization `id` is removed. -/
def removalRun (id : Uuid) : List SerialEvent :=
  [.request operator none (.createOrganization ⟨"Acme Inc.", "acme-inc"⟩), .proceed (Seed.env 1),
    .request operator none (.createOrganization ⟨"Globex", "globex"⟩), .proceed (Seed.env 2),
    .request operator none (.register ⟨carol.email, "Password123!", "Carol", "Customer", 110⟩),
    .proceed (Seed.env 3), .proceed (Seed.env 4), .proceed (Seed.env 5),
    .request operator none (.register ⟨dave.email, "Password123!", "Dave", "Customer", 210⟩),
    .proceed (Seed.env 6), .proceed (Seed.env 7), .proceed (Seed.env 8),
    .request carol none (.createTicket Seed.ticketDto), .proceed (Seed.env 9),
    .request dave none (.createTicket Seed.ticketDto), .proceed (Seed.env 10),
    .request operator none (.removeOrganization id),
    .proceed (Seed.env 11), .proceed (Seed.env 12)]

/-- After the removal of the organization of the younger ticket, the other customer creates one. -/
theorem create_never_wedges_removal :
    ∃ s, Machine.exec step initial (removalRun 210) = some s ∧
      (∃ r, TicketsService.nextReference (Seed.env 13) s.db = .ok (r, s.db) ∧
        ∀ t ∈ s.db.tickets.rows, t.reference ≠ r) ∧
      ∃ t db, (TicketsService.create carol Seed.ticketDto none).commit (Seed.env 13) s.db =
        (.ok t, db) := by
  have hgap : Machine.Guarded step LeavesNoGap initial (removalRun 210) := by decide
  have hstate : (Machine.exec step initial (removalRun 210)).any fun s =>
      JwtStrategy.validate s.db 510 = .ok carol ∧ (Seed.env 13).Serves s.db := by decide
  obtain ⟨s, hrun, hactor, hserves⟩ := Machine.exists_of_any hstate
  exact ⟨s, hrun,
    create_never_wedges hrun hgap hactor (by decide : Seed.ticketDto.Typed) none hserves⟩

/-- After the removal of the organization of the older ticket, the reference of the younger one is
the next, and no customer creates a ticket any more. -/
theorem create_wedged :
    ¬ ∀ es s, Machine.exec step initial es = some s →
      ∀ sub actor, JwtStrategy.validate s.db sub = .ok actor → ∀ dto : CreateTicketDto, dto.Typed →
        ∀ cid env, env.Serves s.db →
          ∃ t db, (TicketsService.create actor dto cid).commit env s.db = (.ok t, db) := by
  intro hall
  have hstate : (Machine.exec step initial (removalRun 110)).any fun s =>
      JwtStrategy.validate s.db 810 = .ok dave ∧ (Seed.env 13).Serves s.db ∧
        s.db.references = [TicketsService.reference s.db.tickets.rows.length] := by decide
  obtain ⟨s, hrun, hactor, hserves, hreferences⟩ := Machine.exists_of_any hstate
  obtain ⟨t, db, hcreate⟩ := hall _ s hrun 810 dave hactor Seed.ticketDto (by decide) none
    (Seed.env 13) hserves
  obtain ⟨-, -, hfree, -⟩ := TicketsService.create_eq_ok.mp (Transaction.commit_eq_ok.mp hcreate)
  have hmem : TicketsService.reference s.db.tickets.rows.length ∈ s.db.references :=
    hreferences ▸ List.mem_singleton_self _
  obtain ⟨r, hr, heq⟩ := List.mem_map.mp hmem
  exact hfree r hr heq

end Serial

end SupportPlatform
