import SupportPlatform.Creation.References

/-!
# The statements of `create`

`TicketsService.create` statement by statement: the count, the insertion, the event and the commit.
Until the commit the inserted rows are the transaction's own, and no other one sees them.
-/

namespace SupportPlatform

open TicketsService EventPublisherService

/-- A `create` past its count: what it has left to do, and the uncommitted rows it holds. -/
inductive Creation where
  | inserting (actor : AuthenticatedUser) (dto : CreateTicketDto) (correlationId : Option String)
      (reference : String)
  | enqueueing (ticket : Ticket) (correlationId : Option String)
  | committing (ticket : Ticket) (row : EventOutbox)
  | committed (ticket : Ticket) (row : EventOutbox)
  | rejected (e : PrismaError)
deriving DecidableEq

namespace Creation

/-- The count, the first statement. -/
def count (env : Env) (db : Db) (actor : AuthenticatedUser) (dto : CreateTicketDto)
    (cid : Option String) : Creation :=
  match nextReference env db with
  | .error e => .rejected e
  | .ok (reference, _) => .inserting actor dto cid reference

/-- The next statement. `locked` says that another open transaction has inserted a ticket with the
reference, which makes the insertion wait for it. -/
def exec (env : Env) (db : Db) (locked : String → Bool) : Creation → Option (Db × Creation)
  | .inserting actor dto cid reference =>
    match required dto.priority .medium env db with
    | .error e => some (db, .rejected e)
    | .ok (priority, _) =>
      if locked reference then none
      else
        match createTicket (newTicket env actor dto reference priority) env db with
        | .error e => some (db, .rejected e)
        | .ok (ticket, _) => some (db, .enqueueing ticket cid)
  | .enqueueing ticket cid =>
    match enqueue .ticketCreated (.ticketCreated (createdPayload ticket)) cid
        (createdPayload_key ticket) env db with
    | .error e => some (db, .rejected e)
    | .ok _ => some (db, .committing ticket (createdRow env ticket cid))
  | .committing ticket row =>
    match env.fault .commit with
    | some e => some (db, .rejected e)
    | none =>
      match db.tickets.insert? ticket, db.outbox.insert? row with
      | some tickets, some outbox => some ({ db with tickets, outbox }, .committed ticket row)
      | _, _ => some (db, .rejected .uniqueViolation)
  | c => some (db, c)

/-- The transaction is open: the count is done and the commit is not. -/
def isOpen : Creation → Bool
  | .inserting .. | .enqueueing .. | .committing .. => true
  | _ => false

/-- The ticket inserted and not committed. -/
def uncommitted : Creation → Option Ticket
  | .enqueueing ticket _ | .committing ticket _ => some ticket
  | _ => none

/-! ### Alone -/

/-- The statements one after the other, with no other transaction in between. -/
def runAlone (env : Env) (db : Db) (actor : AuthenticatedUser) (dto : CreateTicketDto)
    (cid : Option String) : Option (Db × Creation) :=
  ((count env db actor dto cid).exec env db fun _ => false).bind fun p =>
    (p.2.exec env p.1 fun _ => false).bind fun p => p.2.exec env p.1 fun _ => false

/-- How a `create` that ran as a whole stands. -/
def ofResult (env : Env) (cid : Option String) : Except PrismaError Ticket × Db → Db × Creation
  | (.ok ticket, db) => (db, .committed ticket (createdRow env ticket cid))
  | (.error e, db) => (db, .rejected e)

/-- Alone, the statements do what `create` does as a whole. -/
theorem runAlone_eq (env : Env) (db : Db) (actor : AuthenticatedUser) (dto : CreateTicketDto)
    (cid : Option String) :
    runAlone env db actor dto cid =
      some (ofResult env cid ((create actor dto cid).commit env db)) := by
  rw [runAlone, count, Transaction.commit, create, interactive]
  simp only [Transaction.bind_apply, Transaction.ask_apply]
  cases hcount : nextReference env db with
  | error e => rfl
  | ok p =>
    obtain ⟨r, db₁⟩ := p
    obtain ⟨-, -, hdb⟩ := nextReference_eq_ok.mp hcount
    subst hdb
    dsimp only
    rw [exec]
    cases hreq : required dto.priority .medium env db₁ with
    | error e => rfl
    | ok q =>
      obtain ⟨priority, db₂⟩ := q
      obtain ⟨-, -, hdb⟩ := required_eq_ok.mp hreq
      subst hdb
      dsimp only
      rw [if_neg Bool.false_ne_true]
      cases hticket : createTicket (newTicket env actor dto r priority) env db₂ with
      | error e => rfl
      | ok q =>
        obtain ⟨ticket, db₃⟩ := q
        obtain ⟨-, -, -, tickets, ht, rfl, rfl⟩ := createTicket_eq_ok.mp hticket
        simp only [Option.bind_some, exec, enqueue_apply]
        cases env.fault (.enqueue .ticketCreated) with
        | some e => rfl
        | none =>
          cases ho : db₂.outbox.insert?
              (createdRow env (newTicket env actor dto r priority) cid) with
          | none =>
            rw [createdRow] at ho
            simp only [ho]
            rfl
          | some outbox =>
            rw [createdRow] at ho
            simp only [ho, Option.bind_some, createdRow, attempt]
            cases env.fault .commit with
            | some e => rfl
            | none =>
              simp only [ht]
              rfl
/-! ### What a statement does when nothing is in its way -/

section Forward

variable {env : Env} {db : Db} {locked : String → Bool} {actor : AuthenticatedUser}
  {dto : CreateTicketDto} {cid : Option String}

lemma count_eq (henv : env.Faultless) :
    count env db actor dto cid =
      .inserting actor dto cid (reference db.tickets.rows.length) := by
  rw [count, nextReference_eq_ok.mpr ⟨henv.1, rfl, rfl⟩]

lemma exec_inserting {r : String} (henv : env.Serves db) (hdto : dto.Typed)
    (hlocked : locked r = false) (hfree : ∀ t ∈ db.tickets.rows, t.reference ≠ r)
    (hlink : (db.organizations.find? actor.organizationId).isSome ∧
      (db.users.find? actor.id).isSome) :
    exec env db locked (.inserting actor dto cid r) =
      some (db, .enqueueing (newTicket env actor dto r (dto.priority.getD .medium)) cid) := by
  obtain ⟨⟨-, hfault, -⟩, hid, -⟩ := henv
  obtain ⟨tickets, ht⟩ := Table.insert?_of_free (t := db.tickets)
    (r := newTicket env actor dto r (dto.priority.getD .medium)) hid
  rw [exec, required_eq_ok.mpr ⟨hdto, rfl, rfl⟩]
  dsimp only
  rw [hlocked, if_neg Bool.false_ne_true,
    createTicket_eq_ok.mpr ⟨hfault, hfree, hlink, tickets, ht, rfl, rfl⟩]

lemma exec_enqueueing {t : Ticket} (henv : env.Serves db) :
    exec env db locked (.enqueueing t cid) = some (db, .committing t (createdRow env t cid)) := by
  obtain ⟨⟨-, -, hfault, -⟩, -, hid⟩ := henv
  obtain ⟨outbox, ho⟩ := Table.insert?_of_free (t := db.outbox) (r := createdRow env t cid) hid
  rw [exec, (enqueue_eq_ok (u := ())).mpr ⟨hfault, outbox, ho, rfl⟩]

lemma exec_committing {t : Ticket} {row : EventOutbox} (henv : env.Faultless)
    (ht : t.id ∉ db.tickets.keys) (hrow : row.id ∉ db.outbox.keys) :
    ∃ tickets outbox, db.tickets.insert? t = some tickets ∧ db.outbox.insert? row = some outbox ∧
      exec env db locked (.committing t row) =
        some ({ db with tickets, outbox }, .committed t row) := by
  obtain ⟨tickets, ht⟩ := Table.insert?_of_free (t := db.tickets) (r := t) ht
  obtain ⟨outbox, ho⟩ := Table.insert?_of_free (t := db.outbox) (r := row) hrow
  refine ⟨tickets, outbox, ht, ho, ?_⟩
  rw [exec, henv.2.2.2, ht, ho]

end Forward

end Creation

end SupportPlatform
