import SupportPlatform.Core.Transaction
import SupportPlatform.Schema.Tables

/-!
# Database statements

What a Prisma call does to the tables, with the constraints of the schema it can run into: unique
columns (`P2002`), foreign keys (`P2003`), missing records (`P2025`) and `null` in a required
column. Every statement can also be hit by a fault of its environment.
-/

namespace SupportPlatform

/-- A transaction body of the application. -/
abbrev DbTx := Transaction Env Db PrismaError

/-- One statement: the environment may make it fail, else it acts on the tables. -/
def attempt {α : Type} (st : Statement) (f : Db → Except PrismaError (α × Db)) : DbTx α :=
  fun env db =>
    match env.fault st with
    | some e => .error e
    | none => f db

lemma attempt_eq_ok {α : Type} {st : Statement} {f : Db → Except PrismaError (α × Db)} {env : Env}
    {db db' : Db} {a : α} :
    attempt st f env db = .ok (a, db') ↔ env.fault st = none ∧ f db = .ok (a, db') := by
  unfold attempt
  split <;> simp_all

/-- `prisma.$transaction(async (tx) => ...)`: the body, then the commit. -/
def interactive {α : Type} (body : DbTx α) : DbTx α := do
  let a ← body
  attempt .commit fun db => .ok ((), db)
  return a

lemma interactive_eq_ok {α : Type} {body : DbTx α} {env : Env} {db db' : Db} {a : α} :
    interactive body env db = .ok (a, db') ↔
      body env db = .ok (a, db') ∧ env.fault .commit = none := by
  simp only [interactive, Transaction.bind_eq_ok, attempt_eq_ok, Except.ok.injEq, Prod.mk.injEq,
    Transaction.pure_apply]
  constructor
  · rintro ⟨a', db₁, hbody, _, db₂, ⟨hfault, -, rfl⟩, rfl, rfl⟩
    exact ⟨hbody, hfault⟩
  · rintro ⟨hbody, hfault⟩
    exact ⟨a, db', hbody, (), db', ⟨hfault, trivial, rfl⟩, rfl, rfl⟩

/-- The value of a required column: Prisma takes the default for `undefined` and refuses `null`. -/
def required {α : Type} (field : Field α) (default : α) : DbTx α :=
  match field with
  | .null => .throw .nullArgument
  | _ => pure (field.getD default)

lemma required_eq_ok {α : Type} {field : Field α} {d a : α} {env : Env} {db db' : Db} :
    required field d env db = .ok (a, db') ↔ field ≠ .null ∧ a = field.getD d ∧ db' = db := by
  cases field <;> simp [required, Field.getD, eq_comm]

/-- The new value of a nullable column: `undefined` keeps the old one. -/
def Field.overwrite {α : Type} : Field α → Option α → Option α
  | .undefined, old => old
  | .null, _ => none
  | .value a, _ => some a

lemma map_eq_ok {ε α β : Type} {x : Except ε α} {f : α → β} {b : β} :
    x.map f = .ok b ↔ ∃ a, x = .ok a ∧ f a = b := by
  cases x <;> simp [Except.map]

/-! ### Insertion and update of one row -/

section Rows

variable {α κ : Type} [Keyed α κ] [DecidableEq κ]

/-- Insert a row, unless another unique column of it is `taken` or one of its foreign keys is not
`linked` to a row. -/
def insertRow (t : Table α) (r : α) (taken linked : Bool) : Except PrismaError (Table α) :=
  if taken then .error .uniqueViolation
  else if !linked then .error .foreignKeyViolation
  else
    match t.insert? r with
    | none => .error .uniqueViolation
    | some u => .ok u

lemma insertRow_eq_ok {t u : Table α} {r : α} {taken linked : Bool} :
    insertRow t r taken linked = .ok u ↔
      taken = false ∧ linked = true ∧ t.insert? r = some u := by
  unfold insertRow
  cases taken <;> cases linked <;> simp
  split <;> simp_all

/-- Update a row by primary key, under the same constraints. -/
def updateRow (t : Table α) (k : κ) (f : α → α) (hf : ∀ r, Keyed.key (f r) = Keyed.key r)
    (taken linked : Bool) : Except PrismaError (α × Table α) :=
  match t.find? k with
  | none => .error .recordNotFound
  | some r =>
    if taken then .error .uniqueViolation
    else if !linked then .error .foreignKeyViolation
    else .ok (f r, t.modify k f hf)

lemma updateRow_eq_ok {t u : Table α} {k : κ} {f : α → α}
    {hf : ∀ r, Keyed.key (f r) = Keyed.key r} {taken linked : Bool} {a : α} :
    updateRow t k f hf taken linked = .ok (a, u) ↔
      taken = false ∧ linked = true ∧ u = t.modify k f hf ∧
        ∃ r, t.find? k = some r ∧ a = f r := by
  unfold updateRow
  split
  · next hnone => simp [hnone]
  · next r hr =>
    cases taken <;> cases linked <;> simp [hr, eq_comm, and_comm]

/-- A statement that inserts a row into one table, told from its success. -/
lemma attempt_insertRow_eq_ok {st : Statement} {table : Db → Table α} {put : Db → Table α → Db}
    {taken linked : Db → Bool} {r a : α} {env : Env} {db db' : Db} :
    attempt st (fun db => (insertRow (table db) r (taken db) (linked db)).map
        fun u => (r, put db u)) env db = .ok (a, db') ↔
      env.fault st = none ∧ taken db = false ∧ linked db = true ∧
        ∃ u, (table db).insert? r = some u ∧ a = r ∧ db' = put db u := by
  simp only [attempt_eq_ok, map_eq_ok, insertRow_eq_ok, Prod.mk.injEq]
  constructor
  · rintro ⟨hf, u, ⟨ht, hl, hu⟩, rfl, rfl⟩
    exact ⟨hf, ht, hl, u, hu, rfl, rfl⟩
  · rintro ⟨hf, ht, hl, u, hu, rfl, rfl⟩
    exact ⟨hf, u, ⟨ht, hl, hu⟩, rfl, rfl⟩

/-- A statement that updates a row of one table, told from its success. -/
lemma attempt_updateRow_eq_ok (table : Db → Table α) (put : Db → Table α → Db)
    {st : Statement} {taken linked : Db → Bool} {k : κ} {f : α → α}
    {hf : ∀ r, Keyed.key (f r) = Keyed.key r} {a : α} {env : Env} {db db' : Db} :
    attempt st (fun db => (updateRow (table db) k f hf (taken db) (linked db)).map
        fun p => (p.1, put db p.2)) env db = .ok (a, db') ↔
      env.fault st = none ∧ taken db = false ∧ linked db = true ∧
        ∃ r, (table db).find? k = some r ∧ a = f r ∧ db' = put db ((table db).modify k f hf) := by
  simp only [attempt_eq_ok, map_eq_ok, Prod.exists, updateRow_eq_ok, Prod.mk.injEq]
  constructor
  · rintro ⟨hfault, b, u, ⟨ht, hl, rfl, r, hr, rfl⟩, rfl, rfl⟩
    exact ⟨hfault, ht, hl, r, hr, rfl, rfl⟩
  · rintro ⟨hfault, ht, hl, r, hr, rfl, rfl⟩
    exact ⟨hfault, f r, _, ⟨ht, hl, rfl, r, hr, rfl⟩, rfl, rfl⟩

end Rows

/-- A statement refused for its arguments before it reaches the database. -/
lemma attempt_ite_eq_ok {α : Type} {st : Statement} {refused : Bool} {e : PrismaError}
    {f : Db → Except PrismaError (α × Db)} {env : Env} {db db' : Db} {a : α} :
    attempt st (fun db => if refused then .error e else f db) env db = .ok (a, db') ↔
      refused = false ∧ attempt st f env db = .ok (a, db') := by
  cases refused <;> simp [attempt_eq_ok]

/-! ### Organizations and users -/

def createOrganization (o : Organization) : DbTx Organization :=
  attempt .query fun db =>
    (insertRow db.organizations o (db.organizations.rows.any (·.slug = o.slug)) true).map
      fun t => (o, { db with organizations := t })

lemma createOrganization_eq_ok {o a : Organization} {env : Env} {db db' : Db} :
    createOrganization o env db = .ok (a, db') ↔
      env.fault .query = none ∧ (∀ r ∈ db.organizations.rows, r.slug ≠ o.slug) ∧
        ∃ u, db.organizations.insert? o = some u ∧ a = o ∧ db' = { db with organizations := u } :=
  attempt_insertRow_eq_ok.trans (by simp)

/-- The columns an `UpdateOrganizationDto` writes. -/
def Organization.apply (dto : UpdateOrganizationDto) (o : Organization) : Organization :=
  { o with
    name := dto.name.getD o.name
    slug := dto.slug.getD o.slug
    isActive := dto.isActive.getD o.isActive }

/-- A body that sends `null` for a required column. -/
def UpdateOrganizationDto.hasNull (dto : UpdateOrganizationDto) : Bool :=
  dto.name = .null || dto.slug = .null || dto.isActive = .null

def updateOrganization (id : Uuid) (dto : UpdateOrganizationDto) : DbTx Organization :=
  attempt .query fun db =>
    if dto.hasNull then .error .nullArgument
    else
      (updateRow db.organizations id (·.apply dto) (fun _ => rfl)
        (db.organizations.rows.any fun o => o.id ≠ id ∧ dto.slug = .value o.slug) true).map
        fun p => (p.1, { db with organizations := p.2 })

lemma updateOrganization_eq_ok {id : Uuid} {dto : UpdateOrganizationDto} {a : Organization}
    {env : Env} {db db' : Db} (h : updateOrganization id dto env db = .ok (a, db')) :
    ∃ o, db.organizations.find? id = some o ∧
      db' = { db with organizations := db.organizations.modify id (·.apply dto) fun _ => rfl } := by
  obtain ⟨-, -, -, o, ho, -, hdb⟩ :=
    (attempt_updateRow_eq_ok Db.organizations fun db t => { db with organizations := t }).mp
      (attempt_ite_eq_ok.mp h).2
  exact ⟨o, ho, hdb⟩

/-- What belongs to the organization goes with it, unless a comment keeps one of its members. -/
def deleteOrganization (id : Uuid) : DbTx Unit :=
  attempt .query fun db =>
    match db.organizations.find? id with
    | none => .error .recordNotFound
    | some _ =>
      if db.restrictsDrop id then .error .foreignKeyViolation else .ok ((), db.dropOrganization id)

lemma deleteOrganization_eq_ok {id : Uuid} {a : Unit} {env : Env} {db db' : Db} :
    deleteOrganization id env db = .ok (a, db') ↔
      env.fault .query = none ∧ (db.organizations.find? id).isSome ∧
        db.restrictsDrop id = false ∧ db' = db.dropOrganization id := by
  rw [deleteOrganization, attempt_eq_ok]
  cases db.organizations.find? id with
  | none => simp
  | some o => cases db.restrictsDrop id <;> simp [eq_comm]

/-- `user.create`: `email` is unique and the organization must exist. -/
def createUser (u : User) : DbTx User :=
  attempt .query fun db =>
    (insertRow db.users u (db.users.rows.any (·.email = u.email))
      (db.organizations.find? u.organizationId).isSome).map
      fun t => (u, { db with users := t })

lemma createUser_eq_ok {u a : User} {env : Env} {db db' : Db} :
    createUser u env db = .ok (a, db') ↔
      env.fault .query = none ∧ (∀ r ∈ db.users.rows, r.email ≠ u.email) ∧
        (db.organizations.find? u.organizationId).isSome ∧
        ∃ users, db.users.insert? u = some users ∧ a = u ∧ db' = { db with users } :=
  attempt_insertRow_eq_ok.trans (by simp)

/-- The columns an `UpdateUserDto` writes. -/
def User.apply (dto : UpdateUserDto) (u : User) : User :=
  { u with
    email := dto.email.getD u.email
    firstName := dto.firstName.getD u.firstName
    lastName := dto.lastName.getD u.lastName
    role := dto.role.getD u.role
    isActive := dto.isActive.getD u.isActive }

/-- A body that sends `null` for a required column. -/
def UpdateUserDto.hasNull (dto : UpdateUserDto) : Bool :=
  dto.email = .null || dto.firstName = .null || dto.lastName = .null || dto.role = .null ||
    dto.isActive = .null

/-- `user.update` with an `UpdateUserDto`. -/
def updateUser (id : Uuid) (dto : UpdateUserDto) : DbTx User :=
  attempt .query fun db =>
    if dto.hasNull then .error .nullArgument
    else
      (updateRow db.users id (·.apply dto) (fun _ => rfl)
        (db.users.rows.any fun u => u.id ≠ id ∧ dto.email = .value u.email) true).map
        fun p => (p.1, { db with users := p.2 })

lemma updateUser_eq_ok {id : Uuid} {dto : UpdateUserDto} {a : User} {env : Env} {db db' : Db}
    (h : updateUser id dto env db = .ok (a, db')) :
    ∃ u, db.users.find? id = some u ∧
      db' = { db with users := db.users.modify id (·.apply dto) fun _ => rfl } := by
  obtain ⟨-, -, -, u, hu, -, hdb⟩ :=
    (attempt_updateRow_eq_ok Db.users fun db t => { db with users := t }).mp
      (attempt_ite_eq_ok.mp h).2
  exact ⟨u, hu, hdb⟩

/-- `user.update` of columns without constraints. -/
def setUser (id : Uuid) (f : User → User) (hf : ∀ u, (f u).id = u.id) : DbTx User :=
  attempt .query fun db =>
    (updateRow db.users id f hf false true).map fun p => (p.1, { db with users := p.2 })

lemma setUser_eq_ok {id : Uuid} {f : User → User} {hf : ∀ u, (f u).id = u.id} {a : User}
    {env : Env} {db db' : Db} (h : setUser id f hf env db = .ok (a, db')) :
    ∃ u, db.users.find? id = some u ∧ db' = { db with users := db.users.modify id f hf } := by
  obtain ⟨-, -, -, u, hu, -, hdb⟩ :=
    (attempt_updateRow_eq_ok Db.users fun db t => { db with users := t }).mp h
  exact ⟨u, hu, hdb⟩

/-! ### Tickets and comments -/

/-- `ticket.count()`. -/
def countTickets : DbTx Nat := attempt .count fun db => .ok (db.tickets.rows.length, db)

lemma countTickets_eq_ok {env : Env} {db db' : Db} {n : Nat} :
    countTickets env db = .ok (n, db') ↔
      env.fault .count = none ∧ n = db.tickets.rows.length ∧ db' = db := by
  rw [countTickets, attempt_eq_ok]
  simp [eq_comm]

/-- `ticket.create`: `reference` is unique, the organization and the creator must exist. -/
def createTicket (t : Ticket) : DbTx Ticket :=
  attempt .write fun db =>
    (insertRow db.tickets t (db.tickets.rows.any (·.reference = t.reference))
      ((db.organizations.find? t.organizationId).isSome &&
        (db.users.find? t.createdById).isSome)).map
      fun tickets => (t, { db with tickets })

lemma createTicket_eq_ok {t a : Ticket} {env : Env} {db db' : Db} :
    createTicket t env db = .ok (a, db') ↔
      env.fault .write = none ∧ (∀ r ∈ db.tickets.rows, r.reference ≠ t.reference) ∧
        ((db.organizations.find? t.organizationId).isSome ∧
          (db.users.find? t.createdById).isSome) ∧
        ∃ tickets, db.tickets.insert? t = some tickets ∧ a = t ∧ db' = { db with tickets } :=
  attempt_insertRow_eq_ok.trans (by simp)

/-- The columns an `UpdateTicketDto` writes, with `closedAt` when the ticket is being closed. -/
def Ticket.apply (dto : UpdateTicketDto) (closedAt : Option Time) (now : Time) (t : Ticket) :
    Ticket :=
  { t with
    title := dto.title.getD t.title
    description := dto.description.getD t.description
    status := dto.status.getD t.status
    priority := dto.priority.getD t.priority
    category := dto.category.overwrite t.category
    closedAt := closedAt.or t.closedAt
    updatedAt := now }

/-- A body that sends `null` for a required column. -/
def UpdateTicketDto.hasNull (dto : UpdateTicketDto) : Bool :=
  dto.title = .null || dto.description = .null || dto.status = .null || dto.priority = .null

/-- `ticket.update` with an `UpdateTicketDto`. -/
def updateTicket (id : Uuid) (dto : UpdateTicketDto) (closedAt : Option Time) (now : Time) :
    DbTx Ticket :=
  attempt .write fun db =>
    if dto.hasNull then .error .nullArgument
    else
      (updateRow db.tickets id (·.apply dto closedAt now) (fun _ => rfl) false true).map
        fun p => (p.1, { db with tickets := p.2 })

lemma updateTicket_eq_ok {id : Uuid} {dto : UpdateTicketDto} {closedAt : Option Time} {now : Time}
    {a : Ticket} {env : Env} {db db' : Db} :
    updateTicket id dto closedAt now env db = .ok (a, db') ↔
      dto.hasNull = false ∧ env.fault .write = none ∧
        ∃ t, db.tickets.find? id = some t ∧ a = t.apply dto closedAt now ∧
          db' = { db with
            tickets := db.tickets.modify id (·.apply dto closedAt now) fun _ => rfl } :=
  attempt_ite_eq_ok.trans <| and_congr_right fun _ =>
    (attempt_updateRow_eq_ok Db.tickets fun db tickets => { db with tickets }).trans (by simp)

/-- The columns an assignment writes. -/
def Ticket.assign (assigneeId : Uuid) (now : Time) (t : Ticket) : Ticket :=
  { t with assignedToId := some assigneeId, status := .inProgress, updatedAt := now }

/-- `ticket.update` with an assignee, who must exist. -/
def assignTicket (id assigneeId : Uuid) (now : Time) : DbTx Ticket :=
  attempt .write fun db =>
    (updateRow db.tickets id (·.assign assigneeId now) (fun _ => rfl) false
      (db.users.find? assigneeId).isSome).map
      fun p => (p.1, { db with tickets := p.2 })

lemma assignTicket_eq_ok {id assigneeId : Uuid} {now : Time} {a : Ticket} {env : Env}
    {db db' : Db} :
    assignTicket id assigneeId now env db = .ok (a, db') ↔
      env.fault .write = none ∧ (db.users.find? assigneeId).isSome ∧
        ∃ t, db.tickets.find? id = some t ∧ a = t.assign assigneeId now ∧
          db' = { db with
            tickets := db.tickets.modify id (·.assign assigneeId now) fun _ => rfl } :=
  (attempt_updateRow_eq_ok Db.tickets fun db tickets => { db with tickets }).trans (by simp)

/-- `comment.create`: the ticket and the author must exist. -/
def createComment (c : Comment) : DbTx Comment :=
  attempt .write fun db =>
    (insertRow db.comments c false
      ((db.tickets.find? c.ticketId).isSome && (db.users.find? c.authorId).isSome)).map
      fun comments => (c, { db with comments })

lemma createComment_eq_ok {c a : Comment} {env : Env} {db db' : Db} :
    createComment c env db = .ok (a, db') ↔
      env.fault .write = none ∧
        ((db.tickets.find? c.ticketId).isSome ∧ (db.users.find? c.authorId).isSome) ∧
        ∃ comments, db.comments.insert? c = some comments ∧ a = c ∧ db' = { db with comments } :=
  attempt_insertRow_eq_ok.trans (by simp)

/-! ### Outbox -/

def createOutbox (row : EventOutbox) : DbTx Unit :=
  attempt (.enqueue row.routingKey) fun db =>
    (insertRow db.outbox row false true).map fun outbox => ((), { db with outbox })

lemma createOutbox_eq_ok {row : EventOutbox} {u : Unit} {env : Env} {db db' : Db} :
    createOutbox row env db = .ok (u, db') ↔
      env.fault (.enqueue row.routingKey) = none ∧
        ∃ outbox, db.outbox.insert? row = some outbox ∧ db' = { db with outbox } := by
  simp only [createOutbox, attempt_eq_ok, map_eq_ok, insertRow_eq_ok, Prod.mk.injEq, true_and,
    eq_comm (a := db')]

end SupportPlatform
