import SupportPlatform.Api.Bodies
import SupportPlatform.Api.Calls

/-!
# Accepted bodies that end in an internal error

The instances of the four classes as the DTOs the calls take, and the answer of the exception filter
to the step of a call that writes. When nothing fails, that answer is an internal error exactly if
the write supplies `null` for a column declared NOT NULL.
-/

namespace SupportPlatform

open Validation

/-! ### Instances as DTOs -/

section Decoding

variable {α : Type}

def asString : Json → Option String
  | .string s => some s
  | _ => none

def asBoolean : Json → Option Bool
  | .boolean b => some b
  | _ => none

/-- The value of an enum that is sent as its text. -/
def asEnum (values : List α) (text : α → String) : Json → Option α
  | .string s => values.find? fun a => text a = s
  | _ => none

/-- An optional property of an instance. -/
def Field.ofProperty (decode : Json → Option α) : Option Json → Field α
  | none => .undefined
  | some .null => .null
  | some v => (decode v).elim .undefined .value

@[simp] lemma Field.ofProperty_eq_null {decode : Json → Option α} {v : Option Json} :
    ofProperty decode v = .null ↔ v = some .null := by
  unfold ofProperty
  split
  · simp
  · simp
  · next v hnull =>
    cases decode v <;> simpa using hnull

end Decoding

def CreateTicketDto.ofInstance (dto : Instance) : Option CreateTicketDto := do
  return {
    title := ← (dto.lookup "title").bind asString
    description := ← (dto.lookup "description").bind asString
    priority := .ofProperty (asEnum ticketPriorities TicketPriority.text) (dto.lookup "priority")
    category := .ofProperty asString (dto.lookup "category") }

def UpdateTicketDto.ofInstance (dto : Instance) : UpdateTicketDto where
  title := .ofProperty asString (dto.lookup "title")
  description := .ofProperty asString (dto.lookup "description")
  status := .ofProperty (asEnum ticketStatuses TicketStatus.text) (dto.lookup "status")
  priority := .ofProperty (asEnum ticketPriorities TicketPriority.text) (dto.lookup "priority")
  category := .ofProperty asString (dto.lookup "category")

def UpdateUserDto.ofInstance (dto : Instance) : UpdateUserDto where
  email := .ofProperty asString (dto.lookup "email")
  firstName := .ofProperty asString (dto.lookup "firstName")
  lastName := .ofProperty asString (dto.lookup "lastName")
  role := .ofProperty (asEnum roles Role.text) (dto.lookup "role")
  isActive := .ofProperty asBoolean (dto.lookup "isActive")

def CreateCommentDto.ofInstance (dto : Instance) : Option CreateCommentDto := do
  return {
    body := ← (dto.lookup "body").bind asString
    isInternal := .ofProperty asBoolean (dto.lookup "isInternal") }

/-- The step in which a route's service writes, with what it has found before. -/
def BodyRoute.call (actor : AuthenticatedUser) (id : Uuid) (existing : Ticket)
    (correlationId : Option String) (dto : Instance) : BodyRoute → Option Call
  | .createTicket =>
    (CreateTicketDto.ofInstance dto).map fun dto => .ticketsCreate actor dto correlationId
  | .updateTicket =>
    some (.ticketsUpdateTransaction actor id (.ofInstance dto) correlationId existing)
  | .updateUser => some (.usersUpdateWrite actor.organizationId id (.ofInstance dto))
  | .createComment =>
    (CreateCommentDto.ofInstance dto).map fun dto =>
      .commentsCreateTransaction actor id dto correlationId

/-! ### The exception filter -/

namespace AllExceptionsFilter

/-- The status of `resolvePrisma`. -/
def resolvePrisma : String → Nat
  | "P2002" => 409
  | "P2025" => 404
  | "P2003" => 400
  | _ => 400

/-- The status of `resolve`. -/
def resolve : Failure → Nat
  | .http (.unauthorized _) => 401
  | .http (.forbidden _) => 403
  | .http (.notFound _) => 404
  | .http (.conflict _) => 409
  | .prisma (.knownRequest code _) => resolvePrisma code
  | .prisma (.other _) => 500

end AllExceptionsFilter

/-- The errors that are a `PrismaClientKnownRequestError`. -/
def PrismaError.IsKnown : PrismaError → Prop
  | .knownRequest _ _ => True
  | .other _ => False

lemma AllExceptionsFilter.resolve_of_isKnown {e : PrismaError} (h : e.IsKnown) :
    resolve (.prisma e) ≠ 500 := by
  cases e with
  | knownRequest code message =>
    change resolvePrisma code ≠ 500
    unfold resolvePrisma
    split <;> decide
  | other message => exact h.elim

/-! ### Statements that nothing hits -/

section Statements

variable {α κ : Type} [Keyed α κ] [DecidableEq κ] {env : Env}

lemma insertRow_isKnown {t : Table α} {r : α} {taken linked : Bool} {e : PrismaError}
    (h : insertRow t r taken linked = .error e) : e.IsKnown := by
  unfold insertRow at h
  split_ifs at h
  · cases h
    trivial
  · cases h
    trivial
  · split at h <;> cases h
    trivial

lemma updateRow_isKnown {t : Table α} {k : κ} {f : α → α}
    {hf : ∀ r, Keyed.key (f r) = Keyed.key r} {taken linked : Bool} {e : PrismaError}
    (h : updateRow t k f hf taken linked = .error e) : e.IsKnown := by
  unfold updateRow at h
  split at h
  · cases h
    trivial
  · split_ifs at h <;> cases h <;> trivial

lemma map_eq_error {ε α β : Type} {x : Except ε α} {f : α → β} {e : ε} :
    x.map f = .error e ↔ x = .error e := by
  cases x <;> simp [Except.map]

lemma attempt_throwsOnly {β : Type} {st : Statement} {f : Db → Except PrismaError (β × Db)}
    (hfault : env.fault st = none) (hf : ∀ db e, f db = .error e → e.IsKnown) :
    Transaction.ThrowsOnly PrismaError.IsKnown env (attempt st f) := by
  intro db e h
  rw [attempt, hfault] at h
  exact hf db e h

lemma interactive_throwsOnly {β : Type} {body : DbTx β} (hfault : env.fault .commit = none)
    (hbody : Transaction.ThrowsOnly PrismaError.IsKnown env body) :
    Transaction.ThrowsOnly PrismaError.IsKnown env (interactive body) :=
  hbody.bind fun _ =>
    (attempt_throwsOnly hfault fun _ _ h => by cases h).bind fun _ => .pure _

lemma enqueue_throwsOnly {key : RoutingKey} {payload : Payload} {correlationId : Option String}
    {key_eq : payload.routingKey = key} (hfault : env.fault (.enqueue key) = none) :
    Transaction.ThrowsOnly PrismaError.IsKnown env
      (EventPublisherService.enqueue key payload correlationId key_eq) :=
  Transaction.ThrowsOnly.ask.bind fun _ =>
    attempt_throwsOnly hfault fun _ _ h => insertRow_isKnown (map_eq_error.mp h)

end Statements

/-! ### Writes that nothing hits -/

section Writes

variable {env : Env} {db : Db} {actor : AuthenticatedUser} {id : Uuid} {cid : Option String}

/-- A `null` stops `create` before the ticket is inserted. -/
lemma create_of_null {dto : CreateTicketDto} (hfault : ∀ st, env.fault st = none)
    (hnull : dto.priority = .null) :
    TicketsService.create actor dto cid env db = .error .nullArgument := by
  have hreference : TicketsService.nextReference env db =
      .ok (TicketsService.reference db.tickets.rows.length, db) := by
    simp [TicketsService.nextReference, Transaction.bind_apply, countTickets, attempt, hfault]
  rw [TicketsService.create, interactive]
  simp only [Transaction.bind_apply, Transaction.ask_apply, hreference, hnull, required,
    Transaction.throw_apply]

lemma create_throwsOnly {dto : CreateTicketDto} (hfault : ∀ st, env.fault st = none)
    (hnull : dto.priority ≠ .null) :
    Transaction.ThrowsOnly PrismaError.IsKnown env (TicketsService.create actor dto cid) := by
  refine interactive_throwsOnly (hfault _) ?_
  refine Transaction.ThrowsOnly.ask.bind fun _ => ?_
  refine Transaction.ThrowsOnly.bind ?_ fun reference => ?_
  · exact (attempt_throwsOnly (hfault _) fun _ _ h => by cases h).bind fun _ => .pure _
  refine Transaction.ThrowsOnly.bind ?_ fun priority => ?_
  · cases hpriority : dto.priority with
    | null => exact absurd hpriority hnull
    | undefined => exact .pure _
    | value a => exact .pure _
  refine Transaction.ThrowsOnly.bind ?_ fun ticket => ?_
  · exact attempt_throwsOnly (hfault _) fun _ _ h => insertRow_isKnown (map_eq_error.mp h)
  exact (enqueue_throwsOnly (hfault _)).bind fun _ => .pure _

lemma updateTicket_throwsOnly {dto : UpdateTicketDto} {closedAt : Option Time} {now : Time}
    (hfault : env.fault .write = none) (hnull : dto.hasNull = false) :
    Transaction.ThrowsOnly PrismaError.IsKnown env (updateTicket id dto closedAt now) := by
  rw [updateTicket, hnull]
  exact attempt_throwsOnly hfault fun _ _ h => updateRow_isKnown (map_eq_error.mp h)

lemma updateTransaction_of_null {dto : UpdateTicketDto} {willClose : Bool}
    (hfault : env.fault .write = none) (hnull : dto.hasNull) :
    TicketsService.updateTransaction actor id dto cid willClose env db = .error .nullArgument := by
  rw [TicketsService.updateTransaction, interactive]
  simp [Transaction.bind_apply, updateTicket, attempt, hfault, hnull]

lemma updateTransaction_throwsOnly {dto : UpdateTicketDto} {willClose : Bool}
    (hfault : ∀ st, env.fault st = none) (hnull : dto.hasNull = false) :
    Transaction.ThrowsOnly PrismaError.IsKnown env
      (TicketsService.updateTransaction actor id dto cid willClose) := by
  refine interactive_throwsOnly (hfault _) ?_
  refine Transaction.ThrowsOnly.ask.bind fun _ => ?_
  refine (updateTicket_throwsOnly (hfault _) hnull).bind fun ticket => ?_
  refine (enqueue_throwsOnly (hfault _)).bind fun _ => ?_
  cases willClose with
  | true => exact (enqueue_throwsOnly (hfault _)).bind fun _ => .pure _
  | false => exact .pure _

lemma updateUser_of_null {dto : UpdateUserDto} (hfault : env.fault .query = none)
    (hnull : dto.hasNull) : updateUser id dto env db = .error .nullArgument := by
  simp [updateUser, attempt, hfault, hnull]

lemma updateUser_throwsOnly {dto : UpdateUserDto} (hfault : env.fault .query = none)
    (hnull : dto.hasNull = false) :
    Transaction.ThrowsOnly PrismaError.IsKnown env (updateUser id dto) := by
  rw [updateUser, hnull]
  exact attempt_throwsOnly hfault fun _ _ h => updateRow_isKnown (map_eq_error.mp h)

lemma createComment_throwsOnly {dto : CreateCommentDto} (hfault : ∀ st, env.fault st = none) :
    Transaction.ThrowsOnly PrismaError.IsKnown env
      (CommentsService.createTransaction actor id dto cid) := by
  refine interactive_throwsOnly (hfault _) ?_
  refine Transaction.ThrowsOnly.ask.bind fun _ => ?_
  refine Transaction.ThrowsOnly.bind ?_ fun comment => ?_
  · exact attempt_throwsOnly (hfault _) fun _ _ h => insertRow_isKnown (map_eq_error.mp h)
  exact (enqueue_throwsOnly (hfault _)).bind fun _ => .pure _

end Writes

/-! ### The answer to an accepted body -/

/-- The step ends the call with the status 500. -/
def Call.AnswersInternalError (env : Env) (db : Db) (call : Call) : Prop :=
  ∃ db' e, call.exec env db = (db', .done (.error e)) ∧ AllExceptionsFilter.resolve e = 500

namespace Call

variable {α : Type} {env : Env} {db : Db} {body : DbTx α}

lemma write_of_null (h : body env db = .error .nullArgument) :
    write env db body = (db, .done (.error (.prisma .nullArgument))) := by
  simp [write, Transaction.commit, h]

/-- A writing step answers with an internal error exactly if a `null` stops it, when nothing else
can throw anything but a known request error. -/
lemma answersInternalError_iff {call : Call} {null : Prop}
    (hexec : call.exec env db = write env db body)
    (hnull : null → body env db = .error .nullArgument)
    (hkeeps : ¬ null → Transaction.ThrowsOnly PrismaError.IsKnown env body) :
    call.AnswersInternalError env db ↔ null := by
  constructor
  · rintro ⟨db', e, h, hresolve⟩
    by_contra hnone
    rw [hexec, write] at h
    split at h
    · next hcommit =>
      cases h
      exact AllExceptionsFilter.resolve_of_isKnown ((hkeeps hnone).of_commit hcommit) hresolve
    · cases h
  · intro h
    refine ⟨db, .prisma .nullArgument, ?_, rfl⟩
    rw [hexec, write_of_null (hnull h)]

end Call

section Answers

variable {lib : Library} {dto : Instance} {body : Json} {actor : AuthenticatedUser} {id : Uuid}
  {existing : Ticket} {cid : Option String} {route : BodyRoute} {call : Call} {env : Env} {db : Db}

lemma CreateTicketDto.priority_ofInstance {create : CreateTicketDto}
    (h : ofInstance dto = some create) :
    create.priority =
      .ofProperty (asEnum ticketPriorities TicketPriority.text) (dto.lookup "priority") := by
  simp only [ofInstance, Option.bind_eq_bind, Option.bind_eq_some_iff, Option.pure_def,
    Option.some.injEq] at h
  obtain ⟨title, -, description, -, rfl⟩ := h
  rfl

lemma UpdateTicketDto.hasNull_ofInstance :
    (ofInstance dto).hasNull = false ↔
      ∀ name ∈ BodyRoute.updateTicket.passedOn, dto.lookup name ≠ some .null := by
  simp only [hasNull, Bool.or_eq_false_iff, decide_eq_false_iff_not]
  simp [ofInstance, BodyRoute.passedOn, and_assoc]

lemma UpdateUserDto.hasNull_ofInstance :
    (ofInstance dto).hasNull = false ↔
      ∀ name ∈ BodyRoute.updateUser.passedOn, dto.lookup name ≠ some .null := by
  simp only [hasNull, Bool.or_eq_false_iff, decide_eq_false_iff_not]
  simp [ofInstance, BodyRoute.passedOn, and_assoc]

/-- When nothing fails, the writing step of an accepted body answers with an internal error exactly
if the write supplies `null` for a column declared NOT NULL. -/
theorem answersInternalError_iff_suppliesNull {write : Write}
    (hfault : ∀ st, env.fault st = none) (hpipe : pipe lib (route.properties lib) body = some dto)
    (hwrite : route.Writes actor dto write)
    (hcall : route.call actor id existing cid dto = some call) :
    call.AnswersInternalError env db ↔ write.suppliesNull := by
  rw [← Bool.not_eq_false, suppliesNull_iff_lookup hpipe hwrite]
  cases route with
  | createTicket =>
    obtain ⟨create, hcreate, rfl⟩ := Option.map_eq_some_iff.mp hcall
    have hnull : create.priority = .null ↔ dto.lookup "priority" = some .null := by
      rw [CreateTicketDto.priority_ofInstance hcreate, Field.ofProperty_eq_null]
    simp only [BodyRoute.passedOn, List.forall_mem_singleton, ne_eq, not_not, ← hnull]
    exact Call.answersInternalError_iff rfl (create_of_null hfault) (create_throwsOnly hfault)
  | updateTicket =>
    cases hcall
    rw [← UpdateTicketDto.hasNull_ofInstance, Bool.not_eq_false]
    exact Call.answersInternalError_iff rfl (updateTransaction_of_null (hfault _))
      fun h => updateTransaction_throwsOnly hfault (Bool.not_eq_true _ ▸ h)
  | updateUser =>
    cases hcall
    rw [← UpdateUserDto.hasNull_ofInstance, Bool.not_eq_false]
    exact Call.answersInternalError_iff rfl (updateUser_of_null (hfault _))
      fun h => updateUser_throwsOnly (hfault _) (Bool.not_eq_true _ ▸ h)
  | createComment =>
    obtain ⟨create, -, rfl⟩ := Option.map_eq_some_iff.mp hcall
    refine Call.answersInternalError_iff rfl (fun h => ?_) fun _ => createComment_throwsOnly hfault
    simp [BodyRoute.passedOn] at h

end Answers

end SupportPlatform
