import SupportPlatform.Auth.Authentication
import SupportPlatform.Client.Responses
import SupportPlatform.Platform.Listings

/-!
# Failures in the client

The toast for whatever the API fails with: a guard, a check or a statement of a write, a read, or a
call for tokens. The user is shown the text that the API has for the failure.
-/

namespace SupportPlatform

/-- The text of an exception. -/
def HttpException.message : HttpException → String
  | .unauthorized message | .forbidden message | .notFound message | .conflict message => message

/-- What the filter is given for a failure of a service; `target` is the one of a Prisma error. -/
def Failure.thrown (target : Option (List String)) : Failure → Thrown
  | .http e =>
    .http (AllExceptionsFilter.resolve (.http e)) (.object (some (.one e.message))) e.message
  | .prisma (.knownRequest code _) => .prisma code target
  | .prisma (.other _) => .other

/-- The exceptions that the services throw themselves, but for those about tokens. -/
def serviceExceptions : List HttpException :=
  [.conflict "Email is already registered", .notFound "User not found",
    .notFound "Organization not found", .unauthorized "Invalid credentials",
    .notFound "Notification not found", .notFound "Ticket not found",
    .forbidden "You cannot access this ticket",
    .forbidden "Customers cannot change status or priority",
    .notFound "Assignee must be an active agent or admin"]

/-- The exceptions of the guards. -/
def guardExceptions : List HttpException :=
  [.unauthorized "Authentication required",
    .forbidden "You do not have permission to perform this action"]

/-- The exceptions of `TokenService`. -/
def tokenExceptions : List HttpException :=
  [.unauthorized "Invalid refresh token", .unauthorized "Refresh token expired",
    .unauthorized "Refresh token reuse detected", .unauthorized "User is no longer active"]

section Exceptions

variable {db db' : Db} {e : HttpException}

lemma UsersService.checkEmail_error {email : String} (h : checkEmail email db = .error e) :
    e ∈ serviceExceptions := by
  unfold checkEmail at h
  split at h <;> cases h
  decide

lemma UsersService.findOne_error {organizationId id : Uuid}
    (h : findOne organizationId id db = .error e) : e ∈ serviceExceptions := by
  unfold findOne at h
  split at h <;> cases h
  decide

lemma AuthService.checkOrganization_error {dto : RegisterDto}
    (h : checkOrganization dto db = .error e) : e ∈ serviceExceptions := by
  unfold checkOrganization at h
  split at h
  · cases h
    decide
  · split_ifs at h
    cases h
    decide

lemma AuthService.authenticate_error {compare : String → String → Bool} {dto : LoginDto}
    (h : authenticate compare dto db = .error e) : e ∈ serviceExceptions := by
  have key (passwordMatches : Bool) (h : checkCredentials dto passwordMatches db = .error e) :
      e ∈ serviceExceptions := by
    unfold checkCredentials at h
    split at h
    · cases h
      decide
    · split_ifs at h
      cases h
      decide
  unfold authenticate at h
  split at h <;> exact key _ h

lemma OrganizationsService.findOne_error {id : Uuid} (h : findOne id db = .error e) :
    e ∈ serviceExceptions := by
  unfold findOne at h
  split at h <;> cases h
  decide

lemma NotificationsService.findOwn_error {userId id : Uuid} (h : findOwn userId id db = .error e) :
    e ∈ serviceExceptions := by
  unfold findOwn at h
  split at h <;> cases h
  decide

lemma TicketsService.findOne_error {actor : AuthenticatedUser} {id : Uuid}
    (h : findOne actor id db = .error e) : e ∈ serviceExceptions := by
  unfold findOne at h
  split at h
  · cases h
    decide
  · split_ifs at h
    cases h
    decide

lemma TicketsService.checkUpdate_error {actor : AuthenticatedUser} {id : Uuid}
    {dto : UpdateTicketDto} (h : checkUpdate actor id dto db = .error e) :
    e ∈ serviceExceptions := by
  unfold checkUpdate at h
  split at h
  · next herror =>
    cases h
    exact findOne_error herror
  · split_ifs at h
    cases h
    decide

lemma TicketsService.findAssignee_error {actor : AuthenticatedUser} {dto : AssignTicketDto}
    (h : findAssignee actor dto db = .error e) : e ∈ serviceExceptions := by
  unfold findAssignee at h
  split at h <;> cases h
  decide

end Exceptions

namespace Call

variable {env : Env} {db db' : Db}

lemma query_exception {α : Type} {check : Db → Except HttpException α} {next : α → Call}
    {e : HttpException} (h : query env db check next = (db', .done (.error (.http e))))
    (hnext : ∀ a outcome, next a ≠ .done outcome) : check db = .error e := by
  unfold query at h
  split at h
  · cases h
  · split at h
    · next herror =>
      cases h
      exact herror
    · next a _ => exact absurd (congrArg Prod.snd h) (hnext a _)

lemma write_exception {α : Type} {body : DbTx α} {e : HttpException}
    (h : write env db body = (db', .done (.error (.http e)))) : False := by
  unfold write at h
  split at h <;> cases h

/-- An exception that a step of a call ends with is one of those the services throw. -/
lemma mem_serviceExceptions {call : Call} {e : HttpException}
    (h : call.exec env db = (db', .done (.error (.http e))))
    (hcall : ∀ outcome, call ≠ .done outcome) : e ∈ serviceExceptions := by
  cases call with
  | done outcome => exact absurd rfl (hcall outcome)
  | register =>
    exact AuthService.checkOrganization_error (query_exception h fun _ _ h => by cases h)
  | registerEmail | usersCreate =>
    exact UsersService.checkEmail_error (query_exception h fun _ _ h => by cases h)
  | login => exact AuthService.authenticate_error (query_exception h fun _ _ h => by cases h)
  | organizationsUpdate | organizationsRemove =>
    exact OrganizationsService.findOne_error (query_exception h fun _ _ h => by cases h)
  | usersUpdate | usersDeactivate =>
    exact UsersService.findOne_error (query_exception h fun _ _ h => by cases h)
  | ticketsUpdate =>
    exact TicketsService.checkUpdate_error (query_exception h fun _ _ h => by cases h)
  | ticketsAssign | commentsCreate =>
    exact TicketsService.findOne_error (query_exception h fun _ _ h => by cases h)
  | ticketsFindAssignee =>
    exact TicketsService.findAssignee_error (query_exception h fun _ _ h => by cases h)
  | notificationsMarkRead =>
    exact NotificationsService.findOwn_error (query_exception h fun _ _ h => by cases h)
  | _ => exact (write_exception h).elim

end Call

namespace Call

/-- An exception that a request ends with as it arrives is one of the guards. -/
lemma mem_guardExceptions {db : Db} {sub : Option Uuid} {correlationId : Option String}
    {request : Request} {user : Option AuthenticatedUser} {e : HttpException}
    (h : receive db sub correlationId request = (user, .done (.error (.http e)))) :
    e ∈ guardExceptions := by
  have hguarded (h : guarded db sub correlationId request = (user, .done (.error (.http e)))) :
      e ∈ guardExceptions := by
    unfold guarded at h
    split at h
    · split_ifs at h
      · cases request <;> cases h
      · cases h
        decide
    · cases h
      decide
  cases request with
  | register | login => cases h
  | _ => exact hguarded h

end Call

lemma ListRequest.mem_serviceExceptions {pg : Postgres} {db : Db} {i : Nat} {request : ListRequest}
    {e : HttpException} (h : request.respond pg db i = .error (.http e)) :
    e ∈ serviceExceptions := by
  rw [respond_eq] at h
  cases request with
  | comments actor ticketId query =>
    simp only [refusal?] at h
    cases hfind : TicketsService.findOne actor ticketId db with
    | error e' =>
      rw [hfind] at h
      cases h
      exact TicketsService.findOne_error hfind
    | ok =>
      rw [hfind] at h
      cases h
  | notifications userId query =>
    simp only [refusal?] at h
    split_ifs at h
    all_goals cases h
  | _ => cases h

/-! ### Calls for tokens -/

/-- What the filter is given of an error of `TokenService`; an error of the signing library is one
it does not know. -/
def TokenError.failure : TokenError → Failure
  | unauthorized message => .http (.unauthorized message)
  | prisma e => .prisma e
  | signing message => .prisma (.other message)

namespace TokenCall

/-- The failure that the call has ended with. -/
def failure? : TokenCall → Option Failure
  | .done (.failed e) => some e.failure
  | _ => none

variable {cfg : TokenConfig} {env : TokenEnv} {db db' : TokenDb} {signed : List RefreshJwt}
  {call call' : TokenCall} {e : HttpException}

/-- Only the database and the signing library fail a pair of tokens. -/
lemma createRefreshToken_failure {user : AuthenticatedUser} {context : RequestContext}
    {familyId : Uuid} {err : TokenError}
    (h : TokenService.createRefreshToken cfg env db user context familyId = .error err) :
    err.failure ≠ .http e := by
  unfold TokenService.createRefreshToken at h
  split at h
  · cases h
    simp [TokenError.failure]
  · split at h
    · cases h
      simp [TokenError.failure]
    · dsimp only at h
      split at h
      · cases h
        simp [TokenError.failure]
      · cases h

lemma issueTokens_failure {user : AuthenticatedUser} {context : RequestContext} {familyId : Uuid}
    {err : TokenError}
    (h : TokenService.issueTokens cfg env db user context familyId = (.error err, db', signed)) :
    err.failure ≠ .http e := by
  unfold TokenService.issueTokens at h
  split at h
  · cases h
    simp [TokenError.failure]
  · cases h
    simp [TokenError.failure]
  · dsimp only at h
    split at h
    · next hcreate =>
      cases h
      exact createRefreshToken_failure hcreate
    · cases h

/-- An exception that a step ends with is one of the service. -/
lemma mem_tokenExceptions (h : call.exec cfg env db = (db', signed, call'))
    (hcall : call.failure? = none) (he : call'.failure? = some (.http e)) :
    e ∈ tokenExceptions := by
  cases call with
  | issue user context familyId =>
    rw [exec] at h
    split at h
    · next hissue =>
      cases h
      exact absurd (Option.some.inj he) (issueTokens_failure hissue)
    · cases h
      cases he
  | rotateIssue token context user familyId =>
    rw [exec] at h
    split at h
    · next hissue =>
      cases h
      exact absurd (Option.some.inj he) (issueTokens_failure hissue)
    · cases h
      cases he
  | rotate token context =>
    rw [exec] at h
    split at h
    · cases h
      cases he
    · split at h
      · cases h
        cases he
        decide
      · split_ifs at h
        all_goals cases h
        all_goals cases he
        all_goals decide
  | rotateReuse token familyId =>
    rw [exec] at h
    split at h <;> cases h <;> cases he
    decide
  | rotateUser token context stored =>
    rw [exec] at h
    split at h
    · cases h
      cases he
    · split at h
      · cases h
        cases he
        decide
      · split_ifs at h
        all_goals cases h
        all_goals cases he
        decide
  | rotateRevoke token context stored user =>
    rw [exec] at h
    split at h
    · cases h
      cases he
    · split at h <;> cases h <;> cases he
  | revoke token =>
    rw [exec] at h
    split at h <;> cases h <;> cases he
  | done outcome =>
    cases h
    rw [hcall] at he
    cases he

end TokenCall

namespace AuthCall

/-- The failure that the call has ended with. -/
def failure? : AuthCall → Option Failure
  | .failed f => some f
  | .token call => call.failure?
  | _ => none

variable {cfg : AuthConfig} {env : AuthEnv} {db db' : Db}
  {refreshTokens refreshTokens' : Table RefreshToken} {signed : List RefreshJwt}
  {call call' : AuthCall} {e : HttpException}

lemma query_failure {α : Type} {check : Db → Except HttpException α} {next : α → AuthCall}
    (h : (query env.env db check next).failure? = some (.http e))
    (hnext : ∀ a, (next a).failure? = none) : check db = .error e := by
  unfold query at h
  split at h
  · cases h
  · split at h
    · next herror =>
      cases h
      exact herror
    · next a _ =>
      rw [hnext a] at h
      cases h

/-- An exception that a step ends with is one of the services. -/
lemma mem_exceptions (h : call.exec cfg env db refreshTokens = (db', refreshTokens', signed, call'))
    (hcall : call.failure? = none) (he : call'.failure? = some (.http e)) :
    e ∈ serviceExceptions ++ tokenExceptions := by
  cases call with
  | register dto context =>
    cases h
    exact List.mem_append_left _ (AuthService.checkOrganization_error
      (query_failure he fun _ => rfl))
  | registerEmail dto context =>
    cases h
    exact List.mem_append_left _ (UsersService.checkEmail_error (query_failure he fun _ => rfl))
  | login dto context =>
    cases h
    exact List.mem_append_left _ (AuthService.authenticate_error (query_failure he fun _ => rfl))
  | registerInsert dto context =>
    rw [exec] at h
    split at h <;> cases h <;> cases he
  | loginStamp user context =>
    rw [exec] at h
    split at h <;> cases h <;> cases he
  | token call =>
    cases h
    exact List.mem_append_right _ (TokenCall.mem_tokenExceptions rfl hcall he)
  | failed f => cases hcall

/-- A call that has failed stays as it is. -/
lemma exec_of_failed {f : Failure} (h : call.failure? = some f) :
    (call.exec cfg env db refreshTokens).2.2.2 = call := by
  cases call with
  | failed => rfl
  | token call =>
    cases call with
    | done => rfl
    | _ => cases h
  | _ => cases h

end AuthCall

/-- All exceptions. -/
def exceptions : List HttpException := guardExceptions ++ serviceExceptions ++ tokenExceptions

namespace Authentication

open Machine

variable {cfg : AuthConfig} {s t : Authentication} {e : AuthEvent}

/-- The exceptions that calls have ended with are known ones. -/
def Known (s : Authentication) : Prop :=
  ∀ call ∈ s.calls, ∀ e, call.failure? = some (.http e) → e ∈ exceptions

lemma known_push {call : AuthCall} (hs : s.Known)
    (hcall : ∀ e, call.failure? = some (.http e) → e ∈ exceptions) : (s.push call).Known := by
  intro c hc
  rcases List.mem_append.mp hc with hc | hc
  · exact hs c hc
  · obtain rfl := List.mem_singleton.mp hc
    exact hcall

lemma known_step (hs : s.Known) (h : step cfg s e = some t) : t.Known := by
  cases e with
  | register | login =>
    cases h
    exact known_push hs fun _ he => by cases he
  | refresh token context now =>
    cases h
    refine known_push hs fun e he => ?_
    split_ifs at he
    all_goals cases he
    decide
  | logout sub token now =>
    cases h
    refine known_push hs fun e he => ?_
    split at he
    · split_ifs at he <;> cases he
    · cases he
      decide
  | proceed i env =>
    obtain ⟨call, hcall, h⟩ := Option.bind_eq_some_iff.mp h
    dsimp only at h
    split_ifs at h
    cases h
    intro c hc err herr
    rcases List.mem_or_eq_of_mem_set hc with hc | rfl
    · exact hs c hc err herr
    · cases hfailure : call.failure? with
      | none =>
        have hmem := AuthCall.mem_exceptions rfl hfailure herr
        simp only [exceptions, List.append_assoc]
        exact List.mem_append_right _ hmem
      | some f =>
        rw [AuthCall.exec_of_failed hfailure] at herr
        exact hs call (List.mem_of_getElem? hcall) err herr
  | other =>
    cases h
    exact hs

theorem known_of_exec {db : Db} {es : List AuthEvent}
    (h : exec (step cfg) (initial db) es = some s) : s.Known :=
  exec_invariant (step cfg) (fun _ _ _ hs ht => known_step hs ht) (fun _ hc => by cases hc) h

end Authentication

/-! ### Every failure -/

/-- What an operation of the API can fail with: a request that the guards refuse, a step of a write,
a list or a single row that is not to be had, a statement of a read, or a call of `AuthService`. -/
inductive Fails : Failure → Prop
  | refused {db sub correlationId request user f}
    (h : Call.receive db sub correlationId request = (user, .done (.error f))) : Fails f
  | write {env db db' f} {call : Call} (h : call.exec env db = (db', .done (.error f)))
    (hcall : ∀ outcome, call ≠ .done outcome) : Fails f
  | list {pg db i f} {request : ListRequest} (h : request.respond pg db i = .error f) : Fails f
  | ticket {db actor id e} (h : TicketsService.findOne actor id db = .error e) : Fails (.http e)
  | user {db organizationId id e}
    (h : UsersService.findOneResponse organizationId id db = .error e) : Fails (.http e)
  | organization {db id e} (h : OrganizationsService.findOne id db = .error e) : Fails (.http e)
  | statement {e} : Fails (.prisma e)
  | auth {cfg db es s f} {call : AuthCall}
    (h : Machine.exec (Authentication.step cfg) (Authentication.initial db) es = some s)
    (hcall : call ∈ s.calls) (hf : call.failure? = some f) : Fails f

lemma Fails.mem_exceptions {e : HttpException} (h : Fails (.http e)) : e ∈ exceptions := by
  have hservice (h : e ∈ serviceExceptions) : e ∈ exceptions :=
    List.mem_append_left _ (List.mem_append_right _ h)
  cases h with
  | refused h => exact List.mem_append_left _ (List.mem_append_left _ (Call.mem_guardExceptions h))
  | write h hcall => exact hservice (Call.mem_serviceExceptions h hcall)
  | list h => exact hservice (ListRequest.mem_serviceExceptions h)
  | ticket h => exact hservice (TicketsService.findOne_error h)
  | user h =>
    unfold UsersService.findOneResponse at h
    cases hfind : UsersService.findOne _ _ _ with
    | error e' =>
      rw [hfind] at h
      cases h
      exact hservice (UsersService.findOne_error hfind)
    | ok =>
      rw [hfind] at h
      cases h
  | organization h => exact hservice (OrganizationsService.findOne_error h)
  | auth h hcall hf => exact Authentication.known_of_exec h _ hcall e hf

end SupportPlatform
