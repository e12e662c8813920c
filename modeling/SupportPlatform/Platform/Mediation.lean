import SupportPlatform.Core.History
import SupportPlatform.Platform.World

/-!
# Every write has been let through

A call decides on what it reads and writes in a later step, when the database may be another one.
What is left of the decision then is history: the guards let the request through when it arrived,
and each check of its service passed at some point since.
-/

namespace SupportPlatform

/-- The organizations, users, tickets and comments are the same. -/
def Db.SameDomain (s t : Db) : Prop :=
  s.organizations.rows = t.organizations.rows ∧ s.users.rows = t.users.rows ∧
    s.tickets.rows = t.tickets.rows ∧ s.comments.rows = t.comments.rows

instance (s t : Db) : Decidable (s.SameDomain t) := inferInstanceAs (Decidable (_ ∧ _))

@[refl] lemma Db.SameDomain.refl (s : Db) : s.SameDomain s := ⟨rfl, rfl, rfl, rfl⟩

/-- The routes with `@Public()`. -/
def Request.isPublic : Request → Bool
  | .register _ | .login _ => true
  | _ => false

namespace Call

/-- The calls of a user that serve a request: the one the handler starts, and those it goes on
with. -/
inductive Serves (user : AuthenticatedUser) (correlationId : Option String) : Request → Call → Prop
  | started {request} (h : request.isPublic = false) :
    Serves user correlationId request (ofRequest user correlationId request)
  | organizationsUpdate {id dto} :
    Serves user correlationId (.updateOrganization id dto) (.organizationsUpdateWrite id dto)
  | organizationsRemove {id} :
    Serves user correlationId (.removeOrganization id) (.organizationsRemoveWrite id)
  | usersCreate {dto} : Serves user correlationId (.createUser dto) (.usersInsert dto)
  | usersUpdate {id dto} :
    Serves user correlationId (.updateUser id dto)
      (.usersUpdateWrite user.organizationId id dto)
  | usersDeactivate {id} :
    Serves user correlationId (.deactivateUser id) (.usersDeactivateWrite user.organizationId id)
  | ticketsUpdate {id dto existing} :
    Serves user correlationId (.updateTicket id dto)
      (.ticketsUpdateTransaction user id dto correlationId existing)
  | ticketsFindAssignee {id dto} :
    Serves user correlationId (.assignTicket id dto)
      (.ticketsFindAssignee user id dto correlationId)
  | ticketsAssign {id dto} :
    Serves user correlationId (.assignTicket id dto)
      (.ticketsAssignTransaction user id dto correlationId)
  | commentsCreate {ticketId dto} :
    Serves user correlationId (.createComment ticketId dto)
      (.commentsCreateTransaction user ticketId dto correlationId)
  | notificationsMarkRead {id} :
    Serves user correlationId (.markRead id) (.notificationsMarkReadWrite user.id id)
  | done {request outcome} : Serves user correlationId request (.done outcome)

/-- The calls of the two public requests. -/
inductive ServesPublic : Request → Call → Prop
  | register {dto} : ServesPublic (.register dto) (.register dto)
  | registerEmail {dto} : ServesPublic (.register dto) (.registerEmail dto)
  | registerInsert {dto} : ServesPublic (.register dto) (.registerInsert dto)
  | login {dto} : ServesPublic (.login dto) (.login dto)
  | loginStamp {dto id} : ServesPublic (.login dto) (.loginStamp id)
  | done {request outcome} : ServesPublic request (.done outcome)

/-- The checks that a call has behind it have passed, each at one of the given steps: in the
database as it was then, and the comparison of the passwords by what bcrypt answered then. -/
def Checked (steps : List (Env × Db)) (request : Request) : Call → Prop
  | .registerEmail dto => ∃ x ∈ steps, AuthService.checkOrganization dto x.2 = .ok ()
  | .registerInsert dto =>
    (∃ x ∈ steps, AuthService.checkOrganization dto x.2 = .ok ()) ∧
      ∃ x ∈ steps, UsersService.checkEmail dto.email x.2 = .ok ()
  | .loginStamp id =>
    ∃ dto, request = .login dto ∧ ∃ x ∈ steps, ∃ user,
      AuthService.authenticate x.1.compare dto x.2 = .ok user ∧ user.id = id
  | .organizationsUpdateWrite id _ | .organizationsRemoveWrite id =>
    ∃ x ∈ steps, ∃ organization, OrganizationsService.findOne id x.2 = .ok organization
  | .usersInsert dto => ∃ x ∈ steps, UsersService.checkEmail dto.email x.2 = .ok ()
  | .usersUpdateWrite organizationId id _ | .usersDeactivateWrite organizationId id =>
    ∃ x ∈ steps, ∃ user, UsersService.findOne organizationId id x.2 = .ok user
  | .ticketsUpdateTransaction actor id dto _ existing =>
    ∃ x ∈ steps, TicketsService.checkUpdate actor id dto x.2 = .ok existing
  | .ticketsFindAssignee actor id _ _ =>
    ∃ x ∈ steps, ∃ ticket, TicketsService.findOne actor id x.2 = .ok ticket
  | .ticketsAssignTransaction actor id dto _ =>
    (∃ x ∈ steps, ∃ ticket, TicketsService.findOne actor id x.2 = .ok ticket) ∧
      ∃ x ∈ steps, ∃ assignee, TicketsService.findAssignee actor dto x.2 = .ok assignee
  | .commentsCreateTransaction actor ticketId _ _ =>
    ∃ x ∈ steps, ∃ ticket, TicketsService.findOne actor ticketId x.2 = .ok ticket
  | .notificationsMarkReadWrite userId id =>
    ∃ x ∈ steps, ∃ notification, NotificationsService.findOwn userId id x.2 = .ok notification
  | _ => True

variable {user : AuthenticatedUser} {correlationId : Option String} {request : Request}
  {env : Env} {db db' : Db} {call call' : Call} {steps : List (Env × Db)}

lemma Checked.mono {steps' : List (Env × Db)} (h : call.Checked steps request)
    (hsteps : steps ⊆ steps') : call.Checked steps' request := by
  cases call with
  | registerEmail | organizationsUpdateWrite | organizationsRemoveWrite | usersInsert
  | usersUpdateWrite | usersDeactivateWrite | ticketsUpdateTransaction | ticketsFindAssignee
  | commentsCreateTransaction | notificationsMarkReadWrite =>
    obtain ⟨x, hx, hpassed⟩ := h
    exact ⟨x, hsteps hx, hpassed⟩
  | registerInsert | ticketsAssignTransaction =>
    obtain ⟨⟨x, hx, hfirst⟩, y, hy, hsecond⟩ := h
    exact ⟨⟨x, hsteps hx, hfirst⟩, y, hsteps hy, hsecond⟩
  | loginStamp =>
    obtain ⟨dto, hrequest, x, hx, hpassed⟩ := h
    exact ⟨dto, hrequest, x, hsteps hx, hpassed⟩
  | _ => trivial

/-- The call of a request that has just arrived has no check behind it. -/
lemma checked_ofRequest (user : AuthenticatedUser) (correlationId : Option String)
    (request : Request) (steps : List (Env × Db)) :
    (ofRequest user correlationId request).Checked steps request := by
  cases request <;> trivial

/-- A step of a call that is still in progress serves the same request. -/
lemma Executes.serves (h : Executes env db call db' call') (hserves : Serves user correlationId
    request call) : Serves user correlationId request call' := by
  cases h with
  | failed | finished | wrote => exact .done
  | checked h =>
    cases hserves with
    | started hprivate =>
      cases request with
      | register | login => cases hprivate
      | createOrganization | createTicket | markAllRead => cases h
      | updateOrganization => cases h; exact .organizationsUpdate
      | removeOrganization => cases h; exact .organizationsRemove
      | createUser => cases h; exact .usersCreate
      | updateUser => cases h; exact .usersUpdate
      | deactivateUser => cases h; exact .usersDeactivate
      | updateTicket => cases h; exact .ticketsUpdate
      | assignTicket => cases h; exact .ticketsFindAssignee
      | createComment => cases h; exact .commentsCreate
      | markRead => cases h; exact .notificationsMarkRead
    | ticketsFindAssignee => cases h; exact .ticketsAssign
    | _ => cases h

lemma not_serves_login {dto : LoginDto} :
    ¬ Serves user correlationId request (.login dto) := by
  intro h
  generalize hcall : Call.login dto = call at h
  cases h with
  | started hprivate =>
    cases request with
    | register | login => cases hprivate
    | _ => cases hcall
  | _ => cases hcall

/-- What a step of a call has checked comes to what was checked before. -/
lemma exec_checked (h : exec env db call = (db', call')) (hcall : call.Checked steps request)
    (hserves : ServesPublic request call ∨ ∃ user correlationId, Serves user correlationId request
      call) : call'.Checked (steps ++ [(env, db)]) request := by
  have hold : call.Checked (steps ++ [(env, db)]) request :=
    hcall.mono (List.subset_append_left _ _)
  have hnew : (env, db) ∈ steps ++ [(env, db)] := List.mem_append_right _ List.mem_cons_self
  cases call with
  | register dto =>
    obtain ⟨-, ⟨e, rfl⟩ | ⟨_, hok, rfl⟩⟩ := query_cases h
    · trivial
    · exact ⟨_, hnew, hok⟩
  | registerEmail dto =>
    obtain ⟨-, ⟨e, rfl⟩ | ⟨_, hok, rfl⟩⟩ := query_cases h
    · trivial
    · exact ⟨hold, _, hnew, hok⟩
  | login dto =>
    obtain ⟨-, ⟨e, rfl⟩ | ⟨user, hok, rfl⟩⟩ := query_cases h
    · trivial
    · obtain rfl : request = .login dto := by
        rcases hserves with hserves | ⟨user, correlationId, hserves⟩
        · cases hserves
          rfl
        · exact absurd hserves not_serves_login
      exact ⟨dto, rfl, _, hnew, user, hok, rfl⟩
  | organizationsUpdate | organizationsRemove | usersUpdate | usersDeactivate | ticketsAssign
  | commentsCreate | notificationsMarkRead =>
    obtain ⟨-, ⟨e, rfl⟩ | ⟨found, hok, rfl⟩⟩ := query_cases h
    · trivial
    · exact ⟨_, hnew, found, hok⟩
  | usersCreate dto =>
    obtain ⟨-, ⟨e, rfl⟩ | ⟨_, hok, rfl⟩⟩ := query_cases h
    · trivial
    · exact ⟨_, hnew, hok⟩
  | ticketsUpdate actor id dto cid =>
    obtain ⟨-, ⟨e, rfl⟩ | ⟨existing, hok, rfl⟩⟩ := query_cases h
    · trivial
    · exact ⟨_, hnew, hok⟩
  | ticketsFindAssignee actor id dto cid =>
    obtain ⟨-, ⟨e, rfl⟩ | ⟨assignee, hok, rfl⟩⟩ := query_cases h
    · trivial
    · exact ⟨hold, _, hnew, assignee, hok⟩
  | done outcome =>
    cases h
    trivial
  | _ =>
    obtain ⟨-, e, rfl⟩ | ⟨rfl, -⟩ := write_cases h <;> trivial

lemma Executes.servesPublic (h : Executes env db call db' call')
    (hserves : ServesPublic request call) : ServesPublic request call' := by
  cases h with
  | failed | finished | wrote => exact .done
  | checked h =>
    cases hserves with
    | register => cases h; exact .registerEmail
    | registerEmail => cases h; exact .registerInsert
    | login => cases h; exact .loginStamp
    | _ => cases h

end Call

/-- A call in progress is one that the request has led to, which arrived in a world. -/
inductive InFlight.Received (w : World) (sub : Option Uuid) (correlationId : Option String)
    (request : Request) : InFlight → Prop
  | refused {user outcome} : Received w sub correlationId request ⟨user, .done outcome⟩
  | «public» {call} (h : Call.ServesPublic request call) :
    Received w sub correlationId request ⟨none, call⟩
  | admitted {id user call} (hsub : sub = some id)
    (hvalid : JwtStrategy.validate w.db id = .ok user) (hadmits : request.admits user)
    (h : Call.Serves user correlationId request call) :
    Received w sub correlationId request ⟨some user, call⟩

namespace World

open Machine

/-- The steps of the call with number `i` in a history, with what the outside world contributed and
the database they were taken in. -/
def callSteps (i : Nat) (past : List (World × Event)) : List (Env × Db) :=
  past.flatMap fun
    | (w, .proceed j env) => if j = i then [(env, w.db)] else []
    | _ => []

/-- The call with number `i` has been let through: its request arrived at some point of the history,
the guards let it pass there, and the checks the call has behind it passed at steps of its own
since. -/
def Mediated (past : List (World × Event)) (i : Nat) (c : InFlight) : Prop :=
  ∃ before w sub correlationId request after,
    past = before ++ (w, .arrive sub correlationId request) :: after ∧ w.calls.length = i ∧
      c.Received w sub correlationId request ∧ c.call.Checked (callSteps i after) request

/-- What the guards make of a request that is not public. -/
lemma received_guarded (w : World) (sub : Option Uuid) (correlationId : Option String)
    {request : Request} (h : request.isPublic = false) :
    InFlight.Received w sub correlationId request
        ⟨(Call.guarded w.db sub correlationId request).1,
          (Call.guarded w.db sub correlationId request).2⟩ ∧
      (Call.guarded w.db sub correlationId request).2.Checked [] request := by
  unfold Call.guarded
  split
  · next user huser =>
    obtain ⟨id, rfl, hvalid⟩ := Option.map_eq_some_iff.mp huser
    split_ifs with hadmits
    · exact ⟨.admitted rfl hvalid hadmits (.started h), Call.checked_ofRequest ..⟩
    · exact ⟨.refused, trivial⟩
  · exact ⟨.refused, trivial⟩

lemma received_receive (w : World) (sub : Option Uuid) (correlationId : Option String)
    (request : Request) :
    InFlight.Received w sub correlationId request
        ⟨(Call.receive w.db sub correlationId request).1,
          (Call.receive w.db sub correlationId request).2⟩ ∧
      (Call.receive w.db sub correlationId request).2.Checked [] request := by
  cases request with
  | register => exact ⟨.public .register, trivial⟩
  | login => exact ⟨.public .login, trivial⟩
  | _ => exact received_guarded w sub correlationId rfl

variable {cfg : Config} {w w' : World} {e : Event}

/-- Where the calls after a step come from. -/
lemma calls_of_step (h : step cfg w e = some w') {i : Nat} {c' : InFlight}
    (hc' : w'.calls[i]? = some c') :
    w.calls[i]? = some c' ∨
      (∃ sub correlationId request, e = .arrive sub correlationId request ∧ w.calls.length = i ∧
        c' = ⟨(Call.receive w.db sub correlationId request).1,
          (Call.receive w.db sub correlationId request).2⟩) ∨
      ∃ env c, e = .proceed i env ∧ w.calls[i]? = some c ∧ c'.user = c.user ∧
        c.call.exec env w.db = (w'.db, c'.call) := by
  cases e with
  | arrive sub correlationId request =>
    cases h
    rcases getElem?_concat_cases hc' with hc' | ⟨hlength, rfl⟩
    · exact .inl hc'
    · exact .inr (.inl ⟨sub, correlationId, request, rfl, hlength, rfl⟩)
  | proceed j env =>
    obtain ⟨c, hc, rfl⟩ := Option.map_eq_some_iff.mp h
    rcases getElem?_set_cases hc' with ⟨rfl, rfl⟩ | ⟨-, hc'⟩
    · exact .inr (.inr ⟨env, c, rfl, hc, rfl, rfl⟩)
    · exact .inl hc'
  | _ => cases step_cases h <;> exact .inl hc'

lemma Mediated.append {past : List (World × Event)} {i : Nat} {c : InFlight} (h : Mediated past i c)
    (x : World × Event) : Mediated (past ++ [x]) i c := by
  obtain ⟨before, w, sub, correlationId, request, after, rfl, hi, hreceived, hchecked⟩ := h
  refine ⟨before, w, sub, correlationId, request, after ++ [x], by simp, hi, hreceived, ?_⟩
  rw [callSteps, List.flatMap_append]
  exact hchecked.mono (List.subset_append_left _ _)

/-- A step of a call that has been let through adds the check it makes. -/
lemma Mediated.proceed {past : List (World × Event)} {i : Nat} {c c' : InFlight} {env : Env}
    (h : Mediated past i c) (huser : c'.user = c.user)
    (hexec : c.call.exec env w.db = (w'.db, c'.call)) :
    Mediated (past ++ [(w, .proceed i env)]) i c' := by
  obtain ⟨before, w₀, sub, correlationId, request, after, rfl, hi, hreceived, hchecked⟩ := h
  refine ⟨before, w₀, sub, correlationId, request, after ++ [(w, .proceed i env)], by simp, hi, ?_,
    ?_⟩
  · obtain ⟨user, call⟩ := c
    obtain ⟨user', call'⟩ := c'
    obtain rfl : user' = user := huser
    cases hreceived with
    | refused =>
      obtain rfl := congrArg Prod.snd hexec
      exact .refused
    | «public» hserves => exact .public ((Call.exec_cases hexec).servesPublic hserves)
    | admitted hsub hvalid hadmits hserves =>
      exact .admitted hsub hvalid hadmits ((Call.exec_cases hexec).serves hserves)
  · have hsteps : callSteps i (after ++ [(w, .proceed i env)]) =
        callSteps i after ++ [(env, w.db)] := by
      simp [callSteps]
    rw [hsteps]
    refine Call.exec_checked hexec hchecked ?_
    cases hreceived with
    | refused => exact .inl .done
    | «public» hserves => exact .inl hserves
    | admitted _ _ _ hserves => exact .inr ⟨_, _, hserves⟩

theorem mediated_step {past : List (World × Event)}
    (hw : ∀ i c, w.calls[i]? = some c → Mediated past i c) (h : step cfg w e = some w') :
    ∀ i c, w'.calls[i]? = some c → Mediated (past ++ [(w, e)]) i c := by
  intro i c' hc'
  rcases calls_of_step h hc' with
    hc' | ⟨sub, correlationId, request, rfl, hi, rfl⟩ | ⟨env, c, rfl, hc, huser, hexec⟩
  · exact (hw i c' hc').append (w, e)
  · obtain ⟨hreceived, hchecked⟩ := received_receive w sub correlationId request
    exact ⟨past, w, sub, correlationId, request, [], rfl, hi, hreceived, hchecked⟩
  · exact (hw i c hc).proceed huser hexec

/-- Every call in progress has been let through. -/
theorem mediated_of_exec {w₀ : World} {es : List Event} (h₀ : w₀.calls = [])
    (h : exec (step cfg) w₀ es = some w) :
    ∀ i c, w.calls[i]? = some c → Mediated (history (step cfg) w₀ es) i c :=
  exec_history_invariant (step cfg)
    (I := fun w past => ∀ i c, w.calls[i]? = some c → Mediated past i c)
    (fun _ _ _ _ hw hstep => mediated_step hw hstep) (by simp [h₀]) h

/-- Nothing changes the organizations, users, tickets and comments but the last step of a call that
has been let through. -/
theorem writes_mediated {w₀ : World} {es : List Event} (h₀ : w₀.calls = [])
    (h : exec (step cfg) w₀ es = some w) (hstep : step cfg w e = some w')
    (hwrite : ¬ w.db.SameDomain w'.db) :
    ∃ i env c, e = .proceed i env ∧ w.calls[i]? = some c ∧ Call.Writes env w.db c.call w'.db ∧
      Mediated (history (step cfg) w₀ es) i c := by
  cases step_cases hstep with
  | @proceed i env c db call hc hexecutes =>
    obtain ⟨user, call₀⟩ := c
    cases hexecutes with
    | wrote hwrites =>
      exact ⟨i, env, _, rfl, hc, hwrites, mediated_of_exec h₀ h i _ hc⟩
    | _ => exact absurd (.refl _) hwrite
  | relay _ hsteps =>
    rw [hsteps.frame] at hwrite
    exact absurd ⟨rfl, rfl, rfl, rfl⟩ hwrite
  | consume _ hexecutes | finish _ hexecutes =>
    rw [hexecutes.frame] at hwrite
    exact absurd ⟨rfl, rfl, rfl, rfl⟩ hwrite
  | _ => exact absurd (.refl _) hwrite

theorem writes_mediated_create :
    ∃ w w', exec (step .default) (initial Seed.organizations Seed.users 1)
        [.arrive (some 13) none (.createTicket Seed.ticketDto)] = some w ∧
      step .default w (.proceed 0 (Seed.env 1)) = some w' ∧ ¬ w.db.SameDomain w'.db ∧
      ∃ i env c, Event.proceed 0 (Seed.env 1) = .proceed i env ∧ w.calls[i]? = some c ∧
        Call.Writes env w.db c.call w'.db ∧
        Mediated (history (step .default) (initial Seed.organizations Seed.users 1)
          [.arrive (some 13) none (.createTicket Seed.ticketDto)]) i c := by
  have hrun : (exec (step .default) (initial Seed.organizations Seed.users 1)
      [.arrive (some 13) none (.createTicket Seed.ticketDto)]).any fun w => w.calls.length = 1 ∧
        (step .default w (.proceed 0 (Seed.env 1))).any fun w' =>
          ¬ w.db.SameDomain w'.db := by decide
  obtain ⟨w, hw, -, hstep⟩ := exists_of_any hrun
  obtain ⟨w', hw', hwrite⟩ := exists_of_any hstep
  exact ⟨w, w', hw, hw', hwrite, writes_mediated rfl hw hw' hwrite⟩

end World

end SupportPlatform
