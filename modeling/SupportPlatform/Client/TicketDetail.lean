import SupportPlatform.Client.Forms
import SupportPlatform.Client.Navigation

/-!
# The page of a ticket

`TicketDetailComponent`: the ticket, its comments and the users it may be assigned to, the requests
the page has started, and their answers, which arrive in any order. What the template offers depends
on the role of the viewer.
-/

namespace SupportPlatform

open Forms Validation

/-- The requests of the page. `load` asks for the ticket and its comments together. -/
inductive DetailCall where
  | listUsers
  | load
  | update (id : Uuid) (status : TicketStatus)
  | assign (id : Uuid) (assigneeId : Uuid)
  | addComment (id : Uuid) (body : String) (isInternal : Bool)
deriving DecidableEq, Repr

/-- What a request is answered with. -/
inductive DetailAnswer where
  | users (items : List User)
  | loaded (ticket : Ticket) (comments : List Comment)
  | ticket (ticket : Ticket)
  | comment (comment : Comment)
  | failed (error : HttpErrorResponse)
deriving DecidableEq, Repr

structure DetailRequest where
  call : DetailCall
  answer : Option DetailAnswer
deriving DecidableEq, Repr

/-- The signals and controls of the page, and its requests. -/
structure TicketDetailView where
  loading : Bool
  posting : Bool
  ticket : Option Ticket
  comments : List Comment
  users : List User
  commentBody : String
  commentInternal : Bool
  requests : List DetailRequest
deriving DecidableEq, Repr

/-- What happens to the page. `edited` is the dialog of the ticket form being closed. -/
inductive DetailEvent where
  | type (body : String)
  | toggleInternal (isInternal : Bool)
  | changeStatus (status : TicketStatus)
  | assign (assigneeId : Uuid)
  | assignToMe
  | addComment
  | edited (updated : Option Ticket)
  | answered (i : Nat) (answer : DetailAnswer)
deriving DecidableEq, Repr

namespace TicketDetailComponent

/-- `commentBody.invalid`. The notion of an email does not matter to these validators. -/
def commentInvalid (body : String) : Bool :=
  !valid (fun _ => true) [.required, .minLength 1] body

def isStaff (viewer : AuthenticatedUser) : Bool := viewer.role = .admin || viewer.role = .agent

def isAdmin (viewer : AuthenticatedUser) : Bool := viewer.role = .admin

/-- The users an administrator can choose from. -/
def assignableUsers (v : TicketDetailView) : List User :=
  v.users.filter fun u => u.role ≠ .customer && u.isActive

def send (v : TicketDetailView) (call : DetailCall) : TicketDetailView :=
  { v with requests := v.requests ++ [⟨call, none⟩] }

/-- The page after `ngOnInit`. -/
def ngOnInit (viewer : AuthenticatedUser) : TicketDetailView where
  loading := true
  posting := false
  ticket := none
  comments := []
  users := []
  commentBody := ""
  commentInternal := false
  requests := (if isAdmin viewer then [⟨.listUsers, none⟩] else []) ++ [⟨.load, none⟩]

/-- To choose the status the ticket has sends nothing. -/
def changeStatus (v : TicketDetailView) (t : Ticket) (status : TicketStatus) : TicketDetailView :=
  if t.status = status then v else send v (.update t.id status)

/-- Only one comment is on its way at a time, and only staff are asked whether it is internal. -/
def addComment (viewer : AuthenticatedUser) (v : TicketDetailView) (t : Ticket) :
    TicketDetailView :=
  if commentInvalid v.commentBody || v.posting then v
  else
    send { v with posting := true } (.addComment t.id v.commentBody
      (if isStaff viewer then v.commentInternal else false))

/-- The callbacks of the requests; `none` where the answer is not one to the request. -/
def receive (v : TicketDetailView) : DetailCall → DetailAnswer → Option TicketDetailView
  | .listUsers, .users items => some { v with users := items }
  | .load, .loaded ticket comments =>
    some { v with ticket := some ticket, comments, loading := false }
  | .load, .failed _ => some { v with loading := false }
  | .update _ _, .ticket ticket | .assign _ _, .ticket ticket =>
    some { v with ticket := some ticket }
  | .addComment _ _ _, .comment comment =>
    some { v with
      comments := v.comments ++ [comment]
      commentBody := ""
      commentInternal := false
      posting := false }
  | .addComment _ _ _, .failed _ => some { v with posting := false }
  | .listUsers, .failed _ | .update _ _, .failed _ | .assign _ _, .failed _ => some v
  | _, _ => none

/-- One step; `none` when the template does not offer the event or nothing is to be answered. The
controls are there once the ticket is. -/
def step (viewer : AuthenticatedUser) (v : TicketDetailView) :
    DetailEvent → Option TicketDetailView
  | .type body => if v.ticket.isSome then some { v with commentBody := body } else none
  | .toggleInternal isInternal =>
    if v.ticket.isSome && isStaff viewer then some { v with commentInternal := isInternal }
    else none
  | .changeStatus status =>
    v.ticket.bind fun t => if isStaff viewer then some (changeStatus v t status) else none
  | .assign assigneeId =>
    v.ticket.bind fun t =>
      if isAdmin viewer && (assignableUsers v).any (·.id = assigneeId) then
        some (send v (.assign t.id assigneeId))
      else none
  | .assignToMe =>
    v.ticket.bind fun t =>
      if isStaff viewer && !isAdmin viewer && t.assignedToId ≠ some viewer.id then
        some (send v (.assign t.id viewer.id))
      else none
  | .addComment => v.ticket.bind fun t => some (addComment viewer v t)
  | .edited updated =>
    if v.ticket.isSome && isStaff viewer then
      some (match updated with | some t => { v with ticket := some t } | none => v)
    else none
  | .answered i answer =>
    v.requests[i]?.bind fun r =>
      if r.answer.isNone then
        receive { v with requests := v.requests.set i { r with answer := some answer } }
          r.call answer
      else none

end TicketDetailComponent

open TicketDetailComponent in
/-- The request may be sent by the page of this viewer. -/
def DetailCall.Permitted (viewer : AuthenticatedUser) : DetailCall → Prop
  | .listUsers => isAdmin viewer
  | .load => True
  | .update _ _ | .assign _ _ => isStaff viewer
  | .addComment _ body isInternal => body ≠ "" ∧ (isInternal → isStaff viewer)

namespace TicketDetailComponent

/-! ### What a step can do -/

variable {viewer : AuthenticatedUser} {v w : TicketDetailView} {e : DetailEvent}

/-- The comments that an answer brings to the page. -/
def brought : DetailEvent → List Comment
  | .answered _ (.loaded _ comments) => comments
  | .answered _ (.comment comment) => [comment]
  | _ => []

/-- All that a step does: it changes controls or the ticket that is shown, it sends a request that
is permitted, or a request is answered. -/
inductive Steps (viewer : AuthenticatedUser) (v : TicketDetailView) :
    DetailEvent → TicketDetailView → Prop
  | changed {e ticket commentBody commentInternal} (he : brought e = [])
      (hticket : ticket.isSome = v.ticket.isSome) :
    Steps viewer v e { v with ticket, commentBody, commentInternal }
  | sent {e call} (he : brought e = []) (hticket : v.ticket.isSome)
      (hpermitted : call.Permitted viewer)
      (hcall : call ≠ .load ∧ ∀ id body isInternal, call ≠ .addComment id body isInternal) :
    Steps viewer v e (send v call)
  | posted {e id body isInternal} (he : brought e = []) (hticket : v.ticket.isSome)
      (hidle : v.posting = false)
      (hpermitted : (DetailCall.addComment id body isInternal).Permitted viewer) :
    Steps viewer v e (send { v with posting := true } (.addComment id body isInternal))
  | answered {i r answer w} (hr : v.requests[i]? = some r) (hnone : r.answer = none)
      (hreceive : receive { v with requests := v.requests.set i { r with answer := some answer } }
        r.call answer = some w) : Steps viewer v (.answered i answer) w

lemma body_ne_of_valid {body : String} (h : commentInvalid body = false) : body ≠ "" := by
  simp only [commentInvalid, Bool.not_eq_false', valid, List.all_cons, Validator.passes,
    Bool.and_eq_true, decide_eq_true_eq] at h
  exact h.1

theorem step_cases (h : step viewer v e = some w) : Steps viewer v e w := by
  cases e with
  | type body =>
    rw [step] at h
    split_ifs at h
    cases h
    exact .changed rfl rfl
  | toggleInternal isInternal =>
    rw [step] at h
    split_ifs at h
    cases h
    exact .changed rfl rfl
  | changeStatus status =>
    obtain ⟨t, ht, h⟩ := Option.bind_eq_some_iff.mp h
    split_ifs at h with hstaff
    obtain rfl := Option.some.inj h
    rw [changeStatus]
    split_ifs
    · exact @Steps.changed _ _ _ v.ticket _ _ rfl rfl
    · exact .sent rfl (by simp [ht]) hstaff ⟨by simp, by simp⟩
  | assign assigneeId =>
    obtain ⟨t, ht, h⟩ := Option.bind_eq_some_iff.mp h
    split_ifs at h with hadmin
    obtain rfl := Option.some.inj h
    have hstaff : isStaff viewer = true := by
      simp only [Bool.and_eq_true, isAdmin, decide_eq_true_eq] at hadmin
      simp [isStaff, hadmin.1]
    exact .sent rfl (by simp [ht]) hstaff ⟨by simp, by simp⟩
  | assignToMe =>
    obtain ⟨t, ht, h⟩ := Option.bind_eq_some_iff.mp h
    split_ifs at h with hagent
    obtain rfl := Option.some.inj h
    simp only [Bool.and_eq_true] at hagent
    exact .sent rfl (by simp [ht]) hagent.1.1 ⟨by simp, by simp⟩
  | addComment =>
    obtain ⟨t, ht, h⟩ := Option.bind_eq_some_iff.mp h
    obtain rfl := Option.some.inj h
    rw [addComment]
    by_cases hignored : (commentInvalid v.commentBody || v.posting) = true
    · rw [if_pos hignored]
      exact @Steps.changed _ _ _ v.ticket _ _ rfl rfl
    · rw [if_neg hignored]
      simp only [Bool.or_eq_true, not_or, Bool.not_eq_true] at hignored
      have hbody := body_ne_of_valid hignored.1
      refine .posted rfl (by simp [ht]) hignored.2 ⟨hbody, fun hinternal => ?_⟩
      by_contra hcustomer
      simp [hcustomer] at hinternal
  | edited updated =>
    simp only [step] at h
    split_ifs at h with hticket
    simp only [Bool.and_eq_true] at hticket
    cases updated with
    | none =>
      cases h
      exact .changed rfl rfl
    | some t =>
      cases h
      exact .changed rfl (by simp [hticket.1])
  | answered i answer =>
    obtain ⟨r, hr, h⟩ := Option.bind_eq_some_iff.mp h
    split_ifs at h with hnone
    exact .answered hr (Option.isNone_iff_eq_none.mp hnone) h

/-! ### Requests that are waiting -/

/-- A load without an answer. -/
def pendingLoad (r : DetailRequest) : Bool := r.call = .load && r.answer.isNone

/-- A comment that has been sent and has no answer. -/
def pendingPost (r : DetailRequest) : Bool :=
  match r.call with
  | .addComment _ _ _ => r.answer.isNone
  | _ => false

/-- The flags tell which requests are waiting, and before the ticket has arrived there are neither
comments nor a form to send one with. -/
structure Consistent (viewer : AuthenticatedUser) (v : TicketDetailView) : Prop where
  loads : v.requests.countP pendingLoad = v.loading.toNat
  posts : v.requests.countP pendingPost = v.posting.toNat
  fresh : v.loading = true → v.ticket = none
  blank : v.ticket = none →
    v.comments = [] ∧ ∀ r ∈ v.requests, r.call = .listUsers ∨ r.call = .load
  permitted : ∀ r ∈ v.requests, r.call.Permitted viewer

lemma consistent_ngOnInit : Consistent viewer (ngOnInit viewer) where
  loads := by cases h : isAdmin viewer <;> simp [ngOnInit, h, pendingLoad]
  posts := by cases h : isAdmin viewer <;> simp [ngOnInit, h, pendingPost]
  fresh _ := rfl
  blank _ := by cases h : isAdmin viewer <;> simp [ngOnInit, h]
  permitted r hr := by
    cases h : isAdmin viewer <;> simp only [ngOnInit, h] at hr
    · obtain rfl := List.mem_singleton.mp hr
      trivial
    · rcases List.mem_cons.mp hr with rfl | hr
      · exact h
      · obtain rfl := List.mem_singleton.mp hr
        trivial

/-- A request that is sent waits. -/
lemma countP_send (p : DetailRequest → Bool) (call : DetailCall) :
    (send v call).requests.countP p = v.requests.countP p + if p ⟨call, none⟩ then 1 else 0 := by
  simp [send, List.countP_append, List.countP_singleton]

/-- A request that is answered waits no longer. -/
lemma countP_answer {i : Nat} {r : DetailRequest} (hr : v.requests[i]? = some r)
    (answer : DetailAnswer) {p : DetailRequest → Bool}
    (hp : p { r with answer := some answer } = false) :
    (v.requests.set i { r with answer := some answer }).countP p + (if p r then 1 else 0) =
      v.requests.countP p := by
  have hset := Machine.countP_set_add (p := p) (a := { r with answer := some answer }) hr
  simpa [hp] using hset

/-- What holds of every call holds of every call after an answer. -/
lemma forall_call_answer {P : DetailCall → Prop} {i : Nat} {r : DetailRequest}
    (hr : v.requests[i]? = some r) (answer : DetailAnswer) (h : ∀ r ∈ v.requests, P r.call) :
    ∀ r' ∈ v.requests.set i { r with answer := some answer }, P r'.call := by
  intro r' hr'
  rcases List.mem_or_eq_of_mem_set hr' with hr' | rfl
  · exact h r' hr'
  · exact h r (List.mem_of_getElem? hr)

lemma flag_of_waiting {n : Nat} {flag : Bool} (h : n + 1 = flag.toNat) : flag = true ∧ n = 0 := by
  cases flag
  · cases h
  · exact ⟨rfl, Nat.succ.inj h⟩

/-- An answer keeps the page consistent, and the comments it brings are added to those shown. -/
lemma consistent_answered (hv : Consistent viewer v) {i : Nat} {r : DetailRequest}
    {answer : DetailAnswer} (hr : v.requests[i]? = some r) (hnone : r.answer = none)
    (h : receive { v with requests := v.requests.set i { r with answer := some answer } }
      r.call answer = some w) :
    Consistent viewer w ∧ w.comments = v.comments ++ brought (.answered i answer) := by
  obtain ⟨call, _⟩ := r
  obtain rfl := hnone
  have hloads := countP_answer hr answer (p := pendingLoad) (by simp [pendingLoad])
  have hposts := countP_answer hr answer (p := pendingPost) (by cases call <;> rfl)
  have hpermitted := forall_call_answer hr answer hv.permitted
  have hblank : v.ticket = none → v.comments = [] ∧
      ∀ r ∈ v.requests.set i ⟨call, some answer⟩, r.call = .listUsers ∨ r.call = .load :=
    fun hticket => ⟨(hv.blank hticket).1, @forall_call_answer _
      (fun call => call = .listUsers ∨ call = .load) _ _ hr answer (hv.blank hticket).2⟩
  -- only the ticket's controls send the other requests
  have hticket : call ≠ .listUsers → call ≠ .load → v.ticket ≠ none := fun husers hload hnone =>
    ((hv.blank hnone).2 _ (List.mem_of_getElem? hr)).elim husers hload
  rw [hv.loads] at hloads
  rw [hv.posts] at hposts
  cases call with
  | listUsers =>
    cases answer <;> cases h <;>
    exact ⟨⟨hloads, hposts, hv.fresh, hblank, hpermitted⟩, (List.append_nil _).symm⟩
  | load =>
    obtain ⟨hloading, hanswered⟩ := flag_of_waiting hloads
    cases answer <;> cases h
    · refine ⟨⟨hanswered, hposts, by simp, by simp, hpermitted⟩, ?_⟩
      rw [(hv.blank (hv.fresh hloading)).1]
      rfl
    · exact ⟨⟨hanswered, hposts, by simp, hblank, hpermitted⟩, (List.append_nil _).symm⟩
  | update id status | assign id assigneeId =>
    have hsome : v.ticket ≠ none := hticket (by simp) (by simp)
    cases answer <;> cases h
    · refine ⟨⟨hloads, hposts, fun hloading => ?_, by simp, hpermitted⟩,
        (List.append_nil _).symm⟩
      exact absurd (hv.fresh hloading) hsome
    · exact ⟨⟨hloads, hposts, hv.fresh, hblank, hpermitted⟩, (List.append_nil _).symm⟩
  | addComment id body isInternal =>
    obtain ⟨-, hanswered⟩ := flag_of_waiting hposts
    have hsome : v.ticket ≠ none := hticket (by simp) (by simp)
    cases answer <;> cases h
    · exact ⟨⟨hloads, hanswered, hv.fresh, fun hnone => absurd hnone hsome, hpermitted⟩, rfl⟩
    · exact ⟨⟨hloads, hanswered, hv.fresh, hblank, hpermitted⟩, (List.append_nil _).symm⟩

/-- The step lemma: the page stays consistent, and what an answer brings is added to the list. -/
theorem consistent_step (hv : Consistent viewer v) (h : step viewer v e = some w) :
    Consistent viewer w ∧ w.comments = v.comments ++ brought e := by
  cases step_cases h with
  | changed he hticket =>
    have hnone {t : Option Ticket} (ht : t.isSome = v.ticket.isSome) :
        t = none ↔ v.ticket = none := by
      rw [← Option.not_isSome_iff_eq_none, ← Option.not_isSome_iff_eq_none, ht]
    refine ⟨⟨hv.loads, hv.posts, fun hloading => ?_, fun ht => ?_, hv.permitted⟩, ?_⟩
    · exact (hnone hticket).mpr (hv.fresh hloading)
    · exact hv.blank ((hnone hticket).mp ht)
    · rw [he, List.append_nil]
  | @sent _ call he hticket hpermitted hcall =>
    have hsome : v.ticket ≠ none := Option.isSome_iff_ne_none.mp hticket
    refine ⟨⟨?_, ?_, hv.fresh, fun hnone => absurd hnone hsome, ?_⟩, ?_⟩
    · rw [countP_send, if_neg (by simp [pendingLoad, hcall.1])]
      exact hv.loads
    · have hother : pendingPost ⟨call, none⟩ = false := by
        cases call <;> first | rfl | exact absurd rfl (hcall.2 _ _ _)
      rw [countP_send, hother]
      exact hv.posts
    · exact List.forall_mem_append.mpr ⟨hv.permitted, by simpa using hpermitted⟩
    · rw [he, List.append_nil]
      rfl
  | posted he hticket hidle hpermitted =>
    have hsome : v.ticket ≠ none := Option.isSome_iff_ne_none.mp hticket
    have hposts := hv.posts
    rw [hidle] at hposts
    refine ⟨⟨?_, ?_, hv.fresh, fun hnone => absurd hnone hsome, ?_⟩, ?_⟩
    · rw [countP_send]
      exact hv.loads
    · rw [countP_send]
      exact congrArg (· + 1) hposts
    · exact List.forall_mem_append.mpr ⟨hv.permitted, by simpa using hpermitted⟩
    · rw [he, List.append_nil]
      rfl
  | answered hr hnone hreceive => exact consistent_answered hv hr hnone hreceive

/-! ### Runs -/

/-- In every run of the page the list shows the comments it was loaded with and, after them, those
that have been confirmed, each once and in the order of the answers; and at most one comment is on
its way. -/
theorem comments_shown {es : List DetailEvent}
    (h : Machine.exec (step viewer) (ngOnInit viewer) es = some v) :
    v.comments = es.flatMap brought ∧ v.requests.countP pendingPost ≤ 1 := by
  have hledger := Machine.collect_ledger (step viewer) (I := Consistent viewer)
    (f := fun _ e _ => brought e) 
    (fun _ _ _ hv h => (consistent_step hv h).1) (fun _ _ _ hv h => (consistent_step hv h).2)
    consistent_ngOnInit h
  have hconsistent : Consistent viewer v :=
    Machine.exec_invariant (step viewer) (fun _ _ _ hv h => (consistent_step hv h).1)
      consistent_ngOnInit h
  rw [Machine.collect_events (step viewer) brought h] at hledger
  exact ⟨hledger, hconsistent.posts ▸ Bool.toNat_le _⟩

namespace Seed

def thanks : Comment := ⟨40, 31, 12, "Thanks for reporting this.", false, 1⟩

def onIt : Comment := ⟨41, 31, 12, "On it.", true, 2⟩

/-- The button is pressed twice, and the status is changed before the comment is confirmed. -/
def detailRun : List DetailEvent :=
  [.answered 0 (.loaded SupportPlatform.Seed.loginTicket [thanks]), .type "On it.",
    .toggleInternal true, .addComment, .addComment, .changeStatus .inProgress,
    .answered 1 (.comment onIt)]

end Seed

theorem comments_shown_agent :
    ∃ v, Machine.exec (step SupportPlatform.Seed.actor) (ngOnInit SupportPlatform.Seed.actor)
        Seed.detailRun = some v ∧
      v.comments = [Seed.thanks, Seed.onIt] ∧ v.requests.countP pendingPost ≤ 1 := by
  have hrun : (Machine.exec (step SupportPlatform.Seed.actor)
      (ngOnInit SupportPlatform.Seed.actor) Seed.detailRun).isSome := by decide
  obtain ⟨v, hv⟩ := Option.isSome_iff_exists.mp hrun
  exact ⟨v, hv, comments_shown hv⟩

end TicketDetailComponent

/-! ### What the API makes of the requests -/

namespace DetailCall

/-- The operations of a request. -/
def operations : DetailCall → List ApiOperation
  | listUsers => [.usersList]
  | load => [.ticketsGetById, .ticketsListComments]
  | update _ _ => [.ticketsUpdate]
  | assign _ _ => [.ticketsAssign]
  | addComment _ _ _ => [.ticketsAddComment]

/-- The class and the body of the requests that send one; `uuidText` is an id as the API writes
it. -/
def body? (uuidText : Uuid → String) : DetailCall → Option (List Property × Json)
  | update _ status =>
    some (UpdateTicketDto.properties, .object [("status", .string status.text)])
  | assign _ assigneeId =>
    some (AssignTicketDto.properties, .object [("assigneeId", .string (uuidText assigneeId))])
  | addComment _ body isInternal =>
    some (CreateCommentDto.properties,
      .object [("body", .string body), ("isInternal", .boolean isInternal)])
  | listUsers | load => none

/-- What the API asks of a request beyond what the page has checked. -/
def Fits (lib : Library) (uuidText : Uuid → String) : DetailCall → Prop
  | assign _ assigneeId => lib.isUuid (uuidText assigneeId)
  | addComment _ body _ => ClientForm.Between lib 1 5000 body
  | listUsers | load | update _ _ => True

lemma text_mem_statuses (status : TicketStatus) :
    status.text ∈ ticketStatuses.map TicketStatus.text := by
  cases status <;> decide

/-- The pipe accepts every status, every comment of the right length and every assignee whose id it
takes for a uuid. -/
lemma accepted_iff {lib : Library} {uuidText : Uuid → String} {call : DetailCall}
    {dto : List Property} {body : Json} (h : call.body? uuidText = some (dto, body)) :
    (pipe lib dto body).isSome ↔ call.Fits lib uuidText := by
  cases call with
  | update id status =>
    cases h
    have hstatus := text_mem_statuses status
    rw [isSome_pipe_iff (by simp [declaredType, UpdateTicketDto.properties, convert, toText])]
    simp [UpdateTicketDto.properties, Property.accepts, Rule.check, Fits, List.lookup_cons,
      hstatus]
  | addComment id text isInternal =>
    cases h
    rw [isSome_pipe_iff (by simp [declaredType, CreateCommentDto.properties, convert, toText,
      Json.toBoolean])]
    simp [CreateCommentDto.properties, Property.accepts, Rule.check, Fits, List.lookup_cons,
      ClientForm.Between]
  | assign id assigneeId =>
    cases h
    rw [isSome_pipe_iff (by simp [declaredType, AssignTicketDto.properties, convert, toText])]
    simp [AssignTicketDto.properties, Property.accepts, Rule.check, Fits, List.lookup_cons]
  | listUsers | load => cases h

/-- The page of a ticket offers what it sends. -/
lemma mem_offers {viewer : AuthenticatedUser} {call : DetailCall}
    (h : call.Permitted viewer) (id : List String) :
    ∀ op ∈ call.operations, op ∈ (Page.ticketDetail id).offers viewer.role := by
  cases hrole : viewer.role <;> cases call <;>
  simp_all [Permitted, operations, Page.offers, TicketDetailComponent.isStaff,
    TicketDetailComponent.isAdmin]

end DetailCall

namespace TicketDetailComponent

variable {viewer : AuthenticatedUser} {v : TicketDetailView}

/-- In every run of the page each request is one that the API admits the viewer to, as long as he
has the role there that the client knows him with. Its body is accepted but for a comment that is
too long and an assignee whose id is no uuid to the pipe, and only staff send internal notes. -/
theorem requests_accepted (lib : Library) (uuidText : Uuid → String) {user : AuthenticatedUser}
    (hrole : user.role = viewer.role) {es : List DetailEvent}
    (h : Machine.exec (step viewer) (ngOnInit viewer) es = some v) {r : DetailRequest}
    (hr : r ∈ v.requests) :
    (∀ op ∈ r.call.operations, op.admits user.role) ∧
      (∀ dto body, r.call.body? uuidText = some (dto, body) →
        ((pipe lib dto body).isSome ↔ r.call.Fits lib uuidText)) ∧
      ∀ id body isInternal, r.call = .addComment id body isInternal → isInternal →
        viewer.role ≠ .customer := by
  have hconsistent : Consistent viewer v :=
    Machine.exec_invariant (step viewer) (fun _ _ _ hv h => (consistent_step hv h).1)
      consistent_ngOnInit h
  have hpermitted := hconsistent.permitted r hr
  refine ⟨fun op hop => ?_, fun _ _ hbody => DetailCall.accepted_iff hbody, ?_⟩
  · rw [hrole]
    exact Router.admits_of_offers (by simp) op (DetailCall.mem_offers hpermitted [] op hop)
  · intro id body isInternal hcall hinternal hcustomer
    rw [hcall] at hpermitted
    have hstaff := hpermitted.2 hinternal
    simp [isStaff, hcustomer] at hstaff

theorem requests_accepted_agent :
    ∃ v, Machine.exec (step SupportPlatform.Seed.actor) (ngOnInit SupportPlatform.Seed.actor)
        Seed.detailRun = some v ∧
      ∃ r ∈ v.requests, (∀ op ∈ r.call.operations, op.admits .agent) ∧
        (∀ dto body, r.call.body? toString = some (dto, body) →
          ((pipe SupportPlatform.Seed.library dto body).isSome ↔
            r.call.Fits SupportPlatform.Seed.library toString)) ∧
        ∀ id body isInternal, r.call = .addComment id body isInternal → isInternal →
          Role.agent ≠ .customer := by
  have hrun : (Machine.exec (step SupportPlatform.Seed.actor)
      (ngOnInit SupportPlatform.Seed.actor) Seed.detailRun).any fun v =>
        ⟨.addComment 31 "On it." true, some (.comment Seed.onIt)⟩ ∈ v.requests := by decide
  obtain ⟨v, hv, hr⟩ := Machine.exists_of_any hrun
  have hrole : SupportPlatform.Seed.actor.role = SupportPlatform.Seed.actor.role := rfl
  exact ⟨v, hv, _, hr, requests_accepted SupportPlatform.Seed.library toString hrole hv hr⟩

end TicketDetailComponent

end SupportPlatform
