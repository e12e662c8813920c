import SupportPlatform.Consumers.Recipients
import SupportPlatform.Platform.AuditTrail
import SupportPlatform.Platform.Mediation

/-!
# What the trail and the notifications come from

An audit row and a notification are written long after the request they come from, by another
process and from a copy of a copy. Still each of them leads back to one request of the history,
made by the user the row names, and to the correlation id it came with.
-/

namespace SupportPlatform

/-- The payloads of the events that a request of a user gives rise to. -/
inductive Request.Explains (user : AuthenticatedUser) : Request → Payload → Prop
  | created {dto p} (htitle : p.title = dto.title) (horg : p.organizationId = user.organizationId)
    (hby : p.createdById = user.id) : Explains user (.createTicket dto) (.ticketCreated p)
  | updated {id dto p} (hticket : p.ticketId = id) (hchanges : p.changes = dto)
    (hby : p.updatedById = user.id) : Explains user (.updateTicket id dto) (.ticketUpdated p)
  | closed {id dto p} (hticket : p.ticketId = id) (hstatus : dto.status = .value .closed)
    (hby : p.closedById = user.id) : Explains user (.updateTicket id dto) (.ticketClosed p)
  | assigned {id dto p} (hticket : p.ticketId = id) (hassignee : p.assignedToId = dto.assigneeId)
    (hby : p.assignedById = user.id) : Explains user (.assignTicket id dto) (.ticketAssigned p)
  | commented {ticketId dto p} (hticket : p.ticketId = ticketId)
    (hinternal : p.isInternal = CommentsService.isInternal user dto)
    (horg : p.organizationId = user.organizationId) (hby : p.authorId = user.id) :
    Explains user (.createComment ticketId dto) (.commentCreated p)

/-- The event names the user as the one who acted. -/
lemma Request.Explains.actorId {user : AuthenticatedUser} {request : Request} {p : Payload}
    (h : request.Explains user p) : p.actorId? = some user.id := by
  cases h with
  | created _ _ hby | updated _ _ hby | closed _ _ hby | assigned _ _ hby | commented _ _ _ hby =>
    exact congrArg some hby

namespace Call

variable {user : AuthenticatedUser} {correlationId : Option String} {request : Request}

namespace Serves

lemma of_ticketsCreate {actor : AuthenticatedUser} {dto : CreateTicketDto} {cid : Option String}
    (h : Serves user correlationId request (.ticketsCreate actor dto cid)) :
    request = .createTicket dto ∧ actor = user ∧ cid = correlationId := by
  generalize hcall : Call.ticketsCreate actor dto cid = call at h
  cases h with
  | started =>
    cases request with
    | createTicket =>
      cases hcall
      exact ⟨rfl, rfl, rfl⟩
    | _ => cases hcall
  | _ => cases hcall

lemma of_ticketsUpdate {actor : AuthenticatedUser} {id : Uuid} {dto : UpdateTicketDto}
    {cid : Option String} {existing : Ticket}
    (h : Serves user correlationId request (.ticketsUpdateTransaction actor id dto cid existing)) :
    request = .updateTicket id dto ∧ actor = user ∧ cid = correlationId := by
  generalize hcall : Call.ticketsUpdateTransaction actor id dto cid existing = call at h
  cases h with
  | started => cases request <;> cases hcall
  | ticketsUpdate =>
    cases hcall
    exact ⟨rfl, rfl, rfl⟩
  | _ => cases hcall

lemma of_ticketsAssign {actor : AuthenticatedUser} {id : Uuid} {dto : AssignTicketDto}
    {cid : Option String}
    (h : Serves user correlationId request (.ticketsAssignTransaction actor id dto cid)) :
    request = .assignTicket id dto ∧ actor = user ∧ cid = correlationId := by
  generalize hcall : Call.ticketsAssignTransaction actor id dto cid = call at h
  cases h with
  | started => cases request <;> cases hcall
  | ticketsAssign =>
    cases hcall
    exact ⟨rfl, rfl, rfl⟩
  | _ => cases hcall

lemma of_commentsCreate {actor : AuthenticatedUser} {ticketId : Uuid} {dto : CreateCommentDto}
    {cid : Option String}
    (h : Serves user correlationId request (.commentsCreateTransaction actor ticketId dto cid)) :
    request = .createComment ticketId dto ∧ actor = user ∧ cid = correlationId := by
  generalize hcall : Call.commentsCreateTransaction actor ticketId dto cid = call at h
  cases h with
  | started => cases request <;> cases hcall
  | commentsCreate =>
    cases hcall
    exact ⟨rfl, rfl, rfl⟩
  | _ => cases hcall

end Serves

/-- What a call of a user adds to the outbox is explained by the request it serves. -/
lemma Writes.explained {env : Env} {db db' : Db} {call : Call} (h : Writes env db call db')
    (hserves : Serves user correlationId request call) :
    ∃ rows : List EventOutbox, db'.log = db.log ++ rows.map EventOutbox.content ∧
      ∀ r ∈ rows, r.correlationId = correlationId ∧ request.Explains user r.payload := by
  cases h with
  | ticketsCreate _ ho =>
    obtain ⟨rfl, rfl, rfl⟩ := hserves.of_ticketsCreate
    refine ⟨_, Db.log_of_append ho, fun r hr => ?_⟩
    obtain rfl := List.mem_singleton.mp hr
    exact ⟨rfl, .created rfl rfl rfl⟩
  | @ticketsUpdate _ id dto _ existing t _ ht ho =>
    obtain ⟨rfl, rfl, rfl⟩ := hserves.of_ticketsUpdate
    obtain ⟨-, hid⟩ := Table.find?_eq_some.mp ht
    refine ⟨_, Db.log_of_append ho, fun r hr => ?_⟩
    rcases List.mem_cons.mp hr with rfl | hr
    · exact ⟨rfl, .updated hid rfl rfl⟩
    · split at hr
      · next hclose =>
        obtain rfl := List.mem_singleton.mp hr
        have hstatus : dto.status = .value .closed := (of_decide_eq_true hclose).1
        exact ⟨rfl, .closed hid hstatus rfl⟩
      · cases hr
  | ticketsAssign ht ho =>
    obtain ⟨rfl, rfl, rfl⟩ := hserves.of_ticketsAssign
    obtain ⟨-, hid⟩ := Table.find?_eq_some.mp ht
    refine ⟨_, Db.log_of_append ho, fun r hr => ?_⟩
    obtain rfl := List.mem_singleton.mp hr
    exact ⟨rfl, .assigned hid rfl rfl⟩
  | commentsCreate _ ho =>
    obtain ⟨rfl, rfl, rfl⟩ := hserves.of_commentsCreate
    refine ⟨_, Db.log_of_append ho, fun r hr => ?_⟩
    obtain rfl := List.mem_singleton.mp hr
    exact ⟨rfl, .commented rfl rfl rfl rfl⟩
  | _ => exact ⟨[], (List.append_nil _).symm, fun _ hr => by cases hr⟩

/-- A call of a public request adds nothing to the outbox. -/
lemma Writes.log_of_public {env : Env} {db db' : Db} {call : Call} (h : Writes env db call db')
    (hserves : ServesPublic request call) : db'.log = db.log := by
  cases hserves <;> cases h <;> rfl

end Call

namespace World

open Machine

variable {cfg : Config} {w w' : World} {e : Event}

/-- The event has been written by a request of the history, which came with its correlation id and
which the guards let pass for this user: by the last step of the call that the request started. -/
def Written (past : List (World × Event)) (user : AuthenticatedUser)
    (x : Uuid × Payload × Option String) : Prop :=
  ∃ before w sub request after,
    past = before ++ (w, .arrive (some sub) x.2.2 request) :: after ∧
      JwtStrategy.validate w.db sub = .ok user ∧ request.admits user ∧
      request.Explains user x.2.1 ∧
      ∃ w' env call db, (w', .proceed w.calls.length env) ∈ after ∧
        w'.calls[w.calls.length]? = some ⟨some user, call⟩ ∧
        Call.Serves user x.2.2 request call ∧ Call.Writes env w'.db call db ∧
        ∃ rows : List EventOutbox, db.log = w'.db.log ++ rows.map EventOutbox.content ∧
          x ∈ rows.map EventOutbox.content

lemma Written.append {past : List (World × Event)} {user : AuthenticatedUser}
    {x : Uuid × Payload × Option String} (h : Written past user x) (y : World × Event) :
    Written (past ++ [y]) user x := by
  obtain ⟨before, w, sub, request, after, rfl, hvalid, hadmits, hexplains, w', env, call, db,
    hmem, hrest⟩ := h
  exact ⟨before, w, sub, request, after ++ [y], by simp, hvalid, hadmits, hexplains, w', env, call,
    db, List.mem_append_left _ hmem, hrest⟩

/-- A step adds to the outbox what a request of the history writes in it. -/
lemma log_of_step {past : List (World × Event)}
    (hw : ∀ i c, w.calls[i]? = some c → Mediated past i c) (h : step cfg w e = some w')
    {x : Uuid × Payload × Option String} (hx : x ∈ w'.db.log) :
    x ∈ w.db.log ∨ ∃ user, Written (past ++ [(w, e)]) user x := by
  cases step_cases h with
  | @proceed i env c db call hc hexecutes =>
    have hmediated := hw i c hc
    obtain ⟨user, call₀⟩ := c
    cases hexecutes with
    | wrote hwrites =>
      obtain ⟨before, w₀, sub, correlationId, request, after, rfl, rfl, hreceived, -⟩ := hmediated
      cases hreceived with
      | refused => cases hwrites
      | «public» hserves => exact .inl (hwrites.log_of_public hserves ▸ hx)
      | admitted hsub hvalid hadmits hserves =>
        subst hsub
        obtain ⟨rows, hlog, hrows⟩ := hwrites.explained hserves
        have hx : x ∈ db.log := hx
        rw [hlog] at hx
        rcases List.mem_append.mp hx with hx | hx
        · exact .inl hx
        · obtain ⟨r, hr, rfl⟩ := List.mem_map.mp hx
          obtain ⟨rfl, hexplains⟩ := hrows r hr
          exact .inr ⟨_, before, w₀, _, request, after ++ [(w, .proceed w₀.calls.length env)],
            by simp [EventOutbox.content], hvalid, hadmits, hexplains, w, env, call₀, db, by simp,
            hc, hserves, hwrites, rows, hlog, List.mem_map_of_mem hr⟩
    | _ => exact .inl hx
  | relay _ hsteps => exact .inl (hsteps.log ▸ hx)
  | consume _ hexecutes | finish _ hexecutes => exact .inl (hexecutes.log ▸ hx)
  | _ => exact .inl hx

/-- Every event of the outbox has been written by a request of the history. -/
theorem log_written {w₀ : World} {es : List Event} (hcalls : w₀.calls = [])
    (hlog : w₀.db.log = []) (h : exec (step cfg) w₀ es = some w) :
    ∀ x ∈ w.db.log, ∃ user, Written (history (step cfg) w₀ es) user x := by
  have key := exec_history_invariant (step cfg) (I := fun w past =>
    (∀ i c, w.calls[i]? = some c → Mediated past i c) ∧
      ∀ x ∈ w.db.log, ∃ user, Written past user x) ?_ (by simp [hcalls, hlog]) h
  · exact key.2
  · rintro w e w' past ⟨hw, hwritten⟩ hstep
    refine ⟨mediated_step hw hstep, fun x hx => ?_⟩
    rcases log_of_step hw hstep hx with hx | hx
    · obtain ⟨user, hx⟩ := hwritten x hx
      exact ⟨user, hx.append (w, e)⟩
    · exact hx

/-! ### Audit rows -/

/-- Every audit row leads back to an event of the outbox, and with it to the request of the history
that wrote the event. The row has the event's correlation id, which the request came with, says what
the event says, and names the user who made the request, unless this user has been removed since. -/
theorem audit_traceable {organizations : Table Organization} {users : Table User} {n : Nat}
    {es : List Event} (h : exec (step cfg) (initial organizations users n) es = some w)
    {a : AuditLog} (ha : a ∈ w.db.auditLogs.rows) :
    ∃ user, ∃ x ∈ w.db.log,
      Written (history (step cfg) (initial organizations users n) es) user x ∧
      a.Says x (if user.id ∈ w.db.users.retired then none else some user.id)
        (w.db.organizationOf x.2.1) := by
  obtain ⟨r, hr, hsays, -⟩ := (audited_of_exec h).origin ha
  have hlog : r.content ∈ w.db.log := List.mem_map_of_mem hr
  obtain ⟨user, hwritten⟩ := log_written rfl rfl h r.content hlog
  have ⟨_, _, _, _, _, _, _, _, hexplains, _⟩ := hwritten
  refine ⟨user, r.content, hlog, hwritten, ?_⟩
  have hactor : w.db.actorOf r.payload =
      if user.id ∈ w.db.users.retired then none else some user.id := by
    rw [Db.actorOf, show r.payload.actorId? = _ from hexplains.actorId]
    split_ifs with hretired <;> simp [hretired]
  rw [← hactor]
  exact hsays

theorem audit_traceable_removed :
    ∃ w, exec (step .default) (initial Seed.organizations Seed.users 1) removedRun = some w ∧
      ∃ a ∈ w.db.auditLogs.rows, ∃ user, ∃ x ∈ w.db.log,
        Written (history (step .default) (initial Seed.organizations Seed.users 1) removedRun)
          user x ∧
        a.Says x (if user.id ∈ w.db.users.retired then none else some user.id)
          (w.db.organizationOf x.2.1) := by
  have hrun : (exec (step .default) (initial Seed.organizations Seed.users 1)
      removedRun).any fun w => ∃ a ∈ w.db.auditLogs.rows, a.actorId = none := by decide
  obtain ⟨w, hw, a, ha, -⟩ := exists_of_any hrun
  exact ⟨w, hw, a, ha, audit_traceable hw ha⟩

/-! ### Notifications -/

/-- The notification is for a recipient of the event, by the tickets as they were at a step of the
history, and labelled after the event. -/
def Announced (past : List (World × Event)) (payload : Payload) (n : Notification) : Prop :=
  ∃ x ∈ past, payload.Recipient x.1.db.tickets n.userId ∧
    payload.notificationType? = some n.type ∧ n.ticketId = payload.ticketId?

lemma Announced.mono {past past' : List (World × Event)} {payload : Payload} {n : Notification}
    (h : Announced past payload n) (hpast : past ⊆ past') : Announced past' payload n := by
  obtain ⟨x, hx, hrest⟩ := h
  exact ⟨x, hpast hx, hrest⟩

/-- Whom a notification is for and what it is about stays as it is. -/
lemma Announced.congr {past : List (World × Event)} {payload : Payload} {n n' : Notification}
    (h : Announced past payload n) (huser : n'.userId = n.userId) (htype : n'.type = n.type)
    (hticket : n'.ticketId = n.ticketId) : Announced past payload n' := by
  unfold Announced
  rw [huser, htype, hticket]
  exact h

/-- Nobody is told of what he has done himself, but for the creation of a ticket. -/
lemma Announced.type_of_actor {past : List (World × Event)} {payload : Payload} {n : Notification}
    (h : Announced past payload n) (hactor : payload.actorId? = some n.userId) :
    n.type = .ticketCreated := by
  obtain ⟨x, -, hrecipient, htype, -⟩ := h
  cases payload with
  | ticketCreated => exact (Option.some.inj htype).symm
  | ticketAssigned => exact absurd (Option.some.inj hactor).symm hrecipient.2
  | ticketUpdated | ticketClosed | commentCreated =>
    obtain ⟨t, -, -, hne⟩ := hrecipient
    exact absurd (Option.some.inj hactor).symm hne
  | notificationCreated => cases hactor

/-- A projection that is still to be written was planned at a step of the history. -/
def PlannedIn (past : List (World × Event)) (d : Delivery) : Prop :=
  ∀ p, d.phase = .planned p → ∃ x ∈ past, ∃ env, p = d.consumer.plan env x.1.db d.message.event

lemma PlannedIn.mono {past past' : List (World × Event)} {d : Delivery} (h : PlannedIn past d)
    (hpast : past ⊆ past') : PlannedIn past' d := fun p hp => by
  obtain ⟨x, hx, henv⟩ := h p hp
  exact ⟨x, hpast hx, henv⟩

lemma plannedIn_step {past : List (World × Event)} (hw : ∀ d ∈ w.deliveries, PlannedIn past d)
    (h : step cfg w e = some w') : ∀ d ∈ w'.deliveries, PlannedIn (past ++ [(w, e)]) d := by
  intro d hd
  have hpast : past ⊆ past ++ [(w, e)] := List.subset_append_left _ _
  cases (step_cases h).arises hd with
  | kept hold => exact (hw d hold).mono hpast
  | received _ => intro p hp; cases hp
  | next _ hget hexecutes =>
    intro p hp
    obtain ⟨env, -, rfl⟩ := hexecutes.planned hp
    rw [hexecutes.message, hexecutes.consumer]
    exact ⟨(w, e), List.mem_append_right _ List.mem_cons_self, env, rfl⟩
  | @lost d₀ hold => exact (hw d₀ hold).mono hpast

/-- The rows of a planned insertion are for the recipients of its event. -/
lemma PlannedIn.announced {past : List (World × Event)} {d : Delivery} (hd : PlannedIn past d)
    {env : Env} {userIds : List Uuid} {type : NotificationType} {title message : String}
    {ticketId : Uuid} (hphase : d.phase = .planned (.notify userIds type title message ticketId))
    {n : Notification} (hn : n ∈ newNotifications env userIds type title message ticketId) :
    Announced past d.message.event.payload n := by
  obtain ⟨x, hx, env₀, hplan⟩ := hd _ hphase
  obtain ⟨i, hi, rfl⟩ := List.mem_mapIdx.mp hn
  have hconsumer : d.consumer = .notification := Consumer.eq_of_plan hplan.symm rfl
  rw [hconsumer] at hplan
  have hplans := NotificationConsumer.plans x.1.db d.message.event
  rw [show NotificationConsumer.plan x.1.db d.message.event = _ from hplan.symm] at hplans
  cases hplans with
  | notify _ hmem htype hticket =>
    exact ⟨x, hx, (hmem _).mp (List.getElem_mem hi), htype, hticket.symm⟩

/-- A notification in the table after a step of a delivery was there before or has been planned. -/
lemma notification_of_delivery {db db' : Db} {broker broker' : Broker} {locked : Bool}
    {d : Delivery} {a : DeliveryAction} {d' : Option Delivery}
    (h : d.Executes db broker locked a db' broker' d') {past : List (World × Event)}
    (hd : PlannedIn past d) {n : Notification} (hn : n ∈ db'.notifications.rows) :
    n ∈ db.notifications.rows ∨ Announced past d.message.event.payload n := by
  cases h with
  | committed hphase _ _ hwrite =>
    cases hwrite with
    | notify hinsert _ =>
      rw [(Table.insertAll?_eq_some hinsert).1] at hn
      exact (List.mem_append.mp hn).imp id fun hnew => hd.announced hphase hnew
    | _ => exact .inl hn
  | _ => exact .inl hn

/-- A call tells nobody anything: it marks notifications as read and drops them with their users. -/
lemma notification_of_call {env : Env} {db db' : Db} {call call' : Call}
    (h : Call.Executes env db call db' call') {n : Notification}
    (hn : n ∈ db'.notifications.rows) :
    ∃ n' ∈ db.notifications.rows, n.userId = n'.userId ∧ n.type = n'.type ∧
      n.ticketId = n'.ticketId := by
  have read : ∀ p : Notification → Bool,
      n ∈ (db.notifications.modifyWhere p (NotificationsService.read env.now)
        fun _ => rfl).rows →
      ∃ n' ∈ db.notifications.rows, n.userId = n'.userId ∧ n.type = n'.type ∧
        n.ticketId = n'.ticketId := by
    intro p hn
    obtain ⟨n', hn', rfl⟩ := Table.mem_modifyWhere.mp hn
    refine ⟨n', hn', ?_⟩
    split <;> exact ⟨rfl, rfl, rfl⟩
  cases h with
  | wrote h =>
    cases h with
    | organizationsRemove => exact ⟨n, List.mem_of_mem_filter hn, rfl, rfl, rfl⟩
    | notificationsMarkRead => exact read _ hn
    | notificationsMarkAllRead => exact read _ hn
    | _ => exact ⟨n, hn, rfl, rfl, rfl⟩
  | _ => exact ⟨n, hn, rfl, rfl, rfl⟩

/-- The notifications are announced by events of the outbox. -/
structure Traced (w : World) (past : List (World × Event)) : Prop where
  sourced : w.Sourced
  planned : ∀ d ∈ w.deliveries, PlannedIn past d
  notifications : ∀ n ∈ w.db.notifications.rows, ∃ x ∈ w.db.log, Announced past x.2.1 n

theorem traced_step {past : List (World × Event)} (hw : w.Traced past)
    (h : step cfg w e = some w') : w'.Traced (past ++ [(w, e)]) := by
  have hpast : past ⊆ past ++ [(w, e)] := List.subset_append_left _ _
  have hlog := (step_cases h).log.subset
  have kept : ∀ n ∈ w.db.notifications.rows,
      ∃ x ∈ w'.db.log, Announced (past ++ [(w, e)]) x.2.1 n := by
    intro n hn
    obtain ⟨x, hx, hannounced⟩ := hw.notifications n hn
    exact ⟨x, hlog hx, hannounced.mono hpast⟩
  have consumed : ∀ {i : ℕ} {d : Delivery} {a db broker d'}, w.deliveries[i]? = some d →
      d.Executes w.db w.broker (w.locked d.key) a db broker d' →
      ∀ n ∈ db.notifications.rows,
        ∃ x ∈ w'.db.log, Announced (past ++ [(w, e)]) x.2.1 n := by
    intro i d a db broker d' hd hexecutes n hn
    have hmem := List.mem_of_getElem? hd
    rcases notification_of_delivery hexecutes (hw.planned d hmem) hn with hn | hannounced
    · exact kept n hn
    · exact ⟨_, hlog (hw.sourced.handled d hmem), hannounced.mono hpast⟩
  refine ⟨(step_cases h).sourced hw.sourced, plannedIn_step hw.planned h, fun n hn => ?_⟩
  cases step_cases h with
  | proceed _ hexecutes =>
    obtain ⟨n', hn', huser, htype, hticket⟩ := notification_of_call hexecutes hn
    obtain ⟨x, hx, hannounced⟩ := kept n' hn'
    exact ⟨x, hx, hannounced.congr huser htype hticket⟩
  | relay _ hsteps =>
    rw [hsteps.frame] at hn
    exact kept n hn
  | consume hd hexecutes | finish hd hexecutes => exact consumed hd hexecutes n hn
  | _ => exact kept n hn

/-- Every notification leads back to an event of the outbox that it announces, and with it to the
request of the history that wrote the event. It is for somebody else than the user who made the
request, unless it is the creation of a ticket. -/
theorem notifications_traceable {organizations : Table Organization} {users : Table User} {n : Nat}
    {es : List Event} (h : exec (step cfg) (initial organizations users n) es = some w)
    {m : Notification} (hm : m ∈ w.db.notifications.rows) :
    ∃ user, ∃ x ∈ w.db.log,
      Written (history (step cfg) (initial organizations users n) es) user x ∧
      Announced (history (step cfg) (initial organizations users n) es) x.2.1 m ∧
      (m.userId = user.id → m.type = .ticketCreated) := by
  have htraced := exec_history_invariant (step cfg) (I := Traced)
    (fun _ _ _ _ hw hstep => traced_step hw hstep)
    ⟨sourced_initial .., fun _ hd => (by cases hd), fun _ hm => (by cases hm)⟩ h
  obtain ⟨x, hx, hannounced⟩ := htraced.notifications m hm
  obtain ⟨user, hwritten⟩ := log_written rfl rfl h x hx
  have ⟨_, _, _, _, _, _, _, _, hexplains, _⟩ := hwritten
  refine ⟨user, x, hx, hwritten, hannounced, fun hself => ?_⟩
  exact hannounced.type_of_actor (hself ▸ hexplains.actorId)

theorem notifications_traceable_lifecycle :
    ∃ w, exec (step .default) (initial Seed.organizations Seed.users 1) lifecycleRun = some w ∧
      ∃ m ∈ w.db.notifications.rows, ∃ user, ∃ x ∈ w.db.log,
        Written (history (step .default) (initial Seed.organizations Seed.users 1) lifecycleRun)
          user x ∧
        Announced (history (step .default) (initial Seed.organizations Seed.users 1) lifecycleRun)
          x.2.1 m ∧
        (m.userId = user.id → m.type = .ticketCreated) := by
  have hrun : (exec (step .default) (initial Seed.organizations Seed.users 1)
      lifecycleRun).any fun w => ∃ m ∈ w.db.notifications.rows, m.isRead = false := by decide
  obtain ⟨w, hw, m, hm, -⟩ := exists_of_any hrun
  exact ⟨w, hw, m, hm, notifications_traceable hw hm⟩

end World

end SupportPlatform
