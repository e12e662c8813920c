import SupportPlatform.Platform.AtMostOnce
import SupportPlatform.Platform.Integrity
import SupportPlatform.Services.Reads

/-!
# Internal notes and customers

A customer neither reads nor writes internal notes, which is decided by the role of the actor. That
no notification gives one away depends on who has the ticket when the event is projected, so on an
invariant about assignees: somebody who is a customer all along gets no ticket.
-/

namespace SupportPlatform

/-- The users a projection notifies. -/
def Projection.userIds : Projection → List Uuid
  | .notify userIds _ _ _ _ => userIds
  | _ => []

/-- The event of an internal note. -/
def Payload.isInternalNote : Payload → Bool
  | .commentCreated p => p.isInternal
  | _ => false

/-! ### Reads -/

/-- What a customer gets of a ticket's comments neither shows nor counts an internal one. -/
lemma CommentsService.findForTicket_customer {pg : Postgres} {actor : AuthenticatedUser}
    {ticketId : Uuid} {query : CommentQueryDto} {db : Db} {result : PaginatedResult Comment}
    (hrole : actor.role = .customer)
    (h : findForTicket pg actor ticketId query db = .ok result) :
    (∀ c ∈ result.items, c.isInternal = false) ∧
      result.meta.total = ((db.comments.rows.filter fun c =>
        c.ticketId = ticketId && !c.isInternal).toFinset).card := by
  have hwhere : «where» actor ticketId = fun c => c.ticketId = ticketId && !c.isInternal := by
    funext c
    simp [«where», hrole]
  unfold findForTicket at h
  split at h
  · cases h
  · cases h
    refine ⟨fun c hc => ?_, ?_⟩
    · have := (Postgres.mem_items_list hc).2
      rw [hwhere] at this
      simpa using ((Bool.and_eq_true _ _).mp this).2
    · rw [← hwhere]
      rfl

/-! ### The notification consumer -/

/-- The event of an internal note is projected for nobody but the assignee. -/
lemma NotificationConsumer.userIds_plan {db : Db} {event : DomainEvent} {id : Uuid}
    (hinternal : event.payload.isInternalNote) (h : id ∈ (plan db event).userIds) :
    ∃ t ∈ db.tickets.rows, t.assignedToId = some id := by
  cases hp : event.payload with
  | commentCreated p =>
    rw [hp] at hinternal
    simp only [plan, hp] at h
    split at h
    · cases h
    · next ticket hfind =>
      simp only [Payload.isInternalNote] at hinternal
      have hmem := (List.mem_filter.mp h).1
      rw [mem_unique, if_pos hinternal, List.mem_singleton] at hmem
      exact ⟨ticket, (Table.find?_eq_some.mp hfind).1, hmem.symm⟩
  | _ => rw [hp] at hinternal; cases hinternal

lemma Consumer.userIds_plan {env : Env} {db : Db} {event : DomainEvent} {c : Consumer} {id : Uuid}
    (hinternal : event.payload.isInternalNote) (h : id ∈ (c.plan env db event).userIds) :
    ∃ t ∈ db.tickets.rows, t.assignedToId = some id := by
  have hnotify : (c.plan env db event).consumer? = some .notification := by
    cases hp : c.plan env db event with
    | notify => rfl
    | _ => rw [hp] at h; cases h
  obtain rfl := Consumer.eq_of_plan rfl hnotify
  exact NotificationConsumer.userIds_plan hinternal h

/-- The notifications that a projection adds are for the users it notifies. -/
lemma Projection.Writes.notifications {env : Env} {db db' : Db} {p : Projection}
    (h : p.Writes env db db') : ∃ new, db'.notifications.rows = db.notifications.rows ++ new ∧
      ∀ n ∈ new, n.userId ∈ p.userIds := by
  cases h with
  | notify h _ =>
    refine ⟨_, (Table.insertAll?_eq_some h).1, fun n hn => ?_⟩
    obtain ⟨i, hi, rfl⟩ := List.mem_mapIdx.mp hn
    exact List.getElem_mem hi
  | _ => exact ⟨[], (List.append_nil _).symm, fun _ hn => by cases hn⟩

/-! ### Events and their comments -/

/-- The event of a comment says whether the comment is internal, as long as it is there. -/
def Db.NotesNamed (db : Db) : Prop :=
  ∀ x ∈ db.log, ∀ p, x.2.1 = .commentCreated p →
    db.comments.Names Comment.isInternal p.commentId p.isInternal

lemma Call.Writes.comments {env : Env} {db db' : Db} {call : Call}
    (h : Call.Writes env db call db') :
    Table.Evolves Comment.isInternal db.comments db'.comments := by
  cases h with
  | organizationsRemove => exact .removeWhere _ _
  | commentsCreate hc _ _ _ => exact .of_insert? hc
  | _ => exact .refl _ _

lemma Db.NotesNamed.of_append {db db' : Db} {rows : List EventOutbox} (h : db.NotesNamed)
    (hc : Table.Evolves Comment.isInternal db.comments db'.comments)
    (ho : db'.outbox.rows = db.outbox.rows ++ rows)
    (hrows : ∀ r ∈ rows, ∀ p, r.payload = .commentCreated p →
      db'.comments.Names Comment.isInternal p.commentId p.isInternal) : db'.NotesNamed := by
  intro x hx p hp
  rw [Db.log, Db.log_of_append ho] at hx
  rcases List.mem_append.mp hx with hx | hx
  · exact hc.names (h x hx p hp)
  · obtain ⟨r, hr, rfl⟩ := List.mem_map.mp hx
    exact hrows r hr p hp

lemma Call.Writes.notesNamed {env : Env} {db db' : Db} {call : Call}
    (h : Call.Writes env db call db') (hdb : db.NotesNamed) : db'.NotesNamed := by
  have hev := h.comments
  cases h with
  | ticketsCreate _ ho _ _ =>
    refine hdb.of_append hev ho fun r hr p hp => ?_
    obtain rfl := List.mem_singleton.mp hr
    cases hp
  | ticketsUpdate _ ho _ =>
    refine hdb.of_append hev ho fun r hr p hp => ?_
    rcases List.mem_cons.mp hr with rfl | hr
    · cases hp
    · split at hr
      · obtain rfl := List.mem_singleton.mp hr
        cases hp
      · cases hr
  | ticketsAssign _ ho _ _ =>
    refine hdb.of_append hev ho fun r hr p hp => ?_
    obtain rfl := List.mem_singleton.mp hr
    cases hp
  | commentsCreate hc ho _ _ =>
    refine hdb.of_append hev ho fun r hr p hp => ?_
    obtain rfl := List.mem_singleton.mp hr
    cases hp
    exact Table.names_of_mem Comment.isInternal ((Table.mem_insert? hc).mpr (.inr rfl))
  | _ => exact fun x hx p hp => hev.names (hdb x hx p hp)

lemma Call.Executes.notesNamed {env : Env} {db db' : Db} {call call' : Call}
    (h : Call.Executes env db call db' call') (hdb : db.NotesNamed) : db'.NotesNamed := by
  cases h with
  | wrote h => exact h.notesNamed hdb
  | _ => exact hdb

lemma Db.NotesNamed.congr {db db' : Db} (h : db.NotesNamed) (hlog : db'.log = db.log)
    (hc : db'.comments = db.comments) : db'.NotesNamed := by
  unfold NotesNamed
  rw [hlog, hc]
  exact h

/-! ### A customer -/

/-- Whoever has this id is a customer. -/
def Db.IsCustomer (db : Db) (u : Uuid) : Prop :=
  ∀ v ∈ db.users.rows, v.id = u → v.role = .customer

namespace Call

/-- What is known of a call in progress while `u` is a customer: it gives `u` no ticket, and it
writes comments of `u` with the authority of a customer. -/
def Discreet (u : Uuid) : Call → Prop
  | .ticketsAssignTransaction _ _ dto _ => dto.assigneeId ≠ u
  | .commentsCreate actor _ _ _ | .commentsCreateTransaction actor _ _ _ =>
    actor.id = u → actor.role = .customer
  | _ => True

variable {env : Env} {db : Db} {u : Uuid} {call next : Call}

lemma Discreet.checked (h : Checks env db call next) (hcall : call.Discreet u)
    (hcustomer : db.IsCustomer u) : next.Discreet u := by
  cases h with
  | ticketsFindAssignee h =>
    obtain ⟨hfind, -, -, hrole⟩ := TicketsService.findAssignee_ok h
    obtain ⟨hmem, hid⟩ := Table.find?_eq_some.mp hfind
    intro hassignee
    rw [hcustomer _ hmem (hid.trans hassignee)] at hrole
    rcases hrole with hrole | hrole <;> cases hrole
  | commentsCreate _ => exact hcall
  | _ => trivial

lemma discreet_receive {sub : Option Uuid} {correlationId : Option String} {request : Request}
    (hcustomer : db.IsCustomer u) :
    (receive db sub correlationId request).2.Discreet u := by
  have hguarded : (guarded db sub correlationId request).2.Discreet u := by
    unfold guarded
    split
    · next user huser =>
      obtain ⟨id, -, hvalid⟩ := Option.map_eq_some_iff.mp huser
      obtain ⟨v, hv, hid, -, hrole, -⟩ := JwtStrategy.validate_ok hvalid
      split_ifs with hadmits
      · cases request with
        | createComment => exact fun huser => hrole ▸ hcustomer v hv (hid.trans huser)
        | _ => trivial
      · trivial
    · trivial
  unfold receive
  split
  · trivial
  · trivial
  · exact hguarded

end Call

namespace Db

/-- `u` has no ticket, and the comments of `u`, but for those in `start`, are public. -/
structure Withheld (db : Db) (u : Uuid) (start : List Comment) : Prop where
  assignee : ∀ t ∈ db.tickets.rows, t.assignedToId ≠ some u
  author : ∀ c ∈ db.comments.rows, c.authorId = u → c ∈ start ∨ c.isInternal = false

variable {db : Db} {u : Uuid} {start : List Comment}

lemma Withheld.of_tickets {tickets : Table Ticket} {outbox : Table EventOutbox}
    (h : db.Withheld u start)
    (ht : ∀ t ∈ tickets.rows, (∃ a ∈ db.tickets.rows, t.assignedToId = a.assignedToId) ∨
      t.assignedToId ≠ some u) : ({ db with tickets, outbox } : Db).Withheld u start := by
  refine ⟨fun t hmem => ?_, h.author⟩
  rcases ht t hmem with ⟨a, ha, heq⟩ | hne
  · exact heq ▸ h.assignee a ha
  · exact hne

end Db

lemma Call.Writes.withheld {env : Env} {db db' : Db} {call : Call} {u : Uuid}
    {start : List Comment} (h : Call.Writes env db call db') (hcall : call.Discreet u)
    (hdb : db.Withheld u start) : db'.Withheld u start := by
  cases h with
  | organizationsRemove _ _ =>
    refine ⟨fun t ht hassigned => ?_, fun c hc => hdb.author c (List.mem_of_mem_filter hc)⟩
    obtain ⟨a, ha, -, -, hassignee⟩ := Db.mem_tickets_dropOrganization ht
    exact hdb.assignee a ha (hassignee u hassigned).1
  | ticketsCreate ht _ _ _ =>
    refine hdb.of_tickets fun t hmem => ?_
    rcases (Table.mem_insert? ht).mp hmem with hmem | rfl
    · exact .inl ⟨t, hmem, rfl⟩
    · exact .inr fun hassigned => by cases hassigned
  | ticketsUpdate _ _ _ =>
    refine hdb.of_tickets fun t hmem => ?_
    obtain ⟨a, ha, rfl⟩ := Table.mem_modifyWhere.mp hmem
    refine .inl ⟨a, ha, ?_⟩
    split <;> rfl
  | ticketsAssign _ _ _ _ =>
    refine hdb.of_tickets fun t hmem => ?_
    obtain ⟨a, ha, rfl⟩ := Table.mem_modifyWhere.mp hmem
    split
    · exact .inr fun hassigned => hcall (Option.some.inj hassigned)
    · exact .inl ⟨a, ha, rfl⟩
  | commentsCreate hc _ _ _ =>
    refine ⟨hdb.assignee, fun c hmem hauthor => ?_⟩
    rcases (Table.mem_insert? hc).mp hmem with hmem | rfl
    · exact hdb.author c hmem hauthor
    · have hrole := hcall hauthor
      exact .inr (by simp [CommentsService.newComment, CommentsService.isInternal, hrole])
  | _ => exact ⟨hdb.assignee, hdb.author⟩

lemma Call.Executes.withheld {env : Env} {db db' : Db} {call call' : Call} {u : Uuid}
    {start : List Comment} (h : Call.Executes env db call db' call') (hcall : call.Discreet u)
    (hcustomer : db.IsCustomer u) (hdb : db.Withheld u start) :
    db'.Withheld u start ∧ call'.Discreet u := by
  cases h with
  | wrote h => exact ⟨h.withheld hcall hdb, trivial⟩
  | checked h => exact ⟨hdb, hcall.checked h hcustomer⟩
  | failed => exact ⟨hdb, trivial⟩
  | finished => exact ⟨hdb, trivial⟩

namespace World

open Machine

variable {cfg : Config} {w w' : World} {e : Event} {u : Uuid} {start : List Comment}

/-- What holds as long as `u` is a customer: besides the database, the calls in progress do `u` no
favour, and no projection of an internal note that is still to be written notifies `u`. -/
structure Confidential (u : Uuid) (start : List Comment) (w : World) : Prop where
  db : w.db.Withheld u start
  calls : ∀ c ∈ w.calls, c.call.Discreet u
  planned : ∀ d ∈ w.deliveries, ∀ p, d.phase = .planned p →
    d.message.event.payload.isInternalNote → u ∉ p.userIds

theorem Steps.confidential (h : Steps cfg w e w') (hcustomer : w.db.IsCustomer u)
    (hw : w.Confidential u start) : w'.Confidential u start := by
  have hplanned : ∀ d ∈ w'.deliveries, ∀ p, d.phase = .planned p →
      d.message.event.payload.isInternalNote → u ∉ p.userIds := by
    intro d hd p hp hinternal hu
    cases h.arises hd with
    | kept hold => exact hw.planned d hold p hp hinternal hu
    | received _ => cases hp
    | next _ _ h =>
      obtain ⟨env, -, rfl⟩ := h.planned hp
      obtain ⟨t, ht, hassigned⟩ := Consumer.userIds_plan (h.message ▸ hinternal) hu
      exact hw.db.assignee t ht hassigned
    | @lost d₀ hold => exact hw.planned d₀ hold p hp hinternal hu
  cases h with
  | arrive =>
    refine ⟨hw.db, fun c hc => ?_, hplanned⟩
    rcases List.mem_append.mp hc with hc | hc
    · exact hw.calls c hc
    · obtain rfl := List.mem_singleton.mp hc
      exact Call.discreet_receive hcustomer
  | proceed hc h =>
    obtain ⟨hdb, hcall⟩ := h.withheld (hw.calls _ (List.mem_of_getElem? hc)) hcustomer hw.db
    refine ⟨hdb, fun c' hc' => ?_, hplanned⟩
    rcases List.mem_or_eq_of_mem_set hc' with hc' | rfl
    · exact hw.calls c' hc'
    · exact hcall
  | relay _ h => exact ⟨h.frame ▸ ⟨hw.db.assignee, hw.db.author⟩, hw.calls, hplanned⟩
  | consume _ h | finish _ h =>
    exact ⟨h.frame ▸ ⟨hw.db.assignee, hw.db.author⟩, hw.calls, hplanned⟩
  | _ => exact ⟨hw.db, hw.calls, hplanned⟩

lemma Steps.notesNamed (h : Steps cfg w e w') (hw : w.db.NotesNamed) : w'.db.NotesNamed := by
  cases h with
  | proceed _ h => exact h.notesNamed hw
  | relay _ h =>
    exact hw.congr h.log (by rw [h.frame])
  | consume _ h => exact hw.congr h.log h.comments
  | finish _ h => exact hw.congr h.log h.comments
  | _ => exact hw

lemma notesNamed_of_exec {organizations : Table Organization} {users : Table User} {n : Nat}
    {es : List Event} (h : exec (step cfg) (initial organizations users n) es = some w) :
    w.db.NotesNamed :=
  exec_invariant (step cfg) (I := fun w => w.db.NotesNamed)
    (fun _ _ _ hw h => (step_cases h).notesNamed hw) (fun _ hx => by cases hx) h

/-- A delivery that adds a notification commits a projection that notifies its user. -/
lemma notified_of_delivery {db db' : Db} {broker broker' : Broker} {locked : Bool} {d : Delivery}
    {a : DeliveryAction} {d' : Option Delivery}
    (h : d.Executes db broker locked a db' broker' d') {n : Notification}
    (hn : n ∈ db'.notifications.rows) (hnew : n ∉ db.notifications.rows) :
    d.commits db a = [⟨d.message.event, d.consumer⟩] ∧
      ∃ p, d.phase = .planned p ∧ n.userId ∈ p.userIds := by
  cases h with
  | committed hphase hc hrow hwrite =>
    obtain ⟨new, hrows, hids⟩ := hwrite.notifications
    rw [hrows] at hn
    exact ⟨hc, _, hphase, hids n ((List.mem_append.mp hn).resolve_left hnew)⟩
  | _ => exact absurd hn hnew

/-- A step after which somebody has a notification more commits a projection that notifies him. -/
lemma Steps.notified (h : Steps cfg w e w') {n : Notification} (hn : n ∈ w'.db.notifications.rows)
    (hnew : ∀ n' ∈ w.db.notifications.rows, n'.id ≠ n.id) :
    ∃ d ∈ w.deliveries, committed w e w' = [⟨d.message.event, d.consumer⟩] ∧
      ∃ p, d.phase = .planned p ∧ n.userId ∈ p.userIds := by
  have hnot : n ∉ w.db.notifications.rows := fun hmem => hnew n hmem rfl
  cases h with
  | proceed _ h =>
    obtain ⟨n', hn', hid⟩ := (executes_nothingProjected h).1.2.1 n hn
    exact absurd hid (hnew n' hn')
  | relay _ h =>
    obtain ⟨n', hn', hid⟩ := (relay_nothingProjected h).1.2.1 n hn
    exact absurd hid (hnew n' hn')
  | consume hd h =>
    obtain ⟨hc, hplan⟩ := notified_of_delivery h hn hnot
    exact ⟨_, List.mem_of_getElem? hd, by simpa [committed, hd] using hc, hplan⟩
  | finish hd h =>
    obtain ⟨hc, hplan⟩ := notified_of_delivery h hn hnot
    exact ⟨_, List.mem_of_getElem? hd, by simpa [committed, hd] using hc, hplan⟩
  | _ => exact absurd hn hnot

/-- No call and no delivery is in progress. -/
def Idle (w : World) : Prop :=
  (∀ c ∈ w.calls, ∃ outcome, c.call = .done outcome) ∧ w.deliveries = []

/-- No ticket is assigned to a customer. -/
def NoCustomerAssigned (w : World) : Prop :=
  ∀ t ∈ w.db.tickets.rows, ∀ u ∈ w.db.users.rows, t.assignedToId = some u.id → u.role ≠ .customer

/-- Whoever has this id is a customer in every state the run passes. -/
def CustomerThroughout (cfg : Config) (w : World) (es : List Event) (u : Uuid) : Prop :=
  ∀ fs s, fs <+: es → exec (step cfg) w fs = some s → s.db.IsCustomer u

lemma confidential_of_idle {organizations : Table Organization} {users : Table User} {n : Nat}
    {es : List Event} (h : exec (step cfg) (initial organizations users n) es = some w)
    (hidle : w.Idle) (hassigned : w.NoCustomerAssigned) (hcustomer : w.db.IsCustomer u) :
    w.Confidential u w.db.comments.rows := by
  refine ⟨⟨fun t ht hu => ?_, fun c hc _ => .inl hc⟩, fun c hc => ?_, fun d hd => ?_⟩
  · obtain ⟨v, hv⟩ := Option.isSome_iff_exists.mp ((linked_of_exec h).assignee t ht u hu)
    obtain ⟨hmem, hid⟩ := Table.find?_eq_some.mp hv
    have hid : v.id = u := hid
    exact hassigned t ht v hmem (hid ▸ hu) (hcustomer v hmem hid)
  · obtain ⟨outcome, hdone⟩ := hidle.1 c hc
    rw [hdone]
    trivial
  · rw [hidle.2] at hd
    cases hd

lemma Confidential.of_exec {es : List Event} (h : exec (step cfg) w es = some w')
    (hcustomer : CustomerThroughout cfg w es u) (hw : w.Confidential u start) :
    w'.Confidential u start := by
  refine exec_guarded_invariant (step cfg) (C := fun s _ => s.db.IsCustomer u)
    (fun _ _ _ hs hu ht => (step_cases ht).confidential hu hs) hw ?_ h
  refine (guarded_iff (step cfg) h).mpr fun fs e gs s hsplit hs => ?_
  exact hcustomer fs s ⟨e :: gs, hsplit.symm⟩ hs

/-- From a state in which nothing is in progress and no customer has a ticket, and for whoever is a
customer all along: `findForTicket` gives him no internal comment and counts none, his comments are
public, and a notification for him comes from an event that is not of an internal note. -/
theorem internal_notes_confidential (cfg : Config) (organizations : Table Organization)
    (users : Table User) (n : Nat) {es₀ es : List Event} {w₀ w : World} {u : Uuid}
    (h₀ : exec (step cfg) (initial organizations users n) es₀ = some w₀) (hidle : w₀.Idle)
    (hassigned : w₀.NoCustomerAssigned) (h : exec (step cfg) w₀ es = some w)
    (hcustomer : CustomerThroughout cfg w₀ es u) :
    (∀ fs s actor, fs <+: es → exec (step cfg) w₀ fs = some s →
      JwtStrategy.validate s.db u = .ok actor →
      ∀ pg ticketId query db result,
        CommentsService.findForTicket pg actor ticketId query db = .ok result →
          (∀ c ∈ result.items, c.isInternal = false) ∧
            result.meta.total = ((db.comments.rows.filter fun c =>
              c.ticketId = ticketId && !c.isInternal).toFinset).card) ∧
    (∀ c ∈ w.db.comments.rows, c.authorId = u →
      c ∈ w₀.db.comments.rows ∨ c.isInternal = false) ∧
    ∀ fs e gs s t, es = fs ++ e :: gs → exec (step cfg) w₀ fs = some s → step cfg s e = some t →
      ∀ m ∈ t.db.notifications.rows, (∀ m' ∈ s.db.notifications.rows, m'.id ≠ m.id) →
        m.userId = u → ∃ x, committed s e t = [x] ∧ x.event.payload.isInternalNote = false ∧
          ∀ p, x.event.payload = .commentCreated p →
            ∀ c ∈ t.db.comments.rows, c.id = p.commentId → c.isInternal = false := by
  have hstart := confidential_of_idle h₀ hidle hassigned (hcustomer [] w₀ (List.nil_prefix) rfl)
  refine ⟨fun fs s actor hfs hs hactor pg ticketId query db result hfind => ?_, ?_, ?_⟩
  · obtain ⟨v, hv, hid, -, hrole, -⟩ := JwtStrategy.validate_ok hactor
    have hvid := hid.trans (JwtStrategy.validate_id hactor)
    exact CommentsService.findForTicket_customer
      (hrole.symm.trans (hcustomer fs s hfs hs v hv hvid)) hfind
  · exact (Confidential.of_exec h hcustomer hstart).db.author
  · rintro fs e gs s t rfl hs ht m hm hnew rfl
    have hconf := Confidential.of_exec hs
      (fun fs' s' hfs' hs' => hcustomer fs' s' (hfs'.trans (List.prefix_append fs (e :: gs))) hs')
      hstart
    obtain ⟨d, hd, hcommitted, p, hphase, hmem⟩ := (step_cases ht).notified hm hnew
    have hpublic : d.message.event.payload.isInternalNote = false := by
      by_contra hinternal
      exact hconf.planned d hd p hphase (by simpa using hinternal) hmem
    refine ⟨_, hcommitted, hpublic, fun q hq c hc hid => ?_⟩
    have hexec : exec (step cfg) (initial organizations users n) (es₀ ++ fs) = some s :=
      (exec_append (step cfg)).mpr ⟨w₀, h₀, hs⟩
    have hlog := (step_cases ht).log.subset ((sourced_of_exec hexec).handled d hd)
    have hnamed := (step_cases ht).notesNamed (notesNamed_of_exec hexec) _ hlog q hq
    rw [hnamed.2 c hc hid]
    rw [hq] at hpublic
    exact hpublic

instance (db : Db) (u : Uuid) : Decidable (db.IsCustomer u) := by
  unfold Db.IsCustomer
  infer_instance

lemma customerThroughout_of_guarded {es : List Event} (h : exec (step cfg) w es = some w')
    (hguarded : Guarded (step cfg) (fun s _ => s.db.IsCustomer u) w es)
    (hlast : w'.db.IsCustomer u) : CustomerThroughout cfg w es u := by
  rintro fs s ⟨gs, rfl⟩ hs
  cases gs with
  | nil =>
    rw [List.append_nil, hs] at h
    cases h
    exact hlast
  | cons e gs => exact (guarded_iff (step cfg) h).mp hguarded fs e gs s rfl hs

/-- The agent takes the ticket of the customer and writes an internal note, of which the worker
tells the admin only, who has got the ticket in between. -/
def internalNoteRun : List Event :=
  [.arrive (some 13) none (.createTicket Seed.ticketDto), .proceed 0 (Seed.env 1), .connect,
    .arrive (some 12) none (.createComment 140 ⟨"Known issue.", .value true⟩),
    .proceed 1 (Seed.env 2), .proceed 1 (Seed.env 3), .relay 0 .tick,
    .relay 0 (.proceed 0 (Seed.env 4) .accepted), .relay 0 (.proceed 0 (Seed.env 5) .accepted),
    .relay 0 (.proceed 0 (Seed.env 6) .accepted), .relay 0 (.proceed 0 (Seed.env 7) .accepted),
    .relay 0 (.proceed 0 (Seed.env 8) .accepted),
    .arrive (some 12) none (.assignTicket 140 ⟨11⟩), .proceed 2 (Seed.env 9),
    .proceed 2 (Seed.env 10), .proceed 2 (Seed.env 11),
    .deliver 0 .notification 1, .consume 0 (.insert (Seed.env 12)),
    .consume 0 (.project (Seed.env 13)), .consume 0 (.commit (Seed.env 14))]

theorem internal_notes_confidential_note :
    ∃ w, exec (step .default) (initial Seed.organizations Seed.users 1) internalNoteRun = some w ∧
      (w.db.notifications.rows.map (·.userId) = [11] ∧
        w.db.comments.rows.map (·.isInternal) = [true]) ∧
      ∀ c ∈ w.db.comments.rows, c.authorId = 13 → c.isInternal = false := by
  have hrun : (exec (step .default) (initial Seed.organizations Seed.users 1)
      internalNoteRun).any fun w =>
        (w.db.notifications.rows.map (·.userId) = [11] ∧
          w.db.comments.rows.map (·.isInternal) = [true]) ∧ w.db.IsCustomer 13 := by decide
  obtain ⟨w, hw, hrows, hlast⟩ := exists_of_any hrun
  refine ⟨w, hw, hrows, fun c hc hauthor => ?_⟩
  have hcustomer := customerThroughout_of_guarded hw (by decide) hlast
  have hstart : exec (step .default) (initial Seed.organizations Seed.users 1) [] =
      some (initial Seed.organizations Seed.users 1) := rfl
  obtain ⟨-, hcomments, -⟩ := internal_notes_confidential .default Seed.organizations Seed.users 1
    hstart ⟨fun c hc => (by cases hc), rfl⟩ (fun t ht => by cases ht) hw hcustomer
  exact (hcomments c hc hauthor).resolve_left fun hmem => by cases hmem

end World

end SupportPlatform
