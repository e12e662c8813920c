import SupportPlatform.Platform.Tenancy

/-!
# The authority of customers

What requests of anonymous clients and customers leave alone. The guarantee is spread over the role
guards, the ownership checks of tickets and notifications, the customer rule of `update` and the
forced role of `register`; a call in progress carries what its check has found out.
-/

namespace SupportPlatform

/-- What requests of these customers leave of a database: organizations, the authority of users,
the handling of tickets, and whatever is not theirs. -/
structure Db.Kept (customers : List Uuid) (s t : Db) : Prop where
  organizations : t.organizations = s.organizations
  users : ∀ u ∈ s.users.rows, ∃ u' ∈ t.users.rows, u'.id = u.id ∧ u'.role = u.role ∧
    u'.isActive = u.isActive ∧ u'.organizationId = u.organizationId
  newUsers : ∀ u' ∈ t.users.rows, (∃ u ∈ s.users.rows, u.id = u'.id) ∨ u'.role = .customer
  tickets : ∀ x ∈ s.tickets.rows, ∃ y ∈ t.tickets.rows, y.id = x.id ∧ y.status = x.status ∧
    y.priority = x.priority ∧ y.assignedToId = x.assignedToId ∧ y.closedAt = x.closedAt ∧
    y.organizationId = x.organizationId ∧ y.createdById = x.createdById
  otherTickets : ∀ x ∈ s.tickets.rows, x.createdById ∉ customers → x ∈ t.tickets.rows
  otherNotifications : ∀ n ∈ s.notifications.rows, n.userId ∉ customers →
    n ∈ t.notifications.rows

namespace Db.Kept

variable {customers : List Uuid} {s t u : Db}

lemma refl (customers : List Uuid) (s : Db) : s.Kept customers s where
  organizations := rfl
  users a ha := ⟨a, ha, rfl, rfl, rfl, rfl⟩
  newUsers a ha := .inl ⟨a, ha, rfl⟩
  tickets x hx := ⟨x, hx, rfl, rfl, rfl, rfl, rfl, rfl, rfl⟩
  otherTickets _ hx _ := hx
  otherNotifications _ hn _ := hn

lemma trans (h : s.Kept customers t) (h' : t.Kept customers u) : s.Kept customers u where
  organizations := h'.organizations.trans h.organizations
  users a ha := by
    obtain ⟨b, hb, hid, hrole, hactive, horg⟩ := h.users a ha
    obtain ⟨c, hc, hid', hrole', hactive', horg'⟩ := h'.users b hb
    exact ⟨c, hc, hid'.trans hid, hrole'.trans hrole, hactive'.trans hactive, horg'.trans horg⟩
  newUsers c hc := by
    rcases h'.newUsers c hc with ⟨b, hb, hid⟩ | hrole
    · rcases h.newUsers b hb with ⟨a, ha, hid'⟩ | hrole
      · exact .inl ⟨a, ha, hid'.trans hid⟩
      · obtain ⟨c', hc', hid', hrole', -⟩ := h'.users b hb
        obtain rfl := u.users.eq_of_key_eq hc' hc (hid'.trans hid)
        exact .inr (hrole'.trans hrole)
    · exact .inr hrole
  tickets x hx := by
    obtain ⟨y, hy, hid, h₁, h₂, h₃, h₄, h₅, h₆⟩ := h.tickets x hx
    obtain ⟨z, hz, hid', h₁', h₂', h₃', h₄', h₅', h₆'⟩ := h'.tickets y hy
    exact ⟨z, hz, hid'.trans hid, h₁'.trans h₁, h₂'.trans h₂, h₃'.trans h₃, h₄'.trans h₄,
      h₅'.trans h₅, h₆'.trans h₆⟩
  otherTickets x hx hne := h'.otherTickets x (h.otherTickets x hx hne) hne
  otherNotifications n hn hne := h'.otherNotifications n (h.otherNotifications n hn hne) hne

/-- A step that leaves the four tables alone. -/
lemma of_eq (ho : t.organizations = s.organizations) (hu : t.users = s.users)
    (ht : t.tickets = s.tickets) (hn : t.notifications = s.notifications) :
    s.Kept customers t where
  organizations := ho
  users a ha := ⟨a, hu.symm ▸ ha, rfl, rfl, rfl, rfl⟩
  newUsers a ha := .inl ⟨a, hu ▸ ha, rfl⟩
  tickets x hx := ⟨x, ht.symm ▸ hx, rfl, rfl, rfl, rfl, rfl, rfl, rfl⟩
  otherTickets _ hx _ := ht.symm ▸ hx
  otherNotifications _ hn' _ := hn.symm ▸ hn'

/-- A new customer. -/
lemma insertUser {users : Table User} {a : User} (h : s.users.insert? a = some users)
    (hrole : a.role = .customer) : s.Kept customers { s with users } :=
  { refl customers s with
    users := fun b hb => ⟨b, (Table.mem_insert? h).mpr (.inl hb), rfl, rfl, rfl, rfl⟩
    newUsers := fun b hb => by
      rcases (Table.mem_insert? h).mp hb with hb | rfl
      · exact .inl ⟨b, hb, rfl⟩
      · exact .inr hrole }

/-- An update of a user that is none of authority. -/
lemma modifyUsers {id : Uuid} {f : User → User} {hf : ∀ a, (f a).id = a.id}
    (h : ∀ a, (f a).role = a.role ∧ (f a).isActive = a.isActive ∧
      (f a).organizationId = a.organizationId) :
    s.Kept customers { s with users := s.users.modify id f hf } :=
  { refl customers s with
    users := fun a ha => by
      refine ⟨_, List.mem_map_of_mem ha, ?_⟩
      split
      · exact ⟨hf a, h a⟩
      · exact ⟨rfl, rfl, rfl, rfl⟩
    newUsers := fun b hb => by
      obtain ⟨a, ha, rfl⟩ := List.mem_map.mp hb
      refine .inl ⟨a, ha, ?_⟩
      split
      · exact (hf a).symm
      · rfl }

lemma insertTicket {tickets : Table Ticket} {outbox : Table EventOutbox} {x : Ticket}
    (h : s.tickets.insert? x = some tickets) : s.Kept customers { s with tickets, outbox } :=
  { refl customers s with
    tickets := fun y hy =>
      ⟨y, (Table.mem_insert? h).mpr (.inl hy), rfl, rfl, rfl, rfl, rfl, rfl, rfl⟩
    otherTickets := fun _ hy _ => (Table.mem_insert? h).mpr (.inl hy) }

/-- An update of a customer's own ticket that keeps to the customer rule. -/
lemma updateTicket {id creator : Uuid} {dto : UpdateTicketDto} {now : Time}
    {outbox : Table EventOutbox} (hcreator : creator ∈ customers)
    (hown : s.tickets.Names Ticket.createdById id creator) (hstatus : dto.status.truthy = false)
    (hpriority : dto.priority.truthy = false) :
    s.Kept customers
      { s with tickets := s.tickets.modify id (·.apply dto none now) fun _ => rfl, outbox } := by
  have getD_of_not_truthy {α : Type} {field : Field α} (h : field.truthy = false) (a : α) :
      field.getD a = a := by
    cases field with
    | value => cases h
    | _ => rfl
  refine { refl customers s with tickets := fun x hx => ?_, otherTickets := fun x hx hne => ?_ }
  · refine ⟨_, List.mem_map_of_mem hx, ?_⟩
    split
    · exact ⟨rfl, getD_of_not_truthy hstatus _, getD_of_not_truthy hpriority _, rfl, rfl, rfl, rfl⟩
    · exact ⟨rfl, rfl, rfl, rfl, rfl, rfl, rfl⟩
  · refine List.mem_map.mpr ⟨x, hx, if_neg fun hid => hne ?_⟩
    rw [hown.2 x hx (of_decide_eq_true hid)]
    exact hcreator

/-- An update of notifications that are all of customers. -/
lemma modifyNotifications {p : Notification → Bool} {f : Notification → Notification}
    {hf : ∀ n, (f n).id = n.id} (h : ∀ n ∈ s.notifications.rows, p n → n.userId ∈ customers) :
    s.Kept customers { s with notifications := s.notifications.modifyWhere p f hf } :=
  { refl customers s with
    otherNotifications := fun n hn hne =>
      List.mem_map.mpr ⟨n, hn, if_neg fun hp => hne (h n hn hp)⟩ }

end Db.Kept

/-! ### Calls of customers -/

lemma Call.Writes.creators {env : Env} {db db' : Db} {call : Call}
    (h : Call.Writes env db call db') :
    Table.Evolves Ticket.createdById db.tickets db'.tickets := by
  cases h with
  | @organizationsRemove id =>
    simp only [Db.dropOrganization]
    refine Table.Evolves.trans (.removeWhere db.tickets (·.organizationId = id)) ?_
    exact .modifyWhere _ fun _ => rfl
  | ticketsCreate ht _ => exact .of_insert? ht
  | ticketsUpdate _ _ =>
    dsimp only
    exact .modify _ fun _ => rfl
  | ticketsAssign _ _ =>
    dsimp only
    exact .modify _ fun _ => rfl
  | _ => exact .refl _ _

lemma Call.Executes.creators {env : Env} {db db' : Db} {call call' : Call}
    (h : Call.Executes env db call db' call') :
    Table.Evolves Ticket.createdById db.tickets db'.tickets := by
  cases h with
  | wrote h => exact h.creators
  | _ => exact .refl _ _

namespace Call

/-- What holds of a call of an anonymous client or of one of the customers: it is of a route that
is open to them, and what its check has found is theirs. -/
def Limited (db : Db) (customers : List Uuid) : Call → Prop
  | .register _ | .registerEmail _ | .registerInsert _ | .login _ | .loginStamp _ => True
  | .ticketsCreate _ _ _ | .commentsCreate _ _ _ _ | .commentsCreateTransaction _ _ _ _ => True
  | .ticketsUpdate actor _ _ _ => actor.role = .customer ∧ actor.id ∈ customers
  | .ticketsUpdateTransaction actor id dto _ _ =>
    actor.id ∈ customers ∧ dto.status.truthy = false ∧ dto.priority.truthy = false ∧
      db.tickets.Names Ticket.createdById id actor.id
  | .notificationsMarkRead userId _ | .notificationsMarkAllRead userId => userId ∈ customers
  | .notificationsMarkReadWrite userId id => userId ∈ customers ∧ db.NotificationOf id userId
  | .done _ => True
  | _ => False

variable {env : Env} {db db' : Db} {call call' : Call} {customers : List Uuid}

lemma Limited.mono (ht : Table.Evolves Ticket.createdById db.tickets db'.tickets)
    (hn : Table.Evolves Notification.userId db.notifications db'.notifications)
    (h : call.Limited db customers) : call.Limited db' customers := by
  cases call with
  | ticketsUpdateTransaction =>
    obtain ⟨hactor, hstatus, hpriority, hown⟩ := h
    exact ⟨hactor, hstatus, hpriority, ht.names hown⟩
  | notificationsMarkReadWrite => exact ⟨h.1, hn.names h.2⟩
  | _ => exact h

lemma Limited.checked (h : Checks env db call call') (hcall : call.Limited db customers) :
    call'.Limited db customers := by
  cases h with
  | ticketsUpdate h =>
    obtain ⟨hfind, hrule⟩ := TicketsService.checkUpdate_ok h
    obtain ⟨hticket, -, howner⟩ := TicketsService.findOne_ok hfind
    obtain ⟨hmem, hid⟩ := Table.find?_eq_some.mp hticket
    obtain ⟨hstatus, hpriority⟩ := hrule hcall.1
    refine ⟨hcall.2, hstatus, hpriority, ?_⟩
    exact howner hcall.1 ▸ hid ▸ Table.names_of_mem Ticket.createdById hmem
  | notificationsMarkRead h =>
    obtain ⟨hfind, huser⟩ := NotificationsService.findOwn_ok h
    obtain ⟨hmem, hid⟩ := Table.find?_eq_some.mp hfind
    refine ⟨hcall, ?_⟩
    exact huser ▸ hid ▸ Table.names_of_mem Notification.userId hmem
  | register | registerEmail | login | commentsCreate => trivial
  | _ => exact hcall.elim

/-- The writes that are open to customers keep what is not theirs. -/
lemma Writes.kept (h : Writes env db call db') (hcall : call.Limited db customers) :
    db.Kept customers db' := by
  cases h with
  | registerInsert h _ => exact .insertUser h rfl
  | loginStamp => exact .modifyUsers fun _ => ⟨rfl, rfl, rfl⟩
  | ticketsCreate ht _ _ _ => exact .insertTicket ht
  | @ticketsUpdate actor id dto cid existing t outbox ht _ _ =>
    obtain ⟨hactor, hstatus, hpriority, hown⟩ := hcall
    have hclose : TicketsService.willClose dto existing = false := by
      unfold TicketsService.willClose
      cases hdto : dto.status with
      | value => rw [hdto] at hstatus; cases hstatus
      | _ => simp
    rw [hclose]
    exact .updateTicket hactor hown hstatus hpriority
  | commentsCreate _ _ _ _ => exact .of_eq rfl rfl rfl rfl
  | notificationsMarkRead =>
    refine .modifyNotifications fun n hn hid => ?_
    rw [hcall.2.2 n hn (of_decide_eq_true hid)]
    exact hcall.1
  | notificationsMarkAllRead =>
    refine .modifyNotifications fun n _ hp => ?_
    rw [(of_decide_eq_true hp).1]
    exact hcall
  | _ => exact hcall.elim

lemma Limited.executes (h : Executes env db call db' call') (hcall : call.Limited db customers) :
    db.Kept customers db' ∧ call'.Limited db' customers := by
  cases h with
  | wrote h => exact ⟨h.kept hcall, trivial⟩
  | checked h => exact ⟨.refl _ _, hcall.checked h⟩
  | failed => exact ⟨.refl _ _, trivial⟩
  | finished => exact ⟨.refl _ _, trivial⟩

/-- The guards let a customer start no other call. -/
lemma limited_receive {sub : Option Uuid} {correlationId : Option String} {request : Request}
    (h : ∀ id ∈ sub, id ∈ customers ∧ ∀ u ∈ db.users.rows, u.id = id → u.role = .customer) :
    (receive db sub correlationId request).2.Limited db customers := by
  have hguarded : (guarded db sub correlationId request).2.Limited db customers := by
    unfold guarded
    split
    · next user huser =>
      obtain ⟨id, hid, hvalid⟩ := Option.map_eq_some_iff.mp huser
      obtain ⟨u, hu, huid, -, hurole, -⟩ := JwtStrategy.validate_ok hvalid
      obtain rfl := JwtStrategy.validate_id hvalid
      obtain ⟨hmem, hrole⟩ := h user.id hid
      have hcustomer : user.role = .customer := hurole ▸ hrole u hu huid
      split_ifs with hadmits
      · cases request with
        | updateTicket => exact ⟨hcustomer, hmem⟩
        | markRead | markAllRead => exact hmem
        | register | login | createTicket | createComment => trivial
        | _ => simp [Request.admits, Request.roles, hcustomer] at hadmits
      · trivial
    · trivial
  unfold receive
  split
  · trivial
  · trivial
  · exact hguarded

end Call

/-- Who sends a request, if it is one with a user. -/
def Event.sub? : Event → Option Uuid
  | .arrive sub _ _ => sub
  | _ => none

namespace World

open Machine

variable {cfg : Config} {w w' : World} {e : Event}

/-- The condition on a step: a request is sent by nobody or by a customer. -/
def ByCustomer (w : World) (e : Event) : Prop :=
  ∀ id ∈ e.sub?, ∀ u ∈ w.db.users.rows, u.id = id → u.role = .customer

instance (w : World) (e : Event) : Decidable (w.ByCustomer e) := by
  unfold ByCustomer
  infer_instance

/-- Every call in progress is one of these customers, or of nobody. -/
def Limited (customers : List Uuid) (w : World) : Prop :=
  ∀ c ∈ w.calls, c.call.Limited w.db customers

lemma Steps.creators (h : Steps cfg w e w') :
    Table.Evolves Ticket.createdById w.db.tickets w'.db.tickets := by
  cases h with
  | proceed _ h => exact h.creators
  | relay _ h =>
    rw [h.frame]
  | consume _ h => exact h.tickets ▸ .refl _ _
  | finish _ h => exact h.tickets ▸ .refl _ _
  | _ => exact .refl _ _

/-- A delivery adds notifications and keeps all that customers have no authority over. -/
lemma kept_of_delivery {customers : List Uuid} {db db' : Db} {broker broker' : Broker}
    {locked : Bool} {d : Delivery} {a : DeliveryAction} {d' : Option Delivery}
    (h : d.Executes db broker locked a db' broker' d') : db.Kept customers db' := by
  cases h with
  | committed _ _ _ hwrite =>
    cases hwrite with
    | notify hn _ =>
      refine { Db.Kept.refl customers db with otherNotifications := fun n hmem _ => ?_ }
      exact (Table.insertAll?_eq_some hn).1 ▸ List.mem_append_left _ hmem
    | _ => exact .of_eq rfl rfl rfl rfl
  | _ => exact .refl _ _

theorem Steps.kept {customers : List Uuid} (h : Steps cfg w e w') (hw : w.Limited customers)
    (hcustomer : w.ByCustomer e) (hmem : ∀ id ∈ e.sub?, id ∈ customers) :
    w.db.Kept customers w'.db ∧ w'.Limited customers := by
  have hold : ∀ c ∈ w.calls, c.call.Limited w'.db customers :=
    fun c hc => (hw c hc).mono h.creators h.evolves.notifications
  cases h with
  | arrive =>
    refine ⟨.refl _ _, fun c hc => ?_⟩
    rcases List.mem_append.mp hc with hc | hc
    · exact hold c hc
    · obtain rfl := List.mem_singleton.mp hc
      exact Call.limited_receive fun id hid => ⟨hmem id hid, hcustomer id hid⟩
  | proceed hc h =>
    obtain ⟨hkept, hcall⟩ := (hw _ (List.mem_of_getElem? hc)).executes h
    refine ⟨hkept, fun c' hc' => ?_⟩
    rcases List.mem_or_eq_of_mem_set hc' with hc' | rfl
    · exact hold c' hc'
    · exact hcall
  | relay _ h =>
    refine ⟨?_, hold⟩
    rw [h.frame]
    exact .of_eq rfl rfl rfl rfl
  | consume _ h => exact ⟨kept_of_delivery h, hold⟩
  | finish _ h => exact ⟨kept_of_delivery h, hold⟩
  | _ => exact ⟨.refl _ _, hold⟩

/-- The users that send the requests of a run. -/
def callers (es : List Event) : List Uuid := es.filterMap Event.sub?

/-- Requests that come from anonymous clients and customers only, in any interleaving with one
another, the relays and the worker, leave everything alone that customers have no authority over. -/
theorem customers_keep_authority (cfg : Config) {w₀ w : World} {es : List Event}
    (h : exec (step cfg) w₀ es = some w)
    (hidle : ∀ c ∈ w₀.calls, ∃ outcome, c.call = .done outcome)
    (hcustomers : Guarded (step cfg) ByCustomer w₀ es) : w₀.db.Kept (callers es) w.db := by
  have hcallers : ∀ e ∈ es, ∀ id ∈ e.sub?, id ∈ callers es :=
    fun e he id hid => List.mem_filterMap.mpr ⟨e, he, hid⟩
  have hlimited : w₀.Limited (callers es) := by
    intro c hc
    obtain ⟨outcome, hdone⟩ := hidle c hc
    rw [hdone]
    trivial
  have key := exec_guarded_invariant (step cfg)
    (I := fun w => w₀.db.Kept (callers es) w.db ∧ w.Limited (callers es))
    (fun s e t ⟨hkept, hlimited⟩ ⟨hby, hmem⟩ ht => by
      obtain ⟨hstep, hlimited'⟩ := (step_cases ht).kept hlimited hby hmem
      exact ⟨hkept.trans hstep, hlimited'⟩)
    ⟨.refl _ _, hlimited⟩ (hcustomers.and (step cfg) (.of_forall (step cfg) hcallers)) h
  exact key.1

/-- A client registers as a customer, a customer creates a ticket, sends `null` for its status and
then another title, and marks all notifications as read. -/
def customerRun : List Event :=
  [.arrive none none (.register ⟨"dave@acme.test", "Password123!", "Dave", "New", 1⟩),
    .arrive (some 13) none (.createTicket Seed.ticketDto),
    .proceed 0 (Seed.env 1), .proceed 1 (Seed.env 2), .proceed 0 (Seed.env 3),
    .proceed 0 (Seed.env 4),
    .arrive (some 13) none
      (.updateTicket 240 ⟨.value "Login fails", .undefined, .null, .undefined, .undefined⟩),
    .proceed 2 (Seed.env 5), .proceed 2 (Seed.env 6),
    .arrive (some 13) none
      (.updateTicket 240 ⟨.value "Login fails", .undefined, .undefined, .undefined, .undefined⟩),
    .proceed 3 (Seed.env 7), .proceed 3 (Seed.env 8), .arrive (some 13) none .markAllRead,
    .proceed 4 (Seed.env 9)]

theorem customers_keep_authority_customer :
    ∃ w, exec (step .default) (initial Seed.organizations Seed.users 1) customerRun = some w ∧
      (w.db.users.rows.length = 4 ∧ w.db.tickets.rows.map (·.title) = ["Login fails"]) ∧
      (initial Seed.organizations Seed.users 1).db.Kept (callers customerRun) w.db := by
  have hrun : (exec (step .default) (initial Seed.organizations Seed.users 1)
      customerRun).any fun w =>
        w.db.users.rows.length = 4 ∧ w.db.tickets.rows.map (·.title) = ["Login fails"] := by decide
  obtain ⟨w, hw, hrows⟩ := exists_of_any hrun
  exact ⟨w, hw, hrows,
    customers_keep_authority .default hw (fun c hc => by cases hc) (by decide)⟩

end World

end SupportPlatform
