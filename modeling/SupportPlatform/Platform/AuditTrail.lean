import SupportPlatform.Platform.Conservation

/-!
# The audit trail

Every row of `audit_logs` comes from one row of the outbox and says what it says, and a dispatched
event is either in the trail, once, or with the dead letters. The removal of an organization sets
the actors and the organizations it takes away to null, in rows that stay.
-/

namespace SupportPlatform

namespace Payload

/-- The entity a payload is about; `eventId` stands in for one of no known kind. -/
def entity (eventId : Uuid) : Payload → String × Uuid
  | .ticketCreated p => ("Ticket", p.ticketId)
  | .ticketUpdated p => ("Ticket", p.ticketId)
  | .ticketAssigned p => ("Ticket", p.ticketId)
  | .ticketClosed p => ("Ticket", p.ticketId)
  | .commentCreated p => ("Comment", p.commentId)
  | .notificationCreated => ("Unknown", eventId)

/-- The user a payload names as the one who acted. -/
def actorId? : Payload → Option Uuid
  | .ticketCreated p => some p.createdById
  | .ticketUpdated p => some p.updatedById
  | .ticketAssigned p => some p.assignedById
  | .ticketClosed p => some p.closedById
  | .commentCreated p => some p.authorId
  | .notificationCreated => none

end Payload

/-- The audit row says what the outbox row with this content says, with this actor and this
organization. The routing key is the one of the payload. -/
structure AuditLog.Says (a : AuditLog) (x : Uuid × Payload × Option String)
    (actorId organizationId : Option Uuid) : Prop where
  action : a.action = x.2.1.routingKey
  metadata : a.metadata = x.2.1
  correlationId : a.correlationId = x.2.2
  entity : (a.entityType, a.entityId) = x.2.1.entity x.1
  actor : a.actorId = actorId
  organization : a.organizationId = organizationId

namespace Db

/-- The actor a payload names, unless this user has been removed. -/
def actorOf (db : Db) (p : Payload) : Option Uuid := p.actorId?.filter (· ∉ db.users.retired)

/-- The organization a payload names, unless it has been removed. -/
def organizationOf (db : Db) (p : Payload) : Option Uuid :=
  p.organizationId?.filter (· ∉ db.organizations.retired)

/-- The audit row says what the content says, as far as it has not been removed. -/
def Describes (db : Db) (x : Uuid × Payload × Option String) (a : AuditLog) : Prop :=
  a.Says x (db.actorOf x.2.1) (db.organizationOf x.2.1)

end Db

lemma AuditConsumer.plan_eq (event : DomainEvent) :
    plan event = .audit event.routingKey (event.payload.entity event.eventId).1
      (event.payload.entity event.eventId).2 event.payload.actorId? event.payload.organizationId?
      event.correlationId event.payload := by
  unfold plan
  cases event.payload <;> rfl

/-! ### The write -/

lemma createAuditLog_eq_ok {row : AuditLog} {env : Env} {db db' : Db} {u : Unit}
    (h : createAuditLog row env db = .ok (u, db')) :
    (∀ id ∈ row.actorId, (db.users.find? id).isSome) ∧
      (∀ id ∈ row.organizationId, (db.organizations.find? id).isSome) ∧
      ∃ auditLogs, db.auditLogs.insert? row = some auditLogs ∧ db' = { db with auditLogs } := by
  obtain ⟨-, h⟩ := attempt_eq_ok.mp h
  obtain ⟨auditLogs, hrow, heq⟩ := map_eq_ok.mp h
  cases heq
  obtain ⟨-, hlink, hins⟩ := insertRow_eq_ok.mp hrow
  rw [Bool.and_eq_true] at hlink
  exact ⟨(Option.all_eq_true _ _).mp hlink.1, (Option.all_eq_true _ _).mp hlink.2, auditLogs, hins,
    rfl⟩

/-! ### What becomes of the trail -/

namespace Db

/-- The events whose projection the audit consumer has committed. -/
def auditedEvents (db : Db) : List Uuid :=
  (db.processedEvents.rows.filter (·.consumer = .audit)).map (·.eventId)

/-- No audit row is added, and those there are still say what they say. -/
structure KeepsTrail (db db' : Db) : Prop where
  ids : db'.auditLogs.rows.map (·.id) = db.auditLogs.rows.map (·.id)
  events : db'.auditedEvents = db.auditedEvents
  retired : db'.processedEvents.retired = db.processedEvents.retired
  log : db.log <+: db'.log
  describes : ∀ a' ∈ db'.auditLogs.rows, ∃ a ∈ db.auditLogs.rows, a.id = a'.id ∧
    ∀ x, db.Describes x a → db'.Describes x a'

/-- The audit row is added for the event. -/
structure ExtendsTrail (db db' : Db) (event : DomainEvent) (a : AuditLog) : Prop where
  rows : db'.auditLogs.rows = db.auditLogs.rows ++ [a]
  events : db'.auditedEvents = db.auditedEvents ++ [event.eventId]
  retired : db'.processedEvents.retired = db.processedEvents.retired
  log : db'.log = db.log
  new : db'.Describes event.content a
  old : ∀ x b, db.Describes x b → db'.Describes x b

variable {db db' : Db}

lemma describes_congr (hu : db'.users.retired = db.users.retired)
    (ho : db'.organizations.retired = db.organizations.retired)
    (x : Uuid × Payload × Option String) (a : AuditLog) : db'.Describes x a ↔ db.Describes x a := by
  rw [Describes, Describes, actorOf, actorOf, organizationOf, organizationOf, hu, ho]

lemma KeepsTrail.of_eq (ha : db'.auditLogs = db.auditLogs)
    (hevents : db'.auditedEvents = db.auditedEvents)
    (hp : db'.processedEvents.retired = db.processedEvents.retired)
    (hu : db'.users.retired = db.users.retired)
    (ho : db'.organizations.retired = db.organizations.retired) (hlog : db.log <+: db'.log) :
    db.KeepsTrail db' where
  ids := by rw [ha]
  events := hevents
  retired := hp
  log := hlog
  describes a ha' := ⟨a, ha ▸ ha', rfl, fun x h => (describes_congr hu ho x a).mpr h⟩

/-- A reference that becomes null with its target: filtered by what is left after the removal. -/
lemma ite_any_filter {α : Type} {o : Option α} {left left' gone : α → Bool}
    (h : ∀ a, left' a = (!gone a && left a)) :
    (if (o.filter left).any gone then none else o.filter left) = o.filter left' := by
  cases o with
  | none => rfl
  | some a =>
    cases hleft : left a <;> cases hgone : gone a <;> simp [Option.filter_some, hleft, hgone, h]

/-- An audit row after the removal of an organization. -/
def afterDrop (db : Db) (id : Uuid) (a : AuditLog) : AuditLog :=
  { a with
    actorId := if a.actorId.any fun u => db.userOrg u = some id then none else a.actorId
    organizationId := if a.organizationId.any (· = id) then none else a.organizationId }

lemma rows_auditLogs_dropOrganization (db : Db) (id : Uuid) :
    (db.dropOrganization id).auditLogs.rows = db.auditLogs.rows.map (db.afterDrop id) := by
  simp only [dropOrganization, Table.rows_modifyWhere, List.map_map]
  refine List.map_congr_left fun a _ => ?_
  have horg : (a.organizationId = some id) ↔ a.organizationId.any (· = id) := by
    cases a.organizationId <;> simp
  simp only [Function.comp, afterDrop]
  by_cases hactor : a.actorId.any fun u => db.userOrg u = some id
  · by_cases ho : a.organizationId.any (· = id) <;> simp [hactor, ho, horg]
  · by_cases ho : a.organizationId.any (· = id) <;> simp [hactor, ho, horg]

lemma describes_afterDrop {id : Uuid} (hid : (db.organizations.find? id).isSome)
    {x : Uuid × Payload × Option String} {a : AuditLog} (h : db.Describes x a) :
    (db.dropOrganization id).Describes x (db.afterDrop id a) := by
  have hactor := h.actor
  have horg := h.organization
  refine ⟨h.action, h.metadata, h.correlationId, h.entity, ?_, ?_⟩
  · simp only [afterDrop, hactor, actorOf]
    refine ite_any_filter fun u => ?_
    have : u ∈ (db.dropOrganization id).users.retired ↔
        db.userOrg u = some id ∨ u ∈ db.users.retired :=
      Table.mem_retired_removeWhere fun _ => rfl
    simp [this, not_or]
  · simp only [afterDrop, horg, organizationOf]
    refine ite_any_filter fun o => ?_
    simp [mem_retired_dropOrganization hid, not_or]

/-- The removal of an organization keeps the trail but for what it nulls. -/
lemma KeepsTrail.dropOrganization {id : Uuid} (hid : (db.organizations.find? id).isSome) :
    db.KeepsTrail (db.dropOrganization id) where
  ids := by
    rw [rows_auditLogs_dropOrganization, List.map_map]
    rfl
  events := rfl
  retired := rfl
  log := List.prefix_rfl
  describes a' ha' := by
    rw [rows_auditLogs_dropOrganization] at ha'
    obtain ⟨a, ha, rfl⟩ := List.mem_map.mp ha'
    exact ⟨a, ha, rfl, fun x h => describes_afterDrop hid h⟩

end Db

lemma Call.keepsTrail {env : Env} {db db' : Db} {call call' : Call}
    (h : exec env db call = (db', call')) : db.KeepsTrail db' := by
  have hlog := (exec_cases h).log
  cases exec_cases h with
  | wrote hw =>
    cases hw with
    | organizationsRemove _ _ => exact .dropOrganization (removed_isSome h)
    | registerInsert hi _ | usersInsert hi _ =>
      exact .of_eq rfl rfl rfl (Table.insert?_eq_some.mp hi).2.2 rfl hlog
    | organizationsCreate hi => exact .of_eq rfl rfl rfl rfl (Table.insert?_eq_some.mp hi).2.2 hlog
    | _ => exact .of_eq rfl rfl rfl rfl rfl hlog
  | _ => exact .of_eq rfl rfl rfl rfl rfl hlog

namespace Delivery

variable {cfg : Config} {db db' : Db} {broker broker' : Broker} {locked : Bool} {d : Delivery}
  {a : DeliveryAction} {d' : Option Delivery}

/-- A projection of another consumer, or none at all, keeps the trail. -/
lemma keepsTrail (h : d.Executes db broker locked a db' broker' d')
    (hplan : ∀ p, d.phase = .planned p → ∃ env db, p = d.consumer.plan env db d.message.event)
    (hother : d.commits db a = [] ∨ d.consumer ≠ .audit) : db.KeepsTrail db' := by
  have hlog : db.log <+: db'.log := by rw [h.log]
  cases h with
  | committed hphase hc hrow hwrite =>
    have hconsumer : d.consumer ≠ .audit := hother.resolve_left (by simp [hc])
    obtain ⟨-, hrows, hretired⟩ := Table.insert?_eq_some.mp hrow
    have hevents : Db.auditedEvents db' = db.auditedEvents := by
      rw [Db.auditedEvents, hwrite.processedEvents, hrows]
      simp [Db.auditedEvents, hconsumer]
    obtain ⟨env, db₀, hp⟩ := hplan _ hphase
    cases hwrite with
    | audit _ => exact absurd (Consumer.eq_of_plan hp.symm rfl) hconsumer
    | _ => exact .of_eq rfl hevents hretired rfl rfl hlog
  | _ => exact .of_eq rfl rfl rfl rfl rfl hlog

/-- A reference to a row that is there is none to a removed one. -/
lemma filter_retired {α κ : Type} [Keyed α κ] [DecidableEq κ] (t : Table α) {o : Option κ}
    (h : ∀ k ∈ o, (t.find? k).isSome) : o.filter (· ∉ t.retired) = o := by
  cases o with
  | none => rfl
  | some k => simp [Option.filter_some, (Table.find?_isSome.mp (h k rfl)).2]

/-- A commit of the audit consumer extends the trail by a row that says what the event says. -/
lemma extendsTrail {x : Commit} (h : d.exec cfg db broker locked a = some (db', broker', d'))
    (hplan : ∀ p, d.phase = .planned p → ∃ env db, p = d.consumer.plan env db d.message.event)
    (hx : x ∈ d.commits db a) (haudit : d.consumer = .audit) :
    ∃ row, db.ExtendsTrail db' x.event row := by
  obtain ⟨rfl, env, p, processedEvents, hphase, hrow, hexec⟩ := commits_cases h hx
  obtain ⟨env₀, db₀, rfl⟩ := hplan p hphase
  rw [haudit, Consumer.plan, AuditConsumer.plan_eq, Projection.exec,
    Transaction.bind_of_ok (Transaction.ask_apply env _)] at hexec
  obtain ⟨hactor, horg, auditLogs, hins, rfl⟩ := createAuditLog_eq_ok hexec
  obtain ⟨-, hrows, hretired⟩ := Table.insert?_eq_some.mp hrow
  refine ⟨_, (Table.insert?_eq_some.mp hins).2.1, ?_, hretired, rfl, ?_,
    fun x b hb => (Db.describes_congr rfl rfl x b).mpr hb⟩
  · rw [Db.auditedEvents, hrows]
    simp [Db.auditedEvents, haudit]
  · refine ⟨d.message.event.key_eq.symm, rfl, rfl, rfl, ?_, ?_⟩
    · exact (filter_retired db.users hactor).symm
    · exact (filter_retired db.organizations horg).symm

end Delivery

namespace World

open Machine

variable {cfg : Config} {w w' : World} {e : Event} {l : List (Uuid × Uuid)}

/-- The audit rows a step adds, each with the id of the event whose projection has added it. -/
def audited (w : World) (e : Event) (w' : World) : List (Uuid × Uuid) :=
  (committed w e w').flatMap fun x =>
    (w'.db.auditLogs.rows.drop w.db.auditLogs.rows.length).map fun a => (a.id, x.event.eventId)

/-- The trail agrees with the origins of its rows. -/
structure Audited (w : World) (l : List (Uuid × Uuid)) : Prop where
  ids : w.db.auditLogs.rows.map (·.id) = l.map Prod.fst
  events : w.db.auditedEvents = l.map Prod.snd
  retired : w.db.processedEvents.retired = []
  described : ∀ p ∈ l, ∀ a ∈ w.db.auditLogs.rows, a.id = p.1 →
    ∃ x ∈ w.db.log, x.1 = p.2 ∧ w.db.Describes x a

lemma audited_initial (organizations : Table Organization) (users : Table User) (n : Nat) :
    (initial organizations users n).Audited [] :=
  ⟨rfl, rfl, rfl, fun _ hp => by cases hp⟩

lemma Audited.keep (hw : w.Audited l) (h : w.db.KeepsTrail w'.db) : w'.Audited l where
  ids := h.ids.trans hw.ids
  events := h.events.trans hw.events
  retired := h.retired.trans hw.retired
  described p hp a ha hid := by
    obtain ⟨b, hb, hbid, hdescribes⟩ := h.describes a ha
    obtain ⟨x, hx, hxid, hb⟩ := hw.described p hp b hb (hbid.trans hid)
    exact ⟨x, h.log.subset hx, hxid, hdescribes x hb⟩

lemma Audited.extend (hw : w.Audited l) {event : DomainEvent} {row : AuditLog}
    (h : w.db.ExtendsTrail w'.db event row) (hlog : event.content ∈ w.db.log) :
    w'.Audited (l ++ [(row.id, event.eventId)]) where
  ids := by rw [h.rows, List.map_append, List.map_append, hw.ids]; rfl
  events := by rw [h.events, hw.events, List.map_append]; rfl
  retired := h.retired.trans hw.retired
  described p hp a ha hid := by
    have hfresh : ∀ b ∈ w.db.auditLogs.rows, b.id ≠ row.id := fun b hb =>
      Table.key_ne_of_append h.rows hb (List.mem_singleton_self _)
    rw [h.log]
    rw [h.rows] at ha
    rcases List.mem_append.mp hp with hold | hnew
    · rcases List.mem_append.mp ha with ha | ha
      · obtain ⟨x, hx, hxid, hdescribes⟩ := hw.described p hold a ha hid
        exact ⟨x, hx, hxid, h.old x a hdescribes⟩
      · obtain rfl := List.mem_singleton.mp ha
        have hmem : p.1 ∈ w.db.auditLogs.rows.map (·.id) := hw.ids ▸ List.mem_map_of_mem hold
        obtain ⟨b, hb, hbid⟩ := List.mem_map.mp hmem
        exact absurd (hbid.trans hid.symm) (hfresh b hb)
    · obtain rfl := List.mem_singleton.mp hnew
      rcases List.mem_append.mp ha with ha | ha
      · exact absurd hid (hfresh a ha)
      · obtain rfl := List.mem_singleton.mp ha
        exact ⟨event.content, hlog, rfl, h.new⟩

/-- A step adds no audit row, or one of an event that the outbox holds. -/
lemma step_audited (hs : w.Sourced) (h : step cfg w e = some w') :
    (audited w e w' = [] ∧ w.db.KeepsTrail w'.db) ∨
      ∃ event row, audited w e w' = [(row.id, event.eventId)] ∧ event.content ∈ w.db.log ∧
        w.db.ExtendsTrail w'.db event row := by
  cases e with
  | proceed i env =>
    obtain ⟨c, hc, rfl⟩ := Option.map_eq_some_iff.mp h
    exact .inl ⟨rfl, Call.keepsTrail (Prod.ext rfl rfl)⟩
  | relay i a =>
    left
    have hsteps := step_cases h
    clear h
    cases hsteps with
    | relay _ h =>
      refine ⟨rfl, .of_eq ?_ ?_ ?_ ?_ ?_ (by rw [h.log])⟩ <;> rw [h.frame]
      rfl
  | consume i a =>
    obtain ⟨d, d', hd, hexec, -⟩ := consume_cases h
    have hmem := List.mem_of_getElem? hd
    have hcommitted : committed w (.consume i a) w' = d.commits w.db a := by simp [committed, hd]
    have keep (hother : d.commits w.db a = [] ∨ d.consumer ≠ .audit) :
        audited w (.consume i a) w' = [] ∧ w.db.KeepsTrail w'.db := by
      have hkeep := Delivery.keepsTrail (Delivery.exec_cases hexec) (hs.planned d hmem) hother
      have hlength := congrArg List.length hkeep.ids
      rw [List.length_map, List.length_map] at hlength
      simp [audited, ← hlength, hkeep]
    by_cases haudit : d.consumer = .audit
    · cases hc : d.commits w.db a with
      | nil => exact .inl (keep (.inl hc))
      | cons x xs =>
        have hx : x ∈ d.commits w.db a := hc ▸ List.mem_cons_self
        obtain ⟨row, hext⟩ := Delivery.extendsTrail hexec (hs.planned d hmem) hx haudit
        refine .inr ⟨x.event, row, ?_, ?_, hext⟩
        · rw [audited, hcommitted, Delivery.commits_eq hx, hext.rows]
          simp
        · rw [(Delivery.commits_cases hexec hx).1]
          exact hs.handled d hmem
    · exact .inl (keep (.inr haudit))
  | arrive | connect | deliver | redeliver | crash =>
    have hsteps := step_cases h
    clear h
    cases hsteps
    exact .inl ⟨rfl, .of_eq rfl rfl rfl rfl rfl List.prefix_rfl⟩

lemma audited_of_exec {organizations : Table Organization} {users : Table User} {n : Nat}
    {es : List Event} (h : exec (step cfg) (initial organizations users n) es = some w) :
    w.Audited (collect (step cfg) audited (initial organizations users n) es) := by
  have key := exec_collect_invariant (step cfg) (f := audited) (l := [])
    (I := fun w l => w.Sourced ∧ w.Audited l) ?_
    ⟨sourced_initial organizations users n, audited_initial organizations users n⟩ h
  · exact key.2
  · rintro s e t l ⟨hs, ha⟩ ht
    refine ⟨(step_cases ht).sourced hs, ?_⟩
    rcases step_audited hs ht with ⟨hnone, hkeep⟩ | ⟨event, row, hone, hlog, hext⟩
    · rw [hnone, List.append_nil]
      exact ha.keep hkeep
    · rw [hone]
      exact ha.extend hext hlog

lemma Audited.nodup_ids (hw : w.Audited l) : (l.map Prod.fst).Nodup :=
  hw.ids ▸ w.db.auditLogs.nodup_keys

lemma Audited.nodup_events (hw : w.Audited l) : (l.map Prod.snd).Nodup := by
  have hkeys := w.db.processedEvents.nodup_keys
  rw [← hw.events, Db.auditedEvents]
  refine List.Nodup.of_map (fun id => ((id, .audit) : Uuid × Consumer)) ?_
  rw [List.map_map]
  convert hkeys.sublist ((List.filter_sublist).map _) using 1
  refine List.map_congr_left fun p hp => ?_
  have : p.consumer = .audit := by simpa using (List.mem_filter.mp hp).2
  simp [ProcessedEvent.key_eq, this]

/-- The audit row of an audited event, and no other. -/
lemma Audited.row (hw : w.Audited l) {id : Uuid} (hid : id ∈ l.map Prod.snd) :
    ∃ a ∈ w.db.auditLogs.rows, ∀ b ∈ w.db.auditLogs.rows, (b.id, id) ∈ l ↔ b = a := by
  obtain ⟨p, hp, rfl⟩ := List.mem_map.mp hid
  have hmem : p.1 ∈ w.db.auditLogs.rows.map (·.id) := hw.ids ▸ List.mem_map_of_mem hp
  obtain ⟨a, ha, haid⟩ := List.mem_map.mp hmem
  have haid : a.id = p.1 := haid
  refine ⟨a, ha, fun b hb => ⟨fun hbp => ?_, ?_⟩⟩
  · have heq := List.inj_on_of_nodup_map hw.nodup_events hbp hp rfl
    exact w.db.auditLogs.eq_of_key_eq hb ha ((congrArg Prod.fst heq).trans haid.symm)
  · rintro rfl
    rw [haid]
    exact hp

/-- The outbox row of an audit row, and no other. -/
lemma Audited.origin (hw : w.Audited l) {a : AuditLog} (ha : a ∈ w.db.auditLogs.rows) :
    ∃ r ∈ w.db.outbox.rows, w.db.Describes r.content a ∧
      ∀ r' ∈ w.db.outbox.rows, (a.id, r'.id) ∈ l ↔ r' = r := by
  have hmem : a.id ∈ l.map Prod.fst := hw.ids ▸ List.mem_map_of_mem ha
  obtain ⟨p, hp, hpa⟩ := List.mem_map.mp hmem
  obtain ⟨x, hx, hxid, hdescribes⟩ := hw.described p hp a ha hpa.symm
  obtain ⟨r, hr, rfl⟩ := List.mem_map.mp hx
  have hrid : r.id = p.2 := hxid
  refine ⟨r, hr, hdescribes, fun r' hr' => ⟨fun hp' => ?_, ?_⟩⟩
  · have heq := List.inj_on_of_nodup_map hw.nodup_ids hp' hp hpa.symm
    exact w.db.outbox.eq_of_key_eq hr' hr ((congrArg Prod.snd heq).trans hrid.symm)
  · rintro rfl
    rw [← hpa, hrid]
    exact hp

lemma Audited.mem_events (hw : w.Audited l) {id : Uuid}
    (h : (id, .audit) ∈ w.db.processedEvents.keys) : id ∈ l.map Prod.snd := by
  rw [← hw.events]
  rcases Table.mem_keys.mp h with ⟨p, hp, hkey⟩ | hretired
  · obtain ⟨rfl, hc⟩ := Prod.mk.inj hkey
    exact List.mem_map_of_mem (List.mem_filter.mpr ⟨hp, by simpa using hc⟩)
  · rw [hw.retired] at hretired
    cases hretired

/-- What is expected of the trail, given the origins of its rows: a dispatched event has one row,
or none and a dead letter, and a row comes from one row of the outbox, which `describes` relates
it to. -/
def AuditComplete (w : World) (origins : List (Uuid × Uuid))
    (describes : Uuid × Payload × Option String → AuditLog → Prop) : Prop :=
  (∀ r ∈ w.db.outbox.rows, r.status = .dispatched →
    (∃ a ∈ w.db.auditLogs.rows, ∀ b ∈ w.db.auditLogs.rows, (b.id, r.id) ∈ origins ↔ b = a) ∨
    (∀ a ∈ w.db.auditLogs.rows, (a.id, r.id) ∉ origins) ∧
      ∃ l ∈ w.broker.deadLetters, l.originQueue = .audit ∧ l.event.content = r.content) ∧
  ∀ a ∈ w.db.auditLogs.rows, ∃ r ∈ w.db.outbox.rows, describes r.content a ∧
    ∀ r' ∈ w.db.outbox.rows, (a.id, r'.id) ∈ origins ↔ r' = r

/-- In a run in which the queue is declared and bound to the exchange of a publish by the time the
broker confirms it, and the workers of the audit consumer meet no unique violation but by true
duplicates, the trail is complete once the queue is drained. Its rows say what the outbox says, but
for removed actors and organizations. -/
theorem audit_complete (cfg : Config) (organizations : Table Organization) (users : Table User)
    (n : Nat) {es : List Event} {w : World}
    (h : exec (step cfg) (initial organizations users n) es = some w)
    (hguarded : Guarded (step cfg) (fun w e => w.DeclaredFirst cfg e ∧ w.TrueDuplicates .audit e)
      (initial organizations users n) es) (hdrained : w.Drained .audit) :
    w.AuditComplete (collect (step cfg) audited (initial organizations users n) es)
      w.db.Describes := by
  have haudited := audited_of_exec h
  refine ⟨fun r hr hstatus => ?_, fun a ha => haudited.origin ha⟩
  by_cases hid : r.id ∈ (collect (step cfg) audited (initial organizations users n) es).map Prod.snd
  · exact .inl (haudited.row hid)
  · refine .inr ⟨fun a _ hmem => hid (List.mem_map_of_mem hmem), ?_⟩
    rcases (dispatched_accounted h hguarded hr hstatus rfl).drained hdrained with hk | hletter
    · exact absurd (haudited.mem_events hk) hid
    · exact hletter

/-- The creation of a ticket is audited before the admin removes the organization. -/
def removedRun : List Event :=
  [.connect, .arrive (some 12) none (.createTicket Seed.ticketDto), .proceed 0 (Seed.env 1),
    .relay 0 .tick, .relay 0 (.proceed 0 (Seed.env 2) .accepted),
    .relay 0 (.proceed 0 (Seed.env 3) .accepted), .relay 0 (.proceed 0 (Seed.env 4) .accepted),
    .deliver 0 .audit 0, .consume 0 (.insert (Seed.env 5)), .consume 0 (.project (Seed.env 6)),
    .consume 0 (.commit (Seed.env 7)), .consume 0 .ack,
    .arrive (some 11) none (.removeOrganization 1), .proceed 1 (Seed.env 8),
    .proceed 1 (Seed.env 9)]

theorem audit_complete_removed :
    ∃ w, exec (step .default) (initial Seed.organizations Seed.users 1) removedRun = some w ∧
      w.db.auditLogs.rows.length = 1 ∧
      w.AuditComplete (collect (step .default) audited
        (initial Seed.organizations Seed.users 1) removedRun) w.db.Describes := by
  have hrun : (exec (step .default) (initial Seed.organizations Seed.users 1)
      removedRun).any fun w => w.Drained .audit ∧ w.db.auditLogs.rows.length = 1 := by decide
  obtain ⟨w, hw, hdrained, hlength⟩ := exists_of_any hrun
  exact ⟨w, hw, hlength,
    audit_complete .default Seed.organizations Seed.users 1 hw (by decide) hdrained⟩

/-- After the removal the audit row names neither the actor nor the organization. -/
theorem audit_row_nulled :
    ¬ ∀ cfg organizations users n es w,
      exec (step cfg) (initial organizations users n) es = some w →
        Guarded (step cfg) (fun w e => w.DeclaredFirst cfg e ∧ w.TrueDuplicates .audit e)
          (initial organizations users n) es →
        (∀ r ∈ w.db.outbox.rows, r.status ≠ .pending) → w.Drained .audit →
        w.AuditComplete (collect (step cfg) audited (initial organizations users n) es)
          fun x a => a.Says x x.2.1.actorId? x.2.1.organizationId? := by
  intro hall
  have hrun : (exec (step .default) (initial Seed.organizations Seed.users 1)
      removedRun).any fun w => ((∀ r ∈ w.db.outbox.rows, r.status ≠ .pending) ∧ w.Drained .audit) ∧
        (∃ a ∈ w.db.auditLogs.rows, a.actorId = none) ∧
        ∀ r ∈ w.db.outbox.rows, r.payload.actorId? ≠ none := by decide
  obtain ⟨w, hw, ⟨hpending, hdrained⟩, ⟨a, ha, hactor⟩, hnamed⟩ := exists_of_any hrun
  obtain ⟨-, hrows⟩ := hall _ _ _ _ _ w hw (by decide) hpending hdrained
  obtain ⟨r, hr, hdescribes, -⟩ := hrows a ha
  exact hnamed r hr (hdescribes.actor.symm.trans hactor)

end World

end SupportPlatform
