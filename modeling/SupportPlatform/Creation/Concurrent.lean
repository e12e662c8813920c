import SupportPlatform.Creation.Interleaved

/-!
# Creations that count alone

While one `create` is between its count and its commit, the reference it got stays the next one as
long as no other `create` counts. The invariant: the references are numbered, at most one `create`
is open, and it holds the next reference.
-/

namespace SupportPlatform

open TicketsService

/-- What the invariant says of a `create` past its count. -/
def Creation.Sound (db : Db) : Creation → Prop
  | .inserting actor dto _ r => dto.Typed ∧ db.Knows actor ∧ r = reference db.references.length
  | .enqueueing ticket _ =>
    ticket.reference = reference db.references.length ∧ ticket.id ∉ db.tickets.keys
  | .committing ticket row =>
    ticket.reference = reference db.references.length ∧ ticket.id ∉ db.tickets.keys ∧
      row.payload = .ticketCreated (createdPayload ticket) ∧ row.id ∉ db.outbox.keys
  | .committed ticket row =>
    db.tickets.column Ticket.reference ticket.id = some ticket.reference ∧
      row.payload = .ticketCreated (createdPayload ticket) ∧ row ∈ db.outbox.rows
  | .rejected _ => False

/-- What the invariant says of an operation. -/
def Task.Sound (db : Db) : Task → Prop
  | .call (.ticketsCreate actor dto _) => dto.Typed ∧ db.Knows actor
  | .call c => c.isRemoval = false
  | .creation c => c.Sound db

namespace Task

variable {env : Env} {db db' : Db} {task : Task}

lemma Sound.isRemoval {c : Call} (h : (Task.call c).Sound db) : c.isRemoval = false := by
  cases c <;> first | rfl | exact h

/-- What other operations do keeps an operation sound. -/
lemma Sound.undisturbed (h : task.Sound db) (hdb : db.Undisturbed env db')
    (hfresh : ∀ key, task.holds (env.uuid (.enqueue key) 0) = false) : task.Sound db' := by
  cases task with
  | call c =>
    cases c with
    | ticketsCreate actor dto cid =>
      exact ⟨h.1, hdb.organizations _ h.2.1, hdb.users _ h.2.2⟩
    | _ => exact h
  | creation c =>
    cases c with
    | inserting actor dto cid r =>
      obtain ⟨hdto, hknows, hr⟩ := h
      exact ⟨hdto, ⟨hdb.organizations _ hknows.1, hdb.users _ hknows.2⟩, hdb.references ▸ hr⟩
    | enqueueing t cid => exact ⟨hdb.references ▸ h.1, hdb.keys ▸ h.2⟩
    | committing t row =>
      obtain ⟨href, hid, hpayload, hrow⟩ := h
      refine ⟨hdb.references ▸ href, hdb.keys ▸ hid, hpayload, fun hmem => ?_⟩
      rcases hdb.eventKeys _ hmem with hmem | ⟨key, heq⟩
      · exact hrow hmem
      · simpa [holds, heq] using hfresh key
    | committed t row =>
      obtain ⟨hcolumn, hpayload, hrow⟩ := h
      exact ⟨(hdb.column _).trans hcolumn, hpayload, hdb.events _ hrow⟩
    | rejected e => exact h

/-- A commit keeps the operations sound that are not open. -/
lemma Sound.commit {t : Ticket} {row : EventOutbox} {tickets : Table Ticket}
    {outbox : Table EventOutbox} (h : task.Sound db) (hopen : task.isOpen = false)
    (ht : db.tickets.insert? t = some tickets) (ho : db.outbox.insert? row = some outbox) :
    task.Sound { db with tickets, outbox } := by
  cases task with
  | call c => cases c <;> exact h
  | creation c =>
    cases c with
    | committed t' row' =>
      obtain ⟨hcolumn, hpayload, hrow⟩ := h
      have hne : t'.id ≠ Keyed.key t := by
        intro heq
        apply (Table.insert?_eq_some.mp ht).1
        rw [← heq]
        exact (Table.names_of_column hcolumn).1
      exact ⟨(Table.column_insert? ht hne).trans hcolumn, hpayload,
        (Table.mem_insert? ho).mpr (.inl hrow)⟩
    | rejected e => exact h
    | _ => cases hopen

end Task

namespace Interleaved

/-- What holds as long as every `create` counts alone. -/
structure Sound (s : Interleaved) : Prop where
  numbered : s.db.ReferencesNumbered
  homed : s.db.Homed
  tasks : ∀ (i : Nat) (task : Task), s.tasks[i]? = some task → task.Sound s.db
  single : ∀ (i j : Nat) (a b : Task), s.tasks[i]? = some a → s.tasks[j]? = some b →
    a.isOpen → b.isOpen → i = j
  distinct : ∀ (i j : Nat) (t t' : Ticket) (row row' : EventOutbox), i ≠ j →
    s.tasks[i]? = some (.creation (.committed t row)) →
    s.tasks[j]? = some (.creation (.committed t' row')) → t.reference ≠ t'.reference

variable {s s' : Interleaved}

lemma sound_initial : initial.Sound where
  numbered := Db.referencesNumbered_empty
  homed := Db.homed_empty
  tasks _ _ h := by cases h
  single _ _ _ _ h := by cases h
  distinct _ _ _ _ _ _ _ h := by cases h

/-- A new operation joins. -/
lemma Sound.push {c : Call} (hs : s.Sound) (hc : (Task.call c).Sound s.db) :
    ({ s with tasks := s.tasks ++ [.call c] } : Interleaved).Sound := by
  have hold : ∀ (i : Nat) (task : Task), (s.tasks ++ [.call c])[i]? = some task →
      s.tasks[i]? = some task ∨ task = .call c := by
    intro i task h
    rw [List.getElem?_append] at h
    split_ifs at h with hi
    · exact .inl h
    · exact .inr (List.mem_singleton.mp (List.mem_of_getElem? h))
  constructor
  case numbered =>
    exact hs.numbered
  case homed =>
    exact hs.homed
  case tasks =>
    intro i task h
    rcases hold i task h with h | rfl
    · exact hs.tasks i task h
    · exact hc
  case single =>
    intro i j a b ha hb hopen hopen'
    rcases hold i a ha with ha | rfl
    · rcases hold j b hb with hb | rfl
      · exact hs.single i j a b ha hb hopen hopen'
      · cases hopen'
    · cases hopen
  case distinct =>
    intro i j t t' row row' hij h h'
    exact hs.distinct i j t t' row row' hij ((hold i _ h).resolve_right (by rintro ⟨⟩))
      ((hold j _ h').resolve_right (by rintro ⟨⟩))

/-- One operation takes a step that does not commit. -/
lemma Sound.set {i : Nat} {task task' : Task} {db : Db} (hs : s.Sound)
    (hi : s.tasks[i]? = some task) (hnumbered : db.ReferencesNumbered) (hhomed : db.Homed)
    (hothers : ∀ (j : Nat) (task : Task), j ≠ i → s.tasks[j]? = some task → task.Sound db)
    (hself : task'.Sound db)
    (hopen : task'.isOpen → task.isOpen ∨ ∀ t ∈ s.tasks, t.isOpen = false)
    (hreference : ∀ t row, task' = .creation (.committed t row) →
      ∀ (j : Nat) (t' : Ticket) (row' : EventOutbox), j ≠ i →
        s.tasks[j]? = some (.creation (.committed t' row')) → t.reference ≠ t'.reference) :
    (⟨db, s.tasks.set i task'⟩ : Interleaved).Sound := by
  have hsingle : ∀ (j : Nat) (b : Task), j ≠ i → s.tasks[j]? = some b →
      b.isOpen → task'.isOpen → False := by
    intro j b hj hb hb' hopen'
    rcases hopen hopen' with htask | hclosed
    · exact hj (hs.single j i b task hb hi hb' htask)
    · rw [hclosed b (List.mem_of_getElem? hb)] at hb'
      cases hb'
  constructor
  case numbered =>
    exact hnumbered
  case homed =>
    exact hhomed
  case tasks =>
    intro j b hb
    rcases Machine.getElem?_set_cases hb with ⟨rfl, rfl⟩ | ⟨hj, hb⟩
    · exact hself
    · exact hothers j b hj hb
  case single =>
    intro j k a b ha hb haopen hbopen
    rcases Machine.getElem?_set_cases ha with ⟨rfl, rfl⟩ | ⟨hj, hja⟩
    · rcases Machine.getElem?_set_cases hb with ⟨rfl, -⟩ | ⟨hk, hkb⟩
      · rfl
      · exact (hsingle k b hk hkb hbopen haopen).elim
    · rcases Machine.getElem?_set_cases hb with ⟨rfl, rfl⟩ | ⟨hk, hkb⟩
      · exact (hsingle j a hj hja haopen hbopen).elim
      · exact hs.single j k a b hja hkb haopen hbopen
  case distinct =>
    intro j k t t' row row' hjk ht ht'
    rcases Machine.getElem?_set_cases ht with ⟨rfl, hself⟩ | ⟨hj, hother⟩
    · rcases Machine.getElem?_set_cases ht' with ⟨rfl, -⟩ | ⟨hk, hother'⟩
      · exact absurd rfl hjk
      · exact hreference t row hself.symm k t' row' hk hother'
    · rcases Machine.getElem?_set_cases ht' with ⟨rfl, hself⟩ | ⟨hk, hother'⟩
      · exact (hreference t' row' hself.symm j t row hj hother).symm
      · exact hs.distinct j k t t' row row' hjk hother hother'

/-! ### Steps -/

section Steps

variable {i : Nat} {env : Env} {db : Db}

lemma Sound.request {e : Request} {user : AuthenticatedUser} {cid : Option String} (hs : s.Sound)
    (he : s.Assumed (.request user cid e)) : (Task.call (.ofRequest user cid e)).Sound s.db := by
  cases e with
  | createTicket dto => exact ⟨he.1, hs.homed.actor he.2⟩
  | removeOrganization id => cases he
  | _ => rfl

/-- An operation other than `create`. -/
lemma Sound.other {c c' : Call} (hs : s.Sound) (hi : s.tasks[i]? = some (.call c))
    (hcreate : (Task.call c).isCreate = false) (h : Call.Executes env s.db c db c')
    (hfresh : ∀ key, s.tasks.all fun task => !task.holds (env.uuid (.enqueue key) 0)) :
    (⟨db, s.tasks.set i (.call c')⟩ : Interleaved).Sound := by
  have hremoval := (hs.tasks i _ hi).isRemoval
  have hdb := h.undisturbed hremoval hcreate
  refine hs.set hi ?_ (h.homed hs.homed) ?_ ?_ (fun h => by cases h) (fun _ _ h => by cases h)
  · rw [Db.ReferencesNumbered, hdb.references]
    exact hs.numbered
  · intro j task _ hj
    refine (hs.tasks j task hj).undisturbed hdb fun key => ?_
    simpa using List.all_eq_true.mp (hfresh key) task (List.mem_of_getElem? hj)
  · have hcreate' : (Task.call c').isCreate = false := h.isCreate hcreate
    have hremoval' : c'.isRemoval = false := h.isRemoval hremoval
    cases c' <;> first | exact hremoval' | cases hcreate'

/-- The count of a `create`. -/
lemma Sound.count {actor : AuthenticatedUser} {dto : CreateTicketDto} {cid : Option String}
    (hs : s.Sound) (hi : s.tasks[i]? = some (.call (.ticketsCreate actor dto cid)))
    (henv : env.Faultless) (halone : ∀ task ∈ s.tasks, task.isOpen = false) :
    (⟨s.db, s.tasks.set i (.creation (.count env s.db actor dto cid))⟩ : Interleaved).Sound := by
  rw [Creation.count_eq henv]
  obtain ⟨hdto, hknows⟩ := hs.tasks i _ hi
  refine hs.set hi hs.numbered hs.homed (fun j task _ => hs.tasks j task) ⟨hdto, hknows, ?_⟩
    (fun _ => .inr halone) (fun _ _ h => by cases h)
  rw [Db.length_references]

/-- A statement of an open `create` that does not commit. -/
lemma Sound.statement {c c' : Creation} (hs : s.Sound) (hi : s.tasks[i]? = some (.creation c))
    (hopen : c.isOpen) (hc' : c'.Sound s.db) (hcommitted : ∀ t row, c' ≠ .committed t row) :
    (⟨s.db, s.tasks.set i (.creation c')⟩ : Interleaved).Sound :=
  hs.set hi hs.numbered hs.homed (fun j task _ => hs.tasks j task) hc' (fun _ => .inl hopen)
    fun t row h => absurd (Task.creation.inj h) (hcommitted t row)

/-- The commit of a `create`. -/
lemma Sound.commit {t : Ticket} {row : EventOutbox} {tickets : Table Ticket}
    {outbox : Table EventOutbox} (hs : s.Sound)
    (hi : s.tasks[i]? = some (.creation (.committing t row)))
    (ht : s.db.tickets.insert? t = some tickets) (ho : s.db.outbox.insert? row = some outbox) :
    (⟨{ s.db with tickets, outbox }, s.tasks.set i (.creation (.committed t row))⟩ :
      Interleaved).Sound := by
  obtain ⟨href, -, hpayload, -⟩ := hs.tasks i _ hi
  refine hs.set hi (hs.numbered.insertTicket ht ?_) hs.homed ?_ ?_ (fun h => by cases h) ?_
  · rw [href, Db.length_references]
  · intro j task hj htask
    refine (hs.tasks j task htask).commit ?_ ht ho
    by_contra hopen
    exact hj (hs.single j i task _ htask hi (by simpa using hopen) rfl)
  · refine ⟨?_, hpayload, (Table.mem_insert? ho).mpr (.inr rfl)⟩
    exact Table.column_self ((Table.mem_insert? ht).mpr (.inr rfl))
  · rintro t row ⟨⟩ j t' row' - hj heq
    obtain ⟨hcolumn, -, -⟩ := hs.tasks j _ hj
    obtain ⟨r, hr, -, hreference⟩ := Table.column_eq_some.mp hcolumn
    apply hs.numbered.free r hr
    rw [hreference, ← heq, href, Db.length_references]

/-- No other transaction holds the reference of an open `create`. -/
lemma Sound.not_locked {c : Creation} {reference : String} (hs : s.Sound)
    (hi : s.tasks[i]? = some (.creation c)) (hopen : c.isOpen) (hc : c.uncommitted = none) :
    (s.tasks.any (·.locks reference)) = false := by
  rw [List.any_eq_false]
  intro task hmem hlocks
  obtain ⟨j, hj⟩ := List.getElem?_of_mem hmem
  cases task with
  | call c => cases hlocks
  | creation c' =>
    have hopen' : c'.isOpen := by cases c' <;> first | rfl | cases hlocks
    obtain rfl := hs.single j i _ _ hj hi hopen' hopen
    cases hi.symm.trans hj
    rw [Task.locks, hc] at hlocks
    cases hlocks

/-- The insertion of a `create`. -/
lemma Sound.exec_inserting {actor : AuthenticatedUser} {dto : CreateTicketDto}
    {cid : Option String} {r : String} (hs : s.Sound)
    (hi : s.tasks[i]? = some (.creation (.inserting actor dto cid r))) (henv : env.Serves s.db) :
    (Task.creation (.inserting actor dto cid r)).exec env s.db
        (fun reference => s.tasks.any (·.locks reference)) =
      some (s.db, .creation (.enqueueing
        (newTicket env actor dto r (dto.priority.getD .medium)) cid)) := by
  obtain ⟨hdto, hknows, hr⟩ := hs.tasks i _ hi
  have hfree : ∀ t ∈ s.db.tickets.rows, t.reference ≠ r := by
    rw [hr, Db.length_references]
    exact hs.numbered.free
  rw [Task.exec, Creation.exec_inserting henv hdto (hs.not_locked hi rfl rfl) hfree hknows]
  rfl

theorem Sound.step {e : InterleavedEvent} (hs : s.Sound) (he : s.Assumed e) (hc : s.CountsAlone e)
    (h : step s e = some s') : s'.Sound := by
  cases e with
  | request user cid request =>
    cases h
    exact hs.push (hs.request he)
  | proceed i env =>
    obtain ⟨task, hi, h⟩ := Option.bind_eq_some_iff.mp h
    obtain ⟨⟨db, task'⟩, hexec, rfl⟩ := Option.map_eq_some_iff.mp h
    obtain ⟨henv, hfresh⟩ := he
    have henv : task.isCreate → env.Serves s.db := henv task hi
    have htask := hs.tasks i task hi
    cases task with
    | call c =>
      by_cases hcreate : (Task.call c).isCreate
      · cases c with
        | ticketsCreate actor dto cid =>
          cases hexec
          refine hs.count hi (henv rfl).1 ?_
          simpa only [CountsAlone, hi] using hc
        | _ => cases hcreate
      · have hcreate : (Task.call c).isCreate = false := by simpa using hcreate
        rw [Task.exec_call hcreate] at hexec
        cases hexec
        exact hs.other hi hcreate (Call.exec_cases rfl) hfresh
    | creation c =>
      cases c with
      | inserting actor dto cid r =>
        rw [hs.exec_inserting hi (henv rfl)] at hexec
        cases hexec
        exact hs.statement hi rfl ⟨htask.2.2, (henv rfl).2.1⟩ (by rintro _ _ ⟨⟩)
      | enqueueing t cid =>
        rw [Task.exec, Creation.exec_enqueueing (henv rfl)] at hexec
        cases hexec
        exact hs.statement hi rfl ⟨htask.1, htask.2, rfl, (henv rfl).2.2⟩ (by rintro _ _ ⟨⟩)
      | committing t row =>
        obtain ⟨tickets, outbox, ht, ho, hcommit⟩ :=
          Creation.exec_committing (henv rfl).1 htask.2.1 htask.2.2.2
        rw [Task.exec, hcommit] at hexec
        cases hexec
        exact hs.commit hi ht ho
      | committed t row =>
        cases hexec
        obtain ⟨hlt, hget⟩ := List.getElem?_eq_some_iff.mp hi
        dsimp only
        rwa [← hget, List.set_getElem_self]
      | rejected e => exact htask.elim

end Steps

/-- In a run in which every `create` counts alone. -/
lemma sound_of_exec {es : List InterleavedEvent} (h : Machine.exec step initial es = some s)
    (hassumed : Machine.Guarded step Assumed initial es)
    (halone : Machine.Guarded step CountsAlone initial es) : s.Sound :=
  Machine.exec_guarded_invariant step (fun _ _ _ hs he h => hs.step he.1 he.2 h) sound_initial
    (hassumed.and step halone) h

/-- An open `create` never waits. -/
lemma Sound.proceeds {i : Nat} {c : Creation} {env : Env} (hs : s.Sound)
    (hi : s.tasks[i]? = some (.creation c)) (hopen : c.isOpen) (henv : env.Serves s.db) :
    ∃ s', Interleaved.step s (.proceed i env) = some s' := by
  have hexec : ∃ p, (Task.creation c).exec env s.db
      (fun reference => s.tasks.any (·.locks reference)) = some p := by
    cases c with
    | inserting actor dto cid r => exact ⟨_, hs.exec_inserting hi henv⟩
    | enqueueing t cid =>
      rw [Task.exec, Creation.exec_enqueueing henv]
      exact ⟨_, rfl⟩
    | committing t row =>
      obtain ⟨-, ht, -, hrow⟩ := hs.tasks i _ hi
      obtain ⟨tickets, outbox, -, -, hcommit⟩ := Creation.exec_committing henv.1 ht hrow
      rw [Task.exec, hcommit]
      exact ⟨_, rfl⟩
    | _ => cases hopen
  obtain ⟨p, hp⟩ := hexec
  exact ⟨_, Option.bind_eq_some_iff.mpr ⟨_, hi, Option.map_eq_some_iff.mpr ⟨p, hp, rfl⟩⟩⟩

/-- As long as every `create` counts alone, each one goes on to its commit: none is rejected, an
open one never waits, and the committed ones have left their ticket and its `ticket.created` row,
under references of their own. -/
theorem creates_commit {es : List InterleavedEvent} (hrun : Machine.exec step initial es = some s)
    (hassumed : Machine.Guarded step Assumed initial es)
    (halone : Machine.Guarded step CountsAlone initial es) :
    (∀ e, .creation (.rejected e) ∉ s.tasks) ∧
      (∀ i c env, s.tasks[i]? = some (.creation c) → c.isOpen → env.Serves s.db →
        ∃ s', step s (.proceed i env) = some s') ∧
      (∀ t row, .creation (.committed t row) ∈ s.tasks →
        s.db.tickets.column Ticket.reference t.id = some t.reference ∧
          row.payload = .ticketCreated (createdPayload t) ∧ row ∈ s.db.outbox.rows) ∧
      ∀ (i j : Nat) (t t' : Ticket) (row row' : EventOutbox), i ≠ j →
        s.tasks[i]? = some (.creation (.committed t row)) →
        s.tasks[j]? = some (.creation (.committed t' row')) → t.reference ≠ t'.reference := by
  have hs := sound_of_exec hrun hassumed halone
  refine ⟨fun e hmem => ?_, fun i c env hi => hs.proceeds hi, fun t row hmem => ?_, hs.distinct⟩
  · obtain ⟨i, hi⟩ := List.getElem?_of_mem hmem
    exact hs.tasks i _ hi
  · obtain ⟨i, hi⟩ := List.getElem?_of_mem hmem
    exact hs.tasks i _ hi

/-! ### Two creations -/

/-- The customer of the runs below. -/
def carol : AuthenticatedUser := ⟨410, "carol@acme.test", .customer, 110⟩

/-- An organization is set up, and a customer registers in it. -/
def setupRun : List InterleavedEvent :=
  [.request carol none (.createOrganization ⟨"Acme Inc.", "acme-inc"⟩), .proceed 0 (Seed.env 1),
    .request carol none (.register ⟨carol.email, "Password123!", "Carol", "Customer", 110⟩),
    .proceed 1 (Seed.env 2), .proceed 1 (Seed.env 3), .proceed 1 (Seed.env 4)]

/-- The customer creates two tickets, one after the other. -/
def orderlyRun : List InterleavedEvent :=
  setupRun ++
    [.request carol none (.createTicket Seed.ticketDto), .proceed 2 (Seed.env 5),
      .request carol none (.createTicket Seed.ticketDto), .proceed 2 (Seed.env 6),
      .proceed 2 (Seed.env 7), .proceed 2 (Seed.env 8), .proceed 3 (Seed.env 9),
      .proceed 3 (Seed.env 10), .proceed 3 (Seed.env 11), .proceed 3 (Seed.env 12)]

theorem creates_commit_orderly :
    ∃ s, Machine.exec step initial orderlyRun = some s ∧
      (∀ e, .creation (.rejected e) ∉ s.tasks) ∧
      s.db.references = ["TKT-000001", "TKT-000002"] := by
  have hassumed : Machine.Guarded step Assumed initial orderlyRun := by decide
  have halone : Machine.Guarded step CountsAlone initial orderlyRun := by decide
  have hrun : (Machine.exec step initial orderlyRun).any fun s =>
      s.db.references = ["TKT-000001", "TKT-000002"] := by decide
  obtain ⟨s, hs, hreferences⟩ := Machine.exists_of_any hrun
  exact ⟨s, hs, (creates_commit hs hassumed halone).1, hreferences⟩

/-- Both creations count before the first one commits. -/
def racedRun : List InterleavedEvent :=
  setupRun ++
    [.request carol none (.createTicket Seed.ticketDto),
      .request carol none (.createTicket Seed.ticketDto), .proceed 2 (Seed.env 5),
      .proceed 3 (Seed.env 6), .proceed 2 (Seed.env 7), .proceed 2 (Seed.env 8),
      .proceed 2 (Seed.env 9), .proceed 3 (Seed.env 10)]

theorem create_rejected :
    ¬ ∀ es s, Machine.exec step initial es = some s → Machine.Guarded step Assumed initial es →
      ∀ e, .creation (.rejected e) ∉ s.tasks := by
  intro hall
  have hassumed : Machine.Guarded step Assumed initial racedRun := by decide
  have hrun : (Machine.exec step initial racedRun).any fun s =>
      .creation (.rejected .uniqueViolation) ∈ s.tasks := by decide
  obtain ⟨s, hs, hmem⟩ := Machine.exists_of_any hrun
  exact hall racedRun s hs hassumed _ hmem

end Interleaved

end SupportPlatform
