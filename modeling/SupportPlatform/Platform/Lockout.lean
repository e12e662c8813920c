import SupportPlatform.Auth.Authentication
import SupportPlatform.Platform.Provenance

/-!
# After a deactivation

Deactivating a user does not call back what the guards have let through already: his requests in
progress go on to their ends. Nothing new of him gets in until he is activated again, so what can
still be recorded in his name is bounded by what these requests had in hand.
-/

namespace SupportPlatform

open Machine

/-- The user has been in the table, and if he still is, he is not active. -/
structure Db.LockedOut (u : Uuid) (db : Db) : Prop where
  known : u ∈ db.users.keys
  inactive : Authentication.Inactive u db

/-- How many events of the outbox name the user as the one who acted. -/
def Db.footprint (u : Uuid) (db : Db) : Nat := db.log.countP fun x => x.2.1.actorId? = some u

instance (u : Uuid) (db : Db) : Decidable (db.LockedOut u) :=
  decidable_of_iff (u ∈ db.users.keys ∧ Authentication.Inactive u db)
    ⟨fun h => ⟨h.1, h.2⟩, fun h => ⟨h.1, h.2⟩⟩

namespace Db.LockedOut

variable {u : Uuid} {db : Db}

lemma congr {db' : Db} (h : db.LockedOut u) (husers : db'.users = db.users) :
    db'.LockedOut u where
  known := husers ▸ h.known
  inactive x hx := h.inactive x (husers ▸ hx)

/-- A new user is somebody else. -/
lemma insert? {users : Table User} {x : User} (h : db.LockedOut u)
    (hinsert : db.users.insert? x = some users) : ({ db with users } : Db).LockedOut u where
  known := (Table.mem_keys_insert? hinsert).mpr (.inl h.known)
  inactive y hy hid := by
    rcases (Table.mem_insert? hinsert).mp hy with hy | rfl
    · exact h.inactive y hy hid
    · have hknown := h.known
      rw [← hid] at hknown
      exact absurd hknown (Table.insert?_eq_some.mp hinsert).1

/-- An update activates him only if it is one of his row that does. -/
lemma modify {id : Uuid} {f : User → User} {hf : ∀ x, Keyed.key (f x) = Keyed.key x}
    (h : db.LockedOut u) (hinactive : id = u → ∀ x, x.isActive = false → (f x).isActive = false) :
    ({ db with users := db.users.modify id f hf } : Db).LockedOut u where
  known := by
    simp only [Table.modify, Table.keys_modifyWhere]
    exact h.known
  inactive y hy hid := by
    obtain ⟨x, hx, rfl⟩ := List.mem_map.mp hy
    split_ifs at hid ⊢ with hkey
    · have hxid : x.id = id := of_decide_eq_true hkey
      have hxu : x.id = u := (hf x).symm.trans hid
      exact hinactive (hxid.symm.trans hxu) x (h.inactive x hx hxu)
    · exact h.inactive x hx hid

/-- Removing his organization removes him for good. -/
lemma drop (h : db.LockedOut u) (o : Uuid) : (db.dropOrganization o).LockedOut u where
  known := Table.mem_keys_removeWhere.mpr h.known
  inactive x hx := h.inactive x (List.mem_of_mem_filter hx)

end Db.LockedOut

namespace Call

variable {u : Uuid} {env : Env} {db db' : Db} {call call' : Call}

/-- An update that activates the user. -/
def activates (u : Uuid) : Call → Bool
  | .usersUpdateWrite _ id dto => id = u && dto.isActive = .value true
  | _ => false

/-- The most events a call can still record. -/
def budget : Call → Nat
  | .ticketsUpdate _ _ dto _ | .ticketsUpdateTransaction _ _ dto _ _ =>
    if dto.status = .value .closed then 2 else 1
  | .ticketsCreate .. | .ticketsAssign .. | .ticketsFindAssignee .. | .ticketsAssignTransaction ..
  | .commentsCreate .. | .commentsCreateTransaction .. => 1
  | _ => 0

/-- A write locks nobody in again but for the update that activates him. -/
lemma Writes.lockedOut (h : Writes env db call db') (hcall : call.activates u = false)
    (hdb : db.LockedOut u) : db'.LockedOut u := by
  cases h with
  | registerInsert hinsert | usersInsert hinsert => exact hdb.insert? hinsert
  | loginStamp => exact hdb.modify fun _ _ hx => hx
  | usersDeactivate => exact hdb.modify fun _ _ _ => rfl
  | organizationsRemove => exact hdb.drop _
  | @usersUpdate _ id dto =>
    refine hdb.modify fun hid x hx => ?_
    have hne : dto.isActive ≠ .value true := by simpa [activates, hid] using hcall
    have happly : (x.apply dto).isActive = dto.isActive.getD x.isActive := rfl
    rw [happly]
    cases hactive : dto.isActive with
    | value b =>
      cases b with
      | false => rfl
      | true => exact absurd hactive hne
    | _ => exact hx
  | _ => exact hdb.congr rfl

/-- What a call records, it had in hand. -/
lemma Writes.budget (h : Writes env db call db') :
    ∃ rows : List EventOutbox, db'.log = db.log ++ rows.map EventOutbox.content ∧
      rows.length ≤ call.budget := by
  cases h with
  | ticketsCreate _ ho | ticketsAssign _ ho | commentsCreate _ ho =>
    exact ⟨_, Db.log_of_append ho, le_rfl⟩
  | @ticketsUpdate _ _ dto _ existing _ _ _ ho =>
    refine ⟨_, Db.log_of_append ho, ?_⟩
    unfold TicketsService.updateRows
    split
    · next hclose =>
      have hstatus : dto.status = .value .closed := (of_decide_eq_true hclose).1
      simp [Call.budget, hstatus]
    · simp only [List.length_cons, List.length_nil, Call.budget]
      split <;> omega
  | _ => exact ⟨[], (List.append_nil _).symm, Nat.zero_le _⟩

lemma Checks.budget (h : Checks env db call call') : call'.budget = call.budget := by
  cases h <;> rfl

/-- A step of a call pays for what it records. -/
lemma Executes.footprint_le (h : Executes env db call db' call') :
    db'.footprint u + call'.budget ≤ db.footprint u + call.budget := by
  cases h with
  | failed => exact Nat.add_le_add_left (Nat.zero_le _) _
  | finished => exact le_rfl
  | checked h => rw [h.budget]
  | wrote h =>
    obtain ⟨rows, hlog, hrows⟩ := h.budget
    have hnew := List.countP_le_length (p := fun x : Uuid × Payload × Option String =>
      x.2.1.actorId? = some u) (l := rows.map EventOutbox.content)
    rw [List.length_map] at hnew
    rw [Db.footprint, hlog, List.countP_append, Db.footprint]
    exact Nat.add_le_add_left (hnew.trans hrows) _

end Call

/-- The request in progress is one of the user's. -/
def InFlight.isOf (u : Uuid) (c : InFlight) : Bool := c.user.map (·.id) = some u

/-- What is recorded for a request names the user who has made it. -/
lemma InFlight.Received.footprint_eq {u : Uuid} {w : World} {sub : Option Uuid}
    {correlationId : Option String} {request : Request} {c : InFlight} {env : Env} {db db' : Db}
    (h : c.Received w sub correlationId request) (hwrites : Call.Writes env db c.call db')
    (hother : c.isOf u = false) : db'.footprint u = db.footprint u := by
  cases h with
  | refused => cases hwrites
  | «public» hserves => rw [Db.footprint, hwrites.log_of_public hserves, Db.footprint]
  | @admitted _ user _ _ _ _ hserves =>
    obtain ⟨rows, hlog, hrows⟩ := hwrites.explained hserves
    have hne : user.id ≠ u := by simpa [isOf] using hother
    have hnone : (rows.map EventOutbox.content).countP (fun x => x.2.1.actorId? = some u) = 0 := by
      refine List.countP_eq_zero.mpr fun x hx => ?_
      obtain ⟨r, hr, rfl⟩ := List.mem_map.mp hx
      have hactor : r.payload.actorId? = some user.id := (hrows r hr).2.actorId
      simpa [EventOutbox.content, hactor] using hne
    rw [Db.footprint, hlog, List.countP_append, hnone, Nat.add_zero, Db.footprint]

namespace World

variable {cfg : Config} {w w' : World} {e : Event} {u : Uuid}

/-- What the user's requests in progress can still record. -/
def budget (u : Uuid) (w : World) : Nat :=
  (w.calls.map fun c => if c.isOf u then c.call.budget else 0).sum

/-- The condition on a step: it does not activate the user. -/
def KeepsOut (u : Uuid) (w : World) : Event → Prop
  | .proceed i env => ∀ c ∈ w.calls[i]?, (c.call.exec env w.db).2 = .done (.ok ()) →
      c.call.activates u = false
  | _ => True

instance (u : Uuid) (w : World) (e : Event) : Decidable (w.KeepsOut u e) :=
  match e with
  | .proceed i env =>
    inferInstanceAs (Decidable (∀ c ∈ w.calls[i]?, (c.call.exec env w.db).2 = .done (.ok ()) →
      c.call.activates u = false))
  | .arrive .. | .relay .. | .connect | .deliver .. | .consume .. | .redeliver .. | .crash .. =>
    .isTrue trivial

/-- The guards find no active user for the token of one who is locked out. -/
lemma isOf_receive (h : w.db.LockedOut u) (sub : Option Uuid) (correlationId : Option String)
    (request : Request) :
    InFlight.isOf u ⟨(Call.receive w.db sub correlationId request).1,
      (Call.receive w.db sub correlationId request).2⟩ = false := by
  have hguarded : (Call.guarded w.db sub correlationId request).1.map (·.id) ≠ some u := by
    unfold Call.guarded
    split
    · next user huser =>
      obtain ⟨id, -, hvalid⟩ := Option.map_eq_some_iff.mp huser
      obtain ⟨x, hx, hid, -, -, hactive⟩ := JwtStrategy.validate_ok hvalid
      have hne : user.id ≠ u := fun heq =>
        Bool.false_ne_true ((h.inactive x hx (hid.trans heq)).symm.trans hactive)
      split_ifs <;> simpa using hne
    · simp
  rw [InFlight.isOf, decide_eq_false_iff_not]
  cases request with
  | register | login => simp [Call.receive]
  | _ => exact hguarded

/-- A user who is locked out stays so unless the step activates him. -/
lemma lockedOut_step (h : step cfg w e = some w') (hkeeps : w.KeepsOut u e)
    (hw : w.db.LockedOut u) : w'.db.LockedOut u := by
  cases e with
  | proceed i env =>
    obtain ⟨c, hc, rfl⟩ := Option.map_eq_some_iff.mp h
    have hcall := hkeeps c hc
    cases hexec : c.call.exec env w.db with
    | mk db call =>
      rw [hexec] at hcall
      obtain ⟨user, call₀⟩ := c
      cases Call.exec_cases hexec with
      | wrote hwrites => exact hwrites.lockedOut (hcall rfl) hw
      | _ => exact hw
  | relay i action =>
    have hsteps := step_cases h
    clear h
    cases hsteps with
    | relay _ h =>
      rw [h.frame]
      exact hw.congr rfl
  | consume i action =>
    have hsteps := step_cases h
    clear h
    cases hsteps with
    | consume _ h | finish _ h =>
      rw [h.frame]
      exact hw.congr rfl
  | arrive | connect | deliver | redeliver | crash =>
    have hsteps := step_cases h
    clear h
    cases hsteps
    exact hw

/-- A call behind the first `n` is one of `w` again, or of a request that has just arrived. -/
lemma later_step {n : Nat} (h : step cfg w e = some w') (hlocked : w.db.LockedOut u)
    (hn : n ≤ w.calls.length) (hw : ∀ i c, n ≤ i → w.calls[i]? = some c → c.isOf u = false) :
    n ≤ w'.calls.length ∧ ∀ i c, n ≤ i → w'.calls[i]? = some c → c.isOf u = false := by
  cases step_cases h with
  | @arrive sub correlationId request =>
    refine ⟨by simp only [List.length_append]; omega, fun i c hi hc => ?_⟩
    rcases getElem?_concat_cases hc with hc | ⟨-, rfl⟩
    · exact hw i c hi hc
    · exact isOf_receive hlocked sub correlationId request
  | @proceed j env c₀ db call hc₀ _ =>
    refine ⟨by simpa using hn, fun i c hi hc => ?_⟩
    rcases getElem?_set_cases hc with ⟨rfl, rfl⟩ | ⟨-, hc⟩
    · exact hw i c₀ hi hc₀
    · exact hw i c hi hc
  | _ => exact ⟨hn, hw⟩

/-- What is recorded in the name of a user who is locked out, his requests in progress had in
hand. -/
lemma footprint_step {past : List (World × Event)}
    (hcalls : ∀ i c, w.calls[i]? = some c → Mediated past i c) (h : step cfg w e = some w')
    (hlocked : w.db.LockedOut u) :
    w'.db.footprint u + w'.budget u ≤ w.db.footprint u + w.budget u := by
  cases step_cases h with
  | @arrive sub correlationId request =>
    have hother := isOf_receive hlocked sub correlationId request
    simp only [budget, List.map_append, List.map_singleton, List.sum_append, List.sum_singleton,
      hother, Bool.false_eq_true, if_false, Nat.add_zero]
    exact le_rfl
  | @proceed i env c db call hc hexecutes =>
    obtain ⟨before, w₀, sub, correlationId, request, after, -, -, hreceived, -⟩ := hcalls i c hc
    have hset := sum_set_add (a := ({ c with call } : InFlight))
      (fun c : InFlight => if c.isOf u then c.call.budget else 0) hc
    have hsame : ({ c with call } : InFlight).isOf u = c.isOf u := rfl
    simp only [hsame] at hset
    simp only [budget]
    cases hof : c.isOf u with
    | true =>
      have hpaid := hexecutes.footprint_le (u := u)
      simp only [hof, if_true] at hset
      omega
    | false =>
      have hsame : db.footprint u = w.db.footprint u := by
        obtain ⟨user, call₀⟩ := c
        cases hexecutes with
        | wrote hwrites => exact hreceived.footprint_eq hwrites hof
        | _ => rfl
      simp only [hof, Bool.false_eq_true, if_false] at hset
      omega
  | relay _ hsteps => exact (congrArg (· + w.budget u) (by rw [Db.footprint, hsteps.log]; rfl)).le
  | consume _ hexecutes | finish _ hexecutes =>
    exact (congrArg (· + w.budget u) (by rw [Db.footprint, hexecutes.log]; rfl)).le
  | _ => exact le_rfl

/-- From a deactivation on, as long as no update activates the user again, no request of his is let
in, and his events do not come to more than the requests he had in progress could record. -/
theorem deactivation_final {organizations : Table Organization} {users : Table User} {n : Nat}
    {es fs : List Event} {w₀ : World}
    (h₀ : exec (step cfg) (initial organizations users n) es = some w₀)
    (hlocked : w₀.db.LockedOut u) (hkeeps : Guarded (step cfg) (KeepsOut u) w₀ fs)
    (h : exec (step cfg) w₀ fs = some w) :
    w.db.LockedOut u ∧
      (∀ i c, w₀.calls.length ≤ i → w.calls[i]? = some c → c.isOf u = false) ∧
      w.db.footprint u + w.budget u ≤ w₀.db.footprint u + w₀.budget u := by
  have key := exec_guarded_collect_invariant (step cfg) (f := fun w e _ => [(w, e)])
    (I := fun w past => (∀ i c, w.calls[i]? = some c → Mediated past i c) ∧ w.db.LockedOut u ∧
      (w₀.calls.length ≤ w.calls.length ∧
        ∀ i c, w₀.calls.length ≤ i → w.calls[i]? = some c → c.isOf u = false) ∧
      w.db.footprint u + w.budget u ≤ w₀.db.footprint u + w₀.budget u) ?_
    ⟨mediated_of_exec rfl h₀, hlocked, ⟨le_rfl, fun i c hi hc => ?_⟩, le_rfl⟩ hkeeps h
  · exact ⟨key.2.1, key.2.2.1.2, key.2.2.2⟩
  · rintro w e w' past ⟨hcalls, hw, ⟨hn, hlater⟩, hle⟩ hkeeps hstep
    exact ⟨mediated_step hcalls hstep, lockedOut_step hstep hkeeps hw,
      later_step hstep hw hn hlater, (footprint_step hcalls hstep hw).trans hle⟩
  · exact absurd (List.getElem?_eq_some_iff.mp hc).1 (Nat.not_lt.mpr hi)

/-- A customer is deactivated while his request for a ticket is in progress. -/
def lockoutRun : List Event :=
  [.arrive (some 13) none (.createTicket Seed.ticketDto),
    .arrive (some 11) none (.deactivateUser 13), .proceed 1 (Seed.env 1), .proceed 1 (Seed.env 2)]

/-- The ticket is created, and his next request is refused. -/
def afterLockout : List Event :=
  [.proceed 0 (Seed.env 3), .arrive (some 13) none (.createTicket Seed.ticketDto)]

theorem deactivation_final_afterLockout :
    ∃ w₀ w, exec (step .default) (initial Seed.organizations Seed.users 0) lockoutRun = some w₀ ∧
      exec (step .default) w₀ afterLockout = some w ∧ w.db.footprint 13 = 1 ∧
      w.db.LockedOut 13 ∧
      (∀ i c, w₀.calls.length ≤ i → w.calls[i]? = some c → c.isOf 13 = false) ∧
      w.db.footprint 13 + w.budget 13 ≤ w₀.db.footprint 13 + w₀.budget 13 := by
  have hrun : (exec (step .default) (initial Seed.organizations Seed.users 0)
      lockoutRun).any fun w₀ => w₀.db.LockedOut 13 ∧
        Guarded (step .default) (KeepsOut 13) w₀ afterLockout ∧
        (exec (step .default) w₀ afterLockout).any fun w => w.db.footprint 13 = 1 := by decide
  obtain ⟨w₀, hw₀, hlocked, hkeeps, hafter⟩ := exists_of_any hrun
  obtain ⟨w, hw, hone⟩ := exists_of_any hafter
  exact ⟨w₀, w, hw₀, hw, hone, deactivation_final hw₀ hlocked hkeeps hw⟩

end World

end SupportPlatform
