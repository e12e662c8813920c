import SupportPlatform.Api.Calls
import SupportPlatform.Core.Machine

/-!
# Reading once

Calls of `markRead` and `markAllRead`, one after the other. The bulk update looks for notifications
that have not been read; the single one writes the time of reading whatever the row says, and so
moves it when a notification is marked again.
-/

namespace SupportPlatform

namespace NotificationsService

lemma findOwn_eq_ok {userId id : Uuid} {db : Db} {n : Notification} :
    findOwn userId id db = .ok n ↔ db.notifications.find? id = some n ∧ n.userId = userId := by
  refine ⟨findOwn_ok, fun ⟨hfind, huser⟩ => ?_⟩
  have hsome : (db.notifications.rows.find? fun r => r.id = id ∧ r.userId = userId) = some n := by
    refine (Table.rows_find?_eq_some fun r hr => (of_decide_eq_true hr).1).mpr ⟨hfind, ?_⟩
    exact decide_eq_true ⟨(Table.find?_eq_some.mp hfind).2, huser⟩
  rw [findOwn, hsome]

lemma markRead_eq_ok {id : Uuid} {env : Env} {db db' : Db} {a : Notification} :
    markRead id env db = .ok (a, db') ↔
      env.fault .query = none ∧ ∃ n, db.notifications.find? id = some n ∧ a = read env.now n ∧
        db' = { db with
          notifications := db.notifications.modify id (read env.now) fun _ => rfl } := by
  rw [markRead, Transaction.bind_of_ok (Transaction.ask_apply env db)]
  exact (attempt_updateRow_eq_ok Db.notifications fun db notifications =>
    { db with notifications }).trans (by simp)

end NotificationsService

open NotificationsService

/-! ### The calls -/

/-- A call that marks notifications as read, with what the environment contributes to each of its
statements. -/
inductive ReadCall where
  | markRead (userId id : Uuid) (lookup update : Env)
  | markAllRead (userId : Uuid) (update : Env)

namespace ReadCall

/-- The database after the call. -/
def run (db : Db) : ReadCall → Db
  | .markRead userId id lookup update =>
    let (db', call) := (Call.notificationsMarkRead userId id).exec lookup db
    (call.exec update db').1
  | .markAllRead userId update => ((Call.notificationsMarkAllRead userId).exec update db).1

/-- One call after the other. -/
def step (db : Db) (call : ReadCall) : Option Db := some (call.run db)

/-- The notification is there and of the user. -/
def IsOwn (db : Db) (userId id : Uuid) : Prop :=
  (db.notifications.find? id).any (·.userId = userId)

instance (db : Db) (userId id : Uuid) : Decidable (IsOwn db userId id) :=
  inferInstanceAs (Decidable (_ = true))

/-- The time at which the call covers a notification, if it goes through and comes from the
owner. -/
def covers (id : Uuid) (db : Db) : ReadCall → Option Time
  | .markRead userId id' lookup update =>
    if id' = id ∧ IsOwn db userId id ∧ lookup.fault .query = none ∧ update.fault .query = none then
      some update.now
    else none
  | .markAllRead userId update =>
    if IsOwn db userId id ∧ update.fault .query = none then some update.now else none

/-- What a covering call makes of the notification. -/
def marks (t : Time) (n : Notification) : ReadCall → Notification
  | .markRead .. => read t n
  | .markAllRead .. => if n.isRead then n else read t n

/-- A covering `markRead` finds the notification unread, or read at the very time it writes. -/
def FindsUnread (id : Uuid) (db : Db) : ReadCall → Prop
  | call@(.markRead ..) =>
    ∀ t ∈ call.covers id db, ∀ n ∈ db.notifications.find? id, n.isRead → n.readAt = some t
  | .markAllRead .. => True

variable {db : Db} {userId id k : Uuid} {env : Env}

lemma find?_markReadWrite :
    ((Call.notificationsMarkReadWrite userId id).exec env db).1.notifications.find? k =
      if k = id ∧ env.fault .query = none then (db.notifications.find? k).map (read env.now)
      else db.notifications.find? k := by
  cases hok : NotificationsService.markRead id env db with
  | error e =>
    have hexec : ((Call.notificationsMarkReadWrite userId id).exec env db).1 = db := by
      simp [Call.exec, Call.write, Transaction.commit, hok]
    rw [hexec]
    split_ifs with hcond
    · obtain ⟨rfl, hfault⟩ := hcond
      cases hfind : db.notifications.find? k with
      | none => rfl
      | some n => cases hok.symm.trans (markRead_eq_ok.mpr ⟨hfault, n, hfind, rfl, rfl⟩)
    · rfl
  | ok p =>
    obtain ⟨a, db'⟩ := p
    obtain ⟨hfault, n, hfind, rfl, rfl⟩ := markRead_eq_ok.mp hok
    have hexec : ((Call.notificationsMarkReadWrite userId id).exec env db).1.notifications =
        db.notifications.modify id (read env.now) fun _ => rfl := by
      simp [Call.exec, Call.write, Transaction.commit, hok]
    rw [hexec]
    exact (Table.find?_modify _ _ _ _ _).trans (by simp [hfault])

lemma find?_markAllRead :
    ((Call.notificationsMarkAllRead userId).exec env db).1.notifications.find? k =
      (db.notifications.find? k).map fun n =>
        if (n.userId = userId ∧ !n.isRead) ∧ env.fault .query = none then read env.now n
        else n := by
  cases hfault : env.fault .query with
  | some e =>
    have hexec : ((Call.notificationsMarkAllRead userId).exec env db).1 = db := by
      simp [Call.exec, Call.write, Transaction.commit, NotificationsService.markAllRead,
        Transaction.bind_apply, attempt, hfault]
    simp [hexec]
  | none =>
    have hexec : ((Call.notificationsMarkAllRead userId).exec env db).1.notifications =
        db.notifications.modifyWhere (fun n => n.userId = userId ∧ !n.isRead) (read env.now)
          fun _ => rfl := by
      simp [Call.exec, Call.write, Transaction.commit, NotificationsService.markAllRead,
        Transaction.bind_apply, attempt, hfault]
    rw [hexec]
    exact (Table.find?_modifyWhere _ _ _ _ _).trans (by simp)

lemma run_markRead {lookup update : Env} :
    run db (.markRead userId id lookup update) =
      if IsOwn db userId id ∧ lookup.fault .query = none then
        ((Call.notificationsMarkReadWrite userId id).exec update db).1
      else db := by
  have hown : IsOwn db userId id ↔ ∃ n, findOwn userId id db = .ok n := by
    simp only [IsOwn, Option.any_eq_true, findOwn_eq_ok, decide_eq_true_eq]
  rw [run, Call.exec, Call.query]
  cases hfault : lookup.fault .query with
  | some e => simp [Call.exec]
  | none =>
    cases hfind : findOwn userId id db with
    | error e => simp [hown, hfind, Call.exec]
    | ok n => simp [hown, hfind]

/-- What a call makes of a notification. -/
lemma find?_run (call : ReadCall) :
    (call.run db).notifications.find? id = (db.notifications.find? id).map fun n =>
      (call.covers id db).elim n fun t => call.marks t n := by
  cases call with
  | markRead userId id' lookup update =>
    rw [run_markRead]
    by_cases hid : id' = id
    · subst hid
      by_cases hown : IsOwn db userId id' ∧ lookup.fault .query = none
      · rw [if_pos hown, find?_markReadWrite]
        by_cases hfault : update.fault .query = none <;> simp [covers, hown, hfault, marks]
      · have hcovers : covers id' db (.markRead userId id' lookup update) = none :=
          if_neg fun h => hown ⟨h.2.1, h.2.2.1⟩
        rw [if_neg hown, hcovers]
        simp
    · have hcovers : covers id db (.markRead userId id' lookup update) = none :=
        if_neg fun h => hid h.1
      rw [hcovers]
      split_ifs
      · rw [find?_markReadWrite, if_neg fun h => hid h.1.symm]
        simp
      · simp
  | markAllRead userId update =>
    rw [run, find?_markAllRead]
    cases hfind : db.notifications.find? id with
    | none => rfl
    | some n =>
      by_cases huser : n.userId = userId <;> by_cases hfault : update.fault .query = none <;>
        cases hread : n.isRead <;> simp [covers, IsOwn, hfind, huser, hfault, hread, marks]

/-! ### The first call -/

/-- The row of a notification that calls have covered at these times: it keeps the first one, unless
it had been read before. -/
def readAt (n : Notification) (times : List Time) : Notification :=
  if n.isRead then n else times.head?.elim n fun t => read t n

/-- The notification is read exactly if it has a time of reading, which is the time of the first of
the calls that covered it; apart from that its row is the one it had in the beginning. -/
def ReadOnce (id : Uuid) (db₀ db : Db) (times : List Time) : Prop :=
  (∀ n ∈ db.notifications.find? id, n.isRead ↔ n.readAt ≠ none) ∧
    db.notifications.find? id = (db₀.notifications.find? id).map fun n => readAt n times

/-- The times at which the calls of a run cover a notification. -/
def coverings (id : Uuid) (db : Db) (calls : List ReadCall) : List Time :=
  Machine.collect step (fun db call _ => (call.covers id db).toList) db calls

lemma readAt_append (n : Notification) (times : List Time) (t : Time) :
    readAt n (times ++ [t]) =
      if (readAt n times).isRead then readAt n times else read t (readAt n times) := by
  cases hread : n.isRead with
  | true => simp [readAt, hread]
  | false =>
    cases times with
    | nil => simp [readAt, hread]
    | cons t' times => simp [readAt, hread, NotificationsService.read]

/-- Another time of reading changes nothing exactly if it is the one there is. -/
lemma read_eq_self {n : Notification} {t : Time} (h : n.isRead) :
    read t n = n ↔ n.readAt = some t := by
  cases n
  simp_all [NotificationsService.read, eq_comm]

/-- The step lemma: the first time is kept exactly when no read notification is marked on its
own. -/
lemma readOnce_step {db₀ : Db} {times : List Time} (h : ReadOnce id db₀ db times)
    (call : ReadCall) :
    ReadOnce id db₀ (call.run db) (times ++ (call.covers id db).toList) ↔
      call.FindsUnread id db := by
  obtain ⟨hagree, hrow⟩ := h
  rw [ReadOnce, find?_run]
  cases hfind₀ : db₀.notifications.find? id with
  | none =>
    rw [hfind₀] at hrow
    cases call <;> simp [hrow, FindsUnread]
  | some n₀ =>
    rw [hfind₀, Option.map_some] at hrow
    have hagree := hagree _ hrow
    cases hcovers : call.covers id db with
    | none =>
      have hfinds : call.FindsUnread id db := by
        cases call <;> simp [FindsUnread, hcovers]
      simpa [hrow, hfinds] using hagree
    | some t =>
      simp only [hrow, Option.map_some, Option.elim_some, Option.toList_some, readAt_append,
        Option.mem_def, Option.some.injEq, forall_eq']
      generalize readAt n₀ times = n at hrow hagree
      cases call with
      | markRead =>
        have hread : (read t n).isRead ↔ (read t n).readAt ≠ none := by
          simp [NotificationsService.read]
        simp only [marks, FindsUnread, hcovers, hrow, Option.mem_def, Option.some.injEq, forall_eq',
          hread, true_and]
        split_ifs with hn
        · simp [read_eq_self hn, hn]
        · simp [hn]
      | markAllRead =>
        simp only [marks, FindsUnread, and_true, iff_true]
        split_ifs with hn
        · exact hagree
        · simp [NotificationsService.read]

lemma isSome_exec (db : Db) (calls : List ReadCall) :
    ∃ db', Machine.exec step db calls = some db' := by
  induction calls generalizing db with
  | nil => exact ⟨db, rfl⟩
  | cons call calls ih => exact ih (call.run db)

/-- All along a sequence of calls a notification is read exactly if it has a time of reading, and
this is the time of the first call of its owner that covered it, if and only if this holds in the
beginning and no `markRead` finds the notification read already. -/
theorem readOnce_iff (id : Uuid) (db : Db) (calls : List ReadCall) :
    (∀ fs db', fs <+: calls → Machine.exec step db fs = some db' →
      ReadOnce id db db' (coverings id db fs)) ↔
      (∀ n ∈ db.notifications.find? id, n.isRead ↔ n.readAt ≠ none) ∧
        Machine.Guarded step (fun db call => call.FindsUnread id db) db calls := by
  obtain ⟨last, hlast⟩ := isSome_exec db calls
  have key (h : ∀ n ∈ db.notifications.find? id, n.isRead ↔ n.readAt ≠ none) :=
    Machine.exec_collect_invariant_iff step (I := fun db' => ReadOnce id db db') (l := [])
      (J := fun _ => True) (f := fun db call _ => (call.covers id db).toList)
      (C := fun db call => call.FindsUnread id db) (fun _ _ _ _ _ => trivial)
      (fun s call t l _ hs ht => by cases ht; exact readOnce_step hs call) trivial
      ⟨h, by simp [readAt]⟩ hlast
  constructor
  · intro hall
    have h := (hall [] db List.nil_prefix rfl).1
    exact ⟨h, (key h).mp hall⟩
  · rintro ⟨h, hguarded⟩
    exact (key h).mpr hguarded

/-- A notification that is opened twice. -/
def openedTwice : List ReadCall :=
  [.markRead 13 1 (Seed.env 2) (Seed.env 3), .markRead 13 1 (Seed.env 4) (Seed.env 5)]

theorem not_readOnce_openedTwice :
    ¬ ∀ id db calls, (∀ n ∈ db.notifications.rows, n.isRead ↔ n.readAt ≠ none) →
      ∀ db', Machine.exec step db calls = some db' →
        ReadOnce id db db' (coverings id db calls) := by
  intro hall
  obtain ⟨-, hrow⟩ := hall 1 Seed.unreadDb openedTwice (by decide) _ rfl
  revert hrow
  decide

end ReadCall

end SupportPlatform
