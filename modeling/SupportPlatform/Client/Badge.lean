import Mathlib.Data.List.Sort
import Mathlib.Logic.Function.Conjugate
import SupportPlatform.Notifications.ReadOnce
import SupportPlatform.Services.Reads

/-!
# The badge of unread notifications

The toolbar of `MainLayoutComponent` over the `NotificationsService` of the client, with the
requests they have sent and the answers on their way. The client keeps a count of its own: a
refresh sets it, and the answer to a mark takes from it whatever the mark has done on the server.
-/

namespace SupportPlatform

/-- A request of the toolbar as far as the server has come with it. `markRead` has two statements:
once the first has found the notification, the update is left. -/
inductive MenuRequest where
  | unreadCount
  | list
  | markRead (id : Uuid)
  | markReadWrite (id : Uuid)
  | markAllRead
deriving DecidableEq, Repr

/-- A successful answer on its way to the client, with what the client reads of it. -/
inductive MenuAnswer where
  | unreadCount (unread : Nat)
  | list (items : List Notification)
  | markRead
  | markAllRead
deriving DecidableEq, Repr

/-- The toolbar, its requests and answers in the order in which they were sent, and the database.
`refreshed` is history: the answer of a `refreshUnreadCount` has arrived. -/
structure Menu where
  db : Db
  unreadCount : Nat
  notifications : List Notification
  requests : List MenuRequest
  answers : List MenuAnswer
  refreshed : Bool

/-- What the user and the component do, and the steps of the server and of the network. -/
inductive MenuEvent where
  | refreshUnreadCount
  | loadNotifications
  | openNotification (i : Nat)
  | markAllRead
  | handle (i : Nat) (env : Env)
  | answered (i : Nat)

namespace NotificationsService

/-- Newest first. -/
def Newer (env : Env) (a b : Notification) : Prop :=
  b.createdAt < a.createdAt ∨ a.createdAt = b.createdAt ∧ env.rank a.id ≤ env.rank b.id

instance (env : Env) : DecidableRel (Newer env) :=
  fun a b => inferInstanceAs (Decidable (b.createdAt < a.createdAt ∨
    a.createdAt = b.createdAt ∧ env.rank a.id ≤ env.rank b.id))

/-- The items of the first page of `findForUser`. -/
def firstPage (env : Env) (userId : Uuid) (limit : Nat) (db : Db) : List Notification :=
  ((db.notifications.rows.filter (·.userId = userId)).insertionSort (Newer env)).take limit

end NotificationsService

namespace MenuRequest

/-- The next statement of a request that succeeds: it leaves another one, or the answer. -/
def serve (userId : Uuid) (env : Env) (db : Db) :
    MenuRequest → Option (Db × (MenuRequest ⊕ MenuAnswer))
  | unreadCount =>
    if env.fault .query = none then
      some (db, .inr (.unreadCount (NotificationsService.countUnread userId db)))
    else none
  | list =>
    if env.fault .query = none then
      some (db, .inr (.list (NotificationsService.firstPage env userId 6 db)))
    else none
  | markRead id =>
    match (Call.notificationsMarkRead userId id).exec env db with
    | (db', .notificationsMarkReadWrite _ id) => some (db', .inl (.markReadWrite id))
    | _ => none
  | markReadWrite id =>
    match (Call.notificationsMarkReadWrite userId id).exec env db with
    | (db', .done (.ok _)) => some (db', .inr .markRead)
    | _ => none
  | markAllRead =>
    match (Call.notificationsMarkAllRead userId).exec env db with
    | (db', .done (.ok _)) => some (db', .inr .markAllRead)
    | _ => none

end MenuRequest

namespace MenuAnswer

/-- What the answer makes of the count: the callbacks of `tap`. -/
def count : MenuAnswer → Nat → Nat
  | unreadCount unread, _ => unread
  | list _, c => c
  | markRead, c => if c > 0 then c - 1 else 0
  | markAllRead, _ => 0

@[simp] lemma count_unreadCount (unread c : Nat) : (unreadCount unread).count c = unread := rfl
@[simp] lemma count_list (items : List Notification) (c : Nat) : (list items).count c = c := rfl
@[simp] lemma count_markAllRead (c : Nat) : markAllRead.count c = 0 := rfl

@[simp] lemma count_markRead (c : Nat) : markRead.count c = c - 1 := by
  change (if c > 0 then c - 1 else 0) = c - 1
  split <;> omega

/-- What the answer makes of the displayed list. -/
def display : MenuAnswer → List Notification → List Notification
  | list items, _ => items
  | markAllRead, notifications => notifications.map fun n => { n with isRead := true }
  | _, notifications => notifications

/-- The answer to `refreshUnreadCount`. -/
def isRefresh : MenuAnswer → Bool
  | unreadCount _ => true
  | _ => false

end MenuAnswer

namespace Menu

/-- The page has just been loaded. -/
def initial (db : Db) : Menu := ⟨db, 0, [], [], [], false⟩

def send (s : Menu) (request : MenuRequest) : Menu :=
  { s with requests := s.requests ++ [request] }

/-- One step; `none` when the event is not enabled. -/
def step (userId : Uuid) (s : Menu) : MenuEvent → Option Menu
  | .refreshUnreadCount => some (s.send .unreadCount)
  | .loadNotifications => some (s.send .list)
  | .openNotification i =>
    s.notifications[i]?.map fun n => if n.isRead then s else s.send (.markRead n.id)
  | .markAllRead => some (s.send .markAllRead)
  | .handle i env =>
    s.requests[i]?.bind fun request =>
      (request.serve userId env s.db).map fun
        | (db, .inl next) => { s with db, requests := s.requests.set i next }
        | (db, .inr answer) =>
          { s with db, requests := s.requests.eraseIdx i, answers := s.answers ++ [answer] }
  | .answered i =>
    s.answers[i]?.map fun answer =>
      { s with
        unreadCount := answer.count s.unreadCount
        notifications := answer.display s.notifications
        answers := s.answers.eraseIdx i
        refreshed := s.refreshed || answer.isRefresh }

/-- Nothing is outstanding, and the count has been refreshed. -/
def Settled (s : Menu) : Prop := s.requests = [] ∧ s.answers = [] ∧ s.refreshed

/-- The badge shows what the server counts. -/
def InStep (userId : Uuid) (s : Menu) : Prop :=
  s.unreadCount = NotificationsService.countUnread userId s.db

end Menu

/-! ### What the server counts -/

namespace NotificationsService

variable {userId id : Uuid} {db : Db} {now : Time}

lemma countUnread_eq : countUnread userId db =
    db.notifications.rows.countP fun n => n.userId = userId && !n.isRead :=
  card_filter _ db

/-- A notification that is read for the first time is one less to be read. -/
lemma countUnread_markRead (now : Time) {n : Notification} (hn : db.notifications.find? id = some n)
    (huser : n.userId = userId) :
    countUnread userId { db with
      notifications := db.notifications.modify id (read now) fun _ => rfl } + (!n.isRead).toNat =
        countUnread userId db := by
  obtain ⟨hmem, rfl⟩ := Table.find?_eq_some.mp hn
  rw [countUnread_eq, countUnread_eq]
  simpa [huser, NotificationsService.read] using Table.countP_modify hmem
    (fun n => n.userId = userId && !n.isRead) (read now) fun _ => rfl

/-- After a bulk update nothing is left to be read. -/
lemma countUnread_markAllRead :
    countUnread userId { db with
      notifications := db.notifications.modifyWhere (fun n => n.userId = userId ∧ !n.isRead)
        (read now) fun _ => rfl } = 0 := by
  rw [countUnread_eq, List.countP_eq_zero]
  intro r hr
  obtain ⟨n, -, rfl⟩ := List.mem_map.mp hr
  split_ifs with hn <;> simp_all [NotificationsService.read]

end NotificationsService

namespace MenuRequest

variable {userId : Uuid} {env : Env} {db db' : Db}

/-- What a statement of a request does to the database, and what it leaves. -/
inductive Serves (userId : Uuid) (db : Db) : MenuRequest → Db → MenuRequest ⊕ MenuAnswer → Prop
  | unreadCount :
    Serves userId db .unreadCount db
      (.inr (.unreadCount (NotificationsService.countUnread userId db)))
  | list {items} : Serves userId db .list db (.inr (.list items))
  | markRead {id} (hown : ReadCall.IsOwn db userId id) :
    Serves userId db (.markRead id) db (.inl (.markReadWrite id))
  | markReadWrite {id now} :
    Serves userId db (.markReadWrite id)
      { db with
        notifications := db.notifications.modify id (NotificationsService.read now) fun _ => rfl }
      (.inr .markRead)
  | markAllRead {now} :
    Serves userId db .markAllRead
      { db with
        notifications := db.notifications.modifyWhere (fun n => n.userId = userId ∧ !n.isRead)
          (NotificationsService.read now) fun _ => rfl }
      (.inr .markAllRead)

lemma serve_cases {request : MenuRequest} {next : MenuRequest ⊕ MenuAnswer}
    (h : request.serve userId env db = some (db', next)) : Serves userId db request db' next := by
  cases request with
  | unreadCount =>
    rw [serve] at h
    split_ifs at h
    cases h
    exact .unreadCount
  | list =>
    rw [serve] at h
    split_ifs at h
    cases h
    exact .list
  | markRead id =>
    rw [serve] at h
    split at h
    next hlookup =>
      cases h
      obtain ⟨rfl, ⟨e, he⟩ | ⟨n, hn, hnext⟩⟩ := Call.query_cases hlookup
      · cases he
      · cases hnext
        obtain ⟨hfind, huser⟩ := NotificationsService.findOwn_ok hn
        exact .markRead ((Option.any_eq_true _ _).mpr ⟨n, hfind, decide_eq_true huser⟩)
    · cases h
  | markReadWrite id =>
    rw [serve] at h
    split at h
    next hupdate =>
      cases h
      obtain ⟨-, e, he⟩ | ⟨-, a, ha⟩ := Call.write_cases hupdate
      · cases he
      · rw [NotificationsService.markRead_ok ha]
        exact .markReadWrite
    · cases h
  | markAllRead =>
    rw [serve] at h
    split at h
    next hupdate =>
      cases h
      obtain ⟨-, e, he⟩ | ⟨-, a, ha⟩ := Call.write_cases hupdate
      · cases he
      · rw [NotificationsService.markAllRead_ok ha]
        exact .markAllRead
    · cases h

/-- Marking leaves the user his notifications. -/
lemma isOwn_mark {id : Uuid} (hown : ReadCall.IsOwn db userId id) (p : Notification → Bool)
    (now : Time) :
    ReadCall.IsOwn
      { db with
        notifications := db.notifications.modifyWhere p (NotificationsService.read now)
          fun _ => rfl } userId id := by
  obtain ⟨n, hn, huser⟩ := (Option.any_eq_true _ _).mp hown
  have hfind := Table.find?_modifyWhere db.notifications p (NotificationsService.read now)
    (fun _ => rfl) id
  rw [hn] at hfind
  refine (Option.any_eq_true _ _).mpr ⟨_, hfind, ?_⟩
  dsimp only
  split_ifs <;> exact huser

lemma Serves.isOwn {request : MenuRequest} {next : MenuRequest ⊕ MenuAnswer} {id : Uuid}
    (h : Serves userId db request db' next) (hown : ReadCall.IsOwn db userId id) :
    ReadCall.IsOwn db' userId id := by
  cases h with
  | unreadCount | list | markRead => exact hown
  | markReadWrite | markAllRead => exact isOwn_mark hown _ _

end MenuRequest

/-! ### Answers that may change places -/

namespace MenuAnswer

/-- Two answers leave the same count in either order. -/
def swaps : MenuAnswer → MenuAnswer → Bool
  | unreadCount m, unreadCount n => m = n
  | unreadCount n, markRead | unreadCount n, markAllRead => n = 0
  | markRead, unreadCount n | markAllRead, unreadCount n => n = 0
  | _, _ => true

lemma swaps_iff (a b : MenuAnswer) : a.swaps b ↔ Function.Commute a.count b.count := by
  constructor
  · intro h c
    cases a <;> cases b <;> simp_all [swaps]
  · intro h
    have hzero := h 0
    cases a <;> cases b <;> simp [swaps] at hzero ⊢ <;> omega

lemma foldl_count_of_swaps {a : MenuAnswer} {l : List MenuAnswer} (h : ∀ b ∈ l, a.swaps b)
    (c : Nat) :
    l.foldl (fun c b => b.count c) (a.count c) = a.count (l.foldl (fun c b => b.count c) c) := by
  induction l generalizing c with
  | nil => rfl
  | cons b l ih =>
    have hab := (swaps_iff a b).mp (h b List.mem_cons_self) c
    rw [List.foldl_cons, List.foldl_cons, ← hab]
    exact ih (fun b' hb' => h b' (List.mem_cons_of_mem b hb')) _

end MenuAnswer

/-! ### Runs -/

namespace Menu

open Machine

variable {userId : Uuid} {s t : Menu} {e : MenuEvent}

/-- A refresh has been handled: its answer has arrived or is on its way. -/
def Counted (s : Menu) : Prop := s.refreshed ∨ ∃ a ∈ s.answers, a.isRefresh

instance (s : Menu) : Decidable s.Counted := inferInstanceAs (Decidable (_ ∨ _))

/-- The count when the answers on their way will have arrived in their order. -/
def expected (s : Menu) : Nat := s.answers.foldl (fun c a => a.count c) s.unreadCount

/-- The condition on a step. Once a refresh has been handled, the update of a `markRead` meets its
notification unread, or the user has none left that is; and an answer overtakes only such as it may
change places with. -/
def KeepsCount (userId : Uuid) (s : Menu) : MenuEvent → Prop
  | .handle i _ =>
    match s.requests[i]? with
    | some (.markReadWrite id) =>
      s.Counted → (∀ n ∈ s.db.notifications.find? id, n.isRead = false) ∨
        NotificationsService.countUnread userId s.db = 0
    | _ => True
  | .answered i => ∀ a ∈ s.answers[i]?, ∀ b ∈ s.answers.take i, a.swaps b
  | _ => True

instance (s : Menu) (e : MenuEvent) : Decidable (s.KeepsCount userId e) := by
  unfold KeepsCount
  split
  · split <;> infer_instance
  · infer_instance
  · infer_instance

/-- What the client expects is what the server counts. -/
def Agrees (userId : Uuid) (s : Menu) : Prop :=
  s.Counted → s.expected = NotificationsService.countUnread userId s.db

/-- The updates that are left are of notifications of the user. -/
def Pending (userId : Uuid) (s : Menu) : Prop :=
  ∀ id, .markReadWrite id ∈ s.requests → ReadCall.IsOwn s.db userId id

lemma agrees_answer {request : MenuRequest} {db : Db} {answer : MenuAnswer} {i : Nat} {env : Env}
    (hs : s.Agrees userId) (hpending : s.Pending userId) (hrequest : s.requests[i]? = some request)
    (hserves : request.Serves userId s.db db (.inr answer))
    (hkeeps : s.KeepsCount userId (.handle i env)) (requests : List MenuRequest) :
    Agrees userId { s with db, requests, answers := s.answers ++ [answer] } := by
  intro hcounted
  have hexpected : ({ s with db, requests, answers := s.answers ++ [answer] } : Menu).expected =
      answer.count s.expected := by
    simp [expected]
  rw [hexpected]
  -- unless it is a refresh that is handled, one has been handled before
  have hbefore (hrefresh : answer.isRefresh = false) : s.Counted := by
    rcases hcounted with h | ⟨a, ha, hisRefresh⟩
    · exact .inl h
    · rcases List.mem_append.mp ha with ha | ha
      · exact .inr ⟨a, ha, hisRefresh⟩
      · obtain rfl := List.mem_singleton.mp ha
        cases hrefresh.symm.trans hisRefresh
  cases hserves with
  | unreadCount => rfl
  | list => exact hs (hbefore rfl)
  | markAllRead => exact NotificationsService.countUnread_markAllRead.symm
  | @markReadWrite id now =>
    have hagree := hs (hbefore rfl)
    have hown := hpending id (List.mem_of_getElem? hrequest)
    obtain ⟨n, hn, huser⟩ := (Option.any_eq_true _ _).mp hown
    simp only [KeepsCount, hrequest] at hkeeps
    rw [MenuAnswer.count_markRead, hagree]
    dsimp only
    have hcount := NotificationsService.countUnread_markRead now hn (of_decide_eq_true huser)
    rcases hkeeps (hbefore rfl) with hunread | hzero
    · rw [hunread _ hn, Bool.not_false, Bool.toNat_true] at hcount
      omega
    · omega

lemma agrees_answered {i : Nat} {answer : MenuAnswer} (hs : s.Agrees userId)
    (hanswer : s.answers[i]? = some answer) (hswaps : ∀ b ∈ s.answers.take i, answer.swaps b)
    (notifications : List Notification) :
    Agrees userId { s with
      unreadCount := answer.count s.unreadCount
      notifications
      answers := s.answers.eraseIdx i
      refreshed := s.refreshed || answer.isRefresh } := by
  intro hcounted
  obtain ⟨hi, rfl⟩ := List.getElem?_eq_some_iff.mp hanswer
  have hsplit : s.answers = s.answers.take i ++ s.answers[i] :: s.answers.drop (i + 1) := by
    rw [← List.drop_eq_getElem_cons hi, List.take_append_drop]
  have hbefore : s.Counted := by
    rcases hcounted with h | ⟨a, ha, hisRefresh⟩
    · rcases (Bool.or_eq_true _ _).mp h with h | h
      · exact .inl h
      · exact .inr ⟨_, List.getElem_mem hi, h⟩
    · exact .inr ⟨a, List.mem_of_mem_eraseIdx ha, hisRefresh⟩
  rw [← hs hbefore, expected, expected, List.eraseIdx_eq_take_drop_succ, List.foldl_append,
    MenuAnswer.foldl_count_of_swaps hswaps]
  conv_rhs => rw [hsplit, List.foldl_append, List.foldl_cons]

lemma pending_step (h : step userId s e = some t) (hs : s.Pending userId) : t.Pending userId := by
  cases e with
  | handle i env =>
    obtain ⟨request, hrequest, h⟩ := Option.bind_eq_some_iff.mp h
    obtain ⟨⟨db, next⟩, hserve, rfl⟩ := Option.map_eq_some_iff.mp h
    have hserves := MenuRequest.serve_cases hserve
    cases next with
    | inr answer => exact fun id hid => hserves.isOwn (hs id (List.mem_of_mem_eraseIdx hid))
    | inl next =>
      intro id hid
      rcases List.mem_or_eq_of_mem_set hid with hmem | heq
      · exact hserves.isOwn (hs id hmem)
      · cases hserves with
        | markRead hown =>
          obtain rfl := MenuRequest.markReadWrite.inj heq
          exact hown
  | answered i =>
    obtain ⟨answer, -, rfl⟩ := Option.map_eq_some_iff.mp h
    exact hs
  | openNotification i =>
    obtain ⟨n, -, rfl⟩ := Option.map_eq_some_iff.mp h
    split_ifs
    · exact hs
    · exact fun id hid => hs id (by simpa [send] using hid)
  | refreshUnreadCount | loadNotifications | markAllRead =>
    cases h
    exact fun id hid => hs id (by simpa [send] using hid)

/-- The step lemma. -/
lemma agrees_step (h : step userId s e = some t) (hkeeps : s.KeepsCount userId e)
    (hpending : s.Pending userId) (hs : s.Agrees userId) : t.Agrees userId := by
  cases e with
  | handle i env =>
    obtain ⟨request, hrequest, h⟩ := Option.bind_eq_some_iff.mp h
    obtain ⟨⟨db, next⟩, hserve, rfl⟩ := Option.map_eq_some_iff.mp h
    have hserves := MenuRequest.serve_cases hserve
    cases next with
    | inr answer => exact agrees_answer hs hpending hrequest hserves hkeeps _
    | inl next =>
      cases hserves
      exact hs
  | answered i =>
    obtain ⟨answer, hanswer, rfl⟩ := Option.map_eq_some_iff.mp h
    exact agrees_answered hs hanswer (hkeeps answer hanswer) _
  | openNotification i =>
    obtain ⟨n, -, rfl⟩ := Option.map_eq_some_iff.mp h
    split_ifs <;> exact hs
  | refreshUnreadCount | loadNotifications | markAllRead =>
    cases h
    exact hs

/-- In every run whose steps meet the condition the badge shows what the server counts, whenever
nothing is outstanding after a first refresh. -/
theorem badge_in_step (userId : Uuid) {db : Db} {es : List MenuEvent}
    (h : exec (step userId) (initial db) es = some s)
    (hkeeps : Guarded (step userId) (KeepsCount userId) (initial db) es) (hsettled : s.Settled) :
    s.InStep userId := by
  have hstart : (initial db).Agrees userId := by
    rintro (h | ⟨_, ha, -⟩) <;> contradiction
  have hagrees : s.Pending userId ∧ s.Agrees userId := exec_guarded_invariant (step userId)
    (I := fun s => s.Pending userId ∧ s.Agrees userId)
    (fun _ _ _ hs hkeeps hstep =>
      ⟨pending_step hstep hs.1, agrees_step hstep hkeeps hs.1 hs.2⟩)
    ⟨fun _ hid => absurd hid List.not_mem_nil, hstart⟩ hkeeps h
  obtain ⟨-, hanswers, hrefreshed⟩ := hsettled
  have hexpected := hagrees.2 (.inl hrefreshed)
  rwa [expected, hanswers] at hexpected

/-- Two notifications that have not been read. -/
def twoUnread : Db :=
  { Db.empty with
    notifications := ⟨[
      ⟨1, 13, .ticketAssigned, "Ticket assigned to you", "", some 140, false, none, 1⟩,
      ⟨2, 13, .commentAdded, "New comment", "", some 140, false, none, 2⟩], [], by decide⟩ }

/-- The page is loaded, the user opens the menu and then the newer of the notifications. -/
def openedRun : List MenuEvent :=
  [.refreshUnreadCount, .handle 0 (Seed.env 1), .answered 0, .loadNotifications,
    .handle 0 (Seed.env 2), .answered 0, .openNotification 0, .handle 0 (Seed.env 3),
    .handle 0 (Seed.env 4), .answered 0]

/-- He opens it again, in the list as it is displayed. -/
def openedAgainRun : List MenuEvent :=
  openedRun ++ [.openNotification 0, .handle 0 (Seed.env 5), .handle 0 (Seed.env 6), .answered 0]

theorem badge_in_step_opened :
    ∃ s, exec (step 13) (initial twoUnread) openedRun = some s ∧ s.unreadCount = 1 ∧
      s.InStep 13 := by
  have hrun : (exec (step 13) (initial twoUnread) openedRun).any fun s =>
      s.unreadCount = 1 ∧ s.requests = [] ∧ s.answers = [] ∧ s.refreshed := by decide
  obtain ⟨s, hs, hcount, hsettled⟩ := exists_of_any hrun
  exact ⟨s, hs, hcount, badge_in_step 13 hs (by decide) hsettled⟩

/-- The badge shows none, and one has not been read. -/
theorem not_inStep_openedAgain :
    ¬ ∀ userId db es s, exec (step userId) (initial db) es = some s → s.Settled →
      s.InStep userId := by
  intro hall
  have hrun : (exec (step 13) (initial twoUnread) openedAgainRun).any fun s =>
      (s.requests = [] ∧ s.answers = [] ∧ s.refreshed) ∧ s.unreadCount = 0 ∧
        NotificationsService.countUnread 13 s.db = 1 := by decide
  obtain ⟨s, hs, hsettled, hcount, hunread⟩ := exists_of_any hrun
  have hinstep := hall 13 twoUnread openedAgainRun s hs hsettled
  rw [InStep, hcount, hunread] at hinstep
  cases hinstep

end Menu

end SupportPlatform
