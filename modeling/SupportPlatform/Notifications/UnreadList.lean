import SupportPlatform.Core.JsNumber
import SupportPlatform.Platform.NonInterference

/-!
# The unread list

`GET /notifications?isRead=…` from the query string to the page. The pipe converts a property that
is declared `boolean` before the callback of its `@Transform` gets to see the text, and every text
but the empty one converts to `true`. So both filters list the notifications that have been read.
-/

namespace SupportPlatform

/-- What a request for the list can be answered with instead of a page. -/
inductive QueryFailure where
  | badRequest (message : String)
  | prisma (e : PrismaError)
deriving DecidableEq, Repr

namespace NotificationQueryDto

/-- `enableImplicitConversion` of a property declared `boolean`. -/
def implicitConversion : Option JsValue → Option JsValue
  | none => none
  | some .null => some .null
  | some value => some (.boolean value.toBoolean)

/-- The callback of the `@Transform` of `isRead`. -/
def transform (value : Option JsValue) : Option JsValue :=
  if value = some (.string "true") then some (.boolean true)
  else if value = some (.string "false") then some (.boolean false)
  else value

/-- `@IsOptional` and `@IsBoolean`. -/
def validate : Option JsValue → Except QueryFailure (Field Bool)
  | none => .ok .undefined
  | some .null => .ok .null
  | some (.boolean b) => .ok (.value b)
  | some _ => .error (.badRequest "isRead must be a boolean value")

/-- The query behind the validation pipe, for a page and a limit that are valid. -/
def ofRequest (pagination : PaginationQueryDto) (isRead : Option JsValue) :
    Except QueryFailure NotificationQueryDto :=
  (validate (transform (implicitConversion isRead))).map fun isRead => ⟨pagination, isRead⟩

/-- The callback finds nothing left to do. -/
lemma transform_implicitConversion (value : Option JsValue) :
    transform (implicitConversion value) = implicitConversion value := by
  match value with
  | none | some .null => rfl
  | some (.boolean _) | some (.number _) | some (.string _) | some (.object _) =>
    simp [transform, implicitConversion]

/-- Any text filters for the notifications that have been read. -/
lemma ofRequest_string (pagination : PaginationQueryDto) {text : String} (h : text ≠ "") :
    ofRequest pagination (some (.string text)) = .ok ⟨pagination, .value true⟩ := by
  rw [ofRequest, transform_implicitConversion]
  simp [implicitConversion, JsValue.toBoolean, validate, h, Except.map]

end NotificationQueryDto

/-- `GET /notifications`. -/
def NotificationsController.findAll (pg : Postgres) (userId : Uuid)
    (pagination : PaginationQueryDto) (isRead : Option JsValue) (db : Db) :
    Except QueryFailure (PaginatedResult Notification) := do
  let query ← NotificationQueryDto.ofRequest pagination isRead
  (NotificationsService.findForUser pg userId query db).mapError .prisma

namespace NotificationsService

variable {pg : Postgres} {userId : Uuid} {pagination : PaginationQueryDto} {db : Db}

/-- The number of notifications of a user that have been read. -/
def countRead (userId : Uuid) (db : Db) : Nat :=
  (db.notifications.rows.filter fun n => n.userId = userId && n.isRead).toFinset.card

/-- The filtered lists agree with the counter: `isRead=false` lists unread notifications only, and
as many in all as the counter says; `isRead=true` lists only such that have been read; and the two
totals add up to the total of the list without a filter. -/
def ListsAgree (pg : Postgres) (userId : Uuid) (pagination : PaginationQueryDto) (db : Db) : Prop :=
  ∃ unread read all,
    NotificationsController.findAll pg userId pagination (some (.string "false")) db =
        .ok unread ∧
      NotificationsController.findAll pg userId pagination (some (.string "true")) db = .ok read ∧
      NotificationsController.findAll pg userId pagination none db = .ok all ∧
      (∀ n ∈ unread.items, n.isRead = false) ∧
      unread.meta.total = countUnread userId db ∧
      (∀ n ∈ read.items, n.isRead = true) ∧
      unread.meta.total + read.meta.total = all.meta.total

/-- The page of the notifications that have been read. -/
def readPage (pg : Postgres) (userId : Uuid) (pagination : PaginationQueryDto) (db : Db) :
    PaginatedResult Notification :=
  pg.list db.notifications.rows («where» userId ⟨pagination, .value true⟩) .newest pagination

lemma findAll_string (pg : Postgres) (userId : Uuid) (pagination : PaginationQueryDto) (db : Db)
    {text : String} (h : text ≠ "") :
    NotificationsController.findAll pg userId pagination (some (.string text)) db =
      .ok (readPage pg userId pagination db) := by
  rw [NotificationsController.findAll, NotificationQueryDto.ofRequest_string pagination h]
  rfl

lemma where_read (n : Notification) :
    «where» userId ⟨pagination, .value true⟩ n = (n.userId = userId && n.isRead) := by
  cases hread : n.isRead <;> simp [«where», Field.value?, hread]

lemma total_readPage : (readPage pg userId pagination db).meta.total = countRead userId db := by
  have hwhere : «where» userId ⟨pagination, .value true⟩ =
      fun n => n.userId = userId && n.isRead := funext where_read
  rw [readPage, hwhere]
  rfl

lemma isRead_of_mem_readPage {n : Notification}
    (h : n ∈ (readPage pg userId pagination db).items) : n.isRead = true := by
  have hn := (Postgres.mem_items_list h).2
  rw [where_read, Bool.and_eq_true] at hn
  exact hn.2

/-- The page is empty exactly if it begins behind the last of the notifications. -/
lemma items_readPage_eq_nil : (readPage pg userId pagination db).items = [] ↔
    countRead userId db ≤ (pagination.page - 1) * pagination.limit := by
  have hlength : (readPage pg userId pagination db).items.length = min pagination.limit
      ((readPage pg userId pagination db).meta.total -
        (pagination.page - 1) * pagination.limit) := pg.length_page _ _ _
  rw [← List.length_eq_zero_iff, hlength, total_readPage]
  have := pagination.limit_pos
  omega

/-- Each notification of a user has been read or not. -/
lemma total_all : (pg.list db.notifications.rows («where» userId ⟨pagination, .undefined⟩) .newest
    pagination).meta.total = countRead userId db + countUnread userId db := by
  refine (card_filter _ db).trans ?_
  rw [countRead, countUnread, card_filter, card_filter]
  induction db.notifications.rows with
  | nil => rfl
  | cons n rows ih =>
    rw [List.countP_cons, List.countP_cons, List.countP_cons, ih]
    by_cases huser : n.userId = userId <;> cases hread : n.isRead <;>
      simp [«where», Field.value?, huser, hread] <;> omega

/-- The filtered lists agree with the counter if and only if as many of the user's notifications
have been read as not, and the page begins behind that many rows. -/
theorem listsAgree_iff (pg : Postgres) (userId : Uuid) (pagination : PaginationQueryDto) (db : Db) :
    ListsAgree pg userId pagination db ↔
      countRead userId db = countUnread userId db ∧
        countRead userId db ≤ (pagination.page - 1) * pagination.limit := by
  have hunread := findAll_string pg userId pagination db (by decide : "false" ≠ "")
  have hread := findAll_string pg userId pagination db (by decide : "true" ≠ "")
  have hempty : (readPage pg userId pagination db).items = [] ↔ _ := items_readPage_eq_nil
  rw [← hempty]
  constructor
  · rintro ⟨unread, read, all, hu, hr, ha, hitems, htotal, -, -⟩
    cases hunread.symm.trans hu
    refine ⟨total_readPage.symm.trans htotal, List.eq_nil_iff_forall_not_mem.mpr fun n hn => ?_⟩
    cases (hitems n hn).symm.trans (isRead_of_mem_readPage hn)
  · rintro ⟨hcount, hempty⟩
    refine ⟨_, _, _, hunread, hread, rfl, ?_, ?_, fun n hn => isRead_of_mem_readPage hn, ?_⟩
    · rw [hempty]
      exact fun _ hn => absurd hn List.not_mem_nil
    · rw [total_readPage, hcount]
    · rw [total_readPage, total_all, ← hcount]

/-- The counter says one, the list says none. -/
theorem not_listsAgree_unread :
    ¬ ∀ pg userId pagination db, ListsAgree pg userId pagination db := by
  intro hall
  obtain ⟨unread, -, -, hu, -, -, -, htotal, -⟩ := hall .arbitrary 13
    Seed.ticketQuery.toPaginationQueryDto Seed.unreadDb
  cases (findAll_string _ _ _ _ (by decide : "false" ≠ "")).symm.trans hu
  rw [total_readPage] at htotal
  revert htotal
  decide

end NotificationsService

end SupportPlatform
