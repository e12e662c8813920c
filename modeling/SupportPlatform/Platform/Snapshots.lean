import SupportPlatform.Platform.Listings
import SupportPlatform.Platform.World

/-!
# A page and its total

A list endpoint reads its page and counts the matching rows in two statements of one transaction.
At READ COMMITTED each of them sees what is committed when it starts, so writes of other requests
can come between the two. The page and the total are those of one state the run has been in, as
long as no write that changes the page is followed by one that changes the number of matching rows.
-/

namespace SupportPlatform

namespace ListRequest

section Databases

variable {collation : LinearOrder String} {pg pg' : Postgres} {request : ListRequest} {i : Nat}

/-- The answer to a request whose page is read in one database and whose matching rows are counted
in a later one. The check of the access to the ticket of a comment comes before both. -/
def respondAcross (pg : Postgres) (checked read counted : Db) (i : Nat) (request : ListRequest) :
    Except Failure (PaginatedResult ListedRow) :=
  match request.refusal? checked with
  | some e => .error e
  | none =>
    .ok (buildPaginatedResult ((request.listing pg read).page pg i).items
      ((request.listing pg counted).page pg i).meta.total
      ((request.listing pg read).query.atPage i))

/-- Without a write in between it is the answer of the endpoint. -/
lemma respondAcross_self (request : ListRequest) (pg : Postgres) (db : Db) (i : Nat) :
    request.respondAcross pg db db db i = request.respond pg db i := by
  rw [respond_eq, respondAcross]
  cases request.refusal? db <;> rfl

/-- The items are the page in an order that the request allows. -/
def ShowsPage (collation : LinearOrder String) (pg : Postgres) (i : Nat) (request : ListRequest)
    (db : Db) (items : List ListedRow) : Prop :=
  let listing := request.listing pg db
  ∃ l, Paging.Sorts (listing.orderBy.le collation) listing.matching l ∧
    items = (Paging.page listing.query.limit i l).map listing.select

/-- The answer describes a database: its matching rows number `meta.total`, and the items are the
page in an order that the request allows. -/
def Describes (collation : LinearOrder String) (pg : Postgres) (i : Nat) (request : ListRequest)
    (db : Db) (result : PaginatedResult ListedRow) : Prop :=
  result.meta.total = (request.listing pg db).matching.length ∧
    request.ShowsPage collation pg i db result.items

lemma Describes.length_items {db : Db} {result : PaginatedResult ListedRow}
    (h : request.Describes collation pg i db result) :
    result.items.length = min (request.listing pg db).query.limit
      (result.meta.total - i * (request.listing pg db).query.limit) := by
  obtain ⟨htotal, l, hl, hitems⟩ := h
  rw [hitems, htotal, List.length_map, Paging.length_page, hl.perm.length_eq]

/-- An answer has the page it has read and the number it has counted. -/
lemma respondAcross_ok {checked read counted : Db} {result : PaginatedResult ListedRow}
    (h : request.respondAcross pg checked read counted i = .ok result) :
    result.items = ((request.listing pg read).page pg i).items ∧
      result.meta.total = (request.listing pg counted).matching.length := by
  unfold respondAcross at h
  split at h
  · cases h
  · cases h
    exact ⟨rfl, Listing.total_page _ pg i⟩

lemma exists_respondAcross {checked : Db} (h : request.refusal? checked = none)
    (read counted : Db) :
    ∃ result, request.respondAcross pg checked read counted i = .ok result := by
  simp [respondAcross, h]

/-- What a sorting database reads is the page. -/
lemma showsPage_of_sortedBy {db : Db} (h : (request.listing pg db).SortedBy collation pg') :
    request.ShowsPage collation pg i db ((request.listing pg db).page pg' i).items := by
  obtain ⟨l, hl, hpage⟩ := h.exists_page i
  exact ⟨l, hl, congrArg (List.map _) hpage⟩

/-- Whatever shows the page, a sorting database may read it. -/
lemma ShowsPage.exists_sortedBy {db : Db} {items : List ListedRow}
    (h : request.ShowsPage collation pg i db items) :
    ∃ pg' : Postgres, pg'.lower = pg.lower ∧ (request.listing pg db).SortedBy collation pg' ∧
      ((request.listing pg db).page pg' i).items = items := by
  obtain ⟨l, hl, rfl⟩ := h
  have hperm : l.Perm (request.listing pg db).matching.toFinset.toList :=
    hl.perm.trans (Listing.toList_toFinset_perm _).symm
  refine ⟨pg.answering (request.listing pg db).orderBy (request.listing pg db).matching.toFinset
    (fun _ => l) fun _ => hperm, rfl, fun args => ⟨l, ⟨hperm, hl.pairwise⟩, ?_⟩, ?_⟩
  · exact Postgres.page_answering ..
  · have hpage := pg.page_answering (request.listing pg db).orderBy
      (request.listing pg db).matching.toFinset (fun _ => l) (fun _ => hperm)
      (toPrismaPage ((request.listing pg db).query.atPage i))
    exact congrArg (List.map _) hpage

end Databases

/-! ### The writes in between -/

section Runs

variable (cfg : Config) (collation : LinearOrder String) (pg : Postgres) (i : Nat)
  (request : ListRequest)

/-- The step leaves the page as it is: what shows it before shows it afterwards. -/
def PageKept (w : World) (e : Event) : Prop :=
  ∀ w', World.step cfg w e = some w' → ∀ items,
    request.ShowsPage collation pg i w.db items → request.ShowsPage collation pg i w'.db items

/-- The step leaves the number of matching rows as it is. -/
def NumberKept (w : World) (e : Event) : Prop :=
  ∀ w', World.step cfg w e = some w' →
    (request.listing pg w'.db).matching.length = (request.listing pg w.db).matching.length

/-- Up to some moment the steps leave the page as it is, and from there on the number of matching
rows. -/
def KeptInTurn (w : World) (es : List Event) : Prop :=
  ∃ fs gs t, es = fs ++ gs ∧ Machine.exec (World.step cfg) w fs = some t ∧
    Machine.Guarded (World.step cfg) (PageKept cfg collation pg i request) w fs ∧
    Machine.Guarded (World.step cfg) (NumberKept cfg pg request) t gs

/-- Whatever order the database reads the page in, if the steps of the run come between the two
statements, the answer describes a state of the run. -/
def OneState (checked : Db) (w : World) (es : List Event) : Prop :=
  ∀ pg' : Postgres, pg'.lower = pg.lower → (request.listing pg w.db).SortedBy collation pg' →
    ∀ w' result, Machine.exec (World.step cfg) w es = some w' →
      request.respondAcross pg' checked w.db w'.db i = .ok result →
        ∃ fs t, fs <+: es ∧ Machine.exec (World.step cfg) w fs = some t ∧
          request.Describes collation pg i t.db result

variable {cfg collation pg i request} {checked : Db} {w t w' : World} {es : List Event}

lemma showsPage_of_exec {items : List ListedRow}
    (hkept : Machine.Guarded (World.step cfg) (PageKept cfg collation pg i request) w es)
    (h : request.ShowsPage collation pg i w.db items)
    (hrun : Machine.exec (World.step cfg) w es = some t) :
    request.ShowsPage collation pg i t.db items :=
  Machine.exec_guarded_invariant (World.step cfg)
    (I := fun w => request.ShowsPage collation pg i w.db items)
    (fun _ _ w' hshows hkept hstep => hkept w' hstep items hshows) h hkept hrun

lemma length_matching_of_exec
    (hkept : Machine.Guarded (World.step cfg) (NumberKept cfg pg request) t es)
    (hrun : Machine.exec (World.step cfg) t es = some w') :
    (request.listing pg w'.db).matching.length = (request.listing pg t.db).matching.length :=
  Machine.exec_guarded_invariant (World.step cfg)
    (I := fun w => (request.listing pg w.db).matching.length =
      (request.listing pg t.db).matching.length)
    (fun _ _ w' hlength hkept hstep => (hkept w' hstep).trans hlength) rfl hkept hrun

lemma oneState_of_keptInTurn (h : KeptInTurn cfg collation pg i request w es) :
    OneState cfg collation pg i request checked w es := by
  intro pg' hlower hsorted w' result hrun hresult
  obtain ⟨fs, gs, t, rfl, hfs, hpage, hnumber⟩ := h
  obtain ⟨t', ht', hgs⟩ := (Machine.exec_append (World.step cfg)).mp hrun
  obtain rfl := Option.some.inj (hfs.symm.trans ht')
  obtain ⟨hitems, htotal⟩ := respondAcross_ok hresult
  rw [listing_congr hlower] at hitems htotal
  refine ⟨fs, t, List.prefix_append fs gs, hfs, ?_, ?_⟩
  · rw [htotal, length_matching_of_exec hnumber hgs]
  · rw [hitems]
    exact showsPage_of_exec hpage (showsPage_of_sortedBy hsorted) hfs

/-- For a single step there is no other way. -/
lemma keptInTurn_of_oneState {e : Event} (hrefusal : request.refusal? checked = none)
    (hstep : World.step cfg w e = some w')
    (h : OneState cfg collation pg i request checked w [e]) :
    KeptInTurn cfg collation pg i request w [e] := by
  have hrun : Machine.exec (World.step cfg) w [e] = some w' := by simp [hstep]
  by_cases hnumber : NumberKept cfg pg request w e
  · exact ⟨[], [e], w, rfl, rfl, trivial, hnumber, fun _ _ => trivial⟩
  refine ⟨[e], [], w', rfl, hrun, ⟨?_, fun _ _ => trivial⟩, trivial⟩
  intro w₂ hw₂ items hitems
  obtain rfl := Option.some.inj (hstep.symm.trans hw₂)
  obtain ⟨pg', hlower, hsorted, rfl⟩ := hitems.exists_sortedBy
  obtain ⟨result, hresult⟩ :
      ∃ result, request.respondAcross pg' checked w.db w'.db i = .ok result :=
    exists_respondAcross hrefusal _ _
  obtain ⟨fs, t, hfs, ht, htotal, hshows⟩ := h pg' hlower hsorted w' result hrun hresult
  obtain ⟨hread, hcounted⟩ := respondAcross_ok hresult
  rw [listing_congr hlower] at hread hcounted
  rcases List.prefix_cons_iff.mp hfs with rfl | ⟨rest, rfl, hrest⟩
  case inr =>
    obtain rfl := List.prefix_nil.mp hrest
    obtain rfl := Option.some.inj (hrun.symm.trans ht)
    rwa [← hread]
  case inl =>
    -- the total is not that of the state before the step
    cases ht
    refine (hnumber fun w₃ hw₃ => ?_).elim
    obtain rfl := Option.some.inj (hstep.symm.trans hw₃)
    exact hcounted.symm.trans htotal

/-- The page and the total of an answer come from one state of the run if the writes between the two
statements leave the page as it is up to some moment and the number of matching rows from there on.
If there is one write in between, they do so in no other case. -/
theorem one_state_iff (cfg : Config) (collation : LinearOrder String) (pg : Postgres) (i : Nat)
    (request : ListRequest) (checked : Db) (w : World) :
    (∀ es, KeptInTurn cfg collation pg i request w es →
        OneState cfg collation pg i request checked w es) ∧
      ∀ e w', request.refusal? checked = none → World.step cfg w e = some w' →
        (OneState cfg collation pg i request checked w [e] ↔
          KeptInTurn cfg collation pg i request w [e]) :=
  ⟨fun _ => oneState_of_keptInTurn, fun _ _ hrefusal hstep =>
    ⟨keptInTurn_of_oneState hrefusal hstep, oneState_of_keptInTurn⟩⟩

end Runs

lemma onePerPage_le : 1 ≤ 100 := Nat.succ_pos 99

/-- The first comment on a ticket, on a page of its own. -/
def firstComment : ListRequest :=
  .comments ⟨11, "admin@acme.test", .admin, 1⟩ 140
    ⟨1, 1, .undefined, .undefined, Seed.firstPage_pos, Seed.firstPage_pos, onePerPage_le⟩

/-- An agent comments on the ticket of a customer, and the next comment has passed its check. -/
def commentingRun : List Event :=
  [.arrive (some 13) none (.createTicket Seed.ticketDto), .proceed 0 (Seed.env 1),
    .arrive (some 12) none (.createComment 140 ⟨"Which browser?", .undefined⟩),
    .proceed 1 (Seed.env 2), .proceed 1 (Seed.env 3),
    .arrive (some 12) none (.createComment 140 ⟨"And which version?", .undefined⟩),
    .proceed 2 (Seed.env 4)]

/-- A comment that is added behind a full page leaves the page as it is. -/
theorem one_state_iff_commentBehind :
    ∃ w w', Machine.exec (World.step .default) (World.initial Seed.organizations Seed.users 1)
        commentingRun = some w ∧
      Machine.exec (World.step .default) w [.proceed 2 (Seed.env 5)] = some w' ∧
      (firstComment.listing .arbitrary w.db).matching.length = 1 ∧
      (firstComment.listing .arbitrary w'.db).matching.length = 2 ∧
      OneState .default inferInstance .arbitrary 0 firstComment w.db w
        [.proceed 2 (Seed.env 5)] := by
  have hrun : (Machine.exec (World.step .default) (World.initial Seed.organizations Seed.users 1)
      commentingRun).any fun w =>
        w.db.comments.rows = [⟨340, 140, 12, "Which browser?", false, 3⟩] ∧
        (Machine.exec (World.step .default) w [.proceed 2 (Seed.env 5)]).any fun w' =>
          w'.db.comments.rows = w.db.comments.rows ++
            [⟨540, 140, 12, "And which version?", false, 5⟩] := by decide
  obtain ⟨w, hw, hrows, hrun'⟩ := Machine.exists_of_any hrun
  obtain ⟨w', hw', hrows'⟩ := Machine.exists_of_any hrun'
  rw [hrows] at hrows'
  refine ⟨w, w', hw, hw', congrArg (List.length <| List.filter _ ·) hrows,
    congrArg (List.length <| List.filter _ ·) hrows', ?_⟩
  refine (one_state_iff .default inferInstance .arbitrary 0 firstComment w.db w).1 _
    ⟨_, [], w', (List.append_nil _).symm, hw', ⟨?_, fun _ _ => trivial⟩, trivial⟩
  rintro w₂ hw₂ - ⟨l, hl, rfl⟩
  obtain ⟨w₃, hw₃, hend⟩ := (Machine.exec_cons_eq_some _).mp hw'
  cases hend
  obtain rfl := Option.some.inj (hw₃.symm.trans hw₂)
  have hsorts : Paging.Sorts (OrderBy.le inferInstance ⟨"createdAt", .asc⟩)
      (w.db.comments.rows.filter (CommentsService.where ⟨11, "admin@acme.test", .admin, 1⟩ 140))
      l := hl
  rw [hrows] at hsorts
  refine ⟨l ++ [⟨540, 140, 12, "And which version?", false, 5⟩], ?_, ?_⟩
  · have hshow : Paging.Sorts (OrderBy.le inferInstance ⟨"createdAt", .asc⟩)
        (w'.db.comments.rows.filter (CommentsService.where ⟨11, "admin@acme.test", .admin, 1⟩ 140))
        (l ++ [⟨540, 140, 12, "And which version?", false, 5⟩]) := by
      rw [hrows']
      refine hsorts.append ⟨List.Perm.refl _, List.pairwise_singleton _ _⟩ fun a ha b hb => ?_
      obtain rfl := List.mem_singleton.mp (hsorts.perm.mem_iff.mp ha)
      obtain rfl := List.mem_singleton.mp hb
      decide
    exact hshow
  · exact (congrArg (List.map _) (Paging.page_append hsorts.perm.length_eq.ge)).symm

/-- The first page of the tickets of an organization that has none yet. -/
def firstTickets : ListRequest :=
  .tickets ⟨11, "admin@acme.test", .admin, 1⟩ Seed.ticketQuery

/-- A single row comes in one order only. -/
lemma sorts_of_card_le_one {α : Type} [Columns α] (collation : LinearOrder String)
    (orderBy : OrderBy) {rows : Finset α} (h : rows.card ≤ 1) :
    Postgres.arbitrary.Sorts collation orderBy rows := by
  refine fun args => ⟨rows.toList, ⟨List.Perm.refl _, ?_⟩, rfl⟩
  rw [← Finset.length_toList] at h
  generalize rows.toList = l at h
  match l with
  | [] => exact List.Pairwise.nil
  | [t] => exact List.pairwise_singleton _ t

lemma sortedBy_firstTickets {collation : LinearOrder String} {db : Db}
    (h : (firstTickets.listing .arbitrary db).matching.length ≤ 1) :
    (firstTickets.listing .arbitrary db).SortedBy collation .arbitrary :=
  sorts_of_card_le_one collation _ ((List.toFinset_card_le _).trans h)

/-- A customer creates his first ticket while the tickets are listed. -/
def meanwhileRun : List Event :=
  [.arrive (some 13) none (.createTicket Seed.ticketDto), .proceed 0 (Seed.env 1)]

/-- The page is empty, and the total is one. -/
theorem not_one_state :
    ¬ ∀ collation pg request i w es w' result,
      Machine.exec (World.step .default) (World.initial Seed.organizations Seed.users 1) [] =
          some w →
        Machine.exec (World.step .default) w es = some w' →
        (ListRequest.listing pg w.db request).SortedBy collation pg →
        request.respondAcross pg w.db w.db w'.db i = .ok result →
          ∃ db, request.Describes collation pg i db result := by
  intro hall
  have hrun : (Machine.exec (World.step .default) (World.initial Seed.organizations Seed.users 1)
      meanwhileRun).any fun w => (firstTickets.listing .arbitrary w.db).matching.length = 1 := by
    decide
  obtain ⟨w', hw', hcount⟩ := Machine.exists_of_any hrun
  let db₀ := (World.initial Seed.organizations Seed.users 1).db
  obtain ⟨result, hresult⟩ : ∃ result,
      firstTickets.respondAcross .arbitrary db₀ db₀ w'.db 0 = .ok result := ⟨_, rfl⟩
  obtain ⟨db, hdb⟩ := hall inferInstance .arbitrary firstTickets 0 _ meanwhileRun w' result rfl hw'
    (sortedBy_firstTickets (Nat.zero_le 1)) hresult
  obtain ⟨hitems, htotal⟩ := respondAcross_ok hresult
  have hlength := hdb.length_items
  rw [hitems, Listing.length_items, htotal, hcount] at hlength
  cases hlength

end ListRequest

end SupportPlatform
