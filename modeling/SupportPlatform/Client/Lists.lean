import SupportPlatform.Client.Tab
import SupportPlatform.Schema.Queries
import SupportPlatform.Schema.Tables

/-!
# The lists of the client

`TicketListComponent`, `UserListComponent` and `OrganizationListComponent`, which are one component
with other filters. Every change starts a request of its own, and whichever answer arrives is shown:
nothing cancels the requests that were started before.
-/

namespace SupportPlatform

/-- What a list component has of its own: the values of its filters when it is created, what a
selection makes of them, and whether its rows can be edited and deactivated or removed. -/
structure ListComponent (Filters Selection : Type) where
  noFilters : Filters
  setValue : Selection → Filters → Filters
  rowActions : Bool

/-- The filters of the ticket list; `none` is "All statuses" and "All priorities". -/
structure TicketFilters where
  status : Option TicketStatus
  priority : Option TicketPriority
deriving DecidableEq, Repr

/-- A selection in `statusFilter` or `priorityFilter`. -/
inductive TicketSelection where
  | statusFilter (value : Option TicketStatus)
  | priorityFilter (value : Option TicketPriority)
deriving DecidableEq, Repr

def ticketListComponent : ListComponent TicketFilters TicketSelection where
  noFilters := ⟨none, none⟩
  setValue
    | .statusFilter value, filters => { filters with status := value }
    | .priorityFilter value, filters => { filters with priority := value }
  rowActions := false

/-- Its one filter is `roleFilter`. -/
def userListComponent : ListComponent (Option Role) (Option Role) where
  noFilters := none
  setValue value _ := value
  rowActions := true

/-- It has no filters. -/
def organizationListComponent : ListComponent Unit Empty where
  noFilters := ()
  setValue selection _ := selection.elim
  rowActions := true

/-- The `PageQuery` of a request, with `undefined` as `none`. -/
structure PageQuery (Filters : Type) where
  page : Nat
  limit : Nat
  sort : Option String
  search : Option String
  filters : Filters
deriving DecidableEq, Repr

/-- A request that `load` has started, and its answer once it has arrived. -/
structure ListLoad (Row Filters : Type) where
  query : PageQuery Filters
  answer : Option (Except HttpErrorResponse (PaginatedResult Row))

/-- The controls and signals of a list component, and the requests it has started. `debouncing` is
that the search field has been typed in less than 300 ms ago, and `searched` the value that
`distinctUntilChanged` has let through last. -/
structure ListView (Row Filters : Type) where
  search : String
  debouncing : Bool
  searched : Option String
  filters : Filters
  loading : Bool
  rows : List Row
  total : Nat
  pageIndex : Nat
  pageSize : Nat
  sortActive : String
  sortDirection : Option SortDirection
  loads : List (ListLoad Row Filters)

/-- What happens to a list component. `created` and `rowAction` are a dialog that was closed with a
result: of a new row, and of a change of an old one. -/
inductive ListEvent (Row Selection : Type) where
  | search (text : String)
  | debounced
  | select (selection : Selection)
  | page (pageIndex pageSize : Nat)
  | sort (active : String) (direction : Option SortDirection)
  | created
  | rowAction
  | answered (i : Nat) (answer : Except HttpErrorResponse (PaginatedResult Row))

/-- The event is not that a request fails. -/
def ListEvent.Succeeds {Row Selection : Type} : ListEvent Row Selection → Prop
  | answered _ (.error _) => False
  | _ => True

instance {Row Selection : Type} (e : ListEvent Row Selection) : Decidable e.Succeeds := by
  unfold ListEvent.Succeeds
  split <;> infer_instance

def SortDirection.text : SortDirection → String
  | asc => "asc"
  | desc => "desc"

def DEFAULT_PAGE_SIZE : Nat := 10

namespace ListView

variable {Row Filters : Type}

/-- The query that `load` makes of the controls and signals. -/
def query (v : ListView Row Filters) : PageQuery Filters where
  page := v.pageIndex + 1
  limit := v.pageSize
  sort := v.sortDirection.map fun direction => v.sortActive ++ ":" ++ direction.text
  search := if v.search = "" then none else some v.search
  filters := v.filters

def load (v : ListView Row Filters) : ListView Row Filters :=
  { v with
    loading := true
    loads := v.loads ++ [⟨v.query, none⟩] }

def resetAndLoad (v : ListView Row Filters) : ListView Row Filters :=
  load { v with pageIndex := 0 }

def onPage (v : ListView Row Filters) (pageIndex pageSize : Nat) : ListView Row Filters :=
  load { v with pageIndex, pageSize }

def onSort (v : ListView Row Filters) (sortActive : String)
    (sortDirection : Option SortDirection) : ListView Row Filters :=
  load { v with sortActive, sortDirection }

/-- The callbacks of a request. -/
def receive (v : ListView Row Filters) :
    Except HttpErrorResponse (PaginatedResult Row) → ListView Row Filters
  | .ok res =>
    { v with
      rows := res.items
      total := res.meta.total
      loading := false }
  | .error _ => { v with loading := false }

/-- Every request has been answered. -/
def Settled (v : ListView Row Filters) : Prop := ∀ l ∈ v.loads, l.answer.isSome

instance (v : ListView Row Filters) : Decidable v.Settled :=
  inferInstanceAs (Decidable (∀ l ∈ v.loads, l.answer.isSome))

/-- Once all answers have arrived the list shows the one to the last request, and it is loading
until then. -/
structure ShowsLatest (v : ListView Row Filters) : Prop where
  latest : v.Settled → ∃ l ∈ v.loads.getLast?, ∃ res, l.answer = some (.ok res) ∧
    v.rows = res.items ∧ v.total = res.meta.total
  loading : v.loading = false → v.Settled

/-- The condition on a step: an answer arrives when no other request is outstanding. -/
def AnsweredAlone {Selection : Type} (v : ListView Row Filters) : ListEvent Row Selection → Prop
  | .answered i _ => ∀ l ∈ v.loads.eraseIdx i, l.answer.isSome
  | _ => True

instance {Selection : Type} (v : ListView Row Filters) (e : ListEvent Row Selection) :
    Decidable (v.AnsweredAlone e) := by
  cases e <;> unfold AnsweredAlone <;> infer_instance

end ListView

namespace ListComponent

open Machine ListView

variable {Row Filters Selection : Type} (c : ListComponent Filters Selection)

/-- The component after `ngOnInit`. -/
def ngOnInit : ListView Row Filters :=
  load
    { search := ""
      debouncing := false
      searched := none
      filters := c.noFilters
      loading := false
      rows := []
      total := 0
      pageIndex := 0
      pageSize := DEFAULT_PAGE_SIZE
      sortActive := "createdAt"
      sortDirection := some .desc
      loads := [] }

/-- One step; `none` when the event is not enabled. -/
def step (v : ListView Row Filters) : ListEvent Row Selection → Option (ListView Row Filters)
  | .search text => some { v with search := text, debouncing := true }
  | .debounced =>
    if v.debouncing then
      -- `distinctUntilChanged`
      if v.searched = some v.search then
        some { v with debouncing := false }
      else
        some (resetAndLoad { v with debouncing := false, searched := some v.search })
    else none
  | .select selection => some (resetAndLoad { v with filters := c.setValue selection v.filters })
  | .page pageIndex pageSize => some (v.onPage pageIndex pageSize)
  | .sort active direction => some (v.onSort active direction)
  | .created => some v.resetAndLoad
  | .rowAction => if c.rowActions then some v.load else none
  | .answered i answer =>
    v.loads[i]?.bind fun l =>
      if l.answer.isNone then
        some { v.receive answer with loads := v.loads.set i { l with answer := some answer } }
      else none

/-! ### Runs -/

variable {c} {v t : ListView Row Filters} {e : ListEvent Row Selection}

/-- What a step does to the requests and to what is shown: nothing, a request more, or an answer. -/
lemma step_cases (h : c.step v e = some t) :
    (t.loads = v.loads ∧ t.loading = v.loading ∧ t.rows = v.rows ∧ t.total = v.total) ∨
    (∃ query, t.loads = v.loads ++ [⟨query, none⟩] ∧ t.loading = true) ∨
    ∃ i answer l, e = .answered i answer ∧ v.loads[i]? = some l ∧ l.answer = none ∧
      t = { v.receive answer with loads := v.loads.set i { l with answer := some answer } } := by
  cases e with
  | search text =>
    cases h
    exact .inl ⟨rfl, rfl, rfl, rfl⟩
  | debounced =>
    rw [step] at h
    split_ifs at h <;> cases h
    · exact .inl ⟨rfl, rfl, rfl, rfl⟩
    · exact .inr (.inl ⟨_, rfl, rfl⟩)
  | rowAction =>
    rw [step] at h
    split_ifs at h
    cases h
    exact .inr (.inl ⟨_, rfl, rfl⟩)
  | answered i answer =>
    obtain ⟨l, hl, h⟩ := Option.bind_eq_some_iff.mp h
    split_ifs at h with hnone
    cases h
    exact .inr (.inr ⟨i, answer, l, rfl, hl, Option.isNone_iff_eq_none.mp hnone, rfl⟩)
  | select | page | sort | created =>
    cases h
    exact .inr (.inl ⟨_, rfl, rfl⟩)

/-- The inductive form of `ShowsLatest`: the requests have also been answered in the order in which
they were started. -/
structure Orderly (v : ListView Row Filters) : Prop extends v.ShowsLatest where
  inOrder : v.loads.Pairwise fun l l' => l'.answer.isSome → l.answer.isSome

lemma orderly_ngOnInit : Orderly (c.ngOnInit : ListView Row Filters) where
  latest hsettled := by cases hsettled _ (List.mem_singleton_self _)
  loading h := by cases h
  inOrder := List.pairwise_singleton _ _

lemma orderly_load {query : PageQuery Filters} (hv : Orderly v)
    (hloads : t.loads = v.loads ++ [⟨query, none⟩]) (hloading : t.loading = true) : Orderly t where
  latest hsettled := by cases hsettled ⟨query, none⟩ (by simp [hloads])
  loading h := by cases hloading.symm.trans h
  inOrder := by
    rw [hloads, List.pairwise_append]
    refine ⟨hv.inOrder, List.pairwise_singleton _ _, fun l _ l' hl' h => ?_⟩
    obtain rfl := List.mem_singleton.mp hl'
    cases h

section Answered

variable {i : Nat} {l : ListLoad Row Filters}

/-- Where requests are answered in order, one that is answered alone is the last. -/
lemma last_of_answeredAlone (hv : Orderly v) (hl : v.loads[i]? = some l) (hnone : l.answer = none)
    (halone : ∀ l' ∈ v.loads.eraseIdx i, l'.answer.isSome) : i + 1 = v.loads.length := by
  obtain ⟨hi, rfl⟩ := List.getElem?_eq_some_iff.mp hl
  by_contra hne
  have hnext : i + 1 < v.loads.length := by omega
  have hsome : v.loads[i + 1].answer.isSome :=
    halone _ (List.mem_eraseIdx_iff_getElem.mpr ⟨i + 1, hnext, by omega, rfl⟩)
  have hanswered := List.pairwise_iff_getElem.mp hv.inOrder i (i + 1) hi hnext (by omega) hsome
  rw [hnone] at hanswered
  cases hanswered

lemma orderly_answered (hv : Orderly v) (hl : v.loads[i]? = some l) (hnone : l.answer = none)
    (halone : ∀ l' ∈ v.loads.eraseIdx i, l'.answer.isSome) (res : PaginatedResult Row) :
    Orderly { v.receive (.ok res) with
      loads := v.loads.set i { l with answer := some (.ok res) } } := by
  have hlast : i + 1 = v.loads.length := last_of_answeredAlone hv hl hnone halone
  have hsettled : ∀ l' ∈ v.loads.set i { l with answer := some (.ok res) }, l'.answer.isSome :=
    (forall_mem_set_iff hl).mpr ⟨rfl, halone⟩
  constructor
  · constructor
    · refine fun _ => ⟨{ l with answer := some (.ok res) }, ?_, res, rfl, rfl, rfl⟩
      rw [List.getLast?_eq_getElem?, List.length_set, ← hlast, Nat.add_sub_cancel,
        List.getElem?_set_self (by omega)]
      rfl
    · exact fun _ => hsettled
  · exact List.pairwise_of_forall_mem_list fun l' hl' _ _ _ => hsettled l' hl'

end Answered

/-- The step lemma. -/
lemma orderly_step (hv : Orderly v) (he : e.Succeeds) (h : c.step v e = some t)
    (halone : v.AnsweredAlone e) : Orderly t := by
  obtain ⟨hloads, hloading, hrows, htotal⟩ | ⟨query, hloads, hloading⟩ |
    ⟨i, answer, l, rfl, hl, hnone, rfl⟩ := step_cases h
  · refine ⟨⟨fun hsettled => ?_, fun h => ?_⟩, by rw [hloads]; exact hv.inOrder⟩
    · rw [Settled, hloads] at hsettled
      rw [hloads, hrows, htotal]
      exact hv.latest hsettled
    · rw [Settled, hloads]
      exact hv.loading (hloading ▸ h)
  · exact orderly_load hv hloads hloading
  · cases answer with
    | error err => exact he.elim
    | ok res => exact orderly_answered hv hl hnone halone res

/-- An answer that is not alone ends the loading too early. -/
lemma answeredAlone_of_showsLatest (h : c.step v e = some t) (ht : t.ShowsLatest) :
    v.AnsweredAlone e := by
  cases e with
  | answered i answer =>
    obtain ⟨l, hl, h⟩ := Option.bind_eq_some_iff.mp h
    split_ifs at h
    cases h
    have hsettled := ht.loading (by cases answer <;> rfl)
    exact ((forall_mem_set_iff hl).mp hsettled).2
  | _ => trivial

/-- In a run in which no request fails, the list shows the answer to its latest request all along
exactly when every answer arrives while no other request is outstanding. -/
theorem shows_latest_iff (c : ListComponent Filters Selection)
    {es : List (ListEvent Row Selection)} (h : exec c.step c.ngOnInit es = some v)
    (hes : ∀ e ∈ es, e.Succeeds) :
    (∀ fs u, fs <+: es → exec c.step c.ngOnInit fs = some u → u.ShowsLatest) ↔
      Guarded c.step AnsweredAlone c.ngOnInit es :=
  exec_strengthened_iff c.step (K := Orderly) (fun _ hv => hv.toShowsLatest)
    (fun _ _ _ _ _ ht => answeredAlone_of_showsLatest ht)
    (fun _ _ _ hv he ht halone => orderly_step hv he ht halone) orderly_ngOnInit hes h

/-- An answer with all the rows there are. -/
def onePage (items : List Row) : Except HttpErrorResponse (PaginatedResult Row) :=
  .ok ⟨items, ⟨1, DEFAULT_PAGE_SIZE, items.length, 1⟩⟩

/-- The first page arrives, then the user turns the order round. -/
def sortedRun (first second : List Row) : List (ListEvent Row Selection) :=
  [.answered 0 (onePage first), .sort "createdAt" (some .asc), .answered 1 (onePage second)]

theorem shows_latest_iff_sorted :
    (∀ fs u, fs <+: sortedRun [] [] →
      exec ticketListComponent.step (ticketListComponent.ngOnInit : ListView Ticket _) fs = some u →
        u.ShowsLatest) ∧
    (∀ fs u, fs <+: sortedRun [Seed.admin, Seed.agent] [Seed.agent, Seed.admin] →
      exec userListComponent.step userListComponent.ngOnInit fs = some u → u.ShowsLatest) ∧
    ∀ fs u, fs <+: sortedRun [Seed.globex, Seed.acme] [Seed.acme, Seed.globex] →
      exec organizationListComponent.step organizationListComponent.ngOnInit fs = some u →
        u.ShowsLatest :=
  ⟨(shows_latest_iff ticketListComponent rfl (by decide)).mpr (by decide),
    (shows_latest_iff userListComponent rfl (by decide)).mpr (by decide),
    (shows_latest_iff organizationListComponent rfl (by decide)).mpr (by decide)⟩

/-- The user searches before the first page has arrived, and it arrives last. -/
def searchedRun : List (ListEvent Organization Empty) :=
  [.search "acme", .debounced, .answered 1 (onePage [Seed.acme]),
    .answered 0 (onePage [Seed.globex, Seed.acme])]

/-- The list shows two organizations for a search that has found one. -/
theorem not_showsLatest_searched :
    ¬ ∀ (es : List (ListEvent Organization Empty)) v,
      exec organizationListComponent.step organizationListComponent.ngOnInit es = some v →
        (∀ e ∈ es, e.Succeeds) → v.ShowsLatest := by
  intro hall
  obtain ⟨hlatest, -⟩ := hall searchedRun _ rfl (by decide)
  obtain ⟨l, hl, res, hres, -, htotal⟩ := hlatest (by decide)
  cases hl
  cases hres
  cases htotal

end ListComponent

end SupportPlatform
