import SupportPlatform.Api.Queries
import SupportPlatform.Client.Lists
import SupportPlatform.Core.Splitting

/-!
# The queries of the lists

What `ApiService` makes of the query of a list component, and what the API reads out of it again.
Every query of a run is accepted and read as it was meant, and the rows come in the order that the
header of the table shows, but where it shows a column the API does not sort by.
-/

namespace SupportPlatform

/-- A value of `PageQuery`. -/
inductive QueryValue where
  | string (s : String)
  | number (n : Nat)
  | boolean (b : Bool)
deriving DecidableEq, Repr

namespace ApiService

/-- The text of a property, unless it is undefined or empty. -/
def param? : Option QueryValue → Option String
  | none => none
  | some (.string s) => if s = "" then none else some s
  | some (.number n) => some (toString n)
  | some (.boolean b) => some (toString b)

/-- One round of the loop of `buildParams`. -/
def setParam (params : QueryString) (entry : String × Option QueryValue) : QueryString :=
  match param? entry.2 with
  | none => params
  | some value => params.set entry.1 value

/-- `buildParams`, of the entries of a query object. -/
def buildParams (query : List (String × Option QueryValue)) : QueryString :=
  query.foldl setParam []

lemma lookup_setParam (params : QueryString) (entry : String × Option QueryValue) (k : String) :
    (setParam params entry).lookup k =
      if k = entry.1 then (param? entry.2).or (params.lookup k) else params.lookup k := by
  unfold setParam
  split
  · next hnone => simp [hnone]
  · next hsome => simp [hsome, QueryString.lookup_set]

lemma lookup_foldl {query : List (String × Option QueryValue)} (h : (query.map Prod.fst).Nodup)
    (params : QueryString) (k : String) :
    (query.foldl setParam params).lookup k =
      ((query.lookup k).bind param?).or (params.lookup k) := by
  induction query generalizing params with
  | nil => simp
  | cons entry query ih =>
    obtain ⟨key, value⟩ := entry
    rw [List.map_cons, List.nodup_cons] at h
    rw [List.foldl_cons, ih h.2, lookup_setParam, List.lookup_cons]
    by_cases hk : k = key
    · subst hk
      have hnone : query.lookup k = none := List.lookup_eq_none_iff.mpr fun p hp => by
        have hne : k ≠ p.1 := fun heq => h.1 (heq ▸ List.mem_map.mpr ⟨p, hp, rfl⟩)
        simpa using hne
      simp [hnone]
    · simp [hk, beq_false_of_ne hk]

/-- Each property becomes the parameter of its name, or none. -/
theorem lookup_buildParams {query : List (String × Option QueryValue)}
    (h : (query.map Prod.fst).Nodup) (k : String) :
    (buildParams query).lookup k = (query.lookup k).bind param? := by
  rw [buildParams, lookup_foldl h, List.lookup_nil, Option.or_none]

lemma fst_of_mem_setParam {params : QueryString} {entry : String × Option QueryValue}
    {p : String × String} (hp : p ∈ setParam params entry) : p ∈ params ∨ p.1 = entry.1 := by
  unfold setParam at hp
  split at hp
  · exact .inl hp
  · exact QueryString.fst_of_mem_set hp

lemma fst_of_mem_foldl {query : List (String × Option QueryValue)} {params : QueryString}
    {p : String × String} (hp : p ∈ query.foldl setParam params) :
    p ∈ params ∨ p.1 ∈ query.map Prod.fst := by
  induction query generalizing params with
  | nil => exact .inl hp
  | cons entry query ih =>
    rcases ih hp with hp | hp
    · exact (fst_of_mem_setParam hp).imp id fun heq => List.mem_cons.mpr (.inl heq)
    · exact .inr (List.mem_cons_of_mem _ hp)

/-- No other parameters are sent. -/
lemma fst_of_mem_buildParams {query : List (String × Option QueryValue)} {p : String × String}
    (hp : p ∈ buildParams query) : p.1 ∈ query.map Prod.fst :=
  (fst_of_mem_foldl hp).resolve_left List.not_mem_nil

end ApiService

/-! ### One query -/

namespace PageQuery

variable {Filters : Type}

/-- The properties of a query object, with those of its filters last. -/
def entries (filters : Filters → List (String × Option QueryValue)) (q : PageQuery Filters) :
    List (String × Option QueryValue) :=
  [("page", some (.number q.page)), ("limit", some (.number q.limit)),
    ("sort", q.sort.map .string), ("search", q.search.map .string)] ++ filters q.filters

/-- `OrganizationListComponent` adds nothing. -/
def organizationFilters (_ : Unit) : List (String × Option QueryValue) := []

/-- A query the API can accept, without empty texts. -/
structure Valid (q : PageQuery Filters) : Prop where
  page_pos : 1 ≤ q.page
  limit_pos : 1 ≤ q.limit
  limit_le : q.limit ≤ 100
  sort_ne : q.sort ≠ some ""
  search_ne : q.search ≠ some ""

/-- The API has read the query as it was meant. -/
structure Received (q : PageQuery Filters) (query : PaginationQueryDto) : Prop where
  page : query.page = q.page
  limit : query.limit = q.limit
  sort : query.sort = .ofOption q.sort
  search : query.search = .ofOption q.search

variable {q : PageQuery Filters} {filters : Filters → List (String × Option QueryValue)}

lemma param?_string {s : Option String} (hs : s ≠ some "") :
    ApiService.param? (s.map .string) = s := by
  cases s with
  | none => rfl
  | some s =>
    have hne : s ≠ "" := fun heq => hs (congrArg some heq)
    exact if_neg hne

/-- The parameters every list sends. -/
lemma transform_buildParams (hq : q.Valid)
    (hnodup : ((q.entries filters).map Prod.fst).Nodup) :
    ∃ query, PaginationQueryDto.transform (ApiService.buildParams (q.entries filters)) =
      some query ∧ q.Received query := by
  have hlookup := ApiService.lookup_buildParams hnodup
  have hpage : QueryParam.int (ApiService.buildParams (q.entries filters)) "page" 1 =
      some (q.page : Int) := by
    rw [QueryParam.int, hlookup]
    exact QueryString.parseInt_toString q.page
  have hlimit : QueryParam.int (ApiService.buildParams (q.entries filters)) "limit" 20 =
      some (q.limit : Int) := by
    rw [QueryParam.int, hlookup]
    exact QueryString.parseInt_toString q.limit
  refine ⟨_, PaginationQueryDto.transform_eq_some hpage hlimit hq.page_pos hq.limit_pos hq.limit_le,
    rfl, rfl, ?_, ?_⟩
  · change QueryParam.text _ "sort" = _
    rw [QueryParam.text, hlookup]
    exact congrArg Field.ofOption (param?_string hq.sort_ne)
  · change QueryParam.text _ "search" = _
    rw [QueryParam.text, hlookup]
    exact congrArg Field.ofOption (param?_string hq.search_ne)

lemma whitelisted_buildParams (filters : Filters → List (String × Option QueryValue))
    {names : List String}
    (hnames : ∀ k ∈ (q.entries filters).map Prod.fst, k ∈ names) :
    Whitelisted names (ApiService.buildParams (q.entries filters)) :=
  fun _ hp => hnames _ (ApiService.fst_of_mem_buildParams hp)

/-- The query of the organization list is received. -/
theorem received_organizations {q : PageQuery Unit} (hq : q.Valid) :
    ∃ query, PaginationQueryDto.ofParams
      (ApiService.buildParams (q.entries organizationFilters)) = some query ∧ q.Received query := by
  have hnodup : ((q.entries organizationFilters).map Prod.fst).Nodup :=
    (by decide : ["page", "limit", "sort", "search"].Nodup)
  obtain ⟨query, htransform, hreceived⟩ := transform_buildParams hq hnodup
  have hnames : Whitelisted PaginationQueryDto.names _ :=
    whitelisted_buildParams (q := q) organizationFilters fun _ hk => hk
  refine ⟨query, ?_, hreceived⟩
  rw [PaginationQueryDto.ofParams, htransform]
  simp [guard, hnames]

end PageQuery

/-! ### Orders -/

lemma append_ne_empty (field : String) (direction : SortDirection) :
    field ++ ":" ++ direction.text ≠ "" := by
  intro h
  have hlength := congrArg String.length h
  rw [String.length_append, String.length_append] at hlength
  exact absurd hlength (Nat.ne_of_gt (Nat.add_pos_left (Nat.succ_pos _) _))

/-- A `sort` of a field without a colon is split into the field and the direction. -/
theorem toPrismaOrderBy_sort {field : String} (hcolon : ':' ∉ field.toList)
    (direction : SortDirection) (allowedFields : List String) :
    toPrismaOrderBy (.value (field ++ ":" ++ direction.text)) allowedFields =
      if field ∈ allowedFields then ⟨field, direction⟩ else .newest := by
  have hsplit : (field ++ ":" ++ direction.text).splitOn ":" = [field, direction.text] :=
    Splitting.splitOn_append hcolon (by cases direction <;> decide)
  have htext : (Field.value (field ++ ":" ++ direction.text)).text? =
      some (field ++ ":" ++ direction.text) := if_neg (append_ne_empty field direction)
  rw [toPrismaOrderBy, htext]
  simp only [hsplit, List.head?_cons, Option.some.injEq]
  cases direction <;> rfl

/-! ### Runs -/

/-- A column of a table, as far as its header is concerned. -/
structure ColumnDef where
  key : String
  sortable : Bool
deriving DecidableEq, Repr

/-- The columns whose header can be clicked. -/
def sortableKeys (columns : List ColumnDef) : List String :=
  (columns.filter ColumnDef.sortable).map ColumnDef.key

def TicketListComponent.columns : List ColumnDef :=
  [⟨"reference", true⟩, ⟨"title", false⟩, ⟨"status", true⟩, ⟨"priority", true⟩, ⟨"createdAt", true⟩]

def UserListComponent.columns : List ColumnDef :=
  [⟨"name", false⟩, ⟨"email", true⟩, ⟨"role", true⟩, ⟨"isActive", false⟩, ⟨"createdAt", true⟩,
    ⟨"actions", false⟩]

def OrganizationListComponent.columns : List ColumnDef :=
  [⟨"name", true⟩, ⟨"slug", false⟩, ⟨"isActive", false⟩, ⟨"createdAt", true⟩, ⟨"actions", false⟩]

def PAGE_SIZE_OPTIONS : List Nat := [10, 20, 50]

/-- What `DataTableComponent` lets happen: its paginator has the page sizes of `PAGE_SIZE_OPTIONS`,
and only the headers of sortable columns are enabled. -/
def ListEvent.Offered {Row Selection : Type} (columns : List ColumnDef) :
    ListEvent Row Selection → Prop
  | page _ pageSize => pageSize ∈ PAGE_SIZE_OPTIONS
  | sort active _ => active ∈ sortableKeys columns
  | _ => True

instance {Row Selection : Type} (columns : List ColumnDef) (e : ListEvent Row Selection) :
    Decidable (e.Offered columns) :=
  match e with
  | .page _ pageSize => inferInstanceAs (Decidable (pageSize ∈ PAGE_SIZE_OPTIONS))
  | .sort active _ => inferInstanceAs (Decidable (active ∈ sortableKeys columns))
  | .search _ | .debounced | .select _ | .created | .rowAction | .answered _ _ =>
    inferInstanceAs (Decidable True)

namespace ListView

variable {Row Filters : Type}

/-- The order that the header of the table shows; without a direction it shows none, and the API
falls back to its default. -/
def shownOrder (v : ListView Row Filters) : OrderBy :=
  match v.sortDirection with
  | none => .newest
  | some direction => ⟨v.sortActive, direction⟩

/-- The table is set to what it offers. -/
structure Offers (columns : List ColumnDef) (v : ListView Row Filters) : Prop where
  pageSize : v.pageSize ∈ PAGE_SIZE_OPTIONS
  sortActive : v.sortActive ∈ sortableKeys columns

variable {columns : List ColumnDef} {v : ListView Row Filters}

lemma Offers.valid (h : v.Offers columns) : v.query.Valid where
  page_pos := Nat.succ_pos _
  limit_pos := by
    have hsize : ∀ n ∈ PAGE_SIZE_OPTIONS, 1 ≤ n := by decide
    exact hsize _ h.pageSize
  limit_le := by
    have hsize : ∀ n ∈ PAGE_SIZE_OPTIONS, n ≤ 100 := by decide
    exact hsize _ h.pageSize
  sort_ne hsort := by
    obtain ⟨direction, -, hempty⟩ := Option.map_eq_some_iff.mp hsort
    exact append_ne_empty _ _ hempty
  search_ne hsearch := by
    simp only [query] at hsearch
    split_ifs at hsearch with hempty
    exact hempty (Option.some.inj hsearch)

/-- The order the API answers in: the one the header shows, if the column is one it sorts by. -/
lemma toPrismaOrderBy_query (hcolon : ':' ∉ v.sortActive.toList) (allowedFields : List String) :
    toPrismaOrderBy (.ofOption v.query.sort) allowedFields =
      if v.sortActive ∈ allowedFields then v.shownOrder else .newest := by
  cases hdirection : v.sortDirection with
  | none => simp [query, hdirection, Field.ofOption, toPrismaOrderBy, Field.text?, shownOrder]
  | some direction =>
    simp only [query, hdirection, Option.map_some, Field.ofOption, shownOrder]
    exact toPrismaOrderBy_sort hcolon direction allowedFields

end ListView

namespace ListComponent

open Machine ListView

variable {Row Filters Selection : Type} {c : ListComponent Filters Selection}
  {v t : ListView Row Filters} {e : ListEvent Row Selection} {columns : List ColumnDef}

lemma offers_step (hv : v.Offers columns) (he : e.Offered columns) (h : c.step v e = some t) :
    t.Offers columns := by
  cases e with
  | search | select | created =>
    cases h
    exact ⟨hv.pageSize, hv.sortActive⟩
  | page =>
    cases h
    exact ⟨he, hv.sortActive⟩
  | sort =>
    cases h
    exact ⟨hv.pageSize, he⟩
  | debounced | rowAction =>
    rw [step] at h
    split_ifs at h <;> cases h <;> exact ⟨hv.pageSize, hv.sortActive⟩
  | answered i answer =>
    obtain ⟨l, -, h⟩ := Option.bind_eq_some_iff.mp h
    split_ifs at h
    cases h
    cases answer <;> exact ⟨hv.pageSize, hv.sortActive⟩

/-- In every state of a run the table is set to what it offers. -/
lemma offers_of_exec {es : List (ListEvent Row Selection)}
    (hcolumns : "createdAt" ∈ sortableKeys columns) (hes : ∀ e ∈ es, e.Offered columns)
    (h : exec c.step c.ngOnInit es = some v) : v.Offers columns :=
  exec_invariant_of_forall c.step (fun _ _ _ hv he ht => offers_step hv he ht)
    ⟨(by decide : DEFAULT_PAGE_SIZE ∈ PAGE_SIZE_OPTIONS), hcolumns⟩ hes h

/-- A step starts a request, which asks for what the controls and signals say, or it leaves the
queries of the requests as they are. -/
lemma loads_of_step (h : c.step v e = some t) :
    t.loads = v.loads ++ [⟨t.query, none⟩] ∨
      t.loads.map ListLoad.query = v.loads.map ListLoad.query := by
  cases e with
  | search =>
    cases h
    exact .inr rfl
  | select | page | sort | created =>
    cases h
    exact .inl rfl
  | debounced =>
    rw [step] at h
    split_ifs at h <;> cases h
    · exact .inr rfl
    · exact .inl rfl
  | rowAction =>
    rw [step] at h
    split_ifs at h
    cases h
    exact .inl rfl
  | answered i answer =>
    obtain ⟨l, hl, h⟩ := Option.bind_eq_some_iff.mp h
    split_ifs at h
    cases h
    obtain ⟨hi, rfl⟩ := List.getElem?_eq_some_iff.mp hl
    have hself : (v.loads.map ListLoad.query).set i v.loads[i].query =
        v.loads.map ListLoad.query := by
      have hlength : i < (v.loads.map ListLoad.query).length := by simpa using hi
      rw [← List.getElem_map ListLoad.query (h := hlength)]
      exact List.set_getElem_self hlength
    exact .inr (List.map_set.trans hself)

lemma length_loads_le (h : c.step v e = some t) : v.loads.length ≤ t.loads.length := by
  rcases loads_of_step h with hloads | hqueries
  · simp [hloads]
  · simpa using (congrArg List.length hqueries).ge

/-- The step that starts the request with number `i`, with this query, leaves the component in `u`:
the request is the last one there and has no answer, and no earlier state has as many. -/
def Starts (c : ListComponent Filters Selection) (es : List (ListEvent Row Selection)) (i : Nat)
    (query : PageQuery Filters) (u : ListView Row Filters) : Prop :=
  ∃ fs, fs <+: es ∧ exec c.step c.ngOnInit fs = some u ∧ u.loads.length = i + 1 ∧
    u.loads[i]? = some ⟨query, none⟩ ∧
    ∀ gs s, gs <+: fs → gs ≠ fs → exec c.step c.ngOnInit gs = some s → s.loads.length ≤ i

lemma Starts.mono {es fs : List (ListEvent Row Selection)} {i : Nat} {query : PageQuery Filters}
    {u : ListView Row Filters} (h : c.Starts es i query u) (hes : es <+: fs) :
    c.Starts fs i query u := by
  obtain ⟨gs, hgs, hrest⟩ := h
  exact ⟨gs, hgs.trans hes, hrest⟩

/-- Each request of a run asks for what the controls and signals said when it was started. -/
theorem loads_of_exec {es : List (ListEvent Row Selection)}
    (h : exec c.step c.ngOnInit es = some v) {i : Nat} {l : ListLoad Row Filters}
    (hl : v.loads[i]? = some l) : ∃ u, c.Starts es i l.query u ∧ l.query = u.query := by
  induction es using List.reverseRecOn generalizing v l with
  | nil =>
    cases h
    obtain ⟨hi, rfl⟩ := List.getElem?_eq_some_iff.mp hl
    obtain rfl : i = 0 := Nat.lt_one_iff.mp hi
    refine ⟨_, ⟨[], List.nil_prefix, rfl, rfl, rfl, fun gs s hgs hne _ => ?_⟩, rfl⟩
    exact absurd (List.prefix_nil.mp hgs) hne
  | append_singleton es e ih =>
    obtain ⟨u, hu, hstep⟩ := (exec_append c.step).mp h
    obtain ⟨t, ht, hvt⟩ := (exec_cons_eq_some c.step).mp hstep
    cases hvt
    have earlier {l' : ListLoad Row Filters} (hl' : u.loads[i]? = some l')
        (heq : l'.query = l.query) : ∃ u, c.Starts (es ++ [e]) i l.query u ∧ l.query = u.query := by
      obtain ⟨s, hstarts, hquery⟩ := ih hu hl'
      rw [heq] at hstarts hquery
      exact ⟨s, hstarts.mono (List.prefix_append es [e]), hquery⟩
    rcases loads_of_step ht with hloads | hqueries
    · rw [hloads] at hl
      rcases getElem?_concat_cases hl with hl | ⟨rfl, rfl⟩
      · exact earlier hl rfl
      · refine ⟨v, ⟨es ++ [e], List.prefix_rfl, h, by simp [hloads], ?_, fun gs s hgs hne hs => ?_⟩,
          rfl⟩
        · simp [hloads]
        · -- up to this step there were fewer requests
          have hprefix : gs <+: es := (List.prefix_concat_iff.mp hgs).resolve_left hne
          obtain ⟨rest, rfl⟩ := hprefix
          obtain ⟨s', hs', hrest⟩ := (exec_append c.step).mp hu
          obtain rfl := Option.some.inj (hs.symm.trans hs')
          exact exec_relation c.step (R := fun s t => s.loads.length ≤ t.loads.length)
            (fun _ => le_rfl) (fun _ _ _ => le_trans) (fun _ _ _ h => length_loads_le h) hrest
    · have hlength : i < u.loads.length := by
        have hlt := (List.getElem?_eq_some_iff.mp hl).1
        have heq := congrArg List.length hqueries
        simp only [List.length_map] at heq
        omega
      refine earlier (List.getElem?_eq_getElem hlength) ?_
      have hget := congrArg (·[i]?) hqueries
      simpa [hl, List.getElem?_eq_getElem hlength] using hget.symm

/-- Every request of the organization list is accepted and read as the list showed it. -/
theorem organization_queries_received {v : ListView Row Unit} {es : List (ListEvent Row Empty)}
    (h : exec organizationListComponent.step organizationListComponent.ngOnInit es = some v)
    (hes : ∀ e ∈ es, e.Offered OrganizationListComponent.columns) :
    ∀ i l, v.loads[i]? = some l → ∃ u query,
      organizationListComponent.Starts es i l.query u ∧ l.query = u.query ∧
      PaginationQueryDto.ofParams
        (ApiService.buildParams (l.query.entries PageQuery.organizationFilters)) = some query ∧
      l.query.Received query ∧
      toPrismaOrderBy query.sort OrganizationsService.SORTABLE = u.shownOrder := by
  intro i l hl
  obtain ⟨u, hstarts, hquery⟩ := loads_of_exec h hl
  have ⟨fs, hfs, hu, _⟩ := hstarts
  have hoffers : u.Offers OrganizationListComponent.columns :=
    offers_of_exec (by decide) (fun e he => hes e (hfs.subset he)) hu
  obtain ⟨query, hparams, hreceived⟩ := PageQuery.received_organizations hoffers.valid
  have hkeys : ∀ key ∈ sortableKeys OrganizationListComponent.columns,
      ':' ∉ key.toList ∧ key ∈ OrganizationsService.SORTABLE := by decide
  obtain ⟨hcolon, hsortable⟩ := hkeys _ hoffers.sortActive
  refine ⟨u, query, hstarts, hquery, hquery ▸ hparams, hquery ▸ hreceived, ?_⟩
  rw [hreceived.sort, toPrismaOrderBy_query hcolon, if_pos hsortable]

end ListComponent

end SupportPlatform
