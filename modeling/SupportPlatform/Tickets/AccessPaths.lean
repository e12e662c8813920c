import Mathlib.Tactic.TFAE
import SupportPlatform.Api.Calls
import SupportPlatform.Platform.Listings

/-!
# The access to tickets

One rule says which tickets an actor has access to. The listing has it in its `where`, next to the
filters; the operations on a single ticket have it in `findOne`.
-/

namespace SupportPlatform

/-- The arbitrary database has one order for every set of rows. -/
lemma Listing.inOneOrder_arbitrary {β : Type} (listing : Listing β) :
    listing.InOneOrder .arbitrary :=
  ⟨_, listing.toList_toFinset_perm, fun i => by
    simp [Postgres.arbitrary, Paging.page, toPrismaPage, PaginationQueryDto.atPage]⟩

namespace TicketsService

/-- The rule of access: a ticket of the actor's organization, for a customer one he created. -/
def Accessible (actor : AuthenticatedUser) (t : Ticket) : Prop :=
  t.organizationId = actor.organizationId ∧ (actor.role = .customer → t.createdById = actor.id)

/-- The text contains the search text, the case of letters aside. -/
def Contains (pg : Postgres) (search text : String) : Prop :=
  search.toList.map pg.lower <:+: text.toList.map pg.lower

/-- The text matches the search text as a pattern with a `%` before and behind it, the case of
letters aside. -/
def Matches (pg : Postgres) (search text : String) : Prop :=
  Like.Matches (fun c d => decide (pg.lower c = pg.lower d))
    (Like.parse ('%' :: search.toList ++ ['%'])) text.toList

/-- The ticket satisfies every filter that is given, and the search text, if there is one, is found
in its title or its reference. -/
def Satisfies (found : String → String → Prop) (query : TicketQueryDto) (t : Ticket) : Prop :=
  (∀ status ∈ query.status.value?, t.status = status) ∧
    (∀ priority ∈ query.priority.value?, t.priority = priority) ∧
    (∀ assignee ∈ query.assignedToId.value?, t.assignedToId = some assignee) ∧
    ∀ search ∈ query.search.text?, found search t.title ∨ found search t.reference

/-- No filter and no search is given. -/
def Unfiltered (query : TicketQueryDto) : Prop :=
  query.status.value? = none ∧ query.priority.value? = none ∧ query.assignedToId.value? = none ∧
    query.search.text? = none

/-- `findAll` returns the ticket on one of its pages, from the first to `meta.totalPages`. -/
def Lists (pg : Postgres) (db : Db) (actor : AuthenticatedUser) (query : TicketQueryDto)
    (t : Ticket) : Prop :=
  ∃ items, (ListRequest.tickets actor query).traverse pg db = .ok items ∧ .ticket t ∈ items

/-- The database answers `findAll` in one order, whatever page is asked for. -/
abbrev InOneOrder (pg : Postgres) (db : Db) (actor : AuthenticatedUser) (query : TicketQueryDto) :
    Prop :=
  ((ListRequest.tickets actor query).listing pg db).InOneOrder pg

variable {pg : Postgres} {db : Db} {actor : AuthenticatedUser} {query : TicketQueryDto} {id : Uuid}
  {t : Ticket}

lemma where_iff :
    «where» pg actor query t ↔ Accessible actor t ∧ Satisfies (Matches pg) query t := by
  have hall {α : Type} (o : Option α) (p : α → Bool) : o.all p ↔ ∀ a ∈ o, p a := by
    cases o <;> simp
  simp only [«where», Bool.and_eq_true, Bool.or_eq_true, hall, decide_eq_true_eq, Accessible,
    Satisfies, Matches, Postgres.contains, Like.isMatch_iff]
  constructor
  · rintro ⟨⟨⟨⟨⟨horganization, hstatus⟩, hpriority⟩, hassignee⟩, hsearch⟩, howner⟩
    exact ⟨⟨horganization, howner.neg_resolve_left⟩, hstatus, hpriority, hassignee, hsearch⟩
  · rintro ⟨⟨horganization, howner⟩, hstatus, hpriority, hassignee, hsearch⟩
    refine ⟨⟨⟨⟨⟨horganization, hstatus⟩, hpriority⟩, hassignee⟩, hsearch⟩, ?_⟩
    exact or_iff_not_imp_left.mpr fun hrole => howner (not_not.mp hrole)

lemma satisfies_of_unfiltered {found : String → String → Prop} (h : Unfiltered query) :
    Satisfies found query t := by
  obtain ⟨hstatus, hpriority, hassignee, hsearch⟩ := h
  simp [Satisfies, hstatus, hpriority, hassignee, hsearch]

/-- `findOne` returns the ticket with the id if the actor has access to it. -/
lemma findOne_eq_ok :
    findOne actor id db = .ok t ↔ db.tickets.find? id = some t ∧ Accessible actor t := by
  constructor
  · intro h
    obtain ⟨hfind, horganization, howner⟩ := findOne_ok h
    exact ⟨hfind, horganization, howner⟩
  · rintro ⟨hfind, horganization, howner⟩
    have hsome : (db.tickets.rows.find? fun r =>
        r.id = id ∧ r.organizationId = actor.organizationId) = some t := by
      refine (Table.rows_find?_eq_some fun r hr => (of_decide_eq_true hr).1).mpr ⟨hfind, ?_⟩
      exact decide_eq_true ⟨(Table.find?_eq_some.mp hfind).2, horganization⟩
    rw [findOne, hsome]
    exact if_neg fun hcustomer => hcustomer.2 (howner hcustomer.1)

/-- `update` passes its checks when `findOne` does and the customer rule is kept. -/
lemma checkUpdate_eq_ok {dto : UpdateTicketDto}
    (hdto : actor.role = .customer → dto.status.truthy = false ∧ dto.priority.truthy = false) :
    checkUpdate actor id dto db = .ok t ↔ findOne actor id db = .ok t := by
  refine ⟨fun h => (checkUpdate_ok h).1, fun h => ?_⟩
  rw [checkUpdate, h]
  refine if_neg ?_
  rintro ⟨hrole, htruthy⟩
  simp [hdto hrole] at htruthy

/-- The pages of the listing have the matching tickets, whatever order they come in. -/
lemma lists_iff (h : InOneOrder pg db actor query) :
    Lists pg db actor query t ↔
      findOne actor t.id db = .ok t ∧ Satisfies (Matches pg) query t := by
  have hshown : .ticket t ∈ ((ListRequest.tickets actor query).listing pg db).shown ↔
      t ∈ db.tickets.rows ∧ «where» pg actor query t := by
    simp [Listing.shown, Listing.matching, ListRequest.listing]
  have hlists : Lists pg db actor query t ↔
      .ticket t ∈ ((ListRequest.tickets actor query).listing pg db).pages pg := by
    simp [Lists, ListRequest.traverse_eq, ListRequest.refusal?]
  rw [hlists, (Listing.pages_perm_of_inOneOrder _ h).mem_iff, hshown, where_iff, findOne_eq_ok,
    and_assoc, and_congr_left_iff]
  exact fun _ => ⟨Table.find?_self, fun hfind => (Table.find?_eq_some.mp hfind).1⟩

/-- All ways to a ticket follow one rule: the ticket is on a page of the unfiltered listing if and
only if it can be read, its comments can be listed, a comment on it passes the access check, and an
update of it, within the rule for customers, passes the checks. A filtered listing has exactly those
of these tickets that satisfy the filters and match the search text; to match a search text without
wildcards is to contain it. -/
theorem access_paths_agree (hunfiltered : Unfiltered query) (horder : InOneOrder pg db actor query)
    {dto : UpdateTicketDto}
    (hdto : actor.role = .customer → dto.status.truthy = false ∧ dto.priority.truthy = false)
    {env : Env} (hfault : env.fault .query = none) (commentQuery : CommentQueryDto)
    (commentDto : CreateCommentDto) (cid : Option String) (id : Uuid) :
    [∃ t, t.id = id ∧ Lists pg db actor query t,
      ∃ t, findOne actor id db = .ok t,
      ∃ result, CommentsService.findForTicket pg actor id commentQuery db = .ok result,
      (Call.commentsCreate actor id commentDto cid).exec env db =
        (db, .commentsCreateTransaction actor id commentDto cid),
      ∃ t, (Call.ticketsUpdate actor id dto cid).exec env db =
        (db, .ticketsUpdateTransaction actor id dto cid t)].TFAE ∧
      (∀ filtered, InOneOrder pg db actor filtered → ∀ t,
        Lists pg db actor filtered t ↔
          findOne actor t.id db = .ok t ∧ Satisfies (Matches pg) filtered t) ∧
      ∀ search text, Like.Plain search.toList →
        (Matches pg search text ↔ Contains pg search text) := by
  refine ⟨?_, fun filtered hfiltered t => lists_iff hfiltered, fun search text hplain => ?_⟩
  case refine_2 =>
    rw [Matches, ← Like.isMatch_iff]
    exact Postgres.contains_iff_of_plain hplain
  tfae_have 1 ↔ 2 := by
    constructor
    · rintro ⟨t, rfl, ht⟩
      exact ⟨t, ((lists_iff horder).mp ht).1⟩
    · rintro ⟨t, ht⟩
      obtain ⟨-, rfl⟩ := Table.find?_eq_some.mp (findOne_eq_ok.mp ht).1
      exact ⟨t, rfl, (lists_iff horder).mpr ⟨ht, satisfies_of_unfiltered hunfiltered⟩⟩
  tfae_have 2 ↔ 3 := by
    unfold CommentsService.findForTicket
    cases findOne actor id db <;> simp
  tfae_have 2 ↔ 4 := by
    rw [Call.exec, Call.query_eq_iff hfault fun _ h => by cases h]
    simp
  tfae_have 2 ↔ 5 := by
    refine exists_congr fun t => ?_
    rw [Call.exec, Call.query_eq_iff hfault fun _ h => by cases h]
    simp [checkUpdate_eq_ok hdto]
  tfae_finish

theorem access_paths_agree_shared :
    let admin : AuthenticatedUser := ⟨11, "admin@acme.test", .admin, 1⟩
    findOne admin 140 Seed.shared = .ok Seed.ticket ∧
      [∃ t, t.id = 140 ∧ Lists .arbitrary Seed.shared admin Seed.ticketQuery t,
        ∃ t, findOne admin 140 Seed.shared = .ok t,
        ∃ result, CommentsService.findForTicket .arbitrary admin 140
          Seed.ticketQuery.toPaginationQueryDto Seed.shared = .ok result,
        (Call.commentsCreate admin 140 ⟨"It is back.", .undefined⟩ none).exec (Seed.env 3)
          Seed.shared = (Seed.shared, .commentsCreateTransaction admin 140
            ⟨"It is back.", .undefined⟩ none),
        ∃ t, (Call.ticketsUpdate admin 140 Seed.closeDto none).exec (Seed.env 3) Seed.shared =
          (Seed.shared, .ticketsUpdateTransaction admin 140 Seed.closeDto none t)].TFAE ∧
      (∀ filtered, InOneOrder .arbitrary Seed.shared admin filtered → ∀ t,
        Lists .arbitrary Seed.shared admin filtered t ↔
          findOne admin t.id Seed.shared = .ok t ∧ Satisfies (Matches .arbitrary) filtered t) ∧
      ∀ search text, Like.Plain search.toList →
        (Matches .arbitrary search text ↔ Contains .arbitrary search text) :=
  ⟨rfl, access_paths_agree ⟨rfl, rfl, rfl, rfl⟩ (Listing.inOneOrder_arbitrary _) (by decide) rfl
    _ _ _ _⟩

/-- The search text `%` is found in every ticket: the listing shows a ticket that has no `%` in its
title nor in its reference. -/
theorem shows_without_search_text :
    let admin : AuthenticatedUser := ⟨11, "admin@acme.test", .admin, 1⟩
    let query : TicketQueryDto := { Seed.ticketQuery with search := .value "%" }
    InOneOrder .arbitrary Seed.shared admin query ∧
      ¬∀ t, Lists .arbitrary Seed.shared admin query t ↔
        findOne admin t.id Seed.shared = .ok t ∧ Satisfies (Contains .arbitrary) query t := by
  intro admin query
  have horder : InOneOrder .arbitrary Seed.shared admin query := Listing.inOneOrder_arbitrary _
  refine ⟨horder, fun h => ?_⟩
  have hmatches : Matches .arbitrary "%" Seed.ticket.title := Like.isMatch_iff.mp (by decide)
  have hlists : Lists .arbitrary Seed.shared admin query Seed.ticket := by
    refine (lists_iff horder).mpr ⟨rfl, ?_⟩
    simp [Satisfies, query, Seed.ticketQuery, Field.value?, Field.text?, hmatches]
  obtain ⟨-, -, -, -, hcontains⟩ := (h Seed.ticket).mp hlists
  refine absurd (hcontains "%" rfl) (not_or.mpr ⟨?_, ?_⟩)
  · unfold Contains
    decide
  · unfold Contains
    decide

end TicketsService

end SupportPlatform
