import SupportPlatform.Api.Bodies
import SupportPlatform.Client.Responses
import SupportPlatform.Core.Routing

/-!
# Navigation

The routes of the client with their guards, the way to the login page and back, and the operations
that the pages offer.
-/

namespace SupportPlatform

open Routing

/-! ### The routes -/

/-- The pages. -/
inductive Page where
  | login
  | register
  | dashboard
  | ticketList
  | ticketDetail (id : List String)
  | userList
  | organizationList
deriving DecidableEq, Repr

/-- The guards, `roleGuard` with the roles of the route's `data`. -/
inductive ClientGuard where
  | authGuard
  | roleGuard (roles : List Role)
deriving DecidableEq, Repr

abbrev ClientRoute := Route ClientGuard Page

def AUTH_ROUTES : List ClientRoute :=
  [.redirect [] ["login"],
    .component [.literal "login"] fun _ => .login,
    .component [.literal "register"] fun _ => .register]

def TICKETS_ROUTES : List ClientRoute :=
  [.component [] fun _ => .ticketList,
    .component [.param] fun params => .ticketDetail params]

def USERS_ROUTES : List ClientRoute := [.component [] fun _ => .userList]

def ORGANIZATIONS_ROUTES : List ClientRoute := [.component [] fun _ => .organizationList]

/-- `routes` of `app.routes.ts`. -/
def appRoutes : List ClientRoute :=
  [.parent [.literal "auth"] [] AUTH_ROUTES,
    .parent [] [.authGuard]
      [.redirect [] ["dashboard"],
        .component [.literal "dashboard"] fun _ => .dashboard,
        .parent [.literal "tickets"] [] TICKETS_ROUTES,
        .parent [.literal "users"] [.roleGuard [.admin]] USERS_ROUTES,
        .parent [.literal "organizations"] [.roleGuard [.admin]] ORGANIZATIONS_ROUTES],
    .wildcard ["dashboard"]]

/-- What a URL of the client is, in one table. -/
def destination : List String → Recognition ClientGuard Page
  | [] => .redirected ["dashboard"]
  | ["auth"] => .redirected ["auth", "login"]
  | ["auth", "login"] => .activated [] .login
  | ["auth", "register"] => .activated [] .register
  | ["dashboard"] => .activated [.authGuard] .dashboard
  | ["tickets"] => .activated [.authGuard] .ticketList
  | ["tickets", id] => .activated [.authGuard] (.ticketDetail [id])
  | ["users"] => .activated [.authGuard, .roleGuard [.admin]] .userList
  | ["organizations"] => .activated [.authGuard, .roleGuard [.admin]] .organizationList
  | _ => .redirected ["dashboard"]

/-- The tree of routes recognizes every URL as the table says. -/
theorem recognize_appRoutes (segments : List String) :
    recognizeAny [] segments appRoutes = some (destination segments) := by
  unfold destination
  split
  case h_10 =>
    -- a URL that the table does not list fits no route but the last
    rcases segments with _ | ⟨a, _ | ⟨b, _ | ⟨c, rest⟩⟩⟩ <;>
    simp_all [appRoutes, recognizeAny, recognize, matchPath, AUTH_ROUTES, TICKETS_ROUTES,
      USERS_ROUTES, ORGANIZATIONS_ROUTES] <;>
    split_ifs <;> simp_all [matchPath]
  all_goals simp [appRoutes, recognizeAny, recognize, matchPath, AUTH_ROUTES, TICKETS_ROUTES,
    USERS_ROUTES, ORGANIZATIONS_ROUTES, Recognition.guardedBy]

/-! ### The guards -/

section Guards

variable (serializeUrl : Url → String) (parseUrl : String → Url)

/-- What the guards answer, by the role of the user who is logged in: `none` lets the navigation
pass. -/
def ClientGuard.check (session : Option Role) : ClientGuard → Url → Option Url
  | authGuard, url =>
    if session.isSome then none
    else some ⟨["auth", "login"], [("redirectTo", serializeUrl url)]⟩
  | roleGuard allowed, _ =>
    if allowed = [] || session.any fun role => role ∈ allowed then none
    else some ⟨["dashboard"], []⟩

/-- A navigation of the router, which takes two redirects at most. -/
def Router.navigateByUrl (session : Option Role) (url : Url) : Option (Url × Page) :=
  navigate appRoutes (ClientGuard.check serializeUrl session) 3 url

/-- Where `LoginComponent` goes after a login. -/
def LoginComponent.target (url : Url) : Url :=
  match url.query.lookup "redirectTo" with
  | some redirectTo => parseUrl redirectTo
  | none => ⟨["dashboard"], []⟩

end Guards

/-! ### What the pages offer -/

/-- The `@Roles` of the handler of an operation; the empty list admits every role. -/
def ApiOperation.roles : ApiOperation → List Role
  | usersList | usersGetById | usersCreate | usersUpdate | usersDeactivate => [.admin]
  | organizationsList | organizationsGetById | organizationsCreate | organizationsUpdate
  | organizationsRemove => [.admin]
  | ticketsAssign => [.admin, .agent]
  | _ => []

/-- `RolesGuard.canActivate`. -/
def ApiOperation.admits (op : ApiOperation) (role : Role) : Bool :=
  op.roles = [] || op.roles.contains role

/-- The operations of the toolbar of `MainLayoutComponent`. -/
def MainLayoutComponent.offers : List ApiOperation :=
  [.notificationsRefreshUnreadCount, .notificationsList, .notificationsMarkRead,
    .notificationsMarkAllRead]

/-- The operations that a page and the layout around it start by themselves or offer to a user. -/
def Page.offers (role : Role) : Page → List ApiOperation
  | login | register => []
  | dashboard => MainLayoutComponent.offers ++ [.ticketsList]
  | ticketList => MainLayoutComponent.offers ++ [.ticketsList, .ticketsCreate]
  | ticketDetail _ =>
    MainLayoutComponent.offers ++ [.ticketsGetById, .ticketsListComments, .ticketsAddComment] ++
      (if role = .admin then [.usersList] else []) ++
      if role = .customer then [] else [.ticketsUpdate, .ticketsAssign]
  | userList =>
    MainLayoutComponent.offers ++ [.usersList, .usersCreate, .usersUpdate, .usersDeactivate]
  | organizationList =>
    MainLayoutComponent.offers ++
      [.organizationsList, .organizationsCreate, .organizationsUpdate, .organizationsRemove]

/-- The pages under `/auth`, which have no guard. -/
def Page.isPublic : Page → Bool
  | login | register => true
  | _ => false

namespace Router

variable {serializeUrl : Url → String} {parseUrl : String → Url} {session : Option Role}

/-- The login page, with the way back. -/
def loginUrl (serializeUrl : Url → String) (url : Url) : Url :=
  ⟨["auth", "login"], [("redirectTo", serializeUrl url)]⟩

/-! ### Where a navigation ends -/

lemma advance_appRoutes (url : Url) :
    advance appRoutes (ClientGuard.check serializeUrl session) url =
      match destination url.segments with
      | .redirected segments => .goOn { url with segments }
      | .activated guards page =>
        match guards.findSome? (ClientGuard.check serializeUrl session · url) with
        | some url' => .goOn url'
        | none => .shown url page := by
  rw [advance, recognize_appRoutes]
  cases destination url.segments <;> rfl

lemma navigate_login (n : Nat) (query : QueryString) :
    navigate appRoutes (ClientGuard.check serializeUrl session) (n + 1)
      ⟨["auth", "login"], query⟩ = some (⟨["auth", "login"], query⟩, .login) := by
  rw [navigate, advance_appRoutes]
  rfl

lemma navigate_dashboard (n : Nat) (query : QueryString) (session : Option Role) :
    navigate appRoutes (ClientGuard.check serializeUrl session) (n + 2) ⟨["dashboard"], query⟩ =
      if session.isSome then some (⟨["dashboard"], query⟩, .dashboard)
      else some (loginUrl serializeUrl ⟨["dashboard"], query⟩, .login) := by
  rw [navigate, advance_appRoutes]
  cases session with
  | none => exact navigate_login n _
  | some role => rfl

/-- Redirects lead to the dashboard or to the login page. -/
lemma destination_redirected {segments target : List String}
    (h : destination segments = .redirected target) :
    target = ["dashboard"] ∨ target = ["auth", "login"] := by
  unfold destination at h
  split at h <;> cases h <;> simp

/-- The guards of a page are those of the table. -/
lemma destination_activated {segments : List String} {guards : List ClientGuard} {page : Page}
    (h : destination segments = .activated guards page) :
    guards = [] ∧ page.isPublic = true ∨
      guards = [.authGuard] ∧ page.isPublic = false ∧
        page ≠ .userList ∧ page ≠ .organizationList ∨
      guards = [.authGuard, .roleGuard [.admin]] ∧ page.isPublic = false := by
  unfold destination at h
  split at h <;> cases h <;> simp [Page.isPublic]

/-- Without a user a navigation ends where it leads to if this is public, and otherwise at the login
page with the way back. -/
theorem navigateByUrl_none (url : Url) :
    navigateByUrl serializeUrl none url =
      match destination url.segments with
      | .redirected target =>
        if target = ["auth", "login"] then some (⟨["auth", "login"], url.query⟩, .login)
        else some (loginUrl serializeUrl ⟨["dashboard"], url.query⟩, .login)
      | .activated _ page =>
        if page.isPublic then some (url, page)
        else some (loginUrl serializeUrl url, .login) := by
  rw [navigateByUrl, navigate, advance_appRoutes]
  cases hdestination : destination url.segments with
  | redirected target =>
    rcases destination_redirected hdestination with rfl | rfl
    · exact navigate_dashboard 0 url.query none
    · exact navigate_login 1 url.query
  | activated guards page =>
    rcases destination_activated hdestination with
      ⟨rfl, hpublic⟩ | ⟨rfl, hpublic, -, -⟩ | ⟨rfl, hpublic⟩
    · simp [hpublic]
    · simp only [hpublic, Bool.false_eq_true, if_false]
      exact navigate_login 1 _
    · simp only [hpublic, Bool.false_eq_true, if_false]
      exact navigate_login 1 _

/-- With a user a navigation ends where it leads to, but for the pages of administrators. -/
theorem navigateByUrl_some (role : Role) (url : Url) :
    navigateByUrl serializeUrl (some role) url =
      match destination url.segments with
      | .redirected target =>
        some (⟨target, url.query⟩, if target = ["dashboard"] then .dashboard else .login)
      | .activated guards page =>
        if .roleGuard [.admin] ∈ guards ∧ role ≠ .admin then
          some (⟨["dashboard"], []⟩, .dashboard)
        else some (url, page) := by
  rw [navigateByUrl, navigate, advance_appRoutes]
  cases hdestination : destination url.segments with
  | redirected target =>
    rcases destination_redirected hdestination with rfl | rfl
    · exact navigate_dashboard 0 url.query (some role)
    · exact navigate_login 1 url.query
  | activated guards page =>
    rcases destination_activated hdestination with ⟨rfl, -⟩ | ⟨rfl, -, -, -⟩ | ⟨rfl, -⟩
    · simp
    · simp [ClientGuard.check]
    · by_cases hrole : role = .admin
      · simp [ClientGuard.check, hrole]
      · simp only [hrole, ne_eq, not_false_eq_true, and_true, List.mem_cons, List.not_mem_nil,
          or_false, or_true, if_true]
        have hobjects : [ClientGuard.authGuard, .roleGuard [.admin]].findSome?
            (ClientGuard.check serializeUrl (some role) · url) = some ⟨["dashboard"], []⟩ := by
          simp [ClientGuard.check, hrole]
        rw [hobjects]
        exact navigate_dashboard 0 [] (some role)

lemma admits_ticketDetail {id : List String} {role : Role} :
    ∀ op ∈ (Page.ticketDetail id).offers role, op.admits role := by
  have hoffers : ∀ op ∈ (Page.ticketDetail []).offers role, op.admits role := by
    cases role <;> decide
  exact hoffers

/-- A user is offered no operation that the API would refuse to the role. -/
lemma admits_of_offers {page : Page} {role : Role}
    (hpage : page = .userList ∨ page = .organizationList → role = .admin) :
    ∀ op ∈ page.offers role, op.admits role := by
  cases page with
  | userList | organizationList =>
    obtain rfl := hpage (by simp)
    decide
  | ticketDetail => exact admits_ticketDetail
  | _ => cases role <;> decide

/-- The URLs that lead to a public page. -/
lemma destination_public {segments : List String}
    (hurl : segments ∉ [["auth"], ["auth", "login"], ["auth", "register"]]) :
    destination segments ≠ .redirected ["auth", "login"] ∧ ∀ guards page,
      destination segments = .activated guards page → page.isPublic = false := by
  unfold destination
  split <;> simp_all [Page.isPublic]

/-- Whoever is sent to the login page by a guard ends, after the login, where the first navigation
would have led had they been logged in. The serializer is only relied on for the URL that the guard
is asked about. -/
theorem login_returns {url : Url}
    (hparse : ∀ u ∈ [url, ⟨["dashboard"], url.query⟩], parseUrl (serializeUrl u) = u)
    (hurl : url.segments ∉ [["auth"], ["auth", "login"], ["auth", "register"]]) :
    ∃ url', navigateByUrl serializeUrl none url = some (url', .login) ∧ ∀ role,
      (navigateByUrl serializeUrl (some role) (LoginComponent.target parseUrl url')).map Prod.snd =
        (navigateByUrl serializeUrl (some role) url).map Prod.snd := by
  rw [navigateByUrl_none]
  cases hdestination : destination url.segments with
  | redirected target =>
    have hlogin := (destination_public hurl).1
    rw [hdestination] at hlogin
    have htarget' : target ≠ ["auth", "login"] := fun h => hlogin (h ▸ rfl)
    obtain rfl := (destination_redirected hdestination).resolve_right htarget'
    have hback : LoginComponent.target parseUrl
        (loginUrl serializeUrl ⟨["dashboard"], url.query⟩) = ⟨["dashboard"], url.query⟩ :=
      hparse _ (by simp)
    refine ⟨_, if_neg htarget', fun role => ?_⟩
    rw [hback, navigateByUrl_some, navigateByUrl_some, hdestination]
    rfl
  | activated guards page =>
    have hpublic := (destination_public hurl).2 guards page hdestination
    have hback : LoginComponent.target parseUrl (loginUrl serializeUrl url) = url :=
      hparse _ (by simp)
    refine ⟨_, by simp only [hpublic, Bool.false_eq_true, if_false]; rfl, fun role => ?_⟩
    rw [hback]

end Router

namespace Seed

/-- URLs without a query, written with slashes. -/
def serializeUrl (url : Url) : String :=
  String.ofList (url.segments.flatMap fun segment => '/' :: segment.toList)

def parseUrl (s : String) : Url := ⟨((s.toList.splitOn '/').drop 1).map String.ofList, []⟩

end Seed

theorem Router.login_returns_users :
    ∃ url', Router.navigateByUrl Seed.serializeUrl none ⟨["users"], []⟩ = some (url', .login) ∧
      ∀ role,
        (Router.navigateByUrl Seed.serializeUrl (some role)
          (LoginComponent.target Seed.parseUrl url')).map Prod.snd =
        (Router.navigateByUrl Seed.serializeUrl (some role) ⟨["users"], []⟩).map Prod.snd :=
  Router.login_returns (by decide) (by decide)

end SupportPlatform
