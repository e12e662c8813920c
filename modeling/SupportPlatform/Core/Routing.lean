import Mathlib.Data.List.Basic
import SupportPlatform.Core.QueryString

/-!
# Routes and guards

A router over a tree of routes. A URL is recognized by the first route that fits all of it, which
redirects it or names a page with the guards of the routes above; the guards are asked in turn, and
the first that objects sends the navigation to another URL.
-/

namespace Routing

/-- A URL within the application. -/
structure Url where
  segments : List String
  query : QueryString
deriving DecidableEq, Repr

/-- A part of the path of a route: a literal, or a parameter such as `:id`. -/
inductive Segment where
  | literal (text : String)
  | param
deriving DecidableEq, Repr

/-- A route: a redirect of the whole rest of the URL, `**`, a page, or a parent with children. -/
inductive Route (Guard Page : Type) where
  | redirect (path : List Segment) (target : List String)
  | wildcard (target : List String)
  | component (path : List Segment) (page : List String → Page)
  | parent (path : List Segment) (guards : List Guard) (children : List (Route Guard Page))

/-- What a URL is recognized as. -/
inductive Recognition (Guard Page : Type) where
  | redirected (segments : List String)
  | activated (guards : List Guard) (page : Page)
deriving DecidableEq, Repr

/-- The guards of a parent come before those of its children. -/
def Recognition.guardedBy {Guard Page : Type} (guards : List Guard) :
    Recognition Guard Page → Recognition Guard Page
  | redirected segments => redirected segments
  | activated guards' page => activated (guards ++ guards') page

/-- The segments that a path takes, the parameters among them, and the rest. -/
def matchPath : List Segment → List String → Option (List String × List String × List String)
  | [], segments => some ([], [], segments)
  | .literal text :: path, s :: segments =>
    if s = text then (matchPath path segments).map fun m => (s :: m.1, m.2.1, m.2.2) else none
  | .param :: path, s :: segments =>
    (matchPath path segments).map fun m => (s :: m.1, s :: m.2.1, m.2.2)
  | _ :: _, [] => none

section Recognize

variable {Guard Page : Type}

mutual

/-- What a route recognizes the rest of a URL as, after the segments of its parents. -/
def recognize (consumed segments : List String) :
    Route Guard Page → Option (Recognition Guard Page)
  | .redirect path target =>
    match matchPath path segments with
    | some (_, _, []) => some (.redirected (consumed ++ target))
    | _ => none
  | .wildcard target => some (.redirected (consumed ++ target))
  | .component path page =>
    match matchPath path segments with
    | some (_, params, []) => some (.activated [] (page params))
    | _ => none
  | .parent path guards children =>
    match matchPath path segments with
    | some (taken, _, rest) =>
      (recognizeAny (consumed ++ taken) rest children).map (.guardedBy guards)
    | none => none

/-- The first route that fits decides. -/
def recognizeAny (consumed segments : List String) :
    List (Route Guard Page) → Option (Recognition Guard Page)
  | [] => none
  | route :: routes =>
    match recognize consumed segments route with
    | some recognition => some recognition
    | none => recognizeAny consumed segments routes

end

end Recognize

/-! ### Navigation -/

section Navigation

variable {Guard Page : Type} (routes : List (Route Guard Page)) (check : Guard → Url → Option Url)

/-- What becomes of a navigation in one step: another URL, or a page at this one. -/
inductive Outcome (Page : Type) where
  | goOn (url : Url)
  | shown (url : Url) (page : Page)
  | unknown
deriving DecidableEq, Repr

/-- A redirect keeps the query, and a guard decides on the URL that is left then. -/
def advance (url : Url) : Outcome Page :=
  match recognizeAny [] url.segments routes with
  | none => .unknown
  | some (.redirected segments) => .goOn { url with segments }
  | some (.activated guards page) =>
    match guards.findSome? (check · url) with
    | some url' => .goOn url'
    | none => .shown url page

/-- The URL and the page a navigation ends at, with so many steps to go. -/
def navigate : Nat → Url → Option (Url × Page)
  | 0, _ => none
  | n + 1, url =>
    match advance routes check url with
    | .goOn url' => navigate n url'
    | .shown url page => some (url, page)
    | .unknown => none

variable {routes check}

end Navigation

end Routing
