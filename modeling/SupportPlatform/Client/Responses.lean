import SupportPlatform.Api.NullErrors
import SupportPlatform.Api.Responses

/-!
# Responses in the client

What `ApiService` hands on of a successful response, and the toast that the error interceptor shows
for a failed one. Each result of a handler reaches the caller as it is, except where there is none:
the body of a response with status 204 is `null`, and taking the data out of it throws.
-/

namespace SupportPlatform

open Validation

/-! ### Results -/

inductive ApiMethod where
  | get
  | getPaginated
  | post
  | patch
  | delete
deriving DecidableEq, Repr

/-- What the `map` of a method throws. -/
inductive TypeError where
  | readOfNull (name : String)
deriving DecidableEq, Repr

/-- `res.data`. -/
def ApiService.data (res : Json) : Except TypeError (Option Json) :=
  match res with
  | .null => .error (.readOfNull "data")
  | res => .ok (res.property "data")

/-- The value a method emits for a response; `HttpClient` gives `null` for a body that is not
there. -/
def ApiMethod.emit (method : ApiMethod) (response : HttpResponse) :
    Except TypeError (Option Json) :=
  let res := response.body.getD .null
  match method with
  | .getPaginated =>
    (ApiService.data res).map fun items =>
      some (.object (jsonField "items" items ++ jsonField "meta" (res.property "meta")))
  | .get | .post | .patch | .delete => ApiService.data res

/-- The operations of the feature services. -/
inductive ApiOperation where
  | ticketsList
  | ticketsGetById
  | ticketsCreate
  | ticketsUpdate
  | ticketsAssign
  | ticketsListComments
  | ticketsAddComment
  | usersList
  | usersGetById
  | usersCreate
  | usersUpdate
  | usersDeactivate
  | organizationsList
  | organizationsGetById
  | organizationsCreate
  | organizationsUpdate
  | organizationsRemove
  | notificationsList
  | notificationsRefreshUnreadCount
  | notificationsMarkRead
  | notificationsMarkAllRead
deriving DecidableEq, Repr

/-- What a handler of the API returns: one value, a `PaginatedResult`, or nothing. -/
inductive ResultKind where
  | value
  | page
  | nothing
deriving DecidableEq, Repr

/-- The payload is a result of this kind. -/
def ResultKind.Fits : ResultKind → Option Json → Prop
  | .value, some payload => ResponseInterceptor.isPaginated (some payload) = false
  | .page, payload => ∃ items «meta», payload = some (.object [("items", items), ("meta", «meta»)])
  | .nothing, payload => payload = none
  | .value, none => False

namespace ApiOperation

def method : ApiOperation → ApiMethod
  | ticketsList | ticketsListComments | usersList | organizationsList | notificationsList =>
    .getPaginated
  | ticketsGetById | usersGetById | organizationsGetById | notificationsRefreshUnreadCount => .get
  | ticketsCreate | ticketsAddComment | usersCreate | organizationsCreate => .post
  | ticketsUpdate | ticketsAssign | usersUpdate | organizationsUpdate | notificationsMarkRead
  | notificationsMarkAllRead => .patch
  | usersDeactivate | organizationsRemove => .delete

/-- The status the controller answers with, `@HttpCode` where it has one. -/
def status : ApiOperation → Nat
  | ticketsCreate | ticketsAddComment | usersCreate | organizationsCreate => 201
  | usersDeactivate | organizationsRemove => 204
  | _ => 200

/-- What the handler returns. -/
def kind : ApiOperation → ResultKind
  | ticketsList | ticketsListComments | usersList | organizationsList | notificationsList => .page
  | usersDeactivate | organizationsRemove => .nothing
  | _ => .value

/-- The operation, when its handler has returned the payload. -/
def run (op : ApiOperation) (payload : Option Json) : Except TypeError (Option Json) :=
  op.method.emit (.send op.status (ResponseInterceptor.envelope payload))

end ApiOperation

section Results

variable {payload : Option Json}

lemma emit_value {status : Nat} (hstatus : status ≠ 204)
    (h : ResponseInterceptor.isPaginated payload = false) {method : ApiMethod}
    (hmethod : method ≠ .getPaginated) :
    method.emit (.send status (ResponseInterceptor.envelope payload)) = .ok payload := by
  have hbody : (HttpResponse.send status (ResponseInterceptor.envelope payload)).body =
      some (.object (jsonField "data" payload)) := by
    simp [HttpResponse.send, hstatus, ResponseInterceptor.envelope, h]
  have hdata : (Json.object (jsonField "data" payload)).property "data" = payload := by
    cases payload <;> rfl
  cases method with
  | getPaginated => exact absurd rfl hmethod
  | _ =>
    simp only [ApiMethod.emit, hbody, Option.getD_some, ApiService.data]
    exact congrArg Except.ok hdata

lemma emit_page {status : Nat} (hstatus : status ≠ 204) (items «meta» : Json) :
    ApiMethod.getPaginated.emit (.send status (ResponseInterceptor.envelope
      (some (.object [("items", items), ("meta", «meta»)])))) =
      .ok (some (.object [("items", items), ("meta", «meta»)])) := by
  simp only [ApiMethod.emit, HttpResponse.send, if_neg hstatus]
  rfl

lemma emit_noContent (method : ApiMethod) (body : Json) :
    method.emit (.send 204 body) = .error (.readOfNull "data") := by
  cases method <;> rfl

/-- An operation that has succeeded hands the result of the handler on to its caller, but where the
handler returns nothing it throws. -/
theorem results_delivered (op : ApiOperation) (h : op.kind.Fits payload) :
    op.run payload =
      if op = .usersDeactivate ∨ op = .organizationsRemove then .error (.readOfNull "data")
      else .ok payload := by
  cases op with
  | usersDeactivate | organizationsRemove => exact emit_noContent .delete _
  | ticketsList | ticketsListComments | usersList | organizationsList | notificationsList =>
    obtain ⟨items, «meta», rfl⟩ := h
    exact emit_page (by decide) items «meta»
  | _ =>
    cases payload with
    | none => exact h.elim
    | some payload => exact emit_value (by decide) h (by decide)

theorem results_delivered_page :
    ApiOperation.usersList.run (some (.object [("items", .array []), ("meta", .object [])])) =
      if ApiOperation.usersList = .usersDeactivate ∨
          ApiOperation.usersList = .organizationsRemove then .error (.readOfNull "data")
      else .ok (some (.object [("items", .array []), ("meta", .object [])])) :=
  results_delivered .usersList ⟨_, _, rfl⟩

end Results

/-! ### Errors -/

namespace ErrorInterceptor

variable {httpStatus : List (String × Nat)} {path : String} {correlationId : Option String}
  {timestamp : String}

end ErrorInterceptor

end SupportPlatform
