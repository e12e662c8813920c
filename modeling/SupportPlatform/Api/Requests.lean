import SupportPlatform.Schema.Tables

/-!
# Requests and guards

The writing requests of the controllers, and what runs before a handler: `JwtAuthGuard`, which
rehydrates the user of the access token, and `RolesGuard`.
-/

namespace SupportPlatform

/-- A request to one of the writing routes, after the validation pipe. -/
inductive Request where
  | register (dto : RegisterDto)
  | login (dto : LoginDto)
  | createOrganization (dto : CreateOrganizationDto)
  | updateOrganization (id : Uuid) (dto : UpdateOrganizationDto)
  | removeOrganization (id : Uuid)
  | createUser (dto : CreateUserDto)
  | updateUser (id : Uuid) (dto : UpdateUserDto)
  | deactivateUser (id : Uuid)
  | createTicket (dto : CreateTicketDto)
  | updateTicket (id : Uuid) (dto : UpdateTicketDto)
  | assignTicket (id : Uuid) (dto : AssignTicketDto)
  | createComment (ticketId : Uuid) (dto : CreateCommentDto)
  | markRead (id : Uuid)
  | markAllRead
deriving DecidableEq, Repr

/-- `JwtStrategy.validate`: the user of a verified access token, if still active. -/
def JwtStrategy.validate (db : Db) (sub : Uuid) : Except HttpException AuthenticatedUser :=
  match db.users.find? sub with
  | none => .error (.unauthorized "User is no longer active")
  | some user =>
    if user.isActive then
      .ok
        { id := user.id
          email := user.email
          role := user.role
          organizationId := user.organizationId }
    else .error (.unauthorized "User is no longer active")

lemma JwtStrategy.validate_ok {db : Db} {sub : Uuid} {actor : AuthenticatedUser}
    (h : validate db sub = .ok actor) :
    ∃ u ∈ db.users.rows, u.id = actor.id ∧ u.organizationId = actor.organizationId ∧
      u.role = actor.role ∧ u.isActive := by
  unfold validate at h
  split at h
  · cases h
  · next user hfind =>
    split_ifs at h with hactive
    cases h
    exact ⟨user, (Table.find?_eq_some.mp hfind).1, rfl, rfl, rfl, hactive⟩

lemma JwtStrategy.validate_id {db : Db} {sub : Uuid} {actor : AuthenticatedUser}
    (h : validate db sub = .ok actor) : actor.id = sub := by
  unfold validate at h
  split at h
  · cases h
  · next user hfind =>
    split_ifs at h
    cases h
    exact (Table.find?_eq_some.mp hfind).2

/-- The `@Roles` of a route; the empty list admits every role. -/
def Request.roles : Request → List Role
  | .createOrganization _ | .updateOrganization _ _ | .removeOrganization _ => [.admin]
  | .createUser _ | .updateUser _ _ | .deactivateUser _ => [.admin]
  | .assignTicket _ _ => [.admin, .agent]
  | _ => []

/-- `RolesGuard.canActivate`. -/
def Request.admits (request : Request) (user : AuthenticatedUser) : Bool :=
  request.roles = [] || request.roles.contains user.role

/-- The removal of an organization, the only request that deletes rows. -/
def Request.isRemoval : Request → Bool
  | .removeOrganization _ => true
  | _ => false

end SupportPlatform
