import SupportPlatform.Schema.Statements

/-!
# Users, registration, login, organizations and notifications

The services whose operations are a lookup followed by one write. Each lookup is a function of the
tables, each write a single statement.
-/

namespace SupportPlatform

/-! ### UsersService -/

namespace UsersService

/-- The email check of `create`, shared with `AuthService.register`. -/
def checkEmail (email : String) (db : Db) : Except HttpException Unit :=
  match db.users.rows.find? (·.email = email) with
  | some _ => .error (.conflict "Email is already registered")
  | none => .ok ()

/-- The insertion of `create`: the organization is the one the body names. -/
def insert (dto : CreateUserDto) : DbTx User := do
  let env ← Transaction.ask
  createUser
    { id := env.uuid .query 0
      email := dto.email
      passwordHash := env.passwordHash
      firstName := dto.firstName
      lastName := dto.lastName
      role := dto.role
      isActive := true
      lastLoginAt := none
      organizationId := dto.organizationId
      createdAt := env.now }

/-- A user of another organization is not found. -/
def findOne (organizationId id : Uuid) (db : Db) : Except HttpException User :=
  match db.users.rows.find? fun u => u.id = id ∧ u.organizationId = organizationId with
  | none => .error (.notFound "User not found")
  | some user => .ok user

/-- The write of `update`. -/
def update (id : Uuid) (dto : UpdateUserDto) : DbTx User := updateUser id dto

/-- The write of `deactivate`. -/
def deactivate (id : Uuid) : DbTx User :=
  setUser id (fun u => { u with isActive := false }) fun _ => rfl

end UsersService

/-! ### AuthService -/

namespace AuthService

/-- The organization check of `register`. -/
def checkOrganization (dto : RegisterDto) (db : Db) : Except HttpException Unit :=
  match db.organizations.find? dto.organizationId with
  | none => .error (.notFound "Organization not found")
  | some organization =>
    if organization.isActive then .ok () else .error (.notFound "Organization not found")

/-- The user `register` creates: always a customer. -/
def customer (dto : RegisterDto) : CreateUserDto where
  email := dto.email
  password := dto.password
  firstName := dto.firstName
  lastName := dto.lastName
  role := .customer
  organizationId := dto.organizationId

/-- The insertion of `register`. -/
def insert (dto : RegisterDto) : DbTx User := UsersService.insert (customer dto)

/-- What `login` makes of the comparison of the passwords. -/
def checkCredentials (dto : LoginDto) (passwordMatches : Bool) (db : Db) :
    Except HttpException User :=
  match db.users.rows.find? (·.email = dto.email) with
  | none => .error (.unauthorized "Invalid credentials")
  | some user =>
    if user.isActive && passwordMatches then .ok user
    else .error (.unauthorized "Invalid credentials")

/-- The credential check of `login`, with the password compared to the hash of the user found. -/
def authenticate (compare : String → String → Bool) (dto : LoginDto) (db : Db) :
    Except HttpException User :=
  match db.users.rows.find? (·.email = dto.email) with
  | none => checkCredentials dto false db
  | some user => checkCredentials dto (compare dto.password user.passwordHash) db

/-- The write of `login`. -/
def stampLogin (id : Uuid) : DbTx User := do
  let env ← Transaction.ask
  setUser id (fun u => { u with lastLoginAt := some env.now }) fun _ => rfl

end AuthService

/-! ### OrganizationsService -/

namespace OrganizationsService

/-- A slug that is taken is left to the unique constraint. -/
def create (dto : CreateOrganizationDto) : DbTx Organization := do
  let env ← Transaction.ask
  createOrganization
    { id := env.uuid .query 0
      name := dto.name
      slug := dto.slug
      isActive := true
      createdAt := env.now }

def findOne (id : Uuid) (db : Db) : Except HttpException Organization :=
  match db.organizations.find? id with
  | none => .error (.notFound "Organization not found")
  | some organization => .ok organization

/-- The write of `update`. -/
def update (id : Uuid) (dto : UpdateOrganizationDto) : DbTx Organization :=
  updateOrganization id dto

/-- The write of `remove`. -/
def remove (id : Uuid) : DbTx Unit := deleteOrganization id

end OrganizationsService

/-! ### NotificationsService -/

namespace NotificationsService

/-- What marking as read writes. -/
def read (now : Time) (n : Notification) : Notification :=
  { n with isRead := true, readAt := some now }

/-- The lookup of `markRead`. -/
def findOwn (userId id : Uuid) (db : Db) : Except HttpException Notification :=
  match db.notifications.rows.find? fun n => n.id = id ∧ n.userId = userId with
  | none => .error (.notFound "Notification not found")
  | some notification => .ok notification

/-- The write of `markRead`. -/
def markRead (id : Uuid) : DbTx Notification := do
  let env ← Transaction.ask
  attempt .query fun db =>
    (updateRow db.notifications id (read env.now) (fun _ => rfl) false true).map
      fun p => (p.1, { db with notifications := p.2 })

/-- One statement, so that nothing comes between the choice of the rows and the write. -/
def markAllRead (userId : Uuid) : DbTx Unit := do
  let env ← Transaction.ask
  attempt .query fun db =>
    .ok ((), { db with
      notifications := db.notifications.modifyWhere (fun n => n.userId = userId ∧ !n.isRead)
        (read env.now) fun _ => rfl })

end NotificationsService

end SupportPlatform
