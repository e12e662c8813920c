import SupportPlatform.Core.Validation
import SupportPlatform.Schema.Tables

/-!
# Bodies and columns

The classes of bodies, and the `data` of the Prisma write made from an instance of the four that
reach a ticket, a user or a comment. A service passes its properties on one by one or spreads the
instance, so a `null` that the pipe lets through can end up in a column that takes none.
-/

namespace SupportPlatform

open Validation

/-! ### Enums as texts -/

def Role.text : Role → String
  | .admin => "ADMIN"
  | .agent => "AGENT"
  | .customer => "CUSTOMER"

def TicketStatus.text : TicketStatus → String
  | .open => "OPEN"
  | .inProgress => "IN_PROGRESS"
  | .pending => "PENDING"
  | .resolved => "RESOLVED"
  | .closed => "CLOSED"

def TicketPriority.text : TicketPriority → String
  | .low => "LOW"
  | .medium => "MEDIUM"
  | .high => "HIGH"
  | .urgent => "URGENT"

def roles : List Role := [.admin, .agent, .customer]

def ticketStatuses : List TicketStatus := [.open, .inProgress, .pending, .resolved, .closed]

def ticketPriorities : List TicketPriority := [.low, .medium, .high, .urgent]

/-! ### Classes -/

def CreateTicketDto.properties : List Property :=
  [{ name := "title"
     declared := some .string
     optional := false
     rules := [.isString, .minLength 3, .maxLength 160] },
    { name := "description"
      declared := some .string
      optional := false
      rules := [.isString, .minLength 3, .maxLength 5000] },
    { name := "priority"
      declared := some .string
      optional := true
      rules := [.isEnum (ticketPriorities.map TicketPriority.text)] },
    { name := "category"
      declared := some .string
      optional := true
      rules := [.isString, .maxLength 80] }]

def UpdateTicketDto.properties : List Property :=
  [{ name := "title"
     declared := some .string
     optional := true
     rules := [.isString, .minLength 3, .maxLength 160] },
    { name := "description"
      declared := some .string
      optional := true
      rules := [.isString, .minLength 3, .maxLength 5000] },
    { name := "status"
      declared := some .string
      optional := true
      rules := [.isEnum (ticketStatuses.map TicketStatus.text)] },
    { name := "priority"
      declared := some .string
      optional := true
      rules := [.isEnum (ticketPriorities.map TicketPriority.text)] },
    { name := "category"
      declared := some .string
      optional := true
      rules := [.isString, .maxLength 80] }]

def AssignTicketDto.properties : List Property :=
  [{ name := "assigneeId"
     declared := some .string
     optional := false
     rules := [.isUuid] }]

/-- `/^(?=.*[A-Za-z])(?=.*\d).+$/`, whose dots stop at the end of a line. -/
def passwordPattern (s : String) : Bool :=
  s.toList.any Char.isAlpha && s.toList.any Char.isDigit &&
    s.toList.all fun c => c ∉ ['\n', '\r', '\u2028', '\u2029']

def CreateUserDto.properties : List Property :=
  [{ name := "email"
     declared := some .string
     optional := false
     rules := [.isEmail] },
    { name := "password"
      declared := some .string
      optional := false
      rules := [.isString, .minLength 8, .maxLength 72, .matches passwordPattern] },
    { name := "firstName"
      declared := some .string
      optional := false
      rules := [.isString, .minLength 1, .maxLength 80] },
    { name := "lastName"
      declared := some .string
      optional := false
      rules := [.isString, .minLength 1, .maxLength 80] },
    { name := "role"
      declared := some .string
      optional := false
      rules := [.isEnum (roles.map Role.text)] },
    { name := "organizationId"
      declared := some .string
      optional := false
      rules := [.isUuid] }]

def UpdateUserDto.properties (lib : Library) : List Property :=
  partialType lib (omitType lib ["password", "organizationId"] CreateUserDto.properties) ++
    [{ name := "isActive"
       declared := some .boolean
       optional := true
       rules := [.isBoolean] }]

def CreateCommentDto.properties : List Property :=
  [{ name := "body"
     declared := some .string
     optional := false
     rules := [.isString, .minLength 1, .maxLength 5000] },
    { name := "isInternal"
      declared := some .boolean
      optional := true
      rules := [.isBoolean] }]

def RegisterDto.properties : List Property :=
  [{ name := "email"
     declared := some .string
     optional := false
     rules := [.isEmail] },
    { name := "password"
      declared := some .string
      optional := false
      rules := [.isString, .minLength 8, .maxLength 72, .matches passwordPattern] },
    { name := "firstName"
      declared := some .string
      optional := false
      rules := [.isString, .minLength 1, .maxLength 80] },
    { name := "lastName"
      declared := some .string
      optional := false
      rules := [.isString, .minLength 1, .maxLength 80] },
    { name := "organizationId"
      declared := some .string
      optional := false
      rules := [.isUuid] }]

def LoginDto.properties : List Property :=
  [{ name := "email"
     declared := some .string
     optional := false
     rules := [.isEmail] },
    { name := "password"
      declared := some .string
      optional := false
      rules := [.isString, .minLength 1] }]

/-- `/^[a-z0-9]+(?:-[a-z0-9]+)*$/`: words of small letters and digits with hyphens between them. -/
def slugPattern (s : String) : Bool :=
  (s.toList.splitOn '-').all fun word =>
    word ≠ [] && word.all fun c => c.isLower || c.isDigit

def CreateOrganizationDto.properties : List Property :=
  [{ name := "name"
     declared := some .string
     optional := false
     rules := [.isString, .minLength 2, .maxLength 120] },
    { name := "slug"
      declared := some .string
      optional := false
      rules := [.isString, .matches slugPattern, .maxLength 120] }]

def UpdateOrganizationDto.properties (lib : Library) : List Property :=
  partialType lib CreateOrganizationDto.properties ++
    [{ name := "isActive"
       declared := some .boolean
       optional := true
       rules := [.isBoolean] }]

/-! ### Columns -/

structure Column where
  name : String
  nullable : Bool
deriving DecidableEq

/-- The models the four services write to. -/
inductive Model where
  | user
  | ticket
  | comment
deriving DecidableEq

/-- The columns `schema.prisma` declares; `?` makes one nullable. -/
def Model.columns : Model → List Column
  | .user =>
    [⟨"id", false⟩, ⟨"email", false⟩, ⟨"passwordHash", false⟩, ⟨"firstName", false⟩,
      ⟨"lastName", false⟩, ⟨"role", false⟩, ⟨"isActive", false⟩, ⟨"lastLoginAt", true⟩,
      ⟨"organizationId", false⟩, ⟨"createdAt", false⟩, ⟨"updatedAt", false⟩]
  | .ticket =>
    [⟨"id", false⟩, ⟨"reference", false⟩, ⟨"title", false⟩, ⟨"description", false⟩,
      ⟨"status", false⟩, ⟨"priority", false⟩, ⟨"category", true⟩, ⟨"organizationId", false⟩,
      ⟨"createdById", false⟩, ⟨"assignedToId", true⟩, ⟨"createdAt", false⟩, ⟨"updatedAt", false⟩,
      ⟨"closedAt", true⟩]
  | .comment =>
    [⟨"id", false⟩, ⟨"ticketId", false⟩, ⟨"authorId", false⟩, ⟨"body", false⟩,
      ⟨"isInternal", false⟩, ⟨"createdAt", false⟩, ⟨"updatedAt", false⟩]

/-- The columns declared NOT NULL. -/
def Model.required (model : Model) : List String :=
  (model.columns.filter fun c => !c.nullable).map Column.name

/-! ### Data -/

/-- What a `data` object holds for a column. -/
inductive Argument where
  | undefined
  | null
  | json (v : Json)
  | uuid (id : Uuid)
  | date (t : Time)

namespace Argument

/-- A property of an instance passed on. -/
def ofProperty : Option Json → Argument
  | none => .undefined
  | some .null => .null
  | some v => .json v

def isNull : Argument → Bool
  | .null => true
  | _ => false

@[simp] lemma isNull_json (v : Json) : (json v).isNull = false := rfl

@[simp] lemma isNull_uuid (id : Uuid) : (uuid id).isNull = false := rfl

@[simp] lemma isNull_ofProperty {v : Option Json} : (ofProperty v).isNull ↔ v = some .null := by
  unfold ofProperty
  split <;> simp_all [isNull]

@[simp] lemma isNull_ofProperty_eq_false {v : Option Json} :
    (ofProperty v).isNull = false ↔ v ≠ some .null := by
  rw [← Bool.not_eq_true, isNull_ofProperty]

end Argument

abbrev Data := List (String × Argument)

/-- The object says `null` for a column. -/
def holdsNull (data : Data) (name : String) : Bool := (data.lookup name).any Argument.isNull

/-- `...dto`. -/
def spread (dto : Instance) : Data := dto.map fun e => (e.1, .ofProperty (some e.2))

/-- A spread instance says `null` where the instance does. -/
lemma holdsNull_spread {dto : Instance} {name : String} :
    holdsNull (spread dto) name ↔ dto.lookup name = some .null := by
  induction dto with
  | nil => simp [holdsNull, spread]
  | cons e dto ih =>
    rw [holdsNull, spread, List.map_cons, List.lookup_cons, List.lookup_cons]
    cases name == e.1 with
    | true => simp
    | false => exact ih

/-- A write that Prisma is called with. -/
structure Write where
  model : Model
  data : Data

/-- The write supplies `null` for a column that is declared NOT NULL. -/
def Write.suppliesNull (write : Write) : Bool :=
  write.model.required.any (holdsNull write.data)

namespace TicketsService

/-- The `data` of `create`. -/
def createData (actor : AuthenticatedUser) (reference : String) (dto : Instance) : Data :=
  [("reference", .json (.string reference)),
    ("title", .ofProperty (dto.lookup "title")),
    ("description", .ofProperty (dto.lookup "description")),
    ("priority", .ofProperty (dto.lookup "priority")),
    ("category", .ofProperty (dto.lookup "category")),
    ("organizationId", .uuid actor.organizationId),
    ("createdById", .uuid actor.id)]

/-- `willClose`, from the instance. -/
def closes (existing : Ticket) (dto : Instance) : Bool :=
  match dto.lookup "status" with
  | some (.string status) => status = TicketStatus.closed.text && existing.status ≠ .closed
  | _ => false

/-- The `data` of `update`. What is spread last comes first in the list. -/
def updateData (existing : Ticket) (now : Time) (dto : Instance) : Data :=
  (if closes existing dto then [("closedAt", .date now)] else []) ++ spread dto

end TicketsService

/-- The `data` of `UsersService.update`. -/
def UsersService.updateData (dto : Instance) : Data := spread dto

namespace CommentsService

/-- Only staff may post internal notes: `dto.isInternal ?? false`. -/
def internalNote (actor : AuthenticatedUser) (dto : Instance) : Json :=
  if actor.role = .customer then .boolean false
  else
    match dto.lookup "isInternal" with
    | none | some .null => .boolean false
    | some v => v

/-- The `data` of `create`. -/
def createData (actor : AuthenticatedUser) (ticketId : Uuid) (dto : Instance) : Data :=
  [("ticketId", .uuid ticketId),
    ("authorId", .uuid actor.id),
    ("body", .ofProperty (dto.lookup "body")),
    ("isInternal", .ofProperty (some (internalNote actor dto)))]

end CommentsService

/-! ### Routes -/

/-- The routes whose bodies are of the four classes. -/
inductive BodyRoute where
  | createTicket
  | updateTicket
  | updateUser
  | createComment
deriving DecidableEq

namespace BodyRoute

/-- The class of a route's body. -/
def properties (lib : Library) : BodyRoute → List Property
  | .createTicket => CreateTicketDto.properties
  | .updateTicket => UpdateTicketDto.properties
  | .updateUser => UpdateUserDto.properties lib
  | .createComment => CreateCommentDto.properties

/-- The writes the service of a route can make of an instance. -/
inductive Writes (actor : AuthenticatedUser) (dto : Instance) : BodyRoute → Write → Prop
  | createTicket (reference : String) :
    Writes actor dto .createTicket ⟨.ticket, TicketsService.createData actor reference dto⟩
  | updateTicket (existing : Ticket) (now : Time) :
    Writes actor dto .updateTicket ⟨.ticket, TicketsService.updateData existing now dto⟩
  | updateUser : Writes actor dto .updateUser ⟨.user, UsersService.updateData dto⟩
  | createComment (ticketId : Uuid) :
    Writes actor dto .createComment ⟨.comment, CommentsService.createData actor ticketId dto⟩

/-- The optional properties that are passed on to a column declared NOT NULL. -/
def passedOn : BodyRoute → List String
  | .createTicket => ["priority"]
  | .updateTicket => ["title", "description", "status", "priority"]
  | .updateUser => ["email", "firstName", "lastName", "role", "isActive"]
  | .createComment => []

end BodyRoute

/-! ### Where a `null` gets through -/

section Nulls

variable {lib : Library} {dto : Instance} {body : Json} {actor : AuthenticatedUser}

lemma Write.suppliesNull_eq_false {write : Write} :
    write.suppliesNull = false ↔ ∀ name ∈ write.model.required, ¬ holdsNull write.data name := by
  simp [suppliesNull]

/-- Of the columns declared NOT NULL those count that the class of the body declares. -/
lemma required_null_iff {dtoProperties : List Property} {declared names : List String}
    {model : Model} (hpipe : pipe lib dtoProperties body = some dto)
    (hdeclared : dtoProperties.map Property.name = declared)
    (hnames : names = model.required.filter fun name => name ∈ declared) :
    (∀ name ∈ model.required, dto.lookup name ≠ some .null) ↔
      ∀ name ∈ names, dto.lookup name ≠ some .null := by
  subst hnames hdeclared
  constructor
  · intro h name hname
    exact h name (List.mem_filter.mp hname).1
  · intro h name hname hnull
    have hmem : name ∈ dtoProperties.map Property.name :=
      List.mem_map.mpr (declared_of_lookup hpipe hnull)
    exact h name (List.mem_filter.mpr ⟨hname, decide_eq_true hmem⟩) hnull

/-- `closedAt` may be null, so the spread instance decides over the other columns. -/
lemma holdsNull_updateData {existing : Ticket} {now : Time} {name : String}
    (hname : name ∈ Model.ticket.required) :
    holdsNull (TicketsService.updateData existing now dto) name ↔
      dto.lookup name = some .null := by
  have hclosedAt : ∀ name ∈ Model.ticket.required, (name == "closedAt") = false := by decide
  rw [TicketsService.updateData]
  split_ifs
  · rw [← holdsNull_spread, holdsNull, holdsNull, List.cons_append, List.lookup_cons,
      hclosedAt name hname]
    rfl
  · exact holdsNull_spread

/-- `create` passes three properties on to columns declared NOT NULL. -/
lemma holdsNull_createTicket {reference : String} :
    (∀ name ∈ Model.ticket.required,
        ¬ holdsNull (TicketsService.createData actor reference dto) name) ↔
      dto.lookup "title" ≠ some .null ∧ dto.lookup "description" ≠ some .null ∧
        dto.lookup "priority" ≠ some .null := by
  have hrequired : Model.ticket.required =
      ["id", "reference", "title", "description", "status", "priority", "organizationId",
        "createdById", "createdAt", "updatedAt"] := rfl
  rw [hrequired]
  simp [holdsNull, TicketsService.createData, List.lookup_cons]

lemma internalNote_ne_null : CommentsService.internalNote actor dto ≠ .null := by
  rw [CommentsService.internalNote]
  split_ifs
  · exact fun h => by cases h
  · split
    · exact fun h => by cases h
    · exact fun h => by cases h
    · next hnull _ => exact hnull

lemma holdsNull_createComment {ticketId : Uuid} :
    (∀ name ∈ Model.comment.required,
        ¬ holdsNull (CommentsService.createData actor ticketId dto) name) ↔
      dto.lookup "body" ≠ some .null := by
  have hrequired : Model.comment.required =
      ["id", "ticketId", "authorId", "body", "isInternal", "createdAt", "updatedAt"] := rfl
  rw [hrequired]
  simp [holdsNull, CommentsService.createData, List.lookup_cons, internalNote_ne_null]

lemma createTicket_texts (hpipe : pipe lib CreateTicketDto.properties body = some dto) :
    (∃ title, dto.lookup "title" = some (.string title)) ∧
      ∃ description, dto.lookup "description" = some (.string description) :=
  ⟨Rule.check_isString.mp (check_of_required hpipe List.mem_cons_self rfl List.mem_cons_self),
    Rule.check_isString.mp (check_of_required hpipe (List.mem_cons_of_mem _ List.mem_cons_self) rfl
      List.mem_cons_self)⟩

lemma createComment_text (hpipe : pipe lib CreateCommentDto.properties body = some dto) :
    ∃ text, dto.lookup "body" = some (.string text) :=
  Rule.check_isString.mp (check_of_required hpipe List.mem_cons_self rfl List.mem_cons_self)

/-- What an accepted instance tells of the write, route by route. -/
lemma suppliesNull_iff_lookup {route : BodyRoute} {write : Write}
    (hpipe : pipe lib (route.properties lib) body = some dto)
    (hwrite : route.Writes actor dto write) :
    write.suppliesNull = false ↔ ∀ name ∈ route.passedOn, dto.lookup name ≠ some .null := by
  rw [Write.suppliesNull_eq_false]
  cases hwrite with
  | createTicket reference =>
    obtain ⟨⟨title, htitle⟩, description, hdescription⟩ := createTicket_texts hpipe
    rw [holdsNull_createTicket]
    simp [BodyRoute.passedOn, htitle, hdescription]
  | updateTicket existing now =>
    have hnames : BodyRoute.updateTicket.passedOn = Model.ticket.required.filter fun name =>
        name ∈ ["title", "description", "status", "priority", "category"] := by decide
    refine Iff.trans ?_ (required_null_iff hpipe rfl hnames)
    exact forall₂_congr fun name hname => not_congr (holdsNull_updateData hname)
  | updateUser =>
    have hnames : BodyRoute.updateUser.passedOn = Model.user.required.filter fun name =>
        name ∈ ["email", "firstName", "lastName", "role", "isActive"] := by decide
    refine Iff.trans ?_ (required_null_iff hpipe rfl hnames)
    exact forall₂_congr fun name hname => not_congr holdsNull_spread
  | createComment ticketId =>
    obtain ⟨text, htext⟩ := createComment_text hpipe
    rw [holdsNull_createComment]
    simp [BodyRoute.passedOn, htext]

/-- The write made of an accepted body supplies no `null` for a column declared NOT NULL exactly if
the body says `null` for none of the optional properties that are passed on to such a column. -/
theorem suppliesNull_eq_false_iff {route : BodyRoute} {write : Write}
    (hpipe : pipe lib (route.properties lib) body = some dto)
    (hwrite : route.Writes actor dto write) :
    write.suppliesNull = false ↔ ∀ name ∈ route.passedOn, body.property name ≠ some .null := by
  rw [suppliesNull_iff_lookup hpipe hwrite]
  exact forall₂_congr fun name _ => not_congr (lookup_eq_null_iff hpipe name)

end Nulls

namespace Seed

/-- The validators of ASCII texts. -/
def library : Library where
  length := String.length
  isEmail s := s.toList.contains '@'
  isUuid s := s.length = 36
  numberText
    | .nan => "NaN"
    | .infinite negative => if negative then "-Infinity" else "Infinity"
    | .finite q => toString q.num
  objectText _ := some "[object Object]"
  keepsTypes := false

def loginTicket : Ticket where
  id := 31
  reference := "TKT-000001"
  title := "Cannot log in"
  description := "The dashboard returns a 500."
  status := .open
  priority := .medium
  category := none
  organizationId := 1
  createdById := 13
  assignedToId := none
  createdAt := 0
  updatedAt := 0
  closedAt := none

def actor : AuthenticatedUser := ⟨12, "agent@acme.test", .agent, 1⟩

end Seed

/-- A body that closes a ticket and takes its category away. -/
theorem suppliesNull_closing :
    (Write.mk .ticket (TicketsService.updateData Seed.loginTicket 5
      [("status", .string "CLOSED"), ("category", .null)])).suppliesNull = false := by
  have hpipe : pipe Seed.library (BodyRoute.updateTicket.properties Seed.library)
      (.object [("status", .string "CLOSED"), ("category", .null)]) =
        some [("status", .string "CLOSED"), ("category", .null)] := rfl
  have hwrite : BodyRoute.updateTicket.Writes Seed.actor
      [("status", .string "CLOSED"), ("category", .null)] _ := .updateTicket Seed.loginTicket 5
  refine (suppliesNull_eq_false_iff hpipe hwrite).mpr ?_
  simp [BodyRoute.passedOn, Json.property, Json.entries, List.lookup_cons]

/-- The title of a ticket can be set to `null` as far as the pipe goes. -/
theorem not_suppliesNull : ¬ ∀ (lib : Library) (route : BodyRoute) (body : Json) (dto : Instance)
    (actor : AuthenticatedUser) (write : Write),
    pipe lib (route.properties lib) body = some dto → route.Writes actor dto write →
      write.suppliesNull = false := by
  intro h
  have hnull := h Seed.library .updateTicket (.object [("title", .null)]) [("title", .null)]
    Seed.actor _ rfl (.updateTicket Seed.loginTicket 5)
  cases hnull

end SupportPlatform
