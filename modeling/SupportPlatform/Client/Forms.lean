import SupportPlatform.Api.Bodies
import SupportPlatform.Api.Responses
import SupportPlatform.Client.Tab
import SupportPlatform.Core.Forms

/-!
# The forms of the client

The eight forms, each with the validators of its controls and the body it submits, against the class
that the API validates this body with. The two sides check different things: the client knows no
maximum for most texts and counts code units where the API counts characters.
-/

namespace SupportPlatform

open Forms Validation

/-! ### What the controls hold -/

structure LoginFormValues where
  email : String
  password : String

structure RegisterFormValues where
  firstName : String
  lastName : String
  email : String
  password : String
  organizationId : String

structure TicketFormValues where
  title : String
  description : String
  priority : TicketPriority
  category : String

structure UserFormValues where
  firstName : String
  lastName : String
  email : String
  password : String
  role : Role
  isActive : Bool

structure OrganizationFormValues where
  name : String
  slug : String
  isActive : Bool

/-! ### What is submitted -/

section Payloads

variable (isEmail : String → Bool)

/-- The validators of a new password. -/
def passwordValidators : List Validator := [.required, .minLength 8, .pattern passwordPattern]

/-- `submit` of the login page. -/
def LoginComponent.body (raw : LoginFormValues) : Option Json :=
  if valid isEmail [.required, .email] raw.email && valid isEmail [.required] raw.password then
    some (.object [("email", .string raw.email), ("password", .string raw.password)])
  else none

/-- `submit` of the registration page. -/
def RegisterComponent.body (raw : RegisterFormValues) : Option Json :=
  if valid isEmail [.required] raw.firstName && valid isEmail [.required] raw.lastName &&
      valid isEmail [.required, .email] raw.email &&
      valid isEmail passwordValidators raw.password &&
      valid isEmail [.required] raw.organizationId then
    some (.object
      [("firstName", .string raw.firstName), ("lastName", .string raw.lastName),
        ("email", .string raw.email), ("password", .string raw.password),
        ("organizationId", .string raw.organizationId)])
  else none

/-- `save` of a ticket, new or not: the payloads are the same. The inputs of the title and of the
category have a `maxlength`, which is a validator too. -/
def TicketFormComponent.body (raw : TicketFormValues) : Option Json :=
  if valid isEmail [.required, .minLength 3, .maxLength 160] raw.title &&
      valid isEmail [.required, .minLength 3] raw.description &&
      valid isEmail [.maxLength 80] raw.category then
    some (.object
      ([("title", .string raw.title), ("description", .string raw.description),
        ("priority", .string raw.priority.text)] ++
        jsonField "category" (if raw.category = "" then none else some (.string raw.category))))
  else none

/-- `save` of a user. A new one is put into the organization of whoever creates it; of an old one
the email and the password are neither checked nor sent. -/
def UserFormComponent.body (isEdit : Bool) (organizationId : String) (raw : UserFormValues) :
    Option Json :=
  if isEdit then
    if valid isEmail [.required] raw.firstName && valid isEmail [.required] raw.lastName &&
        valid isEmail [.required] raw.role.text then
      some (.object
        [("firstName", .string raw.firstName), ("lastName", .string raw.lastName),
          ("role", .string raw.role.text), ("isActive", .boolean raw.isActive)])
    else none
  else
    if valid isEmail [.required] raw.firstName && valid isEmail [.required] raw.lastName &&
        valid isEmail [.required, .email] raw.email &&
        valid isEmail passwordValidators raw.password &&
        valid isEmail [.required] raw.role.text then
      some (.object
        [("email", .string raw.email), ("password", .string raw.password),
          ("firstName", .string raw.firstName), ("lastName", .string raw.lastName),
          ("role", .string raw.role.text), ("organizationId", .string organizationId)])
    else none

/-- `save` of an organization. -/
def OrganizationFormComponent.body (isEdit : Bool) (raw : OrganizationFormValues) : Option Json :=
  if valid isEmail [.required] raw.name &&
      valid isEmail [.required, .pattern slugPattern] raw.slug then
    some (.object
      ([("name", .string raw.name), ("slug", .string raw.slug)] ++
        jsonField "isActive" (if isEdit then some (.boolean raw.isActive) else none)))
  else none

end Payloads

/-! ### The forms and the classes of their bodies -/

/-- The forms. The one of a new user knows the organization of whoever is logged in. -/
inductive ClientForm where
  | login
  | register
  | createTicket
  | updateTicket
  | createUser (organizationId : String)
  | updateUser
  | createOrganization
  | updateOrganization

namespace ClientForm

/-- What the controls of a form hold. -/
def Values : ClientForm → Type
  | login => LoginFormValues
  | register => RegisterFormValues
  | createTicket | updateTicket => TicketFormValues
  | createUser _ | updateUser => UserFormValues
  | createOrganization | updateOrganization => OrganizationFormValues

/-- The body a form submits when it is valid. -/
def body (isEmail : String → Bool) : (form : ClientForm) → form.Values → Option Json
  | login => LoginComponent.body isEmail
  | register => RegisterComponent.body isEmail
  | createTicket | updateTicket => TicketFormComponent.body isEmail
  | createUser organizationId => UserFormComponent.body isEmail false organizationId
  | updateUser => UserFormComponent.body isEmail true ""
  | createOrganization => OrganizationFormComponent.body isEmail false
  | updateOrganization => OrganizationFormComponent.body isEmail true

/-- The class the API validates the body with. -/
def properties (lib : Library) : ClientForm → List Property
  | login => LoginDto.properties
  | register => RegisterDto.properties
  | createTicket => CreateTicketDto.properties
  | updateTicket => UpdateTicketDto.properties
  | createUser _ => CreateUserDto.properties
  | updateUser => UpdateUserDto.properties lib
  | createOrganization => CreateOrganizationDto.properties
  | updateOrganization => UpdateOrganizationDto.properties lib

/-- A text has at least and at most so many characters, by the count of the API. -/
def Between (lib : Library) (low high : Nat) (s : String) : Prop :=
  low ≤ lib.length s ∧ lib.length s ≤ high

/-- What the API asks of the values beyond what the form has checked. -/
def Fits (lib : Library) : (form : ClientForm) → form.Values → Prop
  | login, (v : LoginFormValues) => lib.isEmail v.email ∧ 1 ≤ lib.length v.password
  | register, (v : RegisterFormValues) =>
    lib.isEmail v.email ∧ Between lib 8 72 v.password ∧ Between lib 1 80 v.firstName ∧
      Between lib 1 80 v.lastName ∧ lib.isUuid v.organizationId
  | createTicket, (v : TicketFormValues) | updateTicket, (v : TicketFormValues) =>
    3 ≤ lib.length v.title ∧ Between lib 3 5000 v.description
  | createUser organizationId, (v : UserFormValues) =>
    lib.isEmail v.email ∧ Between lib 8 72 v.password ∧ Between lib 1 80 v.firstName ∧
      Between lib 1 80 v.lastName ∧ lib.isUuid organizationId
  | updateUser, (v : UserFormValues) =>
    Between lib 1 80 v.firstName ∧ Between lib 1 80 v.lastName
  | createOrganization, (v : OrganizationFormValues)
  | updateOrganization, (v : OrganizationFormValues) =>
    Between lib 2 120 v.name ∧ lib.length v.slug ≤ 120

/-! ### What the API makes of a submitted body -/

section Bodies

variable {lib : Library} {isEmail : String → Bool} {body : Json}

lemma passwordPattern_of_valid {s : String} (h : valid isEmail passwordValidators s) :
    passwordPattern s = true := by
  simp only [valid, passwordValidators, List.all_cons, Validator.passes, Bool.and_eq_true,
    Bool.or_eq_true, decide_eq_true_eq] at h
  exact h.2.2.1.resolve_left h.1

lemma slugPattern_of_valid {s : String} (h : valid isEmail [.required, .pattern slugPattern] s) :
    slugPattern s = true := by
  simp only [valid, List.all_cons, Validator.passes, Bool.and_eq_true, Bool.or_eq_true,
    decide_eq_true_eq] at h
  exact h.2.1.resolve_left h.1

/-- The API counts no more characters than the client counts code units. -/
lemma length_le_of_valid {validators : List Validator} {n : Nat} {s : String}
    (hlength : ∀ s, lib.length s ≤ utf16Length s) (hn : .maxLength n ∈ validators)
    (h : valid isEmail validators s) : lib.length s ≤ n := by
  have hpasses := List.all_eq_true.mp h _ hn
  exact (hlength s).trans (by simpa [Validator.passes] using hpasses)

lemma text_mem_priorities (priority : TicketPriority) :
    priority.text ∈ ticketPriorities.map TicketPriority.text := by
  cases priority <;> decide

lemma text_mem_roles (role : Role) : role.text ∈ roles.map Role.text := by
  cases role <;> decide

lemma accepted_login {v : LoginFormValues} (h : LoginComponent.body isEmail v = some body) :
    (pipe lib LoginDto.properties body).isSome ↔ Fits lib .login v := by
  rw [LoginComponent.body] at h
  split_ifs at h
  obtain rfl := Option.some.inj h
  rw [isSome_pipe_iff (by simp [declaredType, LoginDto.properties, convert, toText])]
  simp [LoginDto.properties, Property.accepts, Rule.check, Fits, List.lookup_cons]

lemma accepted_register {v : RegisterFormValues}
    (h : RegisterComponent.body isEmail v = some body) :
    (pipe lib RegisterDto.properties body).isSome ↔ Fits lib .register v := by
  rw [RegisterComponent.body] at h
  split_ifs at h with hvalid
  obtain rfl := Option.some.inj h
  simp only [Bool.and_eq_true] at hvalid
  have hpattern := passwordPattern_of_valid hvalid.1.2
  rw [isSome_pipe_iff (by simp [declaredType, RegisterDto.properties, convert, toText])]
  simp [RegisterDto.properties, Property.accepts, Rule.check, Fits, List.lookup_cons, Between,
    hpattern]

/-- The optional flags of the two classes of a ticket make no difference here. -/
lemma accepted_ticket (hlength : ∀ s, lib.length s ≤ utf16Length s) {v : TicketFormValues}
    (h : TicketFormComponent.body isEmail v = some body) {dto : List Property}
    (hdto : dto = CreateTicketDto.properties ∨ dto = UpdateTicketDto.properties) :
    (pipe lib dto body).isSome ↔ 3 ≤ lib.length v.title ∧ Between lib 3 5000 v.description := by
  rw [TicketFormComponent.body] at h
  by_cases hvalid : (valid isEmail [.required, .minLength 3, .maxLength 160] v.title &&
      valid isEmail [.required, .minLength 3] v.description &&
      valid isEmail [.maxLength 80] v.category) = true
  swap
  · rw [if_neg hvalid] at h
    cases h
  rw [if_pos hvalid] at h
  obtain rfl := Option.some.inj h
  simp only [Bool.and_eq_true] at hvalid
  have htitle := length_le_of_valid (n := 160) hlength (by simp) hvalid.1.1
  have hcategory := length_le_of_valid (n := 80) hlength (by simp) hvalid.2
  have hpriority := text_mem_priorities v.priority
  by_cases hempty : v.category = "" <;> rcases hdto with rfl | rfl <;>
  · rw [isSome_pipe_iff (by simp [hempty, jsonField, declaredType, CreateTicketDto.properties,
      UpdateTicketDto.properties, convert, toText])]
    simp [hempty, jsonField, CreateTicketDto.properties, UpdateTicketDto.properties,
      Property.accepts, Rule.check, List.lookup_cons, Between, htitle, hcategory, hpriority]

/-- With and without the types of the mapped properties the texts stay as they are. -/
lemma accepted_updateUser {v : UserFormValues}
    (h : UserFormComponent.body isEmail true "" v = some body) :
    (pipe lib (UpdateUserDto.properties lib) body).isSome ↔ Fits lib .updateUser v := by
  rw [UserFormComponent.body, if_pos rfl] at h
  split_ifs at h
  obtain rfl := Option.some.inj h
  have hrole := text_mem_roles v.role
  cases htypes : lib.keepsTypes <;>
  · rw [isSome_pipe_iff (by simp [htypes, declaredType, UpdateUserDto.properties, partialType,
      omitType, mapped, CreateUserDto.properties, convert, toText, Json.toBoolean])]
    simp [UpdateUserDto.properties, partialType, omitType, mapped, CreateUserDto.properties,
      Property.accepts, Rule.check, Fits, List.lookup_cons, Between, hrole]

lemma accepted_createUser {organizationId : String} {v : UserFormValues}
    (h : UserFormComponent.body isEmail false organizationId v = some body) :
    (pipe lib CreateUserDto.properties body).isSome ↔ Fits lib (.createUser organizationId) v := by
  rw [UserFormComponent.body, if_neg Bool.false_ne_true] at h
  split_ifs at h with hvalid
  obtain rfl := Option.some.inj h
  simp only [Bool.and_eq_true] at hvalid
  have hpattern := passwordPattern_of_valid hvalid.1.2
  have hrole := text_mem_roles v.role
  rw [isSome_pipe_iff (by simp [declaredType, CreateUserDto.properties, convert, toText])]
  simp [CreateUserDto.properties, Property.accepts, Rule.check, Fits, List.lookup_cons, Between,
    hpattern, hrole]

lemma accepted_createOrganization {v : OrganizationFormValues}
    (h : OrganizationFormComponent.body isEmail false v = some body) :
    (pipe lib CreateOrganizationDto.properties body).isSome ↔ Fits lib .createOrganization v := by
  rw [OrganizationFormComponent.body, if_neg Bool.false_ne_true] at h
  split_ifs at h with hvalid
  obtain rfl := Option.some.inj h
  simp only [Bool.and_eq_true] at hvalid
  have hpattern := slugPattern_of_valid hvalid.2
  rw [isSome_pipe_iff (by simp [jsonField, declaredType, CreateOrganizationDto.properties, convert,
    toText])]
  simp [jsonField, CreateOrganizationDto.properties, Property.accepts, Rule.check, Fits,
    List.lookup_cons, Between, hpattern]

lemma accepted_updateOrganization {v : OrganizationFormValues}
    (h : OrganizationFormComponent.body isEmail true v = some body) :
    (pipe lib (UpdateOrganizationDto.properties lib) body).isSome ↔
      Fits lib .updateOrganization v := by
  rw [OrganizationFormComponent.body, if_pos rfl] at h
  split_ifs at h with hvalid
  obtain rfl := Option.some.inj h
  simp only [Bool.and_eq_true] at hvalid
  have hpattern := slugPattern_of_valid hvalid.2
  cases htypes : lib.keepsTypes <;>
  · rw [isSome_pipe_iff (by simp [htypes, jsonField, declaredType,
      UpdateOrganizationDto.properties, partialType, mapped, CreateOrganizationDto.properties,
      convert, toText, Json.toBoolean])]
    simp [jsonField, UpdateOrganizationDto.properties, partialType, mapped,
      CreateOrganizationDto.properties, Property.accepts, Rule.check, Fits, List.lookup_cons,
      Between, hpattern]

end Bodies

section Runs

variable {lib : Library} {isEmail : String → Bool} {R : Type}

/-- A body that a form submits is accepted exactly if its values fit. -/
lemma accepted_iff (hlength : ∀ s, lib.length s ≤ utf16Length s) {form : ClientForm}
    {v : form.Values} {body : Json} (h : form.body isEmail v = some body) :
    (pipe lib (form.properties lib) body).isSome ↔ form.Fits lib v := by
  cases form with
  | login => exact accepted_login h
  | register => exact accepted_register h
  | createTicket => exact accepted_ticket hlength h (.inl rfl)
  | updateTicket => exact accepted_ticket hlength h (.inr rfl)
  | createUser organizationId => exact accepted_createUser h
  | updateUser => exact accepted_updateUser h
  | createOrganization => exact accepted_createOrganization h
  | updateOrganization => exact accepted_updateOrganization h

/-- In every run of a form, however often the button is pressed, every submission but the last has
failed; and the API accepts the body of a submission exactly if its values fit. -/
theorem submissions_accepted (hlength : ∀ s, lib.length s ≤ utf16Length s) {form : ClientForm}
    {v : form.Values} {es : List (FormEvent form.Values HttpErrorResponse R)}
    {c : Component form.Values HttpErrorResponse R}
    (h : Machine.exec (Component.step (form.body isEmail)) (Component.opened v) es = some c) :
    (∀ r ∈ c.submissions.dropLast, r.Failed) ∧
      ∀ r ∈ c.submissions, ∃ body, form.body isEmail r.values = some body ∧
        ((pipe lib (form.properties lib) body).isSome ↔ form.Fits lib r.values) := by
  refine ⟨(Component.sequential_of_exec h).failed, fun r hr => ?_⟩
  obtain ⟨body, hbody⟩ := Option.isSome_iff_exists.mp (Component.submissions_of_exec h r hr)
  exact ⟨body, hbody, accepted_iff hlength hbody⟩

end Runs

end ClientForm

namespace Seed

/-- The values of a new ticket. -/
def ticketValues : TicketFormValues :=
  ⟨"Cannot log in", "The dashboard returns a 500.", .high, ""⟩

/-- The button is pressed twice, the API is down, and the user tries again. -/
def submittedRun : List (FormEvent TicketFormValues HttpErrorResponse Unit) :=
  [.save, .edit ticketValues, .save, .save, .answered 0 (.error ⟨0, "Network error"⟩), .save,
    .answered 1 (.ok ())]

end Seed

theorem ClientForm.submissions_accepted_ticket :
    ∃ c : Component TicketFormValues HttpErrorResponse Unit,
      Machine.exec (Component.step (ClientForm.createTicket.body Seed.library.isEmail))
        (Component.opened ⟨"", "", .medium, ""⟩) Seed.submittedRun = some c ∧
      (∀ r ∈ c.submissions.dropLast, r.Failed) ∧
      ∀ r ∈ c.submissions, ∃ body,
        ClientForm.createTicket.body Seed.library.isEmail r.values = some body ∧
          ((pipe Seed.library CreateTicketDto.properties body).isSome ↔
            ClientForm.createTicket.Fits Seed.library r.values) := by
  have hrun : (Machine.exec (Component.step (ClientForm.createTicket.body Seed.library.isEmail))
      (Component.opened ⟨"", "", .medium, ""⟩) Seed.submittedRun).isSome := by decide
  obtain ⟨c, hc⟩ := Option.isSome_iff_exists.mp hrun
  exact ⟨c, hc, @ClientForm.submissions_accepted _ _ _ length_le_utf16Length .createTicket _ _ _ hc⟩

end SupportPlatform
