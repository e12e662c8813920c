import Mathlib.Data.Option.Basic
import Mathlib.Tactic.Lemma
import SupportPlatform.Core.JsNumber

/-!
# Validated bodies

A validation pipe over JSON bodies whose classes are given property by property: the type a value
is implicitly converted to, whether the property is optional, and the rules for its value. The pipe
converts what was sent, refuses properties the class does not declare and then applies the rules. An
optional property passes without them when it is missing or `null`.
-/

namespace Validation

inductive Json where
  | null
  | boolean (b : Bool)
  | number (n : JsNumber)
  | string (s : String)
  | array (items : List Json)
  | object (entries : List (String × Json))

namespace Json

def toBoolean : Json → Bool
  | .null => false
  | .boolean b => b
  | .number n => n ≠ 0 ∧ n ≠ .nan
  | .string s => s ≠ ""
  | .array _ | .object _ => true

/-- The properties of a body, where an array has its indices. The body parser lets nothing else
through. -/
def entries : Json → Option (List (String × Json))
  | .object entries => some entries
  | .array items => some (items.zipIdx.map fun p => (toString p.2, p.1))
  | _ => none

/-- `body[name]`; `none` is `undefined`. -/
def property (body : Json) (name : String) : Option Json := body.entries.bind (·.lookup name)

end Json

/-- The validators and conversions that are not spelled out: the length of a text, what counts as an
email and a uuid, the text of a number and of an object, whose conversion can throw, and whether the
mapped types pass on the declared types. -/
structure Library where
  length : String → Nat
  isEmail : String → Bool
  isUuid : String → Bool
  numberText : JsNumber → String
  objectText : List (String × Json) → Option String
  keepsTypes : Bool

/-- The types a value is converted to. An enum of texts counts as `string`. -/
inductive DeclaredType where
  | string
  | boolean
deriving DecidableEq

inductive Rule where
  | isString
  | minLength (n : Nat)
  | maxLength (n : Nat)
  | isEnum (values : List String)
  | isBoolean
  | isEmail
  | isUuid
  | matches (pattern : String → Bool)

/-- A property of a class, with its decorators. -/
structure Property where
  name : String
  declared : Option DeclaredType
  optional : Bool
  rules : List Rule

/-- The properties an instance of a class has been given. -/
abbrev Instance := List (String × Json)

section Pipe

variable (lib : Library)

/-- `String`, where it does not throw. -/
def toText : Json → Option String
  | .null => some "null"
  | .boolean b => some (toString b)
  | .number n => some (lib.numberText n)
  | .string s => some s
  | .array _ => none
  | .object entries => lib.objectText entries

/-- The implicit conversion. It leaves `null` alone, and the items of an array do not matter to any
rule. -/
def convert : Option DeclaredType → Json → Option Json
  | _, .null => some .null
  | _, .array items => some (.array items)
  | some .string, v => (toText lib v).map .string
  | some .boolean, v => some (.boolean v.toBoolean)
  | none, v => some v

/-- A rule for the value of a property. None accepts `undefined`. -/
def Rule.check : Rule → Option Json → Bool
  | .isString, some (.string _) => true
  | .minLength n, some (.string s) => n ≤ lib.length s
  | .maxLength n, some (.string s) => lib.length s ≤ n
  | .isEnum values, some (.string s) => s ∈ values
  | .isBoolean, some (.boolean _) => true
  | .isEmail, some (.string s) => lib.isEmail s
  | .isUuid, some (.string s) => lib.isUuid s
  | .matches pattern, some (.string s) => pattern s
  | _, _ => false

/-- `@IsOptional` skips the rules for `undefined` and `null`. -/
def Property.accepts (p : Property) (value : Option Json) : Bool :=
  match p.optional, value with
  | true, none | true, some .null => true
  | _, value => p.rules.all (·.check lib value)

/-- The type a property is declared with. -/
def declaredType (dto : List Property) (name : String) : Option DeclaredType :=
  (dto.find? (·.name = name)).bind Property.declared

/-- What the properties of a body are converted to. -/
def toInstance (dto : List Property) (entries : List (String × Json)) : Option Instance :=
  entries.mapM fun e => (convert lib (declaredType dto e.1) e.2).map (e.1, ·)

/-- The pipe: the instance of an accepted body. -/
def pipe (dto : List Property) (body : Json) : Option Instance := do
  let entries ← body.entries
  let converted ← toInstance lib dto entries
  guard (∀ e ∈ entries, ∃ p ∈ dto, p.name = e.1)
  guard (∀ p ∈ dto, p.accepts lib (converted.lookup p.name))
  return converted

/-! ### Mapped types -/

/-- A property of a class that a mapped type is made of. -/
def mapped (p : Property) : Property :=
  { p with declared := if lib.keepsTypes then p.declared else none }

/-- What is omitted is no longer a property, so the pipe refuses it. -/
def omitType (names : List String) (dto : List Property) : List Property :=
  (dto.filter fun p => p.name ∉ names).map (mapped lib)

/-- An optional property may also be `null`. -/
def partialType (dto : List Property) : List Property :=
  dto.map fun p => { mapped lib p with optional := true }

end Pipe

/-! ### What the pipe lets through -/

section Pipe

variable {lib : Library} {dto : List Property} {body : Json} {i : Instance}

lemma Rule.check_isString {v : Option Json} :
    Rule.isString.check lib v ↔ ∃ s, v = some (.string s) := by
  unfold check
  split <;> simp_all

/-- The conversion keeps `null` and makes no other value `null`. -/
lemma convert_eq_null {declared : Option DeclaredType} {v : Json} :
    convert lib declared v = some .null ↔ v = .null := by
  unfold convert
  split
  · simp
  · simp
  · next hnull _ => simpa using hnull
  · next hnull _ => simpa using hnull
  · simp

/-- The instance has the converted value of each property. -/
lemma lookup_toInstance {entries : List (String × Json)}
    (h : toInstance lib dto entries = some i) (name : String) :
    i.lookup name = (entries.lookup name).bind (convert lib (declaredType dto name)) := by
  induction entries generalizing i with
  | nil =>
    cases h
    rfl
  | cons e entries ih =>
    obtain ⟨key, v⟩ := e
    simp only [toInstance, List.mapM_cons, Option.bind_eq_bind, Option.bind_eq_some_iff,
      Option.map_eq_some_iff, Option.pure_def, Option.some.injEq] at h
    obtain ⟨_, ⟨w, hw, rfl⟩, rest, hrest, rfl⟩ := h
    rw [List.lookup_cons, List.lookup_cons]
    by_cases hkey : name = key
    · subst hkey
      simp [hw]
    · have hne : (name == key) = false := by simpa using hkey
      rw [hne]
      exact ih hrest

theorem pipe_eq_some :
    pipe lib dto body = some i ↔
      ∃ entries, body.entries = some entries ∧ toInstance lib dto entries = some i ∧
        (∀ e ∈ entries, ∃ p ∈ dto, p.name = e.1) ∧
        ∀ p ∈ dto, p.accepts lib (i.lookup p.name) := by
  simp only [pipe, Option.bind_eq_bind, Option.bind_eq_some_iff, Option.guard_eq_some']
  constructor
  · rintro ⟨entries, hentries, j, hconverted, _, hnames, _, haccepts, hij⟩
    cases hij
    exact ⟨entries, hentries, hconverted, hnames, haccepts⟩
  · rintro ⟨entries, hentries, hconverted, hnames, haccepts⟩
    exact ⟨entries, hentries, i, hconverted, (), hnames, (), haccepts, rfl⟩

/-- A property of an accepted instance is `null` exactly if the body says so. -/
theorem lookup_eq_null_iff (h : pipe lib dto body = some i) (name : String) :
    i.lookup name = some .null ↔ body.property name = some .null := by
  obtain ⟨entries, hentries, hconverted, -, -⟩ := pipe_eq_some.mp h
  rw [lookup_toInstance hconverted, Json.property, hentries]
  rw [Option.bind_eq_some_iff, Option.bind_some]
  constructor
  · rintro ⟨v, hv, hnull⟩
    rw [hv, convert_eq_null.mp hnull]
  · intro hnull
    exact ⟨.null, hnull, convert_eq_null.mpr rfl⟩

/-- The properties of an accepted instance are declared. -/
lemma declared_of_lookup (h : pipe lib dto body = some i) {name : String} {v : Json}
    (hv : i.lookup name = some v) : ∃ p ∈ dto, p.name = name := by
  obtain ⟨entries, -, hconverted, hnames, -⟩ := pipe_eq_some.mp h
  rw [lookup_toInstance hconverted] at hv
  obtain ⟨w, hw, -⟩ := Option.bind_eq_some_iff.mp hv
  obtain ⟨before, after, rfl, -⟩ := List.lookup_eq_some_iff.mp hw
  exact hnames (name, w) (List.mem_append_right before List.mem_cons_self)

lemma toInstance_of_fixed {entries : List (String × Json)}
    (hfixed : ∀ e ∈ entries, convert lib (declaredType dto e.1) e.2 = some e.2) :
    toInstance lib dto entries = some entries := by
  induction entries with
  | nil => rfl
  | cons e entries ih =>
    have hrest := ih fun e he => hfixed e (List.mem_cons_of_mem _ he)
    rw [toInstance] at hrest ⊢
    simp [List.mapM_cons, hfixed e List.mem_cons_self, hrest]

/-- A body that the conversion leaves alone is accepted if its properties are declared and the rules
hold of them as they were sent. -/
theorem isSome_pipe_iff {entries : List (String × Json)}
    (hfixed : ∀ e ∈ entries, convert lib (declaredType dto e.1) e.2 = some e.2) :
    (pipe lib dto (.object entries)).isSome ↔
      (∀ e ∈ entries, ∃ p ∈ dto, p.name = e.1) ∧
        ∀ p ∈ dto, p.accepts lib (entries.lookup p.name) := by
  rw [Option.isSome_iff_exists]
  constructor
  · rintro ⟨i, hi⟩
    obtain ⟨_, hentries, hconverted, hnames, haccepts⟩ := pipe_eq_some.mp hi
    obtain rfl := Option.some.inj hentries
    obtain rfl := Option.some.inj ((toInstance_of_fixed hfixed).symm.trans hconverted)
    exact ⟨hnames, haccepts⟩
  · rintro ⟨hnames, haccepts⟩
    exact ⟨entries, pipe_eq_some.mpr
      ⟨entries, rfl, toInstance_of_fixed hfixed, hnames, haccepts⟩⟩

/-- A property that is not optional passes each of its rules. -/
lemma check_of_required (h : pipe lib dto body = some i) {p : Property} {r : Rule} (hp : p ∈ dto)
    (hoptional : p.optional = false) (hr : r ∈ p.rules) : r.check lib (i.lookup p.name) := by
  obtain ⟨-, -, -, -, haccepts⟩ := pipe_eq_some.mp h
  have haccepted := haccepts p hp
  simp only [Property.accepts, hoptional] at haccepted
  exact List.all_eq_true.mp haccepted r hr

end Pipe

end Validation
