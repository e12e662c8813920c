import Mathlib.Algebra.GroupWithZero.Nat
import SupportPlatform.Core.Machine

/-!
# Forms

The validators of text controls, and the component around a form: it submits the values of a valid
form, ignores the button while a submission is unanswered, stays for another attempt when one has
failed and is done when one has succeeded.
-/

namespace Forms

/-! ### Validators -/

/-- The length of a text in UTF-16 code units. -/
def utf16Length (s : String) : Nat :=
  (s.toList.map fun c => if c.toNat < 0x10000 then 1 else 2).sum

/-- A text has no more characters than code units. -/
lemma length_le_utf16Length (s : String) : s.length ≤ utf16Length s := by
  rw [← String.length_toList, utf16Length]
  induction s.toList with
  | nil => exact le_rfl
  | cons c cs ih =>
    rw [List.length_cons, List.map_cons, List.sum_cons]
    split <;> omega

inductive Validator where
  | required
  | minLength (n : Nat)
  | maxLength (n : Nat)
  | email
  | pattern (p : String → Bool)

/-- Whether a text passes a validator, for the library's notion of an email. The empty text passes
all validators but `required`. -/
def Validator.passes (isEmail : String → Bool) : Validator → String → Bool
  | required, s => s ≠ ""
  | minLength n, s => s = "" || n ≤ utf16Length s
  | maxLength n, s => utf16Length s ≤ n
  | email, s => s = "" || isEmail s
  | pattern p, s => s = "" || p s

/-- Whether a control with a text is valid. -/
def valid (isEmail : String → Bool) (validators : List Validator) (s : String) : Bool :=
  validators.all (·.passes isEmail s)

/-! ### The component -/

/-- The values that were submitted, and the answer once there is one. -/
structure Submission (V E R : Type) where
  values : V
  answer : Option (Except E R)

/-- The submission has been answered with an error. -/
def Submission.Failed {V E R : Type} (r : Submission V E R) : Prop :=
  ∃ e, r.answer = some (.error e)

/-- A component with a form: what its controls hold, and the submissions it has made. -/
structure Component (V E R : Type) where
  values : V
  saving : Bool
  closed : Bool
  submissions : List (Submission V E R)

/-- What happens to a component: the user edits the form, presses the button or leaves, and an
answer arrives. -/
inductive FormEvent (V E R : Type) where
  | edit (values : V)
  | save
  | cancel
  | answered (i : Nat) (answer : Except E R)

namespace Component

variable {V E R : Type}

/-- A component that has just been opened. -/
def opened (values : V) : Component V E R := ⟨values, false, false, []⟩

/-- The callbacks of a submission. -/
def receive (c : Component V E R) : Except E R → Component V E R
  | .ok _ => { c with closed := true }
  | .error _ => { c with saving := false }

/-- A step of a component whose values have a body to submit when they are valid. -/
def step {B : Type} (body : V → Option B) (c : Component V E R) :
    FormEvent V E R → Option (Component V E R)
  | .edit values => if c.closed then none else some { c with values }
  | .save =>
    if c.closed then none
    else if c.saving || (body c.values).isNone then some c
    else some { c with
      saving := true
      submissions := c.submissions ++ [⟨c.values, none⟩] }
  | .cancel => if c.closed then none else some { c with closed := true }
  | .answered i answer =>
    match c.submissions[i]? with
    | some ⟨values, none⟩ =>
      some (receive { c with submissions := c.submissions.set i ⟨values, some answer⟩ } answer)
    | _ => none

variable {B : Type} {body : V → Option B} {c d : Component V E R} {e : FormEvent V E R}

/-- Every submission but the last has failed, and the last one too where another may follow. -/
structure Sequential (c : Component V E R) : Prop where
  failed : ∀ r ∈ c.submissions.dropLast, r.Failed
  idle : c.saving = false → ∀ r ∈ c.submissions, r.Failed

lemma sequential_opened (values : V) : (opened values : Component V E R).Sequential :=
  ⟨fun _ hr => (by cases hr), fun _ _ hr => (by cases hr)⟩

/-- The only submission without an answer is the last one. -/
lemma Sequential.eq_concat (hc : c.Sequential) {i : Nat} {values : V}
    (hi : c.submissions[i]? = some ⟨values, none⟩) :
    ∃ before, c.submissions = before ++ [⟨values, none⟩] ∧ i = before.length ∧
      (∀ r ∈ before, r.Failed) ∧ c.saving = true := by
  obtain ⟨hlt, heq⟩ := List.getElem?_eq_some_iff.mp hi
  have hne : c.submissions ≠ [] := List.ne_nil_of_length_pos (Nat.zero_lt_of_lt hlt)
  have hsplit := List.dropLast_concat_getLast hne
  have hpending : ¬ (⟨values, none⟩ : Submission V E R).Failed := fun ⟨_, h⟩ => by cases h
  have hlast : i = c.submissions.dropLast.length := by
    by_contra hother
    have hbefore : i < c.submissions.dropLast.length := by
      rw [List.length_dropLast] at hother ⊢
      omega
    refine hpending (hc.failed _ (List.mem_of_getElem (h := hbefore) ?_))
    rw [List.getElem_dropLast, heq]
  refine ⟨c.submissions.dropLast, ?_, hlast, hc.failed, ?_⟩
  · conv_lhs => rw [← hsplit]
    simp only [List.getLast_eq_getElem, ← List.length_dropLast, ← hlast, heq]
  · refine (Bool.not_eq_false _).mp fun hidle => hpending ?_
    exact hc.idle hidle _ (List.mem_of_getElem? hi)

theorem Sequential.step (hc : c.Sequential) (h : step body c e = some d) : d.Sequential := by
  cases e with
  | edit values =>
    rw [Component.step] at h
    split_ifs at h
    cases h
    exact ⟨hc.failed, hc.idle⟩
  | save =>
    rw [Component.step] at h
    split_ifs at h with hclosed hignored
    · cases h
      exact hc
    · cases h
      simp only [Bool.or_eq_true, not_or, Bool.not_eq_true] at hignored
      refine ⟨?_, fun hidle => by cases hidle⟩
      rw [List.dropLast_concat]
      exact hc.idle hignored.1
  | cancel =>
    rw [Component.step] at h
    split_ifs at h
    cases h
    exact ⟨hc.failed, hc.idle⟩
  | answered i answer =>
    rw [Component.step] at h
    split at h
    · next values hi =>
      obtain ⟨before, hbefore, rfl, hfailed, hsaving⟩ := hc.eq_concat hi
      have hset : c.submissions.set before.length ⟨values, some answer⟩ =
          before ++ [⟨values, some answer⟩] := by
        rw [hbefore, List.set_append_right _ _ le_rfl, Nat.sub_self, List.set_cons_zero]
      rw [hset] at h
      cases answer with
      | ok result =>
        cases h
        refine ⟨by rwa [receive, List.dropLast_concat], fun hidle => ?_⟩
        exact absurd hsaving (by simpa [receive] using hidle)
      | error error =>
        cases h
        refine ⟨by rwa [receive, List.dropLast_concat], fun _ r hr => ?_⟩
        rcases List.mem_append.mp hr with hr | hr
        · exact hfailed r hr
        · cases List.mem_singleton.mp hr
          exact ⟨error, rfl⟩
    · cases h

/-- The values that have been submitted were valid. -/
lemma step_submissions (h : step body c e = some d)
    (hc : ∀ r ∈ c.submissions, (body r.values).isSome) :
    ∀ r ∈ d.submissions, (body r.values).isSome := by
  cases e with
  | edit | cancel =>
    rw [Component.step] at h
    split_ifs at h
    cases h
    exact hc
  | save =>
    rw [Component.step] at h
    split_ifs at h with hclosed hignored
    · cases h
      exact hc
    · cases h
      intro r hr
      rcases List.mem_append.mp hr with hr | hr
      · exact hc r hr
      · cases List.mem_singleton.mp hr
        simp only [Bool.or_eq_true, not_or, Option.isNone_iff_eq_none] at hignored
        exact Option.isSome_iff_ne_none.mpr hignored.2
  | answered i answer =>
    rw [Component.step] at h
    split at h
    · next values hi =>
      have hvalues : (body values).isSome := hc _ (List.mem_of_getElem? hi)
      cases answer <;>
      · cases h
        intro r hr
        rcases List.mem_or_eq_of_mem_set hr with hr | rfl
        · exact hc r hr
        · exact hvalues
    · cases h

/-! ### Runs -/

/-- In every run of a component every submission but the last has failed: none is sent while another
is unanswered, and none after one that has succeeded. -/
theorem sequential_of_exec {values : V} {es : List (FormEvent V E R)}
    (h : Machine.exec (step body) (opened values) es = some c) : c.Sequential :=
  Machine.exec_invariant (step body) (fun _ _ _ hc h => hc.step h) (sequential_opened values) h

theorem submissions_of_exec {values : V} {es : List (FormEvent V E R)}
    (h : Machine.exec (step body) (opened values) es = some c) :
    ∀ r ∈ c.submissions, (body r.values).isSome :=
  Machine.exec_invariant (step body) (I := fun c => ∀ r ∈ c.submissions, (body r.values).isSome)
    (fun _ _ _ hc h => step_submissions h hc) (fun _ hr => by cases hr) h

end Component

end Forms
