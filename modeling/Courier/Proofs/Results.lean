/-!
# Results of steps in a row

Steps that may fail are done one after another, and the first failure is that of all of them. These
laws take a whole apart: it succeeds if every step does (`bind_eq_ok_iff`), and it fails as the
first step fails or, that one having succeeded, as the rest does (`bind_eq_error_iff`).
-/
namespace Courier

variable {ε ε' α β σ : Type}

/-- Two steps succeed if the first does and the second does with its result. -/
theorem bind_eq_ok_iff {first : Except ε α} {second : α → Except ε β} {result : β} :
    (first >>= second) = .ok result ↔ ∃ between, first = .ok between ∧ second between = .ok result
    := by
  cases first <;> simp [bind, Except.bind]

/-- Two steps fail as the first does, or as the second does with the result of the first. -/
theorem bind_eq_error_iff {first : Except ε α} {second : α → Except ε β} {error : ε} :
    (first >>= second) = .error error ↔
      first = .error error ∨ ∃ between, first = .ok between ∧ second between = .error error := by
  cases first <;> simp [bind, Except.bind]

/-- A step under another error succeeds as it does. -/
theorem mapError_eq_ok_iff {step : Except ε α} {rename : ε → ε'} {result : α} :
    step.mapError rename = .ok result ↔ step = .ok result := by
  constructor
  · intro fine
    cases step with
    | error error => exact nomatch fine
    | ok other => exact congrArg Except.ok (Except.ok.inj fine)
  · rintro rfl
    rfl

/-- A step under another error fails with what that error makes of its own. -/
theorem mapError_eq_error_iff {step : Except ε α} {rename : ε → ε'} {error : ε'} :
    step.mapError rename = .error error ↔ ∃ inner, step = .error inner ∧ rename inner = error := by
  constructor
  · intro failed
    cases step with
    | error inner => exact ⟨inner, rfl, Except.error.inj failed⟩
    | ok result => exact nomatch failed
  · rintro ⟨inner, rfl, rfl⟩
    rfl

/-- Nothing is done after a refusal. -/
theorem throw_bind {error : ε} {after : α → Except ε β} :
    ((throw error : Except ε α) >>= after) = throw error := rfl

/-- A refusal behind a test comes exactly if the test succeeds. -/
theorem guard_eq_ok_iff {refused : Prop} [Decidable refused] {error : ε} {rest : Except ε α}
    {result : α} :
    (if refused then throw error else rest) = .ok result ↔ ¬refused ∧ rest = .ok result := by
  by_cases refused <;> simp_all [throw, throwThe, MonadExceptOf.throw]

/-- A list of steps fails exactly if some step does, after those before it have succeeded. -/
theorem foldlM_eq_error_iff {step : σ → α → Except ε σ} {inputs : List α} {state : σ} {error : ε} :
    inputs.foldlM step state = .error error ↔
      ∃ before input after between, inputs = before ++ input :: after ∧
        before.foldlM step state = .ok between ∧ step between input = .error error := by
  constructor
  · intro failed
    induction inputs generalizing state with
    | nil => exact nomatch failed
    | cons input inputs ih =>
      rw [List.foldlM_cons, bind_eq_error_iff] at failed
      rcases failed with first | ⟨next, fine, later⟩
      · exact ⟨[], input, inputs, state, rfl, rfl, first⟩
      · obtain ⟨before, culprit, after, between, rfl, passed, fails⟩ := ih later
        refine ⟨input :: before, culprit, after, between, rfl, ?_, fails⟩
        rw [List.foldlM_cons, fine]
        exact passed
  · rintro ⟨before, input, after, between, rfl, passed, fails⟩
    rw [List.foldlM_append, passed, bind_eq_error_iff]
    refine .inr ⟨between, rfl, ?_⟩
    rw [List.foldlM_cons, fails]
    rfl

end Courier
