/-!
# Steps one after the other

What comes of steps on a state that follow one another (`StateM.bind_apply`), and what is known of
them when the last one ended well (`StateM.exists_of_bind_eq_ok`).
-/

set_option autoImplicit false

namespace TestAmplification

namespace StateM

variable {S α β : Type}

@[simp] theorem pure_apply (answer : α) (state : S) :
    (pure answer : StateM S α) state = (answer, state) := rfl

@[simp] theorem bind_apply (step : StateM S α) (next : α → StateM S β) (state : S) :
    (step >>= next) state = next (step state).1 (step state).2 := rfl

@[simp] theorem map_apply (change : α → β) (step : StateM S α) (state : S) :
    (change <$> step) state = (change (step state).1, (step state).2) := rfl

/-- A step that fails whenever the one before it has failed ends well only behind one that has. -/
theorem exists_of_bind_eq_ok {ε ζ : Type} {first : StateM S (Except ε α)}
    {next : Except ε α → StateM S (Except ζ β)} {state later : S} {result : β}
    (stops : ∀ error state, ∃ failure, (next (.error error) state).1 = .error failure)
    (ended : (first >>= next) state = (.ok result, later)) :
    ∃ value between, first state = (.ok value, between) ∧
      next (.ok value) between = (.ok result, later) := by
  rw [bind_apply] at ended
  rcases ran : first state with ⟨answer, between⟩
  rw [ran] at ended
  cases answer with
  | ok value => exact ⟨value, between, rfl, ended⟩
  | error error =>
      obtain ⟨failure, failed⟩ := stops error between
      cases failed.symm.trans (congrArg Prod.fst ended)

end StateM

end TestAmplification
