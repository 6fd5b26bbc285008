import Mathlib.Logic.Relation
import Telematics.Report.Services

/-!
What actions do to the state that they act on. An action follows a relation if it leads from every
state along zero or more of its steps, whether it succeeds or fails. Sequences of actions that
follow a relation follow it too, so a relation that is followed by every service is followed by
decoding.

* `Action.run`: an action as a function of the state, with what comes of a sequence of actions.
* `Action.Follows`: the law of actions that follow a relation, with one lemma for each way in which
  actions are put together.
* `bind_eq_ok_iff`, `mapError_eq_ok_iff`, `toOption_eq_some_iff`: when a chain of fallible parts
  succeeds.
-/

namespace Telematics

section Fallible

variable {ε φ α β : Type}

/-- A chain of fallible parts succeeds if all of them do. -/
theorem bind_eq_ok_iff {part : Except ε α} {next : α → Except ε β} {value : β} :
    (part >>= next) = .ok value ↔ ∃ middle, part = .ok middle ∧ next middle = .ok value := by
  cases part <;> simp [bind, Except.bind]

theorem ok_bind {value : α} {next : α → Except ε β} :
    ((.ok value : Except ε α) >>= next) = next value := rfl

theorem mapError_ok_bind {rename : ε → φ} {value : α} {next : α → Except φ β} :
    ((.ok value : Except ε α).mapError rename >>= next) = next value := rfl

theorem mapError_eq_ok_iff {part : Except ε α} {rename : ε → φ} {value : α} :
    part.mapError rename = .ok value ↔ part = .ok value := by
  cases part with
  | error fault => exact iff_of_false (fun same => nomatch same) (fun same => nomatch same)
  | ok inner =>
    show Except.ok inner = Except.ok value ↔ _
    rw [Except.ok.injEq, Except.ok.injEq]

theorem toOption_eq_some_iff {part : Except ε α} {value : α} :
    part.toOption = some value ↔ part = .ok value := by
  cases part <;> simp [Except.toOption]

theorem map_eq_ok_iff {part : Except ε α} {change : α → β} {value : β} :
    part.map change = .ok value ↔ ∃ middle, part = .ok middle ∧ change middle = value := by
  cases part <;> simp [Except.map]

end Fallible

namespace Report

open Relation (ReflTransGen)

variable {ε σ α β : Type}

/-- What comes of an action in a state: its result, and the state afterwards. -/
def Action.run (action : Action ε σ α) (state : σ) : Except ε α × σ := action state

namespace Action

theorem run_bind (action : Action ε σ α) (next : α → Action ε σ β) (state : σ) :
    (action >>= next).run state =
      match action.run state with
      | (.ok value, after) => (next value).run after
      | (.error fault, after) => (.error fault, after) := by
  show (match action.run state with | (result, after) => ExceptT.bindCont next result after) = _
  rcases action.run state with ⟨_ | _, _⟩ <;> rfl

/-- A sequence of two actions ends with the fault of the first, or with the second. -/
theorem run_bind_cases {action : Action ε σ α} {next : α → Action ε σ β} {state after : σ}
    {result : Except ε β} (ran : (action >>= next).run state = (result, after)) :
    (∃ fault, action.run state = (.error fault, after) ∧ result = .error fault) ∨
      ∃ value middle, action.run state = (.ok value, middle) ∧
        (next value).run middle = (result, after) := by
  rw [run_bind] at ran
  rcases first : action.run state with ⟨fault | value, middle⟩ <;> rw [first] at ran
  · cases ran
    exact .inl ⟨fault, rfl, rfl⟩
  · exact .inr ⟨value, middle, rfl, ran⟩

/-- A sequence of two actions succeeds if both of them do. -/
theorem run_bind_ok {action : Action ε σ α} {next : α → Action ε σ β} {state after : σ} {result : β}
    (ran : (action >>= next).run state = (.ok result, after)) :
    ∃ value middle, action.run state = (.ok value, middle) ∧
      (next value).run middle = (.ok result, after) := by
  rcases run_bind_cases ran with ⟨_, -, failed⟩ | both
  · cases failed
  · exact both

/-- A fault that is caught leads to the handler, in the state that was reached with it. -/
theorem run_tryCatch (action : Action ε σ α) (handler : ε → Action ε σ α) (state : σ) :
    (tryCatch action handler).run state =
      match action.run state with
      | (.ok value, after) => (.ok value, after)
      | (.error fault, after) => (handler fault).run after := by
  show (match action.run state with
    | (result, after) => (match result with
      | .ok value => pure (.ok value)
      | .error fault => handler fault : StateM σ (Except ε α)) after) = _
  rcases action.run state with ⟨_ | _, _⟩ <;> rfl

/-- A part of decoding that calls a service has the result of the service. -/
theorem run_call (action : Action ε σ α) (state : σ) :
    (call action).run state =
      match action.run state with
      | (.ok value, after) => (.ok value, after)
      | (.error fault, after) => (.error (.service fault), after) := rfl

theorem run_call_cases {action : Action ε σ α} {state after : σ} {result : Except (Failure ε) α}
    (ran : (call action).run state = (result, after)) :
    (∃ fault, action.run state = (.error fault, after) ∧ result = .error (.service fault)) ∨
      ∃ value, action.run state = (.ok value, after) ∧ result = .ok value := by
  rw [run_call] at ran
  rcases called : action.run state with ⟨fault | value, reached⟩ <;> rw [called] at ran <;>
    cases ran
  · exact .inl ⟨fault, rfl, rfl⟩
  · exact .inr ⟨value, rfl, rfl⟩

theorem run_call_ok {action : Action ε σ α} {state after : σ} {value : α}
    (ran : (call action).run state = (.ok value, after)) :
    action.run state = (.ok value, after) := by
  rcases run_call_cases ran with ⟨_, _, same⟩ | ⟨found, called, same⟩
  · cases same
  · cases same
    exact called

/-- An action whose faults are put in other terms reaches the same state. -/
theorem run_adapt {φ : Type} (rename : ε → φ) (action : Action ε σ α) (state : σ) :
    Action.run (ExceptT.adapt rename action : Action φ σ α) state =
      ((action.run state).1.mapError rename, (action.run state).2) := rfl

theorem run_adapt_cases {φ : Type} {rename : ε → φ} {action : Action ε σ α} {state after : σ}
    {result : Except φ α}
    (ran : Action.run (ExceptT.adapt rename action : Action φ σ α) state = (result, after)) :
    (∃ fault, action.run state = (.error fault, after) ∧ result = .error (rename fault)) ∨
      ∃ value, action.run state = (.ok value, after) ∧ result = .ok value := by
  rw [run_adapt] at ran
  rcases inner : action.run state with ⟨fault | value, reached⟩ <;> rw [inner] at ran <;>
    cases ran
  · exact .inl ⟨fault, rfl, rfl⟩
  · exact .inr ⟨value, rfl, rfl⟩

theorem run_orReject (result : Except Rejection α) (state : σ) :
    (orReject result : Action (Failure ε) σ α).run state =
      (result.mapError Failure.rejected, state) := by
  cases result <;> rfl

/-- From every state an action leads along zero or more steps of a relation. -/
def Follows (step : σ → σ → Prop) (action : Action ε σ α) : Prop :=
  ∀ state, ReflTransGen step state (action.run state).2

variable {step : σ → σ → Prop}

/-- The state that a run of an action reaches. -/
theorem Follows.reaches {action : Action ε σ α} {state after : σ} {result : Except ε α}
    (follows : action.Follows step) (ran : action.run state = (result, after)) :
    ReflTransGen step state after := by
  have reached := follows state
  rw [ran] at reached
  exact reached

theorem follows_pure (value : α) : Follows step (pure value : Action ε σ α) :=
  fun _ => .refl

theorem follows_bind {action : Action ε σ α} {next : α → Action ε σ β}
    (first : action.Follows step) (rest : ∀ value, (next value).Follows step) :
    Follows step (action >>= next) := by
  intro state
  have reached := first state
  rw [run_bind]
  generalize action.run state = outcome at reached ⊢
  obtain ⟨fault | value, middle⟩ := outcome
  · exact reached
  · exact reached.trans (rest value middle)

theorem follows_call {action : Action ε σ α} (follows : action.Follows step) :
    Follows step (call action) := by
  intro state
  have reached := follows state
  rw [run_call]
  generalize action.run state = outcome at reached ⊢
  obtain ⟨fault | value, after⟩ := outcome <;> exact reached

theorem follows_adapt {φ : Type} {rename : ε → φ} {action : Action ε σ α}
    (follows : action.Follows step) :
    Follows step (ExceptT.adapt rename action : Action φ σ α) := follows

theorem follows_orReject (result : Except Rejection α) :
    Follows step (orReject result : Action (Failure ε) σ α) := by
  intro state
  rw [run_orReject]

end Action

end Report

end Telematics
