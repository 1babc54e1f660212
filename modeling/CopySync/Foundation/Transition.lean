import Mathlib.Logic.Basic

/-!
# Runs of labelled transition systems

A system is a partial step function from a state and an action to the next
state; all nondeterminism lives in the choice of actions.  A run may restrict
the steps it takes by a predicate on the state before the step and the action,
so that a safety property can be stated for every run, or for every run whose
steps all meet a side condition.
-/

namespace CopySync.Foundation

universe u v

variable {σ : Type u} {α : Type v} {step : σ → α → Option σ}
variable {admits : σ → α → Prop} {start state : σ}

/-- States reached from `start` by finitely many steps, each admitted in the
state it is taken from. -/
inductive Run (step : σ → α → Option σ) (admits : σ → α → Prop) (start : σ) :
    σ → Prop where
  | refl : Run step admits start start
  | tail {state next : σ} {action : α} :
      Run step admits start state → admits state action →
      step state action = some next → Run step admits start next

/-- States reached by unrestricted runs. -/
abbrev Reachable (step : σ → α → Option σ) (start : σ) : σ → Prop :=
  Run step (fun _ _ => True) start

namespace Run

/-- The invariant rule: a predicate that holds initially and that every
admitted step preserves holds in every state of every run. -/
theorem invariant {holds : σ → Prop} (run : Run step admits start state)
    (initial : holds start)
    (preserved : ∀ {before after : σ} {action : α}, holds before →
      admits before action → step before action = some after → holds after) :
    holds state := by
  induction run with
  | refl => exact initial
  | tail _ admitted stepped ih => exact preserved ih admitted stepped

theorem trans {middle : σ} (first : Run step admits start middle)
    (second : Run step admits middle state) : Run step admits start state := by
  induction second with
  | refl => exact first
  | tail _ admitted stepped ih => exact .tail ih admitted stepped

/-- A run under a condition is a run under every weaker one. -/
theorem mono {weaker : σ → α → Prop} (run : Run step admits start state)
    (implies : ∀ {before : σ} {action : α}, admits before action → weaker before action) :
    Run step weaker start state := by
  induction run with
  | refl => exact .refl
  | tail _ admitted stepped ih => exact .tail ih (implies admitted) stepped

end Run

/-- Execute a list of actions, stopping at the first one that is disabled or
refused by the guard. -/
def execWhen (step : σ → α → Option σ) (guard : σ → α → Bool) :
    σ → List α → Option σ
  | state, [] => some state
  | state, action :: rest =>
      if guard state action then
        (step state action).bind fun next => execWhen step guard next rest
      else none

/-- Execute a list of actions, stopping at the first disabled one. -/
abbrev exec (step : σ → α → Option σ) : σ → List α → Option σ :=
  execWhen step fun _ _ => true

theorem Run.of_execWhen {guard : σ → α → Bool} {actions : List α}
    (sound : ∀ before action, guard before action = true → admits before action)
    (executed : execWhen step guard start actions = some state) :
    Run step admits start state := by
  induction actions generalizing start with
  | nil =>
      cases executed
      exact .refl
  | cons action rest ih =>
      rw [execWhen] at executed
      split at executed
      next admitted =>
        obtain ⟨next, stepped, continued⟩ := Option.bind_eq_some_iff.mp executed
        have one : Run step admits start next :=
          .tail .refl (sound _ _ admitted) stepped
        exact one.trans (ih continued)
      next => cases executed

theorem Run.of_exec {actions : List α}
    (executed : exec step start actions = some state) :
    Reachable step start state :=
  Run.of_execWhen (fun _ _ _ => trivial) executed

/-- A check that succeeds after executing actions is met by a state of a run. -/
theorem Run.exists_of_execWhen (step : σ → α → Option σ) (guard : σ → α → Bool) (start : σ)
    (actions : List α) (check : σ → Bool)
    (checked : (execWhen step guard start actions).any check = true) :
    ∃ state, Run step (fun before action => guard before action = true) start state ∧
      check state = true := by
  obtain ⟨state, executed, holds⟩ := (Option.any_eq_true _ _).mp checked
  exact ⟨state, Run.of_execWhen (fun _ _ admitted => admitted) executed, holds⟩

theorem Reachable.exists_of_exec (step : σ → α → Option σ) (start : σ) (actions : List α)
    (check : σ → Bool) (checked : (exec step start actions).any check = true) :
    ∃ state, Reachable step start state ∧ check state = true := by
  obtain ⟨state, executed, holds⟩ := (Option.any_eq_true _ _).mp checked
  exact ⟨state, Run.of_exec executed, holds⟩

end CopySync.Foundation
