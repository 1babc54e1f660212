import CopySync.Foundation.Transition

/-!
# Two runs side by side

A system hides part of its inputs from an observer when two runs on inputs that differ only in
that part cannot be told apart.  It is enough that one step keeps two states apart for the
observer no further than they were.
-/

namespace CopySync.Foundation

universe u v w

variable {σ : Type u} {α : Type v} {τ : Type w} {step : σ → α → Option σ}
variable {alike : σ × σ → α × α → Prop} {start left right : σ}

/-- One step in each of two runs. -/
def pairStep (step : σ → α → Option σ) (states : σ × σ) (actions : α × α) : Option (σ × σ) :=
  (step states.1 actions.1).bind fun left =>
    (step states.2 actions.2).map fun right => (left, right)

theorem pairStep_eq_some {states next : σ × σ} {actions : α × α}
    (stepped : pairStep step states actions = some next) :
    step states.1 actions.1 = some next.1 ∧ step states.2 actions.2 = some next.2 := by
  obtain ⟨left, first, rest⟩ := Option.bind_eq_some_iff.mp stepped
  obtain ⟨right, second, rfl⟩ := Option.map_eq_some_iff.mp rest
  exact ⟨first, second⟩

/-- The unwinding rule: what a view shows of two runs stays the same when every pair of steps
keeps it so. -/
theorem Run.unwinding (view : σ → τ)
    (runs : Run (pairStep step) alike (start, start) (left, right))
    (consistent : ∀ {before other after further : σ} {action counterpart : α},
      view before = view other → alike (before, other) (action, counterpart) →
      step before action = some after → step other counterpart = some further →
      view after = view further) : view left = view right := by
  let agree (states : σ × σ) : Prop := view states.1 = view states.2
  have agreed : agree (left, right) := by
    refine @Run.invariant _ _ _ _ _ _ agree runs rfl ?_
    intro before after actions same admitted stepped
    obtain ⟨first, second⟩ := pairStep_eq_some stepped
    exact consistent same admitted first second
  exact agreed

end CopySync.Foundation
