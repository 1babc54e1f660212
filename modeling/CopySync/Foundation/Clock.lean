import CopySync.Foundation.Transition
import Mathlib.Order.Basic

/-!
# Runs in which no clock goes back

A step may read the time.  The system is paired with the latest time that was read, and no
later step reads an earlier one.
-/

namespace CopySync.Foundation

namespace Clocked

variable {σ : Type*} {α : Type*} {T : Type*} [LE T] [DecidableLE T]

def step (time? : α → Option T) (step : σ → α → Option σ) : σ × T → α → Option (σ × T)
  | (state, clock), action =>
      match time? action with
      | none => (step state action).map fun next => (next, clock)
      | some now => if clock ≤ now then (step state action).map fun next => (next, now) else none

variable {time? : α → Option T} {small : σ → α → Option σ} {start : σ} {first clock : T}
variable {state : σ}

/-- The time at which an action of a sequence in the order of time is taken: the one it reads,
or the latest one read. -/
theorem next {T : Type*} [Preorder T] {time? : α → Option T} {now : T} {action : α}
    {rest : List α} {last : List T}
    (ordered : (now :: ((action :: rest).filterMap time? ++ last)).Pairwise (· ≤ ·)) :
    ∃ time, now ≤ time ∧ (∀ read ∈ time? action, read = time) ∧
      (time :: (rest.filterMap time? ++ last)).Pairwise (· ≤ ·) := by
  cases reads : time? action with
  | none =>
      rw [List.filterMap_cons_none reads] at ordered
      exact ⟨now, le_rfl, fun _ among => absurd among (Option.not_mem_none _), ordered⟩
  | some time =>
      rw [List.filterMap_cons_some reads, List.cons_append] at ordered
      obtain ⟨first, ordered⟩ := List.pairwise_cons.mp ordered
      exact ⟨time, first time List.mem_cons_self,
        fun _ among => (Option.mem_some_iff.mp among).symm, ordered⟩

/-- A run with a clock is a run. -/
theorem reachable (reached : Reachable (step time? small) (start, first) (state, clock)) :
    Reachable small start state := by
  generalize pair : (state, clock) = current at reached
  induction reached generalizing state clock with
  | refl =>
      cases pair
      exact .refl
  | @tail before after action run _ stepped ih =>
      obtain ⟨old, earlier⟩ := before
      rw [← pair] at stepped
      have moved : small old action = some state := by
        simp only [step] at stepped
        split at stepped
        · obtain ⟨next, moved, same⟩ := Option.map_eq_some_iff.mp stepped
          cases same
          exact moved
        · split_ifs at stepped
          obtain ⟨next, moved, same⟩ := Option.map_eq_some_iff.mp stepped
          cases same
          exact moved
      exact .tail (ih rfl) trivial moved

/-- The invariant rule: what holds at a time holds later, and a step keeps it at the time the
step reads. -/
theorem invariant {holds : T → σ → Prop}
    (reached : Reachable (step time? small) (start, first) (state, clock))
    (initial : holds first start)
    (later : ∀ {before after : T} {state : σ}, before ≤ after → holds before state →
      holds after state)
    (preserved : ∀ {now : T} {before after : σ} {action : α}, holds now before →
      (∀ time ∈ time? action, time = now) → small before action = some after →
      holds now after) : holds clock state := by
  generalize pair : (state, clock) = current at reached
  induction reached generalizing state clock with
  | refl =>
      cases pair
      exact initial
  | @tail before after action run _ stepped ih =>
      obtain ⟨old, earlier⟩ := before
      have held := ih rfl
      rw [← pair] at stepped
      simp only [step] at stepped
      split at stepped
      next untimed =>
        obtain ⟨next, moved, same⟩ := Option.map_eq_some_iff.mp stepped
        cases same
        refine preserved held (fun time timed => ?_) moved
        rw [untimed] at timed
        cases timed
      next now timed =>
        split_ifs at stepped with passed
        obtain ⟨next, moved, same⟩ := Option.map_eq_some_iff.mp stepped
        cases same
        refine preserved (later passed held) (fun time listed => ?_) moved
        rw [timed] at listed
        exact (Option.mem_some_iff.mp listed).symm

end Clocked

end CopySync.Foundation
