import CopySync.Foundation.History

/-!
# The latest value of a history

An event writes a value, clears it, or leaves it alone; the latest value is what the last event
that did either has left.
-/

namespace CopySync.Foundation

universe u v

variable {α : Type u} {β : Type v} {writes : α → Option (Option β)} {history : List α}
variable {event : α} {value : β}

/-- `writes event` is `none` for an event that leaves the value alone, and `some none` for one
that clears it. -/
def lastWritten (writes : α → Option (Option β)) (history : List α) : Option β :=
  history.foldl (fun current event => (writes event).getD current) none

@[simp] theorem lastWritten_nil : lastWritten writes [] = none := rfl

theorem lastWritten_concat :
    lastWritten writes (history ++ [event]) = (writes event).getD (lastWritten writes history) := by
  rw [lastWritten, List.foldl_append]
  rfl

theorem lastWritten_concat_of_none (silent : writes event = none) :
    lastWritten writes (history ++ [event]) = lastWritten writes history := by
  rw [lastWritten_concat, silent, Option.getD_none]

theorem lastWritten_append_of_none {events : List α}
    (silent : ∀ event ∈ events, writes event = none) :
    lastWritten writes (history ++ events) = lastWritten writes history := by
  induction events using List.reverseRecOn with
  | nil => rw [List.append_nil]
  | append_singleton before last ih =>
      rw [← List.append_assoc, lastWritten_concat_of_none (silent last (by simp))]
      exact ih fun event among => silent event (List.mem_append_left _ among)

/-- The latest value was written, and left alone from then on. -/
theorem lastWritten_eq_some_iff : lastWritten writes history = some value ↔
    ∃ before event later, history = before ++ event :: later ∧
      writes event = some (some value) ∧ ∀ other ∈ later, writes other = none := by
  constructor
  · intro found
    induction history using List.reverseRecOn with
    | nil => cases found
    | append_singleton before last ih =>
        rw [lastWritten_concat] at found
        cases written : writes last with
        | some current =>
            rw [written, Option.getD_some] at found
            exact ⟨before, last, [], rfl, found ▸ written, by simp⟩
        | none =>
            rw [written, Option.getD_none] at found
            obtain ⟨first, event, later, rfl, wrote, silent⟩ := ih found
            refine ⟨first, event, later ++ [last], by simp, wrote, ?_⟩
            intro other among
            rcases List.mem_append.mp among with old | new
            · exact silent other old
            · rw [List.mem_singleton.mp new, written]
  · rintro ⟨before, event, later, rfl, wrote, silent⟩
    rw [List.append_cons, lastWritten_append_of_none silent, lastWritten_concat, wrote,
      Option.getD_some]

/-- Some event of the history wrote the latest value. -/
theorem exists_of_lastWritten (found : lastWritten writes history = some value) :
    ∃ event ∈ history, writes event = some (some value) := by
  obtain ⟨before, event, later, rfl, wrote, -⟩ := lastWritten_eq_some_iff.mp found
  exact ⟨event, by simp, wrote⟩

/-- A value that was written is there as long as nothing clears it. -/
theorem lastWritten_isSome {later : List α} (wrote : writes event = some (some value))
    (kept : ∀ other ∈ later, writes other ≠ some none) :
    (lastWritten writes (history ++ [event] ++ later)).isSome = true := by
  induction later using List.reverseRecOn with
  | nil => rw [List.append_nil, lastWritten_concat, wrote, Option.getD_some, Option.isSome_some]
  | append_singleton first last ih =>
      rw [← List.append_assoc, lastWritten_concat]
      have old := ih fun other among => kept other (List.mem_append_left _ among)
      cases written : writes last with
      | none => exact old
      | some current =>
          cases current with
          | some _ => rfl
          | none => exact absurd written (kept last (by simp))

/-- A member of a history in which everything is as it should be is so after those before it. -/
theorem EachAfter.of_mem {holds : List α → α → Prop} (each : EachAfter holds history)
    (among : event ∈ history) :
    ∃ before later, history = before ++ event :: later ∧ holds before event := by
  obtain ⟨before, later, rfl⟩ := List.append_of_mem among
  refine ⟨before, later, rfl, each before event ?_⟩
  exact ⟨later, by simp⟩

end CopySync.Foundation
