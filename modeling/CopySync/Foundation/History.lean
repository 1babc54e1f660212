import Mathlib.Data.List.Basic
import Mathlib.Data.List.Induction

/-!
# Properties of the members of a list in their history

What holds of every member of a list, given the members before it, and what a machine that
reads the list reports about its members.
-/

namespace CopySync.Foundation

universe u v w

variable {α : Type u} {holds : List α → α → Prop} {list : List α}

/-- Every member is as it should be after those before it. -/
def EachAfter (holds : List α → α → Prop) (list : List α) : Prop :=
  ∀ before next, before ++ [next] <+: list → holds before next

theorem EachAfter.nil : EachAfter holds [] := by
  intro before next start
  exact absurd (List.prefix_nil.mp start) (List.append_ne_nil_of_right_ne_nil _ (by simp))

theorem eachAfter_concat {last : α} :
    EachAfter holds (list ++ [last]) ↔ EachAfter holds list ∧ holds list last := by
  constructor
  · intro each
    refine ⟨?_, each list last List.prefix_rfl⟩
    intro before next start
    exact each before next (start.trans (List.prefix_append _ _))
  · rintro ⟨each, final⟩ before next start
    rcases List.prefix_concat_iff.mp start with same | start
    · obtain ⟨former, latter⟩ := List.append_inj' same rfl
      rw [former, List.singleton_inj.mp latter]
      exact final
    · exact each before next start

/-- Two properties that agree after every history in which both held so far. -/
theorem eachAfter_congr {other : List α → α → Prop}
    (agree : ∀ before next, EachAfter holds before → EachAfter other before →
      (holds before next ↔ other before next)) :
    EachAfter holds list ↔ EachAfter other list := by
  induction list using List.reverseRecOn with
  | nil => exact iff_of_true .nil .nil
  | append_singleton before last ih =>
      rw [eachAfter_concat, eachAfter_concat]
      constructor
      · rintro ⟨each, final⟩
        exact ⟨ih.mp each, (agree before last each (ih.mp each)).mp final⟩
      · rintro ⟨each, final⟩
        exact ⟨ih.mpr each, (agree before last (ih.mpr each) each).mpr final⟩

theorem EachAfter.of_prefix {more : List α} (each : EachAfter holds more) (start : list <+: more) :
    EachAfter holds list :=
  fun before next first => each before next (first.trans start)

section Reports

variable {σ : Type v} {β : Type w} {step : σ → α → σ} {report : σ → α → Option β}

/-- What a machine reports about the events of a history, each in the state it meets. -/
def reports (step : σ → α → σ) (report : σ → α → Option β) : σ → List α → List β
  | _, [] => []
  | state, event :: rest =>
      (report state event).toList ++ reports step report (step state event) rest

theorem reports_append (state : σ) (before rest : List α) :
    reports step report state (before ++ rest) =
      reports step report state before ++ reports step report (before.foldl step state) rest := by
  induction before generalizing state with
  | nil => rfl
  | cons event before ih =>
      rw [List.cons_append, reports, ih, reports, List.append_assoc]
      rfl

theorem reports_concat (state : σ) (before : List α) (last : α) :
    reports step report state (before ++ [last]) =
      reports step report state before ++ (report (before.foldl step state) last).toList := by
  rw [reports_append, reports, reports, List.append_nil]

/-- Every report is about an event of the history. -/
theorem exists_of_mem_reports {state : σ} {item : β}
    (reported : item ∈ reports step report state list) :
    ∃ event ∈ list, ∃ met, report met event = some item := by
  induction list generalizing state with
  | nil => cases reported
  | cons event rest ih =>
      rcases List.mem_append.mp reported with here | later
      · exact ⟨event, List.mem_cons_self, state, Option.mem_toList.mp here⟩
      · obtain ⟨other, listed, met, same⟩ := ih later
        exact ⟨other, List.mem_cons_of_mem _ listed, met, same⟩

end Reports

end CopySync.Foundation
