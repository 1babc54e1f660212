import Mathlib.Data.List.TakeDrop

/-!
# Parts of a growing history

A history grows at its end.  A window of it, once complete, stays as it is; a window whose end
is the present grows with the history; and a bounded record of the latest part is the last
window of its length.
-/

namespace CopySync.Foundation

universe u

variable {α : Type u}

/-- What a list holds after one entry was added at its end. -/
theorem getElem?_concat_cases {list : List α} {last found : α} {index : Nat}
    (here : (list ++ [last])[index]? = some found) :
    list[index]? = some found ∨ index = list.length ∧ last = found := by
  rw [List.getElem?_append] at here
  split_ifs at here with inside
  · exact .inl here
  · rw [List.getElem?_singleton] at here
    split_ifs at here with first
    exact .inr ⟨Nat.le_antisymm (Nat.sub_eq_zero_iff_le.mp first) (Nat.not_lt.mp inside),
      Option.some.inj here⟩

theorem getElem?_concat_of_ne {list : List α} (last : α) {index : Nat}
    (other : index ≠ list.length) : (list ++ [last])[index]? = list[index]? := by
  rcases Nat.lt_or_ge index list.length with inside | outside
  · exact List.getElem?_append_left inside
  · have beyond : (list ++ [last]).length ≤ index := by
      rw [List.length_append, List.length_singleton]
      omega
    rw [List.getElem?_eq_none beyond, List.getElem?_eq_none outside]

/-- What a list holds after one of its entries was changed. -/
theorem getElem?_modify_cases {list : List α} {place index : Nat} {change : α → α} {found : α}
    (here : (list.modify place change)[index]? = some found) :
    index = place ∧ (∃ old, list[place]? = some old ∧ change old = found) ∨
      index ≠ place ∧ list[index]? = some found := by
  rw [List.getElem?_modify] at here
  by_cases same : place = index
  · subst same
    simp only [if_true, Option.map_eq_map, Option.map_eq_some_iff] at here
    exact .inl ⟨rfl, here⟩
  · simp only [if_neg same, Option.map_eq_map, Option.map_id_fun', id] at here
    exact .inr ⟨Ne.symm same, here⟩

section Window

variable {history : List α} {first middle last : Nat}

/-- What was recorded from one place up to another. -/
def window (history : List α) (first last : Nat) : List α := (history.take last).drop first

theorem window_self (history : List α) (place : Nat) : window history place place = [] := by
  rw [window, List.drop_eq_nil_iff]
  exact List.length_take_le place history

/-- A complete window does not change. -/
theorem window_append (more : List α) (complete : last ≤ history.length) :
    window (history ++ more) first last = window history first last := by
  rw [window, window, List.take_append_of_le_length complete]

/-- A window that reaches the present. -/
theorem window_present (history : List α) (first : Nat) :
    window history first history.length = history.drop first := by
  rw [window, List.take_length]

theorem window_concat (item : α) (past : first ≤ history.length) :
    window (history ++ [item]) first (history.length + 1) =
      window history first history.length ++ [item] := by
  have grown : history.length + 1 = (history ++ [item]).length := by simp
  rw [grown, window_present, window_present, List.drop_append_of_le_length past]

/-- Two windows that meet are one. -/
theorem window_join (history : List α) (before : first ≤ middle) (after : middle ≤ last) :
    window history first middle ++ window history middle last = window history first last := by
  have early : window history first middle = ((history.take last).take middle).drop first := by
    rw [window, List.take_take, Nat.min_eq_left after]
  have late : window history middle last =
      ((history.take last).drop first).drop (middle - first) := by
    rw [window, List.drop_drop, Nat.add_sub_of_le before]
  rw [early, late, window, List.drop_take]
  exact List.take_append_drop _ _

/-- The latest items, at most so many. -/
def latest (capacity : Nat) (history : List α) : List α :=
  history.drop (history.length - capacity)

theorem length_latest (capacity : Nat) (history : List α) :
    (latest capacity history).length = min capacity history.length := by
  rw [latest, List.length_drop]
  omega

theorem latest_eq_window (capacity : Nat) (history : List α) :
    latest capacity history =
      window history (history.length - capacity) history.length :=
  (window_present history _).symm

/-- Keeping the latest items needs only the latest items. -/
theorem latest_concat (capacity : Nat) (history : List α) (item : α) :
    latest capacity (latest capacity history ++ [item]) = latest capacity (history ++ [item]) := by
  have kept : latest capacity history ++ [item] =
      (history ++ [item]).drop (history.length - capacity) := by
    rw [latest, List.drop_append_of_le_length (Nat.sub_le _ _)]
  have places : history.length - capacity +
      ((latest capacity history ++ [item]).length - capacity) =
        (history ++ [item]).length - capacity := by
    simp only [List.length_append, length_latest, List.length_singleton]
    omega
  change (latest capacity history ++ [item]).drop
    ((latest capacity history ++ [item]).length - capacity) =
      (history ++ [item]).drop ((history ++ [item]).length - capacity)
  rw [← places, ← List.drop_drop, ← kept]

end Window

end CopySync.Foundation
