import Mathlib.Data.List.Count

/-!
# Items held by the members of a list

Several holders, each with a list of items, and how often an item is held when a holder is
replaced or leaves.
-/

namespace CopySync.Foundation

universe u v

variable {α : Type u} {ι : Type v} [DecidableEq ι] (items : α → List ι)
variable {holders : List α} {index : Nat} {holder : α}

/-- Replacing a holder exchanges its items for the new holder's. -/
theorem count_held_set (found : holders[index]? = some holder) (new : α) (item : ι) :
    ((holders.set index new).flatMap items).count item + (items holder).count item =
      (holders.flatMap items).count item + (items new).count item := by
  induction holders generalizing index with
  | nil => simp at found
  | cons head rest ih =>
      cases index with
      | zero =>
          simp only [List.getElem?_cons_zero, Option.some.injEq] at found
          subst found
          simp only [List.set_cons_zero, List.flatMap_cons, List.count_append]
          omega
      | succ index =>
          simp only [List.getElem?_cons_succ] at found
          have rest_balance := ih found
          simp only [List.set_cons_succ, List.flatMap_cons, List.count_append]
          omega

/-- A holder that leaves takes its items along. -/
theorem count_held_eraseIdx (found : holders[index]? = some holder) (item : ι) :
    ((holders.eraseIdx index).flatMap items).count item + (items holder).count item =
      (holders.flatMap items).count item := by
  induction holders generalizing index with
  | nil => simp at found
  | cons head rest ih =>
      cases index with
      | zero =>
          simp only [List.getElem?_cons_zero, Option.some.injEq] at found
          subst found
          simp only [List.eraseIdx_cons_zero, List.flatMap_cons, List.count_append]
          omega
      | succ index =>
          simp only [List.getElem?_cons_succ] at found
          have rest_balance := ih found
          simp only [List.eraseIdx_cons_succ, List.flatMap_cons, List.count_append]
          omega

end CopySync.Foundation
