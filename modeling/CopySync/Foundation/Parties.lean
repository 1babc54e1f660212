import CopySync.Foundation.Transition
import Mathlib.Data.List.Forall2
import Mathlib.Logic.Relation

/-!
# Systems of several parties

The parties of a system are a list that keeps its length, and each step of the system moves
every party by a relation: usually one party acts and the others rest.  A run of the system
then gives a run of each of its parties.
-/

namespace CopySync.Foundation

variable {σ : Type*} {α : Type*} {τ : Type*} {step : σ → α → Option σ}
variable {admits : σ → α → Prop} {start state : σ}
variable {moves : τ → τ → Prop} {before after : List τ}

/-! ## Parties before and after -/

namespace Parties

section Related

variable {τ' : Type*} {related : τ → τ' → Prop} {left : List τ} {right : List τ'}

theorem later (paired : List.Forall₂ related left right) {index : Nat} {party : τ}
    (found : left[index]? = some party) :
    ∃ kept, right[index]? = some kept ∧ related party kept := by
  induction paired generalizing index with
  | nil => cases found
  | cons head rest ih =>
      cases index with
      | zero =>
          cases found
          exact ⟨_, rfl, head⟩
      | succ index => exact ih found

theorem mem_earlier (paired : List.Forall₂ related left right) {kept : τ'}
    (listed : kept ∈ right) : ∃ party ∈ left, related party kept := by
  induction paired with
  | nil => cases listed
  | cons head rest ih =>
      rcases List.mem_cons.mp listed with rfl | among
      · exact ⟨_, List.mem_cons_self, head⟩
      · obtain ⟨party, among, paired⟩ := ih among
        exact ⟨party, List.mem_cons_of_mem _ among, paired⟩

end Related

/-- One party moves and the others rest. -/
theorem set (rests : ∀ party, moves party party) {index : Nat} {party kept : τ}
    (found : before[index]? = some party) (moved : moves party kept) :
    List.Forall₂ moves before (before.set index kept) := by
  induction before generalizing index with
  | nil => exact .nil
  | cons head rest ih =>
      cases index with
      | zero =>
          cases found
          exact .cons moved (List.forall₂_same.mpr fun other _ => rests other)
      | succ index => exact .cons (rests head) (ih found)

theorem trans {further : List τ} (first : List.Forall₂ (Relation.ReflTransGen moves) before after)
    (second : List.Forall₂ moves after further) :
    List.Forall₂ (Relation.ReflTransGen moves) before further := by
  induction first generalizing further with
  | nil => cases second; exact .nil
  | cons head rest ih =>
      cases second with
      | cons next others => exact .cons (head.tail next) (ih others)

end Parties

/-! ## Runs -/

/-- A run of a system takes each party by moves of its own. -/
theorem Run.parties (list : σ → List τ) (run : Run step admits start state)
    (moved : ∀ {before after : σ} {action : α}, admits before action →
      step before action = some after → List.Forall₂ moves (list before) (list after)) :
    List.Forall₂ (Relation.ReflTransGen moves) (list start) (list state) := by
  induction run with
  | refl => exact List.forall₂_same.mpr fun party _ => .refl
  | tail _ admitted stepped ih => exact Parties.trans ih (moved admitted stepped)

/-- A run of a system takes a part of it by steps of its own. -/
theorem Run.project {β : Type*} {small : τ → β → Option τ} (part : σ → τ)
    (run : Run step admits start state)
    (covered : ∀ {before after : σ} {action : α}, admits before action →
      step before action = some after →
      part after = part before ∨ ∃ label, small (part before) label = some (part after)) :
    Reachable small (part start) (part state) := by
  induction run with
  | refl => exact .refl
  | tail _ admitted stepped ih =>
      rcases covered admitted stepped with same | ⟨label, moved⟩
      · exact same ▸ ih
      · exact .tail ih trivial moved

end CopySync.Foundation
