import CopySync.Foundation.OrderedMap

/-!
# Entries that expire

A map whose entries count only while they are alive.  Dead entries may be removed at any
time: by a sweep, or by the look-up that comes across them.  Nobody can tell when they are
removed, as long as no clock goes back.
-/

namespace CopySync.Foundation

universe u v w

/-- When a value is dead, and stays dead. -/
structure Lifetime (T : Type u) (α : Type v) [LE T] where
  gone : T → α → Bool
  mono : ∀ {early late : T} {value : α}, early ≤ late → gone early value = true →
    gone late value = true

namespace Lifetime

variable {T : Type u} {α : Type v} {κ : Type w} [LE T] [LinearOrder κ]
variable (life : Lifetime T α)

/-- The entry under a key, while it is alive. -/
def look (map : OrderedMap κ α) (key : κ) (now : T) : Option α :=
  (map.get? key).filter fun value => !life.gone now value

def sweep (map : OrderedMap κ α) (now : T) : OrderedMap κ α :=
  map.filter fun _ value => !life.gone now value

/-- Two maps have the same living entries at some time. -/
def Agree (since : T) (left right : OrderedMap κ α) : Prop :=
  ∀ key, life.look left key since = life.look right key since

variable {life} {since now : T} {left right : OrderedMap κ α}

/-- What is alive later is what is alive now and then. -/
theorem look_later (map : OrderedMap κ α) (key : κ) (later : since ≤ now) :
    life.look map key now =
      (life.look map key since).filter fun value => !life.gone now value := by
  rw [look, look, Option.filter_filter]
  congr 1
  funext value
  cases dead : life.gone since value with
  | true => simp [life.mono later dead]
  | false => simp

namespace Agree

theorem refl (since : T) (map : OrderedMap κ α) : life.Agree since map map := fun _ => rfl

theorem symm (agree : life.Agree since left right) : life.Agree since right left :=
  fun key => (agree key).symm

theorem trans {middle : OrderedMap κ α} (first : life.Agree since left middle)
    (second : life.Agree since middle right) : life.Agree since left right :=
  fun key => (first key).trans (second key)

/-- Maps that agree are told apart by no later look-up. -/
theorem look_eq (agree : life.Agree since left right) (later : since ≤ now) (key : κ) :
    life.look left key now = life.look right key now := by
  rw [look_later left key later, look_later right key later, agree key]

theorem mono (agree : life.Agree since left right) (later : since ≤ now) :
    life.Agree now left right := fun key => agree.look_eq later key

theorem put (agree : life.Agree since left right) (key : κ) (value : α) :
    life.Agree since (left.put key value) (right.put key value) := by
  intro other
  have same := agree other
  simp only [look, OrderedMap.get?_put] at same ⊢
  split_ifs
  · rfl
  · exact same

theorem erase (agree : life.Agree since left right) (key : κ) :
    life.Agree since (left.erase key) (right.erase key) := by
  intro other
  have same := agree other
  simp only [look, OrderedMap.get?_erase] at same ⊢
  split_ifs
  · rfl
  · exact same

end Agree

/-- A sweep removes the dead only. -/
theorem sweep_agree (map : OrderedMap κ α) (now : T) : life.Agree now (life.sweep map now) map := by
  intro key
  rw [look, look, sweep, OrderedMap.get?_filter]
  cases map.get? key with
  | none => rfl
  | some value => cases life.gone now value <;> simp

/-- Nothing is lost with an entry that is not alive. -/
theorem erase_agree {map : OrderedMap κ α} {key : κ} (dead : life.look map key now = none) :
    life.Agree now (map.erase key) map := by
  intro other
  rw [look, OrderedMap.get?_erase]
  split_ifs with same
  · rw [same, dead]
    rfl
  · rfl

end Lifetime

end CopySync.Foundation
