import CopySync.Foundation.OrderedMap

/-!
# A table with an index by name

Records are stored under keys, and a second map leads from the name of a record to
its key.  The index is exact when it holds one entry for every record and no other;
then no two records share a name.  Each update of the pair keeps the index exact
under a condition on the names involved.
-/

namespace CopySync.Foundation

universe u v w

variable {κ : Type u} {ν : Type v} {α : Type w} [LinearOrder κ] [LinearOrder ν]

/-- The index leads from each name to the key of the record with that name. -/
def Indexes (nameOf : α → ν) (records : OrderedMap κ α) (index : OrderedMap ν κ) : Prop :=
  ∀ name key, index.get? name = some key ↔
    ∃ record, records.get? key = some record ∧ nameOf record = name

namespace Indexes

variable {nameOf : α → ν} {records : OrderedMap κ α} {index : OrderedMap ν κ}
variable {key : κ} {record old : α}

theorem empty : Indexes nameOf (.empty : OrderedMap κ α) .empty := by
  simp [Indexes]

/-- Names are unique. -/
theorem key_unique (indexed : Indexes nameOf records index) {left right : κ} {first second : α}
    (leftFound : records.get? left = some first) (rightFound : records.get? right = some second)
    (same : nameOf first = nameOf second) : left = right := by
  have leftIndexed := (indexed (nameOf first) left).mpr ⟨first, leftFound, rfl⟩
  have rightIndexed := (indexed (nameOf first) right).mpr ⟨second, rightFound, same.symm⟩
  exact Option.some.inj (leftIndexed.symm.trans rightIndexed)

/-- Replacing a record by one of the same name needs no change of the index. -/
theorem update (indexed : Indexes nameOf records index) (found : records.get? key = some old)
    (same : nameOf record = nameOf old) : Indexes nameOf (records.put key record) index := by
  intro name query
  rw [indexed name query, OrderedMap.get?_put]
  split_ifs with own
  · subst own
    simp [found, same]
  · rfl

/-- Storing an entry that is already there changes no lookup. -/
theorem put_present (indexed : Indexes nameOf records index) (found : records.get? key = some old)
    (same : nameOf record = nameOf old) :
    Indexes nameOf (records.put key record) (index.put (nameOf record) key) := by
  have present : index.get? (nameOf record) = some key :=
    (indexed (nameOf record) key).mpr ⟨old, found, same.symm⟩
  intro name query
  rw [← indexed.update found same name query, OrderedMap.get?_put]
  split_ifs with own
  · rw [own, present]
  · rfl

/-- A new record under a new key and a new name. -/
theorem insert (indexed : Indexes nameOf records index) (newKey : records.get? key = none)
    (newName : index.get? (nameOf record) = none) :
    Indexes nameOf (records.put key record) (index.put (nameOf record) key) := by
  intro name query
  rw [OrderedMap.get?_put, OrderedMap.get?_put]
  by_cases named : name = nameOf record
  · subst named
    by_cases own : query = key
    · simp [own]
    · have unnamed := indexed (nameOf record) query
      rw [newName] at unnamed
      simpa [own, Ne.symm own] using unnamed
  · by_cases own : query = key
    · subst own
      have absent := indexed name query
      simp only [newKey] at absent
      simpa [named, Ne.symm named] using absent
    · simpa [named, own] using indexed name query

/-- Deleting a record together with its index entry. -/
theorem erase (indexed : Indexes nameOf records index) (found : records.get? key = some old) :
    Indexes nameOf (records.erase key) (index.erase (nameOf old)) := by
  intro name query
  rw [OrderedMap.get?_erase, OrderedMap.get?_erase]
  by_cases own : query = key
  · subst own
    have entry := indexed name query
    by_cases named : name = nameOf old
    · simp [named]
    · simpa [named, found, Ne.symm named] using entry
  · by_cases named : name = nameOf old
    · subst named
      have other : ∀ record, records.get? query = some record → nameOf record ≠ nameOf old :=
        fun record present same => own (indexed.key_unique present found same)
      simpa [own] using other
    · simpa [named, own] using indexed name query

/-- Deleting an absent record changes nothing. -/
theorem erase_absent (indexed : Indexes nameOf records index)
    (absent : records.get? key = none) : Indexes nameOf (records.erase key) index := by
  intro name query
  rw [indexed name query, OrderedMap.get?_erase]
  split_ifs with own
  · simp [own, absent]
  · rfl

end Indexes

end CopySync.Foundation
