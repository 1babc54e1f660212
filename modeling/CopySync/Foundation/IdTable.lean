import Mathlib.Data.List.Nodup
import Mathlib.Data.List.Sort

/-!
# Tables with increasing ids

Every row gets an id larger than all ids given before, also those of rows deleted since.  So
an id means one row for ever, and the rows in the order of their ids are the rows in the order
of their insertion.
-/

namespace CopySync.Foundation

universe u

/-- Rows in the order of their ids, and the last id given. -/
@[ext]
structure IdTable (α : Type u) where
  last : Nat
  rows : List (Nat × α)
  ordered : rows.Pairwise fun older newer => older.1 < newer.1
  bounded : ∀ row ∈ rows, row.1 ≤ last

/-- A change of a table. -/
inductive Change (α : Type u) where
  | inserted (id : Nat) (row : α)
  | deleted (id : Nat)
  deriving DecidableEq, Repr

namespace Change

variable {α : Type u}

def id : Change α → Nat
  | inserted id _ | deleted id => id

def entry? : Change α → Option (Nat × α)
  | inserted id row => some (id, row)
  | deleted _ => none

/-- The rows inserted and not deleted, in the order of their insertion. -/
def kept [DecidableEq α] (changes : List (Change α)) : List (Nat × α) :=
  (changes.filterMap entry?).filter fun entry => deleted entry.1 ∉ changes

end Change

namespace IdTable

variable {α : Type u} {table : IdTable α}

def empty : IdTable α where
  last := 0
  rows := []
  ordered := .nil
  bounded := by simp

/-- Insert a row under the next id. -/
def insert (table : IdTable α) (row : α) : IdTable α where
  last := table.last + 1
  rows := table.rows ++ [(table.last + 1, row)]
  ordered := by
    apply List.pairwise_append.mpr
    constructor
    · exact table.ordered
    · constructor
      · exact List.pairwise_singleton _ _
      · intro older among newer last
        cases List.mem_singleton.mp last
        exact Nat.lt_succ_of_le (table.bounded older among)
  bounded := by
    intro entry among
    cases List.mem_append.mp among with
    | inl old => exact Nat.le_trans (table.bounded entry old) (Nat.le_succ _)
    | inr new => cases List.mem_singleton.mp new; exact Nat.le_refl _

/-- Delete the row with an id, if there is one. -/
def delete (table : IdTable α) (id : Nat) : IdTable α where
  last := table.last
  rows := table.rows.filter fun entry => entry.1 ≠ id
  ordered := table.ordered.filter _
  bounded entry among := table.bounded entry (List.mem_of_mem_filter among)

/-- Another view of the rows, under the same ids. -/
def map {β : Type u} (view : α → β) (table : IdTable α) : IdTable β where
  last := table.last
  rows := table.rows.map fun entry => (entry.1, view entry.2)
  ordered := List.pairwise_map.mpr table.ordered
  bounded := by
    intro entry among
    obtain ⟨seen, old, rfl⟩ := List.mem_map.mp among
    exact table.bounded seen old

theorem map_insert {β : Type u} (view : α → β) (table : IdTable α) (row : α) :
    (table.insert row).map view = (table.map view).insert (view row) := by
  apply IdTable.ext
  · rfl
  · simp [map, insert]

theorem map_delete {β : Type u} (view : α → β) (table : IdTable α) (id : Nat) :
    (table.delete id).map view = (table.map view).delete id := by
  apply IdTable.ext
  · rfl
  · simp [map, delete, List.filter_map, Function.comp_def]

/-- The first row has the larger id. -/
def Newer (left right : Nat × α) : Prop := right.1 ≤ left.1

instance : DecidableRel (Newer (α := α)) := fun _ _ => inferInstanceAs (Decidable (_ ≤ _))

instance : Std.Total (Newer (α := α)) := ⟨fun left right => Nat.le_total right.1 left.1⟩

instance : IsTrans (Nat × α) Newer := ⟨fun _ _ _ first second => Nat.le_trans second first⟩

/-- The rows by falling id. -/
def newestFirst (table : IdTable α) : List (Nat × α) := table.rows.insertionSort Newer

/-- Two rows with one id are one row. -/
theorem row_unique {left right : Nat × α} (leftAmong : left ∈ table.rows)
    (rightAmong : right ∈ table.rows) (same : left.1 = right.1) : left = right := by
  have apart : (table.rows.map Prod.fst).Nodup :=
    List.pairwise_map.mpr (table.ordered.imp Nat.ne_of_lt)
  exact List.inj_on_of_nodup_map apart leftAmong rightAmong same

/-- The order of the ids is the order of insertion. -/
theorem newestFirst_eq (table : IdTable α) : table.newestFirst = table.rows.reverse := by
  apply List.Perm.eq_of_pairwise
  · intro left right leftAmong rightAmong below above
    exact row_unique ((List.mem_insertionSort Newer).mp leftAmong)
      (List.mem_reverse.mp rightAmong) (Nat.le_antisymm above below)
  · exact List.pairwise_insertionSort Newer table.rows
  · exact List.pairwise_reverse.mpr (table.ordered.imp Nat.le_of_lt)
  · exact (List.perm_insertionSort Newer table.rows).trans (List.reverse_perm _).symm

/-- A table after some changes, of which each concerned an id given by then. -/
structure Records [DecidableEq α] (table : IdTable α) (changes : List (Change α)) : Prop where
  rows : table.rows = Change.kept changes
  issued : ∀ change ∈ changes, change.id ≤ table.last

namespace Records

variable [DecidableEq α] {changes : List (Change α)}

theorem empty : Records (.empty : IdTable α) [] where
  rows := rfl
  issued := by simp

/-- An insertion gives an id that no change concerned. -/
theorem insert (records : Records table changes) (row : α) :
    Records (table.insert row) (changes ++ [.inserted (table.last + 1) row]) where
  rows := by
    have unheard (id : Nat) : Change.deleted id ∈ changes ++ [.inserted (table.last + 1) row] ↔
        .deleted id ∈ changes := by simp
    have fresh : Change.deleted (table.last + 1) ∉ changes := fun among =>
      absurd (records.issued _ among) (Nat.not_succ_le_self table.last)
    simp [IdTable.insert, Change.kept, Change.entry?, records.rows, fresh]
  issued := by
    intro change among
    cases List.mem_append.mp among with
    | inl old => exact Nat.le_trans (records.issued change old) (Nat.le_succ _)
    | inr new => cases List.mem_singleton.mp new; exact Nat.le_refl _

/-- A deletion takes one row away and leaves the others. -/
theorem delete (records : Records table changes) {id : Nat} (known : id ≤ table.last) :
    Records (table.delete id) (changes ++ [.deleted id]) where
  rows := by
    simp only [IdTable.delete, records.rows, Change.kept, List.filterMap_append,
      List.filterMap_cons, List.filterMap_nil, Change.entry?, List.append_nil, List.filter_filter]
    apply List.filter_congr
    intro entry _
    simp [not_or, and_comm]
  issued := by
    intro change among
    cases List.mem_append.mp among with
    | inl old => exact records.issued change old
    | inr new => cases List.mem_singleton.mp new; exact known

end Records

end IdTable

end CopySync.Foundation
