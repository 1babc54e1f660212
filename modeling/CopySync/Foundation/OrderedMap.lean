import Mathlib.Order.Defs.LinearOrder
import Mathlib.Order.Basic
import Mathlib.Data.String.Basic

/-!
# Key-ordered finite maps

A finite map stored as its entry list in strictly increasing key order.  The
ordering is a field of the structure, so enumeration is canonical and every key
occurs once.  Lookup equations are stated without reference to the ordering;
only the correspondence between membership and lookup uses it.
-/

namespace CopySync.Foundation

universe u v

/-- A finite map presented by its strictly key-ordered entry list. -/
structure OrderedMap (κ : Type u) (α : Type v) [LinearOrder κ] where
  entries : List (κ × α)
  sorted : entries.Pairwise fun left right => left.1 < right.1

namespace OrderedMap

variable {κ : Type u} {α : Type v} [LinearOrder κ]

/-- First value stored under a key of an entry list. -/
def find (key : κ) : List (κ × α) → Option α
  | [] => none
  | (other, value) :: rest => if key = other then some value else find key rest

/-- Place an entry at its ordered position, replacing an entry with the same
key. -/
def insertEntry (key : κ) (value : α) : List (κ × α) → List (κ × α)
  | [] => [(key, value)]
  | (other, found) :: rest =>
      if key < other then (key, value) :: (other, found) :: rest
      else if key = other then (key, value) :: rest
      else (other, found) :: insertEntry key value rest

theorem mem_insertEntry {key : κ} {value : α} {entry : κ × α}
    {entries : List (κ × α)} (membership : entry ∈ insertEntry key value entries) :
    entry = (key, value) ∨ entry ∈ entries := by
  induction entries with
  | nil => simpa [insertEntry] using membership
  | cons head rest ih =>
      obtain ⟨other, found⟩ := head
      rw [insertEntry] at membership
      split_ifs at membership <;> grind

theorem insertEntry_sorted (key : κ) (value : α) {entries : List (κ × α)}
    (sorted : entries.Pairwise fun left right => left.1 < right.1) :
    (insertEntry key value entries).Pairwise fun left right => left.1 < right.1 := by
  induction entries with
  | nil => simp [insertEntry]
  | cons head rest ih =>
      obtain ⟨other, found⟩ := head
      obtain ⟨headLt, restSorted⟩ := List.pairwise_cons.mp sorted
      rw [insertEntry]
      split_ifs with before same
      · refine List.pairwise_cons.mpr ⟨?_, sorted⟩
        intro entry membership
        rcases List.mem_cons.mp membership with rfl | later
        · exact before
        · exact before.trans (headLt entry later)
      · subst same
        exact List.pairwise_cons.mpr ⟨headLt, restSorted⟩
      · refine List.pairwise_cons.mpr ⟨?_, ih restSorted⟩
        intro entry membership
        rcases mem_insertEntry membership with rfl | later
        · exact lt_of_le_of_ne (not_lt.mp before) (Ne.symm same)
        · exact headLt entry later

/-- The map without entries. -/
def empty : OrderedMap κ α := ⟨[], List.Pairwise.nil⟩

/-- Value stored under a key. -/
def get? (map : OrderedMap κ α) (key : κ) : Option α := find key map.entries

/-- Whether a key is present. -/
def contains (map : OrderedMap κ α) (key : κ) : Bool := (map.get? key).isSome

/-- Store a value under a key, replacing the previous one. -/
def put (map : OrderedMap κ α) (key : κ) (value : α) : OrderedMap κ α :=
  ⟨insertEntry key value map.entries, insertEntry_sorted key value map.sorted⟩

/-- Keep the entries accepted by a predicate. -/
def filter (map : OrderedMap κ α) (keep : κ → α → Bool) : OrderedMap κ α :=
  ⟨map.entries.filter fun entry => keep entry.1 entry.2, map.sorted.filter _⟩

/-- Remove a key. -/
def erase (map : OrderedMap κ α) (key : κ) : OrderedMap κ α :=
  map.filter fun other _ => decide (other ≠ key)

/-- Remove the entry with the least key. -/
def dropFirst (map : OrderedMap κ α) : OrderedMap κ α :=
  ⟨map.entries.tail, map.sorted.sublist (List.tail_sublist _)⟩

/-- Apply a function to every value. -/
def mapValues {β : Type v} (map : OrderedMap κ α) (image : α → β) : OrderedMap κ β :=
  ⟨map.entries.map fun entry => (entry.1, image entry.2),
    List.pairwise_map.mpr map.sorted⟩

/-- Values in key order. -/
def values (map : OrderedMap κ α) : List α := map.entries.map (·.2)

theorem find_insertEntry (key query : κ) (value : α) (entries : List (κ × α)) :
    find query (insertEntry key value entries) =
      if query = key then some value else find query entries := by
  induction entries with
  | nil => simp [insertEntry, find]
  | cons head rest ih =>
      obtain ⟨other, found⟩ := head
      rw [insertEntry]
      split_ifs <;> grind [find]

theorem find_eq_none_of_lt {key : κ} {entries : List (κ × α)}
    (below : ∀ entry ∈ entries, key < entry.1) : find key entries = none := by
  induction entries with
  | nil => rfl
  | cons head rest ih =>
      have headLt := below head (by simp)
      simp only [find, headLt.ne, if_false]
      exact ih fun entry membership => below entry (by simp [membership])

theorem find_filter {entries : List (κ × α)}
    (sorted : entries.Pairwise fun left right => left.1 < right.1)
    (keep : κ → α → Bool) (query : κ) :
    find query (entries.filter fun entry => keep entry.1 entry.2) =
      (find query entries).filter (keep query) := by
  induction entries with
  | nil => rfl
  | cons head rest ih =>
      obtain ⟨other, found⟩ := head
      obtain ⟨headLt, restSorted⟩ := List.pairwise_cons.mp sorted
      have restEq := ih restSorted
      by_cases same : query = other
      · subst same
        have absent := find_eq_none_of_lt headLt
        by_cases kept : keep query found
        · simp [find, Option.filter, kept]
        · rw [absent] at restEq
          simpa [find, Option.filter, kept] using restEq
      · by_cases kept : keep other found
        · simpa [find, kept, same] using restEq
        · simpa [find, kept, same] using restEq

@[simp, grind =] theorem get?_empty (key : κ) :
    (empty : OrderedMap κ α).get? key = none := rfl

@[grind =] theorem get?_put (map : OrderedMap κ α) (key query : κ) (value : α) :
    (map.put key value).get? query =
      if query = key then some value else map.get? query :=
  find_insertEntry key query value map.entries

@[simp] theorem get?_put_self (map : OrderedMap κ α) (key : κ) (value : α) :
    (map.put key value).get? key = some value := by
  simp [get?_put]

@[simp] theorem get?_put_of_ne (map : OrderedMap κ α) {key query : κ} (value : α)
    (different : query ≠ key) : (map.put key value).get? query = map.get? query := by
  simp [get?_put, different]

@[grind =] theorem get?_filter (map : OrderedMap κ α) (keep : κ → α → Bool) (query : κ) :
    (map.filter keep).get? query = (map.get? query).filter (keep query) :=
  find_filter map.sorted keep query

@[grind =] theorem get?_erase (map : OrderedMap κ α) (key query : κ) :
    (map.erase key).get? query = if query = key then none else map.get? query := by
  rw [erase, get?_filter]
  by_cases same : query = key
  · cases map.get? query <;> simp [same]
  · cases map.get? query <;> simp [same]

@[simp] theorem get?_erase_self (map : OrderedMap κ α) (key : κ) :
    (map.erase key).get? key = none := by
  simp [get?_erase]

@[simp] theorem get?_erase_of_ne (map : OrderedMap κ α) {key query : κ}
    (different : query ≠ key) : (map.erase key).get? query = map.get? query := by
  simp [get?_erase, different]

theorem find_map {β : Type v} (image : α → β) (query : κ) (entries : List (κ × α)) :
    find query (entries.map fun entry => (entry.1, image entry.2)) =
      (find query entries).map image := by
  induction entries with
  | nil => rfl
  | cons head rest ih =>
      simp only [List.map_cons, find, ih]
      split <;> rfl

@[simp, grind =] theorem get?_mapValues {β : Type v} (map : OrderedMap κ α) (image : α → β)
    (query : κ) : (map.mapValues image).get? query = (map.get? query).map image :=
  find_map image query map.entries

theorem mapValues_congr {β : Type v} (map : OrderedMap κ α) {image other : α → β}
    (same : ∀ key value, (key, value) ∈ map.entries → image value = other value) :
    map.mapValues image = map.mapValues other := by
  simp only [mapValues, mk.injEq]
  refine List.map_congr_left ?_
  intro entry among
  rw [same entry.1 entry.2 among]

theorem insertEntry_map {β : Type v} (image : α → β) (key : κ) (value : α)
    (entries : List (κ × α)) :
    (insertEntry key value entries).map (fun entry => (entry.1, image entry.2)) =
      insertEntry key (image value) (entries.map fun entry => (entry.1, image entry.2)) := by
  induction entries with
  | nil => rfl
  | cons head rest ih =>
      simp only [insertEntry, List.map_cons]
      split_ifs
      · rfl
      · rfl
      · rw [List.map_cons, ih]

theorem mapValues_put {β : Type v} (map : OrderedMap κ α) (image : α → β) (key : κ)
    (value : α) :
    (map.put key value).mapValues image = (map.mapValues image).put key (image value) := by
  simp only [mapValues, put, mk.injEq]
  exact insertEntry_map image key value map.entries

/-- Filtering by what the image shows commutes with taking the image. -/
theorem mapValues_filter {β : Type v} (map : OrderedMap κ α) (image : α → β)
    (keep : κ → α → Bool) (shown : κ → β → Bool)
    (same : ∀ key value, keep key value = shown key (image value)) :
    (map.filter keep).mapValues image = (map.mapValues image).filter shown := by
  simp only [mapValues, filter, mk.injEq, List.filter_map]
  refine congrArg _ (List.filter_congr ?_)
  intro entry _
  exact same entry.1 entry.2

theorem mapValues_erase {β : Type v} (map : OrderedMap κ α) (image : α → β) (key : κ) :
    (map.erase key).mapValues image = (map.mapValues image).erase key :=
  map.mapValues_filter image _ _ fun _ _ => rfl

theorem mapValues_mapValues {β γ : Type v} (map : OrderedMap κ α) (image : α → β)
    (further : β → γ) :
    (map.mapValues image).mapValues further = map.mapValues fun value => further (image value) := by
  simp [mapValues]

theorem values_mapValues {β : Type v} (map : OrderedMap κ α) (image : α → β) :
    (map.mapValues image).values = map.values.map image := by
  simp [mapValues, values]

theorem insertEntry_of_lt {key : κ} {value : α} {entries : List (κ × α)}
    (above : ∀ entry ∈ entries, entry.1 < key) :
    insertEntry key value entries = entries ++ [(key, value)] := by
  induction entries with
  | nil => rfl
  | cons head rest ih =>
      obtain ⟨headLt, restLt⟩ := List.forall_mem_cons.mp above
      simp [insertEntry, headLt.not_gt, headLt.ne', ih restLt]

/-- A key above every present one is enumerated last. -/
theorem values_put_of_lt (map : OrderedMap κ α) {key : κ} (value : α)
    (above : ∀ entry ∈ map.entries, entry.1 < key) :
    (map.put key value).values = map.values ++ [value] := by
  simp [put, values, insertEntry_of_lt above]

@[simp] theorem values_dropFirst (map : OrderedMap κ α) :
    map.dropFirst.values = map.values.tail := by
  simp [dropFirst, values]

/-- A filter that looks only at values filters the enumeration. -/
@[simp] theorem values_filter (map : OrderedMap κ α) (keep : α → Bool) :
    (map.filter fun _ value => keep value).values = map.values.filter keep := by
  simp [filter, values, List.filter_map, Function.comp_def]

/-- Enumeration and lookup describe the same map. -/
theorem mem_entries_iff (map : OrderedMap κ α) {key : κ} {value : α} :
    (key, value) ∈ map.entries ↔ map.get? key = some value := by
  obtain ⟨entries, sorted⟩ := map
  simp only [get?]
  induction entries with
  | nil => simp [find]
  | cons head rest ih =>
      obtain ⟨other, found⟩ := head
      obtain ⟨headLt, restSorted⟩ := List.pairwise_cons.mp sorted
      by_cases same : key = other
      · subst same
        have absent : (key, value) ∉ rest := fun membership =>
          lt_irrefl key (headLt (key, value) membership)
        simp [find, absent, eq_comm]
      · simpa [find, same] using ih restSorted

/-- The keys of a map, in order. -/
def keys (map : OrderedMap κ α) : List κ := map.entries.map (·.1)

theorem nodup_keys (map : OrderedMap κ α) : map.keys.Nodup :=
  List.pairwise_map.mpr (map.sorted.imp fun before => before.ne)

theorem mem_keys_iff (map : OrderedMap κ α) {key : κ} :
    key ∈ map.keys ↔ (map.get? key).isSome = true := by
  simp [keys, mem_entries_iff, Option.isSome_iff_exists]

/-- A map is what it holds. -/
theorem ext_get? {left right : OrderedMap κ α} (same : ∀ key, left.get? key = right.get? key) :
    left = right := by
  have distinct (map : OrderedMap κ α) : map.entries.Nodup :=
    map.sorted.imp fun before equal => before.ne (congrArg Prod.fst equal)
  have members : left.entries.Perm right.entries := by
    rw [List.perm_ext_iff_of_nodup (distinct left) (distinct right)]
    intro entry
    rw [mem_entries_iff, mem_entries_iff, same]
  have entries : left.entries = right.entries :=
    members.eq_of_pairwise (fun _ _ _ _ before after => absurd before after.not_gt) left.sorted
      right.sorted
  cases left
  cases right
  cases entries
  rfl

/-- Selecting one key from the enumeration is lookup. -/
theorem flatMap_entries_select {β : Type v} (map : OrderedMap κ α) (key : κ)
    (image : α → List β) :
    (map.entries.flatMap fun entry => if entry.1 = key then image entry.2 else []) =
      ((map.get? key).map image).getD [] := by
  obtain ⟨entries, sorted⟩ := map
  simp only [get?]
  induction entries with
  | nil => rfl
  | cons head rest ih =>
      obtain ⟨other, found⟩ := head
      obtain ⟨headLt, restSorted⟩ := List.pairwise_cons.mp sorted
      rw [List.flatMap_cons, ih restSorted]
      by_cases same : other = key
      · subst same
        simp [find, find_eq_none_of_lt headLt]
      · simp [find, same, Ne.symm same]

theorem mem_values_iff (map : OrderedMap κ α) {value : α} :
    value ∈ map.values ↔ ∃ key, map.get? key = some value := by
  simp only [values, List.mem_map, Prod.exists, mem_entries_iff]
  constructor
  · rintro ⟨key, found, lookup, rfl⟩
    exact ⟨key, lookup⟩
  · rintro ⟨key, lookup⟩
    exact ⟨key, value, lookup, rfl⟩

/-- Values that carry their key are told apart by it. -/
theorem nodup_map_values (map : OrderedMap κ α) {name : α → κ}
    (named : ∀ key value, map.get? key = some value → name value = key) :
    (map.values.map name).Nodup := by
  have keys : map.values.map name = map.entries.map (·.1) := by
    rw [values, List.map_map]
    refine List.map_congr_left ?_
    intro entry listed
    exact named entry.1 entry.2 (map.mem_entries_iff.mp listed)
  rw [keys, List.Nodup, List.pairwise_map]
  exact map.sorted.imp fun before => before.ne

end OrderedMap

end CopySync.Foundation
