import CopySync.Foundation.Window
import Mathlib.Data.List.Nodup
import Mathlib.Data.List.Perm.Basic
import Mathlib.Logic.Function.Basic

/-!
# Custody of items

Items are numbered in the order in which they are handed in and from then on lie in
places, each of which keeps a list.  Two operations, handing in an item and moving
some of the items of a place to another, keep every item in exactly one place.
-/

namespace CopySync.Foundation

universe u v

/-- The items at each place, with their numbers. -/
abbrev Custody (π : Type u) (ι : Type v) := π → List (Nat × ι)

namespace Custody

variable {π : Type u} {ι : Type v} [DecidableEq π]

/-- The numbers at a place. -/
def tags (custody : Custody π ι) (place : π) : List Nat := (custody place).map (·.1)

/-- The items at a place. -/
def items (custody : Custody π ι) (place : π) : List ι := (custody place).map (·.2)

/-- Hand in an item. -/
def receive (custody : Custody π ι) (place : π) (tag : Nat) (item : ι) : Custody π ι :=
  Function.update custody place (custody place ++ [(tag, item)])

/-- Hand in several items, each at its own place. -/
def receiveAll (custody : Custody π ι) : Nat → List (π × ι) → Custody π ι
  | _, [] => custody
  | tag, (place, item) :: rest => (custody.receive place tag item).receiveAll (tag + 1) rest

/-- The items for one place. -/
def bound (place : π) (entries : List (π × ι)) : List ι :=
  entries.filterMap fun entry => if entry.1 = place then some entry.2 else none

/-- Move items from one place to the end of another. -/
def move (custody : Custody π ι) (source target : π) (kept moved : List (Nat × ι)) :
    Custody π ι :=
  Function.update (Function.update custody source kept) target (custody target ++ moved)

section Lookup

variable {custody : Custody π ι} {place source target : π} {tag : Nat} {item : ι}
variable {kept moved : List (Nat × ι)}

@[simp] theorem receive_self :
    custody.receive place tag item place = custody place ++ [(tag, item)] :=
  Function.update_self ..

theorem receive_of_ne {other : π} (different : other ≠ place) :
    custody.receive place tag item other = custody other :=
  Function.update_of_ne different ..

@[simp] theorem move_target :
    custody.move source target kept moved target = custody target ++ moved :=
  Function.update_self ..

theorem move_source (apart : source ≠ target) :
    custody.move source target kept moved source = kept := by
  rw [move, Function.update_of_ne apart, Function.update_self]

theorem move_of_ne {other : π} (notSource : other ≠ source) (notTarget : other ≠ target) :
    custody.move source target kept moved other = custody other := by
  rw [move, Function.update_of_ne notTarget, Function.update_of_ne notSource]

@[simp] theorem items_receive_self :
    (custody.receive place tag item).items place = custody.items place ++ [item] := by
  simp [items]

@[simp] theorem items_receive_of_ne {other : π} (different : other ≠ place) :
    (custody.receive place tag item).items other = custody.items other := by
  rw [items, receive_of_ne different, items]

@[simp] theorem items_receiveAll (custody : Custody π ι) (place : π) (tag : Nat)
    (entries : List (π × ι)) :
    (custody.receiveAll tag entries).items place = custody.items place ++ bound place entries := by
  induction entries generalizing custody tag with
  | nil => simp [receiveAll, bound]
  | cons entry rest ih =>
      obtain ⟨home, item⟩ := entry
      rw [receiveAll, ih]
      by_cases same : home = place
      · subst same
        simp [bound]
      · have different : place ≠ home := fun equal => same equal.symm
        simp [bound, same, different]

@[simp] theorem items_move_target :
    (custody.move source target kept moved).items target =
      custody.items target ++ moved.map (·.2) := by
  simp [items]

@[simp] theorem items_move_source (apart : source ≠ target) :
    (custody.move source target kept moved).items source = kept.map (·.2) := by
  rw [items, move_source apart]

@[simp] theorem items_move_of_ne {other : π} (notSource : other ≠ source)
    (notTarget : other ≠ target) :
    (custody.move source target kept moved).items other = custody.items other := by
  rw [items, move_of_ne notSource notTarget, items]

end Lookup

/-- Every item handed in is at one place, and listed there once. -/
structure Exact (issued : List ι) (custody : Custody π ι) : Prop where
  placed : ∀ tag item, issued[tag]? = some item → ∃ place, (tag, item) ∈ custody place
  known : ∀ place tag item, (tag, item) ∈ custody place → issued[tag]? = some item
  once : ∀ place, (custody.tags place).Nodup
  apart : ∀ place other tag, tag ∈ custody.tags place → tag ∈ custody.tags other →
    place = other

variable {issued : List ι} {custody : Custody π ι}

omit [DecidableEq π] in
theorem mem_tags {place : π} {tag : Nat} {item : ι} (listed : (tag, item) ∈ custody place) :
    tag ∈ custody.tags place :=
  List.mem_map.mpr ⟨(tag, item), listed, rfl⟩

omit [DecidableEq π] in
theorem Exact.unique (exact : Exact issued custody) {tag : Nat} {item : ι}
    (known : issued[tag]? = some item) : ∃! place, (tag, item) ∈ custody place := by
  obtain ⟨place, listed⟩ := exact.placed tag item known
  exact ⟨place, listed, fun other also =>
    exact.apart other place tag (mem_tags also) (mem_tags listed)⟩

omit [DecidableEq π] in
theorem Exact.lt_length (exact : Exact issued custody) {place : π} {tag : Nat}
    (listed : tag ∈ custody.tags place) : tag < issued.length := by
  obtain ⟨⟨tag, item⟩, member, rfl⟩ := List.mem_map.mp listed
  exact (List.getElem?_eq_some_iff.mp (exact.known place tag item member)).1

omit [DecidableEq π] in
/-- Nothing was handed in. -/
theorem Exact.empty : Exact [] (fun _ : π => ([] : List (Nat × ι))) where
  placed tag item known := by simp at known
  known _ _ _ listed := by cases listed
  once _ := .nil
  apart _ _ _ listed := by cases listed

/-- A new item gets the next number. -/
theorem Exact.receive (exact : Exact issued custody) (place : π) (item : ι) :
    Exact (issued ++ [item]) (custody.receive place issued.length item) where
  placed tag other known := by
    rcases getElem?_concat_cases known with earlier | ⟨rfl, rfl⟩
    · obtain ⟨home, listed⟩ := exact.placed tag other earlier
      refine ⟨home, ?_⟩
      by_cases same : home = place
      · subst same
        rw [receive_self]
        exact List.mem_append_left _ listed
      · rwa [receive_of_ne same]
    · exact ⟨place, by simp⟩
  known home tag other listed := by
    have old : (tag, other) ∈ custody home → (issued ++ [item])[tag]? = some other := by
      intro member
      have known := exact.known home tag other member
      rwa [List.getElem?_append_left (List.getElem?_eq_some_iff.mp known).1]
    by_cases same : home = place
    · subst same
      rw [receive_self] at listed
      rcases List.mem_append.mp listed with member | new
      · exact old member
      · cases List.mem_singleton.mp new
        simp
    · rw [receive_of_ne same] at listed
      exact old listed
  once home := by
    by_cases same : home = place
    · subst same
      have fresh : issued.length ∉ custody.tags home := fun listed =>
        Nat.lt_irrefl _ (exact.lt_length listed)
      rw [tags, receive_self, List.map_append]
      exact List.nodup_append.mpr ⟨exact.once home, by simp, fun tag listed other new => by
        cases List.mem_singleton.mp new
        rintro rfl
        exact fresh listed⟩
    · rw [tags, receive_of_ne same]
      exact exact.once home
  apart left right tag inLeft inRight := by
    have member : ∀ {home : π}, tag ∈ (custody.receive place issued.length item).tags home →
        tag ∈ custody.tags home ∨ tag = issued.length ∧ home = place := by
      intro home listed
      by_cases same : home = place
      · subst same
        rw [tags, receive_self, List.map_append] at listed
        exact (List.mem_append.mp listed).imp id fun new => ⟨List.mem_singleton.mp new, rfl⟩
      · rw [tags, receive_of_ne same] at listed
        exact .inl listed
    rcases member inLeft with old | ⟨rfl, rfl⟩
    · rcases member inRight with also | ⟨rfl, -⟩
      · exact exact.apart left right tag old also
      · exact absurd (exact.lt_length old) (Nat.lt_irrefl _)
    · rcases member inRight with also | ⟨-, rfl⟩
      · exact absurd (exact.lt_length also) (Nat.lt_irrefl _)
      · rfl

theorem Exact.receiveAll (exact : Exact issued custody) (entries : List (π × ι)) :
    Exact (issued ++ entries.map (·.2)) (custody.receiveAll issued.length entries) := by
  induction entries generalizing issued custody with
  | nil => simpa [Custody.receiveAll] using exact
  | cons entry rest ih =>
      have later := ih (exact.receive entry.1 entry.2)
      simpa [Custody.receiveAll] using later

section Move

variable {source target : π} {kept moved : List (Nat × ι)}

/-- Where an item of the new custody was. -/
theorem mem_of_move (different : source ≠ target) (split : (kept ++ moved).Perm (custody source))
    {home : π} {entry : Nat × ι}
    (listed : entry ∈ custody.move source target kept moved home) :
    entry ∈ custody home ∧ (home = source → entry ∈ kept) ∨
      home = target ∧ entry ∈ moved ∧ entry ∈ custody source := by
  by_cases atTarget : home = target
  · subst atTarget
    rw [move_target] at listed
    rcases List.mem_append.mp listed with old | new
    · exact .inl ⟨old, fun same => absurd same.symm different⟩
    · exact .inr ⟨rfl, new, split.mem_iff.mp (List.mem_append_right _ new)⟩
  · by_cases atSource : home = source
    · subst atSource
      rw [move_source different] at listed
      exact .inl ⟨split.mem_iff.mp (List.mem_append_left _ listed), fun _ => listed⟩
    · rw [move_of_ne atSource atTarget] at listed
      exact .inl ⟨listed, fun same => absurd same atSource⟩

theorem mem_tags_of_move (different : source ≠ target)
    (split : (kept ++ moved).Perm (custody source)) {home : π} {tag : Nat}
    (listed : tag ∈ (custody.move source target kept moved).tags home) :
    tag ∈ custody.tags home ∨ home = target ∧ tag ∈ custody.tags source := by
  obtain ⟨⟨tag, item⟩, member, rfl⟩ := List.mem_map.mp listed
  rcases mem_of_move different split member with ⟨old, -⟩ | ⟨atTarget, -, old⟩
  · exact .inl (mem_tags old)
  · exact .inr ⟨atTarget, mem_tags old⟩

/-- Take the first items, or the one at a position. -/
theorem perm_drop_take (entries : List (Nat × ι)) (count : Nat) :
    (entries.drop count ++ entries.take count).Perm entries :=
  List.perm_append_comm.trans (.of_eq (List.take_append_drop count entries))

theorem perm_eraseIdx (entries : List (Nat × ι)) (position : Nat) :
    (entries.eraseIdx position ++ entries[position]?.toList).Perm entries := by
  by_cases inside : position < entries.length
  · rw [List.getElem?_eq_getElem inside]
    exact List.perm_append_comm.trans (List.getElem_cons_eraseIdx_perm inside)
  · have outside := Nat.not_lt.mp inside
    rw [List.getElem?_eq_none outside, List.eraseIdx_of_length_le outside]
    exact .of_eq (List.append_nil entries)

/-- What a position holds, as a view of the place shows it. -/
theorem map_position {β : Type*} {view : Nat × ι → β} {entries : List (Nat × ι)} {items : List β}
    {position : Nat} {item : β} (same : entries.map view = items)
    (found : items[position]? = some item) : entries[position]?.toList.map view = [item] := by
  rw [← same, List.getElem?_map] at found
  obtain ⟨entry, there, rfl⟩ := Option.map_eq_some_iff.mp found
  rw [there]
  rfl

theorem Exact.move (exact : Exact issued custody) (different : source ≠ target)
    (split : (kept ++ moved).Perm (custody source)) :
    Exact issued (custody.move source target kept moved) := by
  have numbers : ((kept ++ moved).map (·.1)).Perm (custody.tags source) := split.map _
  have halves := numbers.nodup_iff.mpr (exact.once source)
  rw [List.map_append] at halves
  obtain ⟨keptOnce, movedOnce, disjoint⟩ := List.nodup_append.mp halves
  constructor
  · intro tag item known
    obtain ⟨home, listed⟩ := exact.placed tag item known
    by_cases atSource : home = source
    · subst atSource
      rcases List.mem_append.mp (split.mem_iff.mpr listed) with stays | goes
      · exact ⟨home, by rwa [move_source different]⟩
      · exact ⟨target, by rw [move_target]; exact List.mem_append_right _ goes⟩
    · refine ⟨home, ?_⟩
      by_cases atTarget : home = target
      · subst atTarget
        rw [move_target]
        exact List.mem_append_left _ listed
      · rwa [move_of_ne atSource atTarget]
  · intro home tag item listed
    rcases mem_of_move different split listed with ⟨old, -⟩ | ⟨-, -, old⟩
    · exact exact.known home tag item old
    · exact exact.known source tag item old
  · intro home
    by_cases atTarget : home = target
    · subst atTarget
      rw [tags, move_target, List.map_append]
      refine List.nodup_append.mpr ⟨exact.once home, movedOnce, fun tag old other new => ?_⟩
      rintro rfl
      have before : tag ∈ custody.tags source := by
        rw [← numbers.mem_iff, List.map_append]
        exact List.mem_append_right _ new
      exact different (exact.apart source home tag before old)
    · by_cases atSource : home = source
      · subst atSource
        rw [tags, move_source different]
        exact keptOnce
      · rw [tags, move_of_ne atSource atTarget]
        exact exact.once home
  · intro left right tag inLeft inRight
    obtain ⟨⟨tag, item⟩, first, rfl⟩ := List.mem_map.mp inLeft
    obtain ⟨⟨other, also⟩, second, same⟩ := List.mem_map.mp inRight
    have same : other = tag := same
    subst same
    rcases mem_of_move different split first with ⟨old, stays⟩ | ⟨rfl, goes, fromSource⟩
    · rcases mem_of_move different split second with ⟨too, -⟩ | ⟨rfl, goes, fromSource⟩
      · exact exact.apart left right other (mem_tags old) (mem_tags too)
      · have home := exact.apart left source other (mem_tags old) (mem_tags fromSource)
        subst home
        exact absurd rfl (disjoint other (List.mem_map.mpr ⟨_, stays rfl, rfl⟩) other
          (List.mem_map.mpr ⟨_, goes, rfl⟩))
    · rcases mem_of_move different split second with ⟨too, stays⟩ | ⟨rfl, -, -⟩
      · have home := exact.apart right source other (mem_tags too) (mem_tags fromSource)
        subst home
        exact absurd rfl (disjoint other (List.mem_map.mpr ⟨_, stays rfl, rfl⟩) other
          (List.mem_map.mpr ⟨_, goes, rfl⟩))
      · rfl

end Move

end Custody

end CopySync.Foundation
