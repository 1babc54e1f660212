import CopySync.Foundation.History
import CopySync.Foundation.Window
import Mathlib.Data.Finset.Card
import Mathlib.Data.List.Nodup

/-!
# Bounded queues of distinct keys

A key enters a queue at its end.  A key that waits already keeps its place, and a queue that
grows too long loses its first key; keys may also leave out of turn.  A user of the queue sees
which keys newly entered, in order.  The age of a key counts those that entered after it did
last: keys wait in the order of their ages, and when no key leaves out of turn those younger
than the capacity are the ones that wait.
-/

namespace CopySync.Foundation

universe u

variable {κ : Type u} {capacity : Nat} {entered : List κ} {key other : κ}

/-! ## Ages -/

theorem mem_of_mem_latest (listed : key ∈ latest capacity entered) : key ∈ entered :=
  List.mem_of_mem_drop listed

/-- No key enters while it is among the latest. -/
def Spaced (capacity : Nat) (entered : List κ) : Prop :=
  EachAfter (fun before next => next ∉ latest capacity before) entered

theorem Spaced.latest_nodup (spaced : Spaced capacity entered) :
    (latest capacity entered).Nodup := by
  induction entered using List.reverseRecOn with
  | nil => simp [latest]
  | append_singleton before last ih =>
      obtain ⟨earlier, fresh⟩ := eachAfter_concat.mp spaced
      have grown : (latest capacity before ++ [last]).Nodup := by
        rw [← List.concat_eq_append]
        exact (ih earlier).concat fresh
      rw [← latest_concat]
      exact grown.sublist (List.drop_sublist _ _)

variable [DecidableEq κ]

/-- How many keys entered after a key last did. -/
def age (entered : List κ) (key : κ) : Nat := entered.reverse.idxOf key

@[simp] theorem age_concat_self (entered : List κ) (key : κ) :
    age (entered ++ [key]) key = 0 := by
  simp [age]

@[simp] theorem age_concat_of_ne (entered : List κ) (different : other ≠ key) :
    age (entered ++ [key]) other = age entered other + 1 := by
  simp [age, List.idxOf_cons_ne _ different.symm]

theorem age_of_last {former later : List κ} (last : key ∉ later) :
    age (former ++ key :: later) key = later.length := by
  have absent : key ∉ later.reverse := fun listed => last (List.mem_reverse.mp listed)
  have newest : (former ++ key :: later).reverse = later.reverse ++ key :: former.reverse := by
    simp
  rw [age, newest, List.idxOf_append_of_notMem absent, List.idxOf_cons_self, List.length_reverse,
    Nat.add_zero]

/-- The latest keys are the young ones. -/
theorem mem_latest_iff (listed : key ∈ entered) :
    key ∈ latest capacity entered ↔ age entered key < capacity := by
  have newest : key ∈ latest capacity entered ↔ key ∈ entered.reverse.take capacity := by
    rw [List.take_reverse, List.mem_reverse, latest]
  rw [newest, List.mem_take_iff_idxOf_lt (List.mem_reverse.mpr listed), age]

/-- Where as many keys entered as there are places, as many are distinct. -/
theorem Spaced.le_card {former later : List κ} (spaced : Spaced capacity (former ++ later))
    (many : capacity ≤ later.length) : capacity ≤ later.toFinset.card := by
  have start : former ++ later.take capacity <+: former ++ later :=
    (List.prefix_append_right_inj _).mpr (List.take_prefix capacity later)
  have length : (later.take capacity).length = capacity := by
    rw [List.length_take, Nat.min_eq_left many]
  have window : latest capacity (former ++ later.take capacity) = later.take capacity := by
    rw [latest, List.length_append, length, Nat.add_sub_cancel, List.drop_left]
  have early : Spaced capacity (former ++ later.take capacity) :=
    EachAfter.of_prefix spaced start
  have nodup : (later.take capacity).Nodup := window ▸ early.latest_nodup
  calc capacity = (later.take capacity).toFinset.card := by
        rw [List.toFinset_card_of_nodup nodup, length]
    _ ≤ later.toFinset.card := by
        apply Finset.card_le_card
        intro item listed
        exact List.mem_toFinset.mpr (List.mem_of_mem_take (List.mem_toFinset.mp listed))

/-- A key stays young while fewer distinct other keys enter after it than there are places. -/
theorem Spaced.age_lt {former later : List κ} (spaced : Spaced capacity (former ++ key :: later))
    (few : (later.toFinset.erase key).card < capacity) :
    age (former ++ key :: later) key < capacity := by
  -- The key may have entered again later.
  obtain ⟨newest, older, split, last⟩ := List.eq_append_cons_of_mem
    (List.mem_reverse.mpr (List.mem_cons_self (a := key) (l := later)))
  have again : key :: later = older.reverse ++ key :: newest.reverse := by
    rw [← List.reverse_reverse (key :: later), split]
    simp
  have absent : key ∉ newest.reverse := fun listed => last (List.mem_reverse.mp listed)
  have whole : former ++ key :: later = (former ++ older.reverse) ++ key :: newest.reverse := by
    rw [again, List.append_assoc]
  rw [whole, age_of_last absent]
  by_contra! old
  have among : newest.reverse.toFinset ⊆ later.toFinset.erase key := by
    intro item listed
    have member : item ∈ newest.reverse := List.mem_toFinset.mp listed
    have different : item ≠ key := fun same => absent (same ▸ member)
    have later_member : item ∈ key :: later :=
      again ▸ List.mem_append_right _ (List.mem_cons_of_mem _ member)
    exact Finset.mem_erase.mpr
      ⟨different, List.mem_toFinset.mpr (List.mem_of_ne_of_mem different later_member)⟩
  have behind : former ++ key :: later = (former ++ older.reverse ++ [key]) ++ newest.reverse := by
    rw [whole, List.append_cons]
  have many := Spaced.le_card (behind ▸ spaced) old
  exact absurd few (Nat.not_lt.mpr (many.trans (Finset.card_le_card among)))

/-! ## Queues -/

/-- Distinct keys, at most so many, the one that waits longest first. -/
@[ext] structure Fifo (κ : Type u) (capacity : Nat) where
  keys : List κ
  nodup : keys.Nodup
  bounded : keys.length ≤ capacity

namespace Fifo

variable {queue : Fifo κ capacity}

def empty : Fifo κ capacity := ⟨[], List.nodup_nil, Nat.zero_le _⟩

/-- A new key goes to the end. -/
def enter (queue : Fifo κ capacity) (key : κ) : Fifo κ capacity :=
  if known : key ∈ queue.keys then queue
  else
    { keys := latest capacity (queue.keys ++ [key])
      nodup := by
        have grown : (queue.keys ++ [key]).Nodup := by
          rw [← List.concat_eq_append]
          exact queue.nodup.concat known
        exact grown.sublist (List.drop_sublist _ _)
      bounded := by
        rw [length_latest]
        exact Nat.min_le_left _ _ }

/-- A key leaves out of turn. -/
def leave (queue : Fifo κ capacity) (key : κ) : Fifo κ capacity where
  keys := queue.keys.filter (· != key)
  nodup := queue.nodup.filter _
  bounded := (List.length_filter_le ..).trans queue.bounded

/-- The key, when it does not wait yet. -/
def fresh? (queue : Fifo κ capacity) (key : κ) : Option κ :=
  if key ∈ queue.keys then none else some key

theorem enter_of_known (known : key ∈ queue.keys) : queue.enter key = queue := dif_pos known

theorem keys_enter_of_new (new : key ∉ queue.keys) :
    (queue.enter key).keys = latest capacity (queue.keys ++ [key]) := by
  rw [enter, dif_neg new]

theorem keys_enter_of_room (new : key ∉ queue.keys) (room : queue.keys.length < capacity) :
    (queue.enter key).keys = queue.keys ++ [key] := by
  rw [keys_enter_of_new new, latest, List.length_append, List.length_singleton,
    Nat.sub_eq_zero_of_le room, List.drop_zero]

/-- A full queue loses its first key. -/
theorem keys_enter_of_full (new : key ∉ queue.keys) (full : queue.keys.length = capacity) :
    (queue.enter key).keys = (queue.keys ++ [key]).tail := by
  rw [keys_enter_of_new new, latest, List.length_append, List.length_singleton, full,
    Nat.add_sub_cancel_left, List.drop_one]

theorem fresh?_of_known (known : key ∈ queue.keys) : queue.fresh? key = none := if_pos known

theorem fresh?_of_new (new : key ∉ queue.keys) : queue.fresh? key = some key := if_neg new

/-! ## Waiting in the order of age -/

/-- The keys that wait have entered, the older ones first. -/
structure Aged (queue : Fifo κ capacity) (entered : List κ) : Prop where
  listed : ∀ key ∈ queue.keys, key ∈ entered
  ordered : queue.keys.Pairwise fun older newer => age entered newer < age entered older

theorem Aged.empty : Aged (empty : Fifo κ capacity) [] where
  listed _ waiting := by cases waiting
  ordered := .nil

theorem Aged.leave (aged : queue.Aged entered) (key : κ) :
    (queue.leave key).Aged entered where
  listed _ waiting := aged.listed _ (List.mem_of_mem_filter waiting)
  ordered := aged.ordered.filter _

/-- Everyone who waits is older than a new key. -/
theorem Aged.concat (aged : queue.Aged entered) (new : key ∉ queue.keys) :
    (queue.keys ++ [key]).Pairwise fun older newer =>
      age (entered ++ [key]) newer < age (entered ++ [key]) older := by
  have other : ∀ item ∈ queue.keys, item ≠ key := fun item waiting same => new (same ▸ waiting)
  rw [List.pairwise_append]
  refine ⟨?_, List.pairwise_singleton _ _, ?_⟩
  · apply aged.ordered.imp_of_mem
    intro older newer waits joined less
    rw [age_concat_of_ne _ (other older waits), age_concat_of_ne _ (other newer joined)]
    exact Nat.succ_lt_succ less
  · intro older waits newer joined
    rw [List.mem_singleton.mp joined, age_concat_self, age_concat_of_ne _ (other older waits)]
    exact Nat.succ_pos _

theorem Aged.enter (aged : queue.Aged entered) (key : κ) :
    (queue.enter key).Aged (entered ++ (queue.fresh? key).toList) := by
  by_cases known : key ∈ queue.keys
  · rw [enter_of_known known, fresh?_of_known known, Option.toList_none, List.append_nil]
    exact aged
  · rw [fresh?_of_new known, Option.toList_some]
    have kept : ∀ item ∈ (queue.enter key).keys, item ∈ queue.keys ++ [key] := by
      rw [keys_enter_of_new known]
      exact fun item => mem_of_mem_latest
    constructor
    · intro item waiting
      rcases List.mem_append.mp (kept item waiting) with old | new
      · exact List.mem_append_left _ (aged.listed item old)
      · exact List.mem_append_right _ new
    · rw [keys_enter_of_new known]
      exact (aged.concat known).sublist (List.drop_sublist _ _)

/-- A key that is lost when another enters was the oldest, and the only one lost. -/
theorem Aged.oldest_of_lost (aged : queue.Aged entered) {lost : κ} (waits : lost ∈ queue.keys)
    (gone : lost ∉ (queue.enter key).keys) (waiting : other ∈ queue.keys)
    (different : other ≠ lost) :
    other ∈ (queue.enter key).keys ∧ age entered other < age entered lost := by
  have new : key ∉ queue.keys := by
    intro known
    rw [enter_of_known known] at gone
    exact gone waits
  rcases Nat.lt_or_eq_of_le queue.bounded with room | full
  · rw [keys_enter_of_room new room] at gone
    exact absurd (List.mem_append_left _ waits) gone
  · have ordered := aged.ordered
    rw [keys_enter_of_full new full] at gone ⊢
    cases split : queue.keys with
    | nil =>
        rw [split] at waits
        cases waits
    | cons first rest =>
        rw [split] at waits waiting gone ordered
        have head : lost = first := by
          rcases List.mem_cons.mp waits with here | there
          · exact here
          · exact absurd (List.mem_append_left _ there) gone
        subst head
        have behind : other ∈ rest := List.mem_of_ne_of_mem different waiting
        exact ⟨List.mem_append_left _ behind, (List.pairwise_cons.mp ordered).1 other behind⟩

/-! ## Queues nobody leaves out of turn -/

/-- The keys that entered latest are the ones that wait. -/
structure Complete (queue : Fifo κ capacity) (entered : List κ) : Prop where
  keys : queue.keys = latest capacity entered
  spaced : Spaced capacity entered

omit [DecidableEq κ] in
theorem Complete.empty : Complete (empty : Fifo κ capacity) [] where
  keys := by simp [Fifo.empty, latest]
  spaced := .nil

theorem Complete.enter (complete : queue.Complete entered) (key : κ) :
    (queue.enter key).Complete (entered ++ (queue.fresh? key).toList) := by
  by_cases known : key ∈ queue.keys
  · rw [enter_of_known known, fresh?_of_known known, Option.toList_none, List.append_nil]
    exact complete
  · rw [fresh?_of_new known, Option.toList_some]
    constructor
    · rw [keys_enter_of_new known, complete.keys, latest_concat]
    · exact eachAfter_concat.mpr ⟨complete.spaced, complete.keys ▸ known⟩

/-- Exactly the young keys wait. -/
theorem Complete.mem_iff (complete : queue.Complete entered) (listed : key ∈ entered) :
    key ∈ queue.keys ↔ age entered key < capacity := by
  rw [complete.keys, mem_latest_iff listed]

end Fifo

end CopySync.Foundation
