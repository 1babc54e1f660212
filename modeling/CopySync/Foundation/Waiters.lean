import CopySync.Foundation.OrderedMap
import CopySync.Foundation.Window

/-!
# Waiters by key

A table lists, for every key, who waits for it.  Waiters are added at the end, removed one by
one, and all taken at once when the key is signalled; a key that nobody waits for has no entry.

The table is kept beside a roster of parties.  Each has a key, and a waiter of its own until it
leaves; the waiters taken by a signal are gone from the table, though their party may not know.
-/

namespace CopySync.Foundation

universe u v

/-- Those who wait for a key, in the order they came. -/
abbrev Waiters (κ : Type u) (ω : Type v) [LinearOrder κ] := OrderedMap κ (List ω)

namespace Waiters

variable {κ : Type u} {ω : Type v} [LinearOrder κ]

/-- Those who wait for a key. -/
def of (table : Waiters κ ω) (key : κ) : List ω := (table.get? key).getD []

def add (table : Waiters κ ω) (key : κ) (waiter : ω) : Waiters κ ω :=
  table.put key (table.of key ++ [waiter])

/-- A waiter that is not listed leaves the list as it is. -/
def remove [DecidableEq ω] (table : Waiters κ ω) (key : κ) (waiter : ω) : Waiters κ ω :=
  let rest := (table.of key).erase waiter
  if rest = [] then table.erase key else table.put key rest

/-- Everyone who waits for the key, and the table without them. -/
def signal (table : Waiters κ ω) (key : κ) : List ω × Waiters κ ω :=
  (table.of key, table.erase key)

/-- No key is kept for nobody. -/
def Tidy (table : Waiters κ ω) : Prop := ∀ key, table.get? key ≠ some []

variable {table : Waiters κ ω} {key query : κ} {waiter : ω}

@[simp] theorem of_empty : of (.empty : Waiters κ ω) key = [] := rfl

@[simp] theorem of_add :
    (table.add key waiter).of query =
      if query = key then table.of key ++ [waiter] else table.of query := by
  rw [of, add, OrderedMap.get?_put]
  split_ifs <;> rfl

@[simp] theorem of_erase :
    of (OrderedMap.erase table key) query = if query = key then [] else table.of query := by
  rw [of, OrderedMap.get?_erase]
  split_ifs <;> rfl

@[simp] theorem of_remove [DecidableEq ω] :
    (table.remove key waiter).of query =
      if query = key then (table.of key).erase waiter else table.of query := by
  rw [remove]
  split_ifs with last same same
  · rw [of_erase, if_pos same, last]
  · rw [of_erase, if_neg same]
  · rw [of, same, OrderedMap.get?_put_self]
    rfl
  · rw [of, OrderedMap.get?_put_of_ne _ _ same, of]

theorem Tidy.empty : Tidy (.empty : Waiters κ ω) := by
  intro key vacant
  cases vacant

theorem Tidy.add (tidy : table.Tidy) : (table.add key waiter).Tidy := by
  intro query
  rw [Waiters.add, OrderedMap.get?_put]
  split_ifs
  · simp
  · exact tidy query

theorem Tidy.erase (tidy : table.Tidy) : Tidy (OrderedMap.erase table key) := by
  intro query
  rw [OrderedMap.get?_erase]
  split_ifs
  · exact (Option.some_ne_none _).symm
  · exact tidy query

theorem Tidy.remove [DecidableEq ω] (tidy : table.Tidy) : (table.remove key waiter).Tidy := by
  rw [Waiters.remove]
  split_ifs with last
  · exact tidy.erase
  · intro query
    rw [OrderedMap.get?_put]
    split_ifs
    · exact fun vacant => last (Option.some.inj vacant)
    · exact tidy query

/-- Where nobody waits there is no entry. -/
theorem Tidy.get?_eq_none (tidy : table.Tidy) (nobody : table.of key = []) :
    table.get? key = none := by
  cases found : table.get? key with
  | none => rfl
  | some list =>
      rw [of, found, Option.getD_some] at nobody
      exact absurd (nobody ▸ found) (tidy key)

/-! ## Tables and rosters -/

/-- The table lists exactly the waiters of the roster that are not gone, and nothing is gone
twice. -/
structure Accounts (table : Waiters κ ω) (gone : List ω) (roster : List (κ × Option ω)) :
    Prop where
  distinct : ∀ {first second : Nat} {key other : κ} {waiter : ω},
    roster[first]? = some (key, some waiter) → roster[second]? = some (other, some waiter) →
    first = second
  listed : ∀ {key : κ} {waiter : ω}, (key, some waiter) ∈ roster →
    waiter ∈ table.of key ∨ waiter ∈ gone
  owned : ∀ {key : κ} {waiter : ω}, waiter ∈ table.of key →
    waiter ∉ gone ∧ (key, some waiter) ∈ roster
  single : ∀ key, (table.of key).Nodup
  once : gone.Nodup
  tidy : table.Tidy

namespace Accounts

variable {gone : List ω} {roster : List (κ × Option ω)}

theorem empty : Accounts (.empty : Waiters κ ω) [] [] where
  distinct := fun absent _ => by cases absent
  listed := fun absent => by cases absent
  owned := fun absent => by cases absent
  single := fun _ => .nil
  once := .nil
  tidy := .empty

/-- A waiter waits for one key. -/
theorem same_key (accounts : Accounts table gone roster) {other : κ}
    (first : (key, some waiter) ∈ roster) (second : (other, some waiter) ∈ roster) :
    key = other := by
  obtain ⟨index, here⟩ := List.mem_iff_getElem?.mp first
  obtain ⟨place, there⟩ := List.mem_iff_getElem?.mp second
  rw [accounts.distinct here there, there] at here
  cases here
  rfl

/-- A party joins with a new waiter. -/
theorem join (accounts : Accounts table gone roster)
    (unused : ∀ other, (other, some waiter) ∉ roster) (fresh : waiter ∉ gone) :
    Accounts (table.add key waiter) gone (roster ++ [(key, some waiter)]) where
  distinct := by
    intro first second query other holder here there
    have last : ∀ {index : Nat} {query : κ} {holder : ω},
        (roster ++ [(key, some waiter)])[index]? = some (query, some holder) →
        roster[index]? = some (query, some holder) ∧ holder ≠ waiter ∨
          index = roster.length ∧ holder = waiter := by
      intro index query holder found
      rcases getElem?_concat_cases found with found | ⟨same, new⟩
      · refine .inl ⟨found, ?_⟩
        intro same
        exact unused query (same ▸ List.mem_of_getElem? found)
      · cases new
        exact .inr ⟨same, rfl⟩
    rcases last here with ⟨here, apart⟩ | ⟨rfl, rfl⟩
    · rcases last there with ⟨there, -⟩ | ⟨-, same⟩
      · exact accounts.distinct here there
      · exact absurd same apart
    · rcases last there with ⟨-, apart⟩ | ⟨rfl, -⟩
      · exact absurd rfl apart
      · rfl
  listed := by
    intro query holder inside
    rw [of_add]
    rcases List.mem_append.mp inside with old | new
    · refine (accounts.listed old).imp_left ?_
      intro waits
      split_ifs with same
      · exact List.mem_append_left _ (same ▸ waits)
      · exact waits
    · cases List.mem_singleton.mp new
      rw [if_pos rfl]
      exact .inl (List.mem_append_right _ (List.mem_singleton_self _))
  owned := by
    intro query holder waits
    have old : ∀ {query : κ} {holder : ω}, holder ∈ table.of query →
        holder ∉ gone ∧ (query, some holder) ∈ roster ++ [(key, some waiter)] := by
      intro query holder waits
      exact (accounts.owned waits).imp_right (List.mem_append_left _)
    rw [of_add] at waits
    split_ifs at waits with same
    · rcases List.mem_append.mp waits with waits | new
      · exact same ▸ old waits
      · cases List.mem_singleton.mp new
        exact ⟨fresh, same ▸ List.mem_append_right _ (List.mem_singleton_self _)⟩
    · exact old waits
  single := by
    intro query
    rw [of_add]
    split_ifs
    · apply List.nodup_append.mpr
      refine ⟨accounts.single key, List.nodup_cons.mpr ⟨List.not_mem_nil, .nil⟩, ?_⟩
      intro holder waits other new same
      cases List.mem_singleton.mp new
      exact unused key (same ▸ (accounts.owned waits).2)
    · exact accounts.single query
  once := accounts.once
  tidy := accounts.tidy.add

/-- A party that never waits changes nothing. -/
theorem pass (accounts : Accounts table gone roster) :
    Accounts table gone (roster ++ [(key, none)]) := by
  have old : ∀ {index : Nat} {query : κ} {holder : ω},
      (roster ++ [(key, none)])[index]? = some (query, some holder) →
      roster[index]? = some (query, some holder) := by
    intro index query holder found
    refine (getElem?_concat_cases found).resolve_right ?_
    rintro ⟨-, new⟩
    cases new
  exact {
    distinct := fun here there => accounts.distinct (old here) (old there)
    listed := by
      intro query holder inside
      obtain ⟨index, found⟩ := List.mem_iff_getElem?.mp inside
      exact accounts.listed (List.mem_of_getElem? (old found))
    owned := fun waits => (accounts.owned waits).imp_right (List.mem_append_left _)
    single := accounts.single
    once := accounts.once
    tidy := accounts.tidy }

/-- A party leaves; whether its waiter was gone does not matter. -/
theorem leave [DecidableEq ω] (accounts : Accounts table gone roster) {index : Nat}
    (here : roster[index]? = some (key, some waiter)) :
    Accounts (table.remove key waiter) gone (roster.set index (key, none)) := by
  have old : ∀ {place : Nat} {query : κ} {holder : ω},
      (roster.set index (key, none))[place]? = some (query, some holder) →
      place ≠ index ∧ roster[place]? = some (query, some holder) := by
    intro place query holder found
    by_cases same : place = index
    · rw [same, List.getElem?_set_self (List.getElem?_eq_some_iff.mp here).1] at found
      cases found
    · rw [List.getElem?_set_ne (Ne.symm same)] at found
      exact ⟨same, found⟩
  exact {
    distinct := fun first second => accounts.distinct (old first).2 (old second).2
    listed := by
      intro query holder inside
      obtain ⟨place, found⟩ := List.mem_iff_getElem?.mp inside
      obtain ⟨elsewhere, found⟩ := old found
      refine (accounts.listed (List.mem_of_getElem? found)).imp_left ?_
      intro waits
      rw [of_remove]
      split_ifs with same
      · refine (accounts.single key).mem_erase_iff.mpr ⟨?_, same ▸ waits⟩
        intro shared
        exact elsewhere (accounts.distinct (shared ▸ found) here)
      · exact waits
    owned := by
      intro query holder waits
      have kept : (query, some holder) ≠ (key, some waiter) → holder ∈ table.of query →
          holder ∉ gone ∧ (query, some holder) ∈ roster.set index (key, none) := by
        intro apart waits
        refine (accounts.owned waits).imp_right ?_
        intro inside
        obtain ⟨place, found⟩ := List.mem_iff_getElem?.mp inside
        refine List.mem_of_getElem? ((List.getElem?_set_ne ?_).trans found)
        intro same
        rw [same] at here
        exact apart (Option.some.inj (found.symm.trans here))
      rw [of_remove] at waits
      split_ifs at waits with same
      · obtain ⟨apart, waits⟩ := (accounts.single key).mem_erase_iff.mp waits
        exact kept (fun shared => apart (Option.some.inj (congrArg Prod.snd shared))) (same ▸ waits)
      · exact kept (fun shared => same (congrArg Prod.fst shared)) waits
    single := by
      intro query
      rw [of_remove]
      split_ifs
      · exact (accounts.single key).erase waiter
      · exact accounts.single query
    once := accounts.once
    tidy := accounts.tidy.remove }

/-- A signal takes all who wait for the key. -/
theorem signal (accounts : Accounts table gone roster) (key : κ) :
    Accounts (OrderedMap.erase table key) (gone ++ table.of key) roster where
  distinct := accounts.distinct
  listed := by
    intro query holder inside
    rw [of_erase, List.mem_append]
    rcases accounts.listed inside with waits | left
    · split_ifs with same
      · exact .inr (.inr (same ▸ waits))
      · exact .inl waits
    · exact .inr (.inl left)
  owned := by
    intro query holder waits
    rw [of_erase] at waits
    split_ifs at waits with same
    · cases waits
    · obtain ⟨present, inside⟩ := accounts.owned waits
      refine ⟨?_, inside⟩
      intro left
      rcases List.mem_append.mp left with left | taken
      · exact present left
      · exact same (accounts.same_key inside (accounts.owned taken).2)
  single := by
    intro query
    rw [of_erase]
    split_ifs
    · exact .nil
    · exact accounts.single query
  once := by
    apply List.nodup_append.mpr
    refine ⟨accounts.once, accounts.single key, ?_⟩
    intro holder left other taken same
    exact (accounts.owned taken).1 (same ▸ left)
  tidy := accounts.tidy.erase

/-- A key without a party has no entry. -/
theorem get?_eq_none (accounts : Accounts table gone roster)
    (nobody : ∀ waiter, (key, some waiter) ∉ roster) : table.get? key = none := by
  apply accounts.tidy.get?_eq_none
  apply List.eq_nil_iff_forall_not_mem.mpr
  intro waiter waits
  exact nobody waiter (accounts.owned waits).2

end Accounts

end Waiters

end CopySync.Foundation
