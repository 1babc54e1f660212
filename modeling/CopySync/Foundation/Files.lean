import CopySync.Foundation.Path
import Mathlib.Algebra.BigOperators.Group.List.Basic
import Mathlib.Algebra.Order.Ring.Int
import Mathlib.Data.List.AList
import Mathlib.Tactic.Ring

/-!
# The files of a disk

A disk is a finite map from names to contents.  Removing files one after the other, the
size of a file, and the usage of those files that count towards it.
-/

namespace CopySync.Foundation

/-- Files by name, with their bytes. -/
abbrev Files (κ : Type) := AList fun _ : κ => List UInt8

namespace Files

variable {κ : Type} [DecidableEq κ]

/-- The size of a file. -/
def stat (files : Files κ) (name : κ) : Option Int :=
  (files.lookup name).map fun bytes => (bytes.length : Int)

/-- The total size of the files that count. -/
def usage (counts : κ → Bool) (files : Files κ) : Int :=
  ((files.entries.filter fun file => counts file.1).map fun file => (file.2.length : Int)).sum

/-- Remove files one after the other. -/
def removeAll (files : Files κ) (names : List κ) : Files κ :=
  names.foldl (fun left name => left.erase name) files

variable (files : Files κ) (name query : κ)

@[simp] theorem removeAll_nil : files.removeAll [] = files := rfl

@[simp] theorem removeAll_cons (names : List κ) :
    files.removeAll (name :: names) = removeAll (files.erase name) names := rfl

theorem removeAll_append (first second : List κ) :
    files.removeAll (first ++ second) = (files.removeAll first).removeAll second :=
  List.foldl_append

theorem lookup_erase_eq :
    (files.erase name).lookup query = if query = name then none else files.lookup query := by
  split_ifs with same
  · rw [same, AList.lookup_erase]
  · exact AList.lookup_erase_ne same

theorem lookup_removeAll (names : List κ) :
    (files.removeAll names).lookup query = if query ∈ names then none else files.lookup query := by
  induction names generalizing files with
  | nil => simp
  | cons name rest ih =>
      rw [removeAll_cons, ih, lookup_erase_eq]
      by_cases same : query = name
      · simp [same]
      · simp [same]

theorem stat_erase_of_ne (different : query ≠ name) :
    stat (files.erase name) query = files.stat query := by
  rw [stat, AList.lookup_erase_ne different, stat]

variable {files name}

theorem stat_eq_none : files.stat name = none ↔ files.lookup name = none := Option.map_eq_none_iff

/-- A file that is there takes its place among the entries and its size of the usage. -/
theorem exists_of_lookup {bytes : List UInt8} (found : files.lookup name = some bytes) :
    ∃ before after, files.entries = before ++ ⟨name, bytes⟩ :: after ∧
      (files.erase name).entries = before ++ after := by
  have inside : name ∈ files.keys :=
    AList.mem_keys.mp (AList.lookup_isSome.mp (Option.isSome_of_eq_some found))
  obtain ⟨content, before, after, -, split, erased⟩ := List.exists_of_kerase inside
  have listed : (⟨name, content⟩ : Sigma fun _ : κ => List UInt8) ∈ files.entries := by
    rw [split]
    simp
  cases found.symm.trans (AList.mem_lookup_iff.mpr listed)
  exact ⟨before, after, split, erased⟩

theorem usage_erase {counts : κ → Bool} {bytes : List UInt8}
    (found : files.lookup name = some bytes) (counted : counts name = true) :
    usage counts (files.erase name) = files.usage counts - bytes.length := by
  obtain ⟨before, after, split, erased⟩ := exists_of_lookup found
  simp only [usage, split, erased, List.filter_append, List.filter_cons, counted, if_true,
    List.map_append, List.map_cons, List.sum_append, List.sum_cons]
  ring

theorem length_erase {bytes : List UInt8} (found : files.lookup name = some bytes) :
    (files.erase name).entries.length + 1 = files.entries.length := by
  obtain ⟨before, after, split, erased⟩ := exists_of_lookup found
  rw [split, erased, List.length_append, List.length_append, List.length_cons, Nat.add_assoc]

/-- Removing present files with distinct names takes away as many files. -/
theorem length_removeAll {names : List κ} (distinct : names.Nodup)
    (present : ∀ name ∈ names, files.lookup name ≠ none) :
    (files.removeAll names).entries.length + names.length = files.entries.length := by
  induction names generalizing files with
  | nil => rfl
  | cons name rest ih =>
      obtain ⟨fresh, distinct⟩ := List.nodup_cons.mp distinct
      obtain ⟨here, others⟩ := List.forall_mem_cons.mp present
      obtain ⟨bytes, found⟩ := Option.ne_none_iff_exists'.mp here
      have later : ∀ query ∈ rest, (files.erase name).lookup query ≠ none := by
        intro query listed
        rw [AList.lookup_erase_ne (ne_of_mem_of_not_mem listed fresh)]
        exact others query listed
      rw [removeAll_cons, List.length_cons, ← Nat.add_assoc, ih distinct later,
        length_erase found]

end Files

end CopySync.Foundation
