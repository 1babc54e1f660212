import CopySync.Server.Blob.GC
import CopySync.Server.Relay.Effect
import Mathlib.Data.List.Sort

/-!
# The collector and the ids it meets

The blob channel refuses ids that are not content addresses.  The relay does not: the
id of a clip is the sender's, and an accepted claim creates a record under it.  The
collector later slices that id and builds a path from it.  As long as the claimed
ids are digests, every pass completes and removes blob files only.
-/

namespace CopySync.Server.Relay

open Foundation

/-- Accepted claims are on digests. -/
def claimsAddressed (relay : Relay) : Option Action → Bool
  | some (.routePrepare _) =>
      match relay.task with
      | .admitted _ event _ => !relay.claims event || decide (Addressed event.blobID)
      | _ => true
  | _ => true

/-- Every record is named by its key, which is the digest of a blob. -/
structure Catalogued (store : Store) : Prop where
  named : store.BlobsNamed
  addressed : ∀ id, (store.accessOf id).isSome → Addressed id

theorem Catalogued.congr {left right : Store} (catalogued : Catalogued left)
    (same : right.blobs = left.blobs) : Catalogued right where
  named := by
    rw [Store.BlobsNamed]
    rw [same]
    exact catalogued.named
  addressed := fun id present =>
    catalogued.addressed id (Store.accessOf_congr id same ▸ present)

section Steps

variable {env : Env} {relay after : Relay}

theorem Catalogued.step {action : Action} (catalogued : Catalogued relay.daemon.store)
    (safe : relay.claimsAddressed (some action) = true)
    (stepped : relay.step env action = some after) : Catalogued after.daemon.store := by
  obtain ⟨facts, -, change⟩ := (effect_of_step stepped).ledger
  cases change with
  | keep _ _ blobs _ => exact catalogued.congr blobs
  | @route now source event settings targets task hub blobs =>
      refine Catalogued.congr ?_ blobs
      simp only [Daemon.claimBlob]
      split
      next decision =>
        have claimed : relay.claims event = true := by simpa [claims] using decision
        have digest : Addressed event.blobID := by
          simpa [claimsAddressed, task, claimed] using safe
        constructor
        · exact catalogued.named.setBlobACL _ _ _
        · intro id present
          simp only [Store.accessOf_setBlobACL] at present
          split_ifs at present with same
          · exact same ▸ digest
          · exact catalogued.addressed id present
      next => exact catalogued
  | @touch blob now size mime valid hub blobs =>
      refine Catalogued.congr ⟨catalogued.named.touchBlob _ _ _ _, fun id present => ?_⟩ blobs
      rw [Store.accessOf_touchBlob] at present
      split_ifs at present with same
      · exact same ▸ addressed_of_validID valid
      · exact catalogued.addressed id present
  | @collect blob hub blobs =>
      refine Catalogued.congr ⟨catalogued.named.deleteBlobEntry _, fun id present => ?_⟩ blobs
      rw [Store.accessOf_deleteBlobEntry] at present
      split_ifs at present
      · cases present
      · exact catalogued.addressed id present

theorem Catalogued.life {action : Option Action} (catalogued : Catalogued relay.daemon.store)
    (safe : relay.claimsAddressed action = true)
    (stepped : relay.life env action = some after) : Catalogued after.daemon.store := by
  cases action with
  | none =>
      cases stepped
      exact catalogued
  | some action => exact catalogued.step safe stepped

end Steps

/-- In every run whose accepted claims are on digests, every collector pass over the
records completes and removes only blob files of the blob directory. -/
theorem collector_contained {env : Env} {relay : Relay}
    (run : Run (Relay.life env) (fun before action => before.claimsAddressed action = true)
      (Relay.boot .empty) relay)
    {σ : Type} (fs : Filesystem σ) (root : Path) (cfg : GCConfig) (sorter : AccessSorter)
    (disk : σ) :
    ∃ final, runGC fs root cfg sorter relay.daemon.store disk = some final ∧
      final.Contained root := by
  have catalogued : Catalogued relay.daemon.store := by
    apply run.invariant
    · exact ⟨by simp [Store.BlobsNamed, Relay.boot, Daemon.boot, Store.empty],
        by simp [Store.accessOf, Relay.boot, Daemon.boot, Store.empty]⟩
    · intro before after action inv safe stepped
      exact inv.life safe stepped
  refine runGC_contained fs root cfg sorter disk fun entry membership => ?_
  obtain ⟨id, found⟩ := (OrderedMap.mem_values_iff _).mp membership
  rw [catalogued.named id entry found]
  exact catalogued.addressed id (by simp [Store.accessOf, found])

/-- A pass is a sequence of the machine's collecting steps. -/
theorem pass_reachable {env : Env} {relay : Relay} {σ : Type} {fs : Filesystem σ} {root : Path}
    {cfg : GCConfig} {sorter : AccessSorter} {disk : σ} {final : GCState σ}
    (passed : runGC fs root cfg sorter relay.daemon.store disk = some final) :
    ∃ after, Reachable (Relay.step env) relay after ∧ after.daemon.store = final.store := by
  obtain ⟨ids, deleted⟩ := runGC_store fs root cfg passed
  rw [deleted]
  clear passed deleted
  induction ids generalizing relay with
  | nil => exact ⟨relay, .refl, rfl⟩
  | cons id rest ih =>
      have collects : Relay.step env relay (.collectBlob id) = some (relay.collectBlob id) := rfl
      have first : Reachable (Relay.step env) relay (relay.collectBlob id) :=
        .tail .refl trivial collects
      obtain ⟨after, reached, store⟩ := @ih (relay.collectBlob id)
      exact ⟨after, first.trans reached, store⟩

/-! ## Concrete passes -/

/-- A disk as the list of its files, each of size one. -/
def fileList : Filesystem (List Path) where
  stat files path := if path ∈ files then some 1 else none
  remove files path := files.erase path
  usage files := files.length

/-- A stable sort by last access. -/
def accessSorter : AccessSorter where
  sort := List.insertionSort fun left right => left.lastAccess ≤ right.lastAccess
  perm := List.perm_insertionSort _
  ordered entries := by
    have total : Std.Total fun left right : BlobEntry => left.lastAccess ≤ right.lastAccess :=
      ⟨fun left right => Int.le_total left.lastAccess right.lastAccess⟩
    have transitive :
        IsTrans BlobEntry fun left right => left.lastAccess ≤ right.lastAccess :=
      ⟨fun _ _ _ => Int.le_trans⟩
    exact List.pairwise_insertionSort _ entries

def blobRoot : Path := ⟨true, [bytesOf "data", bytesOf "blobs"]⟩

/-- Every blob that was not touched in the last nanosecond has expired. -/
def strictGC : GCConfig := ⟨100, 1, 0⟩

/-- A run in which the first device shares a blob under the given id with the second,
both connected. -/
def shareRun (id : BlobID) : List (Option Action) :=
  (Action.bothUp ++ Action.sendClip 0 (.sharing "c1" id ["dev_b"]) 1).map some

/-- The id `x` is too short to slice, and `sha256:../../etc/x` leads out of the blob
directory: the first makes the pass panic, the second makes it remove a foreign
file. -/
theorem collector_misled :
    (∃ relay, Reachable (Relay.life demoEnv) (Relay.boot .empty) relay ∧
      runGC fileList blobRoot strictGC accessSorter relay.daemon.store [] = none) ∧
    ∃ relay, Reachable (Relay.life demoEnv) (Relay.boot .empty) relay ∧
      ∃ final, runGC fileList blobRoot strictGC accessSorter relay.daemon.store
        [⟨true, [bytesOf "etc", bytesOf "x"]⟩] = some final ∧ ¬final.Contained blobRoot := by
  refine ⟨?_, ?_⟩
  · obtain ⟨relay, reached, checked⟩ := Reachable.exists_of_exec
      (Relay.life demoEnv) (Relay.boot .empty) (shareRun "x")
      (fun relay =>
        (runGC fileList blobRoot strictGC accessSorter relay.daemon.store []).isNone)
      (by decide +kernel)
    exact ⟨relay, reached, Option.isNone_iff_eq_none.mp checked⟩
  · obtain ⟨relay, reached, checked⟩ := Reachable.exists_of_exec
      (Relay.life demoEnv) (Relay.boot .empty) (shareRun "sha256:../../etc/x")
      (fun relay => (runGC fileList blobRoot strictGC accessSorter relay.daemon.store
        [⟨true, [bytesOf "etc", bytesOf "x"]⟩]).any fun final =>
          final.removed.any fun path => path.components.length != 4)
      (by decide +kernel)
    obtain ⟨final, passed, strays⟩ := (Option.any_eq_true _ _).mp checked
    refine ⟨relay, reached, final, passed, ?_⟩
    intro contained
    obtain ⟨path, removed, stray⟩ := List.any_eq_true.mp strays
    obtain ⟨digest, -, rfl⟩ := contained path removed
    simp [blobRoot] at stray

/-- The digest of a shared blob. -/
def sampleDigest : String := String.ofList (List.replicate 64 'a')

/-- A well-formed id whose file has expired: the pass removes that file. -/
theorem collector_removes_expired :
    ∃ relay, Run (Relay.life demoEnv)
      (fun before action => before.claimsAddressed action = true) (Relay.boot .empty) relay ∧
      ∃ final, runGC fileList blobRoot strictGC accessSorter relay.daemon.store
        ((pathFor blobRoot sampleDigest).toList) = some final ∧
        final.deleted = 1 ∧ final.Contained blobRoot := by
  obtain ⟨relay, run, checked⟩ := Run.exists_of_execWhen
    (Relay.life demoEnv) Relay.claimsAddressed (Relay.boot .empty) (shareRun sampleDigest)
    (fun relay => (runGC fileList blobRoot strictGC accessSorter relay.daemon.store
      ((pathFor blobRoot sampleDigest).toList)).any fun final => final.deleted == 1)
    (by decide +kernel)
  obtain ⟨final, passed, deleted⟩ := (Option.any_eq_true _ _).mp checked
  obtain ⟨same, completes, contained⟩ := collector_contained run fileList blobRoot strictGC
    accessSorter ((pathFor blobRoot sampleDigest).toList)
  rw [passed, Option.some.injEq] at completes
  exact ⟨relay, run, final, passed, by simpa using deleted, completes ▸ contained⟩

end CopySync.Server.Relay
