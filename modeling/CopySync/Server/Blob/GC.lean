import CopySync.Server.Blob.Path
import CopySync.Server.Store.Blobs

/-!
# Blob garbage collection

`RunGC` reads the pin set and the metadata once, expires idle unpinned blobs, and
evicts the least recently used ones while the store is over its cap.  A pass that
meets an id too short to slice panics, which is the result `none`.
-/

namespace CopySync.Server

open Foundation

/-- The file operations the collector uses, over any representation of the disk:
size of a file, removal, and total usage of the blob directory. -/
structure Filesystem (σ : Type) where
  stat : σ → Path → Option Int
  remove : σ → Path → σ
  usage : σ → Int

/-- `sort.Slice` by last access: some ordered permutation. -/
structure AccessSorter where
  sort : List BlobEntry → List BlobEntry
  perm : ∀ entries, (sort entries).Perm entries
  ordered : ∀ entries, (sort entries).Pairwise fun left right => left.lastAccess ≤ right.lastAccess

structure GCConfig where
  now : Time
  blobTTL : Duration
  storeCap : Int

/-- Progress of a pass; `removed` lists the paths handed to `os.Remove`. -/
structure GCState (σ : Type) where
  store : Store
  disk : σ
  removed : List Path
  deleted : Nat

section Pass

variable {σ : Type} (fs : Filesystem σ) (root : Path) (cfg : GCConfig)

/-- Remove a blob's file and its record. -/
def GCState.drop (state : GCState σ) (id : BlobID) (path : Path) : GCState σ where
  store := state.store.deleteBlobEntry id
  disk := fs.remove state.disk path
  removed := state.removed ++ [path]
  deleted := state.deleted + 1

/-- Pass 1: expire idle blobs and drop records whose file vanished; returns the
surviving entries. -/
def expireBlobs (pinned : List BlobID) :
    List BlobEntry → GCState σ → Option (GCState σ × List BlobEntry)
  | [], state => some (state, [])
  | entry :: rest, state =>
      if entry.id ∈ pinned then do
        let (final, survivors) ← expireBlobs pinned rest state
        some (final, entry :: survivors)
      else do
        let path ← pathFor root entry.id
        if (fs.stat state.disk path).isNone then
          expireBlobs pinned rest { state with store := state.store.deleteBlobEntry entry.id }
        else if 0 < cfg.blobTTL ∧ cfg.blobTTL < cfg.now.sub entry.lastAccess then
          expireBlobs pinned rest (state.drop fs entry.id path)
        else do
          let (final, survivors) ← expireBlobs pinned rest state
          some (final, entry :: survivors)

/-- Pass 2: evict until usage is within the cap. -/
def evictBlobs : List BlobEntry → Int → GCState σ → Option (GCState σ)
  | [], _, state => some state
  | entry :: rest, usage, state =>
      if usage ≤ cfg.storeCap then some state
      else do
        let path ← pathFor root entry.id
        let size := if entry.size = 0 then (fs.stat state.disk path).getD 0 else entry.size
        evictBlobs rest (usage - size) (state.drop fs entry.id path)

def runGC (sorter : AccessSorter) (store : Store) (disk : σ) : Option (GCState σ) := do
  let pinned := store.allQueuedBlobIDs
  let (state, survivors) ←
    expireBlobs fs root cfg pinned store.listBlobEntries ⟨store, disk, [], 0⟩
  let usage := fs.usage state.disk
  if 0 < cfg.storeCap ∧ cfg.storeCap < usage then
    let evictable := survivors.filter fun entry => entry.id ∉ pinned
    evictBlobs fs root cfg (sorter.sort evictable) usage state
  else some state

end Pass

section Containment

variable {σ : Type} (fs : Filesystem σ) (root : Path) (cfg : GCConfig)

/-- Every path removed so far is a blob file. -/
def GCState.Contained (state : GCState σ) : Prop :=
  ∀ path ∈ state.removed, IsBlobFile root path

variable {root} in
theorem GCState.Contained.drop {state : GCState σ} (contained : state.Contained root)
    (id : BlobID) {path : Path} (isBlob : IsBlobFile root path) :
    (state.drop fs id path).Contained root := by
  intro removed membership
  rcases List.mem_append.mp membership with old | new
  · exact contained removed old
  · exact List.mem_singleton.mp new ▸ isBlob

/-- Over addressed entries the first pass completes, removes only blob files, and
its survivors are among the entries. -/
theorem expireBlobs_contained (pinned : List BlobID) {entries : List BlobEntry}
    (addressed : ∀ entry ∈ entries, Addressed entry.id) (state : GCState σ)
    (contained : state.Contained root) :
    ∃ final survivors, expireBlobs fs root cfg pinned entries state = some (final, survivors) ∧
      final.Contained root ∧ ∀ entry ∈ survivors, entry ∈ entries := by
  induction entries generalizing state with
  | nil => exact ⟨state, [], rfl, contained, by simp⟩
  | cons entry rest ih =>
      obtain ⟨head, others⟩ := List.forall_mem_cons.mp addressed
      obtain ⟨path, found, isBlob⟩ := pathFor_of_addressed root head
      have widen : ∀ {survivors : List BlobEntry}, (∀ survivor ∈ survivors, survivor ∈ rest) →
          ∀ survivor ∈ survivors, survivor ∈ entry :: rest := fun among survivor membership =>
        List.mem_cons_of_mem _ (among survivor membership)
      -- Whether pinned or still fresh, the entry survives and the rest decides.
      have kept : ∃ final survivors, (do
            let (final, survivors) ← expireBlobs fs root cfg pinned rest state
            some (final, entry :: survivors)) = some (final, survivors) ∧
          final.Contained root ∧ ∀ survivor ∈ survivors, survivor ∈ entry :: rest := by
        obtain ⟨final, survivors, passed, fine, among⟩ := ih others state contained
        exact ⟨final, entry :: survivors, by simp [passed], fine,
          List.forall_mem_cons.mpr ⟨List.mem_cons_self, widen among⟩⟩
      rw [expireBlobs, found]
      simp only [Option.bind_eq_bind, Option.bind_some] at kept ⊢
      split_ifs
      · exact kept
      · obtain ⟨final, survivors, passed, fine, among⟩ :=
          ih others { state with store := state.store.deleteBlobEntry entry.id } contained
        exact ⟨final, survivors, passed, fine, widen among⟩
      · obtain ⟨final, survivors, passed, fine, among⟩ :=
          ih others _ (contained.drop fs entry.id isBlob)
        exact ⟨final, survivors, passed, fine, widen among⟩
      · exact kept

/-- The second pass likewise. -/
theorem evictBlobs_contained {entries : List BlobEntry}
    (addressed : ∀ entry ∈ entries, Addressed entry.id) (usage : Int) (state : GCState σ)
    (contained : state.Contained root) :
    ∃ final, evictBlobs fs root cfg entries usage state = some final ∧
      final.Contained root := by
  induction entries generalizing usage state with
  | nil => exact ⟨state, rfl, contained⟩
  | cons entry rest ih =>
      obtain ⟨head, others⟩ := List.forall_mem_cons.mp addressed
      obtain ⟨path, found, isBlob⟩ := pathFor_of_addressed root head
      rw [evictBlobs, found]
      simp only [Option.bind_eq_bind, Option.bind_some]
      split_ifs
      · exact ⟨state, rfl, contained⟩
      all_goals exact ih others _ _ (contained.drop fs entry.id isBlob)

/-- A pass over addressed metadata completes and removes only blob files. -/
theorem runGC_contained (sorter : AccessSorter) {store : Store} (disk : σ)
    (addressed : ∀ entry ∈ store.listBlobEntries, Addressed entry.id) :
    ∃ final, runGC fs root cfg sorter store disk = some final ∧ final.Contained root := by
  obtain ⟨state, survivors, passed, contained, among⟩ :=
    expireBlobs_contained fs root cfg store.allQueuedBlobIDs addressed ⟨store, disk, [], 0⟩
      (by simp [GCState.Contained])
  simp only [runGC, passed, Option.bind_eq_bind, Option.bind_some]
  split_ifs
  · refine evictBlobs_contained fs root cfg (fun entry membership => ?_) _ _ contained
    have evictable := (sorter.perm _).subset membership
    exact addressed entry (among entry (List.mem_filter.mp evictable).1)
  · exact ⟨state, rfl, contained⟩

end Containment

/-! ## What a pass does to the metadata -/

section Metadata

variable {σ : Type} (fs : Filesystem σ) (root : Path) (cfg : GCConfig)

/-- Delete records one after the other. -/
def deleteBlobEntries (store : Store) (ids : List BlobID) : Store :=
  ids.foldl Store.deleteBlobEntry store

theorem expireBlobs_store (pinned : List BlobID) {entries survivors : List BlobEntry}
    {state final : GCState σ}
    (passed : expireBlobs fs root cfg pinned entries state = some (final, survivors)) :
    ∃ ids, final.store = deleteBlobEntries state.store ids := by
  induction entries generalizing state survivors with
  | nil =>
      cases passed
      exact ⟨[], rfl⟩
  | cons entry rest ih =>
      -- A kept entry leaves the state to the rest of the list.
      have kept : (expireBlobs fs root cfg pinned rest state).bind
          (fun result => some (result.1, entry :: result.2)) = some (final, survivors) →
          ∃ ids, final.store = deleteBlobEntries state.store ids := by
        intro continued
        obtain ⟨⟨ended, others⟩, remaining, result⟩ := Option.bind_eq_some_iff.mp continued
        cases result
        exact ih remaining
      rw [expireBlobs] at passed
      split at passed
      next => exact kept passed
      next =>
        obtain ⟨path, -, passed⟩ := Option.bind_eq_some_iff.mp passed
        split at passed
        next =>
          obtain ⟨ids, deleted⟩ := ih passed
          exact ⟨entry.id :: ids, deleted⟩
        next =>
          split at passed
          next =>
            obtain ⟨ids, deleted⟩ := ih passed
            exact ⟨entry.id :: ids, deleted⟩
          next => exact kept passed

theorem evictBlobs_store {entries : List BlobEntry} {usage : Int} {state final : GCState σ}
    (passed : evictBlobs fs root cfg entries usage state = some final) :
    ∃ ids, final.store = deleteBlobEntries state.store ids := by
  induction entries generalizing usage state with
  | nil =>
      cases passed
      exact ⟨[], rfl⟩
  | cons entry rest ih =>
      rw [evictBlobs] at passed
      split at passed
      next =>
        cases passed
        exact ⟨[], rfl⟩
      next =>
        obtain ⟨path, -, passed⟩ := Option.bind_eq_some_iff.mp passed
        obtain ⟨ids, deleted⟩ := ih passed
        exact ⟨entry.id :: ids, deleted⟩

/-- A pass changes the store only by deleting records. -/
theorem runGC_store {sorter : AccessSorter} {store : Store} {disk : σ} {final : GCState σ}
    (passed : runGC fs root cfg sorter store disk = some final) :
    ∃ ids, final.store = deleteBlobEntries store ids := by
  obtain ⟨⟨state, survivors⟩, expired, passed⟩ := Option.bind_eq_some_iff.mp passed
  obtain ⟨first, deleted⟩ := expireBlobs_store fs root cfg _ expired
  simp only at passed
  split_ifs at passed
  · obtain ⟨second, evicted⟩ := evictBlobs_store fs root cfg passed
    refine ⟨first ++ second, ?_⟩
    rw [evicted, deleted, deleteBlobEntries, deleteBlobEntries, deleteBlobEntries,
      List.foldl_append]
  · cases passed
    exact ⟨first, deleted⟩

end Metadata

end CopySync.Server
