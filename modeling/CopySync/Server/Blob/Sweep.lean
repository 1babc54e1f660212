import CopySync.Server.Blob.Disk
import CopySync.Server.Relay.Pins

/-!
# What a collector pass removes

A pass that runs alone, over valid records whose sizes are right and a disk on which no
operation fails, is described by what goes: unpinned records whose file vanished, idle
unpinned blobs, and a prefix of the remaining unpinned blobs, least recently used first,
that is as short as the cap allows.
-/

namespace CopySync.Server

open Foundation

/-- Metadata and files as the store keeps them: records under their ids, which are content
addresses, a record for every file, and a size that is unset or right. -/
structure Stocked (root : Path) (store : Store) (files : Files Path) : Prop where
  named : store.BlobsNamed
  valid : ∀ entry ∈ store.listBlobEntries, validID entry.id = true
  listed : ∀ path ∈ files, countsIn root path = true →
    ∃ entry ∈ store.listBlobEntries, pathFor root entry.id = some path
  sized : ∀ entry ∈ store.listBlobEntries, ∀ path size, pathFor root entry.id = some path →
    files.stat path = some size → entry.size = 0 ∨ entry.size = size

section Rules

variable (root : Path) (cfg : GCConfig) (pinned : List BlobID) (files : Files Path)
variable (entry : BlobEntry)

/-- A record whose file is not there. -/
def vanished : Bool := (files.stat (blobFile root entry.id)).isNone

/-- Blobs the first pass removes. -/
def stale : Bool :=
  decide (entry.id ∉ pinned) && !vanished root files entry && cfg.expires entry

/-- Records the first pass removes. -/
def outdated : Bool :=
  decide (entry.id ∉ pinned) && (vanished root files entry || cfg.expires entry)

end Rules

/-- Remove blobs one after the other. -/
def GCState.dropAll (root : Path) (state : GCState (Files Path)) (entries : List BlobEntry) :
    GCState (Files Path) :=
  entries.foldl (fun current entry => current.drop (diskFiles root) entry.id
    (blobFile root entry.id)) state

section Drop

variable (root : Path) (state : GCState (Files Path)) (entries : List BlobEntry)

theorem GCState.dropAll_store : (state.dropAll root entries).store =
    deleteBlobEntries state.store (entries.map (·.id)) := by
  induction entries generalizing state with
  | nil => rfl
  | cons entry rest ih => exact ih _

theorem GCState.dropAll_disk : (state.dropAll root entries).disk =
    state.disk.removeAll (entries.map fun entry => blobFile root entry.id) := by
  induction entries generalizing state with
  | nil => rfl
  | cons entry rest ih => exact ih _

theorem GCState.dropAll_deleted :
    (state.dropAll root entries).deleted = state.deleted + entries.length := by
  induction entries generalizing state with
  | nil => rfl
  | cons entry rest ih =>
      rw [List.length_cons, Nat.add_comm rest.length, ← Nat.add_assoc]
      exact ih _

end Drop

/-! ## The first pass -/

section Expire

variable {root : Path} {cfg : GCConfig} {pinned : List BlobID}

/-- Removing one blob makes no record of another one outdated or fresh. -/
theorem rules_erase {files : Files Path} {gone : BlobEntry} {entries : List BlobEntry}
    (goneValid : validID gone.id = true) (valid : ∀ entry ∈ entries, validID entry.id = true)
    (fresh : gone.id ∉ entries.map (·.id)) :
    entries.filter (stale root cfg pinned (files.erase (blobFile root gone.id))) =
        entries.filter (stale root cfg pinned files) ∧
      entries.filter (outdated root cfg pinned (files.erase (blobFile root gone.id))) =
        entries.filter (outdated root cfg pinned files) ∧
      (entries.filter fun entry =>
          !outdated root cfg pinned (files.erase (blobFile root gone.id)) entry) =
        entries.filter fun entry => !outdated root cfg pinned files entry := by
  have same : ∀ entry ∈ entries,
      vanished root (files.erase (blobFile root gone.id)) entry = vanished root files entry := by
    intro entry listed
    rw [vanished, Files.stat_erase_of_ne]
    · rfl
    · intro shared
      have named := blobFile_injective root (valid entry listed) goneValid shared
      exact fresh (named ▸ List.mem_map_of_mem listed)
  refine ⟨?_, ?_, ?_⟩
  all_goals
    apply List.filter_congr
    intro entry listed
    simp only [stale, outdated, same entry listed]

/-- The state after the first pass over some entries. -/
def GCState.expired (root : Path) (cfg : GCConfig) (pinned : List BlobID)
    (state : GCState (Files Path)) (entries : List BlobEntry) (removed : List Path) :
    GCState (Files Path) where
  store := deleteBlobEntries state.store
    ((entries.filter (outdated root cfg pinned state.disk)).map (·.id))
  disk := state.disk.removeAll ((entries.filter (stale root cfg pinned state.disk)).map
    fun entry => blobFile root entry.id)
  removed
  deleted := state.deleted + (entries.filter (stale root cfg pinned state.disk)).length

/-- The first pass removes the outdated records with the stale blobs, and keeps the rest. -/
theorem expireBlobs_sweeps {entries : List BlobEntry} (state : GCState (Files Path))
    (valid : ∀ entry ∈ entries, validID entry.id = true)
    (distinct : (entries.map (·.id)).Nodup) :
    ∃ removed, expireBlobs (diskFiles root) root cfg pinned entries state =
      some (state.expired root cfg pinned entries removed,
        entries.filter fun entry => !outdated root cfg pinned state.disk entry) := by
  induction entries generalizing state with
  | nil => exact ⟨state.removed, rfl⟩
  | cons entry rest ih =>
      obtain ⟨headValid, restValid⟩ := List.forall_mem_cons.mp valid
      obtain ⟨fresh, distinct⟩ := List.nodup_cons.mp distinct
      have found := pathFor_eq root (addressed_of_validID headValid)
      have kept : stale root cfg pinned state.disk entry = false →
          outdated root cfg pinned state.disk entry = false → ∃ removed,
          (expireBlobs (diskFiles root) root cfg pinned rest state).bind
            (fun result => some (result.1, entry :: result.2)) =
          some (state.expired root cfg pinned (entry :: rest) removed,
            (entry :: rest).filter fun entry => !outdated root cfg pinned state.disk entry) := by
        intro notStale notOutdated
        obtain ⟨removed, passed⟩ := ih state restValid distinct
        refine ⟨removed, ?_⟩
        rw [passed]
        simp [GCState.expired, notStale, notOutdated]
      rw [expireBlobs]
      by_cases isPinned : entry.id ∈ pinned
      · rw [if_pos isPinned]
        exact kept (by simp [stale, isPinned]) (by simp [outdated, isPinned])
      · rw [if_neg isPinned, found]
        simp only [Option.bind_eq_bind, Option.bind_some]
        split_ifs with gone idle
        · obtain ⟨removed, passed⟩ :=
            ih { state with store := state.store.deleteBlobEntry entry.id } restValid distinct
          have absent : vanished root state.disk entry = true := gone
          refine ⟨removed, ?_⟩
          rw [passed]
          simp [GCState.expired, outdated, stale, isPinned, absent, deleteBlobEntries]
        · obtain ⟨removed, passed⟩ :=
            ih (state.drop (diskFiles root) entry.id (blobFile root entry.id)) restValid distinct
          have present : vanished root state.disk entry = false := Bool.eq_false_of_not_eq_true gone
          have expires : cfg.expires entry = true := decide_eq_true idle
          have disk : (state.drop (diskFiles root) entry.id (blobFile root entry.id)).disk =
              state.disk.erase (blobFile root entry.id) := rfl
          obtain ⟨sameStale, sameOutdated, sameKept⟩ :=
            @rules_erase root cfg pinned state.disk entry rest headValid restValid fresh
          refine ⟨removed, ?_⟩
          rw [passed]
          simp only [GCState.expired, disk, sameStale, sameOutdated, sameKept]
          simp [outdated, stale, isPinned, present, expires, GCState.drop, deleteBlobEntries,
            Nat.add_assoc, Nat.add_comm]
        · have present : vanished root state.disk entry = false := Bool.eq_false_of_not_eq_true gone
          have lives : cfg.expires entry = false := decide_eq_false idle
          exact kept (by simp [stale, lives]) (by simp [outdated, present, lives])

end Expire

/-! ## The second pass -/

section Evict

variable {root : Path} {cfg : GCConfig}

/-- An entry as the second pass meets it: its file is there and its size is unset or right. -/
def Measured (root : Path) (files : Files Path) (entry : BlobEntry) : Prop :=
  ∃ bytes, files.lookup (blobFile root entry.id) = some bytes ∧
    (entry.size = 0 ∨ entry.size = bytes.length)

/-- The second pass removes a prefix of the entries, as short as the cap allows. -/
theorem evictBlobs_sweeps {entries : List BlobEntry} (state : GCState (Files Path))
    (valid : ∀ entry ∈ entries, validID entry.id = true)
    (distinct : (entries.map (·.id)).Nodup)
    (measured : ∀ entry ∈ entries, Measured root state.disk entry) :
    ∃ gone kept, entries = gone ++ kept ∧
      evictBlobs (diskFiles root) root cfg entries (state.disk.usage (countsIn root)) state =
        some (state.dropAll root gone) ∧
      (∀ before entry after, gone = before ++ entry :: after →
        cfg.storeCap < (state.dropAll root before).disk.usage (countsIn root)) ∧
      ((state.dropAll root gone).disk.usage (countsIn root) ≤ cfg.storeCap ∨ kept = []) := by
  induction entries generalizing state with
  | nil => exact ⟨[], [], rfl, rfl, by simp, .inr rfl⟩
  | cons entry rest ih =>
      obtain ⟨headValid, restValid⟩ := List.forall_mem_cons.mp valid
      obtain ⟨fresh, distinct⟩ := List.nodup_cons.mp distinct
      obtain ⟨⟨bytes, present, size⟩, others⟩ := List.forall_mem_cons.mp measured
      by_cases under : state.disk.usage (countsIn root) ≤ cfg.storeCap
      · refine ⟨[], entry :: rest, rfl, ?_, by simp, .inl under⟩
        rw [evictBlobs, if_pos under]
        rfl
      · let next := state.drop (diskFiles root) entry.id (blobFile root entry.id)
        have weighed : (if entry.size = 0 then
            ((diskFiles root).stat state.disk (blobFile root entry.id)).getD 0 else entry.size) =
            bytes.length := by
          have stat : (diskFiles root).stat state.disk (blobFile root entry.id) =
              some (bytes.length : Int) := by simp [diskFiles, Files.stat, present]
          rcases size with unset | right
          · simp [unset, stat]
          · split_ifs
            · simp [stat]
            · exact right
        have usage : next.disk.usage (countsIn root) =
            state.disk.usage (countsIn root) - bytes.length :=
          Files.usage_erase present (countsIn_blobFile root headValid)
        have later : ∀ other ∈ rest, Measured root next.disk other := by
          intro other listed
          obtain ⟨content, found, size⟩ := others other listed
          refine ⟨content, ?_, size⟩
          refine (AList.lookup_erase_ne ?_).trans found
          intro shared
          have named := blobFile_injective root (restValid other listed) headValid shared
          exact fresh (List.mem_map.mpr ⟨other, listed, named⟩)
        obtain ⟨gone, kept, split, passed, needed, ended⟩ := ih next restValid distinct later
        refine ⟨entry :: gone, kept, by rw [split, List.cons_append], ?_, ?_, ended⟩
        · rw [evictBlobs, if_neg under, pathFor_eq root (addressed_of_validID headValid)]
          simp only [Option.bind_eq_bind, Option.bind_some]
          rw [weighed, ← usage]
          exact passed
        · intro before other after decomposed
          cases before with
          | nil => exact not_le.mp under
          | cons first before =>
              obtain ⟨rfl, tail⟩ := List.cons.inj decomposed
              exact needed before other after tail

end Evict

/-! ## The whole pass -/

/-- Whether a blob was not accessed for longer than the time to live. -/
def GCConfig.idle (cfg : GCConfig) (entry : BlobEntry) : Bool :=
  decide (0 < cfg.blobTTL ∧ cfg.blobTTL < cfg.now - entry.lastAccess)

/-- The collector compares a duration, and nothing is longer than the longest one. -/
theorem GCConfig.expires_eq (cfg : GCConfig) (entry : BlobEntry) :
    cfg.expires entry = (decide (cfg.blobTTL < maxDuration) && cfg.idle entry) := by
  rw [Bool.eq_iff_iff, Bool.and_eq_true, GCConfig.expires, GCConfig.idle, decide_eq_true_eq,
    decide_eq_true_eq, decide_eq_true_eq, Time.sub, lt_max_iff, lt_min_iff]
  constructor
  · rintro ⟨positive, negative | ⟨short, idle⟩⟩
    · exact absurd (positive.trans negative) (by decide)
    · exact ⟨short, positive, idle⟩
  · rintro ⟨short, positive, idle⟩
    exact ⟨positive, .inr ⟨short, idle⟩⟩

section Outcome

variable (root : Path) (cfg : GCConfig) (store : Store) (files : Files Path)
variable (expired : BlobEntry → Bool) (evicted : List BlobEntry)

/-- Records that go: unpinned ones without a file, expired ones, and evicted ones. -/
def Goes (entry : BlobEntry) : Prop :=
  entry.id ∉ store.allQueuedBlobIDs ∧
    (vanished root files entry = true ∨ expired entry = true ∨ entry ∈ evicted)

/-- Blobs that are gone after the first pass: unpinned, on disk and expired. -/
def expiredBlobs : List BlobEntry :=
  store.listBlobEntries.filter fun entry =>
    decide (entry.id ∉ store.allQueuedBlobIDs) && !vanished root files entry && expired entry

/-- The outcome of a pass in which `expired` blobs were removed first and `evicted` ones
after them. -/
structure Collected (final : GCState (Files Path)) : Prop where
  pinned : ∀ id ∈ store.allQueuedBlobIDs, validID id = true →
    final.store.getBlobEntry id = store.getBlobEntry id ∧
      ∀ path, pathFor root id = some path → final.disk.lookup path = files.lookup path
  records : ∀ id entry, final.store.getBlobEntry id = some entry ↔
    store.getBlobEntry id = some entry ∧ ¬Goes root store files expired evicted entry
  contents : ∀ path bytes, final.disk.lookup path = some bytes ↔ files.lookup path = some bytes ∧
    ∀ entry ∈ store.listBlobEntries, pathFor root entry.id = some path →
      ¬Goes root store files expired evicted entry
  survived : ∀ entry ∈ evicted, entry ∈ store.listBlobEntries ∧
    entry.id ∉ store.allQueuedBlobIDs ∧ vanished root files entry = false ∧ expired entry = false
  oldest : ∀ gone ∈ evicted, ∀ kept ∈ store.listBlobEntries,
    kept.id ∉ store.allQueuedBlobIDs → ¬Goes root store files expired evicted kept →
      gone.lastAccess ≤ kept.lastAccess
  needed : ∀ before entry after, evicted = before ++ entry :: after → 0 < cfg.storeCap ∧
    cfg.storeCap < (files.removeAll ((expiredBlobs root store files expired ++ before).map
      fun entry => blobFile root entry.id)).usage (countsIn root)
  capped : 0 < cfg.storeCap → final.disk.usage (countsIn root) ≤ cfg.storeCap ∨
    (∀ id entry, final.store.getBlobEntry id = some entry → id ∈ store.allQueuedBlobIDs) ∧
      ∀ path ∈ final.disk, countsIn root path = true →
        ∃ id ∈ store.allQueuedBlobIDs, pathFor root id = some path
  counted : final.deleted + final.disk.entries.length = files.entries.length

end Outcome

section Pass

variable {root : Path} {cfg : GCConfig} {store : Store} {files : Files Path}

theorem getBlobEntry_deleteBlobEntries (store : Store) (ids : List BlobID) (id : BlobID) :
    (deleteBlobEntries store ids).getBlobEntry id =
      if id ∈ ids then none else store.getBlobEntry id := by
  induction ids generalizing store with
  | nil => rfl
  | cons first rest ih =>
      have head : (deleteBlobEntries store (first :: rest)).getBlobEntry id =
          (deleteBlobEntries (store.deleteBlobEntry first) rest).getBlobEntry id := rfl
      rw [head, ih]
      by_cases same : id = first
      · simp [same, Store.getBlobEntry, Store.deleteBlobEntry]
      · simp [same, Store.getBlobEntry, Store.deleteBlobEntry]

theorem deleteBlobEntries_append (store : Store) (first second : List BlobID) :
    deleteBlobEntries store (first ++ second) =
      deleteBlobEntries (deleteBlobEntries store first) second := List.foldl_append

theorem Stocked.mem_list (stocked : Stocked root store files) {entry : BlobEntry} :
    entry ∈ store.listBlobEntries ↔ store.getBlobEntry entry.id = some entry := by
  constructor
  · intro listed
    obtain ⟨id, found⟩ := (OrderedMap.mem_values_iff _).mp listed
    rw [stocked.named id entry found]
    exact found
  · intro found
    exact (OrderedMap.mem_values_iff _).mpr ⟨entry.id, found⟩

/-- No two records share a file. -/
theorem Stocked.eq_of_file (stocked : Stocked root store files) {left right : BlobEntry}
    (leftListed : left ∈ store.listBlobEntries) (rightListed : right ∈ store.listBlobEntries)
    (shared : blobFile root left.id = blobFile root right.id) : left = right := by
  have named := blobFile_injective root (stocked.valid left leftListed)
    (stocked.valid right rightListed) shared
  have found := stocked.mem_list.mp leftListed
  rw [named] at found
  exact Option.some.inj (found.symm.trans (stocked.mem_list.mp rightListed))

/-- A record that outlives the first pass has a file the second pass can weigh. -/
theorem Stocked.measured (stocked : Stocked root store files) {entry : BlobEntry}
    (listed : entry ∈ store.listBlobEntries) (unpinned : entry.id ∉ store.allQueuedBlobIDs)
    (current : outdated root cfg store.allQueuedBlobIDs files entry = false) :
    Measured root (files.removeAll ((store.listBlobEntries.filter
      (stale root cfg store.allQueuedBlobIDs files)).map fun entry => blobFile root entry.id))
      entry := by
  simp only [outdated, unpinned, not_false_eq_true, decide_true, Bool.true_and,
    Bool.or_eq_false_iff] at current
  obtain ⟨here, lives⟩ := current
  have valid := stocked.valid entry listed
  obtain ⟨bytes, found⟩ : ∃ bytes, files.lookup (blobFile root entry.id) = some bytes := by
    refine Option.ne_none_iff_exists'.mp fun absent => ?_
    rw [vanished, Files.stat_eq_none.mpr absent] at here
    cases here
  refine ⟨bytes, ?_, stocked.sized entry listed _ _ (pathFor_eq root (addressed_of_validID valid))
    (by rw [Files.stat, found]; rfl)⟩
  rw [Files.lookup_removeAll, if_neg, found]
  intro removed
  obtain ⟨other, removed, shared⟩ := List.mem_map.mp removed
  obtain ⟨otherListed, rule⟩ := List.mem_filter.mp removed
  cases stocked.eq_of_file otherListed listed shared
  simp [stale, lives] at rule

theorem Stocked.distinct (stocked : Stocked root store files) :
    (store.listBlobEntries.map (·.id)).Nodup :=
  OrderedMap.nodup_map_values _ stocked.named

/-- A pass as a list of removals: the outdated records with the stale blobs, then unpinned
survivors. -/
structure Swept (root : Path) (cfg : GCConfig) (store : Store) (files : Files Path)
    (evicted : List BlobEntry) (final : GCState (Files Path)) : Prop where
  forgotten : final.store = deleteBlobEntries store
    ((store.listBlobEntries.filter (outdated root cfg store.allQueuedBlobIDs files) ++
      evicted).map (·.id))
  removed : final.disk = files.removeAll
    ((store.listBlobEntries.filter (stale root cfg store.allQueuedBlobIDs files) ++
      evicted).map fun entry => blobFile root entry.id)
  deleted : final.deleted =
    (store.listBlobEntries.filter (stale root cfg store.allQueuedBlobIDs files) ++ evicted).length
  survived : ∀ entry ∈ evicted, entry ∈ store.listBlobEntries ∧
    entry.id ∉ store.allQueuedBlobIDs ∧
      outdated root cfg store.allQueuedBlobIDs files entry = false
  distinct : evicted.Nodup

namespace Swept

variable {evicted : List BlobEntry} {final : GCState (Files Path)}

/-- Among the records, those that go are the ones the pass removes. -/
theorem goes_iff (swept : Swept root cfg store files evicted final) {entry : BlobEntry}
    (listed : entry ∈ store.listBlobEntries) :
    Goes root store files cfg.expires evicted entry ↔
      entry ∈ store.listBlobEntries.filter (outdated root cfg store.allQueuedBlobIDs files) ++
        evicted := by
  rw [List.mem_append, List.mem_filter, Goes, outdated]
  simp only [listed, true_and, Bool.and_eq_true, Bool.or_eq_true, decide_eq_true_eq]
  constructor
  · rintro ⟨unpinned, gone | expired | evicted⟩
    · exact .inl ⟨unpinned, .inl gone⟩
    · exact .inl ⟨unpinned, .inr expired⟩
    · exact .inr evicted
  · rintro (⟨unpinned, gone | expired⟩ | evicted)
    · exact ⟨unpinned, .inl gone⟩
    · exact ⟨unpinned, .inr (.inl expired)⟩
    · exact ⟨(swept.survived entry evicted).2.1, .inr (.inr evicted)⟩

theorem listed (swept : Swept root cfg store files evicted final) {entry : BlobEntry}
    (removed : entry ∈
      store.listBlobEntries.filter (outdated root cfg store.allQueuedBlobIDs files) ++ evicted) :
    entry ∈ store.listBlobEntries := by
  rcases List.mem_append.mp removed with outdated | evicted
  · exact List.mem_of_mem_filter outdated
  · exact (swept.survived entry evicted).1

theorem records (swept : Swept root cfg store files evicted final)
    (stocked : Stocked root store files) (id : BlobID) (entry : BlobEntry) :
    final.store.getBlobEntry id = some entry ↔
      store.getBlobEntry id = some entry ∧ ¬Goes root store files cfg.expires evicted entry := by
  rw [swept.forgotten, getBlobEntry_deleteBlobEntries]
  split_ifs with removed
  · refine iff_of_false not_false ?_
    rintro ⟨found, stays⟩
    obtain ⟨other, goes, rfl⟩ := List.mem_map.mp removed
    have present := stocked.mem_list.mp (swept.listed goes)
    cases found.symm.trans present
    exact stays ((swept.goes_iff (swept.listed goes)).mpr goes)
  · refine ⟨fun found => ⟨found, ?_⟩, And.left⟩
    intro goes
    have named : entry.id = id := stocked.named id entry found
    have listed := stocked.mem_list.mpr (named ▸ found)
    refine removed (named ▸ List.mem_map_of_mem ?_)
    exact (swept.goes_iff listed).mp goes

/-- A stale blob is an outdated record with a file. -/
theorem mem_stale {entry : BlobEntry} :
    entry ∈ store.listBlobEntries.filter (stale root cfg store.allQueuedBlobIDs files) ↔
      entry ∈ store.listBlobEntries.filter (outdated root cfg store.allQueuedBlobIDs files) ∧
        vanished root files entry = false := by
  rw [List.mem_filter, List.mem_filter, stale, outdated]
  cases vanished root files entry <;> simp

theorem contents (swept : Swept root cfg store files evicted final)
    (stocked : Stocked root store files) (path : Path) (bytes : List UInt8) :
    final.disk.lookup path = some bytes ↔ files.lookup path = some bytes ∧
      ∀ entry ∈ store.listBlobEntries, pathFor root entry.id = some path →
        ¬Goes root store files cfg.expires evicted entry := by
  rw [swept.removed, Files.lookup_removeAll]
  split_ifs with removed
  · refine iff_of_false not_false ?_
    rintro ⟨-, stays⟩
    obtain ⟨entry, goes, rfl⟩ := List.mem_map.mp removed
    have goes : entry ∈ store.listBlobEntries.filter
        (outdated root cfg store.allQueuedBlobIDs files) ++ evicted := by
      rcases List.mem_append.mp goes with stale | evicted
      · exact List.mem_append_left _ (mem_stale.mp stale).1
      · exact List.mem_append_right _ evicted
    have listed := swept.listed goes
    exact stays entry listed (pathFor_eq root (addressed_of_validID (stocked.valid entry listed)))
      ((swept.goes_iff listed).mpr goes)
  · refine ⟨fun found => ⟨found, ?_⟩, And.left⟩
    intro entry listed path_eq goes
    cases (pathFor_eq root (addressed_of_validID (stocked.valid entry listed))).symm.trans path_eq
    refine removed (List.mem_map_of_mem (f := fun entry : BlobEntry => blobFile root entry.id) ?_)
    rcases List.mem_append.mp ((swept.goes_iff listed).mp goes) with outdated | evicted
    · refine List.mem_append_left _ (mem_stale.mpr ⟨outdated, ?_⟩)
      simp [vanished, Files.stat, found]
    · exact List.mem_append_right _ evicted

theorem pinned (swept : Swept root cfg store files evicted final)
    (stocked : Stocked root store files) {id : BlobID} (pinned : id ∈ store.allQueuedBlobIDs)
    (valid : validID id = true) :
    final.store.getBlobEntry id = store.getBlobEntry id ∧
      ∀ path, pathFor root id = some path → final.disk.lookup path = files.lookup path := by
  constructor
  · apply Option.ext
    intro entry
    rw [swept.records stocked]
    refine and_iff_left_of_imp ?_
    rintro found ⟨unpinned, -⟩
    exact unpinned (stocked.named id entry found ▸ pinned)
  · intro path path_eq
    apply Option.ext
    intro bytes
    rw [swept.contents stocked]
    refine and_iff_left_of_imp ?_
    rintro - entry listed shared ⟨unpinned, -⟩
    have entryValid := stocked.valid entry listed
    rw [pathFor_eq root (addressed_of_validID valid), Option.some.injEq] at path_eq
    rw [pathFor_eq root (addressed_of_validID entryValid), Option.some.injEq] at shared
    cases blobFile_injective root entryValid valid (shared.trans path_eq.symm)
    exact unpinned pinned

/-- The removed files are there, one for each removed blob. -/
theorem present (swept : Swept root cfg store files evicted final) :
    ∀ entry ∈ store.listBlobEntries.filter (stale root cfg store.allQueuedBlobIDs files) ++ evicted,
      entry ∈ store.listBlobEntries ∧ vanished root files entry = false := by
  intro entry removed
  rcases List.mem_append.mp removed with stale | evicted
  · obtain ⟨outdated, here⟩ := mem_stale.mp stale
    exact ⟨List.mem_of_mem_filter outdated, here⟩
  · obtain ⟨listed, unpinned, current⟩ := swept.survived entry evicted
    refine ⟨listed, ?_⟩
    simp only [outdated, unpinned, not_false_eq_true, decide_true, Bool.true_and,
      Bool.or_eq_false_iff] at current
    exact current.1

/-- Only removed files are counted, each of them once. -/
theorem counted (swept : Swept root cfg store files evicted final)
    (stocked : Stocked root store files) :
    final.deleted + final.disk.entries.length = files.entries.length := by
  have entries : store.listBlobEntries.Nodup := stocked.distinct.of_map
  have apart : (store.listBlobEntries.filter (stale root cfg store.allQueuedBlobIDs files) ++
      evicted).Nodup := by
    refine (entries.filter _).append swept.distinct ?_
    intro entry stale evicted
    have outdated := (List.mem_filter.mp (mem_stale.mp stale).1).2
    cases outdated.symm.trans (swept.survived entry evicted).2.2
  have names : ((store.listBlobEntries.filter (stale root cfg store.allQueuedBlobIDs files) ++
      evicted).map fun entry => blobFile root entry.id).Nodup := by
    refine apart.map_on ?_
    intro left leftRemoved right rightRemoved shared
    exact stocked.eq_of_file (swept.present left leftRemoved).1
      (swept.present right rightRemoved).1 shared
  have length : (files.removeAll _).entries.length + _ = _ := Files.length_removeAll names ?_
  · rw [← length, swept.removed, swept.deleted, List.length_map, Nat.add_comm]
  · intro path removed
    obtain ⟨entry, goes, rfl⟩ := List.mem_map.mp removed
    have here := (swept.present entry goes).2
    intro absent
    rw [vanished, Files.stat_eq_none.mpr absent] at here
    cases here

end Swept

/-- What a swept store and disk look like; the order and the end of the eviction are the
second pass's own. -/
theorem Swept.collected {evicted : List BlobEntry} {final : GCState (Files Path)}
    (swept : Swept root cfg store files evicted final) (stocked : Stocked root store files)
    (oldest : ∀ gone ∈ evicted, ∀ kept ∈ store.listBlobEntries,
      kept.id ∉ store.allQueuedBlobIDs → ¬Goes root store files cfg.expires evicted kept →
        gone.lastAccess ≤ kept.lastAccess)
    (needed : ∀ before entry after, evicted = before ++ entry :: after → 0 < cfg.storeCap ∧
      cfg.storeCap < (files.removeAll ((expiredBlobs root store files cfg.expires ++ before).map
        fun entry => blobFile root entry.id)).usage (countsIn root))
    (capped : 0 < cfg.storeCap → final.disk.usage (countsIn root) ≤ cfg.storeCap ∨
      ∀ entry ∈ store.listBlobEntries, ¬Goes root store files cfg.expires evicted entry →
        entry.id ∈ store.allQueuedBlobIDs) :
    Collected root cfg store files cfg.expires evicted final where
  pinned _ pinned valid := swept.pinned stocked pinned valid
  records := swept.records stocked
  contents := swept.contents stocked
  survived entry evicted := by
    obtain ⟨listed, unpinned, current⟩ := swept.survived entry evicted
    simp only [outdated, unpinned, not_false_eq_true, decide_true, Bool.true_and,
      Bool.or_eq_false_iff] at current
    exact ⟨listed, unpinned, current⟩
  oldest := oldest
  needed := needed
  capped positive := by
    refine (capped positive).imp id ?_
    intro rest
    constructor
    · intro id entry kept
      obtain ⟨found, stays⟩ := (swept.records stocked id entry).mp kept
      have named := stocked.named id entry found
      exact named ▸ rest entry (stocked.mem_list.mpr (named ▸ found)) stays
    · intro path kept counts
      obtain ⟨bytes, found⟩ := Option.isSome_iff_exists.mp (AList.lookup_isSome.mpr kept)
      obtain ⟨present, stays⟩ := (swept.contents stocked path bytes).mp found
      have inside : path ∈ files :=
        AList.lookup_isSome.mp (Option.isSome_of_eq_some present)
      obtain ⟨entry, listed, path_eq⟩ := stocked.listed path inside counts
      exact ⟨entry.id, rest entry listed (stays entry listed path_eq), path_eq⟩
  counted := swept.counted stocked

/-- A pass that runs alone completes.  It removes the unpinned records without a file, the
unpinned blobs that are idle, unless the time to live is the longest duration, and by age as
many others as the cap asks for. -/
theorem runGC_collects (sorter : AccessSorter) (stocked : Stocked root store files) :
    ∃ final evicted, runGC (diskFiles root) root cfg sorter store files = some final ∧
      Collected root cfg store files
        (fun entry => decide (cfg.blobTTL < maxDuration) && cfg.idle entry) evicted final := by
  have rule : (fun entry => decide (cfg.blobTTL < maxDuration) && cfg.idle entry) =
      cfg.expires := funext fun entry => (cfg.expires_eq entry).symm
  rw [rule]
  obtain ⟨removed, first⟩ := @expireBlobs_sweeps root cfg store.allQueuedBlobIDs
    store.listBlobEntries ⟨store, files, [], 0⟩ stocked.valid stocked.distinct
  let mid := GCState.expired root cfg store.allQueuedBlobIDs ⟨store, files, [], 0⟩
    store.listBlobEntries removed
  let evictable := (store.listBlobEntries.filter fun entry =>
    !outdated root cfg store.allQueuedBlobIDs files entry).filter
      fun entry => entry.id ∉ store.allQueuedBlobIDs
  have memEvictable : ∀ {entry}, entry ∈ sorter.sort evictable ↔
      entry ∈ store.listBlobEntries ∧ entry.id ∉ store.allQueuedBlobIDs ∧
        outdated root cfg store.allQueuedBlobIDs files entry = false := by
    intro entry
    rw [(sorter.perm evictable).mem_iff]
    simp [evictable, and_assoc, and_comm]
  have swept : Swept root cfg store files [] mid :=
    ⟨by simp [mid, GCState.expired], by simp [mid, GCState.expired],
      by simp [mid, GCState.expired], by simp, List.nodup_nil⟩
  simp only [runGC, first, Option.bind_eq_bind, Option.bind_some]
  by_cases exceeded : 0 < cfg.storeCap ∧ cfg.storeCap < mid.disk.usage (countsIn root)
  · have valid : ∀ entry ∈ sorter.sort evictable, validID entry.id = true :=
      fun entry listed => stocked.valid entry (memEvictable.mp listed).1
    have distinct : ((sorter.sort evictable).map (·.id)).Nodup := by
      refine ((sorter.perm evictable).map _).nodup_iff.mpr ?_
      exact stocked.distinct.sublist ((List.filter_sublist.trans List.filter_sublist).map _)
    have measured : ∀ entry ∈ sorter.sort evictable, Measured root mid.disk entry := by
      intro entry listed
      obtain ⟨listed, unpinned, current⟩ := memEvictable.mp listed
      exact stocked.measured listed unpinned current
    obtain ⟨gone, kept, split, passed, necessary, ended⟩ :=
      @evictBlobs_sweeps root cfg (sorter.sort evictable) mid valid distinct measured
    have members : ∀ {entry}, entry ∈ gone ++ kept ↔ entry ∈ store.listBlobEntries ∧
        entry.id ∉ store.allQueuedBlobIDs ∧
          outdated root cfg store.allQueuedBlobIDs files entry = false := split ▸ memEvictable
    have survivor : ∀ entry ∈ store.listBlobEntries, entry.id ∉ store.allQueuedBlobIDs →
        ¬Goes root store files cfg.expires gone entry → entry ∈ kept := by
      intro entry listed unpinned stays
      have current : outdated root cfg store.allQueuedBlobIDs files entry = false := by
        refine Bool.eq_false_of_not_eq_true fun gone => stays ⟨unpinned, ?_⟩
        rw [outdated, Bool.and_eq_true, Bool.or_eq_true] at gone
        exact gone.2.imp id .inl
      rcases List.mem_append.mp (members.mpr ⟨listed, unpinned, current⟩) with evicted | kept
      · exact absurd ⟨unpinned, .inr (.inr evicted)⟩ stays
      · exact kept
    refine ⟨mid.dropAll root gone, gone, (if_pos exceeded).trans passed,
      Swept.collected ⟨?_, ?_, ?_, ?_, ?_⟩ stocked ?_ ?_ ?_⟩
    · rw [GCState.dropAll_store, List.map_append, deleteBlobEntries_append]
      rfl
    · rw [GCState.dropAll_disk, List.map_append, Files.removeAll_append]
      rfl
    · rw [GCState.dropAll_deleted, List.length_append]
      simp [mid, GCState.expired]
    · intro entry evicted
      exact members.mp (List.mem_append_left _ evicted)
    · rw [split] at distinct
      exact (List.nodup_append.mp (List.Nodup.of_map _ distinct)).1
    · intro entry evicted other listed unpinned stays
      have ordered := sorter.ordered evictable
      rw [split] at ordered
      exact (List.pairwise_append.mp ordered).2.2 entry evicted other
        (survivor other listed unpinned stays)
    · intro before entry after decomposed
      have above := necessary before entry after decomposed
      rw [GCState.dropAll_disk] at above
      rw [List.map_append, Files.removeAll_append]
      exact ⟨exceeded.1, above⟩
    · intro positive
      refine ended.imp id ?_
      rintro rfl entry listed stays
      by_contra unpinned
      cases survivor entry listed unpinned stays
  · refine ⟨mid, [], if_neg exceeded, swept.collected stocked (by simp) (by simp) ?_⟩
    intro positive
    exact .inl (not_lt.mp fun above => exceeded ⟨positive, above⟩)

end Pass

/-! ## Stores to collect -/

section Stores

variable {root : Path} {store : Store} {files : Files Path}

theorem Stocked.boot (root : Path) : Stocked root .empty ∅ where
  named := by simp [Store.BlobsNamed, Store.empty]
  valid := by simp [Store.listBlobEntries, Store.empty, OrderedMap.values, OrderedMap.empty]
  listed path inside := absurd inside (AList.notMem_empty path)
  sized := by simp [Store.listBlobEntries, Store.empty, OrderedMap.values, OrderedMap.empty]

theorem Stocked.congr (stocked : Stocked root store files) {other : Store}
    (blobs : other.blobs = store.blobs) : Stocked root other files := by
  obtain ⟨named, valid, listed, sized⟩ := stocked
  simp only [Store.BlobsNamed, Store.listBlobEntries, ← blobs] at named valid listed sized
  exact ⟨named, valid, listed, sized⟩

/-- Uploads keep records and files in step. -/
theorem Stocked.upload (stocked : Stocked root store files) {id : BlobID}
    (valid : validID id = true) {bytes : List UInt8} (nonempty : bytes ≠ []) (now : Time)
    (mime : String) :
    Stocked root (store.touchBlob id now bytes.length mime)
      (files.insert (blobFile root id) bytes) := by
  have named := stocked.named.touchBlob id now bytes.length mime
  have positive : (0 : Int) < bytes.length :=
    Int.natCast_pos.mpr (List.length_pos_iff.mpr nonempty)
  obtain ⟨record, recorded, right⟩ := store.get?_touchBlob_self id now positive mime
  have touched : ∀ entry ∈ (store.touchBlob id now bytes.length mime).listBlobEntries,
      entry.id = id ∧ entry.size = bytes.length ∨
        entry.id ≠ id ∧ entry ∈ store.listBlobEntries := by
    intro entry listed
    obtain ⟨key, found⟩ := (OrderedMap.mem_values_iff _).mp listed
    have keyed := named key entry found
    by_cases same : key = id
    · subst same
      cases recorded.symm.trans found
      exact .inl ⟨keyed, right⟩
    · rw [store.get?_touchBlob_of_ne same] at found
      exact .inr ⟨keyed ▸ same, (OrderedMap.mem_values_iff _).mpr ⟨key, found⟩⟩
  have kept : ∀ query, (store.getBlobEntry query).isSome ∨ query = id → ∃ entry ∈
      (store.touchBlob id now bytes.length mime).listBlobEntries, entry.id = query := by
    intro query present
    obtain ⟨entry, found⟩ : ∃ entry,
        (store.touchBlob id now bytes.length mime).blobs.get? query = some entry := by
      by_cases same : query = id
      · exact ⟨record, same ▸ recorded⟩
      · rw [store.get?_touchBlob_of_ne same]
        exact Option.isSome_iff_exists.mp (present.resolve_right same)
    exact ⟨entry, (OrderedMap.mem_values_iff _).mpr ⟨query, found⟩, named query entry found⟩
  constructor
  · exact named
  · intro entry listed
    rcases touched entry listed with ⟨same, -⟩ | ⟨-, old⟩
    · exact same ▸ valid
    · exact stocked.valid entry old
  · intro path inside counts
    rcases (AList.mem_insert files).mp inside with rfl | old
    · obtain ⟨entry, listed, same⟩ := kept id (.inr rfl)
      refine ⟨entry, listed, ?_⟩
      rw [same]
      exact pathFor_eq root (addressed_of_validID valid)
    · obtain ⟨entry, listed, path_eq⟩ := stocked.listed path old counts
      obtain ⟨later, listedLater, same⟩ := kept entry.id
        (.inl (Option.isSome_of_eq_some (stocked.mem_list.mp listed)))
      exact ⟨later, listedLater, same ▸ path_eq⟩
  · intro entry listed path size path_eq stat
    rcases touched entry listed with ⟨same, right⟩ | ⟨different, old⟩
    · rw [same, pathFor_eq root (addressed_of_validID valid)] at path_eq
      cases path_eq
      rw [Files.stat, AList.lookup_insert] at stat
      cases stat
      exact .inr right
    · refine stocked.sized entry old path size path_eq ?_
      rw [← stat, Files.stat, Files.stat, AList.lookup_insert_ne]
      rintro rfl
      rw [pathFor_eq root (addressed_of_validID (stocked.valid entry old))] at path_eq
      exact different (blobFile_injective root (stocked.valid entry old) valid
        (Option.some.inj path_eq))

end Stores

/-! ## Concrete passes -/

section Concrete

open Relay (accessSorter blobRoot)
open Depot (sampleBlob)

/-- An upload of one byte. -/
def uploadOne (digit : Char) (now : Time) (current : Store × Files Path) : Store × Files Path :=
  (current.1.touchBlob (sampleBlob digit) now 1 "",
    current.2.insert (blobFile blobRoot (sampleBlob digit)) [0])

theorem Stocked.uploadOne {current : Store × Files Path}
    (stocked : Stocked blobRoot current.1 current.2) {digit : Char}
    (valid : validID (sampleBlob digit) = true) (now : Time) :
    Stocked blobRoot (uploadOne digit now current).1 (uploadOne digit now current).2 :=
  stocked.upload valid (List.cons_ne_nil 0 []) now ""

/-- Three uploads, at times 10, 80 and 90. -/
def threeBlobs : Store × Files Path :=
  uploadOne 'c' 90 (uploadOne 'b' 80 (uploadOne 'a' 10 (.empty, ∅)))

/-- At time 100, with a time to live of 50 and room for one byte, the first blob expires and
the second is evicted. -/
theorem three_blobs_collected :
    (∃ final evicted, runGC (diskFiles blobRoot) blobRoot ⟨100, 50, 1⟩ accessSorter threeBlobs.1
      threeBlobs.2 = some final ∧
      Collected blobRoot ⟨100, 50, 1⟩ threeBlobs.1 threeBlobs.2
        (fun entry => decide ((50 : Duration) < maxDuration) && GCConfig.idle ⟨100, 50, 1⟩ entry)
        evicted final) ∧
    (runGC (diskFiles blobRoot) blobRoot ⟨100, 50, 1⟩ accessSorter threeBlobs.1
      threeBlobs.2).map (fun final => (final.deleted, final.store.listBlobEntries.map (·.id))) =
        some (2, [sampleBlob 'c']) := by
  refine ⟨runGC_collects accessSorter ?_, by decide +kernel⟩
  exact (((Stocked.boot blobRoot).uploadOne (by decide +kernel) 10).uploadOne
    (by decide +kernel) 80).uploadOne (by decide +kernel) 90

/-- A blob not accessed since the zero time. -/
def ancientBlob : Store × Files Path := uploadOne 'a' Time.zero (.empty, ∅)

/-- A blob that a queued clip names by its digest, without the prefix of an address. -/
def barelyNamed : Store × Files Path :=
  let digest := String.ofList (List.replicate 64 'a')
  (((uploadOne 'a' 10 (.empty, ∅)).1.enqueue "dev_b"
    ⟨.sharing "c1" digest ["dev_b"], 10⟩ 5).1, (uploadOne 'a' 10 (.empty, ∅)).2)

/-- With the longest time to live nothing expires, not even what has been idle for longer; and
a name that is no address pins nothing. -/
theorem expiry_limits :
    (Stocked blobRoot ancientBlob.1 ancientBlob.2 ∧
      ∃ final, runGC (diskFiles blobRoot) blobRoot ⟨2 ^ 64, maxDuration, 0⟩ accessSorter
        ancientBlob.1 ancientBlob.2 = some final ∧ final.deleted = 0 ∧
        ∀ evicted, ¬Collected blobRoot ⟨2 ^ 64, maxDuration, 0⟩ ancientBlob.1 ancientBlob.2
          (GCConfig.idle ⟨2 ^ 64, maxDuration, 0⟩) evicted final) ∧
    Stocked blobRoot barelyNamed.1 barelyNamed.2 ∧
      ∃ final, runGC (diskFiles blobRoot) blobRoot ⟨100, 50, 0⟩ accessSorter barelyNamed.1
        barelyNamed.2 = some final ∧
        ∃ id ∈ barelyNamed.1.allQueuedBlobIDs, ∃ path, pathFor blobRoot id = some path ∧
          path ∈ barelyNamed.2 ∧ path ∉ final.disk := by
  have stocked : ∀ now, Stocked blobRoot (uploadOne 'a' now (.empty, ∅)).1
      (uploadOne 'a' now (.empty, ∅)).2 :=
    fun now => (Stocked.boot blobRoot).uploadOne (by decide +kernel) now
  refine ⟨⟨stocked _, ?_⟩, (stocked 10).congr rfl, ?_⟩
  · obtain ⟨final, passed, checked⟩ := (Option.any_eq_true _ _).mp (show (runGC
        (diskFiles blobRoot) blobRoot ⟨2 ^ 64, maxDuration, 0⟩ accessSorter ancientBlob.1
          ancientBlob.2).any (fun final => decide (final.deleted = 0) &&
            (final.store.getBlobEntry (sampleBlob 'a')).any fun entry =>
              decide (ancientBlob.1.getBlobEntry (sampleBlob 'a') = some entry ∧
                entry.id ∉ ancientBlob.1.allQueuedBlobIDs) &&
              GCConfig.idle ⟨2 ^ 64, maxDuration, 0⟩ entry) = true by decide +kernel)
    rw [Bool.and_eq_true, decide_eq_true_eq, Option.any_eq_true] at checked
    obtain ⟨none, entry, kept, rule⟩ := checked
    rw [Bool.and_eq_true, decide_eq_true_eq] at rule
    obtain ⟨⟨-, unpinned⟩, idle⟩ := rule
    refine ⟨final, passed, none, ?_⟩
    intro evicted collected
    exact ((collected.records _ entry).mp kept).2 ⟨unpinned, .inr (.inl idle)⟩
  · obtain ⟨final, passed, checked⟩ := (Option.any_eq_true _ _).mp (show (runGC
        (diskFiles blobRoot) blobRoot ⟨100, 50, 0⟩ accessSorter barelyNamed.1
          barelyNamed.2).any (fun final => barelyNamed.1.allQueuedBlobIDs.any fun id =>
            (pathFor blobRoot id).any fun path =>
              decide (path ∈ barelyNamed.2 ∧ path ∉ final.disk)) = true by decide +kernel)
    obtain ⟨id, pinned, named⟩ := List.any_eq_true.mp checked
    obtain ⟨path, path_eq, gone⟩ := (Option.any_eq_true _ _).mp named
    exact ⟨final, passed, id, pinned, path, path_eq, of_decide_eq_true gone⟩

end Concrete

end CopySync.Server
