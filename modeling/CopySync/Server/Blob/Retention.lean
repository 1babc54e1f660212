import CopySync.Foundation.Transition
import CopySync.Server.Blob.Upload
import CopySync.Server.Relay.Pins

/-!
# Access lists and the bytes they are for

The record of a blob is created by whichever comes first of its clip and its upload, and a
collector pass drops the records it finds without a file.  A clip announces a blob before its
bytes are there: a pass in between forgets who may fetch them.

Passes run alone here.  One that panics stops at the record it cannot name a file for; what it
removed before that stays removed.
-/

namespace CopySync.Server

open Foundation

/-- The metadata and the files, with the access list each blob was last given since its bytes
were last deleted. -/
structure Shelf where
  store : Store
  files : Files Path
  granted : OrderedMap BlobID (DeviceID × List DeviceID)

/-- Calls that reach the shelf.  `requeue` is whatever else changes the queues, from which the
pins are derived. -/
inductive ShelfCall where
  | setBlobACL (id : BlobID) (origin : DeviceID) (allowed : List DeviceID)
  | upload (id : BlobID) (body : List UInt8) (maxBytes : Int) (suffix : List UInt8)
      (faults : PutFaults) (now : Time) (mime : String)
  | touch (id : BlobID) (now : Time)
  | requeue (queues : OrderedMap DeviceID QueueBucket)
  | collect (cfg : GCConfig) (stuck : List Path)

/-- The file operations of the collector on a disk that does not let some files go. -/
def stuckFiles (root : Path) (stuck : List Path) : Filesystem (Files Path) where
  stat files path := files.stat path
  remove files path := if path ∈ stuck then files else files.erase path
  usage files := files.usage (countsIn root)

section Pass

variable (root : Path) (sorter : AccessSorter) (cfg : GCConfig) (stuck : List Path)

/-- A record a pass can work on: pinned, or with an id that names a file. -/
def passable (pinned : List BlobID) (entry : BlobEntry) : Bool :=
  decide (entry.id ∈ pinned) || (pathFor root entry.id).isSome

/-- Metadata and files after a pass, or after as much of it as comes before the panic. -/
def afterPass (store : Store) (files : Files Path) : Store × Files Path :=
  match runGC (stuckFiles root stuck) root cfg sorter store files with
  | some final => (final.store, final.disk)
  | none =>
      let worked := store.listBlobEntries.takeWhile (passable root store.allQueuedBlobIDs)
      match expireBlobs (stuckFiles root stuck) root cfg store.allQueuedBlobIDs worked
        ⟨store, files, [], 0⟩ with
      | some (state, _) => (state.store, state.disk)
      | none => (store, files)

end Pass

namespace Shelf

section Machine

variable (digest : List UInt8 → List UInt8) (root : Path) (sorter : AccessSorter)

/-- A grant lapses when a pass takes the bytes away. -/
def lapse (shelf : Shelf) (files : Files Path) : OrderedMap BlobID (DeviceID × List DeviceID) :=
  shelf.granted.filter fun id _ =>
    (openBlob root shelf.files id).isNone || (openBlob root files id).isSome

/-- `handleBlobPut` touches the record of an upload that `Put` accepts. -/
def step (shelf : Shelf) : ShelfCall → Option Shelf
  | .setBlobACL id origin allowed =>
      some { shelf with
        store := shelf.store.setBlobACL id origin allowed
        granted := shelf.granted.put id (origin, allowed) }
  | .upload id body maxBytes suffix faults now mime =>
      (put digest root shelf.files id body maxBytes suffix faults).map fun (files, result) =>
        match result with
        | .ok size => { shelf with files, store := shelf.store.touchBlob id now size mime }
        | .error _ => { shelf with files }
  | .touch id now => some { shelf with store := shelf.store.touchBlob id now 0 "" }
  | .requeue queues => some { shelf with store := { shelf.store with queues } }
  | .collect cfg stuck =>
      let (store, files) := afterPass root sorter cfg stuck shelf.store shelf.files
      some { store, files, granted := shelf.lapse root files }

def boot : Shelf := ⟨.empty, ∅, .empty⟩

/-- Whatever is stored and was granted is on record with the grant. -/
def KeepsGrants (shelf : Shelf) : Prop :=
  ∀ id origin allowed, (openBlob root shelf.files id).isSome = true →
    shelf.granted.get? id = some (origin, allowed) →
      ∃ entry, shelf.store.getBlobEntry id = some entry ∧ entry.origin = origin ∧
        entry.allowed = allowed

/-- A pass is careful when every unpinned record with a grant has its file, and the disk lets
it go. -/
def careful (shelf : Shelf) : ShelfCall → Bool
  | .collect _ stuck =>
      shelf.store.listBlobEntries.all fun entry =>
        decide (entry.id ∈ shelf.store.allQueuedBlobIDs) || (shelf.granted.get? entry.id).isNone ||
          (pathFor root entry.id).all fun path =>
            (shelf.files.lookup path).isSome && decide (path ∉ stuck)
  | _ => true

end Machine

end Shelf

/-! ## What a pass takes away -/

/-- Between two points of a pass records only go, unpinned ones of files that are not there or
stuck. -/
structure Trims (root : Path) (stuck : List Path) (pinned ids : List BlobID)
    (store : Store) (files : Files Path) (final : Store) (left : Files Path) : Prop where
  records : ∀ id, final.accessOf id = store.accessOf id ∨ id ∈ ids ∧ id ∉ pinned ∧
    ∃ path, pathFor root id = some path ∧ (left.lookup path = none ∨ path ∈ stuck)
  shrinks : ∀ path, files.lookup path = none → left.lookup path = none

section Trims

variable {root : Path} {stuck : List Path} {pinned ids more : List BlobID}
variable {store middle final : Store} {files between left : Files Path}

theorem Trims.refl : Trims root stuck pinned ids store files store files :=
  ⟨fun _ => .inl rfl, fun _ none => none⟩

theorem Trims.trans (first : Trims root stuck pinned ids store files middle between)
    (second : Trims root stuck pinned ids middle between final left) :
    Trims root stuck pinned ids store files final left where
  records id := by
    rcases second.records id with same | gone
    · rcases first.records id with same' | ⟨among, unpinned, path, path_eq, gone⟩
      · exact .inl (same.trans same')
      · exact .inr ⟨among, unpinned, path, path_eq, gone.imp_left (second.shrinks path)⟩
    · exact .inr gone
  shrinks path none := second.shrinks path (first.shrinks path none)

/-- A record of a file that vanished is deleted. -/
theorem Trims.forget {id : BlobID} {path : Path} (among : id ∈ ids) (unpinned : id ∉ pinned)
    (path_eq : pathFor root id = some path) (vanished : files.lookup path = none) :
    Trims root stuck pinned ids store files (store.deleteBlobEntry id) files where
  records query := by
    rw [Store.accessOf_deleteBlobEntry]
    split_ifs with same
    · exact .inr ⟨same ▸ among, same ▸ unpinned, path, same ▸ path_eq, .inl vanished⟩
    · exact .inl rfl
  shrinks _ none := none

/-- A blob is removed. -/
theorem Trims.drop {state : GCState (Files Path)} {id : BlobID} {path : Path}
    (among : id ∈ ids) (unpinned : id ∉ pinned) (path_eq : pathFor root id = some path) :
    Trims root stuck pinned ids state.store state.disk
      (state.drop (stuckFiles root stuck) id path).store
      (state.drop (stuckFiles root stuck) id path).disk where
  records query := by
    rw [GCState.drop, Store.accessOf_deleteBlobEntry]
    split_ifs with same
    · refine .inr ⟨same ▸ among, same ▸ unpinned, path, same ▸ path_eq, ?_⟩
      by_cases held : path ∈ stuck
      · exact .inr held
      · simp [stuckFiles, held]
    · exact .inl rfl
  shrinks query none := by
    simp only [GCState.drop, stuckFiles]
    split_ifs
    · exact none
    · rw [Files.lookup_erase_eq, none, ite_self]

theorem expireBlobs_trims {cfg : GCConfig} {entries survivors : List BlobEntry}
    {state final : GCState (Files Path)} (among : ∀ entry ∈ entries, entry.id ∈ ids)
    (passed : expireBlobs (stuckFiles root stuck) root cfg pinned entries state =
      some (final, survivors)) :
    Trims root stuck pinned ids state.store state.disk final.store final.disk ∧
      ∀ entry ∈ survivors, entry ∈ entries := by
  induction entries generalizing state survivors with
  | nil =>
      cases passed
      exact ⟨.refl, by simp⟩
  | cons entry rest ih =>
      obtain ⟨head, among⟩ := List.forall_mem_cons.mp among
      have widen : ∀ {survivors : List BlobEntry}, (∀ entry ∈ survivors, entry ∈ rest) →
          ∀ survivor ∈ survivors, survivor ∈ entry :: rest :=
        fun inside survivor listed => List.mem_cons_of_mem _ (inside survivor listed)
      have kept : (expireBlobs (stuckFiles root stuck) root cfg pinned rest state).bind
          (fun result => some (result.1, entry :: result.2)) = some (final, survivors) →
          Trims root stuck pinned ids state.store state.disk final.store final.disk ∧
            ∀ survivor ∈ survivors, survivor ∈ entry :: rest := by
        intro continued
        obtain ⟨⟨ended, others⟩, remaining, result⟩ := Option.bind_eq_some_iff.mp continued
        cases result
        obtain ⟨trims, inside⟩ := ih among remaining
        exact ⟨trims, List.forall_mem_cons.mpr ⟨List.mem_cons_self, widen inside⟩⟩
      rw [expireBlobs] at passed
      split at passed
      next => exact kept passed
      next unpinned =>
        obtain ⟨path, path_eq, passed⟩ := Option.bind_eq_some_iff.mp passed
        split at passed
        next vanished =>
          obtain ⟨trims, inside⟩ := ih among passed
          have absent : state.disk.lookup path = none :=
            Files.stat_eq_none.mp (Option.isNone_iff_eq_none.mp vanished)
          exact ⟨(Trims.forget head unpinned path_eq absent).trans trims, widen inside⟩
        next =>
          split at passed
          next =>
            obtain ⟨trims, inside⟩ := ih among passed
            exact ⟨(Trims.drop head unpinned path_eq).trans trims, widen inside⟩
          next => exact kept passed

theorem evictBlobs_trims {cfg : GCConfig} {entries : List BlobEntry} {usage : Int}
    {state final : GCState (Files Path)}
    (among : ∀ entry ∈ entries, entry.id ∈ ids ∧ entry.id ∉ pinned)
    (passed : evictBlobs (stuckFiles root stuck) root cfg entries usage state = some final) :
    Trims root stuck pinned ids state.store state.disk final.store final.disk := by
  induction entries generalizing usage state with
  | nil =>
      cases passed
      exact .refl
  | cons entry rest ih =>
      obtain ⟨⟨head, unpinned⟩, among⟩ := List.forall_mem_cons.mp among
      rw [evictBlobs] at passed
      split at passed
      next =>
        cases passed
        exact .refl
      next =>
        obtain ⟨path, path_eq, passed⟩ := Option.bind_eq_some_iff.mp passed
        exact (Trims.drop head unpinned path_eq).trans (ih among passed)

/-- Whether it panics or not, a pass trims. -/
theorem afterPass_trims (sorter : AccessSorter) (cfg : GCConfig) (stuck : List Path) :
    Trims root stuck store.allQueuedBlobIDs (store.listBlobEntries.map (·.id)) store files
      (afterPass root sorter cfg stuck store files).1
      (afterPass root sorter cfg stuck store files).2 := by
  have named : ∀ entry ∈ store.listBlobEntries,
      entry.id ∈ store.listBlobEntries.map (·.id) :=
    fun entry listed => List.mem_map_of_mem (f := fun entry : BlobEntry => entry.id) listed
  rw [afterPass]
  split
  next final passed =>
    obtain ⟨⟨state, survivors⟩, expired, passed⟩ := Option.bind_eq_some_iff.mp passed
    obtain ⟨trims, inside⟩ := expireBlobs_trims named expired
    simp only at passed
    split_ifs at passed
    · refine trims.trans (evictBlobs_trims ?_ passed)
      intro entry listed
      obtain ⟨survivor, unpinned⟩ := List.mem_filter.mp ((sorter.perm _).subset listed)
      exact ⟨named entry (inside entry survivor), by simpa using unpinned⟩
    · cases passed
      exact trims
  next =>
    dsimp only
    split
    next state survivors expired =>
      refine (expireBlobs_trims ?_ expired).1
      exact fun entry listed => named entry (List.takeWhile_subset _ listed)
    next => exact .refl

end Trims

/-! ## Grants -/

namespace Shelf

/-- Grants are on record, whether or not the bytes are there. -/
def Recorded (shelf : Shelf) : Prop :=
  ∀ id grant, shelf.granted.get? id = some grant → shelf.store.accessOf id = some grant

section Runs

variable {digest : List UInt8 → List UInt8} {root : Path} {sorter : AccessSorter}
variable {shelf after : Shelf}

theorem Recorded.touchBlob (recorded : shelf.Recorded) (files : Files Path) (id : BlobID)
    (now : Time) (size : Int) (mime : String) :
    Recorded { shelf with files, store := shelf.store.touchBlob id now size mime } := by
  intro query grant granted
  have known := recorded query grant granted
  rw [Store.accessOf_touchBlob]
  split_ifs with same
  · rw [← same, known, Option.getD_some]
  · exact known

/-- A careful pass that forgets a record with a grant has taken its file away. -/
theorem Recorded.collect (recorded : shelf.Recorded) (cfg : GCConfig) (stuck : List Path)
    (careful : shelf.careful root (.collect cfg stuck) = true)
    (stepped : shelf.step digest root sorter (.collect cfg stuck) = some after) :
    after.Recorded := by
  have trims := @afterPass_trims root shelf.store shelf.files sorter cfg stuck
  have outcome : after = ⟨(afterPass root sorter cfg stuck shelf.store shelf.files).1,
      (afterPass root sorter cfg stuck shelf.store shelf.files).2,
      shelf.lapse root (afterPass root sorter cfg stuck shelf.store shelf.files).2⟩ :=
    (Option.some.inj stepped).symm
  generalize afterPass root sorter cfg stuck shelf.store shelf.files = left at trims outcome
  subst outcome
  intro id grant granted
  obtain ⟨known, stays⟩ := Option.filter_eq_some_iff.mp
    ((OrderedMap.get?_filter ..).symm.trans granted)
  rcases trims.records id with same | ⟨among, unpinned, path, path_eq, gone⟩
  · exact same.trans (recorded id grant known)
  · obtain ⟨entry, listed, rfl⟩ := List.mem_map.mp among
    have rule := List.all_eq_true.mp careful entry listed
    simp only [unpinned, known, path_eq, Option.isNone_some, decide_false, Bool.or_false,
      Bool.false_or, Option.all_some, Bool.and_eq_true, decide_eq_true_eq] at rule
    have lost := gone.resolve_right rule.2
    obtain ⟨bytes, present⟩ := Option.isSome_iff_exists.mp rule.1
    simp [openBlob, path_eq, lost, present] at stays

theorem Recorded.step (recorded : shelf.Recorded) {action : ShelfCall}
    (careful : shelf.careful root action = true)
    (stepped : shelf.step digest root sorter action = some after) : after.Recorded := by
  cases action with
  | setBlobACL id origin allowed =>
      cases stepped
      intro query grant granted
      rw [OrderedMap.get?_put] at granted
      rw [Store.accessOf_setBlobACL]
      split_ifs at granted ⊢ with same
      · exact granted
      · exact recorded query grant granted
  | upload id body maxBytes suffix faults now mime =>
      obtain ⟨⟨files, result⟩, -, rfl⟩ := Option.map_eq_some_iff.mp stepped
      cases result with
      | error error => exact recorded
      | ok size => exact recorded.touchBlob files id now size mime
  | touch id now =>
      cases stepped
      exact recorded.touchBlob shelf.files id now 0 ""
  | requeue queues =>
      cases stepped
      exact recorded
  | collect cfg stuck => exact recorded.collect cfg stuck careful stepped

/-- In every run whose passes are careful, what is stored and was granted is on record. -/
theorem grants_kept
    (run : Run (step digest root sorter) (fun before action => before.careful root action = true)
      boot shelf) : shelf.KeepsGrants root := by
  have recorded : shelf.Recorded := by
    refine run.invariant ?_ fun inv careful stepped => inv.step careful stepped
    intro id grant granted
    cases granted
  intro id origin allowed _ granted
  obtain ⟨entry, found, access⟩ := Option.map_eq_some_iff.mp (recorded id _ granted)
  obtain ⟨originSame, allowedSame⟩ := Prod.mk.inj access
  exact ⟨entry, found, originSame, allowedSame⟩

end Runs

/-! ## Concrete runs -/

open Relay (accessSorter blobRoot)

/-- The first device shares the empty blob with the second. -/
def announcement : ShelfCall := .setBlobACL emptyBlob "dev_a" ["dev_b"]

/-- The first device uploads it. -/
def emptyUpload (now : Time) : ShelfCall := .upload emptyBlob [] 10 [49] .none now ""

/-- The blob is there with its grant after a pass that finds it fresh. -/
theorem uploaded_grant_kept :
    ∃ shelf : Shelf, (openBlob blobRoot shelf.files emptyBlob).isSome = true ∧
      shelf.granted.get? emptyBlob = some ("dev_a", ["dev_b"]) ∧ shelf.KeepsGrants blobRoot := by
  obtain ⟨shelf, run, checked⟩ := Run.exists_of_execWhen
    (step (fun _ => emptyDigest) blobRoot accessSorter) (careful blobRoot) boot
    [announcement, emptyUpload 90, .collect ⟨100, 50, 0⟩ []]
    (fun shelf => decide ((openBlob blobRoot shelf.files emptyBlob).isSome = true ∧
      shelf.granted.get? emptyBlob = some ("dev_a", ["dev_b"])))
    (by decide +kernel)
  obtain ⟨stored, granted⟩ := of_decide_eq_true checked
  exact ⟨shelf, stored, granted, grants_kept run⟩

/-- A pass between the announcement and the upload forgets the grant: the blob is there, and
its record names neither an origin nor a recipient. -/
theorem announced_grant_lost :
    ∃ shelf, Reachable (step (fun _ => emptyDigest) blobRoot accessSorter) boot shelf ∧
      shelf.store.accessOf emptyBlob = some ("", []) ∧ ¬shelf.KeepsGrants blobRoot := by
  obtain ⟨shelf, reached, checked⟩ := Reachable.exists_of_exec
    (step (fun _ => emptyDigest) blobRoot accessSorter) boot
    [announcement, .collect ⟨100, 50, 0⟩ [], emptyUpload 110]
    (fun shelf => decide ((openBlob blobRoot shelf.files emptyBlob).isSome = true ∧
      shelf.granted.get? emptyBlob = some ("dev_a", ["dev_b"]) ∧
      shelf.store.accessOf emptyBlob = some ("", [])))
    (by decide +kernel)
  obtain ⟨stored, granted, access⟩ := of_decide_eq_true checked
  refine ⟨shelf, reached, access, ?_⟩
  intro keeps
  obtain ⟨entry, found, origin, -⟩ := keeps emptyBlob "dev_a" ["dev_b"] stored granted
  rw [Store.accessOf, show shelf.store.blobs.get? emptyBlob = some entry from found,
    Option.map_some, origin] at access
  exact absurd (Prod.mk.inj (Option.some.inj access)).1 (by decide)

end Shelf

end CopySync.Server
