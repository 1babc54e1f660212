import CopySync.Server.Store.Queue

/-!
# Blob metadata records

A record is created by whichever comes first: the relay persisting the access
list of a clip, or the blob channel storing or serving the bytes.  Each writer
keeps the fields of the other.
-/

namespace CopySync.Server

open Foundation

namespace Store

def getBlobEntry (store : Store) (id : BlobID) : Option BlobEntry := store.blobs.get? id

def listBlobEntries (store : Store) : List BlobEntry := store.blobs.values

def deleteBlobEntry (store : Store) (id : BlobID) : Store :=
  { store with blobs := store.blobs.erase id }

/-- Persist the origin and recipients of a clip on the blob's record, creating it
when absent. -/
def setBlobACL (store : Store) (id : BlobID) (origin : DeviceID) (allowed : List DeviceID) :
    Store :=
  let entry := (store.blobs.get? id).getD (.zero id)
  { store with blobs := store.blobs.put id { entry with origin, allowed } }

/-- Record or refresh a blob's metadata: creation time on first sight, last access
always, size and type when provided. -/
def touchBlob (store : Store) (id : BlobID) (now : Time) (size : Int) (mime : String) : Store :=
  let entry := (store.blobs.get? id).getD { BlobEntry.zero id with createdAt := now }
  let entry :=
    { entry with
      createdAt := if entry.createdAt = Time.zero then now else entry.createdAt
      lastAccess := now
      size := if size > 0 then size else entry.size
      mime := if mime ≠ "" then mime else entry.mime }
  { store with blobs := store.blobs.put id entry }

theorem get?_touchBlob_of_ne (store : Store) {id query : BlobID} (different : query ≠ id)
    (now : Time) (size : Int) (mime : String) :
    (store.touchBlob id now size mime).blobs.get? query = store.blobs.get? query :=
  store.blobs.get?_put_of_ne _ different

/-- A touch with a size leaves a record of that size. -/
theorem get?_touchBlob_self (store : Store) (id : BlobID) (now : Time) {size : Int}
    (positive : 0 < size) (mime : String) :
    ∃ entry, (store.touchBlob id now size mime).blobs.get? id = some entry ∧
      entry.size = size :=
  ⟨_, store.blobs.get?_put_self id _, if_pos positive⟩

/-! ## Records name their key -/

/-- Every record carries the id it is stored under. -/
def BlobsNamed (store : Store) : Prop :=
  ∀ id entry, store.blobs.get? id = some entry → entry.id = id

section Named

variable {store : Store} (named : store.BlobsNamed)

include named

theorem BlobsNamed.put {id : BlobID} {entry : BlobEntry} (keeps : entry.id = id) :
    { store with blobs := store.blobs.put id entry }.BlobsNamed := by
  intro query found lookup
  rw [OrderedMap.get?_put] at lookup
  split_ifs at lookup with same
  · cases lookup
    exact keeps.trans same.symm
  · exact named query found lookup

theorem BlobsNamed.getD_id {id : BlobID} {fallback : BlobEntry} (keeps : fallback.id = id) :
    ((store.blobs.get? id).getD fallback).id = id := by
  cases present : store.blobs.get? id with
  | none => exact keeps
  | some entry => exact named id entry present

theorem BlobsNamed.setBlobACL (id : BlobID) (origin : DeviceID) (allowed : List DeviceID) :
    (store.setBlobACL id origin allowed).BlobsNamed :=
  named.put (named.getD_id rfl)

theorem BlobsNamed.touchBlob (id : BlobID) (now : Time) (size : Int) (mime : String) :
    (store.touchBlob id now size mime).BlobsNamed :=
  named.put (named.getD_id rfl)

theorem BlobsNamed.deleteBlobEntry (id : BlobID) : (store.deleteBlobEntry id).BlobsNamed := by
  intro query entry lookup
  rw [Store.deleteBlobEntry, OrderedMap.get?_erase] at lookup
  split_ifs at lookup
  exact named query entry lookup

end Named

/-! ## Access fields -/

section Access

variable (store : Store) (id query : BlobID)

/-- Origin and recipients on record for a blob. -/
def accessOf (store : Store) (id : BlobID) : Option (DeviceID × List DeviceID) :=
  (store.blobs.get? id).map fun entry => (entry.origin, entry.allowed)

theorem accessOf_setBlobACL (origin : DeviceID) (allowed : List DeviceID) :
    (store.setBlobACL id origin allowed).accessOf query =
      if query = id then some (origin, allowed) else store.accessOf query := by
  simp only [accessOf, setBlobACL, OrderedMap.get?_put]
  split_ifs <;> rfl

/-- Touching a blob keeps its access fields; a record it creates has none. -/
theorem accessOf_touchBlob (now : Time) (size : Int) (mime : String) :
    (store.touchBlob id now size mime).accessOf query =
      if query = id then some ((store.accessOf id).getD ("", [])) else store.accessOf query := by
  by_cases same : query = id
  · simp only [accessOf, touchBlob, OrderedMap.get?_put, same, if_true]
    cases store.blobs.get? id <;> rfl
  · simp [accessOf, touchBlob, same]

theorem accessOf_deleteBlobEntry :
    (store.deleteBlobEntry id).accessOf query =
      if query = id then none else store.accessOf query := by
  simp only [accessOf, deleteBlobEntry, OrderedMap.get?_erase]
  split_ifs <;> rfl

theorem accessOf_congr {left right : Store} (same : left.blobs = right.blobs) :
    left.accessOf id = right.accessOf id := by
  simp [accessOf, same]

end Access

end Store

end CopySync.Server
