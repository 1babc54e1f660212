import CopySync.Foundation.FileName
import CopySync.Foundation.Files
import CopySync.Server.Blob.GC

/-!
# The blob directory on disk

Blob files lie two levels below the root of the store, uploads in progress in its
temporary area.  A content address names one file, and no two of them share it.
-/

namespace CopySync.Server

open Foundation

/-- The directory of uploads in progress. -/
def tmpDir (root : Path) : Path := { root with components := root.components ++ [bytesOf "tmp"] }

/-- Whether a path lies in a directory. -/
def insideOf (directory path : Path) : Bool :=
  path.rooted == directory.rooted && decide (directory.components <+: path.components)

/-- The files `DiskUsage` counts. -/
def countsIn (root path : Path) : Bool := insideOf root path && !insideOf (tmpDir root) path

/-- The file operations of the collector, none of which fails. -/
def diskFiles (root : Path) : Filesystem (Files Path) where
  stat files path := files.stat path
  remove files path := files.erase path
  usage files := files.usage (countsIn root)

section Addresses

variable (root : Path) {id other : BlobID}

/-- A content address is its prefix and its digest. -/
theorem bytesOf_address (valid : validID id = true) :
    bytesOf id = bytesOf "sha256:" ++ hexOf id := by
  rw [validID, Bool.and_eq_true] at valid
  obtain ⟨rest, split⟩ := List.isPrefixOf_iff_prefix.mp valid.1
  simp only [hexOf, valid.1, if_true]
  rw [← split]
  rfl

theorem blobFile_injective (valid : validID id = true) (otherValid : validID other = true)
    (same : blobFile root id = blobFile root other) : id = other := by
  apply bytesOf_injective
  rw [bytesOf_address valid, bytesOf_address otherValid]
  simp only [blobFile, Foundation.Path.mk.injEq, true_and, List.append_cancel_left_eq,
    List.cons.injEq, and_true] at same
  rw [same.2]

/-- Blob files count towards the usage. -/
theorem countsIn_blobFile (valid : validID id = true) :
    countsIn root (blobFile root id) = true := by
  obtain ⟨length, -⟩ := hexOf_digits (addressed_of_validID valid)
  have outside : ¬(tmpDir root).components <+: (blobFile root id).components := by
    intro inside
    have shard := (List.prefix_append_right_inj _).mp inside
    have first := (List.cons_prefix_cons.mp shard).1
    have := congrArg List.length first
    rw [List.length_take, length] at this
    cases this
  simp [countsIn, insideOf, outside]
  simp [blobFile]

end Addresses

end CopySync.Server
