import CopySync.Address
import CopySync.Server.Types

/-!
# Content addresses and blob paths

A blob's path is built from the text after its `sha256:` prefix: a shard directory
named by the first two bytes, and a file named by the whole text.  Nothing in
`pathFor` checks that the text is a digest; paths are therefore modelled with the
lexical cleaning that `filepath.Join` applies, and the two-byte slice as a partial
operation.
-/

namespace CopySync.Server

open Foundation

/-- `^sha256:[0-9a-f]{64}$`. -/
def validID (id : BlobID) : Bool :=
  (bytesOf "sha256:").isPrefixOf (bytesOf id) && isDigest ((bytesOf id).drop 7)

/-- Ids whose path is the path of a blob file. -/
def Addressed (id : BlobID) : Prop := isDigest (hexOf id) = true

instance (id : BlobID) : Decidable (Addressed id) := inferInstanceAs (Decidable (_ = _))

theorem addressed_of_validID {id : BlobID} (valid : validID id = true) : Addressed id := by
  rw [validID] at valid
  simp only [Bool.and_eq_true] at valid
  simp [Addressed, hexOf, valid.1, valid.2]

/-! ## Paths -/

/-- The path of a blob; none when the slice of the first two bytes is out of
range. -/
def pathFor (root : Path) (id : BlobID) : Option Path :=
  let digest := hexOf id
  if digest.length < 2 then none else some ((root.join (digest.take 2)).join digest)

/-- A blob file inside the blob directory: two hexadecimal digits, then the
digest. -/
def IsBlobFile (root path : Path) : Prop :=
  ∃ digest, isDigest digest = true ∧
    path = { root with components := root.components ++ [digest.take 2, digest] }

/-- The file of an addressed blob. -/
def blobFile (root : Path) (id : BlobID) : Path :=
  { root with components := root.components ++ [(hexOf id).take 2, hexOf id] }

theorem hexOf_digits {id : BlobID} (addressed : Addressed id) :
    (hexOf id).length = 64 ∧ ∀ byte ∈ hexOf id, isHexByte byte = true := by
  simpa [Addressed, isDigest] using addressed

theorem pathFor_eq (root : Path) {id : BlobID} (addressed : Addressed id) :
    pathFor root id = some (blobFile root id) := by
  obtain ⟨length, hex⟩ := hexOf_digits addressed
  have shard : ∀ byte ∈ (hexOf id).take 2, byte ≠ 47 ∧ byte ≠ 46 := fun byte membership =>
    isHexByte_plain (hex byte (List.mem_of_mem_take membership))
  have shardNonempty : (hexOf id).take 2 ≠ [] := by
    intro empty
    have := congrArg List.length empty
    simp [length] at this
  simp [pathFor, blobFile, length, Path.join_plain _ shard shardNonempty,
    Path.join_digest _ addressed]

/-- The path of an addressed blob is a blob file. -/
theorem pathFor_of_addressed (root : Path) {id : BlobID} (addressed : Addressed id) :
    ∃ path, pathFor root id = some path ∧ IsBlobFile root path :=
  ⟨blobFile root id, pathFor_eq root addressed, hexOf id, addressed, rfl⟩

end CopySync.Server
