import CopySync.Foundation.Path

/-!
# Content addresses

A blob is named by the SHA-256 digest of its bytes in lower-case hexadecimal, with
the prefix `sha256:`.  Server and clients strip the prefix the same way and use the
rest as a file name.
-/

namespace CopySync

open Foundation

/-- `[0-9a-f]`. -/
def isHexByte (byte : UInt8) : Bool :=
  (48 ≤ byte && byte ≤ 57) || (97 ≤ byte && byte ≤ 102)

/-- A lower-case hexadecimal SHA-256 digest. -/
def isDigest (bytes : List UInt8) : Bool :=
  bytes.length == 64 && bytes.all isHexByte

/-- The text after the `sha256:` prefix, or all of it when the prefix is
missing. -/
def hexOf (id : String) : List UInt8 :=
  let bytes := bytesOf id
  if (bytesOf "sha256:").isPrefixOf bytes then bytes.drop 7 else bytes

theorem isHexByte_plain {byte : UInt8} (hex : isHexByte byte = true) :
    byte ≠ 47 ∧ byte ≠ 46 := by
  constructor <;> rintro rfl <;> exact absurd hex (by decide)

/-- Joining a digest to a directory names a file in it. -/
theorem Foundation.Path.join_digest (path : Path) {digest : List UInt8}
    (isHex : isDigest digest = true) :
    path.join digest = { path with components := path.components ++ [digest] } := by
  obtain ⟨length, hex⟩ : digest.length = 64 ∧ ∀ byte ∈ digest, isHexByte byte = true := by
    simpa [isDigest] using isHex
  refine path.join_plain (fun byte membership => isHexByte_plain (hex byte membership)) ?_
  rintro rfl
  cases length

end CopySync
