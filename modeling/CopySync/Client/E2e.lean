import CopySync.Address

/-!
# End-to-end encryption of the clients

The desktop and the Android client derive a group key from a passphrase and seal
every payload with AES-256-GCM, a fresh nonce in front of the ciphertext.  The
cryptographic libraries are parameters: nothing below depends on more than what
they are called with.
-/

namespace CopySync.Client

abbrev Bytes := List UInt8

/-- A 12-byte nonce of AES-GCM. -/
abbrev Nonce := Vector UInt8 12

/-- What the clients call in their libraries: Argon2id over passphrase and server
id, AES-256-GCM, the SHA-256 digest in lower-case hexadecimal, and base64. -/
structure Primitives where
  deriveKey : String → String → Bytes
  encrypt : Bytes → Nonce → Bytes → Option Bytes
  decrypt : Bytes → Nonce → Bytes → Option Bytes
  sha256Hex : Bytes → String
  encodeBase64 : Bytes → String
  decodeBase64 : String → Except String Bytes

/-- Marks a payload as ciphertext. -/
structure EncMeta where
  alg : String
  keyId : String
  nonce : String
  deriving DecidableEq, Repr

namespace E2e

variable (prims : Primitives)

/-- The label carried in `EncMeta.alg`. -/
def alg : String := "aes-256-gcm"

/-- Fingerprint of a key, by which receivers detect a passphrase mismatch. -/
def keyId (key : Bytes) : String := String.ofList ((prims.sha256Hex key).toList.take 16)

/-- `nonce || ciphertext || tag`. -/
def sealPayload (key : Bytes) (nonce : Nonce) (plaintext : Bytes) : Option Bytes :=
  (prims.encrypt key nonce plaintext).map (nonce.toList ++ ·)

/-- Decrypt a sealed payload; shorter than a nonce is refused. -/
def openPayload (key raw : Bytes) : Option Bytes :=
  if long : 12 ≤ raw.length then
    prims.decrypt key ⟨(raw.take 12).toArray, by simp [long]⟩ (raw.drop 12)
  else none

/-- An output of `sealPayload` under a key. -/
def IsSealed (key body : Bytes) : Prop :=
  ∃ nonce plaintext, sealPayload prims key nonce plaintext = some body

/-- The metadata sent with a payload; the nonce travels inside the payload. -/
def encMeta (kid : String) : EncMeta := ⟨alg, kid, ""⟩

variable {prims}

theorem IsSealed.of_sealPayload {key plaintext body : Bytes} {nonce : Nonce}
    (produced : sealPayload prims key nonce plaintext = some body) : IsSealed prims key body :=
  ⟨nonce, plaintext, produced⟩

/-- A sealed payload starts with its nonce. -/
theorem IsSealed.length {key body : Bytes} (isSealed : IsSealed prims key body) :
    12 ≤ body.length := by
  obtain ⟨nonce, plaintext, produced⟩ := isSealed
  obtain ⟨cipher, _, rfl⟩ := Option.map_eq_some_iff.mp produced
  simp

end E2e

/-- The content address of a blob. -/
def blobId (prims : Primitives) (content : Bytes) : String :=
  "sha256:" ++ prims.sha256Hex content

/-! ## Reference values

What the libraries return for one passphrase and a few payloads, for concrete runs. -/

namespace Reference

/-- The group key of passphrase `p` at server `srv`. -/
def key : Bytes :=
  [87, 47, 146, 101, 42, 38, 169, 21, 169, 11, 237, 75, 191, 163, 93, 49, 161, 83, 52, 138, 227,
    164, 241, 187, 50, 122, 49, 88, 64, 234, 28, 174]

/-- A payload encrypted under the key, with its digest, and the digest and base64
form of the sealed payload. -/
structure Sample where
  nonce : Nonce
  plain : Bytes
  cipher : Bytes
  plainDigest : String
  digest : String
  base64 : String

def Sample.sealed (sample : Sample) : Bytes := sample.nonce.toList ++ sample.cipher

/-- The text `hi`. -/
def text : Sample where
  nonce := Vector.replicate 12 1
  plain := [104, 105]
  cipher := [50, 67, 210, 68, 36, 3, 151, 13, 239, 104, 216, 180, 49, 242, 174, 130, 113, 60]
  plainDigest := "8f434346648f6b96df89dda901c5176b10a6d83961dd3c1ac88b59b2dc327aa4"
  digest := "eca6f24b7696e17d43dde20682880003fd3dc9d5c940310709a17c1c701ec740"
  base64 := "AQEBAQEBAQEBAQEBMkPSRCQDlw3vaNi0MfKugnE8"

/-- The first bytes of an image. -/
def image : Sample where
  nonce := Vector.replicate 12 2
  plain := [137, 80]
  cipher := [152, 73, 49, 106, 178, 186, 54, 254, 53, 131, 252, 104, 30, 20, 239, 5, 38, 145]
  plainDigest := "ceb31d4697a6ea6c5b1f1c11d5e80712847b7d989d9b337eaaa24eea470708a2"
  digest := "f0bfa4d9690783ec0b32b245bd8f5714faede4ed78c6681056b72acd5dc1821d"
  base64 := "AgICAgICAgICAgICmEkxarK6Nv41g/xoHhTvBSaR"

/-- A file of three bytes. -/
def file : Sample where
  nonce := Vector.replicate 12 3
  plain := [1, 2, 3]
  cipher := [251, 215, 43, 172, 122, 252, 37, 232, 68, 91, 127, 10, 24, 78, 181, 202, 61, 198, 223]
  plainDigest := "039058c6f2c0cb492c533b0a4d14ef77cc0f78abccced5287d84a1a2011cfb81"
  digest := "8ca3c45ce85868d973ab92c6bbc8a6716e96d0a84bb65106d9e52a1dae1c9c4b"
  base64 := "AwMDAwMDAwMDAwMD+9crrHr8JehEW38KGE61yj3G3w=="

def samples : List Sample := [text, image, file]

def digests : List (Bytes × String) :=
  (key, "7c1378060950bafdd0ab83a5c1b2d82d7c1b41e85c6186dd8c9c09f2f0b99393") ::
    samples.flatMap fun sample =>
      [(sample.plain, sample.plainDigest), (sample.sealed, sample.digest)]

/-- The libraries on these values. -/
def prims : Primitives where
  deriveKey pass serverId := if pass = "p" ∧ serverId = "srv" then key else []
  encrypt used nonce plain :=
    (samples.find? fun sample => used == key && sample.nonce == nonce && sample.plain == plain).map
      (·.cipher)
  decrypt used nonce cipher :=
    (samples.find? fun sample =>
      used == key && sample.nonce == nonce && sample.cipher == cipher).map (·.plain)
  sha256Hex bytes := (digests.lookup bytes).getD ""
  encodeBase64 bytes :=
    ((samples.find? fun sample => sample.sealed == bytes).map (·.base64)).getD ""
  decodeBase64 coded :=
    match samples.find? fun sample => sample.base64 == coded with
    | some sample => .ok sample.sealed
    | none => .error "Invalid input"

/-- The digests of a file and of a text, with an arbitrary digest elsewhere. -/
def digestOf (data : Bytes) : String :=
  if data = file.plain then file.plainDigest
  else if data = text.plain then text.plainDigest
  else String.ofList (List.replicate 64 '0')

theorem isDigest_digestOf (data : Bytes) :
    isDigest (Foundation.bytesOf (digestOf data)) = true := by
  rw [digestOf]
  split
  · decide +kernel
  · split <;> decide +kernel

end Reference

end CopySync.Client
