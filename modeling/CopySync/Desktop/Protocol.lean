import CopySync.Client.E2e

/-!
# Desktop client: control-channel payloads

The clip event of `protocol.rs` and its constructor for text.  Values the client
draws (random ids and nonces, the current time) are arguments.
-/

namespace CopySync.Desktop

open Foundation Client

/-- Recipient selector: everyone, or a list of device ids. -/
inductive Targets where
  | all
  | devices (ids : List String)
  deriving DecidableEq, Repr

/-- A clipboard item relayed through the server. -/
structure ClipEvent where
  id : String := ""
  originDevice : String := ""
  seq : Nat := 0
  ts : String := ""
  mime : List String := []
  inlineText : String := ""
  html : String := ""
  blobId : String := ""
  name : String := ""
  onDemand : Bool := false
  size : Int := 0
  sha256 : String := ""
  targets : Targets := .all
  enc : Option EncMeta := none
  deriving DecidableEq, Repr

/-- A group key with its fingerprint; `none` when encryption is off. -/
abbrev GroupKey := Option (Bytes × String)

/-- What building one clip draws: `new_id()`, `now_ts()` and the nonces of up to
two `seal` calls. -/
structure Draw where
  id : String
  ts : String
  nonce : Nonce
  htmlNonce : Nonce
  deriving DecidableEq, Repr

namespace ClipEvent

/-- The event references a blob rather than carrying inline text. -/
def isBlob (event : ClipEvent) : Bool := event.blobId != ""

def isImage (event : ClipEvent) : Bool :=
  event.mime.head?.any fun mime => mime.startsWith "image/"

/-- A short kind for history and UI. -/
def kind (event : ClipEvent) : String :=
  if event.isBlob then if event.isImage then "image" else "file" else "text"

/-- Build a text clip, encrypting in place when a key is given.  `size` is the
plaintext length, `sha256` is of the payload actually sent; a failing `seal` is
the only error. -/
def newText (prims : Primitives) (draw : Draw) (seq : Nat) (text : String)
    (html : Option String) (key : GroupKey) (targets : Targets) : Option ClipEvent :=
  let html := html.filter (· != "")
  let event : ClipEvent :=
    { id := draw.id
      seq
      ts := draw.ts
      mime := if html.isSome then ["text/html", "text/plain"] else ["text/plain"]
      size := (bytesOf text).length
      targets }
  match key with
  | some (key, kid) => do
      let raw ← E2e.sealPayload prims key draw.nonce (bytesOf text)
      let html ←
        match html with
        | some html =>
            (E2e.sealPayload prims key draw.htmlNonce (bytesOf html)).map prims.encodeBase64
        | none => some ""
      return { event with
        inlineText := prims.encodeBase64 raw
        sha256 := prims.sha256Hex raw
        html
        enc := some (E2e.encMeta kid) }
  | none =>
      some { event with
        inlineText := text
        sha256 := prims.sha256Hex (bytesOf text)
        html := html.getD "" }

end ClipEvent

/-- The part of `Config` the engine derives its key from. -/
structure Config where
  serverId : String
  e2ePass : String
  token : String
  deriving DecidableEq, Repr

/-- Derived key and key id when a passphrase and a server id are set. -/
def Config.e2eKey (config : Config) (prims : Primitives) : GroupKey :=
  if config.e2ePass = "" ∨ config.serverId = "" then none
  else
    let key := prims.deriveKey config.e2ePass config.serverId
    some (key, E2e.keyId prims key)

theorem Config.keyId_of_e2eKey {config : Config} {prims : Primitives} {key : Bytes} {kid : String}
    (keyed : config.e2eKey prims = some (key, kid)) : kid = E2e.keyId prims key := by
  rw [Config.e2eKey] at keyed
  split at keyed
  · cases keyed
  · cases keyed
    rfl

end CopySync.Desktop
