import CopySync.Android.Privacy
import CopySync.Client.E2e
import CopySync.Foundation.Transition

/-!
# Android client: the service and what its coroutines do to it

The state of `SyncService.kt` with the capture cache of `ClipboardCaptureEngine.kt`, and the
effects its coroutines are made of.  What the socket, the blob channel and the disk answer is
an argument.

Captured sources, held ciphertexts and decrypted previews share the directory
`clip-src`.  Every file carries, besides its content, which path of the program wrote
it last; the program itself never looks at that.
-/

namespace CopySync.Android

open Foundation Client

/-! ## Data -/

inductive Targets where
  | all
  | devices (ids : List String)
  deriving DecidableEq, Repr

structure ClipEvent where
  id : String
  originDeviceId : String := ""
  seq : Nat := 0
  ts : Option String := none
  mime : List String := []
  inlineText : Option String := none
  html : Option String := none
  blobId : Option String := none
  name : Option String := none
  onDemand : Bool := false
  size : Int := 0
  sha256 : String := ""
  enc : Option EncMeta := none
  targets : Targets := .all
  deriving DecidableEq, Repr

/-- A captured clipboard item: text, or content cached in a file. -/
inductive Captured where
  | text (text : String) (html : Option String)
  | binary (file : Path) (mime name : String) (size : Int) (sha : String)
  deriving DecidableEq, Repr

/-- Who wrote a file last: a capture, the on-demand branch of an encrypting sender,
the preview cache of received clips, the clipboard hand-over of received clips, the
thumbnail stash, or something else on the device. -/
inductive Provenance where
  | source
  | hold
  | preview
  | paste
  | thumb
  | foreign
  deriving DecidableEq, Repr

structure CachedFile where
  content : Bytes
  provenance : Provenance
  deriving DecidableEq, Repr

/-- A body handed to `BlobClient.put` or `putFile`, with the id of its URL. -/
structure Upload where
  id : String
  body : Bytes
  deriving DecidableEq, Repr

/-- The drain of the outbound queue: `remaining` is counted when its coroutine
starts. -/
inductive Flush where
  | idle
  | launched
  | draining (remaining : Nat)
  deriving DecidableEq, Repr

/-- Stored settings and libraries.  `classify` is the sensitivity filter. -/
structure Env where
  prims : Primitives
  e2ePass : Option String
  serverId : Option String
  cacheDir : Path
  classify : String → Bool

structure Service where
  key : Option Bytes
  kid : String
  keyChecked : Bool
  threshold : Int
  seq : Nat
  ws : Bool
  blob : Bool
  connected : Bool
  files : Path → Option CachedFile
  launched : List Captured
  pendingOutbound : List Captured
  flush : Flush
  sent : List ClipEvent
  uploads : List Upload

/-- The outcome of a call on the blob channel: the body was taken, or the call failed
after the body was handed over. -/
inductive Transfer where
  | done
  | failed
  deriving DecidableEq, Repr

/-- What a coroutine of `sendCaptured` meets: drawn ids and nonces, the recipients
selected in the UI, whether the socket takes the frame, the blob channel, the first
frame of a video, and whether writing the thumbnail and the hold succeeds. -/
structure Attempt where
  id : String
  nonce : Nonce
  htmlNonce : Nonce
  targets : Targets
  accepted : Bool
  transfer : Transfer
  videoFrame : Option Bytes
  stashed : Bool
  written : Bool
  deriving DecidableEq, Repr

/-! ## Texts -/

/-- `substringAfter` and `substringBefore` a character; a text without it is
returned whole. -/
def substringAfter (mark : Char) (text : String) : String :=
  match text.toList.dropWhile (· != mark) with
  | [] => text
  | _ :: rest => String.ofList rest

def substringBefore (mark : Char) (text : String) : String :=
  String.ofList (text.toList.takeWhile (· != mark))

def substringAfterLast (mark : Char) (text : String) : String :=
  String.ofList (text.toList.reverse.takeWhile (· != mark)).reverse

/-- No unit of a character beyond the basic plane is white. -/
def isWhitespace (char : Char) : Bool := Privacy.isWhitespace char.toNat

/-- The base name a received file is pasted under. -/
def safeName (name : String) : String :=
  let base := substringAfterLast '\\' (substringAfterLast '/' name)
  let base := if base.toList.all isWhitespace then "file" else base
  if base = "." ∨ base = ".." then "file" else base

/-! ## Directories of the cache -/

namespace Env

/-- The key of the stored passphrase and server id. -/
def e2eKey (env : Env) : Option Bytes :=
  match env.e2ePass, env.serverId with
  | some pass, some serverId =>
      if pass = "" ∨ serverId = "" then none else some (env.prims.deriveKey pass serverId)
  | _, _ => none

def directory (env : Env) (name : String) : Path := env.cacheDir.join (bytesOf name)

/-- The file `clip-src/name`. -/
def srcFile (env : Env) (name : List UInt8) : Path := (env.directory "clip-src").join name

end Env

namespace Service

/-- The first start over whatever is on the disk. -/
def start (disk : Path → Option Bytes) : Service where
  key := none
  kid := ""
  keyChecked := false
  threshold := 0
  seq := 0
  ws := false
  blob := false
  connected := false
  files path := (disk path).map fun content => ⟨content, .foreign⟩
  launched := []
  pendingOutbound := []
  flush := .idle
  sent := []
  uploads := []

/-- The process dies and starts again: the disk survives. -/
def restart (service : Service) : Service :=
  { start fun _ => none with
    files := service.files
    sent := service.sent
    uploads := service.uploads }

def write (service : Service) (path : Path) (file : CachedFile) : Service :=
  { service with files := Function.update service.files path (some file) }

def delete (service : Service) (path : Path) : Service :=
  { service with files := Function.update service.files path none }

/-- `ensureKey` behind its check: the derivation is slow, and the key is there only at its
end. -/
def deriveKey (env : Env) (service : Service) : Service :=
  match env.e2eKey with
  | some key => { service with key := some key, kid := E2e.keyId env.prims key }
  | none => service

/-- Derive the key from the stored passphrase once.  Nobody waits for the coroutine that
derives it: another one finds `keyChecked` set and goes on with the key there is. -/
def ensureKey (env : Env) (service : Service) : Service :=
  if service.keyChecked then service
  else { service with keyChecked := true }.deriveKey env

/-- `ws?.sendClip`: without a socket no event is built. -/
def sendClip (service : Service) (event : Nat → ClipEvent) (accepted : Bool) : Service × Bool :=
  if service.ws then
    ({ service with
      seq := service.seq + 1
      sent := service.sent ++ [event (service.seq + 1)] }, accepted)
  else (service, false)

def upload (service : Service) (id : String) (body : Bytes) : Service :=
  { service with uploads := service.uploads ++ [⟨id, body⟩] }

/-- The held source file for a blob id, if there is one. -/
def heldFile (env : Env) (service : Service) (blobId : String) : Option CachedFile :=
  service.files (env.srcFile (hexOf blobId))

/-! ## Outbound clips -/

/-- Text, digest, metadata and rich text of a text clip as they go on the wire. -/
def wireText (env : Env) (service : Service) (text : String) (html : Option String)
    (attempt : Attempt) : Option (String × String × Option EncMeta × Option String) :=
  let rich := html.filter (· != "")
  match service.key with
  | some key => do
      let raw ← E2e.sealPayload env.prims key attempt.nonce (bytesOf text)
      let coded ←
        match rich with
        | some rich =>
            (E2e.sealPayload env.prims key attempt.htmlNonce (bytesOf rich)).map fun raw =>
              some (env.prims.encodeBase64 raw)
        | none => some none
      return (env.prims.encodeBase64 raw, env.prims.sha256Hex raw,
        some (E2e.encMeta service.kid), coded)
  | none => some (text, env.prims.sha256Hex (bytesOf text), none, rich)

/-- Keep a plaintext preview for the history under the advertised id: an image as it
is, the first frame of a video. -/
def stashThumb (env : Env) (service : Service) (file : Path) (mime blobId : String)
    (attempt : Attempt) : Service :=
  let preview :=
    if mime.startsWith "image/" then (service.files file).map (·.content)
    else if mime.startsWith "video/" then attempt.videoFrame
    else none
  match preview with
  | some content =>
      if attempt.stashed then
        service.write ((env.directory "clip-thumb").join (hexOf blobId)) ⟨content, .thumb⟩
      else service
  | none => service

/-- The frame of a file clip. -/
def fileEvent (attempt : Attempt) (mime name blobId : String) (onDemand : Bool) (size : Int)
    (sha : String) (enc : Option EncMeta) (seq : Nat) : ClipEvent :=
  { id := attempt.id
    seq
    mime := [mime]
    name := some name
    blobId := some blobId
    onDemand
    size
    sha256 := sha
    enc
    targets := attempt.targets }

/-! ## Captures -/

/-- Stream content into the source cache; content already there is not written
again. -/
def cacheSource (env : Env) (service : Service) (content : Bytes) : Service :=
  let dest := env.srcFile (bytesOf (env.prims.sha256Hex content))
  if (service.files dest).isSome then service else service.write dest ⟨content, .source⟩

/-- Hand a received file to the clipboard through `clip-out`. -/
def applyInboundFile (env : Env) (service : Service) (data : Bytes) (name : String)
    (pasted : Bool) : Service :=
  let dir := env.directory "clip-out"
  let file := dir.join (bytesOf (safeName name))
  if pasted && dir.components.isPrefixOf file.components &&
      decide (dir.components.length < file.components.length) then
    service.write file ⟨data, .paste⟩
  else service

end Service

/-! ## Frames -/

/-- Images up to this size are fetched for a history thumbnail. -/
def previewCapBytes : Int := 25 * 1024 * 1024

/-- A frame of the server.  A clip comes with what the blob channel returns for it
and with the outcome of the file writes. -/
inductive Frame where
  | helloOk (onDemandThreshold : Option Int)
  | blobRequest (id : String)
  | clip (event : ClipEvent) (fetched : Option Bytes) (written pasted : Bool)
  | other
  deriving DecidableEq, Repr

/-- The name a clip's blob is fetched under, unless the clip is inline, or left for the user
to fetch. -/
def ClipEvent.fetchName (event : ClipEvent) : Option String :=
  match event.inlineText, event.blobId with
  | none, some _ =>
      match event.mime.find? fun mime => mime.startsWith "image/" with
      | some mime =>
          if !event.onDemand || decide (1 ≤ event.size ∧ event.size ≤ previewCapBytes) then
            let ext := substringBefore ';' (substringAfter '/' mime)
            some (event.name.getD ("image." ++ if ext = "" then "img" else ext))
          else none
      | none => if event.onDemand then none else some (event.name.getD "file")
  | _, _ => none

/-- Whether handling a clip begins with `ensureKey`. -/
def ClipEvent.needsKey (event : ClipEvent) : Bool :=
  event.inlineText.isSome || event.fetchName.isSome

namespace Service

/-- The content of a fetched blob, decrypted when the clip is marked as encrypted. -/
def opened (env : Env) (service : Service) (event : ClipEvent) (fetched : Option Bytes) :
    Option Bytes := do
  let data ← if service.blob then fetched else none
  match event.enc with
  | none => some data
  | some _ => service.key.bind fun key => E2e.openPayload env.prims key data

/-- Cache the content of a fetched blob under its id, and hand an eager one to the
clipboard. -/
def receiveBlob (env : Env) (service : Service) (event : ClipEvent) (blobId name : String)
    (fetched : Option Bytes) (written pasted : Bool) : Service :=
  let service := service.ensureKey env
  match service.opened env event fetched with
  | none => service
  | some data =>
      let service :=
        if written then service.write (env.srcFile (hexOf blobId)) ⟨data, .preview⟩ else service
      if event.onDemand then service else service.applyInboundFile env data name pasted

def handleClip (env : Env) (service : Service) (event : ClipEvent) (fetched : Option Bytes)
    (written pasted : Bool) : Service :=
  match event.inlineText, event.blobId with
  | some _, _ => service.ensureKey env
  | none, none => service
  | none, some blobId =>
      let small := decide (1 ≤ event.size ∧ event.size ≤ previewCapBytes)
      match event.mime.find? fun mime => mime.startsWith "image/" with
      | some mime =>
          if !event.onDemand || small then
            let ext := substringBefore ';' (substringAfter '/' mime)
            let name := event.name.getD ("image." ++ if ext = "" then "img" else ext)
            service.receiveBlob env event blobId name fetched written pasted
          else service
      | none =>
          if event.onDemand then service
          else
            service.receiveBlob env event blobId (event.name.getD "file") fetched written pasted

/-- Start a drain unless one runs or nothing is queued. -/
def flushOutbound (service : Service) : Service :=
  if service.flush = .idle ∧ service.pendingOutbound ≠ [] then
    { service with flush := .launched }
  else service

/-- Answer a `BLOB_REQUEST` with the file its id names. -/
def serveBlob (env : Env) (service : Service) (id : String) : Service :=
  match service.heldFile env id with
  | some file => if service.blob then service.upload id file.content else service
  | none => service

end Service

end CopySync.Android
