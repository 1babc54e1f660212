import Mathlib.Data.String.Basic
import Mathlib.Algebra.Order.Ring.Int

/-!
# Data model of the relay server

The records shared by every layer of the server (`internal/model`), the runtime
settings (`internal/config`) and the control-channel frames
(`internal/protocol`).  Frames are kept as typed payloads: encoding them is total
on these types, so a send channel is a list of payloads.

Texts are Unicode strings: everything the server stores or relays was decoded
from JSON.  A Go slice whose `nil` value is observable in its JSON form is an
optional list.
-/

namespace CopySync.Server

/-- Server-assigned identifier of a paired client. -/
abbrev DeviceID := String

/-- Client-supplied blob name; well formed only when it is a content address. -/
abbrev BlobID := String

/-- `time.Time` in nanoseconds after the zero time. -/
abbrev Time := Int

/-- `time.Duration` in nanoseconds. -/
abbrev Duration := Int

/-- Two's-complement wrap-around of 64-bit arithmetic. -/
def wrapInt64 (value : Int) : Int := (value + 2 ^ 63) % 2 ^ 64 - 2 ^ 63

/-- `time.Duration(seconds) * time.Second`. -/
def Duration.ofSeconds (seconds : Int) : Duration := wrapInt64 (seconds * 10 ^ 9)

/-- The zero `time.Time`. -/
def Time.zero : Time := 0

def maxDuration : Duration := 2 ^ 63 - 1

def minDuration : Duration := -2 ^ 63

/-- `Time.Sub`, which saturates at the ends of the duration range. -/
def Time.sub (later earlier : Time) : Duration :=
  max minDuration (min maxDuration (later - earlier))

/-- Saturation does not matter to a comparison inside the duration range. -/
theorem Time.sub_lt_iff (later earlier : Time) {window : Duration}
    (low : minDuration < window) (high : window ≤ maxDuration) :
    Time.sub later earlier < window ↔ later - earlier < window := by
  rw [Time.sub, max_lt_iff, min_lt_iff]
  exact ⟨fun bound => bound.2.resolve_left high.not_gt, fun bound => ⟨low, .inr bound⟩⟩

structure Device where
  id : DeviceID
  name : String
  platform : String
  pool : String
  createdAt : Time
  lastSeenAt : Time
  revoked : Bool
  deriving DecidableEq, Repr

/-- Keyed hash of a device's bearer token. `prevHash` is non-empty while a
rotation is pending. -/
structure TokenRecord where
  deviceID : DeviceID
  tokenHash : String
  prevHash : String
  issuedAt : Time
  revoked : Bool
  deriving DecidableEq, Repr

structure PairingCode where
  code : String
  createdAt : Time
  expiresAt : Time
  consumedAt : Option Time
  deriving DecidableEq, Repr

namespace PairingCode

def expired (code : PairingCode) (now : Time) : Bool := decide (code.expiresAt < now)

def consumed (code : PairingCode) : Bool := code.consumedAt.isSome

end PairingCode

structure EncMeta where
  alg : String
  keyID : String
  nonce : String
  deriving DecidableEq, Repr

/-- Recipient selector. `broadcast` never appears on the wire. -/
structure Targets where
  all : Bool
  broadcast : Bool
  devices : Option (List DeviceID)
  deriving DecidableEq, Repr

/-- The selector after a round trip through its JSON form, the string `"all"` or
an array of ids. -/
def Targets.wire (targets : Targets) : Targets :=
  if targets.all then ⟨true, false, none⟩
  else ⟨false, false, some (targets.devices.getD [])⟩

structure ClipEvent where
  id : String
  originDevice : DeviceID
  seq : Nat
  ts : String
  mime : Option (List String)
  inlineText : String
  html : String
  blobID : BlobID
  name : String
  onDemand : Bool
  size : Int
  sha256 : String
  targets : Targets
  enc : Option EncMeta
  deriving DecidableEq, Repr

/-- A clip carrying text, rich text or a blob reference without encryption
metadata. -/
def ClipEvent.isPlaintext (event : ClipEvent) : Bool :=
  event.enc.isNone &&
    (event.inlineText != "" || event.html != "" || event.blobID != "")

/-- The event as frames and queue items carry it. -/
def ClipEvent.wire (event : ClipEvent) : ClipEvent :=
  { event with targets := event.targets.wire }

@[simp] theorem ClipEvent.isPlaintext_wire (event : ClipEvent) :
    event.wire.isPlaintext = event.isPlaintext := rfl

structure QueueItem where
  event : ClipEvent
  enqueuedAt : Time
  deriving DecidableEq, Repr

structure BlobEntry where
  id : BlobID
  size : Int
  mime : String
  createdAt : Time
  lastAccess : Time
  refcount : Int
  origin : DeviceID
  allowed : List DeviceID
  deriving DecidableEq, Repr

/-- `BlobEntry{ID: id}`: every other field has its zero value. -/
def BlobEntry.zero (id : BlobID) : BlobEntry where
  id
  size := 0
  mime := ""
  createdAt := Time.zero
  lastAccess := Time.zero
  refcount := 0
  origin := ""
  allowed := []

/-! ## Runtime settings -/

structure RuntimeSettings where
  maxMessageBytes : Int
  blobMaxBytes : Int
  onDemandThresholdBytes : Int
  blobStoreCapBytes : Int
  queueDepthPerDevice : Int
  queueItemTTLSeconds : Int
  blobTTLSeconds : Int
  e2eEnabled : Bool
  allowServerBroadcast : Bool
  sessionTTLSeconds : Int
  pairingCodeTTLSeconds : Int
  pools : List String
  tokenRotateDays : Int
  downloadsEnabled : Bool
  deriving DecidableEq, Repr

/-- Keep the first occurrence of every non-empty pool name. -/
def dedupePools : List String → List String → List String
  | _, [] => []
  | seen, pool :: rest =>
      if pool ≠ "" ∧ pool ∉ seen then pool :: dedupePools (pool :: seen) rest
      else dedupePools seen rest

namespace RuntimeSettings

def default : RuntimeSettings where
  maxMessageBytes := 64 * 1024
  blobMaxBytes := 100 * 1024 * 1024
  onDemandThresholdBytes := 5 * 1024 * 1024
  blobStoreCapBytes := 5 * 1024 * 1024 * 1024
  queueDepthPerDevice := 200
  queueItemTTLSeconds := 72 * 3600
  blobTTLSeconds := 72 * 3600
  e2eEnabled := false
  allowServerBroadcast := true
  sessionTTLSeconds := 12 * 3600
  pairingCodeTTLSeconds := 5 * 60
  pools := ["default"]
  tokenRotateDays := 0
  downloadsEnabled := false

/-- Enforce the hard floors, switch server broadcast off under E2E, and list
every pool once with `"default"` first. -/
def normalize (settings : RuntimeSettings) : RuntimeSettings :=
  { settings with
    allowServerBroadcast := settings.allowServerBroadcast && !settings.e2eEnabled
    maxMessageBytes := max settings.maxMessageBytes 1024
    blobMaxBytes := max settings.blobMaxBytes 1024
    onDemandThresholdBytes := max settings.onDemandThresholdBytes 0
    queueDepthPerDevice := max settings.queueDepthPerDevice 1
    sessionTTLSeconds := max settings.sessionTTLSeconds 60
    pairingCodeTTLSeconds := max settings.pairingCodeTTLSeconds 30
    tokenRotateDays := max settings.tokenRotateDays 0
    pools := dedupePools [] ("default" :: settings.pools) }

end RuntimeSettings

/-! ## Control-channel frames -/

structure DeviceInfo where
  device : Device
  online : Bool
  deriving DecidableEq, Repr

structure HelloOK where
  serverID : String
  serverName : String
  e2e : Bool
  you : Device
  roster : List DeviceInfo
  maxMsg : Int
  blobCap : Int
  onDemandThreshold : Int
  pools : List String
  pool : String
  deriving DecidableEq, Repr

structure Presence where
  device : Device
  online : Bool
  deriving DecidableEq, Repr

inductive AckStatus where
  | relayed
  | queued
  | rejected
  deriving DecidableEq, Repr

structure Ack where
  id : String
  status : AckStatus
  queuedFor : List DeviceID
  deriving DecidableEq, Repr

/-- Server-to-client frames that reach a send channel. -/
inductive Frame where
  | helloOK (payload : HelloOK)
  | clip (event : ClipEvent)
  | presence (payload : Presence)
  | ack (payload : Ack)
  | blobRequest (id : BlobID)
  | tokenRotate (token : String)
  deriving DecidableEq, Repr

namespace Frame

/-- The clip carried by a frame, if any. -/
def clip? : Frame → Option ClipEvent
  | .clip event => some event
  | _ => none

end Frame

/-- Clips among the frames of a channel, oldest first. -/
def clipsOf (frames : List Frame) : List ClipEvent := frames.filterMap Frame.clip?

end CopySync.Server
