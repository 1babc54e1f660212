import CopySync.Foundation.OrderedMap
import CopySync.Server.Types

/-!
# The persistent store: buckets, devices, pairing and settings

bbolt is modelled as what its interface promises: byte-ordered maps whose
transactions are atomic.  A transaction is a function on the whole store, and a
transaction that fails returns no store, so the caller keeps the old one.
-/

namespace CopySync.Server

open Foundation

/-- One device's offline queue: a nested bucket whose keys were all issued by its
own strictly increasing sequence counter. -/
structure QueueBucket where
  seq : Nat
  items : OrderedMap Nat QueueItem
  issued : ∀ entry ∈ items.entries, entry.1 ≤ seq

structure DayStat where
  date : String
  count : Int
  bytes : Int
  deriving DecidableEq, Repr

structure Store where
  devices : OrderedMap DeviceID Device
  deviceNames : OrderedMap String DeviceID
  tokens : OrderedMap DeviceID TokenRecord
  tokenIndex : OrderedMap String DeviceID
  pairing : OrderedMap String PairingCode
  settings : Option RuntimeSettings
  queues : OrderedMap DeviceID QueueBucket
  blobs : OrderedMap BlobID BlobEntry
  activity : OrderedMap String DayStat

/-- Library functions whose tables are not part of the server: Unicode lower
casing of device names, calendar formatting of a time as a day and as an RFC 3339
stamp, and the hexadecimal SHA-256 digest of a text. -/
structure Library where
  toLower : String → String
  dayKey : Time → String
  formatRFC3339 : Time → String
  sha256Hex : String → String

/-- Why `ClaimPairing` refused a code. -/
inductive PairingError where
  | invalid
  | nameTaken
  deriving DecidableEq, Repr

namespace Store

/-- The store `Open` creates: every bucket exists and is empty. -/
def empty : Store where
  devices := .empty
  deviceNames := .empty
  tokens := .empty
  tokenIndex := .empty
  pairing := .empty
  settings := none
  queues := .empty
  blobs := .empty
  activity := .empty

/-! ## Devices -/

def putDevice (lib : Library) (store : Store) (device : Device) : Store :=
  { store with
    devices := store.devices.put device.id device
    deviceNames := store.deviceNames.put (lib.toLower device.name) device.id }

def getDevice (store : Store) (id : DeviceID) : Option Device := store.devices.get? id

def listDevices (store : Store) : List Device := store.devices.values

/-- No-op if the device is gone. -/
def updateLastSeen (store : Store) (id : DeviceID) (now : Time) : Store :=
  match store.devices.get? id with
  | none => store
  | some device =>
      { store with devices := store.devices.put id { device with lastSeenAt := now } }

/-- Remove a device with its name index, its token record, both token index
entries of a pending rotation, and its offline queue. -/
def deleteDevice (lib : Library) (store : Store) (id : DeviceID) : Store :=
  let deviceNames := match store.devices.get? id with
    | some device => store.deviceNames.erase (lib.toLower device.name)
    | none => store.deviceNames
  let tokenIndex := match store.tokens.get? id with
    | some record =>
        let index := store.tokenIndex.erase record.tokenHash
        if record.prevHash ≠ "" then index.erase record.prevHash else index
    | none => store.tokenIndex
  { store with
    devices := store.devices.erase id
    deviceNames
    tokenIndex
    tokens := store.tokens.erase id
    queues := store.queues.erase id }

/-! ## Pairing -/

def putPairing (store : Store) (code : PairingCode) : Store :=
  { store with pairing := store.pairing.put code.code code }

/-- Validate the code, enforce name uniqueness, persist the device and its token
and consume the code, in one transaction. -/
def claimPairing (lib : Library) (store : Store) (code : String) (now : Time)
    (device : Device) (token : TokenRecord) : Except PairingError Store :=
  match store.pairing.get? code with
  | none => .error .invalid
  | some entry =>
      if entry.consumed || entry.expired now then .error .invalid
      else if (store.deviceNames.get? (lib.toLower device.name)).any (· ≠ device.id) then
        .error .nameTaken
      else
        .ok { store with
          devices := store.devices.put device.id device
          deviceNames := store.deviceNames.put (lib.toLower device.name) device.id
          tokens := store.tokens.put token.deviceID token
          tokenIndex := store.tokenIndex.put token.tokenHash token.deviceID
          pairing := store.pairing.put code { entry with consumedAt := some now } }

/-- Drop expired and consumed codes. -/
def purgePairing (store : Store) (now : Time) : Store :=
  { store with
    pairing := store.pairing.filter fun _ entry => !(entry.consumed || entry.expired now) }

/-! ## Settings and activity -/

/-- Persisted settings over the defaults, normalized. -/
def getSettings (store : Store) : RuntimeSettings :=
  (store.settings.getD .default).normalize

def putSettings (store : Store) (settings : RuntimeSettings) : Store :=
  { store with settings := some settings.normalize }

def recordActivity (lib : Library) (store : Store) (now : Time) (bytes : Int) : Store :=
  let key := lib.dayKey now
  let stat := (store.activity.get? key).getD ⟨"", 0, 0⟩
  let bumped : DayStat :=
    { date := key
      count := stat.count + 1
      bytes := if bytes > 0 then stat.bytes + bytes else stat.bytes }
  { store with activity := store.activity.put key bumped }

/-! ## Frame conditions -/

section Frame

variable (lib : Library) (store : Store) (id : DeviceID) (now : Time) (bytes : Int)

@[simp] theorem updateLastSeen_queues : (store.updateLastSeen id now).queues = store.queues := by
  rw [updateLastSeen]
  split <;> rfl

@[simp] theorem updateLastSeen_blobs : (store.updateLastSeen id now).blobs = store.blobs := by
  rw [updateLastSeen]
  split <;> rfl

@[simp] theorem recordActivity_queues :
    (store.recordActivity lib now bytes).queues = store.queues := rfl

@[simp] theorem recordActivity_blobs :
    (store.recordActivity lib now bytes).blobs = store.blobs := rfl

@[simp] theorem recordActivity_devices :
    (store.recordActivity lib now bytes).devices = store.devices := rfl

@[simp] theorem deleteDevice_blobs : (store.deleteDevice lib id).blobs = store.blobs := rfl

@[simp] theorem putDevice_queues (device : Device) :
    (store.putDevice lib device).queues = store.queues := rfl

@[simp] theorem putDevice_blobs (device : Device) :
    (store.putDevice lib device).blobs = store.blobs := rfl

end Frame

/-- A successful claim found a live code and a free name, and wrote the device,
its name, its token, the token's index entry and the consumption mark. -/
theorem claimPairing_ok {lib : Library} {store after : Store} {code : String}
    {now : Time} {device : Device} {token : TokenRecord}
    (claimed : store.claimPairing lib code now device token = .ok after) :
    ∃ entry, store.pairing.get? code = some entry ∧
      entry.consumed = false ∧ entry.expired now = false ∧
      (store.deviceNames.get? (lib.toLower device.name)).any (· ≠ device.id) = false ∧
      after = { store with
        devices := store.devices.put device.id device
        deviceNames := store.deviceNames.put (lib.toLower device.name) device.id
        tokens := store.tokens.put token.deviceID token
        tokenIndex := store.tokenIndex.put token.tokenHash token.deviceID
        pairing := store.pairing.put code { entry with consumedAt := some now } } := by
  rw [claimPairing] at claimed
  split at claimed
  next => cases claimed
  next entry lookup =>
    split_ifs at claimed with refused taken
    · simp only [Bool.or_eq_true, not_or, Bool.not_eq_true] at refused
      cases claimed
      exact ⟨entry, lookup, refused.1, refused.2, by simpa using taken, rfl⟩

end Store

end CopySync.Server
