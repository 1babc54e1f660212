import CopySync.Server.Store.Blobs
import CopySync.Server.Store.Tokens

/-!
# State of the hub and its connections

The hub owns three maps (registry, on-demand holders, blob access lists), a
settings snapshot and the admin monitor.  A connection couples the hub's client
(its bounded send channel and close flag) with the two goroutines that drive it:
the serving goroutine, which registers, reads and unregisters, and the write pump.

Registered clients are named by connection number, the identity of the `*Client`
pointer.
-/

namespace CopySync.Server

open Foundation

/-- Capacity of a client's send channel. -/
def sendBuffer : Nat := 64

abbrev ConnID := Nat

/-! ## Clients -/

structure Client where
  device : Device
  send : List Frame
  closeReason : Option String
  deriving DecidableEq, Repr

namespace Client

def new (device : Device) : Client := ⟨device, [], none⟩

/-- Only the first call has an effect. -/
def close (client : Client) (reason : String) : Client :=
  { client with closeReason := some (client.closeReason.getD reason) }

/-- Non-blocking send; reports whether the frame fitted. -/
def enqueue (client : Client) (frame : Frame) : Client × Bool :=
  if client.send.length < sendBuffer then
    ({ client with send := client.send ++ [frame] }, true)
  else (client, false)

end Client

/-- Where the serving goroutine of a connection stands.  `opened` to `requeueing`
are the stages of `Register`: settings not yet read, queue not yet drained, drained
frames waiting for the hub, the hub pushing them (`full` once the buffer refused
one), and the undelivered tail being re-persisted. -/
inductive Session where
  | opened
  | starting (settings : RuntimeSettings)
  | drained (settings : RuntimeSettings) (items : List QueueItem)
  | registering (settings : RuntimeSettings) (rest : List QueueItem) (full : Bool)
  | requeueing (depth : Int) (rest : List QueueItem)
  | serving
  | awaiting
  | replying (ack : Ack)
  | left
  deriving DecidableEq, Repr

namespace Session

/-- Drained items still to be pushed. -/
def hand : Session → List QueueItem
  | .drained _ items => items
  | .registering _ rest false => rest
  | _ => []

/-- Undelivered items still to be re-persisted. -/
def tail : Session → List QueueItem
  | .registering _ rest true => rest
  | .requeueing _ rest => rest
  | _ => []

/-- Whether a `Register` call is in progress. -/
def inRegister : Session → Bool
  | .opened | .starting _ | .drained _ _ | .registering _ _ _ | .requeueing _ _ => true
  | _ => false

/-- Outside `Register` nothing drained is held. -/
theorem held_of_not_inRegister {session : Session} (outside : session.inRegister = false) :
    session.hand = [] ∧ session.tail = [] := by
  cases session with
  | opened | starting | drained | registering | requeueing => cases outside
  | serving | awaiting | replying | left => exact ⟨rfl, rfl⟩

end Session

inductive Pump where
  | ready
  | writing (frame : Frame)
  | stopped
  deriving DecidableEq, Repr

namespace Pump

def inFlight : Pump → Option Frame
  | .writing frame => some frame
  | _ => none

@[simp] theorem inFlight_ready : Pump.ready.inFlight = none := rfl

@[simp] theorem inFlight_writing (frame : Frame) :
    (Pump.writing frame).inFlight = some frame := rfl

@[simp] theorem inFlight_stopped : Pump.stopped.inFlight = none := rfl

end Pump

structure Connection where
  client : Client
  session : Session
  pump : Pump
  deriving DecidableEq, Repr

/-! ## The admin monitor -/

structure MonitorEvent where
  ts : String
  origin : String
  pool : String
  kind : String
  mime : String
  size : Int
  preview : String
  blobID : String
  e2e : Bool
  deriving DecidableEq, Repr

structure Monitor where
  recent : List MonitorEvent
  subs : OrderedMap Nat (List MonitorEvent)
  seq : Nat

namespace Monitor

def empty : Monitor := ⟨[], .empty, 0⟩

/-- Append to the ring of 50 and to every subscriber whose 64-slot channel has
room. -/
def publish (monitor : Monitor) (event : MonitorEvent) : Monitor :=
  let recent := monitor.recent ++ [event]
  { monitor with
    recent := recent.drop (recent.length - 50)
    subs := monitor.subs.mapValues fun unread =>
      if unread.length < 64 then unread ++ [event] else unread }

end Monitor

/-! ## Hub and process -/

structure BlobACL where
  origin : DeviceID
  allowed : List DeviceID
  deriving DecidableEq, Repr

structure Hub where
  settings : RuntimeSettings
  clients : OrderedMap DeviceID ConnID
  onDemand : OrderedMap BlobID DeviceID
  blobACL : OrderedMap BlobID BlobACL
  monitor : Monitor

/-- What the process is started with. -/
structure Env where
  lib : Library
  hasher : TokenHasher
  serverID : String
  serverName : String

structure Daemon where
  store : Store
  hub : Hub
  connections : List Connection

/-- A fresh process on an existing store: `hub.New` primes the settings
snapshot. -/
def Daemon.boot (store : Store) : Daemon where
  store
  hub :=
    { settings := store.getSettings
      clients := .empty
      onDemand := .empty
      blobACL := .empty
      monitor := .empty }
  connections := []

/-! ## Pools, names and targets -/

/-- Normalize an empty pool to `"default"`. -/
def poolName (pool : String) : String := if pool = "" then "default" else pool

def poolOf (store : Store) (id : DeviceID) : String :=
  match store.getDevice id with
  | some device => poolName device.pool
  | none => "default"

def deviceName (store : Store) (id : DeviceID) : String :=
  match store.getDevice id with
  | some device => if device.name ≠ "" then device.name else id
  | none => id

/-- Configured pools and pools in use, each once, `"default"` first. -/
def availablePools (store : Store) (settings : RuntimeSettings) : List String :=
  let names := "default" :: settings.pools ++ store.listDevices.map (·.pool)
  (names.map poolName).foldl (fun seen pool => if pool ∈ seen then seen else seen ++ [pool]) []

def resolveTargets (store : Store) (event : ClipEvent) : List Device :=
  if event.targets.broadcast then store.listDevices
  else if event.targets.all then
    store.listDevices.filter fun device =>
      poolName device.pool = poolOf store event.originDevice
  else (event.targets.devices.getD []).filterMap store.getDevice

/-- Cut a text to `n` characters, marking the cut. -/
def truncate (text : String) (n : Nat) : String :=
  if text.toList.length ≤ n then text else String.ofList (text.toList.take n) ++ "…"

/-- The monitor record of a clip: a preview only when neither the clip nor the
server is end-to-end encrypted. -/
def monitorEvent (store : Store) (event : ClipEvent) (e2eEnforced : Bool) : MonitorEvent :=
  let e2e := event.enc.isSome || e2eEnforced
  let mime := (event.mime.getD []).headD ""
  let record : MonitorEvent :=
    { ts := event.ts
      origin := deviceName store event.originDevice
      pool := poolOf store event.originDevice
      kind := "text"
      mime
      size := event.size
      preview := ""
      blobID := ""
      e2e }
  if event.inlineText ≠ "" then
    { record with
      preview := if e2e then "🔒 (E2E ciphertext)" else truncate event.inlineText 16384 }
  else if event.blobID ≠ "" then
    { record with
      kind := if "image/".toList.isPrefixOf mime.toList then "image" else "file"
      preview := event.name
      blobID := if e2e then "" else event.blobID }
  else record

end CopySync.Server
