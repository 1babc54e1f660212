import CopySync.Server.Hub.Basic

/-!
# Handlers of the hub

Every handler runs on the hub's goroutine.  Those that other goroutines can
interleave with (routing and registration push frame by frame while write pumps
take frames, and write the store record by record) are given in the pieces between
which such steps can fall; `handleRoute` and `handleRegister` put the pieces
together.
-/

namespace CopySync.Server

open Foundation

namespace Daemon

/-! ## Frames and presence -/

/-- `Client.Enqueue` on a connection's client. -/
def push (daemon : Daemon) (conn : ConnID) (frame : Frame) : Daemon × Bool :=
  match daemon.connections[conn]? with
  | none => (daemon, false)
  | some connection =>
      let (client, fitted) := connection.client.enqueue frame
      ({ daemon with
          connections := daemon.connections.set conn { connection with client } }, fitted)

/-- `Client.Close` on a connection's client. -/
def close (daemon : Daemon) (conn : ConnID) (reason : String) : Daemon :=
  match daemon.connections[conn]? with
  | none => daemon
  | some connection =>
      { daemon with
        connections := daemon.connections.set conn
          { connection with client := connection.client.close reason } }

def online (daemon : Daemon) (id : DeviceID) : Bool := daemon.hub.clients.contains id

/-- The roster with online flags. -/
def snapshot (daemon : Daemon) : List DeviceInfo :=
  daemon.store.listDevices.map fun device => ⟨device, daemon.online device.id⟩

/-- Push a presence frame to every registered client but one. -/
def broadcastPresence (daemon : Daemon) (device : Device) (online : Bool)
    (exclude : DeviceID) : Daemon :=
  daemon.hub.clients.entries.foldl
    (fun current entry =>
      if entry.1 = exclude then current
      else (current.push entry.2 (.presence ⟨device, online⟩)).1)
    daemon

def publishMonitor (daemon : Daemon) (event : ClipEvent) (e2eEnforced : Bool) : Daemon :=
  { daemon with
    hub := { daemon.hub with
      monitor := daemon.hub.monitor.publish (monitorEvent daemon.store event e2eEnforced) } }

end Daemon

/-! ## Blob bookkeeping -/

namespace Hub

/-- Drop the on-demand holdings of a device with their access lists, and every
other access list it originated. -/
def pruneOnDemand (hub : Hub) (id : DeviceID) : Hub :=
  { hub with
    onDemand := hub.onDemand.filter fun _ holder => decide (holder ≠ id)
    blobACL := hub.blobACL.filter fun blobID acl =>
      decide (hub.onDemand.get? blobID ≠ some id ∧ acl.origin ≠ id) }

/-- A blob claimed by a different origin that is still connected keeps its
claim. -/
def claimOK (hub : Hub) (event : ClipEvent) : Bool :=
  match hub.blobACL.get? event.blobID with
  | some current =>
      !(decide (current.origin ≠ event.originDevice) && hub.clients.contains current.origin)
  | none => true

end Hub

def addAllowed (allowed : List DeviceID) (id : DeviceID) : List DeviceID :=
  if id ∈ allowed then allowed else allowed ++ [id]

/-- Origin and targets of a clip, each once. -/
def allowedList (event : ClipEvent) (targets : List Device) : List DeviceID :=
  (targets.map (·.id)).foldl addAllowed (addAllowed [] event.originDevice)

namespace Daemon

/-- Record the recipients of an accepted claim in memory and on the blob's record,
and the holder of an on-demand blob. -/
def claimBlob (daemon : Daemon) (event : ClipEvent) (targets : List Device) : Daemon :=
  if event.blobID ≠ "" ∧ daemon.hub.claimOK event then
    let allowed := allowedList event targets
    { daemon with
      store := daemon.store.setBlobACL event.blobID event.originDevice allowed
      hub :=
        { daemon.hub with
          blobACL := daemon.hub.blobACL.put event.blobID ⟨event.originDevice, allowed⟩
          onDemand :=
            if event.onDemand then daemon.hub.onDemand.put event.blobID event.originDevice
            else daemon.hub.onDemand } }
  else daemon

end Daemon

/-- Which authorization a blob-channel request needs. -/
inductive BlobAuthMode where
  | fetch
  | supply
  deriving DecidableEq, Repr

namespace Daemon

def handleBlobAuth (daemon : Daemon) (id : BlobID) (dev : DeviceID) : BlobAuthMode → Bool
  | .supply =>
      match daemon.hub.onDemand.get? id with
      | some origin => decide (origin = dev)
      | none => true
  | .fetch =>
      match daemon.hub.blobACL.get? id with
      | some acl => decide (dev ∈ acl.allowed)
      | none =>
          match daemon.hub.onDemand.get? id with
          | none => false
          | some origin => decide (poolOf daemon.store origin = poolOf daemon.store dev)

/-- The fallback of `handleBlobGet`: the access list persisted on the record. -/
def persistedAuth (daemon : Daemon) (id : BlobID) (dev : DeviceID) : Bool :=
  match daemon.store.getBlobEntry id with
  | some entry => decide (dev = entry.origin ∨ dev ∈ entry.allowed)
  | none => false

/-- Authorization of `GET /blob/{id}`. -/
def authorizedFetch (daemon : Daemon) (id : BlobID) (dev : DeviceID) : Bool :=
  daemon.handleBlobAuth id dev .fetch || daemon.persistedAuth id dev

/-- Ask the holder of an on-demand blob to upload it; reports whether the request
was queued. -/
def handleBlobRequest (daemon : Daemon) (id : BlobID) : Daemon × Bool :=
  match daemon.hub.onDemand.get? id with
  | none => (daemon, false)
  | some origin =>
      match daemon.hub.clients.get? origin with
      | none => (daemon, false)
      | some conn => daemon.push conn (.blobRequest id)

/-! ## Routing -/

/-- How one target of a route was served. -/
inductive Delivery where
  | skipped
  | relayed (conn : ConnID)
  | queued (trimmed : Nat)
  deriving DecidableEq, Repr

/-- Append a clip to a device's offline queue. -/
def enqueue (daemon : Daemon) (id : DeviceID) (event : ClipEvent) (depth : Int) (now : Time) :
    Daemon × Nat :=
  let (store, trimmed) := daemon.store.enqueue id ⟨event.wire, now⟩ depth
  ({ daemon with store }, trimmed)

/-- Disconnect a client whose send buffer is full. -/
def evictSlow (daemon : Daemon) (id : DeviceID) (conn : ConnID) : Daemon :=
  let closed := daemon.close conn "send buffer full"
  { closed with
    hub := { closed.hub with clients := closed.hub.clients.erase id }.pruneOnDemand id }

/-- One iteration of the delivery loop: never echo to the origin, push to a
connected client, and queue for a device that is offline or too slow. -/
def deliverTo (daemon : Daemon) (event : ClipEvent) (depth : Int) (now : Time)
    (target : Device) : Daemon × Delivery :=
  if target.id = event.originDevice then (daemon, .skipped)
  else
    match daemon.hub.clients.get? target.id with
    | some conn =>
        let (pushed, fitted) := daemon.push conn (.clip event.wire)
        if fitted then (pushed, .relayed conn)
        else
          let (queued, trimmed) :=
            (daemon.evictSlow target.id conn).enqueue target.id event depth now
          (queued, .queued trimmed)
    | none =>
        let (queued, trimmed) := daemon.enqueue target.id event depth now
        (queued, .queued trimmed)

/-- Whether enforced end-to-end encryption refuses a clip on ingest. -/
def refuses (settings : RuntimeSettings) (event : ClipEvent) : Bool :=
  settings.e2eEnabled && event.isPlaintext

/-- What `handleRoute` does between the ingest check and the delivery loop. -/
def prepareRoute (env : Env) (daemon : Daemon) (event : ClipEvent)
    (settings : RuntimeSettings) (now : Time) : Daemon × List Device :=
  let published := daemon.publishMonitor event settings.e2eEnabled
  let recorded :=
    { published with store := published.store.recordActivity env.lib now event.size }
  let targets := resolveTargets recorded.store event
  (recorded.claimBlob event targets, targets)

/-- Progress of the delivery loop. -/
structure RouteProgress where
  queuedFor : List DeviceID
  relayedAny : Bool
  deriving DecidableEq, Repr

def RouteProgress.record (progress : RouteProgress) (target : DeviceID) :
    Delivery → RouteProgress
  | .skipped => progress
  | .relayed _ => { progress with relayedAny := true }
  | .queued _ => { progress with queuedFor := progress.queuedFor ++ [target] }

structure RouteResult where
  status : AckStatus
  queuedFor : List DeviceID
  deriving DecidableEq, Repr

def RouteProgress.result (progress : RouteProgress) : RouteResult where
  status := if !progress.relayedAny && !progress.queuedFor.isEmpty then .queued else .relayed
  queuedFor := progress.queuedFor

/-- The delivery loop. -/
def deliverAll (event : ClipEvent) (depth : Int) (now : Time) :
    Daemon → RouteProgress → List Device → Daemon × RouteProgress
  | daemon, progress, [] => (daemon, progress)
  | daemon, progress, target :: rest =>
      let (served, delivery) := daemon.deliverTo event depth now target
      deliverAll event depth now served (progress.record target.id delivery) rest

def handleRoute (env : Env) (daemon : Daemon) (event : ClipEvent) (now : Time) :
    Daemon × RouteResult :=
  let settings := daemon.hub.settings
  if refuses settings event then (daemon, ⟨.rejected, []⟩)
  else
    let (prepared, targets) := daemon.prepareRoute env event settings now
    let (served, progress) :=
      deliverAll event settings.queueDepthPerDevice now prepared ⟨[], false⟩ targets
    (served, progress.result)

/-! ## Registration -/

def helloOK (env : Env) (daemon : Daemon) (settings : RuntimeSettings) (device : Device) :
    HelloOK where
  serverID := env.serverID
  serverName := env.serverName
  e2e := settings.e2eEnabled
  you := device
  roster := daemon.snapshot
  maxMsg := settings.maxMessageBytes
  blobCap := settings.blobMaxBytes
  onDemandThreshold := settings.onDemandThresholdBytes
  pools := availablePools daemon.store settings
  pool := poolName device.pool

/-- The start of `handleRegister`: replace an older connection of the device,
enter the registry and greet the client. -/
def enroll (env : Env) (daemon : Daemon) (conn : ConnID) (device : Device)
    (settings : RuntimeSettings) (now : Time) : Daemon :=
  let replaced := match daemon.hub.clients.get? device.id with
    | some old => daemon.close old "replaced by a newer connection"
    | none => daemon
  let entered :=
    { replaced with
      store := replaced.store.updateLastSeen device.id now
      hub := { replaced.hub with clients := replaced.hub.clients.put device.id conn } }
  (entered.push conn (.helloOK (entered.helloOK env settings device))).1

/-- A stale unregister, for a connection already replaced or evicted, does
nothing. -/
def handleUnregister (daemon : Daemon) (conn : ConnID) (device : Device) (now : Time) : Daemon :=
  if daemon.hub.clients.get? device.id = some conn then
    let removed :=
      { daemon with
        store := daemon.store.updateLastSeen device.id now
        hub := { daemon.hub with
          clients := daemon.hub.clients.erase device.id }.pruneOnDemand device.id }
    removed.broadcastPresence device false ""
  else daemon

/-- Tear down the connection of a deleted device. -/
def handleEvict (daemon : Daemon) (id : DeviceID) : Daemon :=
  match daemon.hub.clients.get? id with
  | none => daemon
  | some conn =>
      match daemon.connections[conn]? with
      | none => daemon
      | some connection =>
          let closed := daemon.close conn "device deleted"
          let removed :=
            { closed with
              hub := { closed.hub with clients := closed.hub.clients.erase id }.pruneOnDemand id }
          removed.broadcastPresence connection.client.device false ""

/-- The second transaction of `handleSetPool`, with the device read by the
first. -/
def storePool (env : Env) (daemon : Daemon) (device : Device) (pool : String) : Daemon :=
  let moved := { device with pool }
  let stored := { daemon with store := daemon.store.putDevice env.lib moved }
  let updated := match stored.hub.clients.get? device.id with
    | none => stored
    | some conn =>
        match stored.connections[conn]? with
        | none => stored
        | some connection =>
            { stored with
              connections := stored.connections.set conn
                { connection with
                  client := { connection.client with
                    device := { connection.client.device with pool } } } }
  updated.broadcastPresence moved true ""

end Daemon

end CopySync.Server
