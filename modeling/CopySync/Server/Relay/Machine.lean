import CopySync.Foundation.Transition
import CopySync.Server.Blob.Path
import CopySync.Server.Hub.Handlers

/-!
# The relay as a transition system

One state holds the process, the handler the hub's goroutine is executing, and the
requests of other goroutines that are between two of their own steps.  An action is
one atomic step of one goroutine: a store transaction, a frame put into or taken
from a channel, one iteration of a handler's loop.  Runs of the system are all
interleavings of such steps.

The log is not part of the program.  It records, in order, the facts that the
properties of the relay speak about.
-/

namespace CopySync.Server

open Foundation

/-- What the hub's goroutine is doing. -/
inductive Task where
  | idle
  | admitted (source : Option ConnID) (event : ClipEvent) (settings : RuntimeSettings)
  | routing (source : Option ConnID) (event : ClipEvent) (settings : RuntimeSettings)
      (rest : List Device) (progress : Daemon.RouteProgress)
  | registering (conn : ConnID)
  | repooling (device : Device) (pool : String)
  deriving DecidableEq, Repr

/-- What can happen to a clip on its way to a device.  `accepted` is the decision of
`handleRoute` to deliver or queue it; `pushed` and `stored` are the clip entering a
send channel and an offline queue; `failed` is a socket write that returned an
error; `discarded` covers the depth trim, the queue TTL and the deletion of the
queue with its device. -/
inductive Stage where
  | accepted
  | pushed
  | stored
  | written
  | failed
  | discarded
  deriving DecidableEq, Repr

/-- Facts of a run. -/
inductive Fact where
  | routed (event : ClipEvent) (targets : List Device) (claimed : Bool)
  | clip (stage : Stage) (id : DeviceID) (event : ClipEvent)
  | deleted (id : DeviceID)
  | collected (id : BlobID)
  deriving DecidableEq, Repr

/-- The process with the requests in progress outside the hub: deletions that still
have to evict, settings read from the store but not yet cached, and broadcasts that
passed their check. -/
structure Relay where
  daemon : Daemon
  task : Task
  deleting : List DeviceID
  refreshing : List RuntimeSettings
  broadcasting : List ClipEvent
  log : List Fact

inductive Action where
  -- the serving goroutine of a connection
  | connect (id : DeviceID) (token : String)
  | readSettings (conn : ConnID)
  | drain (conn : ConnID)
  | requeue (conn : ConnID)
  | registerReturn (conn : ConnID)
  | sendToken (conn : ConnID) (token : String)
  | ack (conn : ConnID)
  -- the hub
  | registerStart (conn : ConnID) (now : Time)
  | registerDeliver
  | registerFinish
  | unregister (conn : ConnID) (now : Time)
  | receiveClip (conn : ConnID) (event : ClipEvent) (now : Time)
  | routeBroadcast (index : Nat)
  | routePrepare (now : Time)
  | routeDeliver (now : Time)
  | routeFinish
  | setPool (conn : ConnID) (pool : String)
  | storePool
  | requestBlob (id : BlobID)
  | evict (id : DeviceID)
  -- the write pump of a connection
  | takeFrame (conn : ConnID)
  | wroteFrame (conn : ConnID)
  | writeError (conn : ConnID)
  | stopPump (conn : ConnID)
  -- administration, pairing, housekeeping and the blob channel
  | deleteDevice (id : DeviceID)
  | putSettings (settings : RuntimeSettings)
  | loadSettings
  | refreshSettings (index : Nat)
  | broadcast (id text : String) (now : Time)
  | putPairing (code : PairingCode)
  | purgePairing (now : Time)
  | claimPairing (code suffix name platform token : String) (now : Time)
  | rotateToken (op : TokenOp)
  | purgeQueues (now : Time)
  | touchBlob (id : BlobID) (now : Time) (size : Int) (mime : String)
  | collectBlob (id : BlobID)

/-! ## Data built by the callers of the hub -/

/-- A clip as the read pump hands it to the hub: authenticated origin, stamped when
the client sent no time, and never a broadcast. -/
def ClipEvent.received (lib : Library) (event : ClipEvent) (origin : DeviceID) (now : Time) :
    ClipEvent :=
  { event with
    originDevice := origin
    ts := if event.ts = "" then lib.formatRFC3339 now else event.ts
    targets := { event.targets with broadcast := false } }

/-- The clip `handleBroadcast` routes. -/
def ClipEvent.broadcastOf (lib : Library) (id text : String) (now : Time) : ClipEvent where
  id
  originDevice := "server"
  seq := 0
  ts := lib.formatRFC3339 now
  mime := some ["text/plain"]
  inlineText := text
  html := ""
  blobID := ""
  name := ""
  onDemand := false
  size := (bytesOf text).length
  sha256 := lib.sha256Hex text
  targets := ⟨false, true, none⟩
  enc := none

/-- The device `handlePairClaim` creates; its id is minted by `NewID("dev")`. -/
def Device.paired (suffix name platform : String) (now : Time) : Device where
  id := "dev_" ++ suffix
  name
  platform
  pool := ""
  createdAt := now
  lastSeenAt := now
  revoked := false

namespace Relay

def boot (store : Store) : Relay where
  daemon := .boot store
  task := .idle
  deleting := []
  refreshing := []
  broadcasting := []
  log := []

/-- Append facts to the log. -/
def record (relay : Relay) (facts : List Fact) : Relay :=
  { relay with log := relay.log ++ facts }

def connection? (relay : Relay) (conn : ConnID) : Option Connection :=
  relay.daemon.connections[conn]?

def setConnection (relay : Relay) (conn : ConnID) (connection : Connection) : Relay :=
  { relay with
    daemon := { relay.daemon with
      connections := relay.daemon.connections.set conn connection } }

def setSession (relay : Relay) (conn : ConnID) (connection : Connection) (session : Session) :
    Relay :=
  relay.setConnection conn { connection with session }

/-- Queued events trimmed from the front. -/
def trimmedFacts (id : DeviceID) (items : List QueueItem) : List Fact :=
  items.map fun item => .clip .discarded id item.event

/-! ## Steps of a serving goroutine -/

/-- A connection authenticates: its client and write pump exist, nothing is
registered yet. -/
def connect (env : Env) (relay : Relay) (id : DeviceID) (token : String) : Option Relay :=
  (validate env.hasher relay.daemon.store id token).map fun device =>
    { relay with
      daemon := { relay.daemon with
        connections := relay.daemon.connections ++ [⟨.new device, .opened, .ready⟩] } }

def readSettings (relay : Relay) (conn : ConnID) : Option Relay :=
  match relay.connection? conn with
  | some connection =>
      match connection.session with
      | .opened =>
          some (relay.setSession conn connection (.starting relay.daemon.hub.settings))
      | _ => none
  | none => none

def drain (relay : Relay) (conn : ConnID) : Option Relay :=
  match relay.connection? conn with
  | some connection =>
      match connection.session with
      | .starting settings =>
          let (store, items) := relay.daemon.store.drainQueue connection.client.device.id
          some ({ relay with daemon := { relay.daemon with store } }.setSession conn connection
            (.drained settings items))
      | _ => none
  | none => none

/-- Re-persist the next undelivered item. -/
def requeue (relay : Relay) (conn : ConnID) : Option Relay :=
  match relay.connection? conn with
  | some connection =>
      match connection.session with
      | .requeueing depth (item :: rest) =>
          let id := connection.client.device.id
          let queue := relay.daemon.store.queueOf id
          let (store, trimmed) := relay.daemon.store.enqueue id item depth
          some (({ relay with daemon := { relay.daemon with store } }.setSession conn connection
            (.requeueing depth rest)).record
              (.clip .stored id item.event :: trimmedFacts id ((queue ++ [item]).take trimmed)))
      | _ => none
  | none => none

/-- `Register` returns. -/
def registerReturn (relay : Relay) (conn : ConnID) : Option Relay :=
  match relay.connection? conn with
  | some connection =>
      match connection.session with
      | .requeueing _ [] => some (relay.setSession conn connection .serving)
      | _ => none
  | none => none

/-- A frame the serving goroutine itself puts into the channel. -/
def sendToken (relay : Relay) (conn : ConnID) (token : String) : Option Relay :=
  match relay.connection? conn with
  | some connection =>
      match connection.session with
      | .serving =>
          some { relay with daemon := (relay.daemon.push conn (.tokenRotate token)).1 }
      | _ => none
  | none => none

def ack (relay : Relay) (conn : ConnID) : Option Relay :=
  match relay.connection? conn with
  | some connection =>
      match connection.session with
      | .replying payload =>
          let replied := relay.setSession conn connection .serving
          some { replied with daemon := (replied.daemon.push conn (.ack payload)).1 }
      | _ => none
  | none => none

/-! ## Steps of the hub -/

/-- The hub takes a registration whose queue has been drained. -/
def registerStart (env : Env) (relay : Relay) (conn : ConnID) (now : Time) : Option Relay :=
  match relay.task, relay.connection? conn with
  | .idle, some connection =>
      match connection.session with
      | .drained settings items =>
          let begun := relay.setSession conn connection (.registering settings items false)
          some { begun with
            daemon := begun.daemon.enroll env conn connection.client.device settings now
            task := .registering conn }
      | _ => none
  | _, _ => none

/-- Push the next drained frame; the first one that does not fit ends the loop. -/
def registerDeliver (relay : Relay) : Option Relay :=
  match relay.task with
  | .registering conn =>
      match relay.connection? conn with
      | some connection =>
          match connection.session with
          | .registering settings (item :: rest) false =>
              let (client, fitted) := connection.client.enqueue (.clip item.event)
              if fitted then
                some ((relay.setConnection conn
                  { connection with client, session := .registering settings rest false }).record
                    [.clip .pushed connection.client.device.id item.event])
              else
                some (relay.setSession conn connection
                  (.registering settings (item :: rest) true))
          | _ => none
      | none => none
  | _ => none

/-- Announce the device and hand the undelivered tail back. -/
def registerFinish (relay : Relay) : Option Relay :=
  match relay.task with
  | .registering conn =>
      match relay.connection? conn with
      | some connection =>
          let device := connection.client.device
          match connection.session with
          | .registering settings rest full =>
              if full ∨ rest = [] then
                let ended := relay.setSession conn connection
                  (.requeueing settings.queueDepthPerDevice rest)
                some { ended with
                  daemon := ended.daemon.broadcastPresence device true device.id
                  task := .idle }
              else none
          | _ => none
      | none => none
  | _ => none

/-- The read pump has ended and the deferred `Unregister` reaches the hub. -/
def unregister (relay : Relay) (conn : ConnID) (now : Time) : Option Relay :=
  match relay.task, relay.connection? conn with
  | .idle, some connection =>
      match connection.session with
      | .serving =>
          let gone := relay.setSession conn connection .left
          some { gone with
            daemon := gone.daemon.handleUnregister conn connection.client.device now }
      | _ => none
  | _, _ => none

/-- A clip frame reaches the hub: load the settings snapshot and refuse plaintext
under enforced encryption, or start routing while the read pump waits. -/
def receiveClip (env : Env) (relay : Relay) (conn : ConnID) (event : ClipEvent) (now : Time) :
    Option Relay :=
  match relay.task, relay.connection? conn with
  | .idle, some connection =>
      match connection.session with
      | .serving =>
          let received := event.received env.lib connection.client.device.id now
          let settings := relay.daemon.hub.settings
          if Daemon.refuses settings received then
            some (relay.setSession conn connection (.replying ⟨received.id, .rejected, []⟩))
          else
            some { relay.setSession conn connection .awaiting with
              task := .admitted (some conn) received settings }
      | _ => none
  | _, _ => none

/-- A broadcast that passed its own check reaches the hub. -/
def routeBroadcast (relay : Relay) (index : Nat) : Option Relay :=
  match relay.task, relay.broadcasting[index]? with
  | .idle, some event =>
      let settings := relay.daemon.hub.settings
      let taken := { relay with broadcasting := relay.broadcasting.eraseIdx index }
      if Daemon.refuses settings event then some taken
      else some { taken with task := .admitted none event settings }
  | _, _ => none

/-- Whether the claim of a clip on its blob is recorded. -/
def claims (relay : Relay) (event : ClipEvent) : Bool :=
  decide (event.blobID ≠ "") && relay.daemon.hub.claimOK event

def routePrepare (env : Env) (relay : Relay) (now : Time) : Option Relay :=
  match relay.task with
  | .admitted source event settings =>
      let (daemon, targets) := relay.daemon.prepareRoute env event settings now
      some ({ relay with
        daemon
        task := .routing source event settings targets ⟨[], false⟩ }.record
          [.routed event targets (relay.claims event)])
  | _ => none

/-- Facts of serving one target. -/
def deliveryFacts (relay : Relay) (event : ClipEvent) (now : Time) (target : DeviceID) :
    Daemon.Delivery → List Fact
  | .skipped => []
  | .relayed _ => [.clip .accepted target event.wire, .clip .pushed target event.wire]
  | .queued trimmed =>
      .clip .accepted target event.wire :: .clip .stored target event.wire ::
        trimmedFacts target
          ((relay.daemon.store.queueOf target ++ [(⟨event.wire, now⟩ : QueueItem)]).take trimmed)

def routeDeliver (relay : Relay) (now : Time) : Option Relay :=
  match relay.task with
  | .routing source event settings (target :: rest) progress =>
      let (daemon, delivery) :=
        relay.daemon.deliverTo event settings.queueDepthPerDevice now target
      some ({ relay with
        daemon
        task := .routing source event settings rest (progress.record target.id delivery) }.record
          (relay.deliveryFacts event now target.id delivery))
  | _ => none

/-- The loop is done; the waiting read pump gets the result. -/
def routeFinish (relay : Relay) : Option Relay :=
  match relay.task with
  | .routing source event _ [] progress =>
      let finished := { relay with task := .idle }
      match source with
      | none => some finished
      | some conn =>
          match relay.connection? conn with
          | none => some finished
          | some connection =>
              match connection.session with
              | .awaiting =>
                  let result := progress.result
                  some (finished.setSession conn connection
                    (.replying ⟨event.id, result.status, result.queuedFor⟩))
              | _ => some finished
  | _ => none

/-- `set_pool`: the transaction that reads the device. -/
def setPool (relay : Relay) (conn : ConnID) (pool : String) : Option Relay :=
  match relay.task, relay.connection? conn with
  | .idle, some connection =>
      match connection.session with
      | .serving =>
          match relay.daemon.store.getDevice connection.client.device.id with
          | none => some relay
          | some device =>
              if poolName device.pool = poolName pool then some relay
              else some { relay with task := .repooling device (poolName pool) }
      | _ => none
  | _, _ => none

def storePool (env : Env) (relay : Relay) : Option Relay :=
  match relay.task with
  | .repooling device pool =>
      some { relay with daemon := relay.daemon.storePool env device pool, task := .idle }
  | _ => none

def requestBlob (relay : Relay) (id : BlobID) : Option Relay :=
  match relay.task with
  | .idle => some { relay with daemon := (relay.daemon.handleBlobRequest id).1 }
  | _ => none

/-- The second half of `handleDeleteDevice`. -/
def evict (relay : Relay) (id : DeviceID) : Option Relay :=
  match relay.task with
  | .idle =>
      if id ∈ relay.deleting then
        some { relay with
          daemon := relay.daemon.handleEvict id
          deleting := relay.deleting.erase id }
      else none
  | _ => none

/-! ## Steps of a write pump -/

def takeFrame (relay : Relay) (conn : ConnID) : Option Relay :=
  match relay.connection? conn with
  | some connection =>
      match connection.pump, connection.client.send with
      | .ready, frame :: rest =>
          some (relay.setConnection conn
            { connection with
              client := { connection.client with send := rest }
              pump := .writing frame })
      | _, _ => none
  | none => none

/-- A fact about the clip in a frame, if it carries one. -/
def clipFact (stage : Stage) (id : DeviceID) (frame : Frame) : List Fact :=
  (frame.clip?.map (Fact.clip stage id)).toList

def wroteFrame (relay : Relay) (conn : ConnID) : Option Relay :=
  match relay.connection? conn with
  | some connection =>
      match connection.pump with
      | .writing frame =>
          some ((relay.setConnection conn { connection with pump := .ready }).record
            (clipFact .written connection.client.device.id frame))
      | _ => none
  | none => none

def writeError (relay : Relay) (conn : ConnID) : Option Relay :=
  match relay.connection? conn with
  | some connection =>
      match connection.pump with
      | .writing frame =>
          some ((relay.setConnection conn { connection with pump := .stopped }).record
            (clipFact .failed connection.client.device.id frame))
      | _ => none
  | none => none

/-- The pump sees the close flag, or the context that ends with the serving
goroutine. -/
def stopPump (relay : Relay) (conn : ConnID) : Option Relay :=
  match relay.connection? conn with
  | some connection =>
      if connection.pump = .ready ∧
          (connection.client.closeReason.isSome ∨ connection.session = .left) then
        some (relay.setConnection conn { connection with pump := .stopped })
      else none
  | none => none

/-! ## Administration, pairing, housekeeping and the blob channel -/

def withStore (relay : Relay) (store : Store) : Relay :=
  { relay with daemon := { relay.daemon with store } }

/-- The first half of `handleDeleteDevice`. -/
def deleteDevice (env : Env) (relay : Relay) (id : DeviceID) : Relay :=
  { (relay.withStore (relay.daemon.store.deleteDevice env.lib id)).record
      (.deleted id :: trimmedFacts id (relay.daemon.store.queueOf id)) with
    deleting := id :: relay.deleting }

def refreshSettings (relay : Relay) (index : Nat) : Option Relay :=
  match relay.refreshing[index]? with
  | none => none
  | some settings =>
      some { relay with
        daemon := { relay.daemon with hub := { relay.daemon.hub with settings } }
        refreshing := relay.refreshing.eraseIdx index }

def broadcast (env : Env) (relay : Relay) (id text : String) (now : Time) : Option Relay :=
  let settings := relay.daemon.store.getSettings
  if settings.e2eEnabled ∨ !settings.allowServerBroadcast ∨ text = "" then none
  else
    some { relay with
      broadcasting := relay.broadcasting ++ [ClipEvent.broadcastOf env.lib id text now] }

def claimPairing (env : Env) (relay : Relay) (code suffix name platform token : String)
    (now : Time) : Option Relay :=
  if code = "" ∨ name = "" then none
  else
    some (relay.withStore (TokenOp.apply env.lib relay.daemon.store
      (.claimPairing code now (.paired suffix name platform now) (env.hasher.hashToken token))))

/-- The transactions of token rotation; pairing and deletion have steps of their
own. -/
def rotateToken (env : Env) (relay : Relay) (op : TokenOp) : Option Relay :=
  match op with
  | .rotateToken .. | .reissuePendingToken .. | .retireOldToken .. =>
      some (relay.withStore (op.apply env.lib relay.daemon.store))
  | _ => none

/-- Queue housekeeping; every expired item is discarded. -/
def purgeQueues (relay : Relay) (now : Time) : Relay :=
  let store := relay.daemon.store
  let ttl := Duration.ofSeconds store.getSettings.queueItemTTLSeconds
  let facts := store.queues.entries.flatMap fun entry =>
    trimmedFacts entry.1
      (entry.2.items.values.filter fun item => !(ttl ≤ 0 || !Store.expiredItem now ttl item))
  (relay.withStore (store.purgeExpiredQueueItems now ttl).1).record facts

/-- The metadata write of a stored upload or a served download; both endpoints
refuse malformed ids. -/
def touchBlob (relay : Relay) (id : BlobID) (now : Time) (size : Int) (mime : String) :
    Option Relay :=
  if validID id then some (relay.withStore (relay.daemon.store.touchBlob id now size mime))
  else none

/-- One metadata deletion of a collector pass. -/
def collectBlob (relay : Relay) (id : BlobID) : Relay :=
  (relay.withStore (relay.daemon.store.deleteBlobEntry id)).record [.collected id]

def step (env : Env) (relay : Relay) : Action → Option Relay
  | .connect id token => relay.connect env id token
  | .readSettings conn => relay.readSettings conn
  | .drain conn => relay.drain conn
  | .requeue conn => relay.requeue conn
  | .registerReturn conn => relay.registerReturn conn
  | .sendToken conn token => relay.sendToken conn token
  | .ack conn => relay.ack conn
  | .registerStart conn now => relay.registerStart env conn now
  | .registerDeliver => relay.registerDeliver
  | .registerFinish => relay.registerFinish
  | .unregister conn now => relay.unregister conn now
  | .receiveClip conn event now => relay.receiveClip env conn event now
  | .routeBroadcast index => relay.routeBroadcast index
  | .routePrepare now => relay.routePrepare env now
  | .routeDeliver now => relay.routeDeliver now
  | .routeFinish => relay.routeFinish
  | .setPool conn pool => relay.setPool conn pool
  | .storePool => relay.storePool env
  | .requestBlob id => relay.requestBlob id
  | .evict id => relay.evict id
  | .takeFrame conn => relay.takeFrame conn
  | .wroteFrame conn => relay.wroteFrame conn
  | .writeError conn => relay.writeError conn
  | .stopPump conn => relay.stopPump conn
  | .deleteDevice id => some (relay.deleteDevice env id)
  | .putSettings settings =>
      some (relay.withStore (relay.daemon.store.putSettings settings))
  | .loadSettings =>
      some { relay with refreshing := relay.refreshing ++ [relay.daemon.store.getSettings] }
  | .refreshSettings index => relay.refreshSettings index
  | .broadcast id text now => relay.broadcast env id text now
  | .putPairing code => some (relay.withStore (relay.daemon.store.putPairing code))
  | .purgePairing now => some (relay.withStore (relay.daemon.store.purgePairing now))
  | .claimPairing code suffix name platform token now =>
      relay.claimPairing env code suffix name platform token now
  | .rotateToken op => relay.rotateToken env op
  | .purgeQueues now => some (relay.purgeQueues now)
  | .touchBlob id now size mime => relay.touchBlob id now size mime
  | .collectBlob id => some (relay.collectBlob id)

/-- The process ends and starts again: only the store survives. -/
def restart (relay : Relay) : Relay := { boot relay.daemon.store with log := relay.log }

/-- Steps of a server over several processes; no action is a restart. -/
def life (env : Env) (relay : Relay) : Option Action → Option Relay
  | some action => relay.step env action
  | none => some relay.restart

end Relay

/-! ## Action sequences for concrete runs -/

/-- A process with trivial library functions. -/
def demoEnv : Env := ⟨plainLibrary, tagHasher, "srv_demo", "home"⟩

/-- A text clip for the sender's pool. -/
def ClipEvent.text (id text : String) : ClipEvent where
  id
  originDevice := ""
  seq := 0
  ts := "now"
  mime := some ["text/plain"]
  inlineText := text
  html := ""
  blobID := ""
  name := ""
  onDemand := false
  size := 0
  sha256 := ""
  targets := ⟨true, false, none⟩
  enc := none

/-- A clip that carries a blob, for the given devices. -/
def ClipEvent.sharing (id : String) (blob : BlobID) (recipients : List DeviceID) : ClipEvent :=
  { ClipEvent.text id "" with blobID := blob, targets := ⟨false, false, some recipients⟩ }

namespace Action

/-- Pair a device under the id `dev_` with the given suffix, which also serves as
its pairing code and token. -/
def pair (suffix name : String) : List Action :=
  [.putPairing ⟨suffix, 0, 1000, none⟩, .claimPairing suffix suffix name "linux" suffix 1]

/-- Connect a device whose queue is empty and let `Register` return. -/
def bringUp (suffix : String) (conn : ConnID) : List Action :=
  [.connect ("dev_" ++ suffix) suffix, .readSettings conn, .drain conn, .registerStart conn 1,
    .registerFinish, .registerReturn conn]

/-- Two devices `a` and `b` are paired and connected, as connections 0 and 1. -/
def bothUp : List Action :=
  pair "a" "laptop" ++ pair "b" "phone" ++ bringUp "a" 0 ++ bringUp "b" 1

/-- Route a clip that resolves to the given number of targets. -/
def sendClip (conn : ConnID) (event : ClipEvent) (targets : Nat) : List Action :=
  [.receiveClip conn event 2, .routePrepare 2] ++
    List.replicate targets (.routeDeliver 2) ++ [.routeFinish, .ack conn]

end Action

end CopySync.Server
