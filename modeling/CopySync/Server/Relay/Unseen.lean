import CopySync.Foundation.Unwinding
import CopySync.Server.Hub.Monitor
import CopySync.Server.Relay.Blank

/-!
# What the admin monitor sees of encrypted clips

Two runs of the relay take the same steps on clips whose texts may differ where they are
encrypted or where encryption is enforced.  The monitor and its subscribers, the results of the
routes and the recorded activity are the same in both.
-/

namespace CopySync.Server

open Foundation

/-! ## The relay without texts -/

/-- The texts of an admitted clip are still shown to the monitor, and to nothing later. -/
def Task.blank : Task → Task
  | .admitted source event settings => .admitted source (event.shown settings.e2eEnabled) settings
  | .routing source event settings rest progress =>
      .routing source event.blank settings rest progress
  | task => task

def Fact.blank : Fact → Fact
  | .routed event targets claimed => .routed event.blank targets claimed
  | .clip stage id event => .clip stage id event.blank
  | fact => fact

namespace Relay

def blank (relay : Relay) : Relay where
  daemon := relay.daemon.blank
  task := relay.task.blank
  deleting := relay.deleting
  refreshing := relay.refreshing
  broadcasting := relay.broadcasting.map ClipEvent.veiled
  log := relay.log.map Fact.blank

variable (env : Env) (relay : Relay) (conn : ConnID)

theorem blank_connection? :
    relay.blank.connection? conn = (relay.connection? conn).map Connection.blank :=
  relay.daemon.blank_connection conn

theorem blank_task : relay.blank.task = relay.task.blank := rfl

theorem blank_setConnection (connection : Connection) :
    relay.blank.setConnection conn connection.blank =
      (relay.setConnection conn connection).blank := by
  simp only [setConnection, blank, Daemon.blank, List.map_set]

theorem blank_setSession (connection : Connection) (session : Session) :
    relay.blank.setSession conn connection.blank session.blank =
      (relay.setSession conn connection session).blank :=
  relay.blank_setConnection conn { connection with session }

theorem blank_record (facts : List Fact) :
    relay.blank.record (facts.map Fact.blank) = (relay.record facts).blank := by
  simp only [record, blank, List.map_append]

theorem blank_trimmedFacts (id : DeviceID) (items : List QueueItem) :
    trimmedFacts id (items.map QueueItem.blank) = (trimmedFacts id items).map Fact.blank := by
  simp only [trimmedFacts, List.map_map]
  rfl

theorem blank_withStore (store : Store) :
    relay.blank.withStore store.blank = (relay.withStore store).blank := rfl

/-! ## Serving goroutines -/

theorem blank_connect (id : DeviceID) (token : String) :
    relay.blank.connect env id token = (relay.connect env id token).map blank := by
  rw [connect, connect]
  change (validate env.hasher relay.daemon.store id token).map _ = _
  rw [Option.map_map]
  refine Option.map_congr fun device _ => ?_
  simp [blank, Daemon.blank]
  rfl

theorem blank_readSettings :
    relay.blank.readSettings conn = (relay.readSettings conn).map blank := by
  rw [readSettings, readSettings, blank_connection?]
  cases relay.connection? conn with
  | none => rfl
  | some connection =>
      obtain ⟨client, session, pump⟩ := connection
      cases session with
      | opened => 
          exact congrArg some (relay.blank_setSession conn ⟨client, .opened, pump⟩
            (.starting relay.daemon.hub.settings))
      | starting | drained | registering | requeueing | serving | awaiting | replying | left => rfl

theorem blank_drain : relay.blank.drain conn = (relay.drain conn).map blank := by
  rw [drain, drain, blank_connection?]
  cases relay.connection? conn with
  | none => rfl
  | some connection =>
      obtain ⟨client, session, pump⟩ := connection
      cases session with
      | starting settings =>
          have drained : relay.blank.daemon.store.drainQueue client.blank.device.id = _ :=
            relay.daemon.store.blank_drainQueue client.device.id
          simp only [Option.map_some, Connection.blank, Session.blank, drained]
          exact congrArg some (blank_setSession
            { relay with daemon := { relay.daemon with
                store := (relay.daemon.store.drainQueue client.device.id).1 } } conn
            ⟨client, .starting settings, pump⟩
            (.drained settings (relay.daemon.store.drainQueue client.device.id).2))
      | opened | drained | registering | requeueing | serving | awaiting | replying | left => rfl

theorem blank_requeue : relay.blank.requeue conn = (relay.requeue conn).map blank := by
  rw [requeue, requeue, blank_connection?]
  cases relay.connection? conn with
  | none => rfl
  | some connection =>
      obtain ⟨client, session, pump⟩ := connection
      cases session with
      | requeueing depth tail =>
          cases tail with
          | nil => rfl
          | cons item rest =>
              have stored :
                  relay.blank.daemon.store.enqueue client.blank.device.id item.blank depth = _ :=
                relay.daemon.store.blank_enqueue client.device.id item depth
              have queue : relay.blank.daemon.store.queueOf client.blank.device.id = _ :=
                relay.daemon.store.blank_queueOf client.device.id
              have facts (trimmed : Nat) :
                  Fact.clip .stored client.device.id item.blank.event ::
                      trimmedFacts client.device.id
                        (((relay.daemon.store.queueOf client.device.id).map QueueItem.blank ++
                          [item.blank]).take trimmed) =
                    (Fact.clip .stored client.device.id item.event ::
                      trimmedFacts client.device.id
                        ((relay.daemon.store.queueOf client.device.id ++ [item]).take
                          trimmed)).map Fact.blank := by
                rw [List.map_cons, ← blank_trimmedFacts, List.map_take, List.map_append]
                rfl
              simp only [Option.map_some, Connection.blank, Session.blank, List.map_cons, stored,
                queue, ← blank_record, ← blank_setSession]
              exact congrArg (fun facts => some (record _ facts)) (facts _)
      | opened | starting | drained | registering | serving | awaiting | replying | left => rfl

theorem blank_registerReturn :
    relay.blank.registerReturn conn = (relay.registerReturn conn).map blank := by
  rw [registerReturn, registerReturn, blank_connection?]
  cases relay.connection? conn with
  | none => rfl
  | some connection =>
      obtain ⟨client, session, pump⟩ := connection
      cases session with
      | requeueing depth tail =>
          cases tail with
          | nil =>
              exact congrArg some
                (relay.blank_setSession conn ⟨client, .requeueing depth [], pump⟩ .serving)
          | cons item rest => rfl
      | opened | starting | drained | registering | serving | awaiting | replying | left => rfl

theorem blank_sendToken (token : String) :
    relay.blank.sendToken conn token = (relay.sendToken conn token).map blank := by
  rw [sendToken, sendToken, blank_connection?]
  cases relay.connection? conn with
  | none => rfl
  | some connection =>
      obtain ⟨client, session, pump⟩ := connection
      cases session with
      | serving =>
          have pushed : relay.blank.daemon.push conn (.tokenRotate token) = _ :=
            relay.daemon.blank_push conn (.tokenRotate token)
          simp only [Option.map_some, Connection.blank, Session.blank, pushed]
          rfl
      | opened | starting | drained | registering | requeueing | awaiting | replying | left => rfl

theorem blank_ack : relay.blank.ack conn = (relay.ack conn).map blank := by
  rw [ack, ack, blank_connection?]
  cases relay.connection? conn with
  | none => rfl
  | some connection =>
      obtain ⟨client, session, pump⟩ := connection
      cases session with
      | replying payload =>
          have replied := relay.blank_setSession conn ⟨client, .replying payload, pump⟩ .serving
          have pushed := (relay.setSession conn ⟨client, .replying payload, pump⟩
            .serving).daemon.blank_push conn (.ack payload)
          simp only [Option.map_some, Connection.blank, Session.blank] at replied ⊢
          rw [replied]
          exact congrArg (fun result : Daemon × Bool => some
            { (relay.setSession conn ⟨client, .replying payload, pump⟩ .serving).blank with
              daemon := result.1 }) pushed
      | opened | starting | drained | registering | requeueing | serving | awaiting | left => rfl

/-! ## Registration -/

theorem blank_registerStart (now : Time) :
    relay.blank.registerStart env conn now = (relay.registerStart env conn now).map blank := by
  rw [registerStart, registerStart, blank_task, blank_connection?]
  cases relay.task with
  | idle =>
      cases relay.connection? conn with
      | none => rfl
      | some connection =>
          obtain ⟨client, session, pump⟩ := connection
          cases session with
          | drained settings items =>
              have begun := relay.blank_setSession conn ⟨client, .drained settings items, pump⟩
                (.registering settings items false)
              have enrolled := (relay.setSession conn ⟨client, .drained settings items, pump⟩
                (.registering settings items false)).daemon.blank_enroll conn env client.device
                  settings now
              simp only [Option.map_some, Connection.blank, Session.blank, Task.blank] at begun ⊢
              rw [begun]
              exact congrArg (fun daemon => some
                { (relay.setSession conn ⟨client, .drained settings items, pump⟩
                    (.registering settings items false)).blank with
                  daemon, task := .registering conn }) enrolled
          | opened | starting | registering | requeueing | serving | awaiting | replying | left =>
              rfl
  | admitted | routing | registering | repooling => rfl

theorem blank_registerDeliver :
    relay.blank.registerDeliver = relay.registerDeliver.map blank := by
  rw [registerDeliver, registerDeliver, blank_task]
  cases relay.task with
  | registering conn =>
      simp only [Task.blank, blank_connection?]
      cases relay.connection? conn with
      | none => rfl
      | some connection =>
          obtain ⟨client, session, pump⟩ := connection
          cases session with
          | registering settings rest full =>
              cases full with
              | true =>
                  cases rest <;> rfl
              | false =>
                  cases rest with
                  | nil => rfl
                  | cons item rest =>
                      have fitted : client.blank.enqueue (.clip item.blank.event) = _ :=
                        client.blank_enqueue (.clip item.event)
                      simp only [Option.map_some, Connection.blank, Session.blank, List.map_cons,
                        fitted]
                      by_cases fits : (client.enqueue (.clip item.event)).2 = true
                      · simp only [fits, if_true, Option.map_some, ← blank_record,
                          ← blank_setConnection]
                        rfl
                      · simp only [fits, Bool.false_eq_true, if_false, Option.map_some,
                          ← blank_setSession]
                        rfl
          | opened | starting | drained | requeueing | serving | awaiting | replying | left => rfl
  | idle | admitted | routing | repooling => rfl

theorem blank_registerFinish : relay.blank.registerFinish = relay.registerFinish.map blank := by
  rw [registerFinish, registerFinish, blank_task]
  cases relay.task with
  | registering conn =>
      simp only [Task.blank, blank_connection?]
      cases relay.connection? conn with
      | none => rfl
      | some connection =>
          obtain ⟨client, session, pump⟩ := connection
          cases session with
          | registering settings rest full =>
              have ended :=
                relay.blank_setSession conn ⟨client, .registering settings rest full, pump⟩
                  (.requeueing settings.queueDepthPerDevice rest)
              have announced :=
                (relay.setSession conn ⟨client, .registering settings rest full, pump⟩
                  (.requeueing settings.queueDepthPerDevice rest)).daemon.blank_broadcastPresence
                    client.device true client.device.id
              simp only [Option.map_some, Connection.blank, Session.blank, List.map_eq_nil_iff]
                at ended ⊢
              split
              next =>
                rw [ended]
                exact congrArg (fun daemon => some
                  { (relay.setSession conn ⟨client, .registering settings rest full, pump⟩
                      (.requeueing settings.queueDepthPerDevice rest)).blank with
                    daemon, task := .idle }) announced
              next => rfl
          | opened | starting | drained | requeueing | serving | awaiting | replying | left => rfl
  | idle | admitted | routing | repooling => rfl

theorem blank_unregister (now : Time) :
    relay.blank.unregister conn now = (relay.unregister conn now).map blank := by
  rw [unregister, unregister, blank_task, blank_connection?]
  cases relay.task with
  | idle =>
      cases relay.connection? conn with
      | none => rfl
      | some connection =>
          obtain ⟨client, session, pump⟩ := connection
          cases session with
          | serving =>
              have gone := relay.blank_setSession conn ⟨client, .serving, pump⟩ .left
              have handled := (relay.setSession conn ⟨client, .serving, pump⟩
                .left).daemon.blank_handleUnregister conn client.device now
              simp only [Option.map_some, Connection.blank, Session.blank, Task.blank] at gone ⊢
              rw [gone]
              exact congrArg (fun daemon => some
                { (relay.setSession conn ⟨client, .serving, pump⟩ .left).blank with daemon })
                handled
          | opened | starting | drained | registering | requeueing | awaiting | replying | left =>
              rfl
  | admitted | routing | registering | repooling => rfl

/-! ## Routing -/

/-- `routePrepare` on what is shown of an admitted clip, whose texts are then left out. -/
def prepareShown (now : Time) : Option Relay :=
  match relay.task with
  | .admitted source event settings =>
      let (daemon, targets) := relay.daemon.prepareRoute env event settings now
      some ({ relay with
        daemon
        task := .routing source event.blank settings targets ⟨[], false⟩ }.record
          [.routed event.blank targets (relay.claims event)])
  | _ => none

theorem blank_routePrepare (now : Time) :
    relay.blank.prepareShown env now = (relay.routePrepare env now).map blank := by
  rw [prepareShown, routePrepare, blank_task]
  cases relay.task with
  | admitted source event settings =>
      have prepared : relay.blank.daemon.prepareRoute env (event.shown settings.e2eEnabled) settings
          now = _ := relay.daemon.blank_prepareRoute event env settings now
      have claimed : relay.blank.claims (event.shown settings.e2eEnabled) = relay.claims event := by
        rw [ClipEvent.shown]
        split <;> rfl
      simp only [Task.blank, prepared, claimed, ClipEvent.blank_shown, Option.map_some,
        ← blank_record]
      rfl
  | idle | routing | registering | repooling => rfl

theorem blank_deliveryFacts (event : ClipEvent) (now : Time) (target : DeviceID)
    (delivery : Daemon.Delivery) :
    relay.blank.deliveryFacts event.blank now target delivery =
      (relay.deliveryFacts event now target delivery).map Fact.blank := by
  cases delivery with
  | skipped => rfl
  | relayed served => rfl
  | queued trimmed =>
      have queue : relay.blank.daemon.store.queueOf target = _ :=
        relay.daemon.store.blank_queueOf target
      simp only [deliveryFacts, queue, List.map_cons, ← blank_trimmedFacts, List.map_take,
        List.map_append, List.map_nil]
      rfl

theorem blank_routeDeliver (now : Time) :
    relay.blank.routeDeliver now = (relay.routeDeliver now).map blank := by
  rw [routeDeliver, routeDeliver, blank_task]
  cases relay.task with
  | routing source event settings rest progress =>
      cases rest with
      | nil => rfl
      | cons target rest =>
          have delivered : relay.blank.daemon.deliverTo event.blank settings.queueDepthPerDevice now
              target = _ :=
            relay.daemon.blank_deliverTo event settings.queueDepthPerDevice now target
          simp only [Task.blank, delivered, Option.map_some, ← blank_record,
            ← blank_deliveryFacts]
          rfl
  | idle | admitted | registering | repooling => rfl

theorem blank_routeFinish : relay.blank.routeFinish = relay.routeFinish.map blank := by
  rw [routeFinish, routeFinish, blank_task]
  cases relay.task with
  | routing source event settings rest progress =>
      cases rest with
      | cons target rest => rfl
      | nil =>
          cases source with
          | none => rfl
          | some conn =>
              simp only [Task.blank, blank_connection?]
              cases relay.connection? conn with
              | none => rfl
              | some connection =>
                  obtain ⟨client, session, pump⟩ := connection
                  cases session with
                  | awaiting =>
                      exact congrArg some (blank_setSession { relay with task := .idle } conn
                        ⟨client, .awaiting, pump⟩
                        (.replying ⟨event.id, progress.result.status, progress.result.queuedFor⟩))
                  | opened | starting | drained | registering | requeueing | serving | replying
                  | left => rfl
  | idle | admitted | registering | repooling => rfl

theorem blank_setPool (pool : String) :
    relay.blank.setPool conn pool = (relay.setPool conn pool).map blank := by
  rw [setPool, setPool, blank_task, blank_connection?]
  cases relay.task with
  | idle =>
      cases relay.connection? conn with
      | none => rfl
      | some connection =>
          obtain ⟨client, session, pump⟩ := connection
          cases session with
          | serving =>
              have found : relay.blank.daemon.store.getDevice client.blank.device.id =
                relay.daemon.store.getDevice client.device.id := rfl
              simp only [Option.map_some, Connection.blank, Session.blank, Task.blank, found]
              cases relay.daemon.store.getDevice client.device.id with
              | none => rfl
              | some device =>
                  simp only
                  split <;> rfl
          | opened | starting | drained | registering | requeueing | awaiting | replying | left =>
              rfl
  | admitted | routing | registering | repooling => rfl

theorem blank_storePoolStep : relay.blank.storePool env = (relay.storePool env).map blank := by
  rw [storePool, storePool, blank_task]
  cases relay.task with
  | repooling device pool =>
      exact congrArg (fun daemon => some { relay.blank with daemon, task := .idle })
        (relay.daemon.blank_storePool env device pool)
  | idle | admitted | routing | registering => rfl

theorem blank_requestBlob (id : BlobID) :
    relay.blank.requestBlob id = (relay.requestBlob id).map blank := by
  rw [requestBlob, requestBlob, blank_task]
  cases relay.task with
  | idle =>
      exact congrArg (fun daemon => some { relay.blank with daemon, task := .idle })
        (relay.daemon.blank_handleBlobRequest id)
  | admitted | routing | registering | repooling => rfl

theorem blank_evict (id : DeviceID) : relay.blank.evict id = (relay.evict id).map blank := by
  rw [evict, evict, blank_task]
  cases relay.task with
  | idle =>
      simp only [Task.blank]
      change (if id ∈ relay.deleting then _ else _) = _
      split
      next =>
        exact congrArg (fun daemon => some
          { relay.blank with daemon, task := .idle, deleting := relay.deleting.erase id })
          (relay.daemon.blank_handleEvict id)
      next => rfl
  | admitted | routing | registering | repooling => rfl

/-! ## Write pumps -/

theorem blank_takeFrame : relay.blank.takeFrame conn = (relay.takeFrame conn).map blank := by
  rw [takeFrame, takeFrame, blank_connection?]
  cases relay.connection? conn with
  | none => rfl
  | some connection =>
      obtain ⟨⟨device, send, closeReason⟩, session, pump⟩ := connection
      cases pump with
      | ready =>
          cases send with
          | nil => rfl
          | cons frame rest =>
              exact congrArg some (relay.blank_setConnection conn
                ⟨⟨device, rest, closeReason⟩, session, .writing frame⟩)
      | writing | stopped => rfl

theorem blank_clipFact (stage : Stage) (id : DeviceID) (frame : Frame) :
    clipFact stage id frame.blank = (clipFact stage id frame).map Fact.blank := by
  cases frame <;> rfl

theorem blank_wroteFrame : relay.blank.wroteFrame conn = (relay.wroteFrame conn).map blank := by
  rw [wroteFrame, wroteFrame, blank_connection?]
  cases relay.connection? conn with
  | none => rfl
  | some connection =>
      obtain ⟨client, session, pump⟩ := connection
      cases pump with
      | writing frame =>
          simp only [Option.map_some, Connection.blank, Pump.blank, ← blank_record,
            ← blank_setConnection, ← blank_clipFact]
          rfl
      | ready | stopped => rfl

theorem blank_writeError : relay.blank.writeError conn = (relay.writeError conn).map blank := by
  rw [writeError, writeError, blank_connection?]
  cases relay.connection? conn with
  | none => rfl
  | some connection =>
      obtain ⟨client, session, pump⟩ := connection
      cases pump with
      | writing frame =>
          simp only [Option.map_some, Connection.blank, Pump.blank, ← blank_record,
            ← blank_setConnection, ← blank_clipFact]
          rfl
      | ready | stopped => rfl

theorem blank_stopPump : relay.blank.stopPump conn = (relay.stopPump conn).map blank := by
  rw [stopPump, stopPump, blank_connection?]
  cases relay.connection? conn with
  | none => rfl
  | some connection =>
      obtain ⟨client, session, pump⟩ := connection
      have ready : pump.blank = .ready ↔ pump = .ready := by cases pump <;> simp [Pump.blank]
      have gone : session.blank = .left ↔ session = .left := by
        cases session <;> simp [Session.blank]
      simp only [Option.map_some, Connection.blank, ready, gone]
      change (if pump = .ready ∧ (client.closeReason.isSome ∨ session = .left) then _ else _) = _
      split
      next => exact congrArg some (relay.blank_setConnection conn ⟨client, session, .stopped⟩)
      next => rfl

/-! ## Administration and housekeeping -/

theorem blank_deleteDevice (id : DeviceID) :
    relay.blank.deleteDevice env id = (relay.deleteDevice env id).blank := by
  have deleted : relay.blank.daemon.store.deleteDevice env.lib id = _ :=
    relay.daemon.store.blank_deleteDevice env.lib id
  have queue : relay.blank.daemon.store.queueOf id = _ := relay.daemon.store.blank_queueOf id
  have recorded := (relay.withStore (relay.daemon.store.deleteDevice env.lib id)).blank_record
    (.deleted id :: trimmedFacts id (relay.daemon.store.queueOf id))
  rw [List.map_cons, ← blank_trimmedFacts] at recorded
  rw [deleteDevice, deleteDevice, deleted, queue, blank_withStore]
  exact congrArg (fun relay : Relay => { relay with deleting := id :: relay.deleting }) recorded

theorem blank_refreshSettings (index : Nat) :
    relay.blank.refreshSettings index = (relay.refreshSettings index).map blank := by
  rw [refreshSettings, refreshSettings]
  have same : relay.blank.refreshing = relay.refreshing := rfl
  rw [same]
  cases relay.refreshing[index]? <;> rfl

theorem blank_claimPairing (code suffix name platform token : String) (now : Time) :
    relay.blank.claimPairing env code suffix name platform token now =
      (relay.claimPairing env code suffix name platform token now).map blank := by
  rw [claimPairing, claimPairing]
  split
  next => rfl
  next =>
    exact congrArg (fun store => some (relay.blank.withStore store))
      (relay.daemon.store.blank_apply env.lib _)

theorem blank_rotateToken (op : TokenOp) :
    relay.blank.rotateToken env op = (relay.rotateToken env op).map blank := by
  have applied := congrArg (fun store => some (relay.blank.withStore store))
    (relay.daemon.store.blank_apply env.lib op)
  cases op with
  | rotateToken | reissuePendingToken | retireOldToken => exact applied
  | putPairing | purgePairing | claimPairing | deleteDevice => rfl

theorem blank_purgeQueues (now : Time) :
    relay.blank.purgeQueues now = (relay.purgeQueues now).blank := by
  have settings : relay.blank.daemon.store.getSettings = relay.daemon.store.getSettings := rfl
  simp only [purgeQueues, settings]
  generalize Duration.ofSeconds relay.daemon.store.getSettings.queueItemTTLSeconds = ttl
  have purged : (relay.blank.daemon.store.purgeExpiredQueueItems now ttl).1 = _ :=
    relay.daemon.store.blank_purgeExpiredQueueItems now ttl
  have entries : relay.blank.daemon.store.queues.entries =
    relay.daemon.store.queues.entries.map fun entry => (entry.1, entry.2.blank) := rfl
  rw [purged, blank_withStore, ← blank_record, entries, List.flatMap_map, List.map_flatMap]
  refine congrArg _ (congrArg (List.flatMap · relay.daemon.store.queues.entries) ?_)
  funext entry
  rw [QueueBucket.blank_values, List.filter_map, ← blank_trimmedFacts]
  rfl

theorem blank_touchBlob (id : BlobID) (now : Time) (size : Int) (mime : String) :
    relay.blank.touchBlob id now size mime = (relay.touchBlob id now size mime).map blank := by
  rw [touchBlob, touchBlob]
  split <;> rfl

/-! ## Arrivals -/

theorem blank_receiveClip (event : ClipEvent) (now : Time) :
    relay.blank.receiveClip env conn (event.shown relay.daemon.hub.settings.e2eEnabled) now =
      (relay.receiveClip env conn event now).map blank := by
  rw [receiveClip, receiveClip, blank_task, blank_connection?]
  cases relay.task with
  | idle =>
      cases relay.connection? conn with
      | none => rfl
      | some connection =>
          obtain ⟨client, session, pump⟩ := connection
          cases session with
          | serving =>
              have received : (event.shown relay.daemon.hub.settings.e2eEnabled).received env.lib
                  client.blank.device.id now =
                (event.received env.lib client.device.id now).shown
                  relay.daemon.hub.settings.e2eEnabled := by
                rw [ClipEvent.shown, ClipEvent.shown]
                change _ = if (event.enc.isSome || _) = true then _ else _
                split <;> rfl
              have settings : relay.blank.daemon.hub.settings = relay.daemon.hub.settings := rfl
              have named : ((event.received env.lib client.device.id now).shown
                  relay.daemon.hub.settings.e2eEnabled).id = event.id := by
                rw [ClipEvent.shown]
                split <;> rfl
              simp only [Option.map_some, Connection.blank, Session.blank, Task.blank, received,
                settings, refuses_shown, named]
              by_cases refused : Daemon.refuses relay.daemon.hub.settings
                  (event.received env.lib client.device.id now) = true
              · rw [if_pos refused, if_pos refused]
                exact congrArg some (relay.blank_setSession conn ⟨client, .serving, pump⟩
                  (.replying ⟨event.id, .rejected, []⟩))
              · rw [if_neg refused, if_neg refused]
                exact congrArg (fun waiting : Relay => some
                  { waiting with
                    task := .admitted (some conn)
                      ((event.received env.lib client.device.id now).shown
                        relay.daemon.hub.settings.e2eEnabled)
                      relay.daemon.hub.settings })
                  (relay.blank_setSession conn ⟨client, .serving, pump⟩ .awaiting)
          | opened | starting | drained | registering | requeueing | awaiting | replying | left =>
              rfl
  | admitted | routing | registering | repooling => rfl

/-- `routeBroadcast` when the event at the place is as given. -/
def routeShown (index : Nat) (event : Option ClipEvent) : Option Relay :=
  match relay.task, event with
  | .idle, some event =>
      let settings := relay.daemon.hub.settings
      let taken := { relay with broadcasting := relay.broadcasting.eraseIdx index }
      if Daemon.refuses settings event then some taken
      else some { taken with task := .admitted none event settings }
  | _, _ => none

theorem blank_routeBroadcast (index : Nat) :
    relay.blank.routeShown index
        (relay.broadcasting[index]?.map (·.shown relay.daemon.hub.settings.e2eEnabled)) =
      (relay.routeBroadcast index).map blank := by
  have taken : relay.blank.broadcasting.eraseIdx index =
      (relay.broadcasting.eraseIdx index).map ClipEvent.veiled := List.eraseIdx_map ..
  have settings : relay.blank.daemon.hub.settings = relay.daemon.hub.settings := rfl
  unfold routeShown routeBroadcast
  rw [blank_task]
  cases relay.task with
  | idle =>
      cases relay.broadcasting[index]? with
      | none => rfl
      | some event =>
          simp only [Task.blank, Option.map_some, settings, refuses_shown, taken]
          by_cases refused : Daemon.refuses relay.daemon.hub.settings event = true
          · rw [if_pos refused, if_pos refused]
            rfl
          · rw [if_neg refused, if_neg refused]
            rfl
  | admitted | routing | registering | repooling => rfl

/-- `broadcast` of a clip that has been built. -/
def submitShown (event : ClipEvent) : Option Relay :=
  let settings := relay.daemon.store.getSettings
  if settings.e2eEnabled ∨ !settings.allowServerBroadcast ∨ event.inlineText = "" then none
  else some { relay with broadcasting := relay.broadcasting ++ [event] }

theorem blank_broadcast (id text : String) (now : Time) :
    relay.blank.submitShown (ClipEvent.broadcastOf env.lib id text now).veiled =
      (relay.broadcast env id text now).map blank := by
  have settings : relay.blank.daemon.store.getSettings = relay.daemon.store.getSettings := rfl
  have empty : (ClipEvent.broadcastOf env.lib id text now).veiled.inlineText = "" ↔ text = "" :=
    veil_eq_empty
  simp only [submitShown, broadcast, settings, empty]
  by_cases refused : relay.daemon.store.getSettings.e2eEnabled ∨
      !relay.daemon.store.getSettings.allowServerBroadcast ∨ text = ""
  · rw [if_pos refused, if_pos refused, Option.map_none]
  · rw [if_neg refused, if_neg refused, Option.map_some]
    simp only [blank, List.map_append, List.map_cons, List.map_nil]

/-! ## Steps -/

/-- A step on what is left of a state, for actions that are no arrivals. -/
def stepShown (action : Action) : Option Relay :=
  match action with
  | .routePrepare now => relay.prepareShown env now
  | action => relay.step env action

/-- The actions that bring a clip. -/
def Arrives : Action → Prop
  | .receiveClip _ _ _ | .routeBroadcast _ | .broadcast _ _ _ => True
  | _ => False

theorem blank_step (action : Action) (settled : ¬ Arrives action) :
    relay.blank.stepShown env action = (relay.step env action).map blank := by
  cases action with
  | connect id token => exact relay.blank_connect env id token
  | readSettings conn => exact relay.blank_readSettings conn
  | drain conn => exact relay.blank_drain conn
  | requeue conn => exact relay.blank_requeue conn
  | registerReturn conn => exact relay.blank_registerReturn conn
  | sendToken conn token => exact relay.blank_sendToken conn token
  | ack conn => exact relay.blank_ack conn
  | registerStart conn now => exact relay.blank_registerStart env conn now
  | registerDeliver => exact relay.blank_registerDeliver
  | registerFinish => exact relay.blank_registerFinish
  | unregister conn now => exact relay.blank_unregister conn now
  | receiveClip | routeBroadcast | broadcast => exact absurd trivial settled
  | routePrepare now => exact relay.blank_routePrepare env now
  | routeDeliver now => exact relay.blank_routeDeliver now
  | routeFinish => exact relay.blank_routeFinish
  | setPool conn pool => exact relay.blank_setPool conn pool
  | storePool => exact relay.blank_storePoolStep env
  | requestBlob id => exact relay.blank_requestBlob id
  | evict id => exact relay.blank_evict id
  | takeFrame conn => exact relay.blank_takeFrame conn
  | wroteFrame conn => exact relay.blank_wroteFrame conn
  | writeError conn => exact relay.blank_writeError conn
  | stopPump conn => exact relay.blank_stopPump conn
  | deleteDevice id => exact congrArg some (relay.blank_deleteDevice env id)
  | refreshSettings index => exact relay.blank_refreshSettings index
  | claimPairing code suffix name platform token now =>
      exact relay.blank_claimPairing env code suffix name platform token now
  | rotateToken op => exact relay.blank_rotateToken env op
  | purgeQueues now => exact congrArg some (relay.blank_purgeQueues now)
  | touchBlob id now size mime => exact relay.blank_touchBlob id now size mime
  | collectBlob id =>
      exact congrArg some ((relay.withStore (relay.daemon.store.deleteBlobEntry id)).blank_record
        [.collected id])
  | putSettings | loadSettings | putPairing | purgePairing => rfl

/-- Two actions that differ at most in texts that are not shown. -/
inductive Alike (left right : Relay) : Action → Action → Prop where
  | settled {action : Action} : ¬ Arrives action → Alike left right action action
  | receiveClip {event counterpart : ClipEvent} (conn : ConnID) (now : Time) :
      event.Alike left.daemon.hub.settings.e2eEnabled counterpart →
      Alike left right (.receiveClip conn event now) (.receiveClip conn counterpart now)
  | routeBroadcast (index : Nat) :
      (∀ event counterpart, left.broadcasting[index]? = some event →
        right.broadcasting[index]? = some counterpart →
        event.Alike left.daemon.hub.settings.e2eEnabled counterpart) →
      Alike left right (.routeBroadcast index) (.routeBroadcast index)
  | broadcast {id other text counterpart : String} (now : Time) :
      (ClipEvent.broadcastOf env.lib id text now).Alike true
        (.broadcastOf env.lib other counterpart now) →
      Alike left right (.broadcast id text now) (.broadcast other counterpart now)

/-- The broadcasts waiting at one place of two such states show the same. -/
theorem waiting_shown {left right : Relay} {index : Nat} (same : left.blank = right.blank)
    (clips : ∀ event counterpart, left.broadcasting[index]? = some event →
      right.broadcasting[index]? = some counterpart →
      event.Alike left.daemon.hub.settings.e2eEnabled counterpart) :
    left.broadcasting[index]?.map (·.shown left.daemon.hub.settings.e2eEnabled) =
      right.broadcasting[index]?.map (·.shown left.daemon.hub.settings.e2eEnabled) := by
  have waiting : left.broadcasting[index]?.map ClipEvent.veiled =
      right.broadcasting[index]?.map ClipEvent.veiled := by
    rw [← List.getElem?_map, ← List.getElem?_map]
    exact congrArg (fun relay : Relay => relay.broadcasting[index]?) same
  cases here : left.broadcasting[index]? with
  | none =>
      rw [here, Option.map_none, eq_comm, Option.map_eq_none_iff] at waiting
      rw [waiting]
  | some event =>
      rw [here, Option.map_some, eq_comm, Option.map_eq_some_iff] at waiting
      obtain ⟨counterpart, there, -⟩ := waiting
      rw [there, Option.map_some, Option.map_some, (clips event counterpart here there).shown_eq]

/-- What is left of two states stays the same over such actions. -/
theorem Alike.step {left right : Relay} {action counterpart : Action}
    (same : left.blank = right.blank) (alike : Alike env left right action counterpart) :
    (left.step env action).map blank = (right.step env counterpart).map blank := by
  have settings : left.blank.daemon.hub.settings = right.blank.daemon.hub.settings := by rw [same]
  change left.daemon.hub.settings = right.daemon.hub.settings at settings
  cases alike with
  | settled settled =>
      rw [← left.blank_step env action settled, ← right.blank_step env action settled, same]
  | receiveClip conn now clips =>
      refine (left.blank_receiveClip env conn _ now).symm.trans
        (Eq.trans ?_ (right.blank_receiveClip env conn _ now))
      rw [same, clips.shown_eq, settings]
  | routeBroadcast index clips =>
      refine (left.blank_routeBroadcast index).symm.trans
        (Eq.trans ?_ (right.blank_routeBroadcast index))
      rw [same, waiting_shown same clips, settings]
  | broadcast now clips =>
      refine (left.blank_broadcast env _ _ now).symm.trans
        (Eq.trans ?_ (right.blank_broadcast env _ _ now))
      rw [same, clips.veiled_eq]

end Relay

/-! ## The relay with its monitor -/

/-- The relay, the results of the routes so far, and what the subscribers of the monitor were
replayed and have received. -/
structure Monitored where
  relay : Relay
  results : List Daemon.RouteResult
  replayed : List (Nat × List MonitorEvent)
  received : List (Nat × MonitorEvent)

inductive MonitoredAction where
  | relay (action : Action)
  | subscribe
  | unsubscribe (id : Nat)
  | receive (id : Nat)

/-- The result a step returns to the caller of `Route`. -/
def Relay.routeResult (relay : Relay) : Action → Option Daemon.RouteResult
  | .receiveClip _ event _ =>
      if Daemon.refuses relay.daemon.hub.settings event then some ⟨.rejected, []⟩ else none
  | .routeBroadcast index =>
      match relay.broadcasting[index]? with
      | some event =>
          if Daemon.refuses relay.daemon.hub.settings event then some ⟨.rejected, []⟩ else none
      | none => none
  | .routeFinish =>
      match relay.task with
      | .routing _ _ _ _ progress => some progress.result
      | _ => none
  | _ => none

namespace Monitored

def monitor (monitored : Monitored) : Monitor := monitored.relay.daemon.hub.monitor

def setMonitor (monitored : Monitored) (monitor : Monitor) : Monitored :=
  { monitored with
    relay := { monitored.relay with
      daemon := { monitored.relay.daemon with
        hub := { monitored.relay.daemon.hub with monitor } } } }

def step (env : Env) (monitored : Monitored) : MonitoredAction → Option Monitored
  | .relay action =>
      (monitored.relay.step env action).map fun relay =>
        { monitored with
          relay
          results := monitored.results ++ (monitored.relay.routeResult action).toList }
  | .subscribe =>
      let (monitor, replay) := monitored.monitor.subscribe
      some { monitored.setMonitor monitor with
        replayed := monitored.replayed ++ [(monitored.monitor.seq, replay)] }
  | .unsubscribe id => some (monitored.setMonitor (monitored.monitor.unsubscribe id))
  | .receive id =>
      (monitored.monitor.receive id).map fun (monitor, event) =>
        { monitored.setMonitor monitor with received := monitored.received ++ [(id, event)] }

/-- The state without the texts of clips. -/
def blank (monitored : Monitored) : Monitored :=
  { monitored with relay := monitored.relay.blank }

/-- Steps of two runs that differ at most in texts that are encrypted or refused. -/
inductive Alike (env : Env) (left right : Monitored) : MonitoredAction → MonitoredAction → Prop
    where
  | relay {action counterpart : Action} :
      Relay.Alike env left.relay right.relay action counterpart →
      Alike env left right (.relay action) (.relay counterpart)
  | subscribe : Alike env left right .subscribe .subscribe
  | unsubscribe (id : Nat) : Alike env left right (.unsubscribe id) (.unsubscribe id)
  | receive (id : Nat) : Alike env left right (.receive id) (.receive id)

theorem blank_routeResult (relay : Relay) (action : Action) (settled : ¬ Relay.Arrives action) :
    relay.blank.routeResult action = relay.routeResult action := by
  cases action with
  | receiveClip | routeBroadcast | broadcast => exact absurd trivial settled
  | routeFinish =>
      rw [Relay.routeResult, Relay.routeResult, Relay.blank_task]
      cases relay.task <;> rfl
  | _ => rfl

theorem routeResult_eq {env : Env} {left right : Relay} {action counterpart : Action}
    (same : left.blank = right.blank) (alike : Relay.Alike env left right action counterpart) :
    left.routeResult action = right.routeResult counterpart := by
  have settings : left.blank.daemon.hub.settings = right.blank.daemon.hub.settings := by rw [same]
  change left.daemon.hub.settings = right.daemon.hub.settings at settings
  cases alike with
  | settled settled =>
      rw [← blank_routeResult left action settled, ← blank_routeResult right action settled, same]
  | @receiveClip event counterpart conn now clips =>
      simp only [Relay.routeResult]
      rw [← refuses_shown event left.daemon.hub.settings.e2eEnabled, clips.shown_eq, refuses_shown,
        settings]
  | routeBroadcast index clips =>
      have shown (relay : Relay) (e2eEnforced : Bool) :
          relay.routeResult (.routeBroadcast index) =
            (relay.broadcasting[index]?.map (·.shown e2eEnforced)).bind fun event =>
              if Daemon.refuses relay.daemon.hub.settings event then some ⟨.rejected, []⟩
              else none := by
        rw [Relay.routeResult]
        cases relay.broadcasting[index]? with
        | none => rfl
        | some event => simp only [Option.map_some, Option.bind_some, refuses_shown]
      rw [shown left left.daemon.hub.settings.e2eEnabled,
        shown right left.daemon.hub.settings.e2eEnabled, Relay.waiting_shown same clips, settings]
  | broadcast now clips => rfl

theorem Alike.step {env : Env} {left right : Monitored} {action counterpart : MonitoredAction}
    (same : left.blank = right.blank) (alike : Alike env left right action counterpart) :
    (left.step env action).map blank = (right.step env counterpart).map blank := by
  cases alike with
  | @relay action counterpart clips =>
      have relays : left.relay.blank = right.relay.blank := congrArg (·.relay) same
      have stepped := clips.step env relays
      have results : left.results = right.results := congrArg (·.results) same
      have replayed : left.replayed = right.replayed := congrArg (·.replayed) same
      have received : left.received = right.received := congrArg (·.received) same
      have split (monitored : Monitored) (action : Action) :
          (monitored.step env (.relay action)).map blank =
            ((monitored.relay.step env action).map Relay.blank).map fun relay =>
              ⟨relay, monitored.results ++ (monitored.relay.routeResult action).toList,
                monitored.replayed, monitored.received⟩ := by
        rw [Monitored.step, Option.map_map, Option.map_map]
        rfl
      rw [split, split, stepped, routeResult_eq relays clips, results, replayed, received]
  | subscribe =>
      have commutes (monitored : Monitored) : monitored.blank.step env .subscribe =
        (monitored.step env .subscribe).map blank := rfl
      rw [← commutes, ← commutes, same]
  | unsubscribe id =>
      have commutes (monitored : Monitored) : monitored.blank.step env (.unsubscribe id) =
        (monitored.step env (.unsubscribe id)).map blank := rfl
      rw [← commutes, ← commutes, same]
  | receive id =>
      have commutes (monitored : Monitored) : monitored.blank.step env (.receive id) =
          (monitored.step env (.receive id)).map blank := by
        rw [Monitored.step, Monitored.step, Option.map_map]
        rfl
      rw [← commutes, ← commutes, same]

/-- The monitor does not see texts that are encrypted or refused: in two runs that differ at
most in such texts, the results of the routes, the ring, what subscribers were sent and the
recorded activity are the same. -/
theorem monitor_blind (env : Env) {start left right : Monitored}
    (runs : Run (pairStep (step env))
      (fun states actions => Alike env states.1 states.2 actions.1 actions.2)
      (start, start) (left, right)) :
    left.results = right.results ∧ left.monitor = right.monitor ∧
      left.replayed = right.replayed ∧ left.received = right.received ∧
      left.relay.daemon.store.activity = right.relay.daemon.store.activity := by
  have same : left.blank = right.blank := by
    refine runs.unwinding blank ?_
    intro before other after further action counterpart same alike first second
    have stepped := alike.step same
    rw [first, second] at stepped
    exact Option.some.inj stepped
  exact ⟨congrArg (·.results) same, congrArg (·.monitor) same, congrArg (·.replayed) same,
    congrArg (·.received) same, congrArg (·.relay.daemon.store.activity) same⟩

/-- An action that can be taken in one run has its counterpart in the other. -/
theorem Alike.enabled {env : Env} {left right : Monitored} {action counterpart : MonitoredAction}
    (same : left.blank = right.blank) (alike : Alike env left right action counterpart) :
    (left.step env action).isSome = (right.step env counterpart).isSome := by
  have stepped := congrArg Option.isSome (alike.step same)
  rwa [Option.isSome_map, Option.isSome_map] at stepped

/-- An encrypted clip with the given ciphertext. -/
def demoSecret (ciphertext : String) : ClipEvent :=
  { ClipEvent.text "c" ciphertext with enc := some ⟨"xchacha20poly1305", "k", "n"⟩ }

/-- Before the clip: two devices are connected, and someone watches the monitor. -/
def demoSetup : List MonitoredAction :=
  (Action.bothUp.map MonitoredAction.relay) ++ [.subscribe]

/-- The same clip with two ciphertexts, routed and seen by the subscriber. -/
def demoPairs : List (MonitoredAction × MonitoredAction) :=
  [(.relay (.receiveClip 0 (demoSecret "one") 2), .relay (.receiveClip 0 (demoSecret "two") 2)),
    (.relay (.routePrepare 2), .relay (.routePrepare 2)), (.receive 0, .receive 0)]

/-- The pairs of actions above. -/
def demoGuard (_ : Monitored × Monitored) : MonitoredAction × MonitoredAction → Bool
  | (.relay (.receiveClip 0 left 2), .relay (.receiveClip 0 right 2)) =>
      decide (left = demoSecret "one" ∧ right = demoSecret "two")
  | (.relay (.routePrepare 2), .relay (.routePrepare 2)) => true
  | (.receive 0, .receive 0) => true
  | _ => false

theorem demoGuard_alike (states : Monitored × Monitored)
    (actions : MonitoredAction × MonitoredAction) (admitted : demoGuard states actions = true) :
    Alike demoEnv states.1 states.2 actions.1 actions.2 := by
  unfold demoGuard at admitted
  split at admitted
  next left right =>
    obtain ⟨rfl, rfl⟩ := of_decide_eq_true admitted
    refine .relay (.receiveClip 0 2 ⟨rfl, ?_, ?_, fun plain => by cases plain⟩)
    · decide
    · decide
  next => exact .relay (.settled fun arrives => arrives)
  next => exact .receive 0
  next => cases admitted

/-- The two runs differ in what is routed, and the subscriber is sent the same. -/
theorem two_ciphertexts_monitored :
    ∃ left right : Monitored, left.relay.log ≠ right.relay.log ∧
      left.received.length = 1 ∧ left.received = right.received := by
  have checked : ((exec (step demoEnv) ⟨.boot .empty, [], [], []⟩ demoSetup).any fun start =>
      (execWhen (pairStep (step demoEnv)) demoGuard (start, start) demoPairs).any
        fun (states : Monitored × Monitored) => decide (states.1.relay.log ≠ states.2.relay.log ∧
          states.1.received.length = 1)) = true := by decide +kernel
  obtain ⟨start, -, rest⟩ := (Option.any_eq_true _ _).mp checked
  obtain ⟨⟨left, right⟩, executed, apart⟩ := (Option.any_eq_true _ _).mp rest
  obtain ⟨different, length⟩ := of_decide_eq_true apart
  exact ⟨left, right, different, length,
    (monitor_blind demoEnv (Run.of_execWhen demoGuard_alike executed)).2.2.2.1⟩

end Monitored

end CopySync.Server
