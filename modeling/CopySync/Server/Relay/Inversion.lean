import CopySync.Server.Relay.Machine

/-!
# What each step of the relay can do

One lemma per action: the states it can be taken in and the state it leads to.
Invariants are proved from these and never unfold the step function.
-/

namespace CopySync.Server.Relay

open Foundation

variable {env : Env} {relay after : Relay} {conn : ConnID} {now : Time}

/-! ## Serving goroutines -/

theorem connect_some {id : DeviceID} {token : String}
    (stepped : relay.connect env id token = some after) :
    ∃ device, validate env.hasher relay.daemon.store id token = some device ∧
      after = { relay with
        daemon := { relay.daemon with
          connections := relay.daemon.connections ++ [⟨.new device, .opened, .ready⟩] } } := by
  obtain ⟨device, accepted, rfl⟩ := Option.map_eq_some_iff.mp stepped
  exact ⟨device, accepted, rfl⟩

theorem readSettings_some (stepped : relay.readSettings conn = some after) :
    ∃ connection, relay.connection? conn = some connection ∧ connection.session = .opened ∧
      after = relay.setSession conn connection (.starting relay.daemon.hub.settings) := by
  rw [readSettings] at stepped
  split at stepped
  next connection found =>
    split at stepped
    next session =>
      cases stepped
      exact ⟨connection, found, session, rfl⟩
    next => cases stepped
  next => cases stepped

theorem drain_some (stepped : relay.drain conn = some after) :
    ∃ connection settings, relay.connection? conn = some connection ∧
      connection.session = .starting settings ∧
      after = (relay.setSession conn connection
        (.drained settings (relay.daemon.store.queueOf connection.client.device.id))).withStore
          (relay.daemon.store.drainQueue connection.client.device.id).1 := by
  rw [drain] at stepped
  split at stepped
  next connection found =>
    split at stepped
    next settings session =>
      refine ⟨connection, settings, found, session, ?_⟩
      rw [← Store.drainQueue_snd]
      exact (Option.some.inj stepped).symm
    next => cases stepped
  next => cases stepped

theorem requeue_some (stepped : relay.requeue conn = some after) :
    ∃ connection depth item rest, relay.connection? conn = some connection ∧
      connection.session = .requeueing depth (item :: rest) ∧
      after = ((relay.setSession conn connection (.requeueing depth rest)).withStore
        (relay.daemon.store.enqueue connection.client.device.id item depth).1).record
            (.clip .stored connection.client.device.id item.event ::
              trimmedFacts connection.client.device.id
                ((relay.daemon.store.queueOf connection.client.device.id ++ [item]).take
                  (relay.daemon.store.enqueue connection.client.device.id item depth).2)) := by
  rw [requeue] at stepped
  split at stepped
  next connection found =>
    split at stepped
    next depth item rest session =>
      cases stepped
      exact ⟨connection, depth, item, rest, found, session, rfl⟩
    next => cases stepped
  next => cases stepped

theorem registerReturn_some (stepped : relay.registerReturn conn = some after) :
    ∃ connection depth, relay.connection? conn = some connection ∧
      connection.session = .requeueing depth [] ∧
      after = relay.setSession conn connection .serving := by
  rw [registerReturn] at stepped
  split at stepped
  next connection found =>
    split at stepped
    next depth session =>
      cases stepped
      exact ⟨connection, depth, found, session, rfl⟩
    next => cases stepped
  next => cases stepped

theorem sendToken_some {token : String} (stepped : relay.sendToken conn token = some after) :
    ∃ connection, relay.connection? conn = some connection ∧ connection.session = .serving ∧
      after = { relay with daemon := (relay.daemon.push conn (.tokenRotate token)).1 } := by
  rw [sendToken] at stepped
  split at stepped
  next connection found =>
    split at stepped
    next session =>
      cases stepped
      exact ⟨connection, found, session, rfl⟩
    next => cases stepped
  next => cases stepped

theorem ack_some (stepped : relay.ack conn = some after) :
    ∃ connection payload, relay.connection? conn = some connection ∧
      connection.session = .replying payload ∧
      after = { relay.setSession conn connection .serving with
        daemon := ((relay.setSession conn connection .serving).daemon.push conn
          (.ack payload)).1 } := by
  rw [ack] at stepped
  split at stepped
  next connection found =>
    split at stepped
    next payload session =>
      cases stepped
      exact ⟨connection, payload, found, session, rfl⟩
    next => cases stepped
  next => cases stepped

/-! ## The hub -/

theorem registerStart_some (stepped : relay.registerStart env conn now = some after) :
    ∃ connection settings items, relay.task = .idle ∧
      relay.connection? conn = some connection ∧
      connection.session = .drained settings items ∧
      after = { relay.setSession conn connection (.registering settings items false) with
        daemon := (relay.setSession conn connection
          (.registering settings items false)).daemon.enroll env conn connection.client.device
            settings now
        task := .registering conn } := by
  rw [registerStart] at stepped
  split at stepped
  next connection idle found =>
    split at stepped
    next settings items session =>
      cases stepped
      exact ⟨connection, settings, items, idle, found, session, rfl⟩
    next => cases stepped
  next => cases stepped

theorem registerDeliver_some (stepped : relay.registerDeliver = some after) :
    ∃ conn connection settings item rest, relay.task = .registering conn ∧
      relay.connection? conn = some connection ∧
      connection.session = .registering settings (item :: rest) false ∧
      (connection.client.send.length < sendBuffer ∧
        after = (relay.setConnection conn
          { connection with
            client := { connection.client with
              send := connection.client.send ++ [.clip item.event] }
            session := .registering settings rest false }).record
              [.clip .pushed connection.client.device.id item.event] ∨
      ¬connection.client.send.length < sendBuffer ∧
        after = relay.setSession conn connection (.registering settings (item :: rest) true)) := by
  rw [registerDeliver] at stepped
  split at stepped
  next conn task =>
    split at stepped
    next connection found =>
      split at stepped
      next settings item rest session =>
        refine ⟨conn, connection, settings, item, rest, task, found, session, ?_⟩
        by_cases room : connection.client.send.length < sendBuffer
        · simp only [Client.enqueue, room, if_true] at stepped
          cases stepped
          exact .inl ⟨room, rfl⟩
        · simp only [Client.enqueue, room, if_false] at stepped
          cases stepped
          exact .inr ⟨room, rfl⟩
      next => cases stepped
    next => cases stepped
  next => cases stepped

theorem registerFinish_some (stepped : relay.registerFinish = some after) :
    ∃ conn connection settings rest full, relay.task = .registering conn ∧
      relay.connection? conn = some connection ∧
      connection.session = .registering settings rest full ∧
      (full = true ∨ rest = []) ∧
      after = { relay.setSession conn connection
          (.requeueing settings.queueDepthPerDevice rest) with
        daemon := (relay.setSession conn connection
          (.requeueing settings.queueDepthPerDevice rest)).daemon.broadcastPresence
            connection.client.device true connection.client.device.id
        task := .idle } := by
  rw [registerFinish] at stepped
  split at stepped
  next conn task =>
    split at stepped
    next connection found =>
      split at stepped
      next settings rest full session =>
        split_ifs at stepped with ended
        cases stepped
        exact ⟨conn, connection, settings, rest, full, task, found, session, ended, rfl⟩
      next => cases stepped
    next => cases stepped
  next => cases stepped

theorem unregister_some (stepped : relay.unregister conn now = some after) :
    ∃ connection, relay.task = .idle ∧ relay.connection? conn = some connection ∧
      connection.session = .serving ∧
      after = { relay.setSession conn connection .left with
        daemon := (relay.setSession conn connection .left).daemon.handleUnregister conn
          connection.client.device now } := by
  rw [unregister] at stepped
  split at stepped
  next connection idle found =>
    split at stepped
    next session =>
      cases stepped
      exact ⟨connection, idle, found, session, rfl⟩
    next => cases stepped
  next => cases stepped

theorem receiveClip_some {event : ClipEvent}
    (stepped : relay.receiveClip env conn event now = some after) :
    ∃ connection, relay.task = .idle ∧ relay.connection? conn = some connection ∧
      connection.session = .serving ∧
      ((∃ payload, after = relay.setSession conn connection (.replying payload)) ∨
      Daemon.refuses relay.daemon.hub.settings
          (event.received env.lib connection.client.device.id now) = false ∧
        after = { relay.setSession conn connection .awaiting with
          task := .admitted (some conn)
            (event.received env.lib connection.client.device.id now)
            relay.daemon.hub.settings }) := by
  rw [receiveClip] at stepped
  split at stepped
  next connection idle found =>
    split at stepped
    next session =>
      refine ⟨connection, idle, found, session, ?_⟩
      simp only at stepped
      split_ifs at stepped with refused
      · cases stepped
        exact .inl ⟨_, rfl⟩
      · cases stepped
        exact .inr ⟨by simpa using refused, rfl⟩
    next => cases stepped
  next => cases stepped

theorem routeBroadcast_some {index : Nat} (stepped : relay.routeBroadcast index = some after) :
    ∃ event, relay.task = .idle ∧ relay.broadcasting[index]? = some event ∧
      (after = { relay with broadcasting := relay.broadcasting.eraseIdx index } ∨
      Daemon.refuses relay.daemon.hub.settings event = false ∧
        after = { relay with
          broadcasting := relay.broadcasting.eraseIdx index
          task := .admitted none event relay.daemon.hub.settings }) := by
  rw [routeBroadcast] at stepped
  split at stepped
  next event idle found =>
    refine ⟨event, idle, found, ?_⟩
    simp only at stepped
    split_ifs at stepped with refused
    · cases stepped
      exact .inl rfl
    · cases stepped
      exact .inr ⟨by simpa using refused, rfl⟩
  next => cases stepped

theorem routePrepare_some (stepped : relay.routePrepare env now = some after) :
    ∃ source event settings, relay.task = .admitted source event settings ∧
      after = { relay with
        daemon := (relay.daemon.prepareRoute env event settings now).1
        task := .routing source event settings
          (relay.daemon.prepareRoute env event settings now).2 ⟨[], false⟩ }.record
            [.routed event (relay.daemon.prepareRoute env event settings now).2
              (relay.claims event)] := by
  rw [routePrepare] at stepped
  split at stepped
  next source event settings task =>
    cases stepped
    exact ⟨source, event, settings, task, rfl⟩
  next => cases stepped

theorem routeDeliver_some (stepped : relay.routeDeliver now = some after) :
    ∃ source event settings target rest progress,
      relay.task = .routing source event settings (target :: rest) progress ∧
      ∃ daemon delivery,
        relay.daemon.deliverTo event settings.queueDepthPerDevice now target =
          (daemon, delivery) ∧
        after = { relay with
          daemon
          task := .routing source event settings rest
            (progress.record target.id delivery) }.record
              (relay.deliveryFacts event now target.id delivery) := by
  rw [routeDeliver] at stepped
  split at stepped
  next source event settings target rest progress task =>
    cases stepped
    exact ⟨source, event, settings, target, rest, progress, task, _, _, rfl, rfl⟩
  next => cases stepped

theorem routeFinish_some (stepped : relay.routeFinish = some after) :
    ∃ source event settings progress, relay.task = .routing source event settings [] progress ∧
      (after = { relay with task := .idle } ∨
      ∃ conn connection payload, source = some conn ∧
        relay.connection? conn = some connection ∧ connection.session = .awaiting ∧
        after = { relay with task := .idle }.setSession conn connection (.replying payload)) := by
  rw [routeFinish] at stepped
  split at stepped
  next source event settings progress task =>
    refine ⟨source, event, settings, progress, task, ?_⟩
    simp only at stepped
    split at stepped
    next =>
      cases stepped
      exact .inl rfl
    next conn =>
      split at stepped
      next =>
        cases stepped
        exact .inl rfl
      next connection found =>
        split at stepped
        next session =>
          cases stepped
          exact .inr ⟨conn, connection, _, rfl, found, session, rfl⟩
        next =>
          cases stepped
          exact .inl rfl
  next => cases stepped

theorem setPool_some {pool : String} (stepped : relay.setPool conn pool = some after) :
    relay.task = .idle ∧
      (after = relay ∨
      ∃ connection device, relay.connection? conn = some connection ∧
        relay.daemon.store.devices.get? connection.client.device.id = some device ∧
        after = { relay with task := .repooling device (poolName pool) }) := by
  rw [setPool] at stepped
  split at stepped
  next connection idle found =>
    refine ⟨idle, ?_⟩
    split at stepped
    next =>
      split at stepped
      next =>
        cases stepped
        exact .inl rfl
      next device lookup =>
        split_ifs at stepped
        · cases stepped
          exact .inl rfl
        · cases stepped
          exact .inr ⟨connection, device, found, lookup, rfl⟩
    next => cases stepped
  next => cases stepped

theorem storePool_some (stepped : relay.storePool env = some after) :
    ∃ device pool, relay.task = .repooling device pool ∧
      after = { relay with
        daemon := relay.daemon.storePool env device pool, task := .idle } := by
  rw [storePool] at stepped
  split at stepped
  next device pool task =>
    cases stepped
    exact ⟨device, pool, task, rfl⟩
  next => cases stepped

theorem requestBlob_some {id : BlobID} (stepped : relay.requestBlob id = some after) :
    after = { relay with daemon := (relay.daemon.handleBlobRequest id).1 } := by
  rw [requestBlob] at stepped
  split at stepped
  next =>
    cases stepped
    rfl
  next => cases stepped

theorem evict_some {id : DeviceID} (stepped : relay.evict id = some after) :
    relay.task = .idle ∧ id ∈ relay.deleting ∧
      after = { relay with
        daemon := relay.daemon.handleEvict id
        deleting := relay.deleting.erase id } := by
  rw [evict] at stepped
  split at stepped
  next idle =>
    split_ifs at stepped with pending
    cases stepped
    exact ⟨idle, pending, rfl⟩
  next => cases stepped

/-! ## Write pumps -/

theorem takeFrame_some (stepped : relay.takeFrame conn = some after) :
    ∃ connection frame rest, relay.connection? conn = some connection ∧
      connection.pump = .ready ∧ connection.client.send = frame :: rest ∧
      after = relay.setConnection conn
        { connection with
          client := { connection.client with send := rest }
          pump := .writing frame } := by
  rw [takeFrame] at stepped
  split at stepped
  next connection found =>
    split at stepped
    next frame rest ready send =>
      cases stepped
      exact ⟨connection, frame, rest, found, ready, send, rfl⟩
    next => cases stepped
  next => cases stepped

theorem wroteFrame_some (stepped : relay.wroteFrame conn = some after) :
    ∃ connection frame, relay.connection? conn = some connection ∧
      connection.pump = .writing frame ∧
      after = (relay.setConnection conn { connection with pump := .ready }).record
        (clipFact .written connection.client.device.id frame) := by
  rw [wroteFrame] at stepped
  split at stepped
  next connection found =>
    split at stepped
    next frame writing =>
      cases stepped
      exact ⟨connection, frame, found, writing, rfl⟩
    next => cases stepped
  next => cases stepped

theorem writeError_some (stepped : relay.writeError conn = some after) :
    ∃ connection frame, relay.connection? conn = some connection ∧
      connection.pump = .writing frame ∧
      after = (relay.setConnection conn { connection with pump := .stopped }).record
        (clipFact .failed connection.client.device.id frame) := by
  rw [writeError] at stepped
  split at stepped
  next connection found =>
    split at stepped
    next frame writing =>
      cases stepped
      exact ⟨connection, frame, found, writing, rfl⟩
    next => cases stepped
  next => cases stepped

theorem stopPump_some (stepped : relay.stopPump conn = some after) :
    ∃ connection, relay.connection? conn = some connection ∧ connection.pump = .ready ∧
      after = relay.setConnection conn { connection with pump := .stopped } := by
  rw [stopPump] at stepped
  split at stepped
  next connection found =>
    split_ifs at stepped with stops
    cases stepped
    exact ⟨connection, found, stops.1, rfl⟩
  next => cases stepped

/-! ## Everything else -/

theorem refreshSettings_some {index : Nat} (stepped : relay.refreshSettings index = some after) :
    ∃ settings, relay.refreshing[index]? = some settings ∧
      after = { relay with
        daemon := { relay.daemon with hub := { relay.daemon.hub with settings } }
        refreshing := relay.refreshing.eraseIdx index } := by
  rw [refreshSettings] at stepped
  split at stepped
  next => cases stepped
  next settings found =>
    cases stepped
    exact ⟨settings, found, rfl⟩

theorem broadcast_some {id text : String}
    (stepped : relay.broadcast env id text now = some after) :
    after = { relay with
      broadcasting := relay.broadcasting ++ [ClipEvent.broadcastOf env.lib id text now] } := by
  unfold broadcast at stepped
  simp only at stepped
  split_ifs at stepped
  cases stepped
  rfl

theorem claimPairing_some {code suffix name platform token : String}
    (stepped : relay.claimPairing env code suffix name platform token now = some after) :
    after = relay.withStore (TokenOp.apply env.lib relay.daemon.store
      (.claimPairing code now (.paired suffix name platform now)
        (env.hasher.hashToken token))) := by
  rw [claimPairing] at stepped
  split_ifs at stepped
  cases stepped
  rfl

theorem touchBlob_some {id : BlobID} {size : Int} {mime : String}
    (stepped : relay.touchBlob id now size mime = some after) :
    validID id = true ∧
      after = relay.withStore (relay.daemon.store.touchBlob id now size mime) := by
  rw [touchBlob] at stepped
  split_ifs at stepped with valid
  cases stepped
  exact ⟨valid, rfl⟩

/-- Rotation steps write token records and their index only. -/
theorem rotateToken_store {op : TokenOp} (stepped : relay.rotateToken env op = some after) :
    ∃ tokens tokenIndex,
      after = relay.withStore { relay.daemon.store with tokens, tokenIndex } := by
  simp only [rotateToken] at stepped
  split at stepped
  case h_1 id hash at_ =>
    cases stepped
    simp only [TokenOp.apply, Store.rotateToken]
    split
    next => exact ⟨_, _, rfl⟩
    next => split_ifs <;> exact ⟨_, _, rfl⟩
  case h_2 id prev hash at_ =>
    cases stepped
    simp only [TokenOp.apply, Store.reissuePendingToken]
    split
    next => exact ⟨_, _, rfl⟩
    next => split_ifs <;> exact ⟨_, _, rfl⟩
  case h_3 id =>
    cases stepped
    simp only [TokenOp.apply, Store.retireOldToken]
    split
    next => exact ⟨_, _, rfl⟩
    next => split_ifs <;> exact ⟨_, _, rfl⟩
  case h_4 => cases stepped

theorem rotateToken_some {op : TokenOp} (stepped : relay.rotateToken env op = some after) :
    ∃ store : Store, after = relay.withStore store ∧
      store.queues = relay.daemon.store.queues ∧ store.blobs = relay.daemon.store.blobs ∧
      store.devices = relay.daemon.store.devices := by
  obtain ⟨tokens, tokenIndex, rfl⟩ := rotateToken_store stepped
  exact ⟨_, rfl, rfl, rfl, rfl⟩

/-! ## A route without interruption

The hub executes `handleRoute` in several steps; taken one after the other they are
the handler. -/

theorem deliverAll_reachable (now : Time) {source : Option ConnID} {event : ClipEvent}
    {settings : RuntimeSettings} {targets : List Device} {progress : Daemon.RouteProgress}
    (routing : relay.task = .routing source event settings targets progress) :
    ∃ after, Reachable (step env) relay after ∧
      (after.daemon, after.task) =
        ((Daemon.deliverAll event settings.queueDepthPerDevice now relay.daemon progress targets).1,
          .routing source event settings []
            (Daemon.deliverAll event settings.queueDepthPerDevice now relay.daemon progress
              targets).2) := by
  induction targets generalizing relay progress with
  | nil => exact ⟨relay, .refl, by rw [routing]; rfl⟩
  | cons target rest ih =>
      obtain ⟨served, stepped, daemon, task⟩ : ∃ served, relay.routeDeliver now = some served ∧
          served.daemon = (relay.daemon.deliverTo event settings.queueDepthPerDevice now target).1 ∧
          served.task = .routing source event settings rest (progress.record target.id
            (relay.daemon.deliverTo event settings.queueDepthPerDevice now target).2) := by
        rw [routeDeliver, routing]
        exact ⟨_, rfl, rfl, rfl⟩
      have delivers : relay.step env (.routeDeliver now) = some served := stepped
      obtain ⟨after, continued, same⟩ := ih task
      rw [daemon] at same
      exact ⟨after, Run.trans (.tail .refl trivial delivers) continued, same⟩

theorem handleRoute_reachable (now : Time) {source : Option ConnID} {event : ClipEvent}
    (admitted : relay.task = .admitted source event relay.daemon.hub.settings)
    (passes : Daemon.refuses relay.daemon.hub.settings event = false) :
    ∃ after progress, Reachable (step env) relay after ∧
      after.task = .routing source event relay.daemon.hub.settings [] progress ∧
      (after.daemon, progress.result) = relay.daemon.handleRoute env event now := by
  obtain ⟨prepared, stepped, daemon, task⟩ : ∃ prepared,
      relay.routePrepare env now = some prepared ∧ prepared.daemon =
        (relay.daemon.prepareRoute env event relay.daemon.hub.settings now).1 ∧
      prepared.task = .routing source event relay.daemon.hub.settings
        (relay.daemon.prepareRoute env event relay.daemon.hub.settings now).2 ⟨[], false⟩ := by
    rw [routePrepare, admitted]
    exact ⟨_, rfl, rfl, rfl⟩
  have prepares : relay.step env (.routePrepare now) = some prepared := stepped
  obtain ⟨after, continued, same⟩ := deliverAll_reachable now task
  obtain ⟨sameDaemon, sameTask⟩ := Prod.mk.inj same
  refine ⟨after, _, Run.trans (.tail .refl trivial prepares) continued, sameTask, ?_⟩
  rw [sameDaemon, daemon, Daemon.handleRoute]
  simp [passes]

end CopySync.Server.Relay
