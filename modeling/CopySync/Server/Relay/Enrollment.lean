import CopySync.Server.Relay.Provenance

/-!
# How devices get in

A device gets its first credential by claiming a pairing code, and connects with a credential
it has.  Codes come and go with the steps that put, purge and claim them, and with no others.
-/

namespace CopySync.Server

open Foundation

/-- Steps that write pairing codes. -/
def Action.onPairing : Action → Bool
  | .putPairing _ | .purgePairing _ | .claimPairing .. => true
  | _ => false

namespace Relay

variable {env : Env} {relay after : Relay} {action : Action}

abbrev codes (relay : Relay) : OrderedMap String PairingCode := relay.daemon.store.pairing

theorem codes_of_store {store : Store} (daemon : after.daemon.store = store)
    (same : store.pairing = relay.codes) : after.codes = relay.codes := by
  rw [codes, daemon, same]

theorem updateLastSeen_codes (store : Store) (id : DeviceID) (now : Time) :
    (store.updateLastSeen id now).pairing = store.pairing := by
  rw [Store.updateLastSeen]
  split <;> rfl

theorem prepareRoute_codes (daemon : Daemon) (event : ClipEvent) (settings : RuntimeSettings)
    (now : Time) :
    (daemon.prepareRoute env event settings now).1.store.pairing = daemon.store.pairing := by
  simp only [Daemon.prepareRoute, Daemon.claimBlob]
  split_ifs <;> rfl

/-- One case analysis over all actions. -/
theorem codes_of_step (other : action.onPairing = false)
    (stepped : relay.step env action = some after) : after.codes = relay.codes := by
  cases action with
  | putPairing | purgePairing | claimPairing => cases other
  | connect id token =>
      obtain ⟨device, -, rfl⟩ := connect_some stepped
      rfl
  | readSettings conn =>
      obtain ⟨connection, -, -, rfl⟩ := readSettings_some stepped
      rfl
  | drain conn =>
      obtain ⟨connection, settings, -, -, rfl⟩ := drain_some stepped
      refine codes_of_store rfl ?_
      rw [Store.drainQueue]
      split <;> rfl
  | requeue conn =>
      obtain ⟨connection, depth, item, rest, -, -, rfl⟩ := requeue_some stepped
      rfl
  | registerReturn conn =>
      obtain ⟨connection, depth, -, -, rfl⟩ := registerReturn_some stepped
      rfl
  | sendToken conn token =>
      obtain ⟨connection, -, -, rfl⟩ := sendToken_some stepped
      exact codes_of_store (Daemon.push_store ..) rfl
  | ack conn =>
      obtain ⟨connection, payload, -, -, rfl⟩ := ack_some stepped
      exact codes_of_store (Daemon.push_store ..) rfl
  | registerStart conn now =>
      obtain ⟨connection, settings, items, -, -, -, rfl⟩ := registerStart_some stepped
      exact codes_of_store (Daemon.enroll_store ..) (updateLastSeen_codes ..)
  | registerDeliver =>
      obtain ⟨conn, connection, settings, item, rest, -, -, -, ⟨-, rfl⟩ | ⟨-, rfl⟩⟩ :=
        registerDeliver_some stepped
      · rfl
      · rfl
  | registerFinish =>
      obtain ⟨conn, connection, settings, rest, full, -, -, -, -, rfl⟩ :=
        registerFinish_some stepped
      exact codes_of_store (Daemon.broadcastPresence_store ..) rfl
  | unregister conn now =>
      obtain ⟨connection, -, -, -, rfl⟩ := unregister_some stepped
      rcases Daemon.handleUnregister_store (relay.setSession conn connection .left).daemon conn
        connection.client.device now with same | seen
      · exact codes_of_store same rfl
      · exact codes_of_store seen (updateLastSeen_codes ..)
  | receiveClip conn event now =>
      obtain ⟨connection, -, -, -, ⟨payload, rfl⟩ | ⟨-, rfl⟩⟩ := receiveClip_some stepped
      · rfl
      · rfl
  | routeBroadcast index =>
      obtain ⟨event, -, -, rfl | ⟨-, rfl⟩⟩ := routeBroadcast_some stepped
      · rfl
      · rfl
  | routePrepare now =>
      obtain ⟨source, event, settings, -, rfl⟩ := routePrepare_some stepped
      exact codes_of_store rfl (prepareRoute_codes ..)
  | routeDeliver now =>
      obtain ⟨source, event, settings, target, rest, progress, -, served, delivery, delivered,
        rfl⟩ := routeDeliver_some stepped
      rcases Daemon.deliverTo_cases _ _ delivered with
        ⟨-, -, rfl⟩ | ⟨-, conn, connection, -, -, -, -, rfl⟩ | ⟨-, base, -, -, rfl⟩
      · rfl
      · rfl
      · rfl
  | routeFinish =>
      obtain ⟨source, event, settings, progress, -, rfl | ⟨conn, connection, payload, -, -, -,
        rfl⟩⟩ := routeFinish_some stepped
      · rfl
      · rfl
  | setPool conn pool =>
      obtain ⟨-, rfl | ⟨connection, device, -, -, rfl⟩⟩ := setPool_some stepped
      · rfl
      · rfl
  | storePool =>
      obtain ⟨device, pool, -, rfl⟩ := storePool_some stepped
      exact codes_of_store (Daemon.storePool_store ..) rfl
  | requestBlob blob =>
      rw [requestBlob_some stepped]
      exact codes_of_store (Daemon.handleBlobRequest_store ..) rfl
  | evict id =>
      obtain ⟨-, -, rfl⟩ := evict_some stepped
      exact codes_of_store (Daemon.handleEvict_store ..) rfl
  | takeFrame conn =>
      obtain ⟨connection, frame, rest, -, -, -, rfl⟩ := takeFrame_some stepped
      rfl
  | wroteFrame conn =>
      obtain ⟨connection, frame, -, -, rfl⟩ := wroteFrame_some stepped
      rfl
  | writeError conn =>
      obtain ⟨connection, frame, -, -, rfl⟩ := writeError_some stepped
      rfl
  | stopPump conn =>
      obtain ⟨connection, -, -, rfl⟩ := stopPump_some stepped
      rfl
  | broadcast id text now =>
      rw [broadcast_some stepped]
  | rotateToken op =>
      obtain ⟨tokens, tokenIndex, rfl⟩ := rotateToken_store stepped
      rfl
  | purgeQueues now =>
      cases stepped
      refine codes_of_store rfl ?_
      simp only [purgeQueues, record, withStore, Store.purgeExpiredQueueItems]
      split_ifs <;> rfl
  | touchBlob blob now size mime =>
      obtain ⟨-, rfl⟩ := touchBlob_some stepped
      rfl
  | refreshSettings index =>
      obtain ⟨settings, -, rfl⟩ := refreshSettings_some stepped
      rfl
  | deleteDevice | putSettings | loadSettings | collectBlob =>
      cases stepped
      rfl

end Relay

end CopySync.Server
