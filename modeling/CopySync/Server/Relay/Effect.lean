import CopySync.Server.Relay.Delivery

/-!
# What a step can do

The parts of the relay that invariants reason about outside the mailboxes, and what
each step can do to them, proved by one case analysis over all actions.

Four steps change the registry: a registration enters it, replacing an older
connection of the device; an unregister leaves it; a deletion evicts; and a route
evicts a client whose send buffer is full.  The blob bookkeeping grows only by the
claim of a routed clip, and records are otherwise only touched and collected.
Connections never change their owner, the log only grows, and the settings snapshot
changes only by a refresh.
-/

namespace CopySync.Server

open Foundation

/-- Facts about the blob bookkeeping. -/
def Fact.onBlobs : Fact → Bool
  | .routed _ _ _ | .collected _ => true
  | _ => false

namespace Relay

abbrev clients (relay : Relay) : OrderedMap DeviceID ConnID := relay.daemon.hub.clients

/-- The device of every connection, by connection number. -/
def owners (relay : Relay) : List DeviceID := relay.daemon.connections.map Connection.owner

/-- How an action can change the registry. -/
inductive RegistryChange (relay : Relay) : Action → OrderedMap DeviceID ConnID → Prop where
  | keep {action : Action} : RegistryChange relay action relay.clients
  | enter {conn : ConnID} {now : Time} {connection : Connection} (idle : relay.task = .idle)
      (found : relay.connection? conn = some connection) :
      RegistryChange relay (.registerStart conn now) (relay.clients.put connection.owner conn)
  | leave {conn : ConnID} {now : Time} {connection : Connection} (idle : relay.task = .idle)
      (found : relay.connection? conn = some connection)
      (registered : relay.clients.get? connection.owner = some conn) :
      RegistryChange relay (.unregister conn now) (relay.clients.erase connection.owner)
  | evict {id : DeviceID} (idle : relay.task = .idle) (deleted : id ∈ relay.deleting) :
      RegistryChange relay (.evict id) (relay.clients.erase id)
  | slow {now : Time} {source : Option ConnID} {event : ClipEvent} {settings : RuntimeSettings}
      {target : Device} {rest : List Device} {progress : Daemon.RouteProgress} {conn : ConnID}
      (task : relay.task = .routing source event settings (target :: rest) progress)
      (notOrigin : target.id ≠ event.originDevice)
      (registered : relay.clients.get? target.id = some conn)
      (full : ∀ connection, relay.connection? conn = some connection →
        ¬connection.client.send.length < sendBuffer) :
      RegistryChange relay (.routeDeliver now) (relay.clients.erase target.id)

/-- How an action can change what the hub is doing. -/
inductive TaskChange (relay : Relay) (after : Relay) : Action → Task → Prop where
  | keep {action : Action} : TaskChange relay after action relay.task
  | finish {action : Action} : TaskChange relay after action .idle
  | register {conn : ConnID} {now : Time} {connection : Connection} (idle : relay.task = .idle)
      (found : relay.connection? conn = some connection)
      (entered : after.clients.get? connection.owner = some conn) :
      TaskChange relay after (.registerStart conn now) (.registering conn)
  | ingest {action : Action} {source : Option ConnID} {event : ClipEvent}
      (idle : relay.task = .idle)
      (passes : Daemon.refuses relay.daemon.hub.settings event = false) :
      TaskChange relay after action (.admitted source event relay.daemon.hub.settings)
  | prepare {now : Time} {source : Option ConnID} {event : ClipEvent}
      {settings : RuntimeSettings} {targets : List Device} {claimed : Bool}
      (task : relay.task = .admitted source event settings)
      (recorded : .routed event targets claimed ∈ after.log) :
      TaskChange relay after (.routePrepare now)
        (.routing source event settings targets ⟨[], false⟩)
  | deliver {now : Time} {source : Option ConnID} {event : ClipEvent}
      {settings : RuntimeSettings} {target : Device} {rest : List Device}
      {progress continued : Daemon.RouteProgress}
      (task : relay.task = .routing source event settings (target :: rest) progress) :
      TaskChange relay after (.routeDeliver now) (.routing source event settings rest continued)
  | repool {conn : ConnID} {pool : String} {key : DeviceID} {device : Device}
      (idle : relay.task = .idle) (stored : relay.daemon.store.devices.get? key = some device) :
      TaskChange relay after (.setPool conn pool) (.repooling device (poolName pool))

/-- How an action can change the blob bookkeeping: access lists and on-demand holders
in memory, records in the store; with the facts it adds to the log. -/
inductive LedgerChange (relay after : Relay) : Action → List Fact → Prop where
  | keep {action : Action} {facts : List Fact}
      (access : ∀ blob acl, after.daemon.hub.blobACL.get? blob = some acl →
        relay.daemon.hub.blobACL.get? blob = some acl)
      (holders : ∀ blob id, after.daemon.hub.onDemand.get? blob = some id →
        relay.daemon.hub.onDemand.get? blob = some id)
      (blobs : after.daemon.store.blobs = relay.daemon.store.blobs)
      (quiet : ∀ fact ∈ facts, fact.onBlobs = false) : LedgerChange relay after action facts
  | route {now : Time} {source : Option ConnID} {event : ClipEvent} {settings : RuntimeSettings}
      {targets : List Device} (task : relay.task = .admitted source event settings)
      (hub : after.daemon.hub.blobACL = (relay.daemon.claimBlob event targets).hub.blobACL ∧
        after.daemon.hub.onDemand = (relay.daemon.claimBlob event targets).hub.onDemand)
      (blobs : after.daemon.store.blobs = (relay.daemon.claimBlob event targets).store.blobs) :
      LedgerChange relay after (.routePrepare now) [.routed event targets (relay.claims event)]
  | touch {id : BlobID} {now : Time} {size : Int} {mime : String} (valid : validID id = true)
      (hub : after.daemon.hub = relay.daemon.hub)
      (blobs : after.daemon.store.blobs = (relay.daemon.store.touchBlob id now size mime).blobs) :
      LedgerChange relay after (.touchBlob id now size mime) []
  | collect {id : BlobID} (hub : after.daemon.hub = relay.daemon.hub)
      (blobs : after.daemon.store.blobs = (relay.daemon.store.deleteBlobEntry id).blobs) :
      LedgerChange relay after (.collectBlob id) [.collected id]

/-- The facts an action adds and what it does to the blob bookkeeping. -/
def Ledger (relay : Relay) (action : Action) (after : Relay) : Prop :=
  ∃ facts, after.log = relay.log ++ facts ∧ LedgerChange relay after action facts

/-- Where a stored device can come from: an earlier record of the same id, the device
a pool change has read, or a pairing, which mints its id. -/
def DevicesFrom (relay after : Relay) : Prop :=
  ∀ key device, after.daemon.store.devices.get? key = some device →
    (∃ old, relay.daemon.store.devices.get? key = some old ∧ device.id = old.id) ∨
    (∃ read pool, relay.task = .repooling read pool ∧ device.id = read.id) ∨
    ∃ suffix, device.id = "dev_" ++ suffix

/-- Everything a step can do outside the mailboxes. -/
structure Effect (relay : Relay) (action : Action) (after : Relay) : Prop where
  registry : RegistryChange relay action after.clients
  owners : after.owners = relay.owners ∨ ∃ id, after.owners = relay.owners ++ [id]
  task : TaskChange relay after action after.task
  deleting : ∀ id ∈ after.deleting, id ∈ relay.deleting ∨ action = .deleteDevice id
  ledger : Ledger relay action after
  devices : DevicesFrom relay after
  settings : after.daemon.hub.settings = relay.daemon.hub.settings ∨
    ∃ index, action = .refreshSettings index ∧
      relay.refreshing[index]? = some after.daemon.hub.settings

section Steps

variable {env : Env} {relay after : Relay} {action : Action}

/-! ### Devices and bookkeeping that stay -/

theorem DevicesFrom.of_eq
    (same : after.daemon.store.devices = relay.daemon.store.devices) :
    DevicesFrom relay after := by
  intro key device found
  exact .inl ⟨device, same ▸ found, rfl⟩

/-- Marking a device as seen keeps its id. -/
theorem DevicesFrom.of_updateLastSeen {id : DeviceID} {now : Time}
    (seen : after.daemon.store.devices =
      (relay.daemon.store.updateLastSeen id now).devices) : DevicesFrom relay after := by
  intro key device found
  rw [seen, Store.updateLastSeen] at found
  split at found
  next => exact .inl ⟨device, found, rfl⟩
  next old present =>
    rw [OrderedMap.get?_put] at found
    split_ifs at found with same
    · cases found
      exact .inl ⟨old, same ▸ present, rfl⟩
    · exact .inl ⟨device, found, rfl⟩

/-- The log grows by facts that are not about blobs. -/
def LogGrows (relay after : Relay) : Prop :=
  ∃ facts, after.log = relay.log ++ facts ∧ ∀ fact ∈ facts, fact.onBlobs = false

theorem LogGrows.same (log : after.log = relay.log) : LogGrows relay after :=
  ⟨[], by simp [log], by simp⟩

theorem onBlobs_trimmedFacts (id : DeviceID) (items : List QueueItem) :
    ∀ fact ∈ trimmedFacts id items, fact.onBlobs = false := by
  simp [trimmedFacts, Fact.onBlobs]

theorem onBlobs_clipFact (stage : Stage) (id : DeviceID) (frame : Frame) :
    ∀ fact ∈ clipFact stage id frame, fact.onBlobs = false := by
  cases clip : frame.clip? with
  | none => simp [clipFact, clip]
  | some event => simp [clipFact, clip, Fact.onBlobs]

theorem onBlobs_deliveryFacts (event : ClipEvent) (now : Time) (target : DeviceID)
    (delivery : Daemon.Delivery) :
    ∀ fact ∈ relay.deliveryFacts event now target delivery, fact.onBlobs = false := by
  cases delivery with
  | skipped => simp [deliveryFacts]
  | relayed conn => simp [deliveryFacts, Fact.onBlobs]
  | queued trimmed =>
      simp only [deliveryFacts, List.forall_mem_cons]
      exact ⟨rfl, rfl, onBlobs_trimmedFacts _ _⟩

/-- Steps that leave the access lists and holders, or prune them. -/
theorem Ledger.of_logGrows
    (access : ∀ blob acl, after.daemon.hub.blobACL.get? blob = some acl →
      relay.daemon.hub.blobACL.get? blob = some acl)
    (holders : ∀ blob id, after.daemon.hub.onDemand.get? blob = some id →
      relay.daemon.hub.onDemand.get? blob = some id)
    (blobs : after.daemon.store.blobs = relay.daemon.store.blobs) (log : LogGrows relay after) :
    Ledger relay action after := by
  obtain ⟨facts, grown, quiet⟩ := log
  exact ⟨facts, grown, .keep access holders blobs quiet⟩

theorem Ledger.of_hub (hub : after.daemon.hub = relay.daemon.hub)
    (blobs : after.daemon.store.blobs = relay.daemon.store.blobs) (log : LogGrows relay after) :
    Ledger relay action after :=
  .of_logGrows (fun _ _ found => hub ▸ found) (fun _ _ found => hub ▸ found) blobs log

theorem pruneOnDemand_access {hub : Hub} {id : DeviceID} {blob : BlobID} {acl : BlobACL}
    (found : (hub.pruneOnDemand id).blobACL.get? blob = some acl) :
    hub.blobACL.get? blob = some acl := by
  rw [Hub.pruneOnDemand, OrderedMap.get?_filter, Option.filter_eq_some_iff] at found
  exact found.1

theorem pruneOnDemand_holders {hub : Hub} {id holder : DeviceID} {blob : BlobID}
    (found : (hub.pruneOnDemand id).onDemand.get? blob = some holder) :
    hub.onDemand.get? blob = some holder := by
  rw [Hub.pruneOnDemand, OrderedMap.get?_filter, Option.filter_eq_some_iff] at found
  exact found.1

/-- Steps that leave a registry and prune the bookkeeping of the device. -/
theorem Ledger.of_prune {clients : OrderedMap DeviceID ConnID} {id : DeviceID}
    (hub : after.daemon.hub = { relay.daemon.hub with clients }.pruneOnDemand id)
    (blobs : after.daemon.store.blobs = relay.daemon.store.blobs) (log : LogGrows relay after) :
    Ledger relay action after :=
  .of_logGrows (fun _ _ found => pruneOnDemand_access (hub ▸ found))
    (fun _ _ found => pruneOnDemand_holders (hub ▸ found)) blobs log

/-- Steps that leave the hub's maps, the records, the devices and the deletions
alone. -/
theorem Effect.of_hub (hub : after.daemon.hub = relay.daemon.hub)
    (blobs : after.daemon.store.blobs = relay.daemon.store.blobs)
    (devices : after.daemon.store.devices = relay.daemon.store.devices)
    (owners : after.owners = relay.owners ∨ ∃ id, after.owners = relay.owners ++ [id])
    (task : TaskChange relay after action after.task)
    (deleting : after.deleting = relay.deleting)
    (log : LogGrows relay after) : Effect relay action after where
  registry := by
    rw [clients, hub]
    exact .keep
  owners := owners
  task := task
  deleting := fun id membership => .inl (deleting ▸ membership)
  ledger := .of_hub hub blobs log
  devices := .of_eq devices
  settings := .inl (by rw [hub])

/-- Replacing a connection by one of the same device keeps the owners. -/
theorem owners_setConnection {conn : ConnID} {connection new : Connection}
    (found : relay.connection? conn = some connection) (owner : new.owner = connection.owner) :
    (relay.setConnection conn new).owners = relay.owners :=
  map_set_of_eq found owner

/-- Steps of one connection that put it into another state. -/
theorem Effect.of_setConnection {conn : ConnID} {connection new : Connection}
    (found : relay.connection? conn = some connection) (owner : new.owner = connection.owner) :
    Effect relay action (relay.setConnection conn new) :=
  .of_hub rfl rfl rfl (.inl (owners_setConnection found owner)) .keep rfl (.same rfl)

/-! ### Routing -/

theorem claimBlob_clients (daemon : Daemon) (event : ClipEvent) (targets : List Device) :
    (daemon.claimBlob event targets).hub.clients = daemon.hub.clients := by
  rw [Daemon.claimBlob]
  split_ifs <;> rfl

theorem claimBlob_settings (daemon : Daemon) (event : ClipEvent) (targets : List Device) :
    (daemon.claimBlob event targets).hub.settings = daemon.hub.settings := by
  rw [Daemon.claimBlob]
  split_ifs <;> rfl

theorem claimBlob_devices (daemon : Daemon) (event : ClipEvent) (targets : List Device) :
    (daemon.claimBlob event targets).store.devices = daemon.store.devices := by
  rw [Daemon.claimBlob]
  split_ifs <;> rfl

/-- A claim depends on, and changes, only the registry and the bookkeeping. -/
theorem claimBlob_congr {left right : Daemon} (event : ClipEvent) (targets : List Device)
    (clients : left.hub.clients = right.hub.clients)
    (access : left.hub.blobACL = right.hub.blobACL)
    (holders : left.hub.onDemand = right.hub.onDemand)
    (blobs : left.store.blobs = right.store.blobs) :
    ((left.claimBlob event targets).hub.blobACL = (right.claimBlob event targets).hub.blobACL ∧
      (left.claimBlob event targets).hub.onDemand = (right.claimBlob event targets).hub.onDemand) ∧
      (left.claimBlob event targets).store.blobs = (right.claimBlob event targets).store.blobs := by
  have decision : left.hub.claimOK event = right.hub.claimOK event := by
    simp [Hub.claimOK, clients, access]
  simp only [Daemon.claimBlob]
  rw [decision]
  split_ifs
  · simp [Store.setBlobACL, access, holders, blobs]
  · simp [Store.setBlobACL, access, holders, blobs]
  · exact ⟨⟨access, holders⟩, blobs⟩

/-- The monitor record and the activity counter do not matter to the claim. -/
theorem prepareRoute_claims (env : Env) (daemon : Daemon) (event : ClipEvent)
    (settings : RuntimeSettings) (now : Time) :
    ((daemon.prepareRoute env event settings now).1.hub.blobACL =
        (daemon.claimBlob event (daemon.prepareRoute env event settings now).2).hub.blobACL ∧
      (daemon.prepareRoute env event settings now).1.hub.onDemand =
        (daemon.claimBlob event (daemon.prepareRoute env event settings now).2).hub.onDemand) ∧
      (daemon.prepareRoute env event settings now).1.store.blobs =
        (daemon.claimBlob event (daemon.prepareRoute env event settings now).2).store.blobs := by
  simp only [Daemon.prepareRoute]
  exact claimBlob_congr event _ rfl rfl rfl rfl

theorem routePrepare_effect {now : Time} (stepped : relay.routePrepare env now = some after) :
    Effect relay (.routePrepare now) after := by
  obtain ⟨source, event, settings, task, rfl⟩ := routePrepare_some stepped
  obtain ⟨hub, blobs⟩ := prepareRoute_claims env relay.daemon event settings now
  exact {
    registry := by
      rw [clients, record, Daemon.prepareRoute, claimBlob_clients]
      exact .keep
    owners := .inl (by simp [owners, record, Daemon.prepareRoute_connections])
    task := .prepare task (List.mem_append_right _ (List.mem_singleton_self _))
    deleting := fun id membership => .inl membership
    ledger := ⟨_, rfl, .route task hub blobs⟩
    devices := .of_eq (claimBlob_devices ..)
    settings := .inl (claimBlob_settings ..) }

theorem routeDeliver_effect {now : Time} (stepped : relay.routeDeliver now = some after) :
    Effect relay (.routeDeliver now) after := by
  obtain ⟨source, event, settings, target, rest, progress, task, served, delivery,
    delivered, rfl⟩ := routeDeliver_some stepped
  have log : ∀ {daemon : Daemon} {task : Task}, LogGrows relay
      ({ relay with daemon, task }.record (relay.deliveryFacts event now target.id delivery)) :=
    ⟨_, rfl, onBlobs_deliveryFacts _ _ _ _⟩
  rcases Daemon.deliverTo_cases _ _ delivered with
    ⟨-, rfl, rfl⟩ | ⟨-, conn, connection, -, found, -, rfl, rfl⟩ |
      ⟨notOrigin, base, ⟨-, rfl⟩ | ⟨conn, registered, full, rfl⟩, rfl, rfl⟩
  · exact .of_hub rfl rfl rfl (.inl rfl) (.deliver task) rfl log
  · exact .of_hub rfl rfl rfl (.inl (map_set_of_eq found rfl)) (.deliver task) rfl log
  · exact .of_hub rfl (by simp [record]) (by simp [record]) (.inl rfl) (.deliver task) rfl log
  · exact {
      registry := by
        rw [clients, record, Daemon.evictSlow_hub]
        exact .slow task notOrigin registered full
      owners := .inl (Daemon.map_evictSlow Connection.owner_blind relay.daemon target.id conn)
      task := .deliver task
      deleting := fun id membership => .inl membership
      ledger := .of_prune (Daemon.evictSlow_hub ..) (by simp [record]) log
      devices := .of_eq (by simp [record])
      settings := .inl (by rw [record, Daemon.evictSlow_hub]; rfl) }

/-! ### Registration -/

theorem registerStart_effect {conn : ConnID} {now : Time}
    (stepped : relay.registerStart env conn now = some after) :
    Effect relay (.registerStart conn now) after := by
  obtain ⟨connection, settings, items, idle, found, -, rfl⟩ := registerStart_some stepped
  exact {
    registry := by
      rw [clients, Daemon.enroll_hub]
      exact .enter idle found
    owners := .inl ((Daemon.map_enroll Connection.owner_blind ..).trans
      (owners_setConnection found rfl))
    task := .register idle found (by simp [clients])
    deleting := fun id membership => .inl membership
    ledger := .of_logGrows (by simp [setSession, setConnection])
      (by simp [setSession, setConnection]) (by simp [setSession, setConnection]) (.same rfl)
    devices := .of_updateLastSeen (by rw [Daemon.enroll_store]; rfl)
    settings := .inl (by rw [Daemon.enroll_hub]; rfl) }

theorem unregister_effect {conn : ConnID} {now : Time}
    (stepped : relay.unregister conn now = some after) :
    Effect relay (.unregister conn now) after := by
  obtain ⟨connection, idle, found, -, rfl⟩ := unregister_some stepped
  have store := Daemon.handleUnregister_store
    (relay.setSession conn connection .left).daemon conn connection.client.device now
  have blobs : ((relay.setSession conn connection .left).daemon.handleUnregister conn
      connection.client.device now).store.blobs = relay.daemon.store.blobs := by
    rcases store with same | seen
    · rw [same]; rfl
    · rw [seen, Store.updateLastSeen_blobs]; rfl
  exact {
    registry := by
      rw [clients, Daemon.handleUnregister_hub]
      split_ifs with registered
      · exact .leave idle found registered
      · exact .keep
    owners := .inl ((Daemon.map_handleUnregister Connection.owner_blind ..).trans
      (owners_setConnection found rfl))
    task := .keep
    deleting := fun id membership => .inl membership
    ledger := by
      have hub := Daemon.handleUnregister_hub
        (relay.setSession conn connection .left).daemon conn connection.client.device now
      split_ifs at hub
      · exact .of_prune hub blobs (.same rfl)
      · exact .of_hub hub blobs (.same rfl)
    devices := by
      rcases store with same | seen
      · exact .of_eq (by rw [same]; rfl)
      · exact .of_updateLastSeen (by rw [seen]; rfl)
    settings := .inl (by rw [Daemon.handleUnregister_hub]; split_ifs <;> rfl) }

theorem evict_effect {id : DeviceID} (stepped : relay.evict id = some after) :
    Effect relay (.evict id) after := by
  obtain ⟨idle, deleted, rfl⟩ := evict_some stepped
  have owners := Daemon.map_handleEvict Connection.owner_blind relay.daemon id
  have deleting : ∀ other ∈ relay.deleting.erase id,
      other ∈ relay.deleting ∨ Action.evict id = .deleteDevice other := fun other membership =>
    .inl (List.mem_of_mem_erase membership)
  rcases relay.daemon.handleEvict_hub id with hub | hub
  · exact {
      registry := by
        rw [clients, hub]
        exact .keep
      owners := .inl owners
      task := .keep
      deleting := deleting
      ledger := .of_hub hub (by simp) (.same rfl)
      devices := .of_eq (by simp)
      settings := .inl (by rw [hub]) }
  · exact {
      registry := by
        rw [clients, hub]
        exact .evict idle deleted
      owners := .inl owners
      task := .keep
      deleting := deleting
      ledger := .of_prune hub (by simp) (.same rfl)
      devices := .of_eq (by simp)
      settings := .inl (by rw [hub]; rfl) }

/-! ### Pairing and pools -/

theorem claimPairing_effect {code suffix name platform token : String} {now : Time}
    (stepped : relay.claimPairing env code suffix name platform token now = some after) :
    Effect relay (.claimPairing code suffix name platform token now) after := by
  rw [claimPairing_some stepped]
  simp only [TokenOp.apply]
  split
  next store claimed =>
    obtain ⟨entry, -, -, -, -, rfl⟩ := Store.claimPairing_ok claimed
    refine ⟨.keep, .inl rfl, .keep, fun id membership => .inl membership,
      .of_hub rfl rfl (.same rfl), fun key device found => ?_, .inl rfl⟩
    simp only [withStore, OrderedMap.get?_put] at found
    split_ifs at found
    · cases found
      exact .inr (.inr ⟨suffix, rfl⟩)
    · exact .inl ⟨device, found, rfl⟩
  next => exact .of_hub rfl rfl rfl (.inl rfl) .keep rfl (.same rfl)

theorem storePool_effect (stepped : relay.storePool env = some after) :
    Effect relay .storePool after := by
  obtain ⟨device, pool, task, rfl⟩ := storePool_some stepped
  have hub := Daemon.storePool_hub env relay.daemon device pool
  refine ⟨by rw [clients, hub]; exact .keep,
    .inl (Daemon.map_storePool Connection.owner_blind ..), .finish,
    fun id membership => .inl membership, .of_hub hub (by simp) (.same rfl),
    fun key stored found => ?_, .inl (by rw [hub])⟩
  simp only [Daemon.storePool_store, Store.putDevice, OrderedMap.get?_put] at found
  split_ifs at found
  · cases found
    exact .inr (.inl ⟨device, pool, task, rfl⟩)
  · exact .inl ⟨stored, found, rfl⟩

theorem deleteDevice_effect (id : DeviceID) :
    Effect relay (.deleteDevice id) (relay.deleteDevice env id) := by
  refine ⟨.keep, .inl rfl, .keep, fun other membership => ?_,
    .of_hub rfl rfl ⟨_, rfl, ?_⟩, fun key device found => ?_, .inl rfl⟩
  · rcases List.mem_cons.mp membership with rfl | old
    · exact .inr rfl
    · exact .inl old
  · exact List.forall_mem_cons.mpr ⟨rfl, onBlobs_trimmedFacts _ _⟩
  · simp only [deleteDevice, record, withStore, Store.deleteDevice, OrderedMap.get?_erase] at found
    split_ifs at found
    exact .inl ⟨device, found, rfl⟩

/-! ### All actions -/

/-- One case analysis over all actions. -/
theorem effect_of_step (stepped : relay.step env action = some after) :
    Effect relay action after := by
  have blind := Connection.owner_blind
  cases action with
  | routePrepare now => exact routePrepare_effect stepped
  | routeDeliver now => exact routeDeliver_effect stepped
  | registerStart conn now => exact registerStart_effect stepped
  | unregister conn now => exact unregister_effect stepped
  | evict id => exact evict_effect stepped
  | claimPairing code suffix name platform token now => exact claimPairing_effect stepped
  | storePool => exact storePool_effect stepped
  | connect device token =>
      obtain ⟨found, -, rfl⟩ := connect_some stepped
      exact .of_hub rfl rfl rfl (.inr ⟨found.id, by simp [owners, Client.new]⟩) .keep rfl
        (.same rfl)
  | readSettings conn =>
      obtain ⟨connection, found, -, rfl⟩ := readSettings_some stepped
      exact .of_setConnection found rfl
  | drain conn =>
      obtain ⟨connection, settings, found, -, rfl⟩ := drain_some stepped
      exact .of_hub rfl (Store.drainQueue_blobs ..) (Store.drainQueue_devices ..)
        (.inl (owners_setConnection found rfl)) .keep rfl (.same rfl)
  | requeue conn =>
      obtain ⟨connection, depth, item, rest, found, -, rfl⟩ := requeue_some stepped
      refine .of_hub rfl (Store.enqueue_blobs ..) (Store.enqueue_devices ..)
        (.inl (owners_setConnection found rfl)) .keep rfl ⟨_, rfl, ?_⟩
      exact List.forall_mem_cons.mpr ⟨rfl, onBlobs_trimmedFacts _ _⟩
  | registerReturn conn =>
      obtain ⟨connection, depth, found, -, rfl⟩ := registerReturn_some stepped
      exact .of_setConnection found rfl
  | sendToken conn token =>
      obtain ⟨connection, -, -, rfl⟩ := sendToken_some stepped
      exact .of_hub (Daemon.push_hub ..) (by simp) (by simp)
        (.inl (Daemon.map_push blind _ conn rfl)) .keep rfl (.same rfl)
  | ack conn =>
      obtain ⟨connection, payload, found, -, rfl⟩ := ack_some stepped
      exact .of_hub (Daemon.push_hub ..) (by simp [setSession, setConnection])
        (by simp [setSession, setConnection])
        (.inl ((Daemon.map_push blind _ conn rfl).trans (owners_setConnection found rfl)))
        .keep rfl (.same rfl)
  | registerDeliver =>
      obtain ⟨conn, connection, settings, item, rest, -, found, -, ⟨-, rfl⟩ | ⟨-, rfl⟩⟩ :=
        registerDeliver_some stepped
      · exact .of_hub rfl rfl rfl (.inl (owners_setConnection found rfl)) .keep rfl
          ⟨_, rfl, by simp [Fact.onBlobs]⟩
      · exact .of_setConnection found rfl
  | registerFinish =>
      obtain ⟨conn, connection, settings, rest, full, -, found, -, -, rfl⟩ :=
        registerFinish_some stepped
      exact .of_hub (Daemon.broadcastPresence_hub ..) (by simp [setSession, setConnection])
        (by simp [setSession, setConnection])
        (.inl ((Daemon.map_broadcastPresence blind ..).trans (owners_setConnection found rfl)))
        .finish rfl (.same rfl)
  | receiveClip conn event now =>
      obtain ⟨connection, idle, found, -, ⟨payload, rfl⟩ | ⟨passes, rfl⟩⟩ :=
        receiveClip_some stepped
      · exact .of_setConnection found rfl
      · exact .of_hub rfl rfl rfl (.inl (owners_setConnection found rfl)) (.ingest idle passes) rfl
          (.same rfl)
  | routeBroadcast index =>
      obtain ⟨event, idle, -, rfl | ⟨passes, rfl⟩⟩ := routeBroadcast_some stepped
      · exact .of_hub rfl rfl rfl (.inl rfl) .keep rfl (.same rfl)
      · exact .of_hub rfl rfl rfl (.inl rfl) (.ingest idle passes) rfl (.same rfl)
  | routeFinish =>
      obtain ⟨source, event, settings, progress, -, rfl | ⟨conn, connection, payload, -, found, -,
        rfl⟩⟩ := routeFinish_some stepped
      · exact .of_hub rfl rfl rfl (.inl rfl) .finish rfl (.same rfl)
      · exact .of_hub rfl rfl rfl (.inl (map_set_of_eq found rfl)) .finish rfl (.same rfl)
  | setPool conn pool =>
      obtain ⟨idle, rfl | ⟨connection, device, -, stored, rfl⟩⟩ := setPool_some stepped
      · exact .of_hub rfl rfl rfl (.inl rfl) .keep rfl (.same rfl)
      · exact .of_hub rfl rfl rfl (.inl rfl) (.repool idle stored) rfl (.same rfl)
  | requestBlob blob =>
      rw [requestBlob_some stepped]
      exact .of_hub (Daemon.handleBlobRequest_hub ..) (by simp) (by simp)
        (.inl (Daemon.map_handleBlobRequest blind ..)) .keep rfl (.same rfl)
  | takeFrame conn =>
      obtain ⟨connection, frame, rest, found, -, -, rfl⟩ := takeFrame_some stepped
      exact .of_setConnection found rfl
  | wroteFrame conn =>
      obtain ⟨connection, frame, found, -, rfl⟩ := wroteFrame_some stepped
      exact .of_hub rfl rfl rfl (.inl (owners_setConnection found rfl)) .keep rfl
        ⟨_, rfl, onBlobs_clipFact _ _ _⟩
  | writeError conn =>
      obtain ⟨connection, frame, found, -, rfl⟩ := writeError_some stepped
      exact .of_hub rfl rfl rfl (.inl (owners_setConnection found rfl)) .keep rfl
        ⟨_, rfl, onBlobs_clipFact _ _ _⟩
  | stopPump conn =>
      obtain ⟨connection, found, -, rfl⟩ := stopPump_some stepped
      exact .of_setConnection found rfl
  | refreshSettings index =>
      obtain ⟨settings, found, rfl⟩ := refreshSettings_some stepped
      exact ⟨.keep, .inl rfl, .keep, fun id membership => .inl membership,
        .of_logGrows (fun _ _ found => found) (fun _ _ found => found) rfl (.same rfl),
        .of_eq rfl, .inr ⟨index, rfl, found⟩⟩
  | broadcast id text now =>
      rw [broadcast_some stepped]
      exact .of_hub rfl rfl rfl (.inl rfl) .keep rfl (.same rfl)
  | rotateToken op =>
      obtain ⟨store, rfl, -, blobs, devices⟩ := rotateToken_some stepped
      exact .of_hub rfl blobs devices (.inl rfl) .keep rfl (.same rfl)
  | touchBlob blob now size mime =>
      obtain ⟨valid, rfl⟩ := touchBlob_some stepped
      exact ⟨.keep, .inl rfl, .keep, fun id membership => .inl membership,
        ⟨[], by simp [withStore], .touch valid rfl rfl⟩, .of_eq rfl, .inl rfl⟩
  | collectBlob blob =>
      cases stepped
      exact ⟨.keep, .inl rfl, .keep, fun id membership => .inl membership,
        ⟨_, rfl, .collect rfl rfl⟩, .of_eq rfl, .inl rfl⟩
  | deleteDevice id =>
      cases stepped
      exact deleteDevice_effect id
  | purgeQueues now =>
      cases stepped
      refine .of_hub rfl (Store.purge_blobs ..) (Store.purge_devices ..) (.inl rfl) .keep rfl
        ⟨_, rfl, ?_⟩
      simp only [List.mem_flatMap]
      rintro fact ⟨entry, -, trimmed⟩
      exact onBlobs_trimmedFacts _ _ fact trimmed
  | putSettings settings | loadSettings | putPairing code | purgePairing now =>
      cases stepped
      exact .of_hub rfl rfl rfl (.inl rfl) .keep rfl (.same rfl)

theorem Effect.log (effect : Effect relay action after) :
    ∃ facts, after.log = relay.log ++ facts := by
  obtain ⟨facts, grown, -⟩ := effect.ledger
  exact ⟨facts, grown⟩

/-- A known owner stays the owner. -/
theorem Effect.owner_kept (effect : Effect relay action after) {conn : ConnID} {id : DeviceID}
    (owner : relay.owners[conn]? = some id) : after.owners[conn]? = some id := by
  rcases effect.owners with same | ⟨new, appended⟩
  · rw [same, owner]
  · rw [appended, List.getElem?_append_left (List.getElem?_eq_some_iff.mp owner).1, owner]

/-- Facts stay facts. -/
theorem Effect.fact_kept (effect : Effect relay action after) {fact : Fact}
    (recorded : fact ∈ relay.log) : fact ∈ after.log := by
  obtain ⟨facts, appended⟩ := effect.log
  simp [appended, recorded]

theorem Keyed.boot (store : Store) : (Relay.boot store).Keyed := by
  intro id conn registered
  simp [Relay.boot, Daemon.boot] at registered

/-- Registered connections belong to their device, in every run. -/
theorem Keyed.step (keyed : relay.Keyed) (stepped : relay.step env action = some after) :
    after.Keyed := by
  intro id conn registered
  have effect := effect_of_step stepped
  apply effect.owner_kept
  have change : RegistryChange relay action after.daemon.hub.clients := effect.registry
  generalize after.daemon.hub.clients = newClients at change registered
  cases change with
  | keep => exact keyed id conn registered
  | @enter entered now connection _ found =>
      rw [OrderedMap.get?_put] at registered
      split_ifs at registered with same
      · cases registered
        simpa [owners, same] using ⟨connection, found, rfl⟩
      · exact keyed id conn registered
  | leave | evict | slow =>
      rw [OrderedMap.get?_erase] at registered
      split_ifs at registered
      exact keyed id conn registered

theorem owner_of_connection {conn : ConnID} {connection : Connection}
    (found : relay.connection? conn = some connection) :
    relay.owners[conn]? = some connection.owner := by
  rw [connection?] at found
  simp [owners, found]

/-- While the hub pushes a drained queue, the registry names the connection. -/
def Current (relay : Relay) : Prop :=
  ∀ conn, relay.task = .registering conn →
    ∃ id, relay.owners[conn]? = some id ∧ relay.clients.get? id = some conn

theorem Current.boot (store : Store) : (Relay.boot store).Current := by
  simp [Current, Relay.boot]

/-- The steps that change the registry need an idle or a routing hub. -/
theorem Effect.registry_kept (effect : Effect relay action after) {conn : ConnID}
    (registering : relay.task = .registering conn) : after.clients = relay.clients := by
  have change := effect.registry
  generalize after.clients = newClients at change ⊢
  cases change with
  | keep => rfl
  | enter idle => cases registering.symm.trans idle
  | leave idle => cases registering.symm.trans idle
  | evict idle => cases registering.symm.trans idle
  | slow routing => cases registering.symm.trans routing

theorem Current.step (current : relay.Current) (effect : Effect relay action after) :
    after.Current := by
  intro conn registering
  have change := effect.task
  generalize after.task = task at change registering
  cases change with
  | finish | ingest | prepare | deliver | repool => cases registering
  | register idle found registered =>
      cases registering
      exact ⟨_, effect.owner_kept (owner_of_connection found), registered⟩
  | keep =>
      obtain ⟨id, owner, registered⟩ := current conn registering
      rw [effect.registry_kept registering]
      exact ⟨id, effect.owner_kept owner, registered⟩

end Steps

end Relay

end CopySync.Server
