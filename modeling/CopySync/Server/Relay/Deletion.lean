import CopySync.Server.Relay.Connections

/-!
# Deleting a device

`handleDeleteDevice` deletes the device in one transaction and then evicts its
connection.  A handshake that passed validation before the transaction registers
after the eviction, and the read pump of an evicted connection is only stopped by
the write pump that closes the socket, so it may still hand a clip to the hub.
Without these two the deletion is final: from its return on the device is not in the
registry and no clip of it is routed.
-/

namespace CopySync.Server.Relay

open Foundation

/-! ## Where credentials, devices and admitted clips come from -/

/-- What a step can do to token records, to stored devices, to the clip the hub has
admitted and to the broadcasts on their way to it. -/
structure Intake (relay : Relay) (action : Action) (after : Relay) : Prop where
  tokens : ∀ id, relay.daemon.store.tokens.get? id = none →
    after.daemon.store.tokens.get? id = none ∨
      ∃ code suffix name platform token now,
        action = .claimPairing code suffix name platform token now ∧ id = "dev_" ++ suffix
  devices : ∀ key device, after.daemon.store.devices.get? key = some device →
    device.id = key ∨ ∃ old, relay.daemon.store.devices.get? key = some old ∧ device.id = old.id
  admitted : ∀ source event settings, after.task = .admitted source event settings →
    relay.task = after.task ∨
    (∃ conn clip now connection, action = .receiveClip conn clip now ∧
      relay.connection? conn = some connection ∧ connection.session = .serving ∧
      event.originDevice = connection.owner) ∨
    ∃ index : Nat, relay.broadcasting[index]? = some event
  broadcasting : ∀ event ∈ after.broadcasting,
    event ∈ relay.broadcasting ∨ event.originDevice = "server"
  deletions : ∀ id, .deleted id ∈ after.log → .deleted id ∈ relay.log ∨ action = .deleteDevice id

section Steps

variable {env : Env} {relay after : Relay} {action : Action}

/-- Steps that write no token record and admit nothing. -/
theorem Intake.of_devices (tokens : after.daemon.store.tokens = relay.daemon.store.tokens)
    (devices : ∀ key device, after.daemon.store.devices.get? key = some device →
      device.id = key ∨
        ∃ old, relay.daemon.store.devices.get? key = some old ∧ device.id = old.id)
    (task : after.task = relay.task ∨ ∀ source event settings,
      after.task ≠ .admitted source event settings)
    (broadcasting : after.broadcasting = relay.broadcasting)
    (log : ∀ id, .deleted id ∈ after.log → .deleted id ∈ relay.log) :
    Intake relay action after where
  tokens _ absent := .inl (tokens ▸ absent)
  devices
  admitted source event settings admitted := by
    rcases task with same | never
    · exact .inl same.symm
    · exact absurd admitted (never source event settings)
  broadcasting event listed := .inl (broadcasting ▸ listed)
  deletions id recorded := .inl (log id recorded)

/-- Steps that write no device either. -/
theorem Intake.of_eq (tokens : after.daemon.store.tokens = relay.daemon.store.tokens)
    (devices : after.daemon.store.devices = relay.daemon.store.devices)
    (task : after.task = relay.task ∨ ∀ source event settings,
      after.task ≠ .admitted source event settings)
    (broadcasting : after.broadcasting = relay.broadcasting)
    (log : ∀ id, .deleted id ∈ after.log → .deleted id ∈ relay.log) :
    Intake relay action after :=
  .of_devices tokens (fun _ device found => .inr ⟨device, devices ▸ found, rfl⟩) task
    broadcasting log

theorem updateLastSeen_tokens (store : Store) (id : DeviceID) (now : Time) :
    (store.updateLastSeen id now).tokens = store.tokens := by
  rw [Store.updateLastSeen]
  split <;> rfl

/-- Marking a device as seen keeps its id. -/
theorem updateLastSeen_devices {store : Store} {id key : DeviceID} {now : Time} {device : Device}
    (found : (store.updateLastSeen id now).devices.get? key = some device) :
    device.id = key ∨ ∃ old, store.devices.get? key = some old ∧ device.id = old.id := by
  rw [Store.updateLastSeen] at found
  split at found
  next => exact .inr ⟨device, found, rfl⟩
  next old present =>
    rw [OrderedMap.get?_put] at found
    split_ifs at found with same
    · cases found
      exact .inr ⟨old, same ▸ present, rfl⟩
    · exact .inr ⟨device, found, rfl⟩

theorem Intake.of_updateLastSeen {id : DeviceID} {now : Time}
    (store : after.daemon.store = relay.daemon.store.updateLastSeen id now)
    (task : after.task = relay.task ∨ ∀ source event settings,
      after.task ≠ .admitted source event settings)
    (broadcasting : after.broadcasting = relay.broadcasting)
    (log : ∀ id, .deleted id ∈ after.log → .deleted id ∈ relay.log) :
    Intake relay action after :=
  .of_devices (by rw [store, updateLastSeen_tokens])
    (fun _ _ found => updateLastSeen_devices (store ▸ found)) task broadcasting log

theorem deleted_of_record {base : Relay} {facts : List Fact} (others : ∀ id, .deleted id ∉ facts)
    (id : DeviceID) (recorded : .deleted id ∈ (base.record facts).log) : .deleted id ∈ base.log :=
  (List.mem_append.mp recorded).resolve_right (others id)

theorem not_deleted_clipFact (stage : Stage) (owner : DeviceID) (frame : Frame) (id : DeviceID) :
    Fact.deleted id ∉ clipFact stage owner frame := by
  cases clip : frame.clip? with
  | none => simp [clipFact, clip]
  | some event => simp [clipFact, clip]

theorem not_deleted_trimmedFacts (owner : DeviceID) (items : List QueueItem) (id : DeviceID) :
    Fact.deleted id ∉ trimmedFacts owner items := by
  simp [trimmedFacts]

theorem not_deleted_deliveryFacts (event : ClipEvent) (now : Time) (target : DeviceID)
    (delivery : Daemon.Delivery) (id : DeviceID) :
    Fact.deleted id ∉ relay.deliveryFacts event now target delivery := by
  cases delivery with
  | skipped => simp [deliveryFacts]
  | relayed conn => simp [deliveryFacts]
  | queued trimmed => simp [deliveryFacts, not_deleted_trimmedFacts]

theorem prepareRoute_tokens (daemon : Daemon) (event : ClipEvent) (settings : RuntimeSettings)
    (now : Time) :
    (daemon.prepareRoute env event settings now).1.store.tokens = daemon.store.tokens := by
  simp only [Daemon.prepareRoute, Daemon.claimBlob]
  split_ifs <;> rfl

/-- Rotation never creates a token record. -/
theorem rotateToken_tokens {op : TokenOp} (stepped : relay.rotateToken env op = some after)
    {id : DeviceID} (absent : relay.daemon.store.tokens.get? id = none) :
    after.daemon.store.tokens.get? id = none := by
  have put : ∀ {other : DeviceID} {record new : TokenRecord},
      relay.daemon.store.tokens.get? other = some record →
      (relay.daemon.store.tokens.put other new).get? id = none := by
    intro other record new present
    rw [OrderedMap.get?_put, if_neg, absent]
    rintro rfl
    cases absent.symm.trans present
  simp only [rotateToken] at stepped
  split at stepped
  case h_1 other hash at_ =>
    cases stepped
    simp only [withStore, TokenOp.apply, Store.rotateToken]
    split
    next => exact absent
    next record present =>
      split_ifs
      · exact absent
      · exact put present
  case h_2 other prev hash at_ =>
    cases stepped
    simp only [withStore, TokenOp.apply, Store.reissuePendingToken]
    split
    next => exact absent
    next record present =>
      split_ifs
      · exact absent
      · exact put present
      · exact put present
  case h_3 other =>
    cases stepped
    simp only [withStore, TokenOp.apply, Store.retireOldToken]
    split
    next => exact absent
    next record present =>
      split_ifs
      · exact absent
      · exact put present
  case h_4 => cases stepped

theorem claimPairing_intake {code suffix name platform token : String} {now : Time}
    (stepped : relay.claimPairing env code suffix name platform token now = some after) :
    Intake relay (.claimPairing code suffix name platform token now) after := by
  rw [claimPairing_some stepped]
  simp only [TokenOp.apply]
  split
  next store claimed =>
    obtain ⟨entry, -, -, -, -, rfl⟩ := Store.claimPairing_ok claimed
    constructor
    · intro id absent
      rw [withStore, OrderedMap.get?_put]
      split_ifs with minted
      · exact .inr ⟨code, suffix, name, platform, token, now, rfl, minted⟩
      · exact .inl absent
    · intro key device found
      simp only [withStore, OrderedMap.get?_put] at found
      split_ifs at found with minted
      · cases found
        exact .inl minted.symm
      · exact .inr ⟨device, found, rfl⟩
    · exact fun _ _ _ _ => .inl rfl
    · exact fun _ listed => .inl listed
    · exact fun _ same => .inl same
  next => exact .of_eq rfl rfl (.inl rfl) rfl fun _ same => same

theorem receiveClip_intake {conn : ConnID} {event : ClipEvent} {now : Time}
    (stepped : relay.receiveClip env conn event now = some after) :
    Intake relay (.receiveClip conn event now) after := by
  obtain ⟨connection, idle, found, session, ⟨payload, rfl⟩ | ⟨-, rfl⟩⟩ :=
    receiveClip_some stepped
  · exact .of_eq rfl rfl (.inl rfl) rfl fun _ same => same
  · refine ⟨fun _ absent => .inl absent, fun _ device stored => .inr ⟨device, stored, rfl⟩, ?_,
      fun _ listed => .inl listed, fun _ same => .inl same⟩
    intro source clip settings admitted
    cases admitted
    exact .inr (.inl ⟨conn, event, now, connection, rfl, found, session, rfl⟩)

theorem routeBroadcast_intake {index : Nat} (stepped : relay.routeBroadcast index = some after) :
    Intake relay (.routeBroadcast index) after := by
  have kept : ∀ event ∈ relay.broadcasting.eraseIdx index,
      event ∈ relay.broadcasting ∨ event.originDevice = "server" :=
    fun event listed => .inl (List.mem_of_mem_eraseIdx listed)
  obtain ⟨event, idle, listed, rfl | ⟨-, rfl⟩⟩ := routeBroadcast_some stepped
  · exact ⟨fun _ absent => .inl absent, fun _ device stored => .inr ⟨device, stored, rfl⟩,
      fun _ _ _ _ => .inl rfl, kept, fun _ same => .inl same⟩
  · refine ⟨fun _ absent => .inl absent, fun _ device stored => .inr ⟨device, stored, rfl⟩, ?_,
      kept, fun _ same => .inl same⟩
    intro source clip settings admitted
    cases admitted
    exact .inr (.inr ⟨index, listed⟩)

/-- One case analysis over all actions. -/
theorem intake_of_step (stepped : relay.step env action = some after) :
    Intake relay action after := by
  cases action with
  | claimPairing code suffix name platform token now => exact claimPairing_intake stepped
  | receiveClip conn event now => exact receiveClip_intake stepped
  | routeBroadcast index => exact routeBroadcast_intake stepped
  | connect id token =>
      obtain ⟨device, -, rfl⟩ := connect_some stepped
      exact .of_eq rfl rfl (.inl rfl) rfl fun _ same => same
  | readSettings conn =>
      obtain ⟨connection, -, -, rfl⟩ := readSettings_some stepped
      exact .of_eq rfl rfl (.inl rfl) rfl fun _ same => same
  | drain conn =>
      obtain ⟨connection, settings, -, -, rfl⟩ := drain_some stepped
      refine .of_eq ?_ (Store.drainQueue_devices ..) (.inl rfl) rfl fun _ same => same
      simp only [withStore, Store.drainQueue]
      split <;> rfl
  | requeue conn =>
      obtain ⟨connection, depth, item, rest, -, -, rfl⟩ := requeue_some stepped
      exact .of_eq rfl rfl (.inl rfl) rfl
        (deleted_of_record fun id => by simp [not_deleted_trimmedFacts])
  | registerReturn conn =>
      obtain ⟨connection, depth, -, -, rfl⟩ := registerReturn_some stepped
      exact .of_eq rfl rfl (.inl rfl) rfl fun _ same => same
  | sendToken conn token =>
      obtain ⟨connection, -, -, rfl⟩ := sendToken_some stepped
      exact .of_eq (by simp) (by simp) (.inl rfl) rfl fun _ same => same
  | ack conn =>
      obtain ⟨connection, payload, -, -, rfl⟩ := ack_some stepped
      exact .of_eq (by simp [setSession, setConnection]) (by simp [setSession, setConnection])
        (.inl rfl) rfl fun _ same => same
  | registerStart conn now =>
      obtain ⟨connection, settings, items, -, -, -, rfl⟩ := registerStart_some stepped
      exact .of_updateLastSeen (Daemon.enroll_store ..) (.inr fun _ _ _ same => by cases same) rfl
        fun _ same => same
  | registerDeliver =>
      obtain ⟨conn, connection, settings, item, rest, -, -, -, ⟨-, rfl⟩ | ⟨-, rfl⟩⟩ :=
        registerDeliver_some stepped
      · exact .of_eq rfl rfl (.inl rfl) rfl (deleted_of_record fun id => by simp)
      · exact .of_eq rfl rfl (.inl rfl) rfl fun _ same => same
  | registerFinish =>
      obtain ⟨conn, connection, settings, rest, full, -, -, -, -, rfl⟩ :=
        registerFinish_some stepped
      exact .of_eq (by simp [setSession, setConnection]) (by simp [setSession, setConnection])
        (.inr fun _ _ _ same => by cases same) rfl fun _ same => same
  | unregister conn now =>
      obtain ⟨connection, -, -, -, rfl⟩ := unregister_some stepped
      rcases Daemon.handleUnregister_store (relay.setSession conn connection .left).daemon conn
        connection.client.device now with same | seen
      · exact .of_eq (by rw [same]; rfl) (by rw [same]; rfl) (.inl rfl) rfl fun _ same => same
      · exact .of_updateLastSeen seen (.inl rfl) rfl fun _ same => same
  | routePrepare now =>
      obtain ⟨source, event, settings, -, rfl⟩ := routePrepare_some stepped
      exact .of_eq (prepareRoute_tokens ..) (claimBlob_devices ..)
        (.inr fun _ _ _ same => by cases same) rfl (deleted_of_record fun id => by simp)
  | routeDeliver now =>
      obtain ⟨source, event, settings, target, rest, progress, task, served, delivery, delivered,
        rfl⟩ := routeDeliver_some stepped
      rcases Daemon.deliverTo_cases _ _ delivered with
        ⟨-, -, rfl⟩ | ⟨-, conn, connection, -, -, -, -, rfl⟩ | ⟨-, base, -, -, rfl⟩
      all_goals
        exact .of_eq rfl rfl (.inr fun _ _ _ same => by cases same) rfl
          (deleted_of_record fun id => not_deleted_deliveryFacts _ _ _ _ id)
  | routeFinish =>
      obtain ⟨source, event, settings, progress, -, rfl | ⟨conn, connection, payload, -, -, -,
        rfl⟩⟩ := routeFinish_some stepped
      all_goals exact .of_eq rfl rfl (.inr fun _ _ _ same => by cases same) rfl fun _ same => same
  | setPool conn pool =>
      obtain ⟨-, rfl | ⟨connection, device, -, -, rfl⟩⟩ := setPool_some stepped
      · exact .of_eq rfl rfl (.inl rfl) rfl fun _ same => same
      · exact .of_eq rfl rfl (.inr fun _ _ _ same => by cases same) rfl fun _ same => same
  | storePool =>
      obtain ⟨device, pool, -, rfl⟩ := storePool_some stepped
      refine ⟨fun _ absent => .inl (by simpa [Store.putDevice] using absent), ?_,
        fun _ _ _ same => (by cases same), fun _ listed => .inl listed, fun _ same => .inl same⟩
      intro key stored found
      simp only [Daemon.storePool_store, Store.putDevice, OrderedMap.get?_put] at found
      split_ifs at found with same
      · cases found
        exact .inl same.symm
      · exact .inr ⟨stored, found, rfl⟩
  | requestBlob blob =>
      rw [requestBlob_some stepped]
      exact .of_eq (by simp) (by simp) (.inl rfl) rfl fun _ same => same
  | evict id =>
      obtain ⟨-, -, rfl⟩ := evict_some stepped
      exact .of_eq (by simp) (by simp) (.inl rfl) rfl fun _ same => same
  | takeFrame conn =>
      obtain ⟨connection, frame, rest, -, -, -, rfl⟩ := takeFrame_some stepped
      exact .of_eq rfl rfl (.inl rfl) rfl fun _ same => same
  | wroteFrame conn =>
      obtain ⟨connection, frame, -, -, rfl⟩ := wroteFrame_some stepped
      exact .of_eq rfl rfl (.inl rfl) rfl
        (deleted_of_record fun id => not_deleted_clipFact _ _ _ id)
  | writeError conn =>
      obtain ⟨connection, frame, -, -, rfl⟩ := writeError_some stepped
      exact .of_eq rfl rfl (.inl rfl) rfl
        (deleted_of_record fun id => not_deleted_clipFact _ _ _ id)
  | stopPump conn =>
      obtain ⟨connection, -, -, rfl⟩ := stopPump_some stepped
      exact .of_eq rfl rfl (.inl rfl) rfl fun _ same => same
  | refreshSettings index =>
      obtain ⟨settings, -, rfl⟩ := refreshSettings_some stepped
      exact .of_eq rfl rfl (.inl rfl) rfl fun _ same => same
  | broadcast id text now =>
      rw [broadcast_some stepped]
      refine ⟨fun _ absent => .inl absent, fun _ device stored => .inr ⟨device, stored, rfl⟩,
        fun _ _ _ _ => .inl rfl, fun event listed => ?_, fun _ same => .inl same⟩
      rcases List.mem_append.mp listed with old | new
      · exact .inl old
      · cases List.mem_singleton.mp new
        exact .inr rfl
  | rotateToken op =>
      obtain ⟨store, rfl, -, -, devices⟩ := rotateToken_some stepped
      exact ⟨fun _ absent => .inl (rotateToken_tokens stepped absent),
        fun _ device stored => .inr ⟨device, devices ▸ stored, rfl⟩, fun _ _ _ _ => .inl rfl,
        fun _ listed => .inl listed, fun _ same => .inl same⟩
  | touchBlob blob now size mime =>
      obtain ⟨-, rfl⟩ := touchBlob_some stepped
      exact .of_eq rfl rfl (.inl rfl) rfl fun _ same => same
  | deleteDevice id =>
      cases stepped
      refine ⟨fun other absent => .inl ?_, fun key device stored => .inr ⟨device, ?_, rfl⟩,
        fun _ _ _ _ => .inl rfl, fun _ listed => .inl listed, fun other recorded => ?_⟩
      · simp only [deleteDevice, record, withStore, Store.deleteDevice, OrderedMap.get?_erase]
        split_ifs
        · rfl
        · exact absent
      · simp only [deleteDevice, record, withStore, Store.deleteDevice, OrderedMap.get?_erase]
          at stored
        split_ifs at stored
        exact stored
      · rcases List.mem_append.mp recorded with old | new
        · exact .inl old
        · rcases List.mem_cons.mp new with same | trimmed
          · cases same
            exact .inr rfl
          · exact absurd trimmed (not_deleted_trimmedFacts _ _ _)
  | purgeQueues now =>
      cases stepped
      refine .of_eq ?_ (Store.purge_devices ..) (.inl rfl) rfl
        (deleted_of_record fun id => by simp [List.mem_flatMap, not_deleted_trimmedFacts])
      simp only [purgeQueues, record, withStore, Store.purgeExpiredQueueItems]
      split_ifs <;> rfl
  | collectBlob id =>
      cases stepped
      exact .of_eq rfl rfl (.inl rfl) rfl (deleted_of_record fun id => by simp)
  | putSettings | loadSettings | putPairing | purgePairing =>
      cases stepped
      exact .of_eq rfl rfl (.inl rfl) rfl fun _ same => same

end Steps

/-! ## What holds in every state -/

/-- An eviction finds no connection of its device between validation and
registration; no clip of a deleted device reaches the hub from a connection already
closed; and pairing does not mint the id of a deleted device again. -/
def orderly (relay : Relay) : Action → Bool
  | .evict id => relay.daemon.connections.all fun connection =>
      decide (connection.owner = id → connection.session.phase ≠ .entering)
  | .receiveClip conn _ _ => (relay.connection? conn).all fun connection =>
      decide (.deleted connection.owner ∈ relay.log → connection.closed = false)
  | .claimPairing _ suffix _ _ _ _ => decide (.deleted ("dev_" ++ suffix) ∉ relay.log)
  | _ => true

/-- Restarts are always allowed. -/
def Orderly (relay : Relay) (action : Option Action) : Prop := action.all relay.orderly = true

/-- A connection whose registration the hub took, and that is neither closed nor
gone, is the registered one; devices are stored under their ids, deleted ones have
no token, and broadcasts come from the server. -/
structure Lifecycle (relay : Relay) : Prop where
  keyed : relay.Keyed
  live : ∀ conn connection, relay.connection? conn = some connection →
    connection.session.phase = .inside → connection.closed = false →
    relay.clients.get? connection.owner = some conn
  filed : ∀ key device, relay.daemon.store.devices.get? key = some device → device.id = key
  erased : ∀ id, .deleted id ∈ relay.log → relay.daemon.store.tokens.get? id = none
  deleting : ∀ id ∈ relay.deleting, .deleted id ∈ relay.log
  broadcasts : ∀ event ∈ relay.broadcasting, event.originDevice = "server"

/-- The device is out: not registered, none of its connections about to register or
still open, no credentials, no clip of it admitted, and none routed since. -/
structure Revoked (relay since : Relay) (id : DeviceID) : Prop where
  deleted : .deleted id ∈ relay.log
  unregistered : relay.clients.get? id = none
  shut : ∀ conn connection, relay.connection? conn = some connection → connection.owner = id →
    connection.session.phase ≠ .entering ∧
      (connection.session.phase = .inside → connection.closed = true)
  silent : ∀ source event settings, relay.task = .admitted source event settings →
    event.originDevice ≠ id
  grown : since.log <+: relay.log
  unrouted : ∀ event targets claimed,
    .routed event targets claimed ∈ relay.log.drop since.log.length → event.originDevice ≠ id

section Invariants

variable {env : Env} {since relay after : Relay} {action : Action} {id : DeviceID}

theorem Lifecycle.boot : (Relay.boot .empty).Lifecycle where
  keyed := Keyed.boot .empty
  live := by simp [Relay.boot, Daemon.boot, connection?]
  filed := by simp [Relay.boot, Daemon.boot, Store.empty]
  erased := by simp [Relay.boot]
  deleting := by simp [Relay.boot]
  broadcasts := by simp [Relay.boot]

theorem Lifecycle.restart (inv : relay.Lifecycle) : relay.restart.Lifecycle where
  keyed := Keyed.boot _
  live := by simp [Relay.restart, Relay.boot, Daemon.boot, connection?]
  filed := inv.filed
  erased := inv.erased
  deleting := by simp [Relay.restart, Relay.boot]
  broadcasts := by simp [Relay.restart, Relay.boot]

theorem Lifecycle.live_step (inv : relay.Lifecycle)
    (stepped : relay.step env action = some after) :
    ∀ conn connection, after.connection? conn = some connection →
      connection.session.phase = .inside → connection.closed = false →
      after.clients.get? connection.owner = some conn := by
  intro conn new found inside unclosed
  obtain ⟨frames, announcement, connections⟩ := told_of_step inv.keyed stepped
  rcases connections conn new found with ⟨-, _, _, _, -, -, rfl⟩ | ⟨old, present, evolves⟩
  · cases inside
  · have stillOpen : old.closed = false := by
      by_contra shut
      rw [Bool.not_eq_false] at shut
      cases unclosed.symm.trans (evolves.closed shut)
    rcases evolves.phase with same | outside | ⟨⟨now, rfl⟩, -, -⟩
    · have registered := inv.live conn old present (same ▸ inside) stillOpen
      rw [evolves.owner]
      by_contra departed
      rcases departed_closed inv.keyed stepped registered departed found with shut | outside
      · cases unclosed.symm.trans shut
      · cases inside.symm.trans outside
    · cases inside.symm.trans outside
    · obtain ⟨connection, settings, items, -, present', -, rfl⟩ := registerStart_some stepped
      cases present.symm.trans present'
      rw [evolves.owner]
      simp [clients]

theorem Lifecycle.step (inv : relay.Lifecycle) (calm : relay.orderly action = true)
    (stepped : relay.step env action = some after) : after.Lifecycle := by
  have effect := effect_of_step stepped
  have intake := intake_of_step stepped
  constructor
  · exact inv.keyed.step stepped
  · exact inv.live_step stepped
  · intro key device found
    rcases intake.devices key device found with named | ⟨old, present, same⟩
    · exact named
    · exact same.trans (inv.filed key old present)
  · intro id recorded
    rcases intake.deletions id recorded with known | rfl
    · rcases intake.tokens id (inv.erased id known) with absent |
        ⟨code, suffix, name, platform, token, now, rfl, rfl⟩
      · exact absent
      · simp [orderly, known] at calm
    · cases stepped
      simp [deleteDevice, record, withStore, Store.deleteDevice]
  · intro id listed
    rcases effect.deleting id listed with old | rfl
    · exact effect.fact_kept (inv.deleting id old)
    · cases stepped
      simp [deleteDevice, record]
  · intro event listed
    rcases intake.broadcasting event listed with old | server
    · exact inv.broadcasts event old
    · exact server

theorem Lifecycle.life (inv : relay.Lifecycle) {action : Option Action}
    (calm : relay.Orderly action) (stepped : relay.life env action = some after) :
    after.Lifecycle := by
  cases action with
  | none =>
      cases stepped
      exact inv.restart
  | some action => exact inv.step calm stepped

/-- An orderly eviction leaves the device revoked. -/
theorem Lifecycle.revoked (inv : relay.Lifecycle) (calm : relay.orderly (.evict id) = true)
    (stepped : relay.step env (.evict id) = some after) : after.Revoked after id := by
  have unregistered : after.clients.get? id = none := by
    obtain ⟨-, -, rfl⟩ := evict_some stepped
    rcases relay.daemon.handleEvict_cases id with same | ⟨conn, connection, -, -, erased⟩
    · cases registered : relay.clients.get? id with
      | none => rw [clients, same, registered]
      | some conn =>
          -- A registered connection exists, so the eviction is not a no-op.
          obtain ⟨connection, found, -⟩ : ∃ connection,
              relay.daemon.connections[conn]? = some connection ∧ connection.owner = id := by
            simpa using inv.keyed id conn registered
          have erased := congrArg (fun daemon : Daemon => daemon.hub.clients.get? id)
            (relay.daemon.handleEvict_eq registered found)
          simpa [clients, Daemon.evicted, Hub.pruneOnDemand] using erased
    · rw [clients, erased, OrderedMap.get?_erase_self]
  have live := inv.live_step stepped
  obtain ⟨idle, listed, rfl⟩ := evict_some stepped
  refine ⟨inv.deleting id listed, unregistered, ?_, ?_, List.prefix_rfl, by simp⟩
  · intro conn connection found owner
    constructor
    · obtain ⟨frames, -, connections⟩ := told_of_step inv.keyed stepped
      rcases connections conn connection found with ⟨-, _, _, _, none, -⟩ | ⟨old, present, evolves⟩
      · cases none
      · have outside : old.session.phase ≠ .entering := by
          simp only [orderly, List.all_eq_true, decide_eq_true_eq] at calm
          exact calm old (List.mem_of_getElem? present) (evolves.owner ▸ owner)
        rcases evolves.phase with same | left | ⟨⟨_, other⟩, -⟩
        · rwa [same]
        · simp [left]
        · cases other
    · intro inside
      by_contra unclosed
      rw [Bool.not_eq_true] at unclosed
      have registered := live conn connection found inside unclosed
      rw [owner, unregistered] at registered
      cases registered
  · intro source event settings admitted
    cases idle.symm.trans admitted

theorem Revoked.shut_step (inv : relay.Lifecycle) (revoked : relay.Revoked since id)
    (stepped : relay.step env action = some after) :
    ∀ conn connection, after.connection? conn = some connection → connection.owner = id →
      connection.session.phase ≠ .entering ∧
        (connection.session.phase = .inside → connection.closed = true) := by
  intro conn new found owner
  obtain ⟨frames, -, connections⟩ := told_of_step inv.keyed stepped
  rcases connections conn new found with
    ⟨-, claimed, token, device, -, accepted, rfl⟩ | ⟨old, present, evolves⟩
  · obtain ⟨stored, record, presented, -⟩ := validate_eq_some accepted
    have named : device.id = claimed := inv.filed claimed device stored
    rw [← named] at presented
    have same : device.id = id := owner
    rw [same, inv.erased id revoked.deleted] at presented
    cases presented
  · obtain ⟨notEntering, closed⟩ := revoked.shut conn old present (evolves.owner ▸ owner)
    rcases evolves.phase with same | left | ⟨-, entering, -⟩
    · exact ⟨same ▸ notEntering, fun inside => evolves.closed (closed (same ▸ inside))⟩
    · exact ⟨by simp [left], by simp [left]⟩
    · exact absurd entering notEntering

theorem Revoked.step (inv : relay.Lifecycle) (device : id ≠ "server")
    (revoked : relay.Revoked since id) (calm : relay.orderly action = true)
    (stepped : relay.step env action = some after) : after.Revoked since id := by
  have effect := effect_of_step stepped
  have intake := intake_of_step stepped
  obtain ⟨facts, grown, ledger⟩ := effect.ledger
  constructor
  · exact effect.fact_kept revoked.deleted
  · have change := effect.registry
    generalize after.clients = newClients at change
    cases change with
    | keep => exact revoked.unregistered
    | @enter conn now connection idle found =>
        rw [OrderedMap.get?_put]
        split_ifs with same
        · obtain ⟨connection', settings, items, -, found', session, -⟩ :=
            registerStart_some stepped
          cases found.symm.trans found'
          have notEntering := (revoked.shut conn connection found same.symm).1
          rw [session] at notEntering
          exact absurd rfl notEntering
        · exact revoked.unregistered
    | leave | evict | slow =>
        rw [OrderedMap.get?_erase]
        split_ifs
        · rfl
        · exact revoked.unregistered
  · exact revoked.shut_step inv stepped
  · intro source event settings admitted
    rcases intake.admitted source event settings admitted with
      same | ⟨conn, clip, now, connection, rfl, found, session, origin⟩ | ⟨index, listed⟩
    · exact revoked.silent source event settings (same.trans admitted)
    · intro own
      have owner : connection.owner = id := origin.symm.trans own
      have closed := (revoked.shut conn connection found owner).2 (by rw [session]; rfl)
      simp [orderly, found, owner, revoked.deleted, closed] at calm
    · rw [inv.broadcasts event (List.mem_of_getElem? listed)]
      exact device.symm
  · exact revoked.grown.trans (grown ▸ List.prefix_append ..)
  · intro event targets claimed recorded
    rw [grown, List.drop_append_of_le_length revoked.grown.length_le] at recorded
    rcases List.mem_append.mp recorded with old | new
    · exact revoked.unrouted event targets claimed old
    · cases ledger with
      | keep _ _ _ quiet => cases quiet _ new
      | @route now source clip settings resolved task =>
          cases List.mem_singleton.mp new
          exact revoked.silent source event settings task
      | touch => cases new
      | collect => cases List.mem_singleton.mp new

theorem Revoked.restart (revoked : relay.Revoked since id) : relay.restart.Revoked since id where
  deleted := revoked.deleted
  unregistered := rfl
  shut := by simp [Relay.restart, Relay.boot, Daemon.boot, connection?]
  silent := by simp [Relay.restart, Relay.boot]
  grown := revoked.grown
  unrouted := revoked.unrouted

end Invariants

/-- Since a moment, the device is not registered and no clip of it is routed. -/
def GoneSince (since later : Relay) (id : DeviceID) : Prop :=
  later.clients.get? id = none ∧ ∀ event targets claimed,
    .routed event targets claimed ∈ later.log.drop since.log.length → event.originDevice ≠ id

/-- In every life whose steps are orderly, a deletion is final from the return of its
eviction on, over restarts too. -/
theorem deletion_final {env : Env} {before after later : Relay} (suffix : String)
    (earlier : Run (Relay.life env) Relay.Orderly (Relay.boot .empty) before)
    (calm : before.orderly (.evict ("dev_" ++ suffix)) = true)
    (evicted : before.step env (.evict ("dev_" ++ suffix)) = some after)
    (rest : Run (Relay.life env) Relay.Orderly after later) :
    GoneSince after later ("dev_" ++ suffix) := by
  have started : before.Lifecycle := earlier.invariant Lifecycle.boot
    fun inv calm stepped => inv.life calm stepped
  have device : "dev_" ++ suffix ≠ "server" := by
    intro same
    have first := congrArg (fun text : String => text.toList.head?) same
    simp at first
  have kept : ∀ {current next : Relay} {action : Option Action},
      current.Lifecycle ∧ current.Revoked after ("dev_" ++ suffix) → current.Orderly action →
      current.life env action = some next →
      next.Lifecycle ∧ next.Revoked after ("dev_" ++ suffix) := by
    intro current next action both orderly stepped
    obtain ⟨inv, revoked⟩ := both
    refine ⟨inv.life orderly stepped, ?_⟩
    cases action with
    | none =>
        cases stepped
        exact revoked.restart
    | some action => exact revoked.step inv device orderly stepped
  have invariant := rest.invariant
    ⟨started.step calm evicted, started.revoked calm evicted⟩ kept
  exact ⟨invariant.2.unregistered, invariant.2.unrouted⟩

/-! ## A handshake that survives the deletion, and a final one -/

/-- Actions, the eviction of a device, and further actions. -/
def deletionRun (env : Env) (guard : Relay → Option Action → Bool) (id : DeviceID)
    (first second : List Action) : Option (Relay × Relay × Relay) := do
  let before ← execWhen (Relay.life env) guard (Relay.boot .empty) (first.map some)
  let after ← before.step env (.evict id)
  let later ← execWhen (Relay.life env) guard after (second.map some)
  return (before, after, later)

theorem runs_of_deletionRun (env : Env) (guard : Relay → Option Action → Bool) (id : DeviceID)
    (first second : List Action) (check : Relay × Relay × Relay → Bool)
    {admits : Relay → Option Action → Prop}
    (sound : ∀ relay action, guard relay action = true → admits relay action)
    (checked : (deletionRun env guard id first second).any check = true) :
    ∃ before after later, Run (Relay.life env) admits (Relay.boot .empty) before ∧
      before.step env (.evict id) = some after ∧ Run (Relay.life env) admits after later ∧
      check (before, after, later) = true := by
  obtain ⟨⟨before, after, later⟩, ran, holds⟩ := (Option.any_eq_true _ _).mp checked
  simp only [deletionRun, Option.bind_eq_bind, Option.bind_eq_some_iff, Option.pure_def,
    Option.some.injEq] at ran
  obtain ⟨_, reached, _, evicted, _, continued, same⟩ := ran
  cases same
  exact ⟨before, after, later, Run.of_execWhen sound reached, evicted,
    Run.of_execWhen sound continued, holds⟩

/-- The handshake of a device passes validation and drains the queue before the
deletion, and registers after it. -/
theorem handshake_survives_deletion :
    ¬∀ (env : Env) (before after later : Relay) (suffix : String),
      Reachable (Relay.life env) (Relay.boot .empty) before →
      before.step env (.evict ("dev_" ++ suffix)) = some after →
      Reachable (Relay.life env) after later → GoneSince after later ("dev_" ++ suffix) := by
  intro claim
  obtain ⟨before, after, later, reached, evicted, continued, checked⟩ :=
    runs_of_deletionRun demoEnv (fun _ _ => true) "dev_a"
      (Action.pair "a" "laptop" ++
        [.connect "dev_a" "a", .readSettings 0, .drain 0, .deleteDevice "dev_a"])
      [.registerStart 0 2, .registerFinish]
      (fun relays => decide (relays.2.2.clients.get? "dev_a" ≠ none))
      (fun _ _ _ => trivial) (by decide +kernel)
  have gone := claim demoEnv before after later "a" reached evicted continued
  exact of_decide_eq_true checked gone.1

/-- A connected device is deleted, its read pump ends, and it tries to come back. -/
theorem deletion_of_connected_final :
    ∃ before after later : Relay,
      Run (Relay.life demoEnv) Relay.Orderly (Relay.boot .empty) before ∧
      before.clients.get? "dev_a" = some 0 ∧
      before.step demoEnv (.evict "dev_a") = some after ∧
      Run (Relay.life demoEnv) Relay.Orderly after later ∧
      GoneSince after later "dev_a" := by
  obtain ⟨before, after, later, reached, evicted, continued, checked⟩ :=
    runs_of_deletionRun demoEnv (fun relay action => action.all relay.orderly) "dev_a"
      (Action.bothUp ++ [.deleteDevice "dev_a"])
      (.unregister 0 3 :: Action.sendClip 1 (.text "c1" "hello") 1)
      (fun relays => decide (relays.1.clients.get? "dev_a" = some 0) &&
        relays.1.orderly (.evict "dev_a"))
      (fun _ _ admitted => (admitted : Orderly _ _)) (by decide +kernel)
  obtain ⟨registered, calm⟩ := Bool.and_eq_true_iff.mp checked
  exact ⟨before, after, later, reached, of_decide_eq_true registered, evicted, continued,
    deletion_final "a" reached calm evicted continued⟩

end CopySync.Server.Relay
