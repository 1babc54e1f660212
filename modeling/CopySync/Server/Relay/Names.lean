import CopySync.Foundation.NameIndex
import CopySync.Server.Relay.Deletion

/-!
# The device table and its name index

Devices are filed by id, and a second bucket leads from a lower-cased name to the id.
Pairing, deletion and the marking of a device as seen are one transaction each; a pool
change reads the device in one transaction and writes it back in another.  A deletion
between the two is undone by the write: the device is back without a token, and its
name may have been given away in between.
-/

namespace CopySync.Server.Relay

open Foundation

/-- The name under which a device is indexed. -/
def indexName (lib : Library) (device : Device) : String := lib.toLower device.name

/-- The name index of the store is exact. -/
abbrev NamesIndexed (lib : Library) (relay : Relay) : Prop :=
  Indexes (indexName lib) relay.daemon.store.devices relay.daemon.store.deviceNames

/-- What a step does to the device table and its index. -/
inductive TableChange (lib : Library) (relay after : Relay) : Action → Prop where
  | keep {action : Action}
      (devices : after.daemon.store.devices = relay.daemon.store.devices)
      (names : after.daemon.store.deviceNames = relay.daemon.store.deviceNames) :
      TableChange lib relay after action
  | seen {action : Action} {id : DeviceID} {device : Device} {now : Time}
      (found : relay.daemon.store.devices.get? id = some device)
      (devices : after.daemon.store.devices =
        relay.daemon.store.devices.put id { device with lastSeenAt := now })
      (names : after.daemon.store.deviceNames = relay.daemon.store.deviceNames) :
      TableChange lib relay after action
  | paired {code suffix name platform token : String} {now : Time}
      (free : (relay.daemon.store.deviceNames.get? (lib.toLower name)).any
        (· ≠ "dev_" ++ suffix) = false)
      (devices : after.daemon.store.devices = relay.daemon.store.devices.put ("dev_" ++ suffix)
        (.paired suffix name platform now))
      (names : after.daemon.store.deviceNames =
        relay.daemon.store.deviceNames.put (lib.toLower name) ("dev_" ++ suffix)) :
      TableChange lib relay after (.claimPairing code suffix name platform token now)
  | deleted {id : DeviceID} (recorded : .deleted id ∈ after.log)
      (devices : after.daemon.store.devices = relay.daemon.store.devices.erase id)
      (names : after.daemon.store.deviceNames =
        match relay.daemon.store.devices.get? id with
        | some device => relay.daemon.store.deviceNames.erase (lib.toLower device.name)
        | none => relay.daemon.store.deviceNames) :
      TableChange lib relay after (.deleteDevice id)
  | repooled {device : Device} {pool : String} (task : relay.task = .repooling device pool)
      (finished : after.task = .idle)
      (devices : after.daemon.store.devices =
        relay.daemon.store.devices.put device.id { device with pool })
      (names : after.daemon.store.deviceNames =
        relay.daemon.store.deviceNames.put (lib.toLower device.name) device.id) :
      TableChange lib relay after .storePool

section Steps

variable {env : Env} {relay after : Relay} {action : Action}

theorem TableChange.of_store (same : after.daemon.store = relay.daemon.store) :
    TableChange env.lib relay after action :=
  .keep (by rw [same]) (by rw [same])

theorem TableChange.of_updateLastSeen {id : DeviceID} {now : Time}
    (store : after.daemon.store = relay.daemon.store.updateLastSeen id now) :
    TableChange env.lib relay after action := by
  cases found : relay.daemon.store.devices.get? id with
  | none => exact .of_store (by simp [store, Store.updateLastSeen, found])
  | some device =>
      have devices : after.daemon.store.devices =
          relay.daemon.store.devices.put id { device with lastSeenAt := now } := by
        simp [store, Store.updateLastSeen, found]
      exact .seen found devices (by simp [store, Store.updateLastSeen, found])

theorem claimPairing_table {code suffix name platform token : String} {now : Time}
    (stepped : relay.claimPairing env code suffix name platform token now = some after) :
    TableChange env.lib relay after (.claimPairing code suffix name platform token now) := by
  rw [claimPairing_some stepped]
  simp only [TokenOp.apply]
  split
  next store claimed =>
    obtain ⟨entry, -, -, -, free, rfl⟩ := Store.claimPairing_ok claimed
    exact .paired free rfl rfl
  next => exact .keep rfl rfl

theorem prepareRoute_names (daemon : Daemon) (event : ClipEvent) (settings : RuntimeSettings)
    (now : Time) :
    (daemon.prepareRoute env event settings now).1.store.deviceNames =
      daemon.store.deviceNames := by
  simp only [Daemon.prepareRoute, Daemon.claimBlob]
  split_ifs <;> rfl

/-- One case analysis over all actions. -/
theorem table_of_step (stepped : relay.step env action = some after) :
    TableChange env.lib relay after action := by
  cases action with
  | claimPairing code suffix name platform token now => exact claimPairing_table stepped
  | deleteDevice id =>
      cases stepped
      exact .deleted (List.mem_append_right _ List.mem_cons_self) rfl rfl
  | storePool =>
      obtain ⟨device, pool, task, rfl⟩ := storePool_some stepped
      exact .repooled task rfl (by rw [Daemon.storePool_store]; rfl)
        (by rw [Daemon.storePool_store]; rfl)
  | registerStart conn now =>
      obtain ⟨connection, settings, items, -, -, -, rfl⟩ := registerStart_some stepped
      exact .of_updateLastSeen (Daemon.enroll_store ..)
  | unregister conn now =>
      obtain ⟨connection, -, -, -, rfl⟩ := unregister_some stepped
      rcases Daemon.handleUnregister_store (relay.setSession conn connection .left).daemon conn
        connection.client.device now with same | seen
      · exact .of_store same
      · exact .of_updateLastSeen seen
  | connect id token =>
      obtain ⟨device, -, rfl⟩ := connect_some stepped
      exact .keep rfl rfl
  | readSettings conn =>
      obtain ⟨connection, -, -, rfl⟩ := readSettings_some stepped
      exact .keep rfl rfl
  | drain conn =>
      obtain ⟨connection, settings, -, -, rfl⟩ := drain_some stepped
      refine .keep (Store.drainQueue_devices ..) ?_
      simp only [setSession, setConnection, Store.drainQueue]
      split <;> rfl
  | requeue conn =>
      obtain ⟨connection, depth, item, rest, -, -, rfl⟩ := requeue_some stepped
      exact .keep rfl rfl
  | registerReturn conn =>
      obtain ⟨connection, depth, -, -, rfl⟩ := registerReturn_some stepped
      exact .keep rfl rfl
  | sendToken conn token =>
      obtain ⟨connection, -, -, rfl⟩ := sendToken_some stepped
      exact .of_store (Daemon.push_store ..)
  | ack conn =>
      obtain ⟨connection, payload, -, -, rfl⟩ := ack_some stepped
      exact .of_store (Daemon.push_store ..)
  | registerDeliver =>
      obtain ⟨conn, connection, settings, item, rest, -, -, -, ⟨-, rfl⟩ | ⟨-, rfl⟩⟩ :=
        registerDeliver_some stepped
      · exact .keep rfl rfl
      · exact .keep rfl rfl
  | registerFinish =>
      obtain ⟨conn, connection, settings, rest, full, -, -, -, -, rfl⟩ :=
        registerFinish_some stepped
      exact .of_store (Daemon.broadcastPresence_store ..)
  | receiveClip conn event now =>
      obtain ⟨connection, -, -, -, ⟨payload, rfl⟩ | ⟨-, rfl⟩⟩ := receiveClip_some stepped
      · exact .keep rfl rfl
      · exact .keep rfl rfl
  | routeBroadcast index =>
      obtain ⟨event, -, -, rfl | ⟨-, rfl⟩⟩ := routeBroadcast_some stepped
      · exact .keep rfl rfl
      · exact .keep rfl rfl
  | routePrepare now =>
      obtain ⟨source, event, settings, -, rfl⟩ := routePrepare_some stepped
      exact .keep (claimBlob_devices ..) (prepareRoute_names ..)
  | routeDeliver now =>
      obtain ⟨source, event, settings, target, rest, progress, -, served, delivery, delivered,
        rfl⟩ := routeDeliver_some stepped
      rcases Daemon.deliverTo_cases _ _ delivered with
        ⟨-, -, rfl⟩ | ⟨-, conn, connection, -, -, -, -, rfl⟩ | ⟨-, base, -, -, rfl⟩
      · exact .keep rfl rfl
      · exact .keep rfl rfl
      · exact .keep rfl rfl
  | routeFinish =>
      obtain ⟨source, event, settings, progress, -, rfl | ⟨conn, connection, payload, -, -, -,
        rfl⟩⟩ := routeFinish_some stepped
      · exact .keep rfl rfl
      · exact .keep rfl rfl
  | setPool conn pool =>
      obtain ⟨-, rfl | ⟨connection, device, -, -, rfl⟩⟩ := setPool_some stepped
      · exact .keep rfl rfl
      · exact .keep rfl rfl
  | requestBlob blob =>
      rw [requestBlob_some stepped]
      exact .of_store (Daemon.handleBlobRequest_store ..)
  | evict id =>
      obtain ⟨-, -, rfl⟩ := evict_some stepped
      exact .of_store (Daemon.handleEvict_store ..)
  | takeFrame conn =>
      obtain ⟨connection, frame, rest, -, -, -, rfl⟩ := takeFrame_some stepped
      exact .keep rfl rfl
  | wroteFrame conn =>
      obtain ⟨connection, frame, -, -, rfl⟩ := wroteFrame_some stepped
      exact .keep rfl rfl
  | writeError conn =>
      obtain ⟨connection, frame, -, -, rfl⟩ := writeError_some stepped
      exact .keep rfl rfl
  | stopPump conn =>
      obtain ⟨connection, -, -, rfl⟩ := stopPump_some stepped
      exact .keep rfl rfl
  | refreshSettings index =>
      obtain ⟨settings, -, rfl⟩ := refreshSettings_some stepped
      exact .keep rfl rfl
  | broadcast id text now =>
      rw [broadcast_some stepped]
      exact .keep rfl rfl
  | rotateToken op =>
      obtain ⟨tokens, tokenIndex, rfl⟩ := rotateToken_store stepped
      exact .keep rfl rfl
  | purgeQueues now =>
      cases stepped
      refine .keep (Store.purge_devices ..) ?_
      simp only [purgeQueues, record, withStore, Store.purgeExpiredQueueItems]
      split_ifs <;> rfl
  | touchBlob blob now size mime =>
      obtain ⟨-, rfl⟩ := touchBlob_some stepped
      exact .keep rfl rfl
  | putSettings | loadSettings | putPairing | purgePairing | collectBlob =>
      cases stepped
      exact .keep rfl rfl

end Steps

/-! ## Conditions on runs -/

/-- The device id an action mints. -/
def minted? : Option Action → Option DeviceID
  | some (.claimPairing _ suffix _ _ _ _) => some ("dev_" ++ suffix)
  | _ => none

/-- The device that an action writes back after a pool change. -/
def writtenBack? (relay : Relay) : Option Action → Option Device
  | some .storePool =>
      match relay.task with
      | .repooling device _ => some device
      | _ => none
  | _ => none

/-- Pairing mints an id that was never in use. -/
def MintsFresh (relay : Relay) (action : Option Action) : Prop :=
  ∀ id ∈ minted? action,
    relay.daemon.store.devices.get? id = none ∧ .deleted id ∉ relay.log

/-- A device about to be written back by a pool change is still stored. -/
def StillStored (relay : Relay) (action : Option Action) : Prop :=
  ∀ device ∈ relay.writtenBack? action, relay.daemon.store.devices.contains device.id

instance (relay : Relay) (action : Option Action) : Decidable (relay.MintsFresh action) :=
  inferInstanceAs (Decidable (∀ id ∈ minted? action, _))

instance (relay : Relay) (action : Option Action) : Decidable (relay.StillStored action) :=
  inferInstanceAs (Decidable (∀ device ∈ relay.writtenBack? action, _))

theorem writtenBack?_storePool {relay : Relay} {device : Device} {pool : String}
    (task : relay.task = .repooling device pool) :
    relay.writtenBack? (some .storePool) = some device := by
  simp only [writtenBack?, task]

theorem of_writtenBack? {relay : Relay} {action : Option Action} {device : Device}
    (writes : relay.writtenBack? action = some device) :
    ∃ pool, action = some .storePool ∧ relay.task = .repooling device pool := by
  simp only [writtenBack?] at writes
  split at writes
  next =>
    split at writes
    next read pool task =>
      cases writes
      exact ⟨pool, rfl, task⟩
    next => cases writes
  next => cases writes

/-- The index is exact, and deleted ids are not stored; devices are filed under their
ids, and a device read by a pool change has kept its name or is deleted. -/
structure Tabled (lib : Library) (relay : Relay) : Prop where
  indexed : relay.NamesIndexed lib
  gone : ∀ id, .deleted id ∈ relay.log → relay.daemon.store.devices.get? id = none
  filed : ∀ key device, relay.daemon.store.devices.get? key = some device → device.id = key
  pending : ∀ device pool, relay.task = .repooling device pool →
    (∃ row, relay.daemon.store.devices.get? device.id = some row ∧ row.name = device.name) ∨
      .deleted device.id ∈ relay.log

section Invariant

variable {env : Env} {relay after : Relay} {action : Action}

theorem Tabled.boot (lib : Library) : (Relay.boot .empty).Tabled lib where
  indexed := Indexes.empty
  gone := by simp [Relay.boot]
  filed := by simp [Relay.boot, Daemon.boot, Store.empty]
  pending := by simp [Relay.boot]

theorem Tabled.restart {lib : Library} (inv : relay.Tabled lib) : relay.restart.Tabled lib where
  indexed := inv.indexed
  gone := inv.gone
  filed := inv.filed
  pending := by simp [Relay.restart, Relay.boot]

/-- A stored device keeps its name until it is deleted. -/
theorem Tabled.row_kept (inv : relay.Tabled env.lib) (fresh : relay.MintsFresh (some action))
    (stepped : relay.step env action = some after) {id : DeviceID} {row : Device}
    (found : relay.daemon.store.devices.get? id = some row) :
    (∃ kept, after.daemon.store.devices.get? id = some kept ∧ kept.name = row.name) ∨
      .deleted id ∈ after.log := by
  have change := table_of_step stepped
  cases change with
  | keep devices _ => exact .inl ⟨row, by rw [devices, found], rfl⟩
  | @seen _ key device now present devices _ =>
      left
      rw [devices, OrderedMap.get?_put]
      split_ifs with same
      · subst same
        cases found.symm.trans present
        exact ⟨_, rfl, rfl⟩
      · exact ⟨row, found, rfl⟩
  | @paired code suffix name platform token now free devices _ =>
      left
      have other : id ≠ "dev_" ++ suffix := by
        rintro rfl
        cases found.symm.trans (fresh _ rfl).1
      exact ⟨row, by rw [devices, OrderedMap.get?_put_of_ne _ _ other, found], rfl⟩
  | @deleted key recorded devices _ =>
      by_cases same : id = key
      · exact .inr (same ▸ recorded)
      · exact .inl ⟨row, by rw [devices, OrderedMap.get?_erase_of_ne _ same, found], rfl⟩
  | @repooled device pool task finished devices _ =>
      left
      rw [devices, OrderedMap.get?_put]
      split_ifs with same
      · subst same
        refine ⟨_, rfl, ?_⟩
        rcases inv.pending device pool task with ⟨kept, present, name⟩ | deleted
        · cases found.symm.trans present
          exact name.symm
        · cases found.symm.trans (inv.gone _ deleted)
      · exact ⟨row, found, rfl⟩

theorem Tabled.indexed_step (inv : relay.Tabled env.lib)
    (fresh : relay.MintsFresh (some action)) (still : relay.StillStored (some action))
    (stepped : relay.step env action = some after) : after.NamesIndexed env.lib := by
  have change := table_of_step stepped
  rw [NamesIndexed]
  cases change with
  | keep devices names => rw [devices, names]; exact inv.indexed
  | seen found devices names =>
      rw [devices, names]
      exact inv.indexed.update found rfl
  | @paired code suffix name platform token now free devices names =>
      have unused := (fresh _ rfl).1
      have unnamed : relay.daemon.store.deviceNames.get? (env.lib.toLower name) = none := by
        cases taken : relay.daemon.store.deviceNames.get? (env.lib.toLower name) with
        | none => rfl
        | some key =>
            obtain ⟨device, found, -⟩ := (inv.indexed _ _).mp taken
            have same : key = "dev_" ++ suffix := by simpa [taken] using free
            cases unused.symm.trans (same ▸ found)
      rw [devices, names]
      exact inv.indexed.insert unused unnamed
  | @deleted key recorded devices names =>
      rw [devices, names]
      cases found : relay.daemon.store.devices.get? key with
      | none => exact inv.indexed.erase_absent found
      | some device => exact inv.indexed.erase found
  | @repooled device pool task finished devices names =>
      have stored := still device (writtenBack?_storePool task)
      rw [devices, names]
      rcases inv.pending device pool task with ⟨row, found, name⟩ | deleted
      · exact inv.indexed.put_present found (by simp [indexName, name])
      · simp [OrderedMap.contains, inv.gone _ deleted] at stored

/-- A deleted id stays out of the table. -/
theorem Tabled.gone_step (inv : relay.Tabled env.lib)
    (fresh : relay.MintsFresh (some action)) (still : relay.StillStored (some action))
    (stepped : relay.step env action = some after) {id : DeviceID}
    (recorded : .deleted id ∈ relay.log) : after.daemon.store.devices.get? id = none := by
  have absent := inv.gone id recorded
  have change := table_of_step stepped
  cases change with
  | keep devices _ => rw [devices, absent]
  | seen found devices _ =>
      rw [devices, OrderedMap.get?_put]
      split_ifs with same
      · cases absent.symm.trans (same ▸ found)
      · exact absent
  | paired free devices _ =>
      rw [devices, OrderedMap.get?_put]
      split_ifs with same
      · exact absurd (same ▸ recorded) (fresh _ rfl).2
      · exact absent
  | deleted _ devices _ =>
      rw [devices, OrderedMap.get?_erase]
      split_ifs
      · rfl
      · exact absent
  | @repooled device pool task finished devices _ =>
      rw [devices, OrderedMap.get?_put]
      split_ifs with same
      · have stored := still device (writtenBack?_storePool task)
        simp [OrderedMap.contains, ← same, absent] at stored
      · exact absent

theorem Tabled.pending_step (inv : relay.Tabled env.lib)
    (fresh : relay.MintsFresh (some action)) (stepped : relay.step env action = some after)
    {device : Device} {pool : String} (repooling : after.task = .repooling device pool) :
    (∃ row, after.daemon.store.devices.get? device.id = some row ∧ row.name = device.name) ∨
      .deleted device.id ∈ after.log := by
  have effect := effect_of_step stepped
  have change := effect.task
  rw [repooling] at change
  generalize result : Task.repooling device pool = task at change
  cases change with
  | keep =>
      rcases inv.pending device pool result.symm with ⟨row, found, name⟩ | deleted
      · rcases inv.row_kept fresh stepped found with ⟨kept, present, same⟩ | deleted
        · exact .inl ⟨kept, present, same.trans name⟩
        · exact .inr deleted
      · exact .inr (effect.fact_kept deleted)
  | finish | register | ingest | prepare | deliver => cases result
  | @repool conn requested key read _ stored =>
      cases result
      have named := inv.filed key device stored
      exact inv.row_kept fresh stepped (named.symm ▸ stored)

theorem Tabled.step (inv : relay.Tabled env.lib) (fresh : relay.MintsFresh (some action))
    (still : relay.StillStored (some action)) (stepped : relay.step env action = some after) :
    after.Tabled env.lib where
  indexed := inv.indexed_step fresh still stepped
  gone := by
    intro id recorded
    rcases (intake_of_step stepped).deletions id recorded with known | rfl
    · exact inv.gone_step fresh still stepped known
    · cases stepped
      simp [deleteDevice, record, withStore, Store.deleteDevice]
  filed := by
    intro key device found
    rcases (intake_of_step stepped).devices key device found with named | ⟨old, present, same⟩
    · exact named
    · exact same.trans (inv.filed key old present)
  pending := fun _ _ repooling => inv.pending_step fresh stepped repooling

theorem Tabled.life (inv : relay.Tabled env.lib) {action : Option Action}
    (fresh : relay.MintsFresh action) (still : relay.StillStored action)
    (stepped : relay.life env action = some after) : after.Tabled env.lib := by
  cases action with
  | none =>
      cases stepped
      exact inv.restart
  | some action => exact inv.step fresh still stepped

end Invariant

/-- The registry of devices is intact: a lower-cased name leads to an id exactly when the
device of that id has the name, no two devices share a name, and no deleted id is
stored. -/
structure Intact (lib : Library) (relay : Relay) : Prop where
  indexed : ∀ name id, relay.daemon.store.deviceNames.get? name = some id ↔
    ∃ device, relay.daemon.store.devices.get? id = some device ∧ lib.toLower device.name = name
  distinct : ∀ left right first second,
    relay.daemon.store.devices.get? left = some first →
    relay.daemon.store.devices.get? right = some second →
    lib.toLower first.name = lib.toLower second.name → left = right
  gone : ∀ id, .deleted id ∈ relay.log → relay.daemon.store.devices.get? id = none

theorem Tabled.intact {lib : Library} {relay : Relay} (inv : relay.Tabled lib) :
    relay.Intact lib where
  indexed := inv.indexed
  distinct _ _ _ _ leftFound rightFound same := inv.indexed.key_unique leftFound rightFound same
  gone := inv.gone

/-- In every run, over restarts too, in which pairing mints unused ids, the registry of
devices is intact as long as no pool change is stored for a device deleted since it was
read; the first such step brings a deleted id back. -/
theorem registry_intact_iff (env : Env) :
    (∀ relay : Relay, Run (Relay.life env)
        (fun before action => before.MintsFresh action ∧ before.StillStored action)
        (Relay.boot .empty) relay → relay.Intact env.lib) ∧
    ∀ (relay after : Relay) (action : Option Action), Run (Relay.life env)
        (fun before action => before.MintsFresh action ∧ before.StillStored action)
        (Relay.boot .empty) relay →
      ¬relay.StillStored action → relay.life env action = some after →
      ¬after.Intact env.lib := by
  have invariant : ∀ relay : Relay, Run (Relay.life env)
      (fun before action => before.MintsFresh action ∧ before.StillStored action)
      (Relay.boot .empty) relay → relay.Tabled env.lib := fun relay run =>
    run.invariant (Tabled.boot env.lib) fun inv admitted stepped =>
      inv.life admitted.1 admitted.2 stepped
  refine ⟨fun relay run => (invariant relay run).intact, ?_⟩
  intro relay after action run undone stepped intact
  simp only [StillStored, not_forall] at undone
  obtain ⟨device, writes, missing⟩ := undone
  obtain ⟨pool, rfl, task⟩ := of_writtenBack? writes
  have storing : relay.step env .storePool = some after := stepped
  have deleted : .deleted device.id ∈ relay.log := by
    rcases (invariant relay run).pending device pool task with ⟨row, found, -⟩ | deleted
    · simp [OrderedMap.contains, found] at missing
    · exact deleted
  have stored : after.daemon.store.devices.get? device.id = some { device with pool } := by
    obtain ⟨device', pool', task', rfl⟩ := storePool_some storing
    cases task.symm.trans task'
    simp [Store.putDevice]
  cases (intact.gone device.id ((effect_of_step storing).fact_kept deleted)).symm.trans stored

/-- A device is deleted while its pool change is between read and write, and a new device
takes its name before the write: the deleted device is back, under the same name. -/
theorem pool_change_resurrects :
    ¬∀ (env : Env) (relay : Relay), Run (Relay.life env) MintsFresh (Relay.boot .empty) relay →
      relay.Intact env.lib := by
  intro claim
  obtain ⟨relay, run, checked⟩ := Run.exists_of_execWhen (Relay.life demoEnv)
    (fun before action => decide (before.MintsFresh action)) (Relay.boot .empty)
    ((Action.bothUp ++ [Action.setPool 0 "work", Action.deleteDevice "dev_a"] ++
      Action.pair "c" "laptop" ++ [Action.storePool]).map some)
    (fun relay =>
      decide ((relay.daemon.store.devices.get? "dev_a").map (·.name) = some "laptop") &&
        decide ((relay.daemon.store.devices.get? "dev_c").map (·.name) = some "laptop"))
    (by decide +kernel)
  obtain ⟨back, taken⟩ := Bool.and_eq_true_iff.mp checked
  obtain ⟨first, firstFound, firstName⟩ := Option.map_eq_some_iff.mp (of_decide_eq_true back)
  obtain ⟨second, secondFound, secondName⟩ := Option.map_eq_some_iff.mp (of_decide_eq_true taken)
  have intact := claim demoEnv relay (run.mono of_decide_eq_true)
  have same := intact.distinct "dev_a" "dev_c" first second firstFound secondFound
    (by rw [firstName, secondName])
  exact absurd same (by decide)

/-- A pool change between whose transactions nothing is deleted. -/
theorem registry_intact_repooled :
    ∃ relay : Relay, (relay.daemon.store.devices.get? "dev_a").map (·.pool) = some "work" ∧
      relay.Intact demoEnv.lib := by
  obtain ⟨relay, run, checked⟩ := Run.exists_of_execWhen (Relay.life demoEnv)
    (fun before action => decide (before.MintsFresh action ∧ before.StillStored action))
    (Relay.boot .empty)
    ((Action.bothUp ++ [Action.setPool 0 "work"] ++ Action.pair "c" "tablet" ++
      [Action.storePool, Action.deleteDevice "dev_b"]).map some)
    (fun relay => decide ((relay.daemon.store.devices.get? "dev_a").map (·.pool) = some "work"))
    (by decide +kernel)
  exact ⟨relay, of_decide_eq_true checked,
    (registry_intact_iff demoEnv).1 relay (run.mono of_decide_eq_true)⟩

end CopySync.Server.Relay
