import CopySync.Server.Relay.Deletion
import CopySync.Server.Relay.Secrecy

/-!
# Where the clips of the relay come from

Clips enter the relay with a frame of a client or with a broadcast of the server, and
nothing else makes one: whatever is queued, held, sent or routed was taken in before, in
the form frames and queue items carry it.
-/

namespace CopySync.Server.Relay

open Foundation

/-- The clip an action takes in. -/
def ingests (env : Env) (relay : Relay) : Action → Option ClipEvent
  | .receiveClip conn event now =>
      (relay.connection? conn).map fun connection =>
        event.received env.lib connection.owner now
  | .broadcast id text now => some (.broadcastOf env.lib id text now)
  | _ => none

/-- Every clip on its way is good, in the form in which it is carried. -/
structure Carries (relay : Relay) (good : ClipEvent → Prop) : Prop where
  routed : ∀ event ∈ relay.task.event?, good event.wire
  broadcasting : ∀ event ∈ relay.broadcasting, good event.wire
  held : ∀ id, ∀ event ∈ (relay.mailbox id).contents, good event

section Steps

variable {env : Env} {relay after : Relay} {action : Action} {good : ClipEvent → Prop}

/-- A broadcast waits for the hub once it has passed its check. -/
theorem broadcasting_of_step (stepped : relay.step env action = some after) :
    ∀ event ∈ after.broadcasting,
      event ∈ relay.broadcasting ∨ event ∈ relay.ingests env action := by
  have kept (same : after.broadcasting = relay.broadcasting) :
      ∀ event ∈ after.broadcasting,
        event ∈ relay.broadcasting ∨ event ∈ relay.ingests env action :=
    fun event listed => .inl (same ▸ listed)
  cases action with
  | broadcast id text now =>
      rw [broadcast_some stepped]
      intro event listed
      rcases List.mem_append.mp listed with old | new
      · exact .inl old
      · exact .inr (by simp [ingests, List.mem_singleton.mp new])
  | routeBroadcast index =>
      have erased : ∀ event ∈ relay.broadcasting.eraseIdx index, event ∈ relay.broadcasting :=
        fun event listed => List.mem_of_mem_eraseIdx listed
      obtain ⟨event, -, -, rfl | ⟨-, rfl⟩⟩ := routeBroadcast_some stepped
      · exact fun event listed => .inl (erased event listed)
      · exact fun event listed => .inl (erased event listed)
  | connect id token =>
      obtain ⟨device, -, rfl⟩ := connect_some stepped
      exact kept rfl
  | readSettings conn =>
      obtain ⟨connection, -, -, rfl⟩ := readSettings_some stepped
      exact kept rfl
  | drain conn =>
      obtain ⟨connection, settings, -, -, rfl⟩ := drain_some stepped
      exact kept rfl
  | requeue conn =>
      obtain ⟨connection, depth, item, rest, -, -, rfl⟩ := requeue_some stepped
      exact kept rfl
  | registerReturn conn =>
      obtain ⟨connection, depth, -, -, rfl⟩ := registerReturn_some stepped
      exact kept rfl
  | sendToken conn token =>
      obtain ⟨connection, -, -, rfl⟩ := sendToken_some stepped
      exact kept rfl
  | ack conn =>
      obtain ⟨connection, payload, -, -, rfl⟩ := ack_some stepped
      exact kept rfl
  | registerStart conn now =>
      obtain ⟨connection, settings, items, -, -, -, rfl⟩ := registerStart_some stepped
      exact kept rfl
  | registerDeliver =>
      obtain ⟨conn, connection, settings, item, rest, -, -, -, ⟨-, rfl⟩ | ⟨-, rfl⟩⟩ :=
        registerDeliver_some stepped
      · exact kept rfl
      · exact kept rfl
  | registerFinish =>
      obtain ⟨conn, connection, settings, rest, full, -, -, -, -, rfl⟩ :=
        registerFinish_some stepped
      exact kept rfl
  | unregister conn now =>
      obtain ⟨connection, -, -, -, rfl⟩ := unregister_some stepped
      exact kept rfl
  | receiveClip conn event now =>
      obtain ⟨connection, -, -, -, ⟨payload, rfl⟩ | ⟨-, rfl⟩⟩ := receiveClip_some stepped
      · exact kept rfl
      · exact kept rfl
  | routePrepare now =>
      obtain ⟨source, event, settings, -, rfl⟩ := routePrepare_some stepped
      exact kept rfl
  | routeDeliver now =>
      obtain ⟨source, event, settings, target, rest, progress, -, daemon, delivery, -, rfl⟩ :=
        routeDeliver_some stepped
      exact kept rfl
  | routeFinish =>
      obtain ⟨source, event, settings, progress, -, rfl | ⟨conn, connection, payload, -, -, -,
        rfl⟩⟩ := routeFinish_some stepped
      · exact kept rfl
      · exact kept rfl
  | setPool conn pool =>
      obtain ⟨-, rfl | ⟨connection, device, -, -, rfl⟩⟩ := setPool_some stepped
      · exact kept rfl
      · exact kept rfl
  | storePool =>
      obtain ⟨device, pool, -, rfl⟩ := storePool_some stepped
      exact kept rfl
  | requestBlob id =>
      rw [requestBlob_some stepped] at kept ⊢
      exact kept rfl
  | evict id =>
      obtain ⟨-, -, rfl⟩ := evict_some stepped
      exact kept rfl
  | takeFrame conn =>
      obtain ⟨connection, frame, rest, -, -, -, rfl⟩ := takeFrame_some stepped
      exact kept rfl
  | wroteFrame conn =>
      obtain ⟨connection, frame, -, -, rfl⟩ := wroteFrame_some stepped
      exact kept rfl
  | writeError conn =>
      obtain ⟨connection, frame, -, -, rfl⟩ := writeError_some stepped
      exact kept rfl
  | stopPump conn =>
      obtain ⟨connection, -, -, rfl⟩ := stopPump_some stepped
      exact kept rfl
  | refreshSettings index =>
      obtain ⟨settings, -, rfl⟩ := refreshSettings_some stepped
      exact kept rfl
  | claimPairing code suffix name platform token now =>
      rw [claimPairing_some stepped] at kept ⊢
      exact kept rfl
  | rotateToken op =>
      obtain ⟨store, rfl, -, -, -⟩ := rotateToken_some stepped
      exact kept rfl
  | touchBlob id now size mime =>
      obtain ⟨-, rfl⟩ := touchBlob_some stepped
      exact kept rfl
  | deleteDevice id | putSettings settings | loadSettings | putPairing code | purgePairing now
  | purgeQueues now | collectBlob id =>
      cases stepped
      exact kept rfl

/-- The hub routes what a client sent or what waited as a broadcast. -/
theorem routed_of_step (stepped : relay.step env action = some after) :
    ∀ event ∈ after.task.event?, event ∈ relay.task.event? ∨ event ∈ relay.broadcasting ∨
      event ∈ relay.ingests env action := by
  intro event routed
  have change := (effect_of_step stepped).task
  generalize same : after.task = task at change routed
  cases change with
  | keep => exact .inl routed
  | finish | register | repool => simp [Task.event?] at routed
  | prepare task _ | deliver task =>
      cases routed
      exact .inl (by rw [task]; rfl)
  | @ingest _ source clip idle passes =>
      cases routed
      rcases (intake_of_step stepped).admitted _ _ _ same with old |
        ⟨conn, sent, now, connection, rfl, found, serving, -⟩ | ⟨index, listed⟩
      · rw [idle, same] at old
        cases old
      · obtain ⟨connection', -, found', -, ⟨payload, rfl⟩ | ⟨-, rfl⟩⟩ := receiveClip_some stepped
        · exact absurd same (by simp [setSession, setConnection, idle])
        · cases found.symm.trans found'
          cases same
          exact .inr (.inr (by simp [ingests, found, Connection.owner]))
      · exact .inr (.inl (List.mem_of_getElem? listed))

theorem Carries.boot {store : Store}
    (stored : ∀ id, ∀ item ∈ store.queueOf id, good item.event) :
    (Relay.boot store).Carries good where
  routed := by simp [Relay.boot, Task.event?]
  broadcasting := by simp [Relay.boot]
  held id event held := by
    simp only [Relay.boot, Daemon.boot, mailbox, Mailbox.contents, List.map_nil,
      List.flatMap_nil, List.append_nil, List.mem_map] at held
    obtain ⟨item, queued, rfl⟩ := held
    exact stored id item queued

theorem Carries.mono {better : ClipEvent → Prop} (carries : relay.Carries good)
    (implies : ∀ event, good event → better event) : relay.Carries better where
  routed event routed := implies _ (carries.routed event routed)
  broadcasting event listed := implies _ (carries.broadcasting event listed)
  held id event held := implies _ (carries.held id event held)

/-- If what is taken in is good, everything on its way stays good. -/
theorem Carries.step (carries : relay.Carries good) (keyed : relay.Keyed)
    (fresh : ∀ event ∈ relay.ingests env action, good event.wire)
    (stepped : relay.step env action = some after) : after.Carries good := by
  constructor
  · intro event routed
    rcases routed_of_step stepped event routed with old | waiting | new
    · exact carries.routed event old
    · exact carries.broadcasting event waiting
    · exact fresh event new
  · intro event listed
    rcases broadcasting_of_step stepped event listed with old | new
    · exact carries.broadcasting event old
    · exact fresh event new
  · intro id event held
    rcases (mailbox_step keyed stepped).contents_origin held with old | accepted
    · exact carries.held id event old
    · obtain ⟨source, routed, settings, target, rest, progress, task, -, rfl⟩ :=
        routing_of_accepts accepted
      exact carries.routed routed (by rw [task]; rfl)

/-- Queued clips survive the process. -/
theorem Carries.restart (carries : relay.Carries good) : relay.restart.Carries good := by
  have fresh : (Relay.boot relay.daemon.store).Carries good := by
    refine .boot fun id item queued => carries.held id item.event ?_
    exact Mailbox.mem_contents.mpr (.inl (List.mem_map_of_mem queued))
  exact ⟨fresh.routed, fresh.broadcasting, fresh.held⟩

/-- What a writer holds is carried. -/
theorem Carries.writing {conn : ConnID} {connection : Connection} {event : ClipEvent}
    (carries : relay.Carries good) (found : relay.connection? conn = some connection)
    (writing : connection.pump = .writing (.clip event)) : good event := by
  apply carries.held connection.owner
  apply Mailbox.mem_contents_of_link (link_of_owner found rfl)
  rw [Link.items, Connection.inFlight_of_writing writing rfl]
  simp

/-! ## Whose connections they are -/

/-- Devices are stored under their ids. -/
def Filed (relay : Relay) : Prop :=
  ∀ key device, relay.daemon.store.devices.get? key = some device → device.id = key

theorem Filed.boot : (Relay.boot .empty).Filed := by
  simp [Filed, Relay.boot, Daemon.boot, Store.empty]

theorem Filed.step (filed : relay.Filed) (stepped : relay.step env action = some after) :
    after.Filed := by
  intro key device found
  rcases (intake_of_step stepped).devices key device found with named | ⟨old, present, same⟩
  · exact named
  · exact same.trans (filed key old present)

/-- A new connection belongs to the device that dialed. -/
theorem owners_of_connect {id : DeviceID} {token : String} (filed : relay.Filed)
    (stepped : relay.step env (.connect id token) = some after) :
    after.owners = relay.owners ++ [id] := by
  obtain ⟨device, accepted, rfl⟩ := connect_some stepped
  have named : device.id = id := filed id device (validate_eq_some accepted).1
  simp [owners, Connection.owner, Client.new, named]

theorem move_ne_connect {id : DeviceID} (other : ∀ device token, action ≠ .connect device token) :
    relay.move id action ≠ .connect := by
  intro connects
  cases action with
  | connect device token => exact other device token rfl
  | drain conn | requeue conn | takeFrame conn | wroteFrame conn | writeError conn =>
      simp only [move] at connects
      split_ifs at connects
  | registerDeliver | routeDeliver now =>
      simp only [move] at connects
      repeat' split at connects
      all_goals cases connects
  | _ => cases connects

/-- Connections keep their devices, and only `connect` makes one. -/
theorem owners_of_step (keyed : relay.Keyed)
    (other : ∀ device token, action ≠ .connect device token)
    (stepped : relay.step env action = some after) : after.owners = relay.owners := by
  rcases (effect_of_step stepped).owners with same | ⟨id, grown⟩
  · exact same
  · have moved : (relay.mailbox id).Step (relay.move id action) (after.mailbox id) :=
      mailbox_step keyed stepped
    have links := moved.links_length (move_ne_connect other)
    have longer := congrArg List.length grown
    simp only [mailbox, List.length_map, owners, List.length_append, List.length_singleton]
      at links longer
    omega

end Steps

end CopySync.Server.Relay
