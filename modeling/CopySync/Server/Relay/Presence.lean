import CopySync.Desktop.Roster
import CopySync.Server.Relay.Authorization
import CopySync.Server.Relay.Deletion

/-!
# Who a client believes is online

A client's roster is computed from the greeting and the presence frames put into its
channel.  Every change of the registry is announced but one: a route that finds a
send channel full takes its client out of the registry and tells nobody.  And a pool
change is announced as presence, also for a device that has left the registry, when
the read pump of a connection already removed still hands it over.  Without these
two, the roster of every client whose channel never filled agrees with the registry
whenever the hub is not in the middle of a registration.
-/

namespace CopySync.Server

open Foundation Desktop

namespace Watch

/-- Steps of a server over several processes; no action is a restart. -/
def life (env : Env) (watch : Watch) : Option Action → Option Watch
  | some action => (watch.relay.step env action).map watch.observe
  | none => some (start watch.relay.restart)

/-- The devices a client knows have the online flag the registry gives them. -/
def Agrees (watch : Watch) (roster : List RosterDevice) : Prop :=
  ∀ entry ∈ roster, entry.online = watch.relay.clients.contains entry.id

/-- Every registered client whose channel never filled agrees with the registry,
whatever roster it showed before it connected. -/
def PresenceAgrees (watch : Watch) : Prop :=
  ∀ conn connection shown, watch.relay.connection? conn = some connection →
    watch.relay.clients.get? connection.owner = some conn → watch.filled conn = false →
    watch.Agrees (rosterAfter shown (watch.sent conn))

end Watch

namespace Relay

/-- The hub is not between entering a client into the registry and announcing it. -/
def settled (relay : Relay) : Bool :=
  match relay.task with
  | .registering _ => false
  | _ => true

/-- No route meets a registered client whose channel is full, and no pool change is
announced for a device outside the registry. -/
def announcing (relay : Relay) : Action → Bool
  | .routeDeliver _ =>
      match relay.task with
      | .routing _ event _ (target :: _) _ =>
          decide (target.id = event.originDevice) ||
            (relay.clients.get? target.id).all fun conn =>
              (relay.connection? conn).any Connection.hasRoom
      | _ => true
  | .storePool =>
      match relay.task with
      | .repooling device _ => relay.clients.contains device.id
      | _ => true
  | _ => true

section Steps

variable {env : Env} {relay after : Relay} {action : Action} {conn : ConnID}

/-- Only the end of a registration lets the hub do something else. -/
theorem registering_kept (registering : relay.task = .registering conn)
    (unfinished : action ≠ .registerFinish) (stepped : relay.step env action = some after) :
    after.task = .registering conn := by
  cases action with
  | registerFinish => exact absurd rfl unfinished
  | registerStart other now =>
      obtain ⟨_, _, _, idle, -⟩ := registerStart_some stepped
      cases registering.symm.trans idle
  | unregister other now =>
      obtain ⟨_, idle, -⟩ := unregister_some stepped
      cases registering.symm.trans idle
  | receiveClip other event now =>
      obtain ⟨_, idle, -⟩ := receiveClip_some stepped
      cases registering.symm.trans idle
  | routeBroadcast index =>
      obtain ⟨_, idle, -⟩ := routeBroadcast_some stepped
      cases registering.symm.trans idle
  | routePrepare now =>
      obtain ⟨_, _, _, task, -⟩ := routePrepare_some stepped
      cases registering.symm.trans task
  | routeDeliver now =>
      obtain ⟨_, _, _, _, _, _, task, -⟩ := routeDeliver_some stepped
      cases registering.symm.trans task
  | routeFinish =>
      obtain ⟨_, _, _, _, task, -⟩ := routeFinish_some stepped
      cases registering.symm.trans task
  | setPool other pool =>
      obtain ⟨idle, -⟩ := setPool_some stepped
      cases registering.symm.trans idle
  | storePool =>
      obtain ⟨_, _, task, -⟩ := storePool_some stepped
      cases registering.symm.trans task
  | evict id =>
      obtain ⟨idle, -⟩ := evict_some stepped
      cases registering.symm.trans idle
  | requestBlob blob =>
      rw [requestBlob_some stepped]
      exact registering
  | connect id token =>
      obtain ⟨_, -, rfl⟩ := connect_some stepped
      exact registering
  | readSettings other =>
      obtain ⟨_, -, -, rfl⟩ := readSettings_some stepped
      exact registering
  | drain other =>
      obtain ⟨_, _, -, -, rfl⟩ := drain_some stepped
      exact registering
  | requeue other =>
      obtain ⟨_, _, _, _, -, -, rfl⟩ := requeue_some stepped
      exact registering
  | registerReturn other =>
      obtain ⟨_, _, -, -, rfl⟩ := registerReturn_some stepped
      exact registering
  | sendToken other token =>
      obtain ⟨_, -, -, rfl⟩ := sendToken_some stepped
      exact registering
  | ack other =>
      obtain ⟨_, _, -, -, rfl⟩ := ack_some stepped
      exact registering
  | registerDeliver =>
      obtain ⟨_, _, _, _, _, -, -, -, ⟨-, rfl⟩ | ⟨-, rfl⟩⟩ := registerDeliver_some stepped
      · exact registering
      · exact registering
  | takeFrame other =>
      obtain ⟨_, _, _, -, -, -, rfl⟩ := takeFrame_some stepped
      exact registering
  | wroteFrame other =>
      obtain ⟨_, _, -, -, rfl⟩ := wroteFrame_some stepped
      exact registering
  | writeError other =>
      obtain ⟨_, _, -, -, rfl⟩ := writeError_some stepped
      exact registering
  | stopPump other =>
      obtain ⟨_, -, -, rfl⟩ := stopPump_some stepped
      exact registering
  | refreshSettings index =>
      obtain ⟨_, -, rfl⟩ := refreshSettings_some stepped
      exact registering
  | broadcast id text now =>
      rw [broadcast_some stepped]
      exact registering
  | claimPairing code suffix name platform token now =>
      rw [claimPairing_some stepped]
      exact registering
  | rotateToken op =>
      obtain ⟨_, rfl, -⟩ := rotateToken_some stepped
      exact registering
  | touchBlob blob now size mime =>
      obtain ⟨-, rfl⟩ := touchBlob_some stepped
      exact registering
  | deleteDevice | putSettings | loadSettings | putPairing | purgePairing | purgeQueues
  | collectBlob =>
      cases stepped
      exact registering

end Steps

end Relay

/-! ## Rosters and frames -/

/-- Other frames leave the roster alone. -/
theorem rosterAfter_filter (shown : List RosterDevice) (frames : List Frame) :
    rosterAfter shown (frames.filter Frame.announces) = rosterAfter shown frames := by
  induction frames generalizing shown with
  | nil => rfl
  | cons frame rest ih =>
      cases frame with
      | helloOK hello => exact ih _
      | presence payload => exact ih _
      | clip | ack | blobRequest | tokenRotate => exact ih shown

theorem rosterAfter_append (shown : List RosterDevice) (frames new : List Frame) :
    rosterAfter shown (frames ++ new) = rosterAfter (rosterAfter shown frames) new :=
  List.foldl_append

/-- A registered client other than the excluded one is told. -/
theorem announceTo_registered {clients : OrderedMap DeviceID ConnID} {id exclude : DeviceID}
    {conn : ConnID} (registered : clients.get? id = some conn) (other : id ≠ exclude)
    (payload : Presence) :
    Daemon.announceTo clients.entries exclude payload conn = some (.presence payload) := by
  rw [Daemon.announceTo, if_pos]
  exact List.any_eq_true.mpr
    ⟨(id, conn), clients.mem_entries_iff.mpr registered, by simpa using other⟩

/-- Devices stored under their ids are listed once. -/
theorem distinct_snapshot {daemon : Daemon}
    (filed : ∀ key device, daemon.store.devices.get? key = some device → device.id = key) :
    Distinct (setRoster daemon.snapshot) := by
  have ids : (setRoster daemon.snapshot).map (·.id) = daemon.store.devices.entries.map (·.1) := by
    simp only [setRoster, Daemon.snapshot, Store.listDevices, OrderedMap.values, List.map_map]
    refine List.map_congr_left fun entry listed => ?_
    exact filed entry.1 entry.2 (daemon.store.devices.mem_entries_iff.mp listed)
  rw [Distinct, ids, List.Nodup, List.pairwise_map]
  exact daemon.store.devices.sorted.imp fun less => less.ne

/-! ## What one step keeps -/

namespace Relay

/-- During a registration the other clients may still believe the device offline. -/
def Awaits (relay : Relay) (conn : ConnID) (entry : RosterDevice) : Prop :=
  ∃ other, relay.task = .registering other ∧ other ≠ conn ∧
    relay.clients.get? entry.id = some other

/-- A roster in step with the registry. -/
structure Tuned (relay : Relay) (conn : ConnID) (roster : List RosterDevice) : Prop where
  distinct : Distinct roster
  agreed : ∀ entry ∈ roster,
    entry.online = relay.clients.contains entry.id ∨ relay.Awaits conn entry

variable {relay after : Relay} {conn : ConnID} {roster : List RosterDevice}

/-- A presence frame brings a roster in step with a registry that differs for the
frame's device only. -/
theorem Tuned.told (tuned : relay.Tuned conn roster) (payload : Presence)
    (states : payload.online = after.clients.contains payload.device.id)
    (others : ∀ id, id ≠ payload.device.id →
      after.clients.contains id = relay.clients.contains id)
    (unawaited : ∀ entry, relay.Awaits conn entry → entry.id = payload.device.id) :
    after.Tuned conn (rosterAfter roster [.presence payload]) where
  distinct := tuned.distinct.applyPresence
  agreed entry listed := by
    rcases mem_applyPresence tuned.distinct listed with ⟨same, online⟩ | ⟨other, old⟩
    · exact .inl (by rw [online, same, states])
    · rcases tuned.agreed entry old with agrees | awaits
      · exact .inl (by rw [agrees, others entry.id other])
      · exact absurd (unawaited entry awaits) other

theorem Tuned.of_snapshot
    (filed : ∀ key device, after.daemon.store.devices.get? key = some device → device.id = key) :
    after.Tuned conn (setRoster after.daemon.snapshot) where
  distinct := distinct_snapshot filed
  agreed entry listed := by
    simp only [setRoster, Daemon.snapshot, List.map_map, List.mem_map] at listed
    obtain ⟨device, -, rfl⟩ := listed
    exact .inl rfl

/-- An entering client is awaited by the others. -/
theorem Tuned.entered {entering : ConnID} {id : DeviceID} (tuned : relay.Tuned conn roster)
    (idle : relay.task = .idle) (clients : after.clients = relay.clients.put id entering)
    (task : after.task = .registering entering) (other : conn ≠ entering) :
    after.Tuned conn roster where
  distinct := tuned.distinct
  agreed entry listed := by
    by_cases own : entry.id = id
    · exact .inr ⟨entering, task, other.symm, by simp [clients, own]⟩
    · rcases tuned.agreed entry listed with agrees | ⟨_, busy, -⟩
      · left
        rw [agrees, clients]
        simp [OrderedMap.contains, own]
      · cases idle.symm.trans busy

theorem not_awaits_of_task {task : Task} (busy : relay.task = task)
    (other : ∀ conn, task ≠ .registering conn) (entry : RosterDevice) :
    ¬relay.Awaits conn entry := by
  rintro ⟨registering, task, -⟩
  exact other registering (busy.symm.trans task)

theorem contains_erase (clients : OrderedMap DeviceID ConnID) {id other : DeviceID}
    (different : other ≠ id) : (clients.erase id).contains other = clients.contains other := by
  simp [OrderedMap.contains, different]

end Relay

namespace Watch

/-- What agreement rests on.  Devices are stored under their ids, none of which is
empty: the empty id in a presence broadcast excludes nobody. -/
structure Attuned (watch : Watch) : Prop where
  keyed : watch.relay.Keyed
  current : watch.relay.Current
  identified : watch.relay.Identified
  filed : ∀ key device, watch.relay.daemon.store.devices.get? key = some device → device.id = key
  owned : ∀ conn connection, watch.relay.connection? conn = some connection →
    connection.owner ≠ ""
  room : ∀ conn connection, watch.relay.connection? conn = some connection →
    watch.filled conn = false → connection.hasRoom = true
  tuned : ∀ conn connection shown, watch.relay.connection? conn = some connection →
    watch.relay.clients.get? connection.owner = some conn → watch.filled conn = false →
    watch.relay.Tuned conn (rosterAfter shown (watch.sent conn))

theorem Attuned.start {relay : Relay} (identified : relay.Identified)
    (filed : ∀ key device, relay.daemon.store.devices.get? key = some device → device.id = key) :
    (Watch.start relay.restart).Attuned where
  keyed := .boot _
  current := .boot _
  identified := ⟨identified.stored, by simp [Watch.start, Relay.restart, Relay.boot]⟩
  filed := filed
  owned := by simp [Watch.start, Relay.restart, Relay.boot, Daemon.boot, Relay.connection?]
  room := by simp [Watch.start, Relay.restart, Relay.boot, Daemon.boot, Relay.connection?]
  tuned := by simp [Watch.start, Relay.restart, Relay.boot, Daemon.boot, Relay.connection?]

section Steps

variable {env : Env} {watch : Watch} {after : Relay} {action : Action} {conn : ConnID}
variable {new : Connection} {frames : ConnID → Option Frame}

theorem not_filled (open_ : (watch.observe after).filled conn = false) :
    watch.filled conn = false ∧ (after.channel conn).length < sendBuffer := by
  simpa [observe] using open_

theorem room_of_open (found : after.connection? conn = some new)
    (open_ : (watch.observe after).filled conn = false) : new.hasRoom = true := by
  have fits := (not_filled open_).2
  rw [Relay.channel_of_connection found] at fits
  simpa [Connection.hasRoom] using fits

/-- A connection that was just opened is not registered. -/
theorem Attuned.not_opened (attuned : watch.Attuned)
    (stepped : watch.relay.step env action = some after)
    (opens : Relay.Opens env watch.relay action conn new)
    (registered : after.clients.get? new.owner = some conn) : False := by
  obtain ⟨absent, id, token, device, rfl, -, -⟩ := opens
  have change := (Relay.effect_of_step stepped).registry
  generalize after.clients = clients at change registered
  cases change with
  | keep =>
      have owner := attuned.keyed _ conn registered
      rw [Relay.connection?] at absent
      simp [absent] at owner

/-- What a registered client with an open channel learns from a step. -/
theorem Attuned.hears (attuned : watch.Attuned)
    (stepped : watch.relay.step env action = some after)
    (connections : Relay.ConnectionsFrom env watch.relay after action frames)
    (found : after.connection? conn = some new)
    (registered : after.clients.get? new.owner = some conn)
    (open_ : (watch.observe after).filled conn = false) :
    ∃ old, watch.relay.connection? conn = some old ∧ new.owner = old.owner ∧
      watch.filled conn = false ∧ ∀ shown, rosterAfter shown ((watch.observe after).sent conn) =
        rosterAfter (rosterAfter shown (watch.sent conn)) (frames conn).toList := by
  rcases connections conn new found with opens | ⟨old, present, evolves⟩
  · exact (attuned.not_opened stepped opens registered).elim
  · obtain ⟨unfilled, -⟩ := not_filled open_
    have told := evolves.announced
    rw [if_pos (attuned.room conn old present unfilled)] at told
    refine ⟨old, present, evolves.owner, unfilled, fun shown => ?_⟩
    simp only [observe, Relay.channel_of_connection found, Relay.channel_of_connection present]
    rw [rosterAfter_append, ← rosterAfter_filter _ (List.drop _ _), told]

theorem Attuned.filed_step (attuned : watch.Attuned)
    (stepped : watch.relay.step env action = some after) {key : DeviceID} {device : Device}
    (stored : after.daemon.store.devices.get? key = some device) : device.id = key := by
  rcases (Relay.intake_of_step stepped).devices key device stored with same | ⟨old, present, same⟩
  · exact same
  · rw [same, attuned.filed key old present]

/-- The end of a registration tells everyone but the device itself. -/
theorem Attuned.tuned_finish (attuned : watch.Attuned)
    (stepped : watch.relay.step env .registerFinish = some after) (shown : List RosterDevice)
    (found : after.connection? conn = some new)
    (registered : after.clients.get? new.owner = some conn)
    (open_ : (watch.observe after).filled conn = false) :
    after.Tuned conn (rosterAfter shown ((watch.observe after).sent conn)) := by
  obtain ⟨joining, connection, task, present, same, idle, connections⟩ :=
    Relay.registerFinish_joined attuned.keyed stepped
  obtain ⟨old, lookup, owner, unfilled, heard⟩ :=
    attuned.hears stepped connections found registered open_
  have listed : watch.relay.clients.get? old.owner = some conn := by
    rw [← same, ← owner, registered]
  have tuned := attuned.tuned conn old shown lookup listed unfilled
  obtain ⟨id, owned, entered⟩ := attuned.current joining task
  cases (Relay.owner_of_connection present).symm.trans owned
  rw [heard]
  by_cases self : conn = joining
  · subst self
    have silent : Daemon.announceTo after.clients.entries connection.owner
        ⟨connection.client.device, true⟩ conn = none := by
      rw [Daemon.announceTo, if_neg]
      simp only [List.any_eq_true, decide_eq_true_eq, not_exists, not_and]
      intro entry member other own
      have listed := after.clients.mem_entries_iff.mp member
      rw [same, own] at listed
      have key := attuned.keyed entry.1 conn listed
      exact other (Option.some.inj (key.symm.trans (Relay.owner_of_connection present)))
    rw [silent]
    refine ⟨tuned.distinct, fun entry member => ?_⟩
    rcases tuned.agreed entry member with agrees | ⟨other, busy, different, -⟩
    · exact .inl (by rw [agrees, same])
    · cases task.symm.trans busy
      exact absurd rfl different
  · have other : new.owner ≠ connection.owner := by
      rw [owner]
      intro equal
      rw [equal, entered] at listed
      exact self (Option.some.inj listed).symm
    rw [announceTo_registered registered other]
    refine tuned.told _ ?_ (fun id _ => by rw [same]) ?_
    · rw [same]
      simp [OrderedMap.contains, entered]
    · rintro entry ⟨registering, busy, -, awaited⟩
      cases task.symm.trans busy
      have key := attuned.keyed entry.id joining awaited
      exact Option.some.inj (key.symm.trans (Relay.owner_of_connection present))

/-- A device that left the registry is announced to everyone who is still in it. -/
theorem tuned_erase {gone : Connection} {frame : Option Frame}
    {roster : List RosterDevice} {key : DeviceID} (idle : watch.relay.task = .idle)
    (tuned : watch.relay.Tuned conn roster) (owned : gone.owner = key) (named : new.owner ≠ "")
    (erased : after.clients = watch.relay.clients.erase key)
    (registered : after.clients.get? new.owner = some conn)
    (told : frame = Daemon.announceTo after.clients.entries "" ⟨gone.client.device, false⟩ conn) :
    after.Tuned conn (rosterAfter roster frame.toList) := by
  rw [told, announceTo_registered registered named]
  refine tuned.told _ ?_ (fun id different => ?_) fun entry awaits =>
    (Relay.not_awaits_of_task idle nofun entry awaits).elim
  · subst owned
    rw [erased]
    simp [OrderedMap.contains, Connection.owner]
  · subst owned
    rw [erased]
    exact Relay.contains_erase _ different

theorem Attuned.tuned_step (attuned : watch.Attuned)
    (announced : watch.relay.announcing action = true)
    (stepped : watch.relay.step env action = some after) (shown : List RosterDevice)
    (owned : new.owner ≠ "") (found : after.connection? conn = some new)
    (registered : after.clients.get? new.owner = some conn)
    (open_ : (watch.observe after).filled conn = false) :
    after.Tuned conn (rosterAfter shown ((watch.observe after).sent conn)) := by
  by_cases finish : action = .registerFinish
  · subst finish
    exact attuned.tuned_finish stepped shown found registered open_
  obtain ⟨frames, announcement, connections⟩ := Relay.told_of_step attuned.keyed stepped
  obtain ⟨old, lookup, owner, unfilled, heard⟩ :=
    attuned.hears stepped connections found registered open_
  have tuned := fun listed => attuned.tuned conn old shown lookup listed unfilled
  have kept : ∀ {key : DeviceID}, after.clients = watch.relay.clients.erase key →
      watch.relay.clients.get? old.owner = some conn := by
    intro key erased
    rw [erased, owner, OrderedMap.get?_erase] at registered
    split_ifs at registered
    exact registered
  rw [heard]
  cases announcement with
  | joined => exact absurd rfl finish
  | quiet same =>
      have before := tuned (by rw [← same, ← owner, registered])
      refine ⟨before.distinct, fun entry member => ?_⟩
      rw [same]
      refine (before.agreed entry member).imp_right ?_
      rintro ⟨other, busy, different, awaited⟩
      exact ⟨other, Relay.registering_kept busy finish stepped, different, by rw [same, awaited]⟩
  | slow task notOrigin present full =>
      simp only [Relay.announcing, task, present, notOrigin, decide_false, Bool.false_or,
        Option.all_some, Option.any_eq_true] at announced
      obtain ⟨connection, occupied, room⟩ := announced
      cases room.symm.trans (full connection occupied)
  | @greeted entering now connection hello present entered roster task =>
      obtain ⟨_, _, _, idle, -⟩ := Relay.registerStart_some stepped
      beta_reduce
      by_cases self : conn = entering
      · subst self
        have greeting : rosterAfter (rosterAfter shown (watch.sent conn))
            [Frame.helloOK hello] = setRoster hello.roster := rfl
        rw [if_pos rfl, Option.toList_some, greeting, roster]
        exact .of_snapshot fun _ _ stored => attuned.filed_step stepped stored
      · rw [if_neg self]
        refine Relay.Tuned.entered (tuned ?_) idle entered task self
        rw [entered, owner, OrderedMap.get?_put] at registered
        split_ifs at registered with same
        · exact absurd (Option.some.inj registered).symm self
        · exact registered
  | departed gone listed erased =>
      obtain ⟨_, idle, -⟩ := Relay.unregister_some stepped
      exact tuned_erase idle (tuned (kept erased)) rfl owned erased registered rfl
  | @evicted id leaving connection listed gone erased =>
      obtain ⟨idle, -⟩ := Relay.evict_some stepped
      have key := attuned.keyed id leaving listed
      have owns := Option.some.inj ((Relay.owner_of_connection gone).symm.trans key)
      exact tuned_erase idle (tuned (kept erased)) owns owned erased registered rfl
  | moved task same =>
      rw [announceTo_registered registered owned]
      refine (tuned (by rw [← same, ← owner, registered])).told _ ?_ (fun id _ => by rw [same]) ?_
      · simp only [Relay.announcing, task] at announced
        rw [same, announced]
      · exact fun entry awaits => (Relay.not_awaits_of_task task nofun entry awaits).elim

theorem Attuned.owned_step (attuned : watch.Attuned)
    (stepped : watch.relay.step env action = some after)
    (found : after.connection? conn = some new) : new.owner ≠ "" := by
  obtain ⟨frames, -, connections⟩ := Relay.told_of_step attuned.keyed stepped
  rcases connections conn new found with
    ⟨-, id, token, device, -, accepted, rfl⟩ | ⟨old, present, evolves⟩
  · exact attuned.identified.stored id device (validate_eq_some accepted).1
  · rw [evolves.owner]
    exact attuned.owned conn old present

theorem Attuned.step (attuned : watch.Attuned)
    (announced : watch.relay.announcing action = true)
    (stepped : watch.relay.step env action = some after) : (watch.observe after).Attuned where
  keyed := attuned.keyed.step stepped
  current := attuned.current.step (Relay.effect_of_step stepped)
  identified := attuned.identified.step stepped
  filed _ _ stored := attuned.filed_step stepped stored
  owned _ _ found := attuned.owned_step stepped found
  room _ _ found open_ := room_of_open found open_
  tuned _ _ shown found registered open_ :=
    attuned.tuned_step announced stepped shown (attuned.owned_step stepped found) found registered
      open_

/-- Restarts are always allowed. -/
def Announcing (watch : Watch) (action : Option Action) : Prop :=
  action.all watch.relay.announcing = true

theorem Attuned.life (attuned : watch.Attuned) {later : Watch} {action : Option Action}
    (announced : watch.Announcing action) (stepped : watch.life env action = some later) :
    later.Attuned := by
  cases action with
  | none =>
      cases stepped
      exact .start attuned.identified attuned.filed
  | some action =>
      obtain ⟨after, moved, rfl⟩ := Option.map_eq_some_iff.mp stepped
      exact attuned.step announced moved

end Steps

/-! ## Over whole runs -/

/-- In every life whose steps all announce what they do to the registry, the clients
whose channel never filled agree with it whenever the hub is not in the middle of a
registration. -/
theorem presence_agrees {env : Env} {watch : Watch}
    (run : Run (Watch.life env) Watch.Announcing (Watch.start (Relay.boot .empty)) watch)
    (settled : watch.relay.settled = true) : watch.PresenceAgrees := by
  have attuned : watch.Attuned := run.invariant
    (.start Relay.Identified.boot (by simp [Relay.boot, Daemon.boot, Store.empty]))
    fun attuned announced stepped => attuned.life announced stepped
  intro conn connection shown found registered unfilled entry listed
  have tuned := attuned.tuned conn connection shown found registered unfilled
  rcases tuned.agreed entry listed with agrees | ⟨other, busy, -⟩
  · exact agrees
  · simp [Relay.settled, busy] at settled

/-- The first device's write pump keeps up, the second's stalls: the clip that no
longer fits takes the second device out of the registry, and the first, which was
never told, goes on showing it online. -/
theorem slow_client_stays_online :
    ¬∀ (env : Env) (watch : Watch),
      Reachable (Watch.life env) (Watch.start (Relay.boot .empty)) watch →
      watch.relay.settled = true → watch.PresenceAgrees := by
  intro claim
  let acknowledged : List Action := [.takeFrame 0, .wroteFrame 0]
  let clip := Action.sendClip 0 (.text "c" "hello") 2 ++ acknowledged
  obtain ⟨watch, reached, checked⟩ := Reachable.exists_of_exec (Watch.life demoEnv)
    (Watch.start (Relay.boot .empty))
    ((Action.bothUp ++ acknowledged ++ (List.replicate 64 clip).flatten).map some)
    (fun watch => watch.relay.settled && !watch.filled 0 &&
      ((rosterAfter [] (watch.sent 0)).any fun entry =>
        entry.online && !watch.relay.clients.contains entry.id) &&
      (watch.relay.connection? 0).any fun connection =>
        decide (watch.relay.clients.get? connection.owner = some 0))
    (by decide +kernel)
  simp only [Bool.and_eq_true, Option.any_eq_true, decide_eq_true_eq, Bool.not_eq_true',
    List.any_eq_true] at checked
  obtain ⟨⟨⟨settled, unfilled⟩, entry, listed, online, gone⟩, connection, found, registered⟩ :=
    checked
  have agrees := claim demoEnv watch reached settled 0 connection [] found registered unfilled
    entry listed
  rw [online, gone] at agrees
  cases agrees

/-- Two devices connect, the second moves to another pool and leaves: the first knows
both and believes the second offline. -/
theorem presence_after_departure :
    ∃ watch, Run (Watch.life demoEnv) Watch.Announcing (Watch.start (Relay.boot .empty)) watch ∧
      watch.relay.settled = true ∧ watch.filled 0 = false ∧
      (rosterAfter [] (watch.sent 0)).map (fun entry => (entry.id, entry.online)) =
        [("dev_a", true), ("dev_b", false)] ∧ watch.PresenceAgrees := by
  obtain ⟨watch, reached, checked⟩ := Run.exists_of_execWhen (Watch.life demoEnv)
    (fun watch action => action.all watch.relay.announcing) (Watch.start (Relay.boot .empty))
    (Action.bothUp.map some ++
      [some (.takeFrame 0), some (.setPool 1 "work"), some .storePool, some (.unregister 1 3)])
    (fun watch => watch.relay.settled && !watch.filled 0 &&
      decide ((rosterAfter [] (watch.sent 0)).map (fun entry => (entry.id, entry.online)) =
        [("dev_a", true), ("dev_b", false)]))
    (by decide +kernel)
  simp only [Bool.and_eq_true, decide_eq_true_eq, Bool.not_eq_true'] at checked
  obtain ⟨⟨settled, unfilled⟩, roster⟩ := checked
  exact ⟨watch, reached, settled, unfilled, roster, presence_agrees reached settled⟩

end Watch

end CopySync.Server
