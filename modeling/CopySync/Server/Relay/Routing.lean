import CopySync.Server.Relay.Deletion
import CopySync.Server.Relay.Registry
import CopySync.Server.Relay.Settings

/-!
# How a route serves its targets

Seen from one device, every place it has among the targets of a route is one frame in the
send channel of its connection or one item in its queue; from the first frame that does not
fit on it is served by the queue.  The targets of a broadcast and of a pool are distinct,
an explicit list is resolved name by name as it was sent.
-/

namespace CopySync.Server

open Foundation

/-- The targets of a clip other than its origin. -/
def recipientsOf (event : ClipEvent) (targets : List Device) : List DeviceID :=
  (targets.map (·.id)).filter (· ≠ event.originDevice)

namespace Daemon

/-- The send channel of a connection. -/
def channel (daemon : Daemon) (conn : ConnID) : List Frame :=
  (daemon.connections[conn]?).elim [] fun connection => connection.client.send

/-- Every registered client is a connection of its device. -/
def Keyed (daemon : Daemon) : Prop :=
  ∀ id conn, daemon.hub.clients.get? id = some conn →
    (daemon.connections.map Connection.owner)[conn]? = some id

/-- A device is served by frames and queue items between two states; `earlier` and `later`
list the devices queued for. -/
structure Serves (before after : Daemon) (event : ClipEvent) (now : Time)
    (earlier later : List DeviceID) (id : DeviceID) (relays queued : Nat) : Prop where
  channel : ∀ conn, before.hub.clients.get? id = some conn →
    after.channel conn = before.channel conn ++ List.replicate relays (.clip event.wire)
  offline : before.hub.clients.get? id = none → relays = 0
  listed : later.count id = earlier.count id + queued
  kept : queued = 0 → after.store.queueOf id = before.store.queueOf id
  appended : queued = 1 → ∃ trimmed ≤ (before.store.queueOf id).length,
    after.store.queueOf id =
      (before.store.queueOf id ++ [(⟨event.wire, now⟩ : QueueItem)]).drop trimmed

/-- What any part of the delivery loop leaves alone: clients only leave, and the channels of
connections that no client is registered for stay. -/
structure Shrinks (before after : Daemon) : Prop where
  clients : ∀ id, after.hub.clients.get? id = before.hub.clients.get? id ∨
    after.hub.clients.get? id = none
  owners : after.connections.map Connection.owner = before.connections.map Connection.owner
  channels : ∀ conn, (∀ id, before.hub.clients.get? id ≠ some conn) →
    after.channel conn = before.channel conn

section Compose

variable {before middle after : Daemon} {event : ClipEvent} {now : Time}
variable {earlier between later : List DeviceID} {id : DeviceID} {conn : ConnID}

theorem Keyed.unique (keyed : before.Keyed) {left right : DeviceID}
    (first : before.hub.clients.get? left = some conn)
    (second : before.hub.clients.get? right = some conn) : left = right :=
  Option.some.inj ((keyed left conn first).symm.trans (keyed right conn second))

theorem Shrinks.registered (shrinks : before.Shrinks after)
    (registered : after.hub.clients.get? id = some conn) :
    before.hub.clients.get? id = some conn := by
  rcases shrinks.clients id with same | gone
  · exact same ▸ registered
  · cases gone.symm.trans registered

theorem Shrinks.keyed (shrinks : before.Shrinks after) (keyed : before.Keyed) :
    after.Keyed := by
  intro id conn registered
  rw [shrinks.owners]
  exact keyed id conn (shrinks.registered registered)

theorem Shrinks.refl : before.Shrinks before :=
  ⟨fun _ => .inl rfl, rfl, fun _ _ => rfl⟩

theorem Shrinks.trans (first : before.Shrinks middle) (second : middle.Shrinks after) :
    before.Shrinks after where
  clients id := by
    rcases second.clients id with same | gone
    · rw [same]
      exact first.clients id
    · exact .inr gone
  owners := second.owners.trans first.owners
  channels conn unregistered := by
    have gone : ∀ id, middle.hub.clients.get? id ≠ some conn := fun id registered =>
      unregistered id (first.registered registered)
    rw [second.channels conn gone, first.channels conn unregistered]

theorem Serves.refl : before.Serves before event now earlier earlier id 0 0 where
  channel conn registered := (List.append_nil _).symm
  offline _ := rfl
  listed := rfl
  kept _ := rfl
  appended one := by cases one

/-- Serving in two parts adds up. -/
theorem Serves.trans {relays queued moreRelays moreQueued : Nat} (keyed : before.Keyed)
    (shrinks : before.Shrinks middle) (rest : middle.Shrinks after)
    (first : before.Serves middle event now earlier between id relays queued)
    (second : middle.Serves after event now between later id moreRelays moreQueued) :
    before.Serves after event now earlier later id (relays + moreRelays)
      (queued + moreQueued) where
  channel conn registered := by
    rcases shrinks.clients id with same | gone
    · rw [second.channel conn (same.trans registered), first.channel conn registered,
        List.append_assoc, List.replicate_append_replicate]
    · have unregistered : ∀ other, middle.hub.clients.get? other ≠ some conn := by
        intro other found
        cases keyed.unique registered (shrinks.registered found)
        cases gone.symm.trans found
      rw [rest.channels conn unregistered, first.channel conn registered, second.offline gone,
        Nat.add_zero]
  offline unregistered := by
    have gone : middle.hub.clients.get? id = none := by
      rcases shrinks.clients id with same | gone
      · exact same.trans unregistered
      · exact gone
    rw [first.offline unregistered, second.offline gone]
  listed := by rw [second.listed, first.listed, Nat.add_assoc]
  kept none := by
    rw [second.kept (Nat.eq_zero_of_add_eq_zero_left none),
      first.kept (Nat.eq_zero_of_add_eq_zero_right none)]
  appended one := by
    rcases Nat.add_eq_one_iff.mp one with ⟨none, later⟩ | ⟨earlier, none⟩
    · rw [← first.kept none]
      exact second.appended later
    · rw [second.kept none]
      exact first.appended earlier

end Compose

/-! ## One target -/

section Steps

variable {daemon served : Daemon} {event : ClipEvent} {now : Time} {depth : Int}

theorem channel_close (conn other : ConnID) (reason : String) :
    (daemon.close conn reason).channel other = daemon.channel other := by
  rw [close]
  split
  next => rfl
  next connection found =>
    rw [channel, channel, List.getElem?_set]
    split_ifs with same inside
    · rw [← same, found]
      rfl
    · exact absurd (same ▸ (List.getElem?_eq_some_iff.mp found).1) inside
    · rfl

/-- An eviction of a slow client empties no channel. -/
theorem shrinks_evictSlow (id : DeviceID) (conn : ConnID) :
    daemon.Shrinks (daemon.evictSlow id conn) ∧
      ∀ other, (daemon.evictSlow id conn).channel other = daemon.channel other := by
  have channels : ∀ other, (daemon.evictSlow id conn).channel other = daemon.channel other :=
    fun other => daemon.channel_close conn other _
  refine ⟨⟨?_, map_evictSlow Connection.owner_blind daemon id conn, fun other _ => channels other⟩,
    channels⟩
  intro other
  have erased : (daemon.evictSlow id conn).hub.clients.get? other =
      if other = id then none else daemon.hub.clients.get? other := by
    rw [evictSlow_hub]
    exact daemon.hub.clients.get?_erase ..
  rw [erased]
  split_ifs
  · exact .inr rfl
  · exact .inl rfl

/-- A frame that is pushed goes to one connection. -/
theorem shrinks_push {id : DeviceID} {conn : ConnID} {connection : Connection} {frame : Frame}
    (registered : daemon.hub.clients.get? id = some conn)
    (found : daemon.connections[conn]? = some connection)
    (pushed : served = { daemon with
      connections := daemon.connections.set conn
        { connection with
          client := { connection.client with send := connection.client.send ++ [frame] } } }) :
    daemon.Shrinks served ∧ served.channel conn = daemon.channel conn ++ [frame] ∧
      ∀ other, other ≠ conn → served.channel other = daemon.channel other := by
  subst pushed
  have others : ∀ other, other ≠ conn → channel { daemon with
      connections := daemon.connections.set conn
        { connection with
          client := { connection.client with send := connection.client.send ++ [frame] } } } other =
      daemon.channel other := by
    intro other different
    rw [channel, channel, List.getElem?_set_ne different.symm]
  refine ⟨⟨fun _ => .inl rfl, map_set_of_eq found rfl, ?_⟩, ?_, others⟩
  · intro other unregistered
    refine others other ?_
    rintro rfl
    exact unregistered id registered
  · have inside := (List.getElem?_eq_some_iff.mp found).1
    rw [channel, channel, List.getElem?_set_self inside, found]
    rfl

/-- A target is served at its place among the targets, and no other device is. -/
theorem deliverTo_serves {delivery : Delivery} {target : Device} (keyed : daemon.Keyed)
    (deep : 1 ≤ depth) (progress : RouteProgress)
    (delivered : daemon.deliverTo event depth now target = (served, delivery)) :
    daemon.Shrinks served ∧ ∀ id, ∃ relays queued,
      relays + queued = (recipientsOf event [target]).count id ∧
      daemon.Serves served event now progress.queuedFor
        (progress.record target.id delivery).queuedFor id relays queued := by
  rcases deliverTo_cases _ _ delivered with ⟨echo, rfl, rfl⟩ |
    ⟨other, conn, connection, registered, found, room, rfl, pushed⟩ |
    ⟨other, base, evicted, rfl, rfl⟩
  · refine ⟨.refl, ?_⟩
    intro id
    exact ⟨0, 0, by simp [recipientsOf, echo], .refl⟩
  · obtain ⟨shrinks, mine, others⟩ := shrinks_push registered found pushed
    refine ⟨shrinks, ?_⟩
    intro id
    have queues : served.store.queueOf id = daemon.store.queueOf id := by rw [pushed]
    by_cases same : target.id = id
    · subst same
      refine ⟨1, 0, by simp [recipientsOf, other], ?_, ?_, rfl, fun _ => queues, ?_⟩
      · intro conn' registered'
        cases registered.symm.trans registered'
        exact mine
      · intro offline
        cases offline.symm.trans registered
      · intro one
        cases one
    · refine ⟨0, 0, by simp [recipientsOf, other, same], ?_, fun _ => rfl, rfl, fun _ => queues,
        ?_⟩
      · intro conn' registered'
        rw [List.replicate_zero, List.append_nil]
        refine others conn' ?_
        rintro rfl
        exact same (keyed.unique registered registered')
      · intro one
        cases one
  · obtain ⟨⟨clients, owners, unregistered⟩, channels, store⟩ : daemon.Shrinks base ∧
        (∀ conn, base.channel conn = daemon.channel conn) ∧ base.store = daemon.store := by
      rcases evicted with ⟨-, rfl⟩ | ⟨conn, -, -, rfl⟩
      · exact ⟨.refl, fun _ => rfl, rfl⟩
      · obtain ⟨shrinks, channels⟩ := @shrinks_evictSlow daemon target.id conn
        exact ⟨shrinks, channels, evictSlow_store ..⟩
    refine ⟨⟨clients, owners, unregistered⟩, ?_⟩
    intro id
    by_cases same : target.id = id
    · subst same
      refine ⟨0, 1, by simp [recipientsOf, other], ?_, fun _ => rfl, ?_, ?_, ?_⟩
      · intro conn registered
        rw [List.replicate_zero, List.append_nil]
        exact channels conn
      · simp [RouteProgress.record]
      · intro none
        cases none
      · intro one
        exact ⟨_, daemon.store.enqueue_trimmed_le target.id ⟨event.wire, now⟩ depth deep,
          daemon.store.queueOf_enqueue_self target.id ⟨event.wire, now⟩ depth⟩
    · refine ⟨0, 0, by simp [recipientsOf, other, same], ?_, fun _ => rfl, ?_, ?_, ?_⟩
      · intro conn registered
        rw [List.replicate_zero, List.append_nil]
        exact channels conn
      · simp [RouteProgress.record, same]
      · intro none
        exact daemon.store.queueOf_enqueue_of_ne target.id id ⟨event.wire, now⟩ depth (Ne.symm same)
      · intro one
        cases one

theorem recipientsOf_cons (target : Device) (rest : List Device) :
    recipientsOf event (target :: rest) =
      recipientsOf event [target] ++ recipientsOf event rest := by
  simp only [recipientsOf, ← List.filter_append]
  rfl

/-- The delivery loop serves every device as often as it is among the targets. -/
theorem deliverAll_serves (deep : 1 ≤ depth) (targets : List Device) {daemon : Daemon}
    (keyed : daemon.Keyed) (progress : RouteProgress) :
    daemon.Shrinks (deliverAll event depth now daemon progress targets).1 ∧
      ∀ id, ∃ relays queued, relays + queued = (recipientsOf event targets).count id ∧
        daemon.Serves (deliverAll event depth now daemon progress targets).1 event now
          progress.queuedFor (deliverAll event depth now daemon progress targets).2.queuedFor id
          relays queued := by
  induction targets generalizing daemon progress with
  | nil => exact ⟨.refl, fun id => ⟨0, 0, rfl, .refl⟩⟩
  | cons target rest ih =>
      rw [deliverAll]
      cases delivered : daemon.deliverTo event depth now target with
      | mk served delivery =>
          dsimp only
          obtain ⟨shrinks, first⟩ := deliverTo_serves keyed deep progress delivered
          obtain ⟨further, second⟩ := ih (shrinks.keyed keyed)
            (progress.record target.id delivery)
          refine ⟨shrinks.trans further, ?_⟩
          intro id
          obtain ⟨relays, queued, count, serves⟩ := first id
          obtain ⟨moreRelays, moreQueued, moreCount, moreServes⟩ := second id
          refine ⟨relays + moreRelays, queued + moreQueued, ?_,
            serves.trans keyed shrinks further moreServes⟩
          rw [recipientsOf_cons, List.count_append, ← count, ← moreCount]
          omega

end Steps

/-! ## A route -/

/-- Every device a clip resolves to, other than its origin, gets exactly one frame or exactly
one queue item and is listed as queued once with the latter; nothing else changes. -/
structure ServedOnce (before : Daemon) (event : ClipEvent) (now : Time) (after : Daemon)
    (queuedFor : List DeviceID) : Prop where
  served : ∀ id ∈ recipientsOf event (resolveTargets before.store event),
    (∃ conn, before.hub.clients.get? id = some conn ∧
      after.channel conn = before.channel conn ++ [.clip event.wire] ∧
      after.store.queueOf id = before.store.queueOf id ∧ id ∉ queuedFor) ∨
    (∀ conn, before.hub.clients.get? id = some conn →
      after.channel conn = before.channel conn) ∧
      (∃ trimmed ≤ (before.store.queueOf id).length, after.store.queueOf id =
        (before.store.queueOf id ++ [(⟨event.wire, now⟩ : QueueItem)]).drop trimmed) ∧
      queuedFor.count id = 1
  others : ∀ id ∉ recipientsOf event (resolveTargets before.store event),
    after.store.queueOf id = before.store.queueOf id ∧ id ∉ queuedFor
  channels : ∀ conn, (∀ id ∈ recipientsOf event (resolveTargets before.store event),
    before.hub.clients.get? id ≠ some conn) → after.channel conn = before.channel conn

section Route

variable {daemon : Daemon} {event : ClipEvent} {env : Env} {now : Time}

/-- What comes before the delivery loop leaves channels, queues and clients. -/
theorem prepareRoute_serves {settings : RuntimeSettings} {after : Daemon} {later : List DeviceID}
    {id : DeviceID} {relays queued : Nat}
    (serves : (daemon.prepareRoute env event settings now).1.Serves after event now [] later id
      relays queued) : daemon.Serves after event now [] later id relays queued := by
  have channels : ∀ conn, (daemon.prepareRoute env event settings now).1.channel conn =
      daemon.channel conn := fun conn => by
    rw [channel, channel, prepareRoute_connections]
  have queues : (daemon.prepareRoute env event settings now).1.store.queueOf id =
      daemon.store.queueOf id := Store.queueOf_congr _ (prepareRoute_queues ..)
  have clients : (daemon.prepareRoute env event settings now).1.hub.clients =
      daemon.hub.clients := Relay.claimBlob_clients ..
  obtain ⟨channel, offline, listed, kept, appended⟩ := serves
  simp only [channels, queues, clients] at channel offline kept appended
  exact ⟨channel, offline, listed, kept, appended⟩

theorem handleRoute_serves (keyed : daemon.Keyed)
    (deep : 1 ≤ daemon.hub.settings.queueDepthPerDevice)
    (accepted : refuses daemon.hub.settings event = false) :
    (∀ conn, (∀ id, daemon.hub.clients.get? id ≠ some conn) →
      (daemon.handleRoute env event now).1.channel conn = daemon.channel conn) ∧
    ∀ id, ∃ relays queued,
      relays + queued = (recipientsOf event (resolveTargets daemon.store event)).count id ∧
      daemon.Serves (daemon.handleRoute env event now).1 event now []
        (daemon.handleRoute env event now).2.queuedFor id relays queued := by
  have clients : (daemon.prepareRoute env event daemon.hub.settings now).1.hub.clients =
      daemon.hub.clients := Relay.claimBlob_clients ..
  have connections := daemon.prepareRoute_connections env now event daemon.hub.settings
  have targets : (daemon.prepareRoute env event daemon.hub.settings now).2 =
      resolveTargets daemon.store event := rfl
  have prepared : (daemon.prepareRoute env event daemon.hub.settings now).1.Keyed := by
    intro id conn registered
    rw [connections]
    exact keyed id conn (clients ▸ registered)
  obtain ⟨shrinks, serves⟩ := @deliverAll_serves event now _ deep
    (resolveTargets daemon.store event) _ prepared ⟨[], false⟩
  rw [handleRoute, accepted]
  constructor
  · intro conn unregistered
    have same := shrinks.channels conn fun id => by
      rw [clients]
      exact unregistered id
    refine same.trans ?_
    rw [channel, channel, connections]
  · intro id
    obtain ⟨relays, queued, count, served⟩ := serves id
    exact ⟨relays, queued, count, prepareRoute_serves served⟩

/-- A route serves every recipient once exactly when no recipient is resolved twice. -/
theorem servedOnce_iff_nodup (keyed : daemon.Keyed)
    (deep : 1 ≤ daemon.hub.settings.queueDepthPerDevice)
    (accepted : refuses daemon.hub.settings event = false) :
    daemon.ServedOnce event now (daemon.handleRoute env event now).1
        (daemon.handleRoute env event now).2.queuedFor ↔
      (recipientsOf event (resolveTargets daemon.store event)).Nodup := by
  obtain ⟨unregistered, serves⟩ := @handleRoute_serves daemon event env now keyed deep accepted
  generalize (daemon.handleRoute env event now).1 = after at unregistered serves ⊢
  generalize (daemon.handleRoute env event now).2.queuedFor = queuedFor at serves ⊢
  constructor
  · intro once
    rw [List.nodup_iff_count_le_one]
    intro id
    obtain ⟨relays, queued, count, channel, offline, listed, kept, appended⟩ := serves id
    rw [List.count_nil, Nat.zero_add] at listed
    by_cases among : id ∈ recipientsOf event (resolveTargets daemon.store event)
    · rcases once.served id among with
        ⟨conn, registered, pushed, queue, absent⟩ | ⟨silent, -, single⟩
      · have length := congrArg List.length (pushed.symm.trans (channel conn registered))
        rw [List.length_append, List.length_append, List.length_replicate,
          List.length_singleton] at length
        rw [List.count_eq_zero.mpr absent] at listed
        omega
      · have none : relays = 0 := by
          cases registered : daemon.hub.clients.get? id with
          | none => exact offline registered
          | some conn =>
              have length := congrArg List.length
                ((silent conn registered).symm.trans (channel conn registered))
              rw [List.length_append, List.length_replicate] at length
              omega
        omega
    · rw [List.count_eq_zero.mpr among]
      exact Nat.zero_le 1
  · intro nodup
    have idle : ∀ id ∉ recipientsOf event (resolveTargets daemon.store event),
        daemon.Serves after event now [] queuedFor id 0 0 := by
      intro id absent
      obtain ⟨relays, queued, count, served⟩ := serves id
      rw [List.count_eq_zero.mpr absent, Nat.add_eq_zero_iff] at count
      obtain ⟨rfl, rfl⟩ := count
      exact served
    constructor
    · intro id among
      obtain ⟨relays, queued, count, served⟩ := serves id
      rw [List.count_eq_one_of_mem nodup among] at count
      have listed := served.listed
      rw [List.count_nil, Nat.zero_add] at listed
      rcases Nat.add_eq_one_iff.mp count with ⟨rfl, rfl⟩ | ⟨rfl, rfl⟩
      · refine .inr ⟨?_, served.appended rfl, listed⟩
        intro conn registered
        rw [served.channel conn registered, List.replicate_zero, List.append_nil]
      · cases registered : daemon.hub.clients.get? id with
        | none => cases served.offline registered
        | some conn =>
            exact .inl ⟨conn, rfl, served.channel conn registered, served.kept rfl,
              List.count_eq_zero.mp listed⟩
    · intro id absent
      have served := idle id absent
      exact ⟨served.kept rfl, List.count_eq_zero.mp served.listed⟩
    · intro conn apart
      by_cases registered : ∃ id, daemon.hub.clients.get? id = some conn
      · obtain ⟨id, registered⟩ := registered
        have served := idle id fun among => apart id among registered
        rw [served.channel conn registered, List.replicate_zero, List.append_nil]
      · exact unregistered conn fun id found => registered ⟨id, found⟩

end Route

end Daemon

/-! ## Every hub state -/

namespace Relay

/-- The registry is keyed, devices are filed under their ids, and the settings the hub has
or will get leave room in a queue. -/
structure Routable (relay : Relay) : Prop where
  keyed : relay.daemon.Keyed
  filed : ∀ key device, relay.daemon.store.devices.get? key = some device → device.id = key
  deep : 1 ≤ relay.daemon.hub.settings.queueDepthPerDevice
  refreshing : ∀ settings ∈ relay.refreshing, 1 ≤ settings.queueDepthPerDevice

section Invariant

variable {env : Env} {relay after : Relay} {action : Action}

theorem getSettings_deep (store : Store) : 1 ≤ store.getSettings.queueDepthPerDevice :=
  le_max_right ..

theorem Routable.boot (store : Store)
    (filed : ∀ key device, store.devices.get? key = some device → device.id = key) :
    (Relay.boot store).Routable where
  keyed := Relay.Keyed.boot store
  filed := filed
  deep := getSettings_deep store
  refreshing := by simp [Relay.boot]

theorem Routable.step (inv : relay.Routable) (stepped : relay.step env action = some after) :
    after.Routable where
  keyed := Relay.Keyed.step inv.keyed stepped
  filed := by
    intro key device found
    rcases (intake_of_step stepped).devices key device found with named | ⟨old, present, same⟩
    · exact named
    · exact same.trans (inv.filed key old present)
  deep := by
    rcases (effect_of_step stepped).settings with same | ⟨index, rfl, found⟩
    · rw [same]
      exact inv.deep
    · exact inv.refreshing _ (List.mem_of_getElem? found)
  refreshing := by
    cases settings : action.onSettings with
    | false =>
        obtain ⟨-, same⟩ := Prod.mk.inj (saved_of_step settings stepped)
        rw [same]
        exact inv.refreshing
    | true =>
        cases action with
        | putSettings settings =>
            cases stepped
            exact inv.refreshing
        | loadSettings =>
            cases stepped
            intro settings listed
            rcases List.mem_append.mp listed with old | new
            · exact inv.refreshing settings old
            · rw [List.mem_singleton.mp new]
              exact getSettings_deep _
        | refreshSettings index =>
            obtain ⟨settings, -, rfl⟩ := refreshSettings_some stepped
            intro other listed
            exact inv.refreshing other (List.mem_of_mem_eraseIdx listed)
        | _ => cases settings

theorem Routable.life (inv : relay.Routable) {action : Option Action}
    (stepped : relay.life env action = some after) : after.Routable := by
  cases action with
  | none =>
      cases stepped
      obtain ⟨keyed, filed, deep, refreshing⟩ := Routable.boot relay.daemon.store inv.filed
      exact ⟨keyed, filed, deep, refreshing⟩
  | some action => exact inv.step stepped

end Invariant

end Relay

/-! ## Targets named twice -/

section Targets

variable {store : Store} {event : ClipEvent}

/-- The ids of the device list are its keys. -/
theorem listDevices_nodup
    (filed : ∀ key device, store.devices.get? key = some device → device.id = key) :
    (store.listDevices.map (·.id)).Nodup :=
  store.devices.nodup_map_values filed

/-- Resolving keeps the names of paired devices. -/
theorem filterMap_getDevice_ids
    (filed : ∀ key device, store.devices.get? key = some device → device.id = key)
    (ids : List DeviceID) :
    (ids.filterMap store.getDevice).map (·.id) =
      ids.filter fun id => (store.getDevice id).isSome := by
  induction ids with
  | nil => rfl
  | cons id rest ih =>
      cases found : store.getDevice id with
      | none => simp [found, ih]
      | some device =>
          have named : device.id = id := filed id device found
          simp [found, ih, named]

/-- The names in an explicit list that are served: paired devices other than the origin. -/
def namedRecipients (store : Store) (event : ClipEvent) : List DeviceID :=
  ((event.targets.devices.getD []).filter fun id => (store.getDevice id).isSome).filter
    (· ≠ event.originDevice)

theorem recipientsOf_nodup_iff
    (filed : ∀ key device, store.devices.get? key = some device → device.id = key) :
    (recipientsOf event (resolveTargets store event)).Nodup ↔
      event.targets.broadcast = true ∨ event.targets.all = true ∨
        (namedRecipients store event).Nodup := by
  have listed := listDevices_nodup filed
  rw [recipientsOf, resolveTargets]
  split_ifs with broadcast all
  · exact iff_of_true (listed.filter _) (.inl broadcast)
  · refine iff_of_true (List.Nodup.filter _ ?_) (.inr (.inl all))
    exact listed.sublist (List.filter_sublist.map _)
  · rw [filterMap_getDevice_ids filed]
    simp [broadcast, all, namedRecipients]

end Targets

namespace Relay

/-- A route of a hub that has run for any time serves every recipient once exactly when the
clip is a broadcast or a pool clip, or its list names no paired device other than the origin
twice. -/
theorem handleRoute_once_iff {env : Env} {relay : Relay} {event : ClipEvent} (now : Time)
    (reached : Reachable (Relay.life env) (Relay.boot .empty) relay)
    (accepted : Daemon.refuses relay.daemon.hub.settings event = false) :
    relay.daemon.ServedOnce event now (relay.daemon.handleRoute env event now).1
        (relay.daemon.handleRoute env event now).2.queuedFor ↔
      event.targets.broadcast = true ∨ event.targets.all = true ∨
        (namedRecipients relay.daemon.store event).Nodup := by
  have routable : relay.Routable := by
    refine reached.invariant (Routable.boot .empty ?_) fun inv _ stepped => inv.life stepped
    simp [Store.empty]
  rw [Daemon.servedOnce_iff_nodup routable.keyed routable.deep accepted]
  exact recipientsOf_nodup_iff routable.filed

/-- A list that names an unknown device, the origin and one other device. -/
def mixedList : ClipEvent :=
  { ClipEvent.sharing "c1" "" ["dev_x", "dev_a", "dev_b"] with originDevice := "dev_a" }

/-- The other device, which is offline, is queued for once. -/
theorem mixed_list_once :
    ∃ relay, Reachable (Relay.life demoEnv) (Relay.boot .empty) relay ∧
      relay.daemon.ServedOnce mixedList 3 (relay.daemon.handleRoute demoEnv mixedList 3).1
        (relay.daemon.handleRoute demoEnv mixedList 3).2.queuedFor := by
  obtain ⟨relay, reached, checked⟩ := Reachable.exists_of_exec
    (Relay.life demoEnv) (Relay.boot .empty)
    ((Action.pair "a" "laptop" ++ Action.pair "b" "phone" ++ Action.bringUp "a" 0).map some)
    (fun relay => !Daemon.refuses relay.daemon.hub.settings mixedList &&
      decide (namedRecipients relay.daemon.store mixedList).Nodup)
    (by decide +kernel)
  rw [Bool.and_eq_true, Bool.not_eq_true', decide_eq_true_eq] at checked
  obtain ⟨accepted, nodup⟩ := checked
  exact ⟨relay, reached, (handleRoute_once_iff 3 reached accepted).mpr (.inr (.inr nodup))⟩

/-- A list that names one device twice. -/
def doubledList : ClipEvent :=
  { ClipEvent.sharing "c1" "" ["dev_b", "dev_b"] with originDevice := "dev_a" }

/-- The device, which is offline, is queued for twice and listed twice. -/
theorem doubled_list_twice :
    ∃ relay, Reachable (Relay.life demoEnv) (Relay.boot .empty) relay ∧
      Daemon.refuses relay.daemon.hub.settings doubledList = false ∧
      (relay.daemon.handleRoute demoEnv doubledList 3).2.queuedFor = ["dev_b", "dev_b"] ∧
      ((relay.daemon.handleRoute demoEnv doubledList 3).1.store.queueOf "dev_b").length = 2 ∧
      ¬relay.daemon.ServedOnce doubledList 3 (relay.daemon.handleRoute demoEnv doubledList 3).1
        (relay.daemon.handleRoute demoEnv doubledList 3).2.queuedFor := by
  obtain ⟨relay, reached, checked⟩ := Reachable.exists_of_exec
    (Relay.life demoEnv) (Relay.boot .empty)
    ((Action.pair "a" "laptop" ++ Action.pair "b" "phone" ++ Action.bringUp "a" 0).map some)
    (fun relay => !Daemon.refuses relay.daemon.hub.settings doubledList &&
      decide ((relay.daemon.handleRoute demoEnv doubledList 3).2.queuedFor = ["dev_b", "dev_b"] ∧
        ((relay.daemon.handleRoute demoEnv doubledList 3).1.store.queueOf "dev_b").length = 2 ∧
        "dev_b" ∈ recipientsOf doubledList (resolveTargets relay.daemon.store doubledList)))
    (by decide +kernel)
  rw [Bool.and_eq_true, Bool.not_eq_true', decide_eq_true_eq] at checked
  obtain ⟨accepted, queued, length, recipient⟩ := checked
  refine ⟨relay, reached, accepted, queued, length, ?_⟩
  intro once
  rw [queued] at once
  rcases once.served "dev_b" recipient with ⟨-, -, -, -, absent⟩ | ⟨-, -, single⟩
  · exact absent (List.mem_cons_self ..)
  · cases single

end Relay

end CopySync.Server
