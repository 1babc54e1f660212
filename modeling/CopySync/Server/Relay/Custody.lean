import CopySync.Foundation.Custody
import CopySync.Server.Relay.Connections

/-!
# Where a queued item is

An item of a device's offline queue leaves the database when a `Register` call drains
it, lies in the hands of that call, and goes from there into a send channel or back
into the database.  The ledger numbers the items of one device as they are appended to
its queue and follows them by their numbers through all interleavings of such calls
with routing, purges and deletion.  Its lists are the queue and the hands of the relay
itself, item by item, and it accounts for every clip put into a channel of the device: a
clip routed to it, or one numbered item.
-/

namespace CopySync.Server

open Foundation

/-- Where an item can be: in the database, in the hands of the `Register` call of a
connection, put into the send channel of one, or discarded by the depth trim, the
queue TTL or the deletion of the device. -/
inductive Place where
  | queue
  | hands (conn : ConnID)
  | channel (conn : ConnID)
  | discarded
  deriving DecidableEq, Repr

/-- A clip put into a send channel: an item of the queue with its number, or a clip that was
routed to a connected device. -/
inductive Push where
  | queued (tag : Nat) (item : QueueItem)
  | live (event : ClipEvent)
  deriving DecidableEq, Repr

namespace Push

def ofEntry (entry : Nat × QueueItem) : Push := .queued entry.1 entry.2

def event : Push → ClipEvent
  | .queued _ item => item.event
  | .live event => event

/-- The entry of the ledger a push stands for. -/
def entry? : Push → Option (Nat × QueueItem)
  | .queued tag item => some (tag, item)
  | .live _ => none

theorem filterMap_ofEntry (entries : List (Nat × QueueItem)) :
    (entries.map ofEntry).filterMap entry? = entries := by
  rw [List.filterMap_map]
  exact List.filterMap_some

end Push

/-- What a step does with the items of one device. -/
inductive Transfer where
  | none
  | live (conn : ConnID) (event : ClipEvent)
  | drain (conn : ConnID)
  | deliver (conn : ConnID)
  | restore (conn : ConnID) (trimmed : Nat)
  | store (item : QueueItem) (trimmed : Nat)
  | sweep (kept : QueueItem → Bool)

/-- The items of a device in the hands of a connection's `Register` call. -/
def Connection.heldFor (id : DeviceID) (connection : Connection) : List QueueItem :=
  if connection.owner = id then connection.session.hand ++ connection.session.tail else []

namespace Relay

def held (relay : Relay) (id : DeviceID) (conn : ConnID) : List QueueItem :=
  ((relay.connection? conn).map (Connection.heldFor id)).getD []

/-- The transfer an action of the relay is, for one device. -/
def transfer (relay : Relay) (id : DeviceID) : Action → Transfer
  | .drain conn => if relay.owns conn id then .drain conn else .none
  | .registerDeliver =>
      match relay.task with
      | .registering conn =>
          if relay.owns conn id && (relay.connection? conn).any Connection.hasRoom then
            .deliver conn
          else .none
      | _ => .none
  | .requeue conn =>
      match relay.connection? conn with
      | some connection =>
          match connection.session with
          | .requeueing depth (item :: _) =>
              if connection.owner = id then
                .restore conn (relay.daemon.store.enqueue id item depth).2
              else .none
          | _ => .none
      | none => .none
  | .routeDeliver now =>
      match relay.task with
      | .routing _ event settings (target :: _) _ =>
          if target.id = id then
            match (relay.daemon.deliverTo event settings.queueDepthPerDevice now target).2 with
            | .skipped => .none
            | .relayed conn => .live conn event.wire
            | .queued trimmed => .store ⟨event.wire, now⟩ trimmed
          else .none
      | _ => .none
  | .deleteDevice device => if device = id then .sweep fun _ => false else .none
  | .purgeQueues now =>
      let ttl := Duration.ofSeconds relay.daemon.store.getSettings.queueItemTTLSeconds
      .sweep fun item => ttl ≤ 0 || !Store.expiredItem now ttl item
  | _ => .none

end Relay

/-- The clips ever put into a channel, if its connection is one of the device. -/
def Watch.clipsTo (watch : Watch) (id : DeviceID) (conn : ConnID) : List ClipEvent :=
  if watch.relay.owns conn id then clipsOf (watch.sent conn) else []

/-! ## The ledger -/

/-- The relay, the items ever appended to the device's queue, where they are, and what was
pushed to its connections, in order. -/
structure Ledger where
  watch : Watch
  appended : List QueueItem
  custody : Custody Place QueueItem
  pushed : ConnID → List Push

namespace Ledger

/-- The queue is trimmed from the front. -/
def trim (custody : Custody Place QueueItem) (trimmed : Nat) : Custody Place QueueItem :=
  custody.move .queue .discarded ((custody .queue).drop trimmed) ((custody .queue).take trimmed)

/-- A process that finds items in the queue of the device. -/
def start (relay : Relay) (id : DeviceID) : Ledger where
  watch := .start relay
  appended := relay.daemon.store.queueOf id
  custody
    | .queue => (relay.daemon.store.queueOf id).zipIdx.map Prod.swap
    | _ => []
  pushed _ := []

def push (ledger : Ledger) (conn : ConnID) (pushes : List Push) : Ledger :=
  { ledger with
    pushed := Function.update ledger.pushed conn (ledger.pushed conn ++ pushes) }

@[simp] theorem push_custody (ledger : Ledger) (conn : ConnID) (pushes : List Push) :
    (ledger.push conn pushes).custody = ledger.custody := rfl

theorem push_pushed (ledger : Ledger) (conn : ConnID) (pushes : List Push) (query : ConnID) :
    (ledger.push conn pushes).pushed query =
      if query = conn then ledger.pushed query ++ pushes else ledger.pushed query := by
  simp only [push, Function.update_apply]
  split_ifs with same
  · rw [same]
  · rfl

def account (ledger : Ledger) : Transfer → Ledger
  | .none => ledger
  | .live conn event => ledger.push conn [.live event]
  | .drain conn =>
      { ledger with
        custody := ledger.custody.move .queue (.hands conn) [] (ledger.custody .queue) }
  | .deliver conn =>
      let hand := ledger.custody (.hands conn)
      { ledger with
        custody := ledger.custody.move (.hands conn) (.channel conn) (hand.drop 1)
          (hand.take 1) }.push conn ((hand.take 1).map Push.ofEntry)
  | .restore conn trimmed =>
      let hand := ledger.custody (.hands conn)
      { ledger with
        custody := trim
          (ledger.custody.move (.hands conn) .queue (hand.drop 1) (hand.take 1)) trimmed }
  | .store item trimmed =>
      { ledger with
        appended := ledger.appended ++ [item]
        custody := trim
          (ledger.custody.receive .queue ledger.appended.length item) trimmed }
  | .sweep kept =>
      let queue := ledger.custody .queue
      { ledger with
        custody := ledger.custody.move .queue .discarded
          (queue.filter fun entry => kept entry.2) (queue.filter fun entry => !kept entry.2) }

/-- A step of the relay with its entry in the ledger. -/
def step (env : Env) (id : DeviceID) (ledger : Ledger) (action : Action) : Option Ledger :=
  (ledger.watch.relay.step env action).map fun after =>
    { ledger.account (ledger.watch.relay.transfer id action) with
      watch := ledger.watch.observe after }

/-- The ledger's lists are those of the relay: every clip put into a channel of the device is
one push of the ledger, in order, and the numbered ones among them are the items it has in
that channel. -/
structure Faithful (ledger : Ledger) (id : DeviceID) : Prop where
  queue : ledger.custody.items .queue = ledger.watch.relay.daemon.store.queueOf id
  hands : ∀ conn, ledger.custody.items (.hands conn) = ledger.watch.relay.held id conn
  channel : ∀ conn, ledger.watch.clipsTo id conn = (ledger.pushed conn).map Push.event
  numbered : ∀ conn, (ledger.pushed conn).filterMap Push.entry? = ledger.custody (.channel conn)

/-- Every item ever appended to the queue is in one place, and listed there once; so
it is put into a send channel at most once. -/
structure Accurate (ledger : Ledger) : Prop where
  unique : ∀ tag item, ledger.appended[tag]? = some item →
    ∃! place, (tag, item) ∈ ledger.custody place
  once : ∀ place, (ledger.custody.tags place).Nodup

/-! ## Every transfer keeps every item in one place -/

theorem exact_trim {appended : List QueueItem} {custody : Custody Place QueueItem}
    (exact : custody.Exact appended) (trimmed : Nat) : (trim custody trimmed).Exact appended :=
  exact.move (by decide) (Custody.perm_drop_take _ trimmed)

theorem exact_account {ledger : Ledger} (exact : ledger.custody.Exact ledger.appended)
    (transfer : Transfer) :
    (ledger.account transfer).custody.Exact (ledger.account transfer).appended := by
  cases transfer with
  | none | live => exact exact
  | drain conn => exact exact.move nofun (.refl _)
  | deliver conn => exact exact.move nofun (Custody.perm_drop_take _ 1)
  | restore conn trimmed =>
      have different : Place.hands conn ≠ .queue := nofun
      exact exact_trim (exact.move different (Custody.perm_drop_take _ 1)) trimmed
  | store item trimmed => exact exact_trim (exact.receive .queue item) trimmed
  | sweep kept =>
      exact exact.move nofun
        (List.filter_append_perm (fun entry : Nat × QueueItem => kept entry.2) _)

theorem exact_start (relay : Relay) (id : DeviceID) :
    (start relay id).custody.Exact (start relay id).appended where
  placed tag item known := ⟨.queue, by
    simpa [start, List.mem_zipIdx_iff_getElem?] using known⟩
  known place tag item listed := by
    cases place with
    | queue => simpa [start, List.mem_zipIdx_iff_getElem?] using listed
    | hands | channel | discarded => cases listed
  once place := by
    cases place with
    | queue =>
        have numbers : (start relay id).custody.tags .queue =
            List.range (relay.daemon.store.queueOf id).length := by
          simp only [Custody.tags, start, List.map_map, List.range_eq_range']
          exact List.zipIdx_map_snd 0 _
        rw [numbers]
        exact List.nodup_range
    | hands | channel | discarded => exact List.nodup_nil
  apart place other tag inPlace inOther := by
    cases place with
    | queue =>
        cases other with
        | queue => rfl
        | hands | channel | discarded => cases inOther
    | hands | channel | discarded => cases inPlace

end Ledger

/-! ## What a step does to queue and hands -/

namespace Relay

/-- A step that moves no item of the device. -/
structure Still (relay after : Relay) (id : DeviceID) : Prop where
  queue : after.daemon.store.queueOf id = relay.daemon.store.queueOf id
  hands : ∀ conn, after.held id conn = relay.held id conn

/-- What a transfer does to the queue of the device and to the hands of its
connections. -/
def Transferred (relay after : Relay) (id : DeviceID) : Transfer → Prop
  | .none | .live .. => relay.Still after id
  | .drain conn => relay.held id conn = [] ∧ after.daemon.store.queueOf id = [] ∧
      after.held id conn = relay.daemon.store.queueOf id ∧
      ∀ other, other ≠ conn → after.held id other = relay.held id other
  | .deliver conn => ∃ item, relay.held id conn = item :: after.held id conn ∧
      after.daemon.store.queueOf id = relay.daemon.store.queueOf id ∧
      ∀ other, other ≠ conn → after.held id other = relay.held id other
  | .restore conn trimmed => ∃ item, relay.held id conn = item :: after.held id conn ∧
      after.daemon.store.queueOf id =
        (relay.daemon.store.queueOf id ++ [item]).drop trimmed ∧
      ∀ other, other ≠ conn → after.held id other = relay.held id other
  | .store item trimmed =>
      after.daemon.store.queueOf id =
        (relay.daemon.store.queueOf id ++ [item]).drop trimmed ∧
      ∀ conn, after.held id conn = relay.held id conn
  | .sweep kept =>
      after.daemon.store.queueOf id = (relay.daemon.store.queueOf id).filter kept ∧
      ∀ conn, after.held id conn = relay.held id conn

section Steps

variable {env : Env} {relay after : Relay} {id : DeviceID} {conn : ConnID} {now : Time}
variable {connection new : Connection}

theorem heldFor_blind (id : DeviceID) : Blind (Connection.heldFor id) where
  push connection frame control := by
    simp [Connection.heldFor, Connection.owner_blind.push connection frame control]
  close _ _ := rfl
  repool _ _ := rfl

theorem held_of_connection (found : relay.connection? conn = some connection) :
    relay.held id conn = connection.heldFor id := by
  simp [held, found]

theorem held_congr (same : after.daemon.connections.map (Connection.heldFor id) =
    relay.daemon.connections.map (Connection.heldFor id)) (conn : ConnID) :
    after.held id conn = relay.held id conn := by
  simp only [held, connection?, ← List.getElem?_map, same]

theorem held_set (found : relay.connection? conn = some connection)
    (set : after.daemon.connections = relay.daemon.connections.set conn new) (query : ConnID) :
    after.held id query = if query = conn then new.heldFor id else relay.held id query := by
  have inside := (List.getElem?_eq_some_iff.mp found).1
  simp only [held, connection?, set, List.getElem?_set]
  by_cases same : conn = query
  · simp [same, same ▸ inside]
  · simp [same, Ne.symm same]

theorem Still.of_connections (queue : after.daemon.store.queues = relay.daemon.store.queues)
    (hands : after.daemon.connections.map (Connection.heldFor id) =
      relay.daemon.connections.map (Connection.heldFor id)) : relay.Still after id :=
  ⟨Store.queueOf_congr id queue, held_congr hands⟩

/-- An update of one connection that keeps what it holds. -/
theorem Still.of_set (found : relay.connection? conn = some connection)
    (set : after.daemon.connections = relay.daemon.connections.set conn new)
    (queue : after.daemon.store.queues = relay.daemon.store.queues)
    (held : new.heldFor id = connection.heldFor id) : relay.Still after id := by
  refine .of_connections queue ?_
  rw [set]
  exact map_set_of_eq found held

theorem Still.trans {middle : Relay} (first : relay.Still middle id)
    (second : middle.Still after id) : relay.Still after id :=
  ⟨second.queue.trans first.queue, fun conn => (second.hands conn).trans (first.hands conn)⟩

/-- A session that holds what the one before it held. -/
theorem heldFor_session {session : Session}
    (same : session.hand ++ session.tail = connection.session.hand ++ connection.session.tail) :
    Connection.heldFor id { connection with session } = connection.heldFor id := by
  simp only [Connection.heldFor, same, Connection.owner]

theorem Still.of_session {session : Session} (found : relay.connection? conn = some connection)
    (same : session.hand ++ session.tail = connection.session.hand ++ connection.session.tail) :
    relay.Still (relay.setSession conn connection session) id :=
  .of_set found rfl rfl (heldFor_session same)

/-- Nothing a connection of another device does concerns this one. -/
theorem Still.of_other (found : relay.connection? conn = some connection)
    (other : connection.owner ≠ id) (owner : new.owner = connection.owner)
    (queue : after.daemon.store.queueOf id = relay.daemon.store.queueOf id)
    (set : after.daemon.connections = relay.daemon.connections.set conn new) :
    relay.Still after id := by
  refine ⟨queue, fun query => ?_⟩
  rw [held_set found set]
  split_ifs with same
  · subst same
    rw [held_of_connection found, Connection.heldFor, Connection.heldFor, owner, if_neg other,
      if_neg other]
  · rfl

theorem drain_transferred (stepped : relay.drain conn = some after) :
    relay.Transferred after id (relay.transfer id (.drain conn)) := by
  obtain ⟨connection, settings, found, session, rfl⟩ := drain_some stepped
  simp only [transfer, owns_iff found]
  split_ifs with mine
  · subst mine
    refine ⟨?_, ?_, ?_, fun other different => ?_⟩
    · rw [held_of_connection found]
      simp [Connection.heldFor, session, Session.hand, Session.tail]
    · simp [withStore, setSession, setConnection, Store.queueOf_drainQueue]
    · rw [held_set found rfl, if_pos rfl]
      simp [Connection.heldFor, Session.hand, Session.tail, Connection.owner]
    · rw [held_set found rfl, if_neg different]
  · refine Still.of_other found mine ?_ ?_ rfl
    · rfl
    · rw [withStore, Store.queueOf_drainQueue, if_neg (Ne.symm mine)]

theorem requeue_transferred (stepped : relay.requeue conn = some after) :
    relay.Transferred after id (relay.transfer id (.requeue conn)) := by
  obtain ⟨connection, depth, item, rest, found, session, rfl⟩ := requeue_some stepped
  simp only [transfer, found, session]
  split_ifs with mine
  · subst mine
    refine ⟨item, ?_, ?_, fun other different => ?_⟩
    · rw [held_of_connection found, held_set found rfl, if_pos rfl]
      simp [Connection.heldFor, session, Session.hand, Session.tail, Connection.owner]
    · exact Store.queueOf_enqueue_self ..
    · rw [held_set found rfl, if_neg different]
  · refine Still.of_other found mine ?_ ?_ rfl
    · rfl
    · exact Store.queueOf_enqueue_of_ne _ _ _ _ _ (Ne.symm mine)

theorem registerDeliver_transferred (stepped : relay.registerDeliver = some after) :
    relay.Transferred after id (relay.transfer id .registerDeliver) := by
  obtain ⟨conn, connection, settings, item, rest, task, found, session, outcome⟩ :=
    registerDeliver_some stepped
  simp only [transfer, task, Bool.and_eq_true, owns_iff found, found, Option.any_some]
  rcases outcome with ⟨room, rfl⟩ | ⟨full, rfl⟩
  · have fits : connection.hasRoom = true := by simpa [Connection.hasRoom] using room
    split_ifs with mine
    · obtain ⟨rfl, -⟩ := mine
      refine ⟨item, ?_, rfl, fun other different => ?_⟩
      · rw [held_of_connection found, held_set found rfl, if_pos rfl]
        simp [Connection.heldFor, session, Session.hand, Session.tail, Connection.owner]
      · rw [held_set found rfl, if_neg different]
    · have other : connection.owner ≠ id := fun same => mine ⟨same, fits⟩
      exact Still.of_other found other (by rfl) rfl rfl
  · have full : connection.hasRoom = false := by simpa [Connection.hasRoom] using full
    rw [if_neg (by simp [full])]
    exact Still.of_session found (by simp [session, Session.hand, Session.tail])

theorem routeDeliver_transferred (stepped : relay.routeDeliver now = some after) :
    relay.Transferred after id (relay.transfer id (.routeDeliver now)) := by
  obtain ⟨source, event, settings, target, rest, progress, task, served, delivery, delivered,
    rfl⟩ := routeDeliver_some stepped
  simp only [transfer, task, delivered]
  rcases Daemon.deliverTo_cases _ _ delivered with
    ⟨-, rfl, rfl⟩ | ⟨-, conn, connection, -, found, -, rfl, rfl⟩ |
      ⟨-, base, evicted, rfl, rfl⟩
  · split_ifs <;> exact ⟨rfl, fun _ => rfl⟩
  · split_ifs <;> exact Still.of_set found rfl rfl rfl
  · have hands : base.connections.map (Connection.heldFor id) =
        relay.daemon.connections.map (Connection.heldFor id) := by
      rcases evicted with ⟨-, rfl⟩ | ⟨conn, -, -, rfl⟩
      · rfl
      · exact Daemon.map_evictSlow (heldFor_blind id) _ _ _
    split_ifs with mine
    · subst mine
      exact ⟨Store.queueOf_enqueue_self .., held_congr hands⟩
    · exact ⟨Store.queueOf_enqueue_of_ne _ _ _ _ _ (Ne.symm mine), held_congr hands⟩

theorem deleteDevice_transferred (device : DeviceID) :
    relay.Transferred (relay.deleteDevice env device) id
      (relay.transfer id (.deleteDevice device)) := by
  simp only [transfer]
  split_ifs with mine
  · subst mine
    refine ⟨?_, fun _ => rfl⟩
    simp [deleteDevice, record, withStore, Store.queueOf_deleteDevice]
  · refine ⟨?_, fun _ => rfl⟩
    simp [deleteDevice, record, withStore, Store.queueOf_deleteDevice, Ne.symm mine]

theorem registerFinish_still (stepped : relay.registerFinish = some after) :
    relay.Still after id := by
  obtain ⟨conn, connection, settings, rest, full, -, found, session, ended, rfl⟩ :=
    registerFinish_some stepped
  have returned : relay.Still (relay.setSession conn connection
      (.requeueing settings.queueDepthPerDevice rest)) id := by
    refine .of_session found ?_
    rw [session]
    cases full <;> simp [Session.hand, Session.tail]
  exact returned.trans
    (.of_connections (by simp) (Daemon.map_broadcastPresence (heldFor_blind id) ..))

theorem unregister_still (stepped : relay.unregister conn now = some after) :
    relay.Still after id := by
  obtain ⟨connection, -, found, session, rfl⟩ := unregister_some stepped
  have left : relay.Still (relay.setSession conn connection .left) id :=
    .of_session found (by rw [session]; rfl)
  refine left.trans (.of_connections ?_ (Daemon.map_handleUnregister (heldFor_blind id) ..))
  rcases Daemon.handleUnregister_store (relay.setSession conn connection .left).daemon conn
    connection.client.device now with same | seen
  · rw [same]
  · rw [seen, Store.updateLastSeen_queues]

theorem claimPairing_still {code suffix name platform token : String}
    (stepped : relay.claimPairing env code suffix name platform token now = some after) :
    relay.Still after id := by
  rw [claimPairing_some stepped]
  refine .of_connections ?_ rfl
  simp only [withStore, TokenOp.apply]
  split
  next claimed =>
    obtain ⟨entry, -, -, -, -, rfl⟩ := Store.claimPairing_ok claimed
    rfl
  next => rfl

theorem connect_still {device : DeviceID} {token : String}
    (stepped : relay.connect env device token = some after) : relay.Still after id := by
  obtain ⟨accepted, -, rfl⟩ := connect_some stepped
  refine ⟨rfl, fun conn => ?_⟩
  simp only [held, connection?, List.getElem?_append]
  split_ifs with inside
  · rfl
  · rw [List.getElem?_singleton, List.getElem?_eq_none (Nat.not_lt.mp inside)]
    split_ifs
    · simp [Connection.heldFor, Session.hand, Session.tail]
    · rfl

/-- One case analysis over all actions. -/
theorem transferred_of_step {action : Action} (stepped : relay.step env action = some after) :
    relay.Transferred after id (relay.transfer id action) := by
  cases action with
  | drain conn => exact drain_transferred stepped
  | requeue conn => exact requeue_transferred stepped
  | registerDeliver => exact registerDeliver_transferred stepped
  | routeDeliver now => exact routeDeliver_transferred stepped
  | deleteDevice device =>
      cases stepped
      exact deleteDevice_transferred device
  | purgeQueues now =>
      cases stepped
      exact ⟨Store.queueOf_purge .., fun _ => rfl⟩
  | connect device token => exact connect_still stepped
  | readSettings conn =>
      obtain ⟨connection, found, session, rfl⟩ := readSettings_some stepped
      exact Still.of_session found (by rw [session]; rfl)
  | registerReturn conn =>
      obtain ⟨connection, depth, found, session, rfl⟩ := registerReturn_some stepped
      exact Still.of_session found (by rw [session]; rfl)
  | sendToken conn token =>
      obtain ⟨connection, -, -, rfl⟩ := sendToken_some stepped
      exact Still.of_connections (by simp) (Daemon.map_push (heldFor_blind id) _ _ rfl)
  | ack conn =>
      obtain ⟨connection, payload, found, session, rfl⟩ := ack_some stepped
      have replied : relay.Still (relay.setSession conn connection .serving) id :=
        .of_session found (by rw [session]; rfl)
      exact replied.trans (.of_connections (by simp) (Daemon.map_push (heldFor_blind id) _ _ rfl))
  | registerStart conn now =>
      obtain ⟨connection, settings, items, -, found, session, rfl⟩ := registerStart_some stepped
      have begun : relay.Still
          (relay.setSession conn connection (.registering settings items false)) id :=
        .of_session found (by rw [session]; rfl)
      exact begun.trans (.of_connections (by simp) (Daemon.map_enroll (heldFor_blind id) ..))
  | registerFinish => exact registerFinish_still stepped
  | unregister conn now => exact unregister_still stepped
  | receiveClip conn event now =>
      obtain ⟨connection, -, found, session, ⟨payload, rfl⟩ | ⟨-, rfl⟩⟩ :=
        receiveClip_some stepped
      · exact Still.of_session found (by rw [session]; rfl)
      · exact (Still.of_session found (by rw [session]; rfl)).trans ⟨rfl, fun _ => rfl⟩
  | routeBroadcast index =>
      obtain ⟨event, -, -, rfl | ⟨-, rfl⟩⟩ := routeBroadcast_some stepped
      · exact ⟨rfl, fun _ => rfl⟩
      · exact ⟨rfl, fun _ => rfl⟩
  | routePrepare now =>
      obtain ⟨source, event, settings, -, rfl⟩ := routePrepare_some stepped
      refine Still.of_connections (Daemon.prepareRoute_queues ..) ?_
      exact congrArg (List.map _) (Daemon.prepareRoute_connections ..)
  | routeFinish =>
      obtain ⟨source, event, settings, progress, -, rfl | ⟨conn, connection, payload, -, found,
        session, rfl⟩⟩ := routeFinish_some stepped
      · exact ⟨rfl, fun _ => rfl⟩
      · exact Still.of_set found rfl rfl (heldFor_session (by rw [session]; rfl))
  | setPool conn pool =>
      obtain ⟨-, rfl | ⟨connection, device, -, -, rfl⟩⟩ := setPool_some stepped
      · exact ⟨rfl, fun _ => rfl⟩
      · exact ⟨rfl, fun _ => rfl⟩
  | storePool =>
      obtain ⟨device, pool, -, rfl⟩ := storePool_some stepped
      exact Still.of_connections (by simp) (Daemon.map_storePool (heldFor_blind id) ..)
  | requestBlob blob =>
      rw [requestBlob_some stepped]
      exact Still.of_connections (by simp) (Daemon.map_handleBlobRequest (heldFor_blind id) ..)
  | evict device =>
      obtain ⟨-, -, rfl⟩ := evict_some stepped
      exact Still.of_connections (by simp) (Daemon.map_handleEvict (heldFor_blind id) ..)
  | takeFrame conn =>
      obtain ⟨connection, frame, rest, found, -, -, rfl⟩ := takeFrame_some stepped
      exact Still.of_set found rfl rfl rfl
  | wroteFrame conn =>
      obtain ⟨connection, frame, found, -, rfl⟩ := wroteFrame_some stepped
      exact Still.of_set found rfl rfl rfl
  | writeError conn =>
      obtain ⟨connection, frame, found, -, rfl⟩ := writeError_some stepped
      exact Still.of_set found rfl rfl rfl
  | stopPump conn =>
      obtain ⟨connection, found, -, rfl⟩ := stopPump_some stepped
      exact Still.of_set found rfl rfl rfl
  | refreshSettings index =>
      obtain ⟨settings, -, rfl⟩ := refreshSettings_some stepped
      exact ⟨rfl, fun _ => rfl⟩
  | broadcast clip text now =>
      rw [broadcast_some stepped]
      exact ⟨rfl, fun _ => rfl⟩
  | claimPairing code suffix name platform token now => exact claimPairing_still stepped
  | rotateToken op =>
      obtain ⟨store, rfl, queues, -, -⟩ := rotateToken_some stepped
      exact Still.of_connections queues rfl
  | touchBlob blob now size mime =>
      obtain ⟨-, rfl⟩ := touchBlob_some stepped
      exact ⟨rfl, fun _ => rfl⟩
  | putSettings | loadSettings | putPairing | purgePairing | collectBlob =>
      cases stepped
      exact ⟨rfl, fun _ => rfl⟩

end Steps

end Relay

/-! ## What a step puts into the channels -/

namespace Relay

variable {env : Env} {relay after : Relay} {action : Action} {id : DeviceID}

/-- The clips a transfer puts into a channel. -/
def feeds (relay : Relay) (id : DeviceID) (conn : ConnID) : Transfer → List ClipEvent
  | .live target event => if target = conn then [event] else []
  | .deliver target => if target = conn then ((relay.held id conn).take 1).map (·.event) else []
  | _ => []

theorem channelAt_mailbox (relay : Relay) (id : DeviceID) (conn : ConnID) :
    Mailbox.channelAt (relay.mailbox id).links conn =
      if relay.owns conn id then clipsOf (relay.channel conn) else [] := by
  rw [Mailbox.channelAt, owns, channel]
  cases found : relay.connection? conn with
  | none =>
      rw [connection?] at found
      simp [mailbox, found]
  | some connection =>
      rw [link_of_connection found]
      by_cases mine : connection.owner = id
      · simp [mine, Connection.linkFor_eq mine, Connection.link]
      · simp [mine, Connection.linkFor_of_ne mine, Link.empty]

/-- The move of the device's mailbox and the transfer of its items put the same clips into a
channel. -/
theorem fed_mailbox (stepped : relay.step env action = some after) (conn : ConnID) :
    (relay.mailbox id).fed conn (relay.move id action) =
      relay.feeds id conn (relay.transfer id action) := by
  cases action with
  | registerDeliver =>
      obtain ⟨target, connection, settings, item, rest, task, found, session, -⟩ :=
        registerDeliver_some stepped
      simp only [move, transfer, task, found, Option.any_some, Bool.and_eq_true]
      by_cases mine : relay.owns target id = true
      · by_cases room : connection.client.send.length < sendBuffer
        · have owner := (owns_iff found).mp mine
          have fits : connection.hasRoom = true := decide_eq_true room
          rw [if_pos mine, if_pos (decide_eq_true room), if_pos ⟨mine, fits⟩, Mailbox.fed, feeds]
          split_ifs with same
          · subst same
            rw [link_of_owner found owner, held_of_connection found, Connection.heldFor,
              if_pos owner]
            simp [Connection.link, session, Session.hand]
          · rfl
        · have full : ¬connection.hasRoom = true := by simpa [Connection.hasRoom] using room
          rw [if_pos mine, if_neg (by simpa using room), if_neg fun both => full both.2]
          rfl
      · rw [if_neg mine, if_neg fun both => mine both.1]
        rfl
  | routeDeliver now =>
      obtain ⟨source, event, settings, target, rest, progress, task, served, delivery, delivered,
        -⟩ := routeDeliver_some stepped
      simp only [move, transfer, task, delivered]
      split_ifs with mine
      · cases delivery <;> rfl
      · rfl
  | requeue target =>
      obtain ⟨connection, depth, item, rest, found, session, -⟩ := requeue_some stepped
      simp only [move, transfer, found, session]
      split_ifs <;> rfl
  | drain target =>
      simp only [move, transfer]
      split_ifs <;> rfl
  | takeFrame target | wroteFrame target | writeError target =>
      simp only [move, transfer]
      split_ifs <;> rfl
  | deleteDevice device =>
      simp only [move, transfer]
      split_ifs <;> rfl
  | _ => rfl

theorem clipsOf_drop {old new : List Frame} (fifo : old <+: new ∨ new <:+ old) :
    clipsOf (new.drop old.length) = (clipsOf new).drop (clipsOf old).length := by
  rcases fifo with ⟨added, rfl⟩ | taken
  · rw [List.drop_left, clipsOf, clipsOf, clipsOf, List.filterMap_append, List.drop_left]
  · have fewer : (clipsOf new).length ≤ (clipsOf old).length :=
      (taken.sublist.filterMap Frame.clip?).length_le
    rw [List.drop_eq_nil_of_le taken.length_le, List.drop_eq_nil_of_le fewer]
    rfl

theorem connection_of_owns {conn : ConnID} (mine : relay.owns conn id = true) :
    ∃ connection, relay.connection? conn = some connection ∧ connection.owner = id := by
  obtain ⟨connection, found, owner⟩ := (Option.any_eq_true _ _).mp mine
  exact ⟨connection, found, of_decide_eq_true owner⟩

/-- Connections stay, with their owners. -/
theorem owns_kept (stepped : relay.step env action = some after) {conn : ConnID}
    (mine : relay.owns conn id = true) : after.owns conn id = true := by
  obtain ⟨connection, found, owner⟩ := connection_of_owns mine
  have kept := (effect_of_step stepped).owner_kept (owner_of_connection found)
  rw [owners, List.getElem?_map] at kept
  obtain ⟨later, present, same⟩ := Option.map_eq_some_iff.mp kept
  exact (owns_iff present).mpr (same.trans owner)

end Relay

namespace Watch

variable {env : Env} {watch : Watch} {after : Relay} {action : Action} {id : DeviceID}
variable {conn : ConnID}

/-- Nothing was sent to a connection that is not there. -/
def Unopened (watch : Watch) : Prop :=
  ∀ conn, watch.relay.connection? conn = none → watch.sent conn = []

theorem Unopened.observe (unopened : watch.Unopened)
    (stepped : watch.relay.step env action = some after) : (watch.observe after).Unopened := by
  intro conn missing
  have absent : watch.relay.connection? conn = none := by
    cases found : watch.relay.connection? conn with
    | none => rfl
    | some connection =>
        have mine : watch.relay.owns conn connection.owner = true := (Relay.owns_iff found).mpr rfl
        obtain ⟨later, present, -⟩ := Relay.connection_of_owns (Relay.owns_kept stepped mine)
        exact absurd (missing.symm.trans present) nofun
  have gone : after.connection? conn = none := missing
  have vacant : after.channel conn = [] := by rw [Relay.channel, gone]
  simp only [Watch.observe, unopened conn absent, vacant, List.drop_nil, List.append_nil]

/-- A step adds to the clips of a channel what the move of the mailbox feeds it. -/
theorem clipsTo_observe (unopened : watch.Unopened) (keyed : watch.relay.Keyed)
    (stepped : watch.relay.step env action = some after) :
    (watch.observe after).clipsTo id conn = watch.clipsTo id conn ++
      (watch.relay.mailbox id).fed conn (watch.relay.move id action) := by
  have step : (watch.relay.mailbox id).Step (watch.relay.move id action) (after.mailbox id) :=
    Relay.mailbox_step keyed stepped
  have fed := step.drop_channelAt conn
  rw [Relay.channelAt_mailbox, Relay.channelAt_mailbox] at fed
  have seen : (watch.observe after).clipsTo id conn =
      if after.owns conn id then
        clipsOf (watch.sent conn ++ (after.channel conn).drop (watch.relay.channel conn).length)
      else [] := rfl
  rw [← fed, seen, clipsTo]
  by_cases later : after.owns conn id = true
  · obtain ⟨new, found, owner⟩ := Relay.connection_of_owns later
    obtain ⟨frames, -, connections⟩ := Relay.told_of_step keyed stepped
    rcases connections conn new found with ⟨missing, identity, token, device, -, -, rfl⟩ |
      ⟨old, present, evolves⟩
    · -- The step opened the connection.
      have vacant : after.channel conn = [] := Relay.channel_of_connection found
      simp [vacant, unopened conn missing, clipsOf]
    · have mine : watch.relay.owns conn id = true :=
        (Relay.owns_iff present).mpr (evolves.owner.symm.trans owner)
      rw [if_pos later, if_pos later, if_pos mine, if_pos mine,
        Relay.channel_of_connection found, Relay.channel_of_connection present,
        ← Relay.clipsOf_drop evolves.fifo]
      exact List.filterMap_append
  · have other : ¬watch.relay.owns conn id = true := fun mine =>
      later (Relay.owns_kept stepped mine)
    rw [if_neg later, if_neg later, if_neg other, if_neg other]
    rfl

end Watch

/-! ## The ledger follows the relay -/

namespace Ledger

section Steps

variable {env : Env} {ledger : Ledger} {after : Relay} {id : DeviceID} {transfer : Transfer}

@[simp] theorem items_trim_queue (custody : Custody Place QueueItem) (trimmed : Nat) :
    (trim custody trimmed).items .queue = (custody.items .queue).drop trimmed := by
  have different : Place.queue ≠ .discarded := nofun
  rw [trim, Custody.items_move_source different, List.map_drop]
  rfl

@[simp] theorem items_trim_of_ne (custody : Custody Place QueueItem) (trimmed : Nat)
    {place : Place} (notQueue : place ≠ .queue) (notDiscarded : place ≠ .discarded) :
    (trim custody trimmed).items place = custody.items place :=
  Custody.items_move_of_ne notQueue notDiscarded

/-- The first item in the ledger's hands is the relay's. -/
theorem Faithful.next (faithful : ledger.Faithful id) {conn : ConnID} {item : QueueItem}
    {rest : List QueueItem} (hand : ledger.watch.relay.held id conn = item :: rest) :
    ((ledger.custody (.hands conn)).take 1).map (·.2) = [item] ∧
      ((ledger.custody (.hands conn)).drop 1).map (·.2) = rest := by
  have items : (ledger.custody (.hands conn)).map (·.2) = item :: rest :=
    (faithful.hands conn).trans hand
  rw [List.map_take, List.map_drop, items]
  exact ⟨rfl, rfl⟩

/-- The queue of the ledger follows the queue of the relay. -/
theorem Faithful.queue_step (faithful : ledger.Faithful id)
    (transferred : ledger.watch.relay.Transferred after id transfer) :
    (ledger.account transfer).custody.items .queue = after.daemon.store.queueOf id := by
  cases transfer with
  | none | live => exact faithful.queue.trans transferred.queue.symm
  | drain conn =>
      obtain ⟨-, emptied, -⟩ := transferred
      simp [account, emptied]
  | deliver conn =>
      obtain ⟨item, -, queue, -⟩ := transferred
      simp [account, queue, faithful.queue]
  | restore conn trimmed =>
      obtain ⟨item, hand, queue, -⟩ := transferred
      simp [account, queue, faithful.queue, (faithful.next hand).1]
  | store item trimmed =>
      obtain ⟨queue, -⟩ := transferred
      simp [account, queue, faithful.queue]
  | sweep kept =>
      obtain ⟨queue, -⟩ := transferred
      have items : (ledger.custody.items .queue).filter kept =
          ((ledger.custody .queue).filter fun entry => kept entry.2).map (·.2) :=
        List.filter_map ..
      rw [queue, ← faithful.queue, items]
      simp [account]

/-- So do the hands. -/
theorem Faithful.hands_step (faithful : ledger.Faithful id)
    (transferred : ledger.watch.relay.Transferred after id transfer) (query : ConnID) :
    (ledger.account transfer).custody.items (.hands query) = after.held id query := by
  cases transfer with
  | none | live => exact (faithful.hands query).trans (transferred.hands query).symm
  | drain conn =>
      obtain ⟨vacant, -, filled, others⟩ := transferred
      by_cases same : query = conn
      · subst same
        have hand : ledger.custody.items (.hands query) = [] :=
          (faithful.hands query).trans vacant
        rw [filled, ← faithful.queue]
        simp only [account, Custody.items_move_target, hand, List.nil_append]
        rfl
      · simp [account, same, others query same, faithful.hands]
  | deliver conn =>
      obtain ⟨item, hand, -, others⟩ := transferred
      by_cases same : query = conn
      · subst same
        exact (Custody.items_move_source (by simp)).trans (faithful.next hand).2
      · simp [account, same, others query same, faithful.hands]
  | restore conn trimmed =>
      obtain ⟨item, hand, -, others⟩ := transferred
      by_cases same : query = conn
      · subst same
        rw [account, items_trim_of_ne _ _ (by simp) (by simp)]
        exact (Custody.items_move_source (by simp)).trans (faithful.next hand).2
      · simp [account, same, others query same, faithful.hands]
  | store item trimmed =>
      obtain ⟨-, hands⟩ := transferred
      simp [account, hands, faithful.hands]
  | sweep kept =>
      obtain ⟨-, hands⟩ := transferred
      simp [account, hands, faithful.hands]

/-- A transfer pushes to a channel what the step puts into it. -/
theorem Faithful.pushed_step (faithful : ledger.Faithful id)
    (transferred : ledger.watch.relay.Transferred after id transfer) (query : ConnID) :
    ((ledger.account transfer).pushed query).map Push.event =
      (ledger.pushed query).map Push.event ++ ledger.watch.relay.feeds id query transfer := by
  cases transfer with
  | live conn event =>
      rw [account, push_pushed, Relay.feeds]
      by_cases same : query = conn
      · subst same
        simp [Push.event]
      · simp [same, Ne.symm same]
  | deliver conn =>
      obtain ⟨item, hand, -⟩ := transferred
      rw [account, push_pushed, Relay.feeds]
      by_cases same : query = conn
      · subst same
        have first := congrArg (List.map QueueItem.event) (faithful.next hand).1
        rw [List.map_map] at first
        simp only [↓reduceIte, List.map_append, List.map_map, hand]
        exact congrArg _ first
      · simp [same, Ne.symm same]
  | none | drain | restore | store | sweep => exact (List.append_nil _).symm

/-- The numbered pushes to a channel are the items booked there. -/
theorem Faithful.numbered_step (faithful : ledger.Faithful id) (transfer : Transfer)
    (query : ConnID) : ((ledger.account transfer).pushed query).filterMap Push.entry? =
      (ledger.account transfer).custody (.channel query) := by
  have before := faithful.numbered query
  cases transfer with
  | live conn event =>
      rw [account, push_pushed]
      split_ifs with same
      · rw [List.filterMap_append, before]
        exact List.append_nil _
      · exact before
  | deliver conn =>
      rw [account, push_pushed, push_custody]
      split_ifs with same
      · subst same
        rw [List.filterMap_append, before, Push.filterMap_ofEntry]
        exact Custody.move_target.symm
      · rw [before]
        exact (Custody.move_of_ne (by simp) (by simpa using same)).symm
  | none => exact before
  | drain conn => simpa [account, Custody.move] using before
  | restore conn trimmed => simpa [account, trim, Custody.move] using before
  | store item trimmed => simpa [account, trim, Custody.move, Custody.receive] using before
  | sweep kept => simpa [account, Custody.move] using before

theorem Faithful.step (faithful : ledger.Faithful id) (keyed : ledger.watch.relay.Keyed)
    (unopened : ledger.watch.Unopened) {action : Action} {later : Ledger}
    (stepped : ledger.step env id action = some later) : later.Faithful id := by
  obtain ⟨after, moved, rfl⟩ := Option.map_eq_some_iff.mp stepped
  have transferred : ledger.watch.relay.Transferred after id _ := Relay.transferred_of_step moved
  constructor
  · exact faithful.queue_step transferred
  · exact faithful.hands_step transferred
  · intro conn
    calc (ledger.watch.observe after).clipsTo id conn
        = ledger.watch.clipsTo id conn ++
            ledger.watch.relay.feeds id conn (ledger.watch.relay.transfer id action) := by
          rw [Watch.clipsTo_observe unopened keyed moved, Relay.fed_mailbox moved]
      _ = (ledger.pushed conn).map Push.event ++
            ledger.watch.relay.feeds id conn (ledger.watch.relay.transfer id action) := by
          rw [faithful.channel]
      _ = ((ledger.account (ledger.watch.relay.transfer id action)).pushed conn).map Push.event :=
          (faithful.pushed_step transferred conn).symm
  · exact faithful.numbered_step _

theorem exact_step (exact : ledger.custody.Exact ledger.appended) {action : Action}
    {later : Ledger} (stepped : ledger.step env id action = some later) :
    later.custody.Exact later.appended := by
  obtain ⟨after, -, rfl⟩ := Option.map_eq_some_iff.mp stepped
  exact exact_account exact _

end Steps

/-- What every step of the ledger keeps. -/
structure Sound (ledger : Ledger) (id : DeviceID) : Prop where
  faithful : ledger.Faithful id
  exact : ledger.custody.Exact ledger.appended
  keyed : ledger.watch.relay.Keyed
  unopened : ledger.watch.Unopened

theorem Sound.step {env : Env} {ledger later : Ledger} {id : DeviceID} (sound : ledger.Sound id)
    {action : Action} (stepped : ledger.step env id action = some later) : later.Sound id := by
  obtain ⟨after, moved, same⟩ := Option.map_eq_some_iff.mp stepped
  have watched : later.watch = ledger.watch.observe after := (congrArg Ledger.watch same).symm
  constructor
  · exact sound.faithful.step sound.keyed sound.unopened stepped
  · exact exact_step sound.exact stepped
  · rw [watched]
    exact sound.keyed.step moved
  · rw [watched]
    exact sound.unopened.observe moved

theorem Faithful.start (store : Store) (id : DeviceID) :
    (Ledger.start (Relay.boot store) id).Faithful id where
  queue := by
    simp only [Custody.items, Ledger.start, List.map_map]
    exact List.zipIdx_map_fst 0 _
  hands _ := rfl
  channel _ := rfl
  numbered _ := rfl

/-- In every run of a process, started on any store, every item ever appended to a
device's queue is in exactly one place and put into a send channel at most once. -/
theorem queued_in_one_place {env : Env} {store : Store} {id : DeviceID} {ledger : Ledger}
    (run : Reachable (Ledger.step env id) (Ledger.start (Relay.boot store) id) ledger) :
    ledger.Faithful id ∧ ledger.Accurate := by
  have sound : ledger.Sound id := by
    apply run.invariant
    · exact ⟨Faithful.start store id, exact_start (Relay.boot store) id, Relay.Keyed.boot store,
        fun _ _ => rfl⟩
    · intro before after action inv _ stepped
      exact inv.step stepped
  exact ⟨sound.faithful, fun tag item known => sound.exact.unique known, sound.exact.once⟩

/-- Two clips are queued for a device that is offline; it connects, and the hub has
pushed the first of them. -/
theorem queued_pair_half_sent :
    ∃ ledger, Reachable (Ledger.step demoEnv "dev_b")
        (Ledger.start (Relay.boot .empty) "dev_b") ledger ∧
      ledger.appended.map (·.event.id) = ["c1", "c2"] ∧ ledger.custody.tags (.channel 1) = [0] ∧
      ledger.custody.tags (.hands 1) = [1] ∧ ledger.Faithful "dev_b" ∧ ledger.Accurate := by
  obtain ⟨ledger, reached, checked⟩ := Reachable.exists_of_exec (Ledger.step demoEnv "dev_b")
    (Ledger.start (Relay.boot .empty) "dev_b")
    (Action.pair "a" "laptop" ++ Action.pair "b" "phone" ++ Action.bringUp "a" 0 ++
      Action.sendClip 0 (.text "c1" "one") 2 ++ Action.sendClip 0 (.text "c2" "two") 2 ++
      [.connect "dev_b" "b", .readSettings 1, .drain 1, .registerStart 1 3, .registerDeliver])
    (fun ledger => decide (ledger.appended.map (·.event.id) = ["c1", "c2"] ∧
      ledger.custody.tags (.channel 1) = [0] ∧ ledger.custody.tags (.hands 1) = [1]))
    (by decide +kernel)
  obtain ⟨appended, channel, hands⟩ := of_decide_eq_true checked
  obtain ⟨faithful, accurate⟩ := queued_in_one_place reached
  exact ⟨ledger, reached, appended, channel, hands, faithful, accurate⟩

end Ledger

end CopySync.Server
