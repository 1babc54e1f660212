import CopySync.Server.Relay.Connections

/-!
# The registry of connected clients

Entries leave the registry by four handlers (replacement by a newer connection,
unregister, eviction of a deleted device, eviction of a slow client), and an old
connection's unregister may reach the hub before or after the newer one's register.
In every order the entry of a device is one of its own connections, whose
registration the hub took, which has not left and whose client nobody closed.
-/

namespace CopySync.Server

open Foundation

/-- How far a connection got, and whether its client was closed. -/
structure Standing where
  phase : Phase
  closed : Bool
  deriving DecidableEq, Repr

namespace Standing

def shut (standing : Standing) : Standing := { standing with closed := true }

def enter (standing : Standing) : Standing := { standing with phase := .inside }

def leave (standing : Standing) : Standing := { standing with phase := .outside }

end Standing

def Connection.standing (connection : Connection) : Standing :=
  ⟨connection.session.phase, connection.closed⟩

namespace Daemon

variable (daemon : Daemon)

def standings : List Standing := daemon.connections.map Connection.standing

/-- Replacing one connection changes the standing at its place. -/
theorem map_set_modify {α β : Type} {f : α → β} {change : β → β} {list : List α} {index : Nat}
    {old new : α} (found : list[index]? = some old) (changed : f new = change (f old)) :
    (list.set index new).map f = (list.map f).modify index change := by
  apply List.ext_getElem?
  intro query
  rw [List.map_set, List.getElem?_set, List.getElem?_modify]
  split_ifs with same inside
  · subst same
    simp [found, changed]
  · subst same
    have bound := (List.getElem?_eq_some_iff.mp found).1
    exact absurd (by simpa using bound) inside
  · simp

@[simp] theorem standings_push (conn : ConnID) (frame : Frame) :
    (daemon.push conn frame).1.standings = daemon.standings := by
  rw [push]
  split
  next => rfl
  next connection found =>
    refine map_set_of_eq found ?_
    simp only [Connection.standing, Connection.closed, Client.enqueue]
    split_ifs <;> rfl

@[simp] theorem standings_broadcastPresence (device : Device) (isOnline : Bool)
    (exclude : DeviceID) :
    (daemon.broadcastPresence device isOnline exclude).standings = daemon.standings :=
  broadcastPresence_induction (fun current => current.standings = daemon.standings)
    device isOnline exclude rfl fun current conn same => by rw [standings_push, same]

theorem standings_close (conn : ConnID) (reason : String) :
    (daemon.close conn reason).standings = daemon.standings.modify conn Standing.shut := by
  rw [close]
  split
  next absent =>
    have beyond : daemon.standings.length ≤ conn := by
      simpa [standings] using List.getElem?_eq_none_iff.mp absent
    exact (List.modify_eq_self beyond).symm
  next connection found => exact map_set_modify found rfl

theorem standings_handleBlobRequest (id : BlobID) :
    (daemon.handleBlobRequest id).1.standings = daemon.standings := by
  rw [handleBlobRequest]
  split
  next => rfl
  next => split <;> simp

theorem standings_storePool (env : Env) (device : Device) (pool : String) :
    (daemon.storePool env device pool).standings = daemon.standings := by
  simp only [storePool, standings_broadcastPresence]
  split
  next => rfl
  next conn _ =>
    split
    next => rfl
    next connection found => exact map_set_of_eq found rfl

/-- A registration closes the connection it replaces. -/
theorem standings_enroll (env : Env) (conn : ConnID) (device : Device)
    (settings : RuntimeSettings) (now : Time) :
    (daemon.enroll env conn device settings now).standings =
      match daemon.hub.clients.get? device.id with
      | some old => daemon.standings.modify old Standing.shut
      | none => daemon.standings := by
  rw [enroll, standings_push]
  cases daemon.hub.clients.get? device.id with
  | none => rfl
  | some old => exact daemon.standings_close old _

theorem standings_handleUnregister (conn : ConnID) (device : Device) (now : Time) :
    (daemon.handleUnregister conn device now).standings = daemon.standings := by
  rw [handleUnregister]
  split
  next => exact standings_broadcastPresence _ device false ""
  next => rfl

/-- An eviction closes the registered connection, which exists. -/
theorem handleEvict_standings {id : DeviceID} {conn : ConnID} {connection : Connection}
    (registered : daemon.hub.clients.get? id = some conn)
    (found : daemon.connections[conn]? = some connection) :
    (daemon.handleEvict id).standings = daemon.standings.modify conn Standing.shut := by
  rw [daemon.handleEvict_eq registered found, standings_broadcastPresence]
  exact daemon.standings_close conn "device deleted"

end Daemon

namespace Relay

/-- Phase and close flag of every connection, by connection number. -/
abbrev standings (relay : Relay) : List Standing := relay.daemon.standings

/-- What a step does to the standings; `registerStart_enters` says what a registration
does. -/
inductive StandingChange (relay after : Relay) : Action → List Standing → Prop where
  | keep {action : Action} : StandingChange relay after action relay.standings
  | opened {action : Action} :
      StandingChange relay after action (relay.standings ++ [⟨.entering, false⟩])
  | entered {conn : ConnID} {now : Time} :
      StandingChange relay after (.registerStart conn now) after.standings
  | left {conn : ConnID} {now : Time} {connection : Connection}
      (found : relay.connection? conn = some connection)
      (unregistered : after.clients.get? connection.owner ≠ some conn) :
      StandingChange relay after (.unregister conn now)
        (relay.standings.modify conn Standing.leave)
  | shut {action : Action} {id : DeviceID} {conn : ConnID}
      (registered : relay.clients.get? id = some conn)
      (erased : after.clients = relay.clients.erase id) :
      StandingChange relay after action (relay.standings.modify conn Standing.shut)

section Steps

variable {env : Env} {relay after : Relay} {action : Action} {conn : ConnID}
variable {connection new : Connection}

theorem StandingChange.of_eq (same : after.standings = relay.standings) :
    StandingChange relay after action after.standings :=
  same ▸ .keep

theorem StandingChange.of_set (found : relay.connection? conn = some connection)
    (set : after.daemon.connections = relay.daemon.connections.set conn new)
    (same : new.standing = connection.standing) :
    StandingChange relay after action after.standings := by
  refine .of_eq ?_
  rw [standings, Daemon.standings, set]
  exact map_set_of_eq found same

/-- A move of the connection's goroutine within its phase. -/
theorem StandingChange.of_session {session : Session}
    (found : relay.connection? conn = some connection)
    (same : session.phase = connection.session.phase)
    (set : after.daemon.connections =
      relay.daemon.connections.set conn { connection with session }) :
    StandingChange relay after action after.standings :=
  .of_set found set (by simp [Connection.standing, Connection.closed, same])

/-- A registration moves its connection inside and closes the one it replaces. -/
theorem registerStart_enters {now : Time}
    (stepped : relay.registerStart env conn now = some after) :
    ∃ connection, relay.connection? conn = some connection ∧
      connection.session.phase = .entering ∧
      after.clients = relay.clients.put connection.owner conn ∧
      after.standings = match relay.clients.get? connection.owner with
        | some old => (relay.standings.modify conn Standing.enter).modify old Standing.shut
        | none => relay.standings.modify conn Standing.enter := by
  obtain ⟨connection, settings, items, idle, found, session, rfl⟩ := registerStart_some stepped
  have begun : (relay.setSession conn connection
      (.registering settings items false)).daemon.standings =
        relay.standings.modify conn Standing.enter :=
    Daemon.map_set_modify found rfl
  refine ⟨connection, found, by rw [session]; rfl, ?_, ?_⟩
  · simp [clients, setSession, setConnection]
  · rw [Relay.standings, Daemon.standings_enroll, begun]
    rfl

theorem unregister_standings {now : Time} (stepped : relay.unregister conn now = some after) :
    StandingChange relay after (.unregister conn now) after.standings := by
  obtain ⟨connection, idle, found, session, result⟩ := unregister_some stepped
  have standings : after.standings = relay.standings.modify conn Standing.leave := by
    rw [result, Relay.standings, Daemon.standings_handleUnregister]
    exact Daemon.map_set_modify found rfl
  have unregistered : after.clients.get? connection.owner ≠ some conn := by
    rw [result, clients, Daemon.handleUnregister_hub]
    split_ifs with registered
    · simp [Hub.pruneOnDemand]
    · exact registered
  rw [standings]
  exact .left found unregistered

theorem evict_standings {id : DeviceID} (stepped : relay.evict id = some after) :
    StandingChange relay after (.evict id) after.standings := by
  obtain ⟨idle, deleted, result⟩ := evict_some stepped
  rcases relay.daemon.handleEvict_cases id with same | ⟨conn, connection, registered, found, erased⟩
  · exact .of_eq (by rw [result, Relay.standings, same])
  · have standings : after.standings = relay.standings.modify conn Standing.shut := by
      rw [result]
      exact relay.daemon.handleEvict_standings registered found
    rw [standings]
    exact .shut registered (by rw [result, clients, erased])

theorem routeDeliver_standings {now : Time} (stepped : relay.routeDeliver now = some after) :
    StandingChange relay after (.routeDeliver now) after.standings := by
  obtain ⟨source, event, settings, target, rest, progress, task, served, delivery, delivered,
    result⟩ := routeDeliver_some stepped
  rcases Daemon.deliverTo_cases _ _ delivered with
    ⟨-, -, rfl⟩ | ⟨-, conn, connection, -, found, room, -, rfl⟩ |
      ⟨notOrigin, base, ⟨-, rfl⟩ | ⟨conn, registered, full, rfl⟩, -, rfl⟩
  · exact .of_eq (by rw [result]; rfl)
  · subst result
    exact .of_set found rfl rfl
  · exact .of_eq (by rw [result]; rfl)
  · have standings : after.standings = relay.standings.modify conn Standing.shut := by
      rw [result]
      exact relay.daemon.standings_close conn _
    rw [standings]
    exact .shut registered (by simp [result, clients, record, Hub.pruneOnDemand])

/-- One case analysis over all actions. -/
theorem standings_of_step (stepped : relay.step env action = some after) :
    StandingChange relay after action after.standings := by
  cases action with
  | registerStart conn now => exact .entered
  | unregister conn now => exact unregister_standings stepped
  | evict id => exact evict_standings stepped
  | routeDeliver now => exact routeDeliver_standings stepped
  | connect id token =>
      obtain ⟨device, -, rfl⟩ := connect_some stepped
      rw [standings, Daemon.standings, List.map_append]
      exact .opened
  | readSettings conn =>
      obtain ⟨connection, found, session, rfl⟩ := readSettings_some stepped
      exact .of_session found (by rw [session]; rfl) rfl
  | drain conn =>
      obtain ⟨connection, settings, found, session, rfl⟩ := drain_some stepped
      exact .of_session found (by rw [session]; rfl) rfl
  | requeue conn =>
      obtain ⟨connection, depth, item, rest, found, session, rfl⟩ := requeue_some stepped
      exact .of_session found (by rw [session]; rfl) rfl
  | registerReturn conn =>
      obtain ⟨connection, depth, found, session, rfl⟩ := registerReturn_some stepped
      exact .of_session found (by rw [session]; rfl) rfl
  | sendToken conn token =>
      obtain ⟨connection, -, -, rfl⟩ := sendToken_some stepped
      exact .of_eq (relay.daemon.standings_push _ _)
  | ack conn =>
      obtain ⟨connection, payload, found, session, rfl⟩ := ack_some stepped
      refine .of_eq ((Daemon.standings_push _ _ _).trans (map_set_of_eq found ?_))
      simp [Connection.standing, Connection.closed, session, Session.phase]
  | registerDeliver =>
      obtain ⟨conn, connection, settings, item, rest, -, found, session, ⟨-, rfl⟩ | ⟨-, rfl⟩⟩ :=
        registerDeliver_some stepped
      · refine .of_set found rfl ?_
        simp [Connection.standing, Connection.closed, session, Session.phase]
      · exact .of_session found (by rw [session]; rfl) rfl
  | registerFinish =>
      obtain ⟨conn, connection, settings, rest, full, -, found, session, -, rfl⟩ :=
        registerFinish_some stepped
      refine .of_eq ((Daemon.standings_broadcastPresence ..).trans (map_set_of_eq found ?_))
      simp [Connection.standing, Connection.closed, session, Session.phase]
  | receiveClip conn event now =>
      obtain ⟨connection, -, found, session, ⟨payload, rfl⟩ | ⟨-, rfl⟩⟩ :=
        receiveClip_some stepped
      · exact .of_session found (by rw [session]; rfl) rfl
      · exact .of_session found (by rw [session]; rfl) rfl
  | routeBroadcast index =>
      obtain ⟨event, -, -, rfl | ⟨-, rfl⟩⟩ := routeBroadcast_some stepped
      · exact .keep
      · exact .keep
  | routePrepare now =>
      obtain ⟨source, event, settings, -, rfl⟩ := routePrepare_some stepped
      exact .of_eq (congrArg (List.map Connection.standing) (Daemon.prepareRoute_connections ..))
  | routeFinish =>
      obtain ⟨source, event, settings, progress, -, rfl | ⟨conn, connection, payload, -, found,
        session, rfl⟩⟩ := routeFinish_some stepped
      · exact .keep
      · exact .of_session found (by rw [session]; rfl) rfl
  | setPool conn pool =>
      obtain ⟨-, rfl | ⟨connection, device, -, -, rfl⟩⟩ := setPool_some stepped
      · exact .keep
      · exact .keep
  | storePool =>
      obtain ⟨device, pool, -, rfl⟩ := storePool_some stepped
      exact .of_eq (relay.daemon.standings_storePool ..)
  | requestBlob blob =>
      rw [requestBlob_some stepped]
      exact .of_eq (relay.daemon.standings_handleBlobRequest blob)
  | takeFrame conn =>
      obtain ⟨connection, frame, rest, found, -, send, rfl⟩ := takeFrame_some stepped
      exact .of_set found rfl rfl
  | wroteFrame conn =>
      obtain ⟨connection, frame, found, -, rfl⟩ := wroteFrame_some stepped
      exact .of_set found rfl rfl
  | writeError conn =>
      obtain ⟨connection, frame, found, -, rfl⟩ := writeError_some stepped
      exact .of_set found rfl rfl
  | stopPump conn =>
      obtain ⟨connection, found, -, rfl⟩ := stopPump_some stepped
      exact .of_set found rfl rfl
  | refreshSettings index =>
      obtain ⟨settings, -, rfl⟩ := refreshSettings_some stepped
      exact .keep
  | broadcast id text now =>
      rw [broadcast_some stepped]
      exact .keep
  | claimPairing code suffix name platform token now =>
      rw [claimPairing_some stepped]
      exact .keep
  | rotateToken op =>
      obtain ⟨store, rfl, -⟩ := rotateToken_some stepped
      exact .keep
  | touchBlob blob now size mime =>
      obtain ⟨-, rfl⟩ := touchBlob_some stepped
      exact .keep
  | deleteDevice | putSettings | loadSettings | putPairing | purgePairing | purgeQueues
  | collectBlob =>
      cases stepped
      exact .keep

end Steps

/-! ## The invariant -/

/-- Every entry is a connection of its device that is inside and not closed, and a
client is closed only after its registration. -/
structure Registry (relay : Relay) : Prop where
  keyed : relay.Keyed
  admitted : ∀ id conn, relay.clients.get? id = some conn →
    relay.standings[conn]? = some ⟨.inside, false⟩
  entering : ∀ (conn : ConnID) (closed : Bool),
    relay.standings[conn]? = some ⟨.entering, closed⟩ → closed = false

section Invariant

variable {env : Env} {relay after : Relay} {action : Action} {conn : ConnID}

theorem Registry.boot (store : Store) : (Relay.boot store).Registry where
  keyed := Keyed.boot store
  admitted := by simp [Relay.boot, Daemon.boot, clients]
  entering := by simp [Relay.boot, Daemon.boot, Daemon.standings]

/-- Only a registration adds an entry. -/
theorem clients_of_step (quiet : ∀ conn now, action ≠ .registerStart conn now)
    (stepped : relay.step env action = some after) {id : DeviceID}
    (registered : after.clients.get? id = some conn) : relay.clients.get? id = some conn := by
  have change := (effect_of_step stepped).registry
  generalize after.clients = newClients at change registered
  cases change with
  | keep => exact registered
  | enter => exact absurd rfl (quiet _ _)
  | leave | evict | slow =>
      rw [OrderedMap.get?_erase] at registered
      split_ifs at registered
      exact registered

/-- A connection is registered for one device only. -/
theorem Keyed.device_unique (keyed : relay.Keyed) {left right : DeviceID}
    (first : relay.clients.get? left = some conn) (second : relay.clients.get? right = some conn) :
    left = right :=
  Option.some.inj ((keyed left conn first).symm.trans (keyed right conn second))

theorem Registry.registerStart (inv : relay.Registry) {now : Time}
    (stepped : relay.step env (.registerStart conn now) = some after) : after.Registry := by
  obtain ⟨connection, found, entering, clients, standings⟩ := registerStart_enters stepped
  have position : relay.standings[conn]? = some ⟨.entering, connection.closed⟩ := by
    have present : relay.daemon.connections[conn]? = some connection := found
    simp [Relay.standings, Daemon.standings, present, Connection.standing, entering]
  -- The connection itself is entering, hence neither registered nor the one replaced.
  have elsewhere : ∀ id, relay.clients.get? id ≠ some conn := by
    intro id registered
    cases position.symm.trans (inv.admitted id conn registered)
  have standing : ∀ query : ConnID, after.standings[query]? =
      if query = conn then some ⟨.inside, connection.closed⟩
      else if relay.clients.get? connection.owner = some query then
        (relay.standings[query]?).map Standing.shut
      else relay.standings[query]? := by
    intro query
    rw [standings]
    cases replaced : relay.clients.get? connection.owner with
    | none =>
        by_cases same : query = conn
        · simp [same, position, Standing.enter]
        · simp [same, Ne.symm same]
    | some old =>
        have other : old ≠ conn := fun same => elsewhere _ (same ▸ replaced)
        by_cases same : query = conn
        · simp [same, position, Standing.enter, other]
        · by_cases first : old = query
          · simp [same, Ne.symm same, first]
          · simp [same, Ne.symm same, first]
  refine ⟨inv.keyed.step stepped, fun id entry registered => ?_, fun entry closed moved => ?_⟩
  · rw [clients, OrderedMap.get?_put] at registered
    split_ifs at registered with own
    · cases registered
      rw [standing, if_pos rfl, inv.entering conn connection.closed position]
    · have other : entry ≠ conn := fun same => elsewhere id (same ▸ registered)
      have unreplaced : relay.clients.get? connection.owner ≠ some entry :=
        fun replaced => own (inv.keyed.device_unique registered replaced)
      rw [standing, if_neg other, if_neg unreplaced]
      exact inv.admitted id entry registered
  · rw [standing] at moved
    split_ifs at moved with same replaced
    · cases moved
    · rw [inv.admitted _ entry replaced] at moved
      cases moved
    · exact inv.entering entry closed moved

theorem Registry.step (inv : relay.Registry) (stepped : relay.step env action = some after) :
    after.Registry := by
  by_cases starts : ∃ conn now, action = .registerStart conn now
  · obtain ⟨conn, now, rfl⟩ := starts
    exact inv.registerStart stepped
  · simp only [not_exists] at starts
    have keyed := inv.keyed.step stepped
    have change := standings_of_step stepped
    refine ⟨keyed, fun id entry registered => ?_, fun entry closed position => ?_⟩
    · have former := clients_of_step starts stepped registered
      have stood := inv.admitted id entry former
      generalize after.standings = newStandings at change ⊢
      cases change with
      | keep => exact stood
      | opened =>
          rwa [List.getElem?_append_left (List.getElem?_eq_some_iff.mp stood).1]
      | entered => exact absurd rfl (starts _ _)
      | @left conn now connection found unregistered =>
          have other : conn ≠ entry := by
            rintro rfl
            have owner : relay.owners[conn]? = some id := inv.keyed id conn former
            rw [owner_of_connection found] at owner
            cases owner
            exact unregistered registered
          simpa [List.getElem?_modify, other] using stood
      | @shut _ device conn evicted erased =>
          have other : conn ≠ entry := by
            rintro rfl
            cases inv.keyed.device_unique evicted former
            rw [erased, OrderedMap.get?_erase_self] at registered
            cases registered
          simpa [List.getElem?_modify, other] using stood
    · generalize after.standings = newStandings at change position
      cases change with
      | keep => exact inv.entering entry closed position
      | opened =>
          rcases getElem?_concat_cases position with earlier | ⟨-, same⟩
          · exact inv.entering entry closed earlier
          · cases same
            rfl
      | entered => exact absurd rfl (starts _ _)
      | @left conn now connection found unregistered =>
          rw [List.getElem?_modify] at position
          split_ifs at position
          · obtain ⟨old, -, same⟩ := Option.map_eq_some_iff.mp position
            cases same
          · exact inv.entering entry closed (by simpa using position)
      | @shut _ device conn evicted erased =>
          rw [List.getElem?_modify] at position
          split_ifs at position with same
          · subst same
            rw [inv.admitted device conn evicted] at position
            cases position
          · exact inv.entering entry closed (by simpa using position)

theorem Registry.life (inv : relay.Registry) {action : Option Action}
    (stepped : relay.life env action = some after) : after.Registry := by
  cases action with
  | none =>
      cases stepped
      have fresh := Registry.boot relay.daemon.store
      exact ⟨fresh.keyed, fresh.admitted, fresh.entering⟩
  | some action => exact inv.step stepped

/-- The connection behind an entry. -/
theorem Registry.entry (inv : relay.Registry) {id : DeviceID}
    (registered : relay.clients.get? id = some conn) :
    ∃ connection, relay.connection? conn = some connection ∧ connection.owner = id ∧
      connection.session.phase = .inside ∧ connection.closed = false := by
  have owner := inv.keyed id conn registered
  have standing := inv.admitted id conn registered
  rw [List.getElem?_map, Option.map_eq_some_iff] at owner
  obtain ⟨connection, found, same⟩ := owner
  have position : connection.standing = ⟨.inside, false⟩ := by
    simpa [Relay.standings, Daemon.standings, found] using standing
  exact ⟨connection, found, same, congrArg Standing.phase position,
    congrArg Standing.closed position⟩

end Invariant

/-- The registry in every reachable state, from any stored state and over restarts.
Each entry is a connection of the device it is filed under, inside and not closed; a
device all of whose connections have left is not registered; and an unregister keeps
every entry of another connection, and changes nothing but the unregistered connection
when the device's entry is another one. -/
theorem registry_integrity {env : Env} {store : Store} {relay : Relay}
    (reached : Reachable (Relay.life env) (Relay.boot store) relay) :
    (∀ id conn, relay.clients.get? id = some conn →
      ∃ connection, relay.connection? conn = some connection ∧ connection.owner = id ∧
        connection.session.phase = .inside ∧ connection.closed = false) ∧
    (∀ id, (∀ conn connection, relay.connection? conn = some connection →
      connection.owner = id → connection.session = .left) → relay.clients.get? id = none) ∧
    ∀ conn now after connection, relay.step env (.unregister conn now) = some after →
      relay.connection? conn = some connection →
      (∀ id other, other ≠ conn → relay.clients.get? id = some other →
        after.clients.get? id = some other) ∧
      (relay.clients.get? connection.owner ≠ some conn →
        after = relay.setSession conn connection .left) := by
  have inv : relay.Registry := reached.invariant (Registry.boot store)
    fun inv _ stepped => inv.life stepped
  refine ⟨fun id conn registered => inv.entry registered, fun id gone => ?_, ?_⟩
  · cases registered : relay.clients.get? id with
    | none => rfl
    | some conn =>
        obtain ⟨connection, found, owner, inside, -⟩ := inv.entry registered
        rw [gone conn connection found owner] at inside
        cases inside
  · intro conn now after connection stepped found
    obtain ⟨connection', -, found', -, rfl⟩ := unregister_some stepped
    cases found.symm.trans found'
    constructor
    · intro id other different registered
      rw [clients, Daemon.handleUnregister_hub]
      split_ifs with current
      · have elsewhere : id ≠ connection.owner := by
          rintro rfl
          cases registered.symm.trans current
          exact different rfl
        simpa [Hub.pruneOnDemand, elsewhere, clients, setSession, setConnection] using registered
      · exact registered
    · intro stale
      rw [Daemon.handleUnregister, if_neg (by exact stale)]

/-- A second connection of a device replaces the first, whose unregister comes late;
then the second leaves too. -/
theorem registry_integrity_replaced :
    ∃ relay : Relay, Reachable (Relay.life demoEnv) (Relay.boot .empty) relay ∧
      relay.clients.get? "dev_a" = some 1 ∧
      (∃ old, relay.connection? 0 = some old ∧ old.closed = true) ∧
      ∃ connection, relay.connection? 1 = some connection ∧ connection.owner = "dev_a" ∧
        connection.session.phase = .inside ∧ connection.closed = false := by
  obtain ⟨relay, reached, checked⟩ := Reachable.exists_of_exec (Relay.life demoEnv)
    (Relay.boot .empty)
    ((Action.pair "a" "laptop" ++ Action.bringUp "a" 0 ++ Action.bringUp "a" 1 ++
      [Action.unregister 0 2]).map some)
    (fun relay => decide (relay.clients.get? "dev_a" = some 1) &&
      (relay.connection? 0).any Connection.closed) (by decide +kernel)
  obtain ⟨registered, closed⟩ := Bool.and_eq_true_iff.mp checked
  have current := of_decide_eq_true registered
  exact ⟨relay, reached, current, (Option.any_eq_true _ _).mp closed,
    (registry_integrity reached).1 "dev_a" 1 current⟩

end Relay

end CopySync.Server
