import CopySync.Server.Relay.Effect

/-!
# What a step can do to a connection

Handlers push frames to connections, close them and change their pools; a
connection's own goroutine moves its session.  Every step is described by what it
does to each single connection, and by whom it tells about a change of the registry.
-/

namespace CopySync.Server

open Foundation

/-- Frames that tell a client who is online. -/
def Frame.announces : Frame → Bool
  | .helloOK _ | .presence _ => true
  | _ => false

/-- Whether the hub has taken the registration of a connection, and whether the
connection has left again. -/
inductive Phase where
  | entering
  | inside
  | outside
  deriving DecidableEq, Repr

def Session.phase : Session → Phase
  | .opened | .starting _ | .drained _ _ => .entering
  | .registering _ _ _ | .requeueing _ _ | .serving | .awaiting | .replying _ => .inside
  | .left => .outside

namespace Connection

def closed (connection : Connection) : Bool := connection.client.closeReason.isSome

def hasRoom (connection : Connection) : Bool :=
  decide (connection.client.send.length < sendBuffer)

/-- A handler pushed a frame, or none, and perhaps closed the connection or moved its
pool. -/
structure Touched (frame : Option Frame) (old new : Connection) : Prop where
  owner : new.owner = old.owner
  session : new.session = old.session
  closed : old.closed = true → new.closed = true
  send : new.client.send =
    if old.hasRoom then old.client.send ++ frame.toList else old.client.send

theorem session_blind : Blind Connection.session where
  push _ _ _ := rfl
  close _ _ := rfl
  repool _ _ := rfl

theorem Touched.refl (connection : Connection) : connection.Touched none connection :=
  ⟨rfl, rfl, id, by simp⟩

theorem Touched.enqueue (connection : Connection) (frame : Frame) :
    Touched (some frame) connection
      { connection with client := (connection.client.enqueue frame).1 } := by
  by_cases room : connection.client.send.length < sendBuffer
  · exact ⟨by simp [Client.enqueue, room], rfl, by simp [Connection.closed, Client.enqueue, room],
      by simp [hasRoom, Client.enqueue, room]⟩
  · exact ⟨by simp [Client.enqueue, room], rfl, by simp [Connection.closed, Client.enqueue, room],
      by simp [hasRoom, Client.enqueue, room]⟩

theorem closed_close (connection : Connection) (reason : String) :
    Connection.closed { connection with client := connection.client.close reason } = true := rfl

theorem Touched.close (connection : Connection) (reason : String) :
    Touched none connection
      { connection with client := connection.client.close reason } :=
  ⟨rfl, rfl, fun _ => rfl, by simp [Client.close]⟩

/-- Two handlers in a row that do not both push. -/
theorem Touched.trans {first second : Option Frame} {old middle new : Connection}
    (former : old.Touched first middle) (latter : middle.Touched second new)
    (single : first = none ∨ second = none) :
    old.Touched (first <|> second) new where
  owner := latter.owner.trans former.owner
  session := latter.session.trans former.session
  closed was := latter.closed (former.closed was)
  send := by
    rcases single with rfl | rfl
    · have same : middle.client.send = old.client.send := by simp [former.send]
      simp [latter.send, hasRoom, same]
    · simp [latter.send, former.send]

end Connection

/-- Every connection was touched, with the frame listed for it. -/
def Touches (frames : ConnID → Option Frame) (before after : List Connection) : Prop :=
  ∀ conn new, after[conn]? = some new →
    ∃ old : Connection, before[conn]? = some old ∧ old.Touched (frames conn) new

namespace Touches

variable {before middle after : List Connection} {frames others : ConnID → Option Frame}

theorem refl (connections : List Connection) : Touches (fun _ => none) connections connections :=
  fun _ new found => ⟨new, found, .refl new⟩

theorem of_set {conn : ConnID} {old new : Connection} {frame : Option Frame}
    (found : before[conn]? = some old) (touched : old.Touched frame new) :
    Touches (fun query => if query = conn then frame else none) before (before.set conn new) := by
  intro query result lookup
  rw [List.getElem?_set] at lookup
  split_ifs at lookup with same inside
  · cases lookup
    subst same
    exact ⟨old, found, by simpa using touched⟩
  · exact ⟨result, lookup, by simpa [Ne.symm same] using Connection.Touched.refl result⟩

theorem trans (former : Touches frames before middle) (latter : Touches others middle after)
    (single : ∀ conn, frames conn = none ∨ others conn = none) :
    Touches (fun conn => frames conn <|> others conn) before after := by
  intro conn new found
  obtain ⟨between, lookup, second⟩ := latter conn new found
  obtain ⟨old, present, first⟩ := former conn between lookup
  exact ⟨old, present, first.trans second (single conn)⟩

theorem after_silent (former : Touches (fun _ => none) before middle)
    (latter : Touches frames middle after) : Touches frames before after := by
  simpa using former.trans latter fun _ => .inl rfl

end Touches

namespace Daemon

variable (daemon : Daemon)

theorem push_touches (conn : ConnID) (frame : Frame) :
    Touches (fun query => if query = conn then some frame else none) daemon.connections
      (daemon.push conn frame).1.connections := by
  rw [push]
  split
  next absent =>
    intro query new found
    refine ⟨new, found, ?_⟩
    have other : query ≠ conn := by
      rintro rfl
      cases absent.symm.trans found
    simpa [other] using Connection.Touched.refl new
  next connection found => exact .of_set found (.enqueue connection frame)

theorem close_touches (conn : ConnID) (reason : String) :
    Touches (fun _ => none) daemon.connections (daemon.close conn reason).connections := by
  rw [close]
  split
  next => exact .refl _
  next connection found => simpa using Touches.of_set found (.close connection reason)

theorem close_closes {conn : ConnID} {reason : String} {new : Connection}
    (found : (daemon.close conn reason).connections[conn]? = some new) : new.closed = true := by
  rw [close] at found
  split at found
  next absent => cases absent.symm.trans found
  next connection present =>
    rw [List.getElem?_set_self (List.getElem?_eq_some_iff.mp present).1] at found
    cases found
    exact connection.closed_close reason

theorem enroll_closes {env : Env} {conn old : ConnID} {device : Device}
    {settings : RuntimeSettings} {now : Time} {new : Connection}
    (registered : daemon.hub.clients.get? device.id = some old)
    (found : (daemon.enroll env conn device settings now).connections[old]? = some new) :
    new.closed = true := by
  rw [enroll, registered] at found
  obtain ⟨between, present, touched⟩ := push_touches _ _ _ old new found
  exact touched.closed (daemon.close_closes present)

/-- The frame a connection gets from a presence broadcast. -/
def announceTo (entries : List (DeviceID × ConnID)) (exclude : DeviceID) (payload : Presence)
    (conn : ConnID) : Option Frame :=
  if entries.any fun entry => decide (entry.1 ≠ exclude ∧ entry.2 = conn) then
    some (.presence payload)
  else none

/-- No connection is registered twice. -/
theorem broadcast_touches (device : Device) (isOnline : Bool) (exclude : DeviceID)
    (entries : List (DeviceID × ConnID)) (distinct : (entries.map (·.2)).Nodup) :
    Touches (announceTo entries exclude ⟨device, isOnline⟩) daemon.connections
      (entries.foldl (fun current entry =>
        if entry.1 = exclude then current
        else (current.push entry.2 (.presence ⟨device, isOnline⟩)).1) daemon).connections := by
  induction entries generalizing daemon with
  | nil => exact .refl _
  | cons entry rest ih =>
      obtain ⟨fresh, restDistinct⟩ := List.nodup_cons.mp distinct
      rw [List.foldl_cons]
      by_cases excluded : entry.1 = exclude
      · rw [if_pos excluded]
        have same : announceTo (entry :: rest) exclude ⟨device, isOnline⟩ =
            announceTo rest exclude ⟨device, isOnline⟩ := by
          funext conn
          have skipped : decide (entry.1 ≠ exclude ∧ entry.2 = conn) = false := by simp [excluded]
          simp only [announceTo, List.any_cons, skipped, Bool.false_or]
        rw [same]
        exact ih daemon restDistinct
      · rw [if_neg excluded]
        have pushed := daemon.push_touches entry.2 (.presence ⟨device, isOnline⟩)
        have others := ih (daemon.push entry.2 (.presence ⟨device, isOnline⟩)).1 restDistinct
        have absent : announceTo rest exclude ⟨device, isOnline⟩ entry.2 = none := by
          rw [announceTo, if_neg]
          simp only [List.any_eq_true, decide_eq_true_eq, not_exists, not_and]
          intro other listed _ same
          exact fresh (List.mem_map.mpr ⟨other, listed, same⟩)
        have combined := pushed.trans others fun conn => by
          by_cases same : conn = entry.2
          · exact .inr (same ▸ absent)
          · exact .inl (if_neg same)
        have frames : announceTo (entry :: rest) exclude ⟨device, isOnline⟩ = fun conn =>
            (if conn = entry.2 then some (.presence ⟨device, isOnline⟩) else none) <|>
              announceTo rest exclude ⟨device, isOnline⟩ conn := by
          funext conn
          by_cases same : conn = entry.2
          · simp [announceTo, same, excluded]
          · have other : decide (entry.1 ≠ exclude ∧ entry.2 = conn) = false := by
              simp [Ne.symm same]
            simp only [announceTo, List.any_cons, other, Bool.false_or, if_neg same,
              Option.orElse_eq_orElse, Option.orElse_none]
        rw [frames]
        exact combined

theorem broadcastPresence_touches (device : Device) (isOnline : Bool) (exclude : DeviceID)
    (distinct : daemon.hub.clients.values.Nodup) :
    Touches (announceTo daemon.hub.clients.entries exclude ⟨device, isOnline⟩) daemon.connections
      (daemon.broadcastPresence device isOnline exclude).connections :=
  daemon.broadcast_touches device isOnline exclude _ distinct

variable {daemon} in
theorem handleUnregister_touches (conn : ConnID) (device : Device) (now : Time)
    (registered : daemon.hub.clients.get? device.id = some conn)
    (distinct : (daemon.hub.clients.erase device.id).values.Nodup) :
    Touches (announceTo (daemon.hub.clients.erase device.id).entries "" ⟨device, false⟩)
      daemon.connections (daemon.handleUnregister conn device now).connections := by
  rw [handleUnregister, if_pos registered]
  exact broadcastPresence_touches
    { daemon with
      store := daemon.store.updateLastSeen device.id now
      hub := { daemon.hub with
        clients := daemon.hub.clients.erase device.id }.pruneOnDemand device.id }
    device false "" distinct

/-- The daemon after an eviction, before the broadcast. -/
def evicted (conn : ConnID) (id : DeviceID) : Daemon :=
  { daemon.close conn "device deleted" with
    hub := { (daemon.close conn "device deleted").hub with
      clients := (daemon.close conn "device deleted").hub.clients.erase id }.pruneOnDemand id }

theorem handleEvict_eq {id : DeviceID} {conn : ConnID} {connection : Connection}
    (registered : daemon.hub.clients.get? id = some conn)
    (found : daemon.connections[conn]? = some connection) :
    daemon.handleEvict id =
      (daemon.evicted conn id).broadcastPresence connection.client.device false "" := by
  rw [handleEvict]
  simp only [registered, found]
  rfl

theorem handleEvict_cases (id : DeviceID) :
    daemon.handleEvict id = daemon ∨ ∃ conn connection,
      daemon.hub.clients.get? id = some conn ∧ daemon.connections[conn]? = some connection ∧
      (daemon.handleEvict id).hub.clients = daemon.hub.clients.erase id := by
  cases registered : daemon.hub.clients.get? id with
  | none =>
      left
      simp [handleEvict, registered]
  | some conn =>
      cases found : daemon.connections[conn]? with
      | none =>
          left
          simp [handleEvict, registered, found]
      | some connection =>
          right
          refine ⟨conn, connection, rfl, found, ?_⟩
          rw [daemon.handleEvict_eq registered found, broadcastPresence_hub, evicted, close_hub]
          rfl

theorem handleEvict_touches {id : DeviceID} {conn : ConnID} {connection : Connection}
    (registered : daemon.hub.clients.get? id = some conn)
    (found : daemon.connections[conn]? = some connection)
    (distinct : (daemon.hub.clients.erase id).values.Nodup) :
    Touches
      (announceTo (daemon.hub.clients.erase id).entries "" ⟨connection.client.device, false⟩)
      daemon.connections (daemon.handleEvict id).connections := by
  have clients : (daemon.evicted conn id).hub.clients = daemon.hub.clients.erase id := by
    rw [evicted, close_hub]
    rfl
  rw [daemon.handleEvict_eq registered found, ← clients]
  refine (daemon.close_touches conn "device deleted").after_silent ?_
  exact (daemon.evicted conn id).broadcastPresence_touches _ _ _ (clients ▸ distinct)

theorem handleEvict_closes {daemon : Daemon} {id : DeviceID} {conn : ConnID} {new : Connection}
    (distinct : (daemon.hub.clients.erase id).values.Nodup)
    (registered : daemon.hub.clients.get? id = some conn)
    (found : (daemon.handleEvict id).connections[conn]? = some new) : new.closed = true := by
  cases present : daemon.connections[conn]? with
  | none =>
      have same : daemon.handleEvict id = daemon := by simp [handleEvict, registered, present]
      rw [same, present] at found
      cases found
  | some connection =>
      have clients : (daemon.evicted conn id).hub.clients = daemon.hub.clients.erase id := by
        rw [evicted, close_hub]
        rfl
      rw [daemon.handleEvict_eq registered present] at found
      obtain ⟨between, closed, touched⟩ :=
        (daemon.evicted conn id).broadcastPresence_touches _ _ _ (clients ▸ distinct) conn new found
      exact touched.closed (daemon.close_closes closed)

theorem storePool_touches (env : Env) (device : Device) (pool : String)
    (distinct : daemon.hub.clients.values.Nodup) :
    Touches (announceTo daemon.hub.clients.entries "" ⟨{ device with pool }, true⟩)
      daemon.connections (daemon.storePool env device pool).connections := by
  rw [storePool]
  simp only
  split
  next =>
    exact broadcastPresence_touches
      { daemon with store := daemon.store.putDevice env.lib { device with pool } } _ _ _ distinct
  next conn _ =>
    split
    next =>
      exact broadcastPresence_touches
        { daemon with store := daemon.store.putDevice env.lib { device with pool } } _ _ _ distinct
    next connection found =>
      have moved : connection.Touched none
          { connection with
            client := { connection.client with
              device := { connection.client.device with pool } } } := ⟨rfl, rfl, id, by simp⟩
      have silent := Touches.of_set found moved
      simp only [ite_self] at silent
      refine silent.after_silent ?_
      exact broadcastPresence_touches
        { daemon with
          store := daemon.store.putDevice env.lib { device with pool }
          connections := daemon.connections.set conn
            { connection with
              client := { connection.client with
                device := { connection.client.device with pool } } } } _ _ _ distinct

end Daemon

/-! ## Steps -/

namespace Relay

/-- Each connection is registered for one device. -/
theorem Keyed.distinct {relay : Relay} (keyed : relay.Keyed) : relay.clients.values.Nodup := by
  have keys : relay.clients.entries.Pairwise fun left right => left.1 < right.1 :=
    relay.clients.sorted
  rw [OrderedMap.values, List.Nodup, List.pairwise_map]
  refine List.Pairwise.imp_of_mem (fun {left right} first second less same => ?_) keys
  have leftOwner := keyed left.1 left.2 (relay.clients.mem_entries_iff.mp first)
  have rightOwner := keyed right.1 right.2 (relay.clients.mem_entries_iff.mp second)
  rw [← same, leftOwner] at rightOwner
  exact less.ne (Option.some.inj rightOwner)

/-- What a step does to the registry, and the frames by which it tells clients.  A
client evicted as too slow is the one change nobody is told about. -/
inductive Announcement (relay after : Relay) : Action → (ConnID → Option Frame) → Prop where
  | quiet {action : Action} (same : after.clients = relay.clients) :
      Announcement relay after action fun _ => none
  | slow {now : Time} {source : Option ConnID} {event : ClipEvent} {settings : RuntimeSettings}
      {target : Device} {rest : List Device} {progress : Daemon.RouteProgress} {conn : ConnID}
      (task : relay.task = .routing source event settings (target :: rest) progress)
      (notOrigin : target.id ≠ event.originDevice)
      (registered : relay.clients.get? target.id = some conn)
      (full : ∀ connection, relay.connection? conn = some connection →
        connection.hasRoom = false)
      (erased : after.clients = relay.clients.erase target.id) :
      Announcement relay after (.routeDeliver now) fun _ => none
  | greeted {conn : ConnID} {now : Time} {connection : Connection} {hello : HelloOK}
      (found : relay.connection? conn = some connection)
      (entered : after.clients = relay.clients.put connection.owner conn)
      (roster : hello.roster = after.daemon.snapshot) (task : after.task = .registering conn) :
      Announcement relay after (.registerStart conn now) fun query =>
        if query = conn then some (.helloOK hello) else none
  | joined {conn : ConnID} {connection : Connection} (task : relay.task = .registering conn)
      (found : relay.connection? conn = some connection) (same : after.clients = relay.clients) :
      Announcement relay after .registerFinish
        (Daemon.announceTo after.clients.entries connection.owner ⟨connection.client.device, true⟩)
  | departed {conn : ConnID} {now : Time} {connection : Connection}
      (found : relay.connection? conn = some connection)
      (registered : relay.clients.get? connection.owner = some conn)
      (erased : after.clients = relay.clients.erase connection.owner) :
      Announcement relay after (.unregister conn now)
        (Daemon.announceTo after.clients.entries "" ⟨connection.client.device, false⟩)
  | evicted {id : DeviceID} {conn : ConnID} {connection : Connection}
      (registered : relay.clients.get? id = some conn)
      (found : relay.connection? conn = some connection)
      (erased : after.clients = relay.clients.erase id) :
      Announcement relay after (.evict id)
        (Daemon.announceTo after.clients.entries "" ⟨connection.client.device, false⟩)
  | moved {device : Device} {pool : String} (task : relay.task = .repooling device pool)
      (same : after.clients = relay.clients) :
      Announcement relay after .storePool
        (Daemon.announceTo after.clients.entries "" ⟨{ device with pool }, true⟩)

/-- The connection entered the registry's sight by this step. -/
def Entering (action : Action) (conn : ConnID) (old new : Connection) : Prop :=
  (∃ now, action = .registerStart conn now) ∧ old.session.phase = .entering ∧
    new.session.phase = .inside

/-- What a step does to one connection, given the frame it announces to it. -/
structure Evolves (action : Action) (conn : ConnID) (frame : Option Frame)
    (old new : Connection) : Prop where
  owner : new.owner = old.owner
  closed : old.closed = true → new.closed = true
  phase : new.session.phase = old.session.phase ∨ new.session.phase = .outside ∨
    Entering action conn old new
  announced : (new.client.send.drop old.client.send.length).filter Frame.announces =
    if old.hasRoom then frame.toList else []
  fifo : old.client.send <+: new.client.send ∨ new.client.send <:+ old.client.send

/-- A connection that a step opens. -/
def Opens (env : Env) (relay : Relay) (action : Action) (conn : ConnID) (new : Connection) : Prop :=
  relay.connection? conn = none ∧ ∃ id token device, action = .connect id token ∧
    validate env.hasher relay.daemon.store id token = some device ∧
    new = ⟨.new device, .opened, .ready⟩

/-- Every connection after a step was opened by it or evolved in it. -/
def ConnectionsFrom (env : Env) (relay after : Relay) (action : Action)
    (frames : ConnID → Option Frame) : Prop :=
  ∀ conn new, after.connection? conn = some new → Opens env relay action conn new ∨
    ∃ old, relay.connection? conn = some old ∧ Evolves action conn (frames conn) old new

section Steps

variable {env : Env} {relay after : Relay} {action : Action} {conn : ConnID}
variable {connection new : Connection} {frames pushed : ConnID → Option Frame}

theorem Evolves.refl (connection : Connection) : Evolves action conn none connection connection :=
  ⟨rfl, id, .inl rfl, by simp, .inl (List.prefix_refl _)⟩

/-- A handler on top of a move of the connection's own goroutine. -/
theorem Evolves.of_touched {moved : Connection} {frame told : Option Frame}
    (own : Evolves action conn none connection moved)
    (send : moved.client.send = connection.client.send) (touched : moved.Touched frame new)
    (tells : frame.toList.filter Frame.announces = told.toList) :
    Evolves action conn told connection new where
  owner := touched.owner.trans own.owner
  closed was := touched.closed (own.closed was)
  phase := by
    have phases := own.phase
    simpa only [Entering, ← touched.session] using phases
  announced := by
    rw [touched.send, Connection.hasRoom, Connection.hasRoom, send]
    split_ifs <;> simp [tells]
  fifo := by
    left
    rw [touched.send, send]
    split_ifs
    · exact List.prefix_append _ _
    · exact List.prefix_refl _

theorem connectionsFrom_of_set (found : relay.connection? conn = some connection)
    (evolves : Evolves action conn none connection new)
    (set : after.daemon.connections = relay.daemon.connections.set conn new) :
    ConnectionsFrom env relay after action fun _ => none := by
  intro query result lookup
  rw [connection?, set, List.getElem?_set] at lookup
  right
  split_ifs at lookup with same
  · cases lookup
    exact ⟨connection, same ▸ found, same ▸ evolves⟩
  · exact ⟨result, lookup, .refl result⟩

theorem connectionsFrom_of_touches (pushed : ConnID → Option Frame)
    (touches : Touches pushed relay.daemon.connections after.daemon.connections)
    (tells : ∀ conn, (pushed conn).toList.filter Frame.announces = (frames conn).toList) :
    ConnectionsFrom env relay after action frames := by
  intro query result lookup
  obtain ⟨old, found, touched⟩ := touches query result lookup
  exact .inr ⟨old, found, .of_touched (.refl old) rfl touched (tells query)⟩

theorem connectionsFrom_of_set_touches {moved : Connection}
    (found : relay.connection? conn = some connection)
    (own : Evolves action conn none connection moved)
    (send : moved.client.send = connection.client.send)
    (touches : Touches pushed (relay.daemon.connections.set conn moved) after.daemon.connections)
    (tells : ∀ conn, (pushed conn).toList.filter Frame.announces = (frames conn).toList) :
    ConnectionsFrom env relay after action frames := by
  intro query result lookup
  obtain ⟨between, present, touched⟩ := touches query result lookup
  rw [List.getElem?_set] at present
  right
  split_ifs at present with same
  · cases present
    subst same
    exact ⟨connection, found, own.of_touched send touched (tells conn)⟩
  · exact ⟨between, present, .of_touched (.refl between) rfl touched (tells query)⟩

theorem connectionsFrom_of_eq (same : after.daemon.connections = relay.daemon.connections) :
    ConnectionsFrom env relay after action fun _ => none := by
  intro query result lookup
  rw [connection?, same] at lookup
  exact .inr ⟨result, lookup, .refl result⟩

theorem tells_control {frame : Frame} (control : frame.announces = false) (target : ConnID) :
    ∀ query, ((fun conn => if conn = target then some frame else none) query).toList.filter
      Frame.announces = ((fun _ => none : ConnID → Option Frame) query).toList := by
  intro query
  by_cases same : query = target <;> simp [same, control]

theorem tells_announceTo (entries : List (DeviceID × ConnID)) (exclude : DeviceID)
    (payload : Presence) :
    ∀ query, (Daemon.announceTo entries exclude payload query).toList.filter Frame.announces =
      (Daemon.announceTo entries exclude payload query).toList := by
  intro query
  rw [Daemon.announceTo]
  split_ifs <;> simp [Frame.announces]

theorem Evolves.of_session {session : Session}
    (phase : session.phase = connection.session.phase ∨ session.phase = .outside) :
    Evolves action conn none connection { connection with session } :=
  ⟨rfl, id, phase.imp_right .inl, by simp, .inl (List.prefix_refl _)⟩

theorem Evolves.of_pump (pump : Pump) :
    Evolves action conn none connection { connection with pump } :=
  ⟨rfl, id, .inl rfl, by simp, .inl (List.prefix_refl _)⟩

/-- What a step tells and what it does to the connections. -/
def Told (env : Env) (relay : Relay) (action : Action) (after : Relay) : Prop :=
  ∃ frames, Announcement relay after action frames ∧ ConnectionsFrom env relay after action frames

theorem Told.of_eq (clients : after.clients = relay.clients)
    (same : after.daemon.connections = relay.daemon.connections) : Told env relay action after :=
  ⟨_, .quiet clients, connectionsFrom_of_eq same⟩

theorem Told.of_set (clients : after.clients = relay.clients)
    (found : relay.connection? conn = some connection)
    (evolves : Evolves action conn none connection new)
    (set : after.daemon.connections = relay.daemon.connections.set conn new) :
    Told env relay action after :=
  ⟨_, .quiet clients, connectionsFrom_of_set found evolves set⟩

theorem enroll_touches (env : Env) (conn : ConnID) (daemon : Daemon) (device : Device)
    (settings : RuntimeSettings) (now : Time) : ∃ hello : HelloOK,
      hello.roster = (daemon.enroll env conn device settings now).snapshot ∧
      Touches (fun query => if query = conn then some (.helloOK hello) else none)
        daemon.connections (daemon.enroll env conn device settings now).connections := by
  rw [Daemon.enroll]
  refine ⟨_, ?_, Touches.after_silent ?_ (Daemon.push_touches _ conn _)⟩
  · simp [Daemon.helloOK, Daemon.snapshot, Daemon.online]
  · split
    next old _ => exact daemon.close_touches old _
    next => exact .refl _

theorem registerStart_told {now : Time} (stepped : relay.registerStart env conn now = some after) :
    Told env relay (.registerStart conn now) after := by
  obtain ⟨connection, settings, items, idle, found, session, rfl⟩ := registerStart_some stepped
  obtain ⟨hello, roster, touches⟩ := enroll_touches env conn
    (relay.setSession conn connection (.registering settings items false)).daemon
    connection.client.device settings now
  refine ⟨_, .greeted found ?_ roster rfl, connectionsFrom_of_set_touches found ?_ ?_ touches ?_⟩
  · simp [clients, setSession, setConnection]
  · exact ⟨rfl, id, .inr (.inr ⟨⟨now, rfl⟩, by rw [session]; rfl, rfl⟩), by simp,
      .inl (List.prefix_refl _)⟩
  · rfl
  · intro query
    by_cases same : query = conn <;> simp [same, Frame.announces]

/-- The end of a registration announces the device to every other registered
client. -/
theorem registerFinish_joined (keyed : relay.Keyed) (stepped : relay.registerFinish = some after) :
    ∃ conn connection, relay.task = .registering conn ∧ relay.connection? conn = some connection ∧
      after.clients = relay.clients ∧ after.task = .idle ∧
      ConnectionsFrom env relay after .registerFinish
        (Daemon.announceTo after.clients.entries connection.owner
          ⟨connection.client.device, true⟩) := by
  obtain ⟨conn, connection, settings, rest, full, task, found, session, -, rfl⟩ :=
    registerFinish_some stepped
  have own : Evolves .registerFinish conn none connection
      { connection with session := .requeueing settings.queueDepthPerDevice rest } :=
    .of_session (.inl (by rw [session]; rfl))
  have touches := Daemon.broadcastPresence_touches
    (relay.setSession conn connection (.requeueing settings.queueDepthPerDevice rest)).daemon
    connection.client.device true connection.owner keyed.distinct
  refine ⟨conn, connection, task, found, by simp [clients, setSession, setConnection], rfl,
    connectionsFrom_of_set_touches found own rfl ?_ (tells_announceTo _ _ _)⟩
  rw [clients, Daemon.broadcastPresence_hub]
  exact touches

theorem registerFinish_told (keyed : relay.Keyed) (stepped : relay.registerFinish = some after) :
    Told env relay .registerFinish after := by
  obtain ⟨conn, connection, task, found, same, -, connections⟩ :=
    registerFinish_joined keyed stepped
  exact ⟨_, .joined task found same, connections⟩

/-- Erasing from the registry registers nobody twice. -/
theorem Keyed.distinct_erase (keyed : relay.Keyed) (id : DeviceID) :
    (relay.clients.erase id).values.Nodup :=
  keyed.distinct.sublist (List.filter_sublist.map _)

theorem unregister_told {now : Time} (keyed : relay.Keyed)
    (stepped : relay.unregister conn now = some after) :
    Told env relay (.unregister conn now) after := by
  obtain ⟨connection, idle, found, session, rfl⟩ := unregister_some stepped
  have own : Evolves (.unregister conn now) conn none connection
      { connection with session := .left } := .of_session (.inr rfl)
  have hub := Daemon.handleUnregister_hub
    (relay.setSession conn connection .left).daemon conn connection.client.device now
  by_cases registered :
      (relay.setSession conn connection .left).daemon.hub.clients.get? connection.owner = some conn
  · rw [if_pos registered] at hub
    have erased := congrArg Hub.clients hub
    refine ⟨_, .departed found registered erased,
      connectionsFrom_of_set_touches found own rfl ?_ (tells_announceTo _ _ _)⟩
    rw [clients, erased]
    exact Daemon.handleUnregister_touches _ _ _ registered (keyed.distinct_erase _)
  · rw [if_neg registered] at hub
    refine .of_set (congrArg Hub.clients hub) found own ?_
    rw [Daemon.handleUnregister, if_neg registered]
    rfl

theorem evict_told {id : DeviceID} (keyed : relay.Keyed) (stepped : relay.evict id = some after) :
    Told env relay (.evict id) after := by
  obtain ⟨idle, deleted, rfl⟩ := evict_some stepped
  rcases relay.daemon.handleEvict_cases id with same | ⟨conn, connection, registered, found, erased⟩
  · exact .of_eq (by rw [clients, same]) (by rw [same])
  · refine ⟨_, .evicted registered found erased,
      connectionsFrom_of_touches _ ?_ (tells_announceTo _ _ _)⟩
    rw [clients, erased]
    exact Daemon.handleEvict_touches _ registered found (keyed.distinct_erase id)

theorem storePool_told (keyed : relay.Keyed) (stepped : relay.storePool env = some after) :
    Told env relay .storePool after := by
  obtain ⟨device, pool, task, rfl⟩ := storePool_some stepped
  refine ⟨_, .moved task (by simp [clients]),
    connectionsFrom_of_touches _ ?_ (tells_announceTo _ _ _)⟩
  rw [clients, Daemon.storePool_hub]
  exact Daemon.storePool_touches _ _ _ _ keyed.distinct

theorem routeDeliver_told {now : Time} (stepped : relay.routeDeliver now = some after) :
    Told env relay (.routeDeliver now) after := by
  obtain ⟨source, event, settings, target, rest, progress, task, served, delivery, delivered,
    rfl⟩ := routeDeliver_some stepped
  rcases Daemon.deliverTo_cases _ _ delivered with
    ⟨-, -, rfl⟩ | ⟨-, conn, connection, -, found, room, -, rfl⟩ |
      ⟨notOrigin, base, ⟨-, rfl⟩ | ⟨conn, registered, full, rfl⟩, -, rfl⟩
  · exact .of_eq rfl rfl
  · have pushed : Evolves (.routeDeliver now) conn none connection
        { connection with
          client := { connection.client with
            send := connection.client.send ++ [.clip event.wire] } } :=
      ⟨rfl, id, .inl rfl, by simp [Frame.announces], .inl (List.prefix_append _ _)⟩
    exact .of_set rfl found pushed rfl
  · exact .of_eq rfl rfl
  · refine ⟨_, .slow task notOrigin registered (fun connection found => ?_) ?_,
      connectionsFrom_of_touches (fun _ => none) (Daemon.close_touches _ _ _) fun _ => rfl⟩
    · simpa [Connection.hasRoom] using full connection found
    · simp [clients, record, Hub.pruneOnDemand]

theorem unregister_session {now : Time} (found : relay.connection? conn = some connection)
    (lookup : ((relay.setSession conn connection .left).daemon.handleUnregister conn
      connection.client.device now).connections[conn]? = some new) : new.session = .left := by
  have sessions := Daemon.map_handleUnregister Connection.session_blind
    (relay.setSession conn connection .left).daemon conn connection.client.device now
  have single := congrArg (·[conn]?) sessions
  have inside := (List.getElem?_eq_some_iff.mp found).1
  simp only [List.getElem?_map, lookup, Option.map_some] at single
  simpa [setSession, setConnection, inside] using single

/-- One case analysis over all actions. -/
theorem told_of_step (keyed : relay.Keyed) (stepped : relay.step env action = some after) :
    Told env relay action after := by
  cases action with
  | registerStart conn now => exact registerStart_told stepped
  | registerFinish => exact registerFinish_told keyed stepped
  | unregister conn now => exact unregister_told keyed stepped
  | evict id => exact evict_told keyed stepped
  | storePool => exact storePool_told keyed stepped
  | routeDeliver now => exact routeDeliver_told stepped
  | connect id token =>
      obtain ⟨device, accepted, rfl⟩ := connect_some stepped
      refine ⟨_, .quiet rfl, fun conn new lookup => ?_⟩
      rcases getElem?_concat_cases lookup with earlier | ⟨rfl, rfl⟩
      · exact .inr ⟨new, earlier, .refl new⟩
      · exact .inl ⟨List.getElem?_eq_none le_rfl, id, token, device, rfl, accepted, rfl⟩
  | readSettings conn =>
      obtain ⟨connection, found, session, rfl⟩ := readSettings_some stepped
      exact .of_set rfl found (.of_session (.inl (by rw [session]; rfl))) rfl
  | drain conn =>
      obtain ⟨connection, settings, found, session, rfl⟩ := drain_some stepped
      exact .of_set rfl found (.of_session (.inl (by rw [session]; rfl))) rfl
  | requeue conn =>
      obtain ⟨connection, depth, item, rest, found, session, rfl⟩ := requeue_some stepped
      exact .of_set rfl found (.of_session (.inl (by rw [session]; rfl))) rfl
  | registerReturn conn =>
      obtain ⟨connection, depth, found, session, rfl⟩ := registerReturn_some stepped
      exact .of_set rfl found (.of_session (.inl (by rw [session]; rfl))) rfl
  | sendToken conn token =>
      obtain ⟨connection, -, -, rfl⟩ := sendToken_some stepped
      exact ⟨_, .quiet (by simp [clients]), connectionsFrom_of_touches _
        (Daemon.push_touches _ _ _) (tells_control rfl conn)⟩
  | ack conn =>
      obtain ⟨connection, payload, found, session, rfl⟩ := ack_some stepped
      have own : Evolves (.ack conn) conn none connection { connection with session := .serving } :=
        .of_session (.inl (by rw [session]; rfl))
      exact ⟨_, .quiet (by simp [clients, setSession, setConnection]),
        connectionsFrom_of_set_touches found own rfl (Daemon.push_touches _ _ _)
          (tells_control rfl conn)⟩
  | registerDeliver =>
      obtain ⟨conn, connection, settings, item, rest, -, found, session, ⟨-, rfl⟩ | ⟨-, rfl⟩⟩ :=
        registerDeliver_some stepped
      · have pushed : Evolves .registerDeliver conn none connection
            { connection with
              client := { connection.client with
                send := connection.client.send ++ [.clip item.event] }
              session := .registering settings rest false } :=
          ⟨rfl, id, .inl (by rw [session]; rfl), by simp [Frame.announces],
            .inl (List.prefix_append _ _)⟩
        exact .of_set rfl found pushed rfl
      · exact .of_set rfl found (.of_session (.inl (by rw [session]; rfl))) rfl
  | receiveClip conn event now =>
      obtain ⟨connection, -, found, session, ⟨payload, rfl⟩ | ⟨-, rfl⟩⟩ :=
        receiveClip_some stepped
      · exact .of_set rfl found (.of_session (.inl (by rw [session]; rfl))) rfl
      · exact .of_set rfl found (.of_session (.inl (by rw [session]; rfl))) rfl
  | routeBroadcast index =>
      obtain ⟨event, -, -, rfl | ⟨-, rfl⟩⟩ := routeBroadcast_some stepped
      · exact .of_eq rfl rfl
      · exact .of_eq rfl rfl
  | routePrepare now =>
      obtain ⟨source, event, settings, -, rfl⟩ := routePrepare_some stepped
      exact .of_eq (claimBlob_clients ..) (Daemon.prepareRoute_connections ..)
  | routeFinish =>
      obtain ⟨source, event, settings, progress, -, rfl | ⟨conn, connection, payload, -, found,
        session, rfl⟩⟩ := routeFinish_some stepped
      · exact .of_eq rfl rfl
      · exact .of_set rfl found (.of_session (.inl (by rw [session]; rfl))) rfl
  | setPool conn pool =>
      obtain ⟨-, rfl | ⟨connection, device, -, -, rfl⟩⟩ := setPool_some stepped
      · exact .of_eq rfl rfl
      · exact .of_eq rfl rfl
  | requestBlob blob =>
      rw [requestBlob_some stepped]
      rw [Daemon.handleBlobRequest]
      split
      next => exact .of_eq rfl rfl
      next =>
        split
        next => exact .of_eq rfl rfl
        next conn _ =>
          exact ⟨_, .quiet (by simp [clients]), connectionsFrom_of_touches _
            (Daemon.push_touches _ _ _) (tells_control rfl conn)⟩
  | takeFrame conn =>
      obtain ⟨connection, frame, rest, found, -, send, rfl⟩ := takeFrame_some stepped
      have taken : Evolves (.takeFrame conn) conn none connection
          { connection with
            client := { connection.client with send := rest }
            pump := .writing frame } :=
        ⟨rfl, id, .inl rfl, by simp [send, List.drop_eq_nil_of_le],
          .inr (send ▸ List.suffix_cons frame rest)⟩
      exact .of_set rfl found taken rfl
  | wroteFrame conn =>
      obtain ⟨connection, frame, found, -, rfl⟩ := wroteFrame_some stepped
      exact .of_set rfl found (.of_pump _) rfl
  | writeError conn =>
      obtain ⟨connection, frame, found, -, rfl⟩ := writeError_some stepped
      exact .of_set rfl found (.of_pump _) rfl
  | stopPump conn =>
      obtain ⟨connection, found, -, rfl⟩ := stopPump_some stepped
      exact .of_set rfl found (.of_pump _) rfl
  | refreshSettings index =>
      obtain ⟨settings, -, rfl⟩ := refreshSettings_some stepped
      exact .of_eq rfl rfl
  | broadcast id text now =>
      rw [broadcast_some stepped]
      exact .of_eq rfl rfl
  | claimPairing code suffix name platform token now =>
      rw [claimPairing_some stepped]
      exact .of_eq rfl rfl
  | rotateToken op =>
      obtain ⟨store, rfl, -⟩ := rotateToken_some stepped
      exact .of_eq rfl rfl
  | touchBlob blob now size mime =>
      obtain ⟨-, rfl⟩ := touchBlob_some stepped
      exact .of_eq rfl rfl
  | deleteDevice | putSettings | loadSettings | putPairing | purgePairing | purgeQueues
  | collectBlob =>
      cases stepped
      exact .of_eq rfl rfl

/-- A connection that a step takes out of the registry is closed, or its goroutine
has ended. -/
theorem departed_closed (keyed : relay.Keyed) (stepped : relay.step env action = some after)
    {id : DeviceID} (registered : relay.clients.get? id = some conn)
    (departed : after.clients.get? id ≠ some conn) (found : after.connection? conn = some new) :
    new.closed = true ∨ new.session.phase = .outside := by
  have change := (effect_of_step stepped).registry
  generalize result : after.clients = clients at change departed
  cases change with
  | keep => exact absurd registered departed
  | @enter entering now connection _ present =>
      left
      rw [OrderedMap.get?_put] at departed
      split_ifs at departed with same
      · obtain ⟨connection', settings, items, -, present', -, rfl⟩ := registerStart_some stepped
        cases present.symm.trans present'
        subst same
        exact Daemon.enroll_closes
          (relay.setSession entering connection (.registering settings items false)).daemon
          registered found
      · exact absurd registered departed
  | @leave leaving now connection _ present current =>
      right
      rw [OrderedMap.get?_erase] at departed
      split_ifs at departed with same
      · subst same
        cases registered.symm.trans current
        obtain ⟨connection', -, present', -, rfl⟩ := unregister_some stepped
        cases present.symm.trans present'
        rw [unregister_session present found]
        rfl
      · exact absurd registered departed
  | @evict device _ deleted =>
      left
      rw [OrderedMap.get?_erase] at departed
      split_ifs at departed with same
      · subst same
        obtain ⟨-, -, rfl⟩ := evict_some stepped
        exact Daemon.handleEvict_closes (keyed.distinct_erase _) registered found
      · exact absurd registered departed
  | slow task _ current =>
      left
      rw [OrderedMap.get?_erase] at departed
      split_ifs at departed with same
      · subst same
        cases registered.symm.trans current
        obtain ⟨source, event, settings, target, rest, progress, routing, served, delivery,
          delivered, rfl⟩ := routeDeliver_some stepped
        cases task.symm.trans routing
        rcases Daemon.deliverTo_cases _ _ delivered with
          ⟨-, -, rfl⟩ | ⟨-, other, connection, -, -, -, -, rfl⟩ |
            ⟨-, base, ⟨offline, rfl⟩ | ⟨other, current', -, rfl⟩, -, rfl⟩
        · exact absurd (result ▸ registered) (by simp)
        · exact absurd (result ▸ registered) (by simp)
        · cases registered.symm.trans offline
        · cases registered.symm.trans current'
          exact Daemon.close_closes _ found
      · exact absurd registered departed

end Steps

end Relay

/-! ## Frames put into channels -/

namespace Relay

/-- The send channel of a connection. -/
def channel (relay : Relay) (conn : ConnID) : List Frame :=
  match relay.connection? conn with
  | some connection => connection.client.send
  | none => []

theorem channel_of_connection {relay : Relay} {conn : ConnID} {connection : Connection}
    (found : relay.connection? conn = some connection) :
    relay.channel conn = connection.client.send := by
  rw [channel, found]

end Relay

/-- The server with what was ever put into each channel, and whether the channel was
ever full. -/
structure Watch where
  relay : Relay
  sent : ConnID → List Frame
  filled : ConnID → Bool

namespace Watch

/-- Nothing is connected yet. -/
def start (relay : Relay) : Watch := ⟨relay, fun _ => [], fun _ => false⟩

def observe (watch : Watch) (after : Relay) : Watch where
  relay := after
  sent conn := watch.sent conn ++ (after.channel conn).drop (watch.relay.channel conn).length
  filled conn := watch.filled conn || decide (sendBuffer ≤ (after.channel conn).length)

end Watch

end CopySync.Server
