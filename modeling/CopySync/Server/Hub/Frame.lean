import CopySync.Server.Hub.Handlers

/-!
# What the handlers leave alone

Most of what a handler does to connections is pushing control frames and setting
close flags.  An observation of connections that does not see these is unchanged by
every handler that routes no clip.  Frames for the store and the hub's maps are
stated per handler.
-/

namespace CopySync.Server

open Foundation

/-- Replacing an element by one that looks the same changes no observation. -/
theorem map_set_of_eq {α β : Type} {f : α → β} {list : List α} {index : Nat} {old new : α}
    (found : list[index]? = some old) (same : f new = f old) :
    (list.set index new).map f = list.map f := by
  apply List.ext_getElem?
  intro query
  rw [List.map_set, List.getElem?_set]
  split_ifs with equal inside
  · subst equal
    simp [found, same]
  · subst equal
    have bound := (List.getElem?_eq_some_iff.mp found).1
    exact absurd (by simpa using bound) inside
  · rfl

/-- Observations that see neither control frames, nor close flags, nor pools. -/
structure Blind {β : Type} (f : Connection → β) : Prop where
  push : ∀ connection frame, Frame.clip? frame = none →
    f { connection with client := (connection.client.enqueue frame).1 } = f connection
  close : ∀ connection reason,
    f { connection with client := connection.client.close reason } = f connection
  repool : ∀ connection pool,
    f { connection with client := { connection.client with
      device := { connection.client.device with pool } } } = f connection

theorem Client.enqueue_device (client : Client) (frame : Frame) :
    (client.enqueue frame).1.device = client.device := by
  rw [Client.enqueue]
  split_ifs <;> rfl

/-- The device a connection belongs to. -/
abbrev Connection.owner (connection : Connection) : DeviceID := connection.client.device.id

theorem Connection.owner_blind : Blind Connection.owner where
  push connection frame _ := congrArg Device.id (connection.client.enqueue_device frame)
  close _ _ := rfl
  repool _ _ := rfl

namespace Daemon

section Store

variable (daemon : Daemon) (conn : ConnID) (frame : Frame) (reason : String)

@[simp] theorem push_store : (daemon.push conn frame).1.store = daemon.store := by
  rw [push]
  split <;> rfl

@[simp] theorem push_hub : (daemon.push conn frame).1.hub = daemon.hub := by
  rw [push]
  split <;> rfl

@[simp] theorem close_store : (daemon.close conn reason).store = daemon.store := by
  rw [close]
  split <;> rfl

@[simp] theorem close_hub : (daemon.close conn reason).hub = daemon.hub := by
  rw [close]
  split <;> rfl

end Store

/-- A property of daemons kept by pushes is kept by a presence broadcast. -/
theorem broadcastPresence_induction (holds : Daemon → Prop) {daemon : Daemon}
    (device : Device) (online : Bool) (exclude : DeviceID) (start : holds daemon)
    (push : ∀ current conn, holds current →
      holds (current.push conn (.presence ⟨device, online⟩)).1) :
    holds (daemon.broadcastPresence device online exclude) := by
  rw [broadcastPresence]
  generalize daemon.hub.clients.entries = entries
  induction entries generalizing daemon with
  | nil => exact start
  | cons entry rest ih =>
      rw [List.foldl_cons]
      apply ih
      split_ifs
      · exact start
      · exact push daemon entry.2 start

section Broadcast

variable (daemon : Daemon) (device : Device) (isOnline : Bool) (exclude : DeviceID)

@[simp] theorem broadcastPresence_store :
    (daemon.broadcastPresence device isOnline exclude).store = daemon.store :=
  broadcastPresence_induction (fun current => current.store = daemon.store)
    device isOnline exclude rfl fun current conn same => by rw [push_store, same]

@[simp] theorem broadcastPresence_hub :
    (daemon.broadcastPresence device isOnline exclude).hub = daemon.hub :=
  broadcastPresence_induction (fun current => current.hub = daemon.hub)
    device isOnline exclude rfl fun current conn same => by rw [push_hub, same]

end Broadcast

/-! ## Observations of connections -/

section Observe

variable {β : Type} {f : Connection → β} (blind : Blind f) (daemon : Daemon)

include blind

theorem map_push (conn : ConnID) {frame : Frame} (control : frame.clip? = none) :
    (daemon.push conn frame).1.connections.map f = daemon.connections.map f := by
  rw [push]
  split
  next => rfl
  next connection found => exact map_set_of_eq found (blind.push connection frame control)

theorem map_close (conn : ConnID) (reason : String) :
    (daemon.close conn reason).connections.map f = daemon.connections.map f := by
  rw [close]
  split
  next => rfl
  next connection found => exact map_set_of_eq found (blind.close connection reason)

theorem map_broadcastPresence (device : Device) (isOnline : Bool) (exclude : DeviceID) :
    (daemon.broadcastPresence device isOnline exclude).connections.map f =
      daemon.connections.map f :=
  broadcastPresence_induction
    (fun current => current.connections.map f = daemon.connections.map f)
    device isOnline exclude rfl fun current conn same => by
      rw [map_push blind current conn rfl, same]

theorem map_handleBlobRequest (id : BlobID) :
    (daemon.handleBlobRequest id).1.connections.map f = daemon.connections.map f := by
  rw [handleBlobRequest]
  split
  next => rfl
  next =>
    split
    next => rfl
    next conn _ => exact map_push blind daemon conn rfl

theorem map_evictSlow (id : DeviceID) (conn : ConnID) :
    (daemon.evictSlow id conn).connections.map f = daemon.connections.map f :=
  map_close blind daemon conn _

theorem map_enroll (env : Env) (conn : ConnID) (device : Device) (settings : RuntimeSettings)
    (now : Time) :
    (daemon.enroll env conn device settings now).connections.map f =
      daemon.connections.map f := by
  rw [enroll]
  rw [map_push blind _ conn rfl]
  split
  next old _ => exact map_close blind daemon old _
  next => rfl

theorem map_handleUnregister (conn : ConnID) (device : Device) (now : Time) :
    (daemon.handleUnregister conn device now).connections.map f =
      daemon.connections.map f := by
  rw [handleUnregister]
  split
  next => exact map_broadcastPresence blind _ device false ""
  next => rfl

theorem map_handleEvict (id : DeviceID) :
    (daemon.handleEvict id).connections.map f = daemon.connections.map f := by
  rw [handleEvict]
  split
  next => rfl
  next conn _ =>
    split
    next => rfl
    next =>
      rw [map_broadcastPresence blind]
      exact map_close blind daemon conn _

theorem map_storePool (env : Env) (device : Device) (pool : String) :
    (daemon.storePool env device pool).connections.map f = daemon.connections.map f := by
  rw [storePool]
  rw [map_broadcastPresence blind]
  split
  next => rfl
  next conn _ =>
    split
    next => rfl
    next connection found => exact map_set_of_eq found (blind.repool connection pool)

end Observe

/-! ## Stores and hubs after a handler -/

section Effects

variable (env : Env) (daemon : Daemon) (conn : ConnID) (device : Device) (now : Time)

@[simp] theorem enroll_store (settings : RuntimeSettings) :
    (daemon.enroll env conn device settings now).store =
      daemon.store.updateLastSeen device.id now := by
  rw [enroll]
  split <;> simp

@[simp] theorem enroll_hub (settings : RuntimeSettings) :
    (daemon.enroll env conn device settings now).hub =
      { daemon.hub with clients := daemon.hub.clients.put device.id conn } := by
  rw [enroll]
  split <;> simp

theorem handleUnregister_store :
    (daemon.handleUnregister conn device now).store = daemon.store ∨
      (daemon.handleUnregister conn device now).store =
        daemon.store.updateLastSeen device.id now := by
  rw [handleUnregister]
  split
  next => exact .inr (by simp)
  next => exact .inl rfl

theorem handleUnregister_hub :
    (daemon.handleUnregister conn device now).hub =
      if daemon.hub.clients.get? device.id = some conn then
        { daemon.hub with
          clients := daemon.hub.clients.erase device.id }.pruneOnDemand device.id
      else daemon.hub := by
  rw [handleUnregister]
  split <;> simp

@[simp] theorem handleEvict_store (id : DeviceID) :
    (daemon.handleEvict id).store = daemon.store := by
  rw [handleEvict]
  split
  next => rfl
  next => split <;> simp

theorem handleEvict_hub (id : DeviceID) :
    (daemon.handleEvict id).hub = daemon.hub ∨
      (daemon.handleEvict id).hub =
        { daemon.hub with clients := daemon.hub.clients.erase id }.pruneOnDemand id := by
  rw [handleEvict]
  split
  next => exact .inl rfl
  next =>
    split
    next => exact .inl rfl
    next => exact .inr (by simp)

@[simp] theorem handleBlobRequest_store (id : BlobID) :
    (daemon.handleBlobRequest id).1.store = daemon.store := by
  rw [handleBlobRequest]
  split
  next => rfl
  next => split <;> simp

@[simp] theorem handleBlobRequest_hub (id : BlobID) :
    (daemon.handleBlobRequest id).1.hub = daemon.hub := by
  rw [handleBlobRequest]
  split
  next => rfl
  next => split <;> simp

@[simp] theorem storePool_store (pool : String) :
    (daemon.storePool env device pool).store =
      daemon.store.putDevice env.lib { device with pool } := by
  rw [storePool]
  rw [broadcastPresence_store]
  split
  next => rfl
  next => split <;> rfl

@[simp] theorem storePool_hub (pool : String) :
    (daemon.storePool env device pool).hub = daemon.hub := by
  rw [storePool]
  rw [broadcastPresence_hub]
  split
  next => rfl
  next => split <;> rfl

@[simp] theorem evictSlow_store (id : DeviceID) :
    (daemon.evictSlow id conn).store = daemon.store := by
  simp [evictSlow]

@[simp] theorem evictSlow_hub (id : DeviceID) :
    (daemon.evictSlow id conn).hub =
      { daemon.hub with clients := daemon.hub.clients.erase id }.pruneOnDemand id := by
  simp [evictSlow]

theorem claimBlob_queues (event : ClipEvent) (targets : List Device) :
    (daemon.claimBlob event targets).store.queues = daemon.store.queues := by
  rw [claimBlob]
  split_ifs <;> rfl

theorem claimBlob_connections (event : ClipEvent) (targets : List Device) :
    (daemon.claimBlob event targets).connections = daemon.connections := by
  rw [claimBlob]
  split_ifs <;> rfl

theorem prepareRoute_queues (event : ClipEvent) (settings : RuntimeSettings) :
    (daemon.prepareRoute env event settings now).1.store.queues = daemon.store.queues :=
  claimBlob_queues ..

theorem prepareRoute_connections (event : ClipEvent) (settings : RuntimeSettings) :
    (daemon.prepareRoute env event settings now).1.connections = daemon.connections :=
  claimBlob_connections ..

/-- A push either fits, and appends the frame, or changes nothing. -/
theorem push_cases (frame : Frame) :
    (∃ connection, daemon.connections[conn]? = some connection ∧
      connection.client.send.length < sendBuffer ∧
      daemon.push conn frame =
        ({ daemon with
            connections := daemon.connections.set conn
              { connection with
                client := { connection.client with
                  send := connection.client.send ++ [frame] } } }, true)) ∨
    (∀ connection, daemon.connections[conn]? = some connection →
      ¬connection.client.send.length < sendBuffer) ∧
      (daemon.push conn frame).2 = false := by
  rw [push]
  cases daemon.connections[conn]? with
  | none =>
      right
      constructor
      · intro connection absent
        cases absent
      · exact rfl
  | some connection =>
      by_cases room : connection.client.send.length < sendBuffer
      · left
        refine ⟨connection, rfl, room, ?_⟩
        simp only [Client.enqueue, if_pos room]
      · right
        constructor
        · intro other same
          cases same
          exact room
        · simp only [Client.enqueue, if_neg room]

/-- The three ways one target is served: skipped as the origin, pushed to a
registered connection with room, or queued, after evicting a registered connection
without room. -/
theorem deliverTo_cases {served : Daemon} {delivery : Delivery} {event : ClipEvent}
    {depth : Int} {target : Device}
    (delivered : daemon.deliverTo event depth now target = (served, delivery)) :
    (target.id = event.originDevice ∧ delivery = .skipped ∧ served = daemon) ∨
    (target.id ≠ event.originDevice ∧ ∃ conn connection,
      daemon.hub.clients.get? target.id = some conn ∧
      daemon.connections[conn]? = some connection ∧
      connection.client.send.length < sendBuffer ∧ delivery = .relayed conn ∧
      served = { daemon with
        connections := daemon.connections.set conn
          { connection with
            client := { connection.client with
              send := connection.client.send ++ [.clip event.wire] } } }) ∨
    (target.id ≠ event.originDevice ∧ ∃ base : Daemon,
      (daemon.hub.clients.get? target.id = none ∧ base = daemon ∨
        ∃ conn, daemon.hub.clients.get? target.id = some conn ∧
          (∀ connection, daemon.connections[conn]? = some connection →
            ¬connection.client.send.length < sendBuffer) ∧
          base = daemon.evictSlow target.id conn) ∧
      delivery = .queued (daemon.store.enqueue target.id ⟨event.wire, now⟩ depth).2 ∧
      served = { base with
        store := (daemon.store.enqueue target.id ⟨event.wire, now⟩ depth).1 }) := by
  rw [deliverTo] at delivered
  split_ifs at delivered with echo
  · cases delivered
    exact .inl ⟨echo, rfl, rfl⟩
  · split at delivered
    next conn lookup =>
      rcases daemon.push_cases conn (.clip event.wire) with
        ⟨connection, found, room, pushed⟩ | ⟨full, refused⟩
      · simp only [pushed, if_true] at delivered
        cases delivered
        exact .inr (.inl ⟨echo, conn, connection, lookup, found, room, rfl, rfl⟩)
      · simp only [refused, Bool.false_eq_true, if_false, enqueue, evictSlow_store] at delivered
        cases delivered
        exact .inr (.inr ⟨echo, _, .inr ⟨conn, lookup, full, rfl⟩, rfl, rfl⟩)
    next lookup =>
      simp only [enqueue] at delivered
      cases delivered
      exact .inr (.inr ⟨echo, daemon, .inl ⟨lookup, rfl⟩, rfl, rfl⟩)

end Effects

end Daemon

end CopySync.Server
