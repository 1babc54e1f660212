import CopySync.Server.Relay.Effect

/-!
# No clip is lost between the queue and the socket

Clips are conserved: every clip accepted for a device is written, discarded, failed
in a write, queued, or held by one of its connections.  The property asks for more,
that nothing is held once the device has neither a registered connection nor a
`Register` call in progress.  The code does not ensure it: frames in the send
channel of a connection that leaves the registry are dropped with it.  They are
exactly what stands between the code and the property.
-/

namespace CopySync.Server.Relay

open Foundation

/-- The device has no registered connection and no `Register` call in progress. -/
def Quiet (relay : Relay) (id : DeviceID) : Prop :=
  relay.clients.get? id = none ∧
    ∀ connection ∈ relay.daemon.connections, connection.owner = id →
      connection.session.inRegister = false

instance (relay : Relay) (id : DeviceID) : Decidable (relay.Quiet id) :=
  inferInstanceAs (Decidable (_ ∧ _))

/-- Every clip accepted for the device was written to one of its sockets, is in its
offline queue, or was discarded by the depth trim or the queue TTL; or the device
itself was deleted. -/
def Delivered (relay : Relay) (id : DeviceID) : Prop :=
  .deleted id ∈ relay.log ∨
    (history .accepted id relay.log).Perm
      (history .written id relay.log ++ history .discarded id relay.log ++
        (relay.daemon.store.queueOf id).map (·.event))

instance (relay : Relay) (id : DeviceID) : Decidable (relay.Delivered id) :=
  inferInstanceAs (Decidable (_ ∨ _))

/-- Nothing in a connection's channel or in-flight write is a clip. -/
def flushed (relay : Relay) (conn : ConnID) : Bool :=
  (relay.connection? conn).all fun connection => connection.link.unwritten.isEmpty

def hasRoom (relay : Relay) (conn : ConnID) : Bool :=
  (relay.connection? conn).any fun connection =>
    decide (connection.client.send.length < sendBuffer)

/-- A connection leaves the registry (replaced, unregistered, or evicted as too slow)
only when it has no clip left to write, and no write of a clip fails. -/
def lossFree (relay : Relay) : Action → Bool
  | .registerStart conn _ =>
      (relay.connection? conn).all fun connection =>
        (relay.clients.get? connection.owner).all relay.flushed
  | .unregister conn _ =>
      (relay.connection? conn).all fun connection =>
        decide (relay.clients.get? connection.owner ≠ some conn) || relay.flushed conn
  | .routeDeliver _ =>
      match relay.task with
      | .routing _ event _ (target :: _) _ =>
          decide (target.id = event.originDevice) ||
            (relay.clients.get? target.id).all fun conn => relay.hasRoom conn || relay.flushed conn
      | _ => true
  | .writeError conn => !relay.writesClip conn
  | _ => true

/-- What conservation rests on.  `current` and `pending` say who may hold unwritten
clips: only the connection the registry names. -/
structure Accounted (relay : Relay) : Prop where
  keyed : relay.Keyed
  conserved : ∀ id, (relay.mailbox id).Conserved
  lossless : ∀ id, (relay.mailbox id).lost = []
  deleting : ∀ id ∈ relay.deleting, .deleted id ∈ relay.log
  current : ∀ conn, relay.task = .registering conn →
    ∃ id, relay.owners[conn]? = some id ∧ relay.clients.get? id = some conn
  pending : ∀ id, .deleted id ∈ relay.log ∨
    ∀ conn link, (relay.mailbox id).links[conn]? = some link → link.unwritten ≠ [] →
      relay.clients.get? id = some conn

/-- Under the condition no write of a clip fails. -/
theorem move_ne_fail {relay : Relay} {action : Action} {id : DeviceID}
    (safe : relay.lossFree action = true) (link : Nat) : relay.move id action ≠ .fail link := by
  intro fails
  cases action with
  | writeError conn =>
      have control : relay.writesClip conn = false := by simpa [lossFree] using safe
      simp [move, control] at fails
  | drain conn | requeue conn | takeFrame conn | wroteFrame conn =>
      simp only [move] at fails
      split_ifs at fails
  | registerDeliver | routeDeliver now =>
      simp only [move] at fails
      repeat' split at fails
      all_goals cases fails
  | _ => cases fails

namespace Accounted

variable {env : Env} {relay after : Relay} {action : Action}

theorem boot : (Relay.boot .empty).Accounted where
  keyed := Keyed.boot .empty
  conserved id := by simp [mailbox, Relay.boot, Daemon.boot, Mailbox.Conserved]
  lossless _ := rfl
  deleting := by simp [Relay.boot]
  current := by simp [Relay.boot]
  pending _ := .inr (by simp [mailbox, Relay.boot, Daemon.boot])

/-- A fed connection is the registered one. -/
theorem feeds_registered (inv : relay.Accounted) (stepped : relay.step env action = some after)
    {id : DeviceID} {conn : ConnID} (feeds : Mailbox.Feeds conn (relay.move id action)) :
    after.clients.get? id = some conn := by
  cases action with
  | registerDeliver =>
      obtain ⟨target, connection, settings, item, rest, task, found, session, outcome⟩ :=
        registerDeliver_some stepped
      obtain ⟨owner, owned, registered⟩ := inv.current target task
      have same : after.clients = relay.clients := by
        rcases outcome with ⟨-, rfl⟩ | ⟨-, rfl⟩ <;> rfl
      simp only [move, task, owns_iff found] at feeds
      split_ifs at feeds with mine fits
      · cases feeds
        cases (owner_of_connection found).symm.trans owned
        rw [same, ← mine, registered]
      all_goals exact False.elim feeds
  | routeDeliver now =>
      obtain ⟨source, event, settings, target, rest, progress, task, served, delivery,
        delivered, result⟩ := routeDeliver_some stepped
      simp only [move, task, delivered] at feeds
      rcases Daemon.deliverTo_cases _ _ delivered with
        ⟨-, rfl, -⟩ | ⟨-, pushed, connection, registered, -, -, rfl, rfl⟩ | ⟨-, base, -, rfl, -⟩
      · split_ifs at feeds <;> exact False.elim feeds
      · split_ifs at feeds with mine
        · cases feeds
          rw [result, ← mine]
          exact registered
        · exact False.elim feeds
      · split_ifs at feeds <;> exact False.elim feeds
  | drain conn | requeue conn | takeFrame conn | wroteFrame conn | writeError conn =>
      simp only [move] at feeds
      split_ifs at feeds <;> exact False.elim feeds
  | _ => exact False.elim feeds

theorem not_flushed {conn : ConnID} {connection : Connection}
    (found : relay.connection? conn = some connection)
    (pending : connection.link.unwritten ≠ []) : relay.flushed conn = false := by
  simpa [flushed, found] using pending

/-- A connection with clips to write that was registered still is: leaving the
registry needs a flushed connection or a deleted device. -/
theorem registered_kept (inv : relay.Accounted) (safe : relay.lossFree action = true)
    (effect : Effect relay action after) {id : DeviceID} {conn : ConnID}
    (pending : relay.flushed conn = false) (registered : relay.clients.get? id = some conn) :
    .deleted id ∈ relay.log ∨ after.clients.get? id = some conn := by
  have change := effect.registry
  generalize after.clients = newClients at change ⊢
  cases change with
  | keep => exact .inr registered
  | enter idle found =>
      rw [OrderedMap.get?_put]
      split_ifs with same
      · subst same
        simp [lossFree, found, registered, pending] at safe
      · exact .inr registered
  | leave idle found leaving =>
      rw [OrderedMap.get?_erase]
      split_ifs with same
      · subst same
        cases registered.symm.trans leaving
        simp [lossFree, found, registered, pending] at safe
      · exact .inr registered
  | @evict device idle deleted =>
      rw [OrderedMap.get?_erase]
      split_ifs with same
      · exact .inl (same ▸ inv.deleting device deleted)
      · exact .inr registered
  | @slow _ _ _ _ target _ _ slowConn task notOrigin slowRegistered full =>
      rw [OrderedMap.get?_erase]
      split_ifs with same
      · subst same
        cases registered.symm.trans slowRegistered
        have noRoom : relay.hasRoom conn = false := by
          cases found : relay.connection? conn with
          | none => simp [hasRoom, found]
          | some connection => simpa [hasRoom, found] using full connection found
        simp [lossFree, task, notOrigin, registered, pending, noRoom] at safe
      · exact .inr registered

/-- Only registered connections have clips to write. -/
theorem pending_step (inv : relay.Accounted) (safe : relay.lossFree action = true)
    (stepped : relay.step env action = some after) (id : DeviceID) :
    .deleted id ∈ after.log ∨
      ∀ conn link, (after.mailbox id).links[conn]? = some link → link.unwritten ≠ [] →
        after.clients.get? id = some conn := by
  have effect := effect_of_step stepped
  by_cases deleted : .deleted id ∈ after.log
  · exact .inl deleted
  · refine .inr fun conn link lookup pending => ?_
    have alive : .deleted id ∉ relay.log := fun recorded => deleted (effect.fact_kept recorded)
    rcases (mailbox_step inv.keyed stepped).unwritten_origin lookup pending with
      ⟨before, beforeLookup, beforePending⟩ | feeds
    · have registered := (inv.pending id).resolve_left alive conn before beforeLookup beforePending
      obtain ⟨connection, found, mine⟩ : ∃ connection, relay.connection? conn = some connection ∧
          connection.linkFor id = before := by
        simpa [mailbox, connection?] using beforeLookup
      have owner : connection.owner = id := Option.some.inj
        ((owner_of_connection found).symm.trans (inv.keyed id conn registered))
      rw [Connection.linkFor_eq owner] at mine
      subst mine
      exact (inv.registered_kept safe effect (not_flushed found beforePending)
        registered).resolve_left alive
    · exact inv.feeds_registered stepped feeds

theorem step (inv : relay.Accounted) (safe : relay.lossFree action = true)
    (stepped : relay.step env action = some after) : after.Accounted where
  keyed := inv.keyed.step stepped
  conserved id := (inv.conserved id).step (mailbox_step inv.keyed stepped)
  lossless id := by
    rw [(mailbox_step inv.keyed stepped).lost_eq (move_ne_fail safe), inv.lossless id]
  deleting id membership := by
    have effect := effect_of_step stepped
    rcases effect.deleting id membership with old | rfl
    · exact effect.fact_kept (inv.deleting id old)
    · cases stepped
      simp [deleteDevice, record]
  current := Current.step inv.current (effect_of_step stepped)
  pending := inv.pending_step safe stepped

end Accounted

/-- A quiet device whose connections have nothing to write holds no clip. -/
theorem Quiet.items_eq_nil {relay : Relay} {id : DeviceID} (quiet : relay.Quiet id)
    (written : ∀ (conn : ConnID) (link : Link ClipEvent),
      (relay.mailbox id).links[conn]? = some link → link.unwritten = []) :
    (relay.mailbox id).links.flatMap Link.items = [] := by
  rw [List.flatMap_eq_nil_iff]
  intro link membership
  obtain ⟨conn, lookup⟩ := List.mem_iff_getElem?.mp membership
  have flushed := written conn link lookup
  obtain ⟨connection, present, rfl⟩ := List.mem_map.mp membership
  by_cases mine : connection.owner = id
  · have outside := quiet.2 connection present mine
    obtain ⟨hand, tail⟩ := Session.held_of_not_inRegister outside
    rw [Connection.linkFor_eq mine] at flushed ⊢
    have nothing : connection.link.hand = [] ∧ connection.link.tail = [] := by
      simp [Connection.link, hand, tail]
    rw [Link.items, List.append_assoc, ← Link.unwritten, flushed, nothing.1, nothing.2]
    rfl
  · rw [Connection.linkFor_of_ne mine]
    rfl

/-- In every run whose steps lose nothing, a device without a registered connection
and without a `Register` call in progress has every accepted clip accounted for. -/
theorem delivered_of_quiet {env : Env} {relay : Relay}
    (run : Run (Relay.step env) (fun before action => before.lossFree action = true)
      (Relay.boot .empty) relay) {id : DeviceID} (quiet : relay.Quiet id) :
    relay.Delivered id := by
  have inv : relay.Accounted := run.invariant Accounted.boot Accounted.step
  rcases inv.pending id with deleted | pending
  · exact .inl deleted
  · right
    have links := quiet.items_eq_nil fun conn link lookup => by
      by_contra unwritten
      cases quiet.1.symm.trans (pending conn link lookup unwritten)
    have conserved := inv.conserved id
    rw [Mailbox.Conserved, links, inv.lossless id] at conserved
    simpa [mailbox] using conserved

/-! ## A clip lost, and a clip delivered -/

/-- Two devices connect, and the first sends a text to the second. -/
def textRun : List Action :=
  Action.pair "a" "laptop" ++ Action.pair "b" "phone" ++ Action.bringUp "a" 0 ++
    Action.bringUp "b" 1 ++ Action.sendClip 0 (.text "c1" "hello") 2

/-- The second device disconnects before its write pump takes the frame. -/
theorem clip_lost_on_unregister :
    ¬∀ (env : Env) (relay : Relay), Reachable (Relay.step env) (Relay.boot .empty) relay →
      ∀ id, relay.Quiet id → relay.Delivered id := by
  intro claim
  obtain ⟨relay, reachable, checked⟩ := Reachable.exists_of_exec
    (Relay.step demoEnv) (Relay.boot .empty) (textRun ++ [.unregister 1 3])
    (fun relay => decide (relay.Quiet "dev_b" ∧ ¬relay.Delivered "dev_b"))
    (by decide +kernel)
  obtain ⟨quiet, undelivered⟩ := of_decide_eq_true checked
  exact undelivered (claim demoEnv relay reachable "dev_b" quiet)

/-- It disconnects after the frame has been written. -/
theorem clip_delivered_before_unregister :
    ∃ relay, Run (Relay.step demoEnv) (fun before action => before.lossFree action = true)
      (Relay.boot .empty) relay ∧ relay.Quiet "dev_b" ∧
      (history .accepted "dev_b" relay.log).length = 1 ∧ relay.Delivered "dev_b" := by
  obtain ⟨relay, run, checked⟩ := Run.exists_of_execWhen
    (Relay.step demoEnv) Relay.lossFree (Relay.boot .empty)
    (textRun ++ [.takeFrame 1, .wroteFrame 1, .takeFrame 1, .wroteFrame 1, .unregister 1 3])
    (fun relay => decide (relay.Quiet "dev_b" ∧
      (history .accepted "dev_b" relay.log).length = 1))
    (by decide +kernel)
  obtain ⟨quiet, accepted⟩ := of_decide_eq_true checked
  exact ⟨relay, run, quiet, accepted, delivered_of_quiet run quiet⟩

end CopySync.Server.Relay
