import CopySync.Server.Relay.Conservation

/-!
# Clips are pushed in the order of acceptance

A clip on its way to a device passes the offline queue, the hand of a registering
connection and a send channel.  Each hand-over keeps the order by itself; the order
breaks when a clip is routed to the device between two of them.  The condition names
these moments, and under it what was pushed is a subsequence of what was accepted.
-/

namespace CopySync.Server.Relay

open Foundation

/-- No connection of the device holds drained clips. -/
def handsFree (relay : Relay) (id : DeviceID) : Bool :=
  relay.daemon.connections.all fun connection =>
    decide (connection.owner ≠ id) ||
      (connection.session.hand.isEmpty && connection.session.tail.isEmpty)

/-- No clip is routed to a device while a `Register` call of it holds drained clips,
none is pushed past a non-empty queue, and no queue is drained while an earlier
`Register` call still holds what it drained. -/
def inOrder (relay : Relay) : Action → Bool
  | .drain conn =>
      (relay.connection? conn).all fun connection => relay.handsFree connection.owner
  | .routeDeliver _ =>
      match relay.task with
      | .routing _ event _ (target :: _) _ =>
          decide (target.id = event.originDevice) ||
            (relay.handsFree target.id &&
              ((relay.clients.get? target.id).all (fun conn => !relay.hasRoom conn) ||
                (relay.daemon.store.queueOf target.id).isEmpty))
      | _ => true
  | _ => true

section Steps

variable {env : Env} {relay after : Relay} {action : Action} {id : DeviceID}

theorem mailbox_handsFree (free : relay.handsFree id = true) : (relay.mailbox id).HandsFree := by
  intro link membership
  obtain ⟨connection, present, rfl⟩ := List.mem_map.mp membership
  have vacant := List.all_eq_true.mp free connection present
  by_cases mine : connection.owner = id
  · rw [Connection.linkFor_eq mine]
    simpa [mine, Connection.link] using vacant
  · rw [Connection.linkFor_of_ne mine]
    exact ⟨rfl, rfl⟩

/-- The condition on the relay is the mailbox's condition on its moves. -/
theorem orderSafe_of_inOrder (safe : relay.inOrder action = true)
    (stepped : relay.step env action = some after) :
    (relay.mailbox id).OrderSafe (relay.move id action) := by
  cases action with
  | drain conn =>
      obtain ⟨connection, settings, found, -, -⟩ := drain_some stepped
      simp only [move, owns_iff found]
      split_ifs with mine
      · exact mailbox_handsFree (by simpa [inOrder, found, mine] using safe)
      · trivial
  | routeDeliver now =>
      obtain ⟨source, event, settings, target, rest, progress, task, served, delivery,
        delivered, -⟩ := routeDeliver_some stepped
      simp only [move, task, delivered]
      simp only [inOrder, task, Bool.or_eq_true, decide_eq_true_eq, Bool.and_eq_true] at safe
      split_ifs with mine
      · subst mine
        rcases Daemon.deliverTo_cases _ _ delivered with
          ⟨-, rfl, -⟩ | ⟨notOrigin, conn, connection, registered, found, room, rfl, -⟩ |
            ⟨notOrigin, base, -, rfl, -⟩
        · trivial
        · obtain ⟨free, vacant⟩ := safe.resolve_left notOrigin
          have hasRoom : relay.hasRoom conn = true := by
            simpa [hasRoom, connection?, found] using room
          refine ⟨?_, mailbox_handsFree free⟩
          simpa [registered, hasRoom, mailbox] using vacant
        · exact mailbox_handsFree (safe.resolve_left notOrigin).1
      · trivial
  | requeue conn | takeFrame conn | wroteFrame conn | writeError conn =>
      simp only [move]
      split_ifs <;> trivial
  | registerDeliver =>
      simp only [move]
      repeat' split
      all_goals trivial
  | _ => trivial

end Steps

theorem ordered_boot (id : DeviceID) : ((Relay.boot .empty).mailbox id).Ordered := by
  refine ⟨0, [], [], ⟨?_, by simp, .inl rfl, .inl rfl, ?_⟩⟩
  · simp [Mailbox.HeldBy, mailbox, Relay.boot, Daemon.boot]
  · simp [mailbox, Relay.boot, Daemon.boot]

/-- In every run whose steps keep to the condition, the clips put into the send
channels of a device are in the order in which they were accepted for it. -/
theorem pushed_in_order {env : Env} {relay : Relay}
    (run : Run (Relay.step env) (fun before action => before.inOrder action = true)
      (Relay.boot .empty) relay) (id : DeviceID) :
    (history .pushed id relay.log).Sublist (history .accepted id relay.log) := by
  have inv : relay.Keyed ∧ (relay.mailbox id).Ordered := by
    apply run.invariant
    · exact ⟨Keyed.boot .empty, ordered_boot id⟩
    · rintro before after action ⟨keyed, ordered⟩ safe stepped
      exact ⟨keyed.step stepped,
        ordered.step (orderSafe_of_inOrder safe stepped) (mailbox_step keyed stepped)⟩
  exact inv.2.pushed_sublist

/-- Two devices are paired and the first is connected. -/
def senderUp : List Action :=
  Action.pair "a" "laptop" ++ Action.pair "b" "phone" ++ Action.bringUp "a" 0

/-- A clip routed between the drain and the registration of the second device is
queued; a later clip is pushed at once and arrives first. -/
theorem live_clip_overtakes :
    ¬∀ (env : Env) (relay : Relay), Reachable (Relay.step env) (Relay.boot .empty) relay →
      ∀ id, (history .pushed id relay.log).Sublist (history .accepted id relay.log) := by
  intro claim
  obtain ⟨relay, reachable, checked⟩ := Reachable.exists_of_exec
    (Relay.step demoEnv) (Relay.boot .empty)
    (senderUp ++ [.connect "dev_b" "b", .readSettings 1, .drain 1] ++
      Action.sendClip 0 (.text "c1" "first") 2 ++
      [.registerStart 1 3, .registerFinish, .registerReturn 1] ++
      Action.sendClip 0 (.text "c2" "second") 2 ++
      [.unregister 1 4, .connect "dev_b" "b", .readSettings 2, .drain 2, .registerStart 2 5,
        .registerDeliver])
    (fun relay => decide (¬(history .pushed "dev_b" relay.log).Sublist
      (history .accepted "dev_b" relay.log)))
    (by decide +kernel)
  exact of_decide_eq_true checked (claim demoEnv relay reachable "dev_b")

/-- A clip queued while the second device is away and one sent afterwards. -/
theorem queued_clip_precedes_live :
    ∃ relay, Run (Relay.step demoEnv) (fun before action => before.inOrder action = true)
      (Relay.boot .empty) relay ∧
      (history .pushed "dev_b" relay.log).map (·.id) = ["c1", "c2"] ∧
      (history .pushed "dev_b" relay.log).Sublist (history .accepted "dev_b" relay.log) := by
  obtain ⟨relay, run, checked⟩ := Run.exists_of_execWhen
    (Relay.step demoEnv) Relay.inOrder (Relay.boot .empty)
    (senderUp ++ Action.sendClip 0 (.text "c1" "first") 2 ++
      [.connect "dev_b" "b", .readSettings 1, .drain 1, .registerStart 1 3, .registerDeliver,
        .registerFinish, .registerReturn 1] ++
      Action.sendClip 0 (.text "c2" "second") 2)
    (fun relay => decide ((history .pushed "dev_b" relay.log).map (·.id) = ["c1", "c2"]))
    (by decide +kernel)
  exact ⟨relay, run, of_decide_eq_true checked, pushed_in_order run "dev_b"⟩

end CopySync.Server.Relay
