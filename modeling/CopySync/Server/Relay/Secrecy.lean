import CopySync.Server.Relay.Effect

/-!
# Enforced encryption and clips already inside

With end-to-end encryption enforced, plaintext is refused on ingest.  The check is
made nowhere else: a clip that was queued before the switch is drained, pushed and
re-persisted as it is.  Apart from draining such clips, nothing in plaintext is
pushed or stored as long as the enforcement stays on.
-/

namespace CopySync.Server

open Foundation

/-- The event of the route in progress. -/
def Task.event? : Task → Option ClipEvent
  | .admitted _ event _ => some event
  | .routing _ event _ _ _ => some event
  | _ => none

namespace Relay

/-- The settings snapshot enforces end-to-end encryption. -/
def enforced (relay : Relay) : Bool := relay.daemon.hub.settings.e2eEnabled

/-- No plaintext clip is in the hands of a `Register` call or being routed. -/
def ciphered (relay : Relay) : Bool :=
  relay.daemon.connections.all
      (fun connection => (connection.session.hand ++ connection.session.tail).all
        fun item => !item.event.isPlaintext) &&
    relay.task.event?.all fun event => !event.isPlaintext

/-- A queue is drained only when it holds no plaintext clip. -/
def drainsCiphered (relay : Relay) : Action → Bool
  | .drain conn =>
      (relay.connection? conn).all fun connection =>
        (relay.daemon.store.queueOf connection.owner).all fun item => !item.event.isPlaintext
  | _ => true

/-- What `ciphered` says about the route in progress and every mailbox. -/
structure Ciphered (relay : Relay) : Prop where
  mailboxes : ∀ id, (relay.mailbox id).Clean fun event => event.isPlaintext = false
  task : ∀ event ∈ relay.task.event?, event.isPlaintext = false

theorem ciphered_sound {relay : Relay} (checked : relay.ciphered = true) : relay.Ciphered := by
  simp only [ciphered, Bool.and_eq_true, List.all_eq_true, Bool.not_eq_true'] at checked
  obtain ⟨connections, task⟩ := checked
  constructor
  · intro id
    simp only [Mailbox.Clean, mailbox, List.forall_mem_map]
    intro connection present event held
    by_cases mine : connection.owner = id
    · rw [Connection.linkFor_eq mine] at held
      simp only [Connection.link, ← List.map_append, List.mem_map] at held
      obtain ⟨item, membership, rfl⟩ := held
      exact connections connection present item membership
    · rw [Connection.linkFor_of_ne mine] at held
      cases held
  · intro event routed
    rw [Option.mem_def.mp routed] at task
    simpa using task

section Steps

variable {env : Env} {relay after : Relay} {action : Action}

/-- Under enforcement, whatever the hub starts to route is not plaintext. -/
theorem Ciphered.task_step (inv : relay.Ciphered) (on : relay.enforced = true)
    (effect : Effect relay action after) :
    ∀ event ∈ after.task.event?, event.isPlaintext = false := by
  have change := effect.task
  generalize after.task = task at change
  cases change with
  | keep => exact inv.task
  | finish | register | repool => simp [Task.event?]
  | ingest _ passes =>
      intro event routed
      cases routed
      simpa [Daemon.refuses, show relay.daemon.hub.settings.e2eEnabled = true from on] using passes
  | prepare task _ | deliver task =>
      intro event routed
      cases routed
      exact inv.task _ (by rw [task]; rfl)

/-- The mailboxes accept only what is being routed, and drain no plaintext. -/
theorem Ciphered.takes (inv : relay.Ciphered) (safe : relay.drainsCiphered action = true)
    (id : DeviceID) :
    ∀ event ∈ (relay.mailbox id).taken (relay.move id action), event.isPlaintext = false := by
  intro event membership
  rcases List.mem_append.mp membership with accepted | drained
  · obtain ⟨source, routed, settings, target, rest, progress, task, -, rfl⟩ :=
      routing_of_accepts accepted
    rw [ClipEvent.isPlaintext_wire]
    exact inv.task routed (by rw [task]; rfl)
  · split at drained
    next conn drains =>
      obtain ⟨rfl, mine⟩ := owner_of_drains drains
      obtain ⟨connection, found, owner⟩ := (Option.any_eq_true _ _).mp mine
      have checked : ∀ item ∈ relay.daemon.store.queueOf id, item.event.isPlaintext = false := by
        simpa [drainsCiphered, found, of_decide_eq_true owner] using safe
      obtain ⟨item, queued, rfl⟩ := List.mem_map.mp drained
      exact checked item queued
    next => cases drained

end Steps

/-- The facts say of no plaintext clip that it entered a send channel or an offline
queue. -/
def NoPlaintext (facts : List Fact) : Prop :=
  ∀ id event, .clip .pushed id event ∈ facts ∨ .clip .stored id event ∈ facts →
    event.isPlaintext = false

theorem NoPlaintext.append {first second : List Fact} (left : NoPlaintext first)
    (right : NoPlaintext second) : NoPlaintext (first ++ second) := by
  intro id event placed
  simp only [List.mem_append] at placed
  rcases placed with (inFirst | inSecond) | inFirst | inSecond
  · exact left id event (.inl inFirst)
  · exact right id event (.inl inSecond)
  · exact left id event (.inr inFirst)
  · exact right id event (.inr inSecond)

section Steps

variable {env : Env} {relay after : Relay} {action : Action}

/-- Mailboxes that place no plaintext say so in the log. -/
theorem noPlaintext_of_places {facts : List Fact} (log : after.log = relay.log ++ facts)
    (places : ∀ id, (relay.mailbox id).Places (fun event => event.isPlaintext = false)
      (after.mailbox id)) : NoPlaintext facts := by
  intro id event placed
  obtain ⟨⟨pushed, pushedLog, pushedGood⟩, stored, storedLog, storedGood⟩ := places id
  simp only [mailbox, log, history_append, List.append_cancel_left_eq] at pushedLog storedLog
  rcases placed with membership | membership
  · exact pushedGood event (pushedLog ▸ mem_history.mpr membership)
  · exact storedGood event (storedLog ▸ mem_history.mpr membership)

theorem Ciphered.step (inv : relay.Ciphered) (on : relay.enforced = true) (keyed : relay.Keyed)
    (safe : relay.drainsCiphered action = true) (stepped : relay.step env action = some after) :
    after.Ciphered ∧ ∃ facts, after.log = relay.log ++ facts ∧ NoPlaintext facts := by
  have effect := effect_of_step stepped
  have moved := fun id => (inv.mailboxes id).step (inv.takes safe id) (mailbox_step keyed stepped)
  obtain ⟨facts, log⟩ := effect.log
  exact ⟨⟨fun id => (moved id).1, inv.task_step on effect⟩, facts, log,
    noPlaintext_of_places log fun id => (moved id).2⟩

end Steps

/-- From any state reached, as long as enforcement stays on and no plaintext is
routed, held or drained, no plaintext clip enters a send channel or a queue. -/
theorem no_plaintext_placed {env : Env} {store : Store} {start relay : Relay}
    (reached : Reachable (Relay.step env) (Relay.boot store) start)
    (clean : start.ciphered = true)
    (run : Run (Relay.step env)
      (fun before action => (before.enforced && before.drainsCiphered action) = true) start relay) :
    ∃ facts, relay.log = start.log ++ facts ∧ NoPlaintext facts := by
  have keyed : start.Keyed :=
    reached.invariant (Keyed.boot store) fun keyed _ stepped => keyed.step stepped
  have inv : relay.Keyed ∧ relay.Ciphered ∧
      ∃ facts, relay.log = start.log ++ facts ∧ NoPlaintext facts := by
    apply run.invariant
    · exact ⟨keyed, ciphered_sound clean, [], by simp, by simp [NoPlaintext]⟩
    · rintro before after action ⟨keyed, inv, facts, log, noPlaintext⟩ admitted stepped
      obtain ⟨on, safe⟩ := Bool.and_eq_true_iff.mp admitted
      obtain ⟨continued, more, grown, clean⟩ := inv.step on keyed safe stepped
      exact ⟨keyed.step stepped, continued, facts ++ more, by rw [grown, log, List.append_assoc],
        noPlaintext.append clean⟩
  exact inv.2.2

/-- A text for the second device is queued while it is away, the server switches
encryption on, and the device connects. -/
def switchRun : List Action :=
  Action.pair "a" "laptop" ++ Action.pair "b" "phone" ++ Action.bringUp "a" 0 ++
    Action.sendClip 0 (.text "c1" "secret") 2 ++
    [.putSettings { RuntimeSettings.default with e2eEnabled := true }, .loadSettings,
      .refreshSettings 0]

/-- The text as the hub relays it. -/
def relayedText : ClipEvent := { ClipEvent.text "c1" "secret" with originDevice := "dev_a" }

/-- The queued text is pushed in plaintext under enforced encryption. -/
theorem queued_plaintext_pushed :
    ¬∀ (env : Env) (start relay : Relay),
      Reachable (Relay.step env) (Relay.boot .empty) start →
      Run (Relay.step env) (fun before _ => before.enforced = true) start relay →
      ∃ facts, relay.log = start.log ++ facts ∧ NoPlaintext facts := by
  intro claim
  obtain ⟨start, reached, continues⟩ := Reachable.exists_of_exec
    (Relay.step demoEnv) (Relay.boot .empty) switchRun
    (fun start => (execWhen (Relay.step demoEnv) (fun before _ => before.enforced) start
      [.connect "dev_b" "b", .readSettings 1, .drain 1, .registerStart 1 3,
        .registerDeliver]).any fun (relay : Relay) =>
          decide (relay.log = start.log ++ [Fact.clip .pushed "dev_b" relayedText]))
    (by decide +kernel)
  obtain ⟨relay, run, log⟩ := Run.exists_of_execWhen _ _ _ _ _ continues
  obtain ⟨facts, same, noPlaintext⟩ := claim demoEnv start relay reached run
  rw [of_decide_eq_true log, List.append_cancel_left_eq] at same
  have hidden := noPlaintext _ _ (.inl (same ▸ List.mem_singleton_self _))
  exact absurd hidden (by decide)

/-- An encrypted clip. -/
def sealedText : ClipEvent :=
  { ClipEvent.text "c2" "b64" with enc := some ⟨"aes-256-gcm", "k", ""⟩ }

/-- With nothing in plaintext inside, an encrypted clip is relayed after the
switch. -/
theorem encrypted_clip_pushed :
    ∃ start relay, Reachable (Relay.step demoEnv) (Relay.boot .empty) start ∧
      Run (Relay.step demoEnv)
        (fun before action => (before.enforced && before.drainsCiphered action) = true)
        start relay ∧
      (history .pushed "dev_b" relay.log).map (·.id) = ["c1", "c2"] ∧
      ∃ facts, relay.log = start.log ++ facts ∧ NoPlaintext facts := by
  obtain ⟨start, reached, checked⟩ := Reachable.exists_of_exec
    (Relay.step demoEnv) (Relay.boot .empty)
    (Action.bothUp ++ Action.sendClip 0 (.text "c1" "secret") 2 ++
      [.putSettings { RuntimeSettings.default with e2eEnabled := true }, .loadSettings,
        .refreshSettings 0])
    (fun start => start.ciphered && (execWhen (Relay.step demoEnv)
      (fun before action => before.enforced && before.drainsCiphered action) start
      (Action.sendClip 0 sealedText 2)).any fun relay =>
        decide ((history .pushed "dev_b" relay.log).map (·.id) = ["c1", "c2"]))
    (by decide +kernel)
  obtain ⟨clean, continues⟩ := Bool.and_eq_true_iff.mp checked
  obtain ⟨relay, run, pushed⟩ := Run.exists_of_execWhen _ _ _ _ _ continues
  exact ⟨start, relay, reached, run, of_decide_eq_true pushed,
    no_plaintext_placed reached clean run⟩

end Relay

end CopySync.Server
