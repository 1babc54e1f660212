import CopySync.Foundation.Mailbox
import CopySync.Server.Hub.Frame
import CopySync.Server.Relay.Inversion

/-!
# The relay refines a mailbox per device

For every device the relay is read as a mailbox: the device's offline queue, what
each of its connections holds, and the history of its clips.  Every step of the
relay is one move of that mailbox, most of them the idle move.
-/

namespace CopySync.Server

open Foundation

/-! ## Reading a connection as a link -/

namespace Connection

/-- The clips a connection holds, by where it holds them. -/
def link (connection : Connection) : Link ClipEvent where
  hand := connection.session.hand.map (·.event)
  tail := connection.session.tail.map (·.event)
  channel := clipsOf connection.client.send
  inFlight := connection.pump.inFlight.bind Frame.clip?

/-- The connection as a link of one device; connections of other devices are empty
links, so that link numbers are connection numbers. -/
def linkFor (id : DeviceID) (connection : Connection) : Link ClipEvent :=
  if connection.owner = id then connection.link else .empty

theorem linkFor_of_ne {id : DeviceID} {connection : Connection}
    (different : connection.owner ≠ id) : connection.linkFor id = .empty := by
  simp [linkFor, different]

theorem linkFor_eq {id : DeviceID} {connection : Connection} (mine : connection.owner = id) :
    connection.linkFor id = connection.link := by
  simp [linkFor, mine]

theorem linkFor_congr {left right : Connection} (id : DeviceID)
    (owner : left.owner = right.owner) (link : left.link = right.link) :
    left.linkFor id = right.linkFor id := by
  simp [linkFor, owner, link]

theorem inFlight_of_writing {connection : Connection} {frame : Frame} {event : ClipEvent}
    (writing : connection.pump = .writing frame) (carried : frame.clip? = some event) :
    connection.link.inFlight = some event := by
  simp [link, writing, carried]

end Connection

theorem clipsOf_enqueue {client : Client} {frame : Frame} (control : frame.clip? = none) :
    clipsOf (client.enqueue frame).1.send = clipsOf client.send := by
  rw [Client.enqueue]
  split_ifs
  · simp [clipsOf, control]
  · rfl

theorem Connection.link_blind : Blind Connection.link where
  push connection frame control := by
    simp [Connection.link, clipsOf_enqueue control]
  close _ _ := rfl
  repool _ _ := rfl

theorem Connection.linkFor_blind (id : DeviceID) : Blind (Connection.linkFor id) where
  push connection frame control :=
    Connection.linkFor_congr id (Connection.owner_blind.push connection frame control)
      (Connection.link_blind.push connection frame control)
  close _ _ := rfl
  repool _ _ := rfl

/-! ## Histories -/

/-- The clips of one device that reached a stage, in order. -/
def history (stage : Stage) (id : DeviceID) (log : List Fact) : List ClipEvent :=
  log.filterMap fun fact =>
    match fact with
    | .clip reached who event => if reached = stage ∧ who = id then some event else none
    | _ => none

section History

variable (stage reached : Stage) (id who : DeviceID) (event : ClipEvent)

@[simp] theorem history_nil : history stage id [] = [] := rfl

@[simp] theorem history_append (left right : List Fact) :
    history stage id (left ++ right) = history stage id left ++ history stage id right := by
  simp [history]

@[simp] theorem history_cons_clip (rest : List Fact) :
    history stage id (.clip reached who event :: rest) =
      if reached = stage ∧ who = id then event :: history stage id rest
      else history stage id rest := by
  simp only [history, List.filterMap_cons]
  split_ifs <;> rfl

@[simp] theorem history_cons_routed (targets : List Device) (claimed : Bool)
    (rest : List Fact) :
    history stage id (.routed event targets claimed :: rest) = history stage id rest := rfl

@[simp] theorem history_cons_deleted (rest : List Fact) :
    history stage id (.deleted who :: rest) = history stage id rest := rfl

@[simp] theorem history_cons_collected (blob : BlobID) (rest : List Fact) :
    history stage id (.collected blob :: rest) = history stage id rest := rfl

theorem history_flatMap {α : Type} (list : List α) (facts : α → List Fact) :
    history stage id (list.flatMap facts) =
      list.flatMap fun item => history stage id (facts item) := by
  induction list with
  | nil => rfl
  | cons head rest ih => simp [ih]

@[simp] theorem history_trimmedFacts (items : List QueueItem) :
    history stage id (Relay.trimmedFacts who items) =
      if .discarded = stage ∧ who = id then items.map (·.event) else [] := by
  induction items with
  | nil => simp [Relay.trimmedFacts]
  | cons item rest ih =>
      simp only [Relay.trimmedFacts, List.map_cons, history_cons_clip] at ih ⊢
      split_ifs with same
      · simpa [same] using ih
      · simpa [same] using ih

@[simp] theorem history_clipFact (frame : Frame) :
    history stage id (Relay.clipFact reached who frame) =
      if reached = stage ∧ who = id then frame.clip?.toList else [] := by
  rw [Relay.clipFact]
  cases frame.clip? <;> simp

theorem mem_history {stage : Stage} {id : DeviceID} {event : ClipEvent} {log : List Fact} :
    event ∈ history stage id log ↔ .clip stage id event ∈ log := by
  simp only [history, List.mem_filterMap]
  constructor
  · rintro ⟨fact, membership, selected⟩
    split at selected
    · split_ifs at selected with same
      obtain ⟨rfl, rfl⟩ := same
      cases selected
      exact membership
    · cases selected
  · intro membership
    exact ⟨_, membership, by simp⟩

end History

/-! ## Reading the relay as a mailbox -/

namespace Relay

def mailbox (relay : Relay) (id : DeviceID) : Mailbox ClipEvent where
  queue := (relay.daemon.store.queueOf id).map (·.event)
  links := relay.daemon.connections.map (Connection.linkFor id)
  accepted := history .accepted id relay.log
  pushed := history .pushed id relay.log
  stored := history .stored id relay.log
  written := history .written id relay.log
  discarded := history .discarded id relay.log
  lost := history .failed id relay.log

/-- Registered connections belong to the device they are registered for. -/
def Keyed (relay : Relay) : Prop :=
  ∀ id conn, relay.daemon.hub.clients.get? id = some conn →
    (relay.daemon.connections.map Connection.owner)[conn]? = some id

/-- Whether a connection belongs to a device. -/
def owns (relay : Relay) (conn : ConnID) (id : DeviceID) : Bool :=
  (relay.connection? conn).any fun connection => decide (connection.owner = id)

/-- Whether the writer of a connection holds a clip. -/
def writesClip (relay : Relay) (conn : ConnID) : Bool :=
  (relay.connection? conn).any fun connection =>
    (connection.pump.inFlight.bind Frame.clip?).isSome

/-- Whether the next frame of a channel is a clip. -/
def nextIsClip (relay : Relay) (conn : ConnID) : Bool :=
  (relay.connection? conn).any fun connection =>
    (connection.client.send.head?.bind Frame.clip?).isSome

/-- The move of a device's mailbox that an action of the relay is. -/
def move (relay : Relay) (id : DeviceID) : Action → Move ClipEvent
  | .connect .. => .connect
  | .drain conn => if relay.owns conn id then .drain conn else .idle
  | .requeue conn => if relay.owns conn id then .restore conn else .idle
  | .registerDeliver =>
      match relay.task with
      | .registering conn =>
          if relay.owns conn id then
            if (relay.connection? conn).any fun connection =>
              decide (connection.client.send.length < sendBuffer) then .deliver conn
            else .giveUp conn
          else .idle
      | _ => .idle
  | .routeDeliver now =>
      match relay.task with
      | .routing _ event settings (target :: _) _ =>
          if target.id = id then
            match (relay.daemon.deliverTo event settings.queueDepthPerDevice now target).2 with
            | .skipped => .idle
            | .relayed conn => .live conn event.wire
            | .queued _ => .store event.wire
          else .idle
      | _ => .idle
  | .takeFrame conn => if relay.owns conn id && relay.nextIsClip conn then .take conn else .idle
  | .wroteFrame conn => if relay.owns conn id && relay.writesClip conn then .wrote conn else .idle
  | .writeError conn => if relay.owns conn id && relay.writesClip conn then .fail conn else .idle
  | .deleteDevice _ | .purgeQueues _ => .discard
  | _ => .idle

section Views

variable {relay after : Relay} {id : DeviceID} {conn : ConnID} {connection new : Connection}

theorem mailbox_congr
    (queue : after.daemon.store.queueOf id = relay.daemon.store.queueOf id)
    (links : after.daemon.connections.map (Connection.linkFor id) =
      relay.daemon.connections.map (Connection.linkFor id))
    (log : after.log = relay.log) : after.mailbox id = relay.mailbox id := by
  simp [mailbox, queue, links, log]

/-- A step that no device's mailbox sees. -/
theorem idle_of_eq (same : after.mailbox id = relay.mailbox id) :
    (relay.mailbox id).Step .idle (after.mailbox id) :=
  same ▸ .idle

theorem link_of_connection (found : relay.connection? conn = some connection) :
    (relay.mailbox id).links[conn]? = some (connection.linkFor id) := by
  rw [connection?] at found
  simp [mailbox, found]

theorem link_of_owner (found : relay.connection? conn = some connection)
    (mine : connection.owner = id) :
    (relay.mailbox id).links[conn]? = some connection.link := by
  rw [link_of_connection found, Connection.linkFor_eq mine]

theorem owns_iff (found : relay.connection? conn = some connection) :
    relay.owns conn id = true ↔ connection.owner = id := by
  simp [owns, found]

@[simp] theorem mailbox_record (facts : List Fact) :
    (relay.record facts).mailbox id =
      { relay.mailbox id with
        accepted := history .accepted id relay.log ++ history .accepted id facts
        pushed := history .pushed id relay.log ++ history .pushed id facts
        stored := history .stored id relay.log ++ history .stored id facts
        written := history .written id relay.log ++ history .written id facts
        discarded := history .discarded id relay.log ++ history .discarded id facts
        lost := history .failed id relay.log ++ history .failed id facts } := by
  simp [mailbox, record]

@[simp] theorem mailbox_withStore (store : Store) :
    (relay.withStore store).mailbox id =
      { relay.mailbox id with queue := (store.queueOf id).map (·.event) } := rfl

theorem mailbox_setConnection_mine (mine : new.owner = id) :
    (relay.setConnection conn new).mailbox id =
      { relay.mailbox id with links := (relay.mailbox id).links.set conn new.link } := by
  simp [mailbox, setConnection, List.map_set, Connection.linkFor_eq mine]

/-- Updating a connection of another device is invisible. -/
theorem mailbox_setConnection_other (found : relay.connection? conn = some connection)
    (other : connection.owner ≠ id) (owner : new.owner = connection.owner) :
    (relay.setConnection conn new).mailbox id = relay.mailbox id := by
  have same : new.linkFor id = connection.linkFor id := by
    rw [Connection.linkFor_of_ne other, Connection.linkFor_of_ne (owner ▸ other)]
  exact mailbox_congr rfl (map_set_of_eq found same) rfl

/-- So is an update that keeps the clips of a connection. -/
theorem mailbox_setConnection_same (found : relay.connection? conn = some connection)
    (owner : new.owner = connection.owner) (link : new.link = connection.link) :
    (relay.setConnection conn new).mailbox id = relay.mailbox id :=
  mailbox_congr rfl (map_set_of_eq found (Connection.linkFor_congr id owner link)) rfl

end Views

/-! ## Steps that move clips -/

section Moves

variable {env : Env} {relay after : Relay} {id : DeviceID} {conn : ConnID} {now : Time}
variable {connection new : Connection}

theorem connect_mailbox {device : DeviceID} {token : String}
    (stepped : relay.connect env device token = some after) :
    (relay.mailbox id).Step .connect (after.mailbox id) := by
  obtain ⟨found, -, result⟩ := connect_some stepped
  have vacant : Connection.linkFor id ⟨.new found, .opened, .ready⟩ = .empty := by
    rw [Connection.linkFor]
    split_ifs <;> rfl
  have view : after.mailbox id =
      { relay.mailbox id with links := (relay.mailbox id).links ++ [.empty] } := by
    simp [result, mailbox, vacant]
  exact view ▸ .connect

theorem drain_mailbox (stepped : relay.drain conn = some after) :
    (relay.mailbox id).Step (relay.move id (.drain conn)) (after.mailbox id) := by
  obtain ⟨connection, settings, found, session, result⟩ := drain_some stepped
  simp only [move, owns_iff found]
  rw [result, mailbox_withStore, Store.queueOf_drainQueue, setSession]
  split_ifs with mine same same
  · have vacant : connection.link.hand = [] ∧ connection.link.tail = [] := by
      simp [Connection.link, session, Session.hand, Session.tail]
    rw [mailbox_setConnection_mine (by exact mine)]
    subst mine
    simpa [Connection.link, mailbox, session, Session.hand, Session.tail] using
      Mailbox.Step.drain (link_of_owner found rfl) vacant
  · exact absurd mine.symm same
  · exact absurd same.symm mine
  · rw [mailbox_setConnection_other found mine (by rfl)]
    exact .idle

/-- Appending to a device's queue splits the longer list into the trimmed prefix
and what is kept. -/
theorem enqueue_split (store : Store) (item : QueueItem) (depth : Int) :
    (store.queueOf id).map (·.event) ++ [item.event] =
      ((store.queueOf id ++ [item]).take (store.enqueue id item depth).2).map (·.event) ++
        ((store.enqueue id item depth).1.queueOf id).map (·.event) := by
  rw [Store.queueOf_enqueue_self, ← List.map_append, List.take_append_drop]
  simp

theorem requeue_mailbox (stepped : relay.requeue conn = some after) :
    (relay.mailbox id).Step (relay.move id (.requeue conn)) (after.mailbox id) := by
  obtain ⟨connection, depth, item, rest, found, session, result⟩ := requeue_some stepped
  simp only [move, owns_iff found]
  rw [result, mailbox_record, mailbox_withStore, setSession]
  split_ifs with mine
  · rw [mailbox_setConnection_mine (by exact mine)]
    subst mine
    have next : connection.link.tail = item.event :: rest.map (·.event) := by
      simp [Connection.link, session, Session.tail]
    simpa [Connection.link, mailbox, session, Session.hand, Session.tail, record, withStore,
      setConnection] using
      Mailbox.Step.restore (link_of_owner found rfl) next
        (enqueue_split relay.daemon.store item depth)
  · rw [mailbox_setConnection_other found mine (by rfl)]
    have other := relay.daemon.store.queueOf_enqueue_of_ne connection.owner id item depth
      (Ne.symm mine)
    simpa [mine, other, mailbox, record, withStore, setConnection] using
      Mailbox.Step.idle (m := relay.mailbox id)

theorem registerDeliver_mailbox (stepped : relay.registerDeliver = some after) :
    (relay.mailbox id).Step (relay.move id .registerDeliver) (after.mailbox id) := by
  obtain ⟨conn, connection, settings, item, rest, task, found, session, outcome⟩ :=
    registerDeliver_some stepped
  simp only [move, task, owns_iff found]
  rcases outcome with ⟨room, result⟩ | ⟨full, result⟩
  · rw [result, mailbox_record]
    split_ifs with mine fits
    · rw [mailbox_setConnection_mine (by exact mine)]
      subst mine
      have next : connection.link.hand = item.event :: rest.map (·.event) := by
        simp [Connection.link, session, Session.hand]
      simpa [Connection.link, mailbox, session, Session.hand, Session.tail, record,
        setConnection, clipsOf, Frame.clip?] using
        Mailbox.Step.deliver (link_of_owner found rfl) next
    · simp [found, room] at fits
    · rw [mailbox_setConnection_other found mine (by rfl)]
      simpa [mine, mailbox, record, setConnection] using
        Mailbox.Step.idle (m := relay.mailbox id)
  · rw [result, setSession]
    split_ifs with mine fits
    · simp [found, full] at fits
    · rw [mailbox_setConnection_mine (by exact mine)]
      subst mine
      have vacant : connection.link.tail = [] := by
        simp [Connection.link, session, Session.tail]
      simpa [Connection.link, session, Session.hand, Session.tail] using
        Mailbox.Step.giveUp (link_of_owner found rfl) vacant
    · rw [mailbox_setConnection_other found mine (by rfl)]
      exact .idle

theorem takeFrame_mailbox (stepped : relay.takeFrame conn = some after) :
    (relay.mailbox id).Step (relay.move id (.takeFrame conn)) (after.mailbox id) := by
  obtain ⟨connection, frame, rest, found, ready, send, result⟩ := takeFrame_some stepped
  simp only [move, Bool.and_eq_true, owns_iff found]
  rw [result]
  split_ifs with clip
  · obtain ⟨mine, isClip⟩ := clip
    rw [mailbox_setConnection_mine (by exact mine)]
    subst mine
    obtain ⟨event, carried⟩ := Option.isSome_iff_exists.mp
      (by simpa [nextIsClip, found, send] using isClip)
    have next : connection.link.channel = event :: clipsOf rest := by
      simp [Connection.link, send, clipsOf, carried]
    have free : connection.link.inFlight = none := by
      simp [Connection.link, ready]
    simpa [Connection.link, carried] using
      Mailbox.Step.take (link_of_owner found rfl) next free
  · by_cases mine : connection.owner = id
    · have control : frame.clip? = none := by
        simpa [mine, nextIsClip, found, send] using clip
      rw [mailbox_setConnection_same found (by rfl)
        (by simp [Connection.link, send, clipsOf, control, ready])]
      exact .idle
    · rw [mailbox_setConnection_other found mine (by rfl)]
      exact .idle

/-- What the writer of a connection holds. -/
theorem writesClip_iff {connection : Connection} {frame : Frame}
    (found : relay.connection? conn = some connection)
    (writing : connection.pump = .writing frame) :
    relay.writesClip conn = frame.clip?.isSome := by
  simp [writesClip, found, writing]

/-- The writer letting go of a control frame, or of another device's clip, is
invisible. -/
theorem mailbox_release {frame : Frame} {stage : Stage} {pump : Pump}
    (found : relay.connection? conn = some connection)
    (writing : connection.pump = .writing frame) (idle : pump.inFlight = none)
    (invisible : ¬(connection.owner = id ∧ frame.clip?.isSome = true)) :
    ((relay.setConnection conn { connection with pump }).record
      (clipFact stage connection.client.device.id frame)).mailbox id = relay.mailbox id := by
  rw [mailbox_record]
  by_cases mine : connection.owner = id
  · have control : frame.clip? = none := by simpa [mine] using invisible
    rw [mailbox_setConnection_same found (by rfl)
      (by simp [Connection.link, writing, idle, control])]
    simp [mailbox, control, setConnection]
  · rw [mailbox_setConnection_other found mine (by rfl)]
    simp [mailbox, mine, setConnection]

theorem wroteFrame_mailbox (stepped : relay.wroteFrame conn = some after) :
    (relay.mailbox id).Step (relay.move id (.wroteFrame conn)) (after.mailbox id) := by
  obtain ⟨connection, frame, found, writing, result⟩ := wroteFrame_some stepped
  simp only [move, Bool.and_eq_true, owns_iff found, writesClip_iff found writing]
  rw [result]
  split_ifs with clip
  · obtain ⟨mine, isClip⟩ := clip
    rw [mailbox_record, mailbox_setConnection_mine (by exact mine)]
    subst mine
    obtain ⟨event, carried⟩ := Option.isSome_iff_exists.mp isClip
    have held := Connection.inFlight_of_writing writing carried
    simpa [Connection.link, mailbox, carried, setConnection] using
      Mailbox.Step.wrote (link_of_owner found rfl) held
  · exact idle_of_eq (mailbox_release found writing rfl clip)

theorem writeError_mailbox (stepped : relay.writeError conn = some after) :
    (relay.mailbox id).Step (relay.move id (.writeError conn)) (after.mailbox id) := by
  obtain ⟨connection, frame, found, writing, result⟩ := writeError_some stepped
  simp only [move, Bool.and_eq_true, owns_iff found, writesClip_iff found writing]
  rw [result]
  split_ifs with clip
  · obtain ⟨mine, isClip⟩ := clip
    rw [mailbox_record, mailbox_setConnection_mine (by exact mine)]
    subst mine
    obtain ⟨event, carried⟩ := Option.isSome_iff_exists.mp isClip
    have held := Connection.inFlight_of_writing writing carried
    simpa [Connection.link, mailbox, carried, setConnection] using
      Mailbox.Step.fail (link_of_owner found rfl) held
  · exact idle_of_eq (mailbox_release found writing rfl clip)

theorem routeDeliver_mailbox (keyed : relay.Keyed) (stepped : relay.routeDeliver now = some after) :
    (relay.mailbox id).Step (relay.move id (.routeDeliver now)) (after.mailbox id) := by
  obtain ⟨source, event, settings, target, rest, progress, task, served, delivery, delivered,
    result⟩ := routeDeliver_some stepped
  simp only [move, task, delivered]
  rw [result, mailbox_record]
  rcases Daemon.deliverTo_cases _ _ delivered with
    ⟨-, rfl, rfl⟩ | ⟨-, conn, connection, registered, found, room, rfl, rfl⟩ |
      ⟨-, base, evicted, rfl, rfl⟩
  · simpa [deliveryFacts, mailbox] using Mailbox.Step.idle (m := relay.mailbox id)
  · -- The registry names a connection of the target itself.
    have owner : connection.owner = target.id := by
      simpa [found] using keyed target.id conn registered
    have view : Relay.mailbox { relay with
        daemon := { relay.daemon with
          connections := relay.daemon.connections.set conn
            { connection with
              client := { connection.client with
                send := connection.client.send ++ [.clip event.wire] } } }
        task := .routing source event settings rest
          (progress.record target.id (.relayed conn)) } id =
        (relay.setConnection conn
          { connection with
            client := { connection.client with
              send := connection.client.send ++ [.clip event.wire] } }).mailbox id := rfl
    rw [view]
    split_ifs with mine
    · rw [mailbox_setConnection_mine (by exact owner.trans mine)]
      simpa [Connection.link, mailbox, deliveryFacts, mine, clipsOf, Frame.clip?] using
        Mailbox.Step.live event.wire (link_of_owner found (owner.trans mine))
    · rw [mailbox_setConnection_other found (owner ▸ mine) (by rfl)]
      simpa [deliveryFacts, mailbox, mine] using Mailbox.Step.idle (m := relay.mailbox id)
  · have links : base.connections.map (Connection.linkFor id) =
        relay.daemon.connections.map (Connection.linkFor id) := by
      rcases evicted with ⟨-, rfl⟩ | ⟨conn, -, -, rfl⟩
      · rfl
      · exact Daemon.map_evictSlow (Connection.linkFor_blind id) _ _ _
    split_ifs with mine
    · subst mine
      simpa [mailbox, deliveryFacts, links] using
        Mailbox.Step.store (m := relay.mailbox target.id) event.wire
          (enqueue_split relay.daemon.store ⟨event.wire, now⟩ settings.queueDepthPerDevice)
    · have other := relay.daemon.store.queueOf_enqueue_of_ne target.id id ⟨event.wire, now⟩
        settings.queueDepthPerDevice (Ne.symm mine)
      simpa [mailbox, deliveryFacts, links, mine, other] using
        Mailbox.Step.idle (m := relay.mailbox id)

theorem deleteDevice_mailbox (device : DeviceID) :
    (relay.mailbox id).Step .discard ((relay.deleteDevice env device).mailbox id) := by
  by_cases mine : device = id
  · subst mine
    simpa [mailbox, deleteDevice, record, withStore, Store.queueOf_deleteDevice] using
      Mailbox.Step.discard (m := relay.mailbox device) (List.nil_sublist _)
        (List.Perm.refl (relay.mailbox device).queue)
  · simpa [mailbox, deleteDevice, record, withStore, Store.queueOf_deleteDevice, mine,
      Ne.symm mine] using
      Mailbox.Step.discard (List.Sublist.refl (relay.mailbox id).queue)
        (List.Perm.of_eq (List.append_nil _))

/-- The facts of a purge are about the expired items of the device's queue. -/
theorem history_purge (stage : Stage) (store : Store) (expired : QueueItem → Bool) :
    history stage id (store.queues.entries.flatMap fun entry =>
        trimmedFacts entry.1 (entry.2.items.values.filter expired)) =
      if .discarded = stage then ((store.queueOf id).filter expired).map (·.event) else [] := by
  rw [history_flatMap]
  simp only [history_trimmedFacts]
  split_ifs with discarded
  · simp only [discarded, true_and]
    rw [store.queues.flatMap_entries_select id fun bucket =>
      (bucket.items.values.filter expired).map (·.event)]
    rw [Store.queueOf]
    cases store.queues.get? id <;> rfl
  · simp [discarded]

theorem purgeQueues_mailbox :
    (relay.mailbox id).Step .discard ((relay.purgeQueues now).mailbox id) := by
  unfold purgeQueues
  simp only
  generalize Duration.ofSeconds relay.daemon.store.getSettings.queueItemTTLSeconds = ttl
  rw [mailbox_record, mailbox_withStore, Store.queueOf_purge]
  simp only [history_purge]
  have split := (List.filter_append_perm
    (fun item => decide (ttl ≤ 0) || !Store.expiredItem now ttl item)
    (relay.daemon.store.queueOf id)).map (·.event)
  rw [List.map_append] at split
  simpa [mailbox, withStore] using
    Mailbox.Step.discard (m := relay.mailbox id) (List.filter_sublist.map _) split

end Moves

/-! ## Steps that move none -/

section Idle

variable {env : Env} {relay after : Relay} {id : DeviceID} {conn : ConnID} {now : Time}
variable {connection : Connection}

/-- Changing the session without changing what it holds. -/
theorem mailbox_setSession {session : Session} (found : relay.connection? conn = some connection)
    (hand : session.hand = connection.session.hand)
    (tail : session.tail = connection.session.tail) :
    (relay.setSession conn connection session).mailbox id = relay.mailbox id :=
  mailbox_setConnection_same found rfl (by simp [Connection.link, hand, tail])

/-- A handler that observations of the links are blind to, and that keeps the
queues. -/
theorem mailbox_daemon {daemon : Daemon} {task : Task}
    (queues : daemon.store.queues = relay.daemon.store.queues)
    (links : daemon.connections.map (Connection.linkFor id) =
      relay.daemon.connections.map (Connection.linkFor id)) :
    Relay.mailbox { relay with daemon, task } id = relay.mailbox id :=
  mailbox_congr (Store.queueOf_congr id queues) links rfl

theorem readSettings_mailbox (stepped : relay.readSettings conn = some after) :
    after.mailbox id = relay.mailbox id := by
  obtain ⟨connection, found, session, rfl⟩ := readSettings_some stepped
  exact mailbox_setSession found (by rw [session]; rfl) (by rw [session]; rfl)

theorem registerReturn_mailbox (stepped : relay.registerReturn conn = some after) :
    after.mailbox id = relay.mailbox id := by
  obtain ⟨connection, depth, found, session, rfl⟩ := registerReturn_some stepped
  exact mailbox_setSession found (by rw [session]; rfl) (by rw [session]; rfl)

theorem sendToken_mailbox {token : String} (stepped : relay.sendToken conn token = some after) :
    after.mailbox id = relay.mailbox id := by
  obtain ⟨connection, found, session, rfl⟩ := sendToken_some stepped
  exact mailbox_daemon (by simp)
    (Daemon.map_push (Connection.linkFor_blind id) relay.daemon conn rfl)

theorem ack_mailbox (stepped : relay.ack conn = some after) :
    after.mailbox id = relay.mailbox id := by
  obtain ⟨connection, payload, found, session, rfl⟩ := ack_some stepped
  have replied : (relay.setSession conn connection .serving).mailbox id = relay.mailbox id :=
    mailbox_setSession found (by rw [session]; rfl) (by rw [session]; rfl)
  rw [← replied]
  exact mailbox_daemon (by simp) (Daemon.map_push (Connection.linkFor_blind id) _ conn rfl)

theorem registerStart_mailbox (stepped : relay.registerStart env conn now = some after) :
    after.mailbox id = relay.mailbox id := by
  obtain ⟨connection, settings, items, -, found, session, rfl⟩ := registerStart_some stepped
  have begun : (relay.setSession conn connection (.registering settings items false)).mailbox id =
      relay.mailbox id :=
    mailbox_setSession found (by rw [session]; rfl) (by rw [session]; rfl)
  rw [← begun]
  exact mailbox_daemon (by simp) (Daemon.map_enroll (Connection.linkFor_blind id) ..)

theorem registerFinish_mailbox (stepped : relay.registerFinish = some after) :
    after.mailbox id = relay.mailbox id := by
  obtain ⟨conn, connection, settings, rest, full, -, found, session, ended, rfl⟩ :=
    registerFinish_some stepped
  have returned : (relay.setSession conn connection
      (.requeueing settings.queueDepthPerDevice rest)).mailbox id = relay.mailbox id := by
    rcases ended with rfl | rfl
    · exact mailbox_setSession found (by rw [session]; rfl) (by rw [session]; rfl)
    · exact mailbox_setSession found (by rw [session]; cases full <;> rfl)
        (by rw [session]; cases full <;> rfl)
  rw [← returned]
  exact mailbox_daemon (by simp) (Daemon.map_broadcastPresence (Connection.linkFor_blind id) ..)

theorem unregister_mailbox (stepped : relay.unregister conn now = some after) :
    after.mailbox id = relay.mailbox id := by
  obtain ⟨connection, -, found, session, rfl⟩ := unregister_some stepped
  have left : (relay.setSession conn connection .left).mailbox id = relay.mailbox id :=
    mailbox_setSession found (by rw [session]; rfl) (by rw [session]; rfl)
  rw [← left]
  refine mailbox_daemon ?_ (Daemon.map_handleUnregister (Connection.linkFor_blind id) ..)
  rcases Daemon.handleUnregister_store (relay.setSession conn connection .left).daemon conn
    connection.client.device now with same | seen
  · rw [same]
  · rw [seen, Store.updateLastSeen_queues]

theorem receiveClip_mailbox {event : ClipEvent}
    (stepped : relay.receiveClip env conn event now = some after) :
    after.mailbox id = relay.mailbox id := by
  obtain ⟨connection, -, found, session, ⟨payload, rfl⟩ | ⟨-, rfl⟩⟩ := receiveClip_some stepped
  · exact mailbox_setSession found (by rw [session]; rfl) (by rw [session]; rfl)
  · have waiting : (relay.setSession conn connection .awaiting).mailbox id = relay.mailbox id :=
      mailbox_setSession found (by rw [session]; rfl) (by rw [session]; rfl)
    rw [← waiting]
    rfl

theorem routePrepare_mailbox (stepped : relay.routePrepare env now = some after) :
    after.mailbox id = relay.mailbox id := by
  obtain ⟨source, event, settings, -, rfl⟩ := routePrepare_some stepped
  have queues : (relay.daemon.prepareRoute env event settings now).1.store.queues =
      relay.daemon.store.queues := Daemon.prepareRoute_queues ..
  have connections : (relay.daemon.prepareRoute env event settings now).1.connections =
      relay.daemon.connections := Daemon.prepareRoute_connections ..
  rw [mailbox_record, mailbox_daemon queues (by rw [connections])]
  simp [mailbox]

theorem routeFinish_mailbox (stepped : relay.routeFinish = some after) :
    after.mailbox id = relay.mailbox id := by
  obtain ⟨source, event, settings, progress, -, rfl | ⟨conn, connection, payload, -, found,
    session, rfl⟩⟩ := routeFinish_some stepped
  · rfl
  · exact mailbox_setSession found (by rw [session]; rfl) (by rw [session]; rfl)

theorem setPool_mailbox {pool : String} (stepped : relay.setPool conn pool = some after) :
    after.mailbox id = relay.mailbox id := by
  obtain ⟨-, rfl | ⟨connection, device, -, -, rfl⟩⟩ := setPool_some stepped <;> rfl

theorem storePool_mailbox (stepped : relay.storePool env = some after) :
    after.mailbox id = relay.mailbox id := by
  obtain ⟨device, pool, -, rfl⟩ := storePool_some stepped
  exact mailbox_daemon (by simp) (Daemon.map_storePool (Connection.linkFor_blind id) ..)

theorem evict_mailbox {device : DeviceID} (stepped : relay.evict device = some after) :
    after.mailbox id = relay.mailbox id := by
  obtain ⟨-, -, rfl⟩ := evict_some stepped
  exact mailbox_congr (Store.queueOf_congr id (by simp))
    (Daemon.map_handleEvict (Connection.linkFor_blind id) ..) rfl

theorem stopPump_mailbox (stepped : relay.stopPump conn = some after) :
    after.mailbox id = relay.mailbox id := by
  obtain ⟨connection, found, ready, rfl⟩ := stopPump_some stepped
  exact mailbox_setConnection_same found rfl (by simp [Connection.link, ready])

theorem claimPairing_mailbox {code suffix name platform token : String}
    (stepped : relay.claimPairing env code suffix name platform token now = some after) :
    after.mailbox id = relay.mailbox id := by
  rw [claimPairing_some stepped]
  refine mailbox_congr (Store.queueOf_congr id ?_) rfl rfl
  simp only [withStore, TokenOp.apply]
  split
  next claimed =>
    obtain ⟨entry, -, -, -, -, rfl⟩ := Store.claimPairing_ok claimed
    rfl
  next => rfl

/-- Each step of the relay is the move `move` names, for every device. -/
theorem mailbox_step (keyed : relay.Keyed) {action : Action}
    (stepped : relay.step env action = some after) :
    (relay.mailbox id).Step (relay.move id action) (after.mailbox id) := by
  cases action with
  | connect device token => exact connect_mailbox stepped
  | drain conn => exact drain_mailbox stepped
  | requeue conn => exact requeue_mailbox stepped
  | registerDeliver => exact registerDeliver_mailbox stepped
  | routeDeliver now => exact routeDeliver_mailbox keyed stepped
  | takeFrame conn => exact takeFrame_mailbox stepped
  | wroteFrame conn => exact wroteFrame_mailbox stepped
  | writeError conn => exact writeError_mailbox stepped
  | deleteDevice device =>
      cases stepped
      exact deleteDevice_mailbox device
  | purgeQueues now =>
      cases stepped
      exact purgeQueues_mailbox
  | readSettings conn => exact idle_of_eq (readSettings_mailbox stepped)
  | registerReturn conn => exact idle_of_eq (registerReturn_mailbox stepped)
  | sendToken conn token => exact idle_of_eq (sendToken_mailbox stepped)
  | ack conn => exact idle_of_eq (ack_mailbox stepped)
  | registerStart conn now => exact idle_of_eq (registerStart_mailbox stepped)
  | registerFinish => exact idle_of_eq (registerFinish_mailbox stepped)
  | unregister conn now => exact idle_of_eq (unregister_mailbox stepped)
  | receiveClip conn event now => exact idle_of_eq (receiveClip_mailbox stepped)
  | routeBroadcast index =>
      obtain ⟨event, -, -, rfl | ⟨-, rfl⟩⟩ := routeBroadcast_some stepped <;> exact .idle
  | routePrepare now => exact idle_of_eq (routePrepare_mailbox stepped)
  | routeFinish => exact idle_of_eq (routeFinish_mailbox stepped)
  | setPool conn pool => exact idle_of_eq (setPool_mailbox stepped)
  | storePool => exact idle_of_eq (storePool_mailbox stepped)
  | requestBlob blob =>
      rw [requestBlob_some stepped]
      exact idle_of_eq (mailbox_daemon (by simp)
        (Daemon.map_handleBlobRequest (Connection.linkFor_blind id) ..))
  | evict device => exact idle_of_eq (evict_mailbox stepped)
  | stopPump conn => exact idle_of_eq (stopPump_mailbox stepped)
  | refreshSettings index =>
      obtain ⟨settings, -, rfl⟩ := refreshSettings_some stepped
      exact .idle
  | broadcast clip text now =>
      rw [broadcast_some stepped]
      exact .idle
  | claimPairing code suffix name platform token now =>
      exact idle_of_eq (claimPairing_mailbox stepped)
  | rotateToken op =>
      obtain ⟨store, rfl, queues, -, -⟩ := rotateToken_some stepped
      exact idle_of_eq (mailbox_congr (Store.queueOf_congr id queues) rfl rfl)
  | touchBlob blob now size mime =>
      obtain ⟨-, rfl⟩ := touchBlob_some stepped
      exact .idle
  | collectBlob blob =>
      cases stepped
      exact idle_of_eq (by simp [collectBlob, mailbox, record, withStore, Store.deleteBlobEntry,
        Store.queueOf])
  | putSettings settings | loadSettings | putPairing code | purgePairing now =>
      cases stepped
      exact .idle

end Idle

/-- A mailbox accepts only the clip being routed, for the target being served. -/
theorem routing_of_accepts {relay : Relay} {action : Action} {id : DeviceID} {item : ClipEvent}
    (accepts : item ∈ (relay.move id action).accepts) :
    ∃ source event settings target rest progress,
      relay.task = .routing source event settings (target :: rest) progress ∧
        target.id = id ∧ item = event.wire := by
  cases action with
  | routeDeliver now =>
      simp only [move] at accepts
      split at accepts
      next source event settings target rest progress task =>
        split_ifs at accepts with mine
        · refine ⟨source, event, settings, target, rest, progress, task, mine, ?_⟩
          split at accepts
          · cases accepts
          · simpa [Move.accepts] using accepts
          · simpa [Move.accepts] using accepts
        · cases accepts
      next => cases accepts
  | drain conn | requeue conn | takeFrame conn | wroteFrame conn | writeError conn =>
      simp only [move] at accepts
      split_ifs at accepts <;> cases accepts
  | registerDeliver =>
      simp only [move] at accepts
      repeat' split at accepts
      all_goals cases accepts
  | _ => cases accepts

/-- A mailbox is drained only by a connection of its device. -/
theorem owner_of_drains {relay : Relay} {action : Action} {id : DeviceID} {conn : ConnID}
    (drains : relay.move id action = .drain conn) :
    action = .drain conn ∧ relay.owns conn id = true := by
  cases action with
  | drain drained =>
      simp only [move] at drains
      split_ifs at drains with mine
      cases drains
      exact ⟨rfl, mine⟩
  | requeue conn | takeFrame conn | wroteFrame conn | writeError conn =>
      simp only [move] at drains
      split_ifs at drains
  | registerDeliver | routeDeliver now =>
      simp only [move] at drains
      repeat' split at drains
      all_goals cases drains
  | _ => cases drains

end Relay

end CopySync.Server
