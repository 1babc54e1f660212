import CopySync.Foundation.Transition
import CopySync.Foundation.Window
import CopySync.Server.Hub.Basic

/-!
# Subscribers of the admin monitor

A subscriber gets the ring of recent events and then a channel.  Publishing, subscribing and
unsubscribing hold one lock, so they are steps of their own; a subscriber takes events from its
channel between them.  The replay and the channel meet without a gap: what a subscriber gets is
one window of everything that was published.
-/

namespace CopySync.Server

open Foundation

/-- How many events the ring holds. -/
def monitorRing : Nat := 50

/-- Capacity of a subscriber's channel. -/
def monitorBuffer : Nat := 64

/-! ## Channels -/

/-- A channel of monitor events. -/
structure Channel where
  buffer : List MonitorEvent
  closed : Bool
  deriving DecidableEq, Repr

abbrev ChannelID := Nat

namespace Channel

def full (channel : Channel) : Bool := decide (monitorBuffer ≤ channel.buffer.length)

/-- The event is dropped for a slow subscriber. -/
def push (channel : Channel) (event : MonitorEvent) : Channel :=
  if channel.full then channel else { channel with buffer := channel.buffer ++ [event] }

/-- A `select` with a send and a default; sending on a closed channel panics. -/
def offer (channel : Channel) (event : MonitorEvent) : Option Channel :=
  if channel.closed then none else some (channel.push event)

/-- Closing a closed channel panics. -/
def close (channel : Channel) : Option Channel :=
  if channel.closed then none else some { channel with closed := true }

@[simp] theorem closed_push (channel : Channel) (event : MonitorEvent) :
    (channel.push event).closed = channel.closed := by
  rw [push]
  split <;> rfl

end Channel

/-! ## The monitor -/

/-- The monitor of the hub with the channels of all its subscribers so far. -/
structure MonitorHub where
  monRecent : List MonitorEvent
  monSubs : OrderedMap Nat ChannelID
  monSeq : Nat
  channels : List Channel

namespace MonitorHub

def empty : MonitorHub := ⟨[], .empty, 0, []⟩

/-- The loop over the subscribers; `none` when it panics. -/
def offerAll (event : MonitorEvent) : List ChannelID → List Channel → Option (List Channel)
  | [], channels => some channels
  | target :: rest, channels => do
      let channel ← channels[target]?
      let offered ← channel.offer event
      offerAll event rest (channels.set target offered)

/-- The second half of `publishMonitor`: append to the ring and to the subscribers. -/
def publish (hub : MonitorHub) (event : MonitorEvent) : Option MonitorHub :=
  let recent := hub.monRecent ++ [event]
  (offerAll event hub.monSubs.values hub.channels).map fun channels =>
    { hub with
      monRecent :=
        if recent.length > monitorRing then recent.drop (recent.length - monitorRing) else recent
      channels }

/-- `SubscribeMonitor`: the new channel's place, and the events to replay first. -/
def subscribe (hub : MonitorHub) : MonitorHub × ChannelID × List MonitorEvent :=
  let channel := hub.channels.length
  ({ hub with
      monSeq := hub.monSeq + 1
      monSubs := hub.monSubs.put hub.monSeq channel
      channels := hub.channels ++ [⟨[], false⟩] },
    channel, hub.monRecent)

/-- `UnsubscribeMonitor`; `none` when it panics. -/
def unsubscribe (hub : MonitorHub) (id : Nat) : Option MonitorHub :=
  match hub.monSubs.get? id with
  | none => some hub
  | some target => do
      let channel ← hub.channels[target]?
      let closed ← channel.close
      some { hub with
        channels := hub.channels.set target closed
        monSubs := hub.monSubs.erase id }

/-- A subscriber takes the next event from its channel. -/
def receive (hub : MonitorHub) (target : ChannelID) : Option (MonitorHub × MonitorEvent) :=
  match hub.channels[target]? with
  | some ⟨event :: rest, closed⟩ =>
      some ({ hub with channels := hub.channels.set target ⟨rest, closed⟩ }, event)
  | _ => none

end MonitorHub

/-! ## Runs -/

/-- What a subscriber got: its replay and the events it received, with the numbers of events
published when it subscribed and when it unsubscribed.  It has `lagged` once an event was
published while it had a full channel unread. -/
structure Reader where
  replay : List MonitorEvent
  received : List MonitorEvent
  since : Nat
  stopped : Option Nat
  lagged : Bool
  deriving DecidableEq, Repr

/-- The monitor, everything published so far, and the readers by their channels. -/
structure Audience where
  hub : MonitorHub
  published : List MonitorEvent
  readers : List Reader
  panicked : Bool

inductive AudienceAction where
  | publish (event : MonitorEvent)
  | subscribe
  | unsubscribe (id : Nat)
  | receive (target : ChannelID)
  deriving DecidableEq, Repr

namespace Audience

def start : Audience := ⟨.empty, [], [], false⟩

/-- A reader is left behind when its registered channel has no room. -/
def noteLag (hub : MonitorHub) (target : ChannelID) (reader : Reader) : Reader :=
  if target ∈ hub.monSubs.values ∧ hub.channels[target]?.any Channel.full then
    { reader with lagged := true }
  else reader

def publish (audience : Audience) (event : MonitorEvent) : Audience :=
  match audience.hub.publish event with
  | none => { audience with panicked := true }
  | some hub =>
      { audience with
        hub
        published := audience.published ++ [event]
        readers := audience.readers.mapIdx (noteLag audience.hub) }

def subscribe (audience : Audience) : Audience :=
  let (hub, _, replay) := audience.hub.subscribe
  { audience with
    hub
    readers := audience.readers ++ [⟨replay, [], audience.published.length, none, false⟩] }

def unsubscribe (audience : Audience) (id : Nat) : Audience :=
  match audience.hub.unsubscribe id with
  | none => { audience with panicked := true }
  | some hub =>
      match audience.hub.monSubs.get? id with
      | none => { audience with hub }
      | some target =>
          { audience with
            hub
            readers := audience.readers.modify target fun reader =>
              { reader with stopped := some audience.published.length } }

def receive (audience : Audience) (target : ChannelID) : Option Audience :=
  (audience.hub.receive target).map fun (hub, event) =>
    { audience with
      hub
      readers := audience.readers.modify target fun reader =>
        { reader with received := reader.received ++ [event] } }

def step (audience : Audience) : AudienceAction → Option Audience
  | .publish event => if audience.panicked then none else some (audience.publish event)
  | .subscribe => if audience.panicked then none else some audience.subscribe
  | .unsubscribe id => if audience.panicked then none else some (audience.unsubscribe id)
  | .receive target => if audience.panicked then none else audience.receive target

/-! ## What a subscriber gets -/

/-- A reader and its channel, against what was published. -/
structure Tapped (published : List MonitorEvent) (channel : Channel) (reader : Reader) :
    Prop where
  since_le : reader.since ≤ published.length
  replay : reader.replay = window published (reader.since - monitorRing) reader.since
  closed : channel.closed = reader.stopped.isSome
  stopped : ∀ stop, reader.stopped = some stop → reader.since ≤ stop ∧ stop ≤ published.length
  live : reader.lagged = false → reader.received ++ channel.buffer =
    window published reader.since (reader.stopped.getD published.length)

namespace Tapped

variable {published : List MonitorEvent} {channel : Channel} {reader : Reader}

theorem start (published : List MonitorEvent) :
    Tapped published ⟨[], false⟩
      ⟨latest monitorRing published, [], published.length, none, false⟩ where
  since_le := le_rfl
  replay := latest_eq_window monitorRing published
  closed := rfl
  stopped := fun stop absent => by cases absent
  live := fun _ => (window_self published _).symm

/-- The replay and the channel are one window. -/
theorem window_eq (tapped : Tapped published channel reader) (kept : reader.lagged = false) :
    reader.replay ++ reader.received ++ channel.buffer =
      window published (reader.since - monitorRing)
        (reader.stopped.getD published.length) := by
  have after : reader.since ≤ reader.stopped.getD published.length := by
    cases ended : reader.stopped with
    | none => exact tapped.since_le
    | some stop => exact (tapped.stopped stop ended).1
  rw [List.append_assoc, tapped.live kept, tapped.replay]
  exact window_join published (Nat.sub_le _ _) after

theorem running (tapped : Tapped published channel reader) (opened : channel.closed = false) :
    reader.stopped = none := by
  have running := tapped.closed.symm.trans opened
  cases ended : reader.stopped with
  | none => rfl
  | some stop =>
      rw [ended] at running
      cases running

/-- A publication does not reach a closed channel. -/
theorem publish_closed (tapped : Tapped published channel reader) (closed : channel.closed = true)
    (event : MonitorEvent) : Tapped (published ++ [event]) channel reader := by
  obtain ⟨stop, ended⟩ := Option.isSome_iff_exists.mp (tapped.closed.symm.trans closed)
  obtain ⟨after, before⟩ := tapped.stopped stop ended
  constructor
  · exact tapped.since_le.trans (by simp)
  · rw [tapped.replay, window_append _ tapped.since_le]
  · exact tapped.closed
  · intro other same
    obtain rfl := Option.some.inj (ended.symm.trans same)
    exact ⟨after, before.trans (by simp)⟩
  · intro kept
    have live := tapped.live kept
    rw [ended, Option.getD_some] at live ⊢
    rw [live, window_append _ before]

/-- A publication reaches an open channel, or its reader has lagged. -/
theorem publish_open (tapped : Tapped published channel reader) (opened : channel.closed = false)
    (event : MonitorEvent) :
    Tapped (published ++ [event]) (channel.push event)
      { reader with lagged := reader.lagged || channel.full } := by
  have running := tapped.running opened
  constructor
  · exact tapped.since_le.trans (by simp)
  · exact tapped.replay.trans (window_append _ tapped.since_le).symm
  · rw [Channel.closed_push]
    exact tapped.closed
  · intro stop ended
    exact absurd (running.symm.trans ended) (Option.some_ne_none stop).symm
  · intro kept
    obtain ⟨kept, room⟩ := Bool.or_eq_false_iff.mp kept
    have live := tapped.live kept
    simp only [running, Option.getD_none, List.length_append, List.length_singleton] at live ⊢
    rw [Channel.push, if_neg (Bool.eq_false_iff.mp room), window_concat event tapped.since_le,
      ← live, List.append_assoc]

theorem close (tapped : Tapped published channel reader) (opened : channel.closed = false) :
    Tapped published { channel with closed := true }
      { reader with stopped := some published.length } where
  since_le := tapped.since_le
  replay := tapped.replay
  closed := rfl
  stopped := fun stop ended => by
    cases ended
    exact ⟨tapped.since_le, le_rfl⟩
  live := fun kept => by
    have live := tapped.live kept
    rw [tapped.running opened] at live
    exact live

theorem receive {event : MonitorEvent} {rest : List MonitorEvent} {closed : Bool}
    (tapped : Tapped published ⟨event :: rest, closed⟩ reader) :
    Tapped published ⟨rest, closed⟩ { reader with received := reader.received ++ [event] } where
  since_le := tapped.since_le
  replay := tapped.replay
  closed := tapped.closed
  stopped := tapped.stopped
  live := fun kept => by
    rw [List.append_assoc]
    exact tapped.live kept

end Tapped

/-! ## The loop over the subscribers -/

theorem offerAll_eq {event : MonitorEvent} {targets : List ChannelID} {channels : List Channel}
    (distinct : targets.Nodup)
    (opened : ∀ target ∈ targets, ∃ channel, channels[target]? = some channel ∧
      channel.closed = false) :
    ∃ offered, MonitorHub.offerAll event targets channels = some offered ∧
      offered.length = channels.length ∧
      ∀ target : ChannelID, offered[target]? =
        channels[target]?.map fun channel =>
          if target ∈ targets then channel.push event else channel := by
  induction targets generalizing channels with
  | nil => exact ⟨channels, rfl, rfl, by simp⟩
  | cons head rest ih =>
      obtain ⟨fresh, distinct⟩ := List.nodup_cons.mp distinct
      obtain ⟨channel, found, live⟩ := opened head List.mem_cons_self
      have others : ∀ target ∈ rest,
          ∃ channel', (channels.set head (channel.push event))[target]? = some channel' ∧
            channel'.closed = false := by
        intro target among
        rw [List.getElem?_set_ne (by rintro rfl; exact fresh among)]
        exact opened target (List.mem_cons_of_mem _ among)
      obtain ⟨offered, loop, length, each⟩ := ih distinct others
      refine ⟨offered, ?_, length.trans (List.length_set ..), ?_⟩
      · simp only [MonitorHub.offerAll, found, Channel.offer, live, Bool.false_eq_true, if_false,
          Option.bind_eq_bind, Option.bind_some]
        exact loop
      · intro target
        rw [each target]
        by_cases same : target = head
        · subst same
          rw [List.getElem?_set_self (List.getElem?_eq_some_iff.mp found).1, found]
          simp [fresh]
        · rw [List.getElem?_set_ne (Ne.symm same)]
          simp [same]

theorem ring_eq (recent : List MonitorEvent) :
    (if recent.length > monitorRing then recent.drop (recent.length - monitorRing) else recent) =
      latest monitorRing recent := by
  split
  next => rfl
  next short => rw [latest, Nat.sub_eq_zero_of_le (Nat.le_of_not_lt short), List.drop_zero]

/-! ## The invariant -/

/-- The registered channels are the open ones, each under its own number. -/
structure Sound (audience : Audience) : Prop where
  ring : audience.hub.monRecent = latest monitorRing audience.published
  channels : audience.hub.channels.length = audience.hub.monSeq
  readers : audience.readers.length = audience.hub.monSeq
  registered : ∀ {id : Nat} {target : ChannelID},
    audience.hub.monSubs.get? id = some target ↔
      target = id ∧ ∃ channel, audience.hub.channels[target]? = some channel ∧
        channel.closed = false
  tapped : ∀ {target : ChannelID} {channel : Channel} {reader : Reader},
    audience.hub.channels[target]? = some channel → audience.readers[target]? = some reader →
      Tapped audience.published channel reader
  calm : audience.panicked = false

namespace Sound

variable {audience next : Audience}

theorem start : Sound Audience.start where
  ring := rfl
  channels := rfl
  readers := rfl
  registered := by simp [Audience.start, MonitorHub.empty]
  tapped := fun absent _ => by cases absent
  calm := rfl

theorem mem_values (sound : Sound audience) {target : ChannelID} :
    target ∈ audience.hub.monSubs.values ↔
      ∃ channel, audience.hub.channels[target]? = some channel ∧ channel.closed = false := by
  rw [OrderedMap.mem_values_iff]
  constructor
  · rintro ⟨id, found⟩
    exact (sound.registered.mp found).2
  · intro opened
    exact ⟨target, sound.registered.mpr ⟨rfl, opened⟩⟩

theorem nodup_values (sound : Sound audience) : audience.hub.monSubs.values.Nodup := by
  have distinct : (audience.hub.monSubs.values.map id).Nodup :=
    audience.hub.monSubs.nodup_map_values fun key value found => (sound.registered.mp found).1
  rwa [List.map_id] at distinct

/-- A publication finds every registered channel open. -/
theorem hub_publish (sound : Sound audience) (event : MonitorEvent) :
    ∃ offered, audience.hub.publish event = some
        { audience.hub with
          monRecent := latest monitorRing (audience.hub.monRecent ++ [event])
          channels := offered } ∧
      offered.length = audience.hub.channels.length ∧
      ∀ target : ChannelID, offered[target]? =
        audience.hub.channels[target]?.map fun channel =>
          if target ∈ audience.hub.monSubs.values then channel.push event else channel := by
  have opened (target : ChannelID) (among : target ∈ audience.hub.monSubs.values) :=
    sound.mem_values.mp among
  obtain ⟨offered, loop, length, each⟩ := @offerAll_eq event _ _ sound.nodup_values opened
  refine ⟨offered, ?_, length, each⟩
  simp only [MonitorHub.publish, loop, Option.map_some, ring_eq]

theorem publish (sound : Sound audience) (event : MonitorEvent) :
    Sound (audience.publish event) := by
  obtain ⟨offered, published, length, each⟩ := sound.hub_publish event
  simp only [Audience.publish, published]
  constructor
  · simp only [sound.ring, latest_concat]
  · exact length.trans sound.channels
  · exact (List.length_mapIdx ..).trans sound.readers
  · intro id target
    rw [sound.registered, each target]
    refine and_congr_right fun _ => ?_
    cases audience.hub.channels[target]? with
    | none => simp
    | some channel =>
        by_cases among : target ∈ audience.hub.monSubs.values
        · simp [among]
        · simp [among]
  · intro target channel reader found here
    rw [each target, Option.map_eq_some_iff] at found
    rw [List.getElem?_mapIdx, Option.map_eq_some_iff] at here
    obtain ⟨before, known, rfl⟩ := found
    obtain ⟨old, there, rfl⟩ := here
    have tapped := sound.tapped known there
    by_cases among : target ∈ audience.hub.monSubs.values
    · obtain ⟨other, same, opened⟩ := sound.mem_values.mp among
      obtain rfl := Option.some.inj (known.symm.trans same)
      have noted : noteLag audience.hub target old =
          { old with lagged := old.lagged || before.full } := by
        rw [noteLag, known, Option.any_some]
        cases full : before.full with
        | true => simp [among]
        | false => simp
      rw [if_pos among, noted]
      exact tapped.publish_open opened event
    · have closed : before.closed = true := by
        by_contra opened
        exact among (sound.mem_values.mpr ⟨before, known, Bool.eq_false_iff.mpr opened⟩)
      rw [if_neg among, noteLag, if_neg fun both => among both.1]
      exact tapped.publish_closed closed event
  · exact sound.calm

/-- A subscriber's channel starts where its replay ends. -/
theorem subscribe (sound : Sound audience) : Sound audience.subscribe := by
  have fresh : audience.hub.monSubs.get? audience.hub.monSeq = none := by
    cases found : audience.hub.monSubs.get? audience.hub.monSeq with
    | none => rfl
    | some target =>
        obtain ⟨rfl, channel, known, -⟩ := sound.registered.mp found
        rw [List.getElem?_eq_none sound.channels.le] at known
        cases known
  constructor
  · exact sound.ring
  · simp [Audience.subscribe, MonitorHub.subscribe, sound.channels]
  · simp [Audience.subscribe, MonitorHub.subscribe, sound.readers]
  · intro id target
    simp only [Audience.subscribe, MonitorHub.subscribe, OrderedMap.get?_put]
    by_cases new : id = audience.hub.monSeq
    · subst new
      rw [if_pos rfl, Option.some.injEq]
      constructor
      · rintro rfl
        exact ⟨sound.channels, ⟨[], false⟩, List.getElem?_concat_length, rfl⟩
      · rintro ⟨rfl, -⟩
        exact sound.channels
    · rw [if_neg new, sound.registered]
      refine and_congr_right fun same => ?_
      have other : target ≠ audience.hub.channels.length := by
        rw [same, sound.channels]
        exact new
      rw [getElem?_concat_of_ne _ other]
  · intro target channel reader found here
    by_cases new : target = audience.hub.channels.length
    · have length : audience.readers.length = audience.hub.channels.length :=
        sound.readers.trans sound.channels.symm
      subst new
      have opened : (⟨[], false⟩ : Channel) = channel :=
        Option.some.inj (List.getElem?_concat_length.symm.trans found)
      rw [← length] at here
      have replayed := Option.some.inj (List.getElem?_concat_length.symm.trans here)
      rw [← opened, ← replayed, sound.ring]
      exact .start audience.published
    · have other : target ≠ audience.readers.length := by
        rw [sound.readers, ← sound.channels]
        exact new
      exact sound.tapped ((getElem?_concat_of_ne _ new).symm.trans found)
        ((getElem?_concat_of_ne _ other).symm.trans here)
  · exact sound.calm

/-- Closing an open channel does not panic. -/
theorem hub_unsubscribe {hub : MonitorHub} {target : ChannelID} {channel : Channel}
    (found : hub.monSubs.get? target = some target) (known : hub.channels[target]? = some channel)
    (opened : channel.closed = false) :
    hub.unsubscribe target = some
      { hub with
        channels := hub.channels.set target { channel with closed := true }
        monSubs := hub.monSubs.erase target } := by
  simp [MonitorHub.unsubscribe, found, known, Channel.close, opened]

/-- One channel and its reader change together. -/
theorem tapped_update (sound : Sound audience) {target : ChannelID} {old new : Channel}
    {change : Reader → Reader} (known : audience.hub.channels[target]? = some old)
    (changed : ∀ {reader : Reader}, Tapped audience.published old reader →
      Tapped audience.published new (change reader))
    {query : ChannelID} {channel : Channel} {reader : Reader}
    (here : (audience.hub.channels.set target new)[query]? = some channel)
    (there : (audience.readers.modify target change)[query]? = some reader) :
    Tapped audience.published channel reader := by
  rcases getElem?_modify_cases there with ⟨rfl, before, former, rfl⟩ | ⟨same, there⟩
  · rw [List.getElem?_set_self (List.getElem?_eq_some_iff.mp known).1] at here
    cases here
    exact changed (sound.tapped known former)
  · rw [List.getElem?_set_ne (Ne.symm same)] at here
    exact sound.tapped here there

/-- The channel that is closed was open, and leaves the registry. -/
theorem unsubscribe (sound : Sound audience) (id : Nat) : Sound (audience.unsubscribe id) := by
  cases found : audience.hub.monSubs.get? id with
  | none =>
      have same : audience.unsubscribe id = audience := by
        simp only [Audience.unsubscribe, MonitorHub.unsubscribe, found]
      rw [same]
      exact sound
  | some target =>
      obtain ⟨rfl, channel, known, opened⟩ := sound.registered.mp found
      have left := hub_unsubscribe found known opened
      simp only [Audience.unsubscribe, left, found]
      have inside : target < audience.hub.channels.length :=
        (List.getElem?_eq_some_iff.mp known).1
      constructor
      · exact sound.ring
      · exact (List.length_set ..).trans sound.channels
      · exact (List.length_modify ..).trans sound.readers
      · intro other query
        simp only [OrderedMap.get?_erase]
        by_cases same : other = target
        · subst same
          simp only [if_pos, reduceCtorEq, false_iff, not_and, not_exists]
          rintro rfl closed here live
          rw [List.getElem?_set_self inside] at here
          cases here
          cases live
        · rw [if_neg same, sound.registered]
          refine and_congr_right fun named => ?_
          rw [List.getElem?_set_ne (named ▸ Ne.symm same)]
      · exact sound.tapped_update known fun tapped => tapped.close opened
      · exact sound.calm

theorem receive (sound : Sound audience) {target : ChannelID}
    (received : audience.receive target = some next) : Sound next := by
  obtain ⟨⟨hub, event⟩, taken, rfl⟩ := Option.map_eq_some_iff.mp received
  rw [MonitorHub.receive] at taken
  split at taken
  next rest closed known =>
    cases taken
    have inside : target < audience.hub.channels.length :=
      (List.getElem?_eq_some_iff.mp known).1
    constructor
    · exact sound.ring
    · exact (List.length_set ..).trans sound.channels
    · exact (List.length_modify ..).trans sound.readers
    · intro id query
      rw [sound.registered]
      refine and_congr_right fun _ => ?_
      by_cases same : query = target
      · subst same
        simp [List.getElem?_set_self inside, known]
      · rw [List.getElem?_set_ne (Ne.symm same)]
    · exact sound.tapped_update known fun tapped => tapped.receive
    · exact sound.calm
  next => cases taken

theorem step {action : AudienceAction} (sound : Sound audience)
    (stepped : audience.step action = some next) : Sound next := by
  cases action with
  | publish event =>
      simp only [Audience.step, sound.calm, Bool.false_eq_true, if_false] at stepped
      cases stepped
      exact sound.publish event
  | subscribe =>
      simp only [Audience.step, sound.calm, Bool.false_eq_true, if_false] at stepped
      cases stepped
      exact sound.subscribe
  | unsubscribe id =>
      simp only [Audience.step, sound.calm, Bool.false_eq_true, if_false] at stepped
      cases stepped
      exact sound.unsubscribe id
  | receive target =>
      simp only [Audience.step, sound.calm, Bool.false_eq_true, if_false] at stepped
      exact sound.receive stepped

end Sound

variable {audience : Audience}

/-- The ring holds the latest events, no publication meets a closed channel, and what a
subscriber gets while it keeps up is everything from at most a ring before its subscription
to its unsubscription, in order. -/
theorem subscribers_see_window (reachable : Reachable step .start audience) :
    audience.hub.monRecent = latest monitorRing audience.published ∧
      audience.hub.monRecent.length = min monitorRing audience.published.length ∧
      audience.panicked = false ∧
      ∀ (target : ChannelID) (channel : Channel) (reader : Reader),
        audience.hub.channels[target]? = some channel →
        audience.readers[target]? = some reader → reader.lagged = false →
        reader.replay ++ reader.received ++ channel.buffer =
          window audience.published (reader.since - monitorRing)
            (reader.stopped.getD audience.published.length) := by
  have sound : Sound audience := reachable.invariant .start fun sound _ => sound.step
  refine ⟨sound.ring, ?_, sound.calm, ?_⟩
  · rw [sound.ring, length_latest]
  · intro target channel reader found here kept
    exact (sound.tapped found here).window_eq kept

/-- A record whose only content is its preview. -/
def demoEvent (preview : String) : MonitorEvent :=
  ⟨"", "", "", "text", "", 0, preview, "", false⟩

/-- One event before a subscription, one during it, one after it. -/
theorem middle_subscriber_window :
    ∃ audience reader, Reachable step .start audience ∧ audience.readers[0]? = some reader ∧
      reader.replay ++ reader.received = [demoEvent "a", demoEvent "b"] ∧
      reader.replay ++ reader.received ++ [] = window audience.published 0 2 := by
  obtain ⟨audience, reachable, checked⟩ := Reachable.exists_of_exec step Audience.start
    [.publish (demoEvent "a"), .subscribe, .publish (demoEvent "b"), .receive 0,
      .unsubscribe 0, .publish (demoEvent "c")]
    (fun (audience : Audience) => decide (
      audience.hub.channels[0]? = some (⟨[], true⟩ : Channel) ∧
      audience.readers[0]? =
        some (⟨[demoEvent "a"], [demoEvent "b"], 1, some 2, false⟩ : Reader)))
    (by decide +kernel)
  obtain ⟨channel, reader⟩ := of_decide_eq_true checked
  exact ⟨audience, _, reachable, reader, rfl,
    (subscribers_see_window reachable).2.2.2 0 _ _ channel reader rfl⟩

end Audience

/-! ## The monitor without its channels -/

namespace Monitor

/-- `SubscribeMonitor`, with the events to replay first. -/
def subscribe (monitor : Monitor) : Monitor × List MonitorEvent :=
  ({ monitor with subs := monitor.subs.put monitor.seq [], seq := monitor.seq + 1 },
    monitor.recent)

/-- `UnsubscribeMonitor`. -/
def unsubscribe (monitor : Monitor) (id : Nat) : Monitor :=
  { monitor with subs := monitor.subs.erase id }

/-- A subscriber takes the next event from its channel. -/
def receive (monitor : Monitor) (id : Nat) : Option (Monitor × MonitorEvent) :=
  match monitor.subs.get? id with
  | some (event :: rest) => some ({ monitor with subs := monitor.subs.put id rest }, event)
  | _ => none

end Monitor

/-- The registered subscribers with what they have not read. -/
def MonitorHub.view (hub : MonitorHub) : Monitor where
  recent := hub.monRecent
  subs := hub.monSubs.mapValues fun target =>
    (hub.channels[target]?.map Channel.buffer).getD []
  seq := hub.monSeq

namespace Audience

variable {audience next : Audience}

/-- Each operation of the monitor is the one on the subscribers' unread events. -/
theorem view_publish (sound : Sound audience) (event : MonitorEvent) :
    (audience.publish event).hub.view = audience.hub.view.publish event := by
  obtain ⟨offered, published, -, each⟩ := sound.hub_publish event
  simp only [Audience.publish, published, MonitorHub.view, Monitor.publish,
    OrderedMap.mapValues_mapValues, Monitor.mk.injEq, and_true]
  refine ⟨rfl, OrderedMap.mapValues_congr _ ?_⟩
  intro id target listed
  have among : target ∈ audience.hub.monSubs.values := List.mem_map.mpr ⟨_, listed, rfl⟩
  obtain ⟨channel, known, -⟩ := sound.mem_values.mp among
  rw [each target, known, Option.map_some, if_pos among, Channel.push]
  by_cases full : channel.full = true
  · have slow : ¬ channel.buffer.length < 64 := Nat.not_lt.mpr (of_decide_eq_true full)
    simp [full, slow]
  · have room : channel.buffer.length < 64 :=
      Nat.lt_of_not_le fun slow => full (decide_eq_true slow)
    simp [full, room]

theorem view_subscribe (sound : Sound audience) :
    audience.subscribe.hub.view = audience.hub.view.subscribe.1 ∧
      audience.hub.subscribe.2.2 = audience.hub.view.subscribe.2 := by
  refine ⟨?_, rfl⟩
  simp only [Audience.subscribe, MonitorHub.subscribe, MonitorHub.view, Monitor.subscribe,
    OrderedMap.mapValues_put, Monitor.mk.injEq, true_and, and_true]
  rw [List.getElem?_concat_length]
  refine congrArg (fun subs => OrderedMap.put subs audience.hub.monSeq []) ?_
  refine OrderedMap.mapValues_congr _ ?_
  intro id target listed
  obtain ⟨channel, known, -⟩ := sound.mem_values.mp (List.mem_map.mpr ⟨_, listed, rfl⟩)
  rw [List.getElem?_append_left (List.getElem?_eq_some_iff.mp known).1]

theorem view_unsubscribe (sound : Sound audience) (id : Nat) :
    (audience.unsubscribe id).hub.view = audience.hub.view.unsubscribe id := by
  cases found : audience.hub.monSubs.get? id with
  | none =>
      have same : audience.unsubscribe id = audience := by
        simp only [Audience.unsubscribe, MonitorHub.unsubscribe, found]
      rw [same, MonitorHub.view, Monitor.unsubscribe, Monitor.mk.injEq]
      refine ⟨rfl, OrderedMap.ext_get? fun key => ?_, rfl⟩
      rw [OrderedMap.get?_erase]
      by_cases here : key = id
      · rw [if_pos here, OrderedMap.get?_mapValues, here, found, Option.map_none]
      · rw [if_neg here]
  | some target =>
      obtain ⟨rfl, channel, known, opened⟩ := sound.registered.mp found
      have left := Sound.hub_unsubscribe found known opened
      simp only [Audience.unsubscribe, left, found, MonitorHub.view, Monitor.unsubscribe,
        OrderedMap.mapValues_erase, Monitor.mk.injEq, true_and, and_true]
      refine congrArg (fun subs => OrderedMap.erase subs target) ?_
      refine OrderedMap.mapValues_congr _ ?_
      intro key place listed
      rw [List.getElem?_set]
      by_cases same : target = place
      · rw [if_pos same, if_pos (List.getElem?_eq_some_iff.mp known).1, ← same, known]
        rfl
      · rw [if_neg same]

theorem view_receive (sound : Sound audience) {target : ChannelID} {hub : MonitorHub}
    {event : MonitorEvent} (registered : target ∈ audience.hub.monSubs.values)
    (received : audience.hub.receive target = some (hub, event)) :
    audience.hub.view.receive target = some (hub.view, event) := by
  rw [MonitorHub.receive] at received
  split at received
  next rest closed known =>
    cases received
    have found : audience.hub.monSubs.get? target = some target :=
      sound.registered.mpr ⟨rfl, sound.mem_values.mp registered⟩
    have unread : audience.hub.view.subs.get? target = some (event :: rest) := by
      rw [MonitorHub.view, OrderedMap.get?_mapValues, found, Option.map_some, known]
      rfl
    simp only [Monitor.receive, unread, Option.some.injEq, Prod.mk.injEq, and_true]
    rw [MonitorHub.view, MonitorHub.view, Monitor.mk.injEq]
    refine ⟨rfl, OrderedMap.ext_get? fun key => ?_, rfl⟩
    rw [OrderedMap.get?_put, OrderedMap.get?_mapValues, OrderedMap.get?_mapValues]
    by_cases same : key = target
    · rw [if_pos same, same, found, Option.map_some,
        List.getElem?_set_self (List.getElem?_eq_some_iff.mp known).1]
      rfl
    · rw [if_neg same]
      cases other : audience.hub.monSubs.get? key with
      | none => rfl
      | some place =>
          have named := (sound.registered.mp other).1
          rw [Option.map_some, Option.map_some, List.getElem?_set_ne]
          rintro rfl
          exact same named.symm
  next => cases received

end Audience

end CopySync.Server
