import CopySync.Server.Relay.Machine
import CopySync.Server.Store.Fifo
import CopySync.Server.Wire

/-!
# Clips that wait in a queue and clips that do not

A clip for a device that is offline is written to the store, read back when the device
registers, and encoded then; a clip for a connected device is encoded at once.  Both devices
get the same frame.
-/

namespace CopySync.Server

open Foundation GoJson

/-! ## Frames -/

def typeClip : String := "clip"

/-- `protocol.Encode`: the payload in an envelope of its type. -/
def encodeFrame (t : String) (d : Json) : Json := .object [("t", .string t), ("d", d)]

/-- The frame a recipient of the clip is sent. -/
def clipFrame (event : ClipEvent) : Json := encodeFrame typeClip (.object (encodeClip event))

/-! ## Queue items in the store -/

/-- The JSON form of `time.Time`: it reads the instant that it wrote, and does not write every
instant. -/
structure TimeFormat where
  marshal : Time → Option String
  unmarshal : String → Option Time
  unmarshal_marshal : ∀ {time : Time} {text : String},
    marshal time = some text → unmarshal text = some time

def TimeFormat.decode (format : TimeFormat) : Decoder Time
  | .null, old => some old
  | .string text, _ => format.unmarshal text
  | _, _ => none

/-- A queue item while it is decoded. -/
structure QueueTarget where
  event : ClipTarget
  enqueuedAt : Time

def queueFields (format : TimeFormat) : Fields QueueTarget :=
  [("event", field (·.event) (fun item event => { item with event }) (decodeStruct clipFields)),
   ("enqueuedAt",
      field (·.enqueuedAt) (fun item enqueuedAt => { item with enqueuedAt }) format.decode)]

/-- What `putJSON` writes for an item. -/
def QueueItem.marshal (format : TimeFormat) (item : QueueItem) : Option Json :=
  (format.marshal item.enqueuedAt).map fun text =>
    .object [("event", .object (encodeClip item.event)), ("enqueuedAt", .string text)]

/-- What `DrainQueue` reads. -/
def QueueItem.unmarshal (format : TimeFormat) (stored : Json) : Option QueueItem :=
  (decodeStruct (queueFields format) stored ⟨⟨.zero, []⟩, Time.zero⟩).map fun item =>
    ⟨item.event.event, item.enqueuedAt⟩

theorem queueFields_distinct (format : TimeFormat) : Distinct (queueFields format) := by
  have names : ["event", "enqueuedAt"].map foldName |>.Nodup := by decide
  exact names

/-! ## The server reads what it writes -/

theorem Targets.unmarshal_marshal (targets : Targets) :
    Targets.unmarshal targets.marshal .zero = some targets.wire := by
  rw [Targets.marshal, Targets.wire]
  by_cases all : targets.all = true
  · rw [if_pos all, if_pos all]
    rfl
  · rw [if_neg all, if_neg all]
    simp only [Targets.unmarshal, decodeSlice_strings]
    rfl

section Wire

variable {event : ClipEvent}

/-- A decoder that starts from the zero clip reads the clip as its wire form carries it. -/
theorem decodeStruct_encodeClip (seq : event.seq < 2 ^ 64)
    (size : -2 ^ 63 ≤ event.size ∧ event.size < 2 ^ 63) :
    ∃ spare, decodeStruct clipFields (.object (encodeClip event)) ⟨.zero, []⟩ =
      some ⟨event.wire, spare⟩ := by
  refine ⟨[], ?_⟩
  simp only [decodeStruct, encodeClip, decodeMembers_append]
  rw [decodeMembers_event 0 rfl rfl, decodeMembers_event 1 rfl rfl,
    decodeMembers_event 2 rfl (decodeUint64_ofNat _ seq),
    decodeMembers_event 3 rfl rfl, decodeMembers_mime event.mime rfl]
  simp only [decodeMembers_nil, Option.bind_some]
  rw [decodeMembers_text 5 rfl _ rfl, Option.bind_some,
    decodeMembers_text 6 rfl _ rfl, Option.bind_some,
    decodeMembers_text 7 rfl _ rfl, Option.bind_some,
    decodeMembers_text 8 rfl _ rfl, Option.bind_some,
    decodeMembers_flag 9 rfl _ rfl, Option.bind_some,
    decodeMembers_event 10 rfl (decodeInt64_ofInt _ size),
    decodeMembers_event 11 rfl rfl,
    decodeMembers_event 12 rfl event.targets.unmarshal_marshal]
  simp only [decodeMembers_nil, Option.bind_some]
  rw [decodeMembers_enc event.enc rfl]
  rfl

/-- What a clip's wire form leaves out is not written. -/
theorem encodeClip_wire (event : ClipEvent) : encodeClip event.wire = encodeClip event := by
  have same : event.targets.wire.marshal = event.targets.marshal := by
    rw [Targets.wire]
    by_cases all : event.targets.all = true
    · rw [if_pos all, Targets.marshal, Targets.marshal, if_pos rfl, if_pos all]
    · rw [if_neg all, Targets.marshal, Targets.marshal, if_neg Bool.false_ne_true, if_neg all,
        Option.getD_some]
  simp only [encodeClip, ClipEvent.wire, same]

/-- An item is read from the store as it was put there, without the broadcast flag. -/
theorem QueueItem.unmarshal_marshal {format : TimeFormat} {item : QueueItem} {stored : Json}
    (seq : item.event.seq < 2 ^ 64) (size : -2 ^ 63 ≤ item.event.size ∧ item.event.size < 2 ^ 63)
    (written : item.marshal format = some stored) :
    QueueItem.unmarshal format stored = some item.persisted := by
  obtain ⟨text, formatted, rfl⟩ := Option.map_eq_some_iff.mp written
  obtain ⟨spare, read⟩ := decodeStruct_encodeClip seq size
  have time : format.decode (.string text) Time.zero = some item.enqueuedAt :=
    format.unmarshal_marshal formatted
  rw [QueueItem.unmarshal, decodeStruct, decodeMembers_cons_at (queueFields_distinct format) 0 rfl]
  simp only [field, read, Option.map_some, Option.bind_some]
  rw [decodeMembers_cons_at (queueFields_distinct format) 1 rfl]
  simp only [field, time, Option.map_some, Option.bind_some, decodeMembers_nil]
  rfl

end Wire

/-! ## Clips that are routed -/

/-- The clips `handleRoute` is given: a frame of a client, decoded and stamped, or a text the
admin broadcasts. -/
inductive Incoming (lib : Library) : ClipEvent → Prop where
  | client {payload : Json} {event : ClipEvent} (origin : DeviceID) (now : Time) :
      decodeClip payload = some event → Incoming lib (event.received lib origin now)
  | broadcast (id text : String) (now : Time) :
      (bytesOf text).length < 2 ^ 63 → Incoming lib (.broadcastOf lib id text now)

variable {lib : Library} {event : ClipEvent}

/-- The integers of a routed clip are in the range of their Go types. -/
theorem Incoming.range (incoming : Incoming lib event) :
    event.seq < 2 ^ 64 ∧ -2 ^ 63 ≤ event.size ∧ event.size < 2 ^ 63 := by
  cases incoming with
  | client origin now decoded =>
      have size := decodeClip_size decoded
      exact ⟨(decodeClip_seq decoded).2, size⟩
  | broadcast id text now fits =>
      have length : (ClipEvent.broadcastOf lib id text now).size = (bytesOf text).length := rfl
      have seq : (ClipEvent.broadcastOf lib id text now).seq = 0 := rfl
      omega

/-- A clip that was queued is sent in the same frame as a clip that was not. -/
theorem queued_frame_eq_live (incoming : Incoming lib event) (format : TimeFormat) (now : Time)
    {stored : Json} (written : QueueItem.marshal format ⟨event, now⟩ = some stored) :
    ∃ item, QueueItem.unmarshal format stored = some item ∧
      clipFrame item.event = clipFrame event := by
  refine ⟨_, QueueItem.unmarshal_marshal incoming.range.1 incoming.range.2 written, ?_⟩
  rw [clipFrame, clipFrame]
  exact congrArg (fun members => encodeFrame typeClip (.object members)) (encodeClip_wire event)

/-- The zero time, and no other. -/
def demoFormat : TimeFormat where
  marshal := fun time => if time = 0 then some "0001-01-01T00:00:00Z" else none
  unmarshal := fun text => if text = "0001-01-01T00:00:00Z" then some 0 else none
  unmarshal_marshal := by
    intro time text formatted
    split at formatted
    next zero =>
      cases formatted
      rw [if_pos rfl, zero]
    next => cases formatted

/-- A clip without types, for one device. -/
theorem untyped_clip_frame :
    ∃ event stored, Incoming plainLibrary event ∧
      QueueItem.marshal demoFormat ⟨event, 0⟩ = some stored ∧
      ∃ item, QueueItem.unmarshal demoFormat stored = some item ∧
        clipFrame item.event = clipFrame event := by
  have decoded : decodeClip (.object [("id", .string "c"), ("mime", .null),
      ("targets", .array [.string "dev_b"])]) =
      some { ClipEvent.zero with id := "c", targets := ⟨false, false, some ["dev_b"]⟩ } := rfl
  exact ⟨_, _, .client "dev_a" 0 decoded, rfl,
    queued_frame_eq_live (.client "dev_a" 0 decoded) demoFormat 0 rfl⟩

end CopySync.Server
