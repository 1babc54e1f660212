import CopySync.Android.Wire
import CopySync.Interop.TextDelivery

/-!
# Clips the server relays and the clients decode

The server accepts a clip without types, or with types set to `null`, and writes `null`
for them; both clients expect a list.  It also accepts counters of 64 bits, where the
Android client has 63.  Up to that, whatever the server accepts is read by both clients
with the values the server read.
-/

namespace CopySync.Interop

open Foundation GoJson Client

/-- What all parties mean by a clip, apart from its addressing. -/
structure Content where
  id : String
  seq : Int
  mime : List String
  inlineText : String
  html : String
  blobId : String
  name : String
  onDemand : Bool
  size : Int
  sha256 : String
  enc : Option EncMeta
  deriving DecidableEq, Repr

namespace Content

def ofServer (event : Server.ClipEvent) : Content where
  id := event.id
  seq := event.seq
  mime := event.mime.getD []
  inlineText := event.inlineText
  html := event.html
  blobId := event.blobID
  name := event.name
  onDemand := event.onDemand
  size := event.size
  sha256 := event.sha256
  enc := event.enc.map EncMeta.onClient

def ofDesktop (event : Desktop.ClipEvent) : Content where
  id := event.id
  seq := event.seq
  mime := event.mime
  inlineText := event.inlineText
  html := event.html
  blobId := event.blobId
  name := event.name
  onDemand := event.onDemand
  size := event.size
  sha256 := event.sha256
  enc := event.enc

/-- On Android a text that is left out of a frame is `null`. -/
def ofAndroid (event : Android.ReceivedClip) : Content where
  id := event.id
  seq := event.seq
  mime := event.mime
  inlineText := event.inlineText.getD ""
  html := event.html.getD ""
  blobId := event.blobId.getD ""
  name := event.name.getD ""
  onDemand := event.onDemand
  size := event.size
  sha256 := event.sha256
  enc := event.enc

end Content

/-- The frame for the recipients is accepted by both clients, and each reads what the
server read. -/
def Compatible (event : Server.ClipEvent) (frame : Members) : Prop :=
  (Desktop.decodeClip frame).map Content.ofDesktop = some (Content.ofServer event) ∧
    (Android.decodeClip frame).map Content.ofAndroid = some (Content.ofServer event)

/-! ## Each client on a frame of the server -/

section Frame

variable {event : Server.ClipEvent}

theorem ofDesktop_onDesktop (mime : List String) :
    Content.ofDesktop (onDesktop event mime) = { Content.ofServer event with mime } := rfl

/-- The desktop client accepts a frame if and only if the types are listed. -/
theorem desktop_accepts (seq : event.seq < 2 ^ 64)
    (size : -2 ^ 63 ≤ event.size ∧ event.size < 2 ^ 63) :
    (Desktop.decodeClip (Server.encodeClip event)).map Content.ofDesktop =
      if event.mime.isSome then some (Content.ofServer event) else none := by
  rw [decodeClip_server seq size]
  cases listed : event.mime with
  | none => rfl
  | some mime => simp [ofDesktop_onDesktop, Content.ofServer, listed]

theorem orDefault_enc (enc : Option Server.EncMeta) :
    Android.orDefault (Android.nullable Android.readEnc) none
      (enc.map Server.EncMeta.marshal) = some (enc.map EncMeta.onClient) := by
  cases enc with
  | none => rfl
  | some enc =>
      simp [Server.EncMeta.marshal, Android.nullable, Android.readEnc, Android.readString,
        EncMeta.onClient]

/-- The event a relayed clip with the given counter and types is on Android. -/
def onAndroid (event : Server.ClipEvent) (seq : Int) (mime : List String) :
    Android.ReceivedClip where
  id := event.id
  originDeviceId := event.originDevice
  seq
  ts := some event.ts
  mime
  inlineText := Android.ifPresent event.inlineText
  html := Android.ifPresent event.html
  blobId := Android.ifPresent event.blobID
  name := Android.ifPresent event.name
  onDemand := event.onDemand
  size := event.size
  sha256 := event.sha256
  enc := event.enc.map EncMeta.onClient
  targets := event.targets.marshal

theorem ofAndroid_onAndroid (mime : List String) :
    Content.ofAndroid (onAndroid event event.seq mime) =
      { Content.ofServer event with mime } := by
  simp [Content.ofAndroid, Content.ofServer, onAndroid]

theorem decodeClip_android (size : -2 ^ 63 ≤ event.size ∧ event.size < 2 ^ 63) :
    Android.decodeClip (Server.encodeClip event) =
      (Android.readLong (.number (.ofNat event.seq))).bind fun seq =>
        event.mime.map fun mime => onAndroid event seq mime := by
  have types : Android.readStrings
      ((event.mime.map fun mime => Json.array (mime.map .string)).getD .null) = event.mime := by
    cases event.mime with
    | none => rfl
    | some mime => exact Android.readStrings_array mime
  simp only [Android.decodeClip, Server.encodeClip, Members.get?_append, Members.get?_cons,
    Members.get?_optional, Members.get?_nil, String.reduceEq, if_true, if_false, Option.or_none,
    Option.none_or]
  simp only [Android.orDefault_some, Android.nullable, Option.map_some, Option.bind_some,
    Android.readString_string, Android.readLong_ofInt size, Android.orDefault_unlessEmpty,
    Android.orDefault_ifSet, orDefault_enc, types]
  generalize Android.readLong (.number (.ofNat event.seq)) = counter
  cases counter with
  | none => rfl
  | some seq =>
      cases event.mime with
      | none => rfl
      | some mime => rfl

/-- The Android client also needs the counter to fit a `Long`. -/
theorem android_accepts (size : -2 ^ 63 ≤ event.size ∧ event.size < 2 ^ 63) :
    (Android.decodeClip (Server.encodeClip event)).map Content.ofAndroid =
      if event.mime.isSome ∧ event.seq < 2 ^ 63 then some (Content.ofServer event) else none := by
  rw [decodeClip_android size, Android.readLong_ofNat]
  cases listed : event.mime with
  | none => simp
  | some mime =>
      by_cases fits : event.seq < 2 ^ 63
      · simp only [if_pos fits, Option.bind_some, Option.map_some, ofAndroid_onAndroid,
          Option.isSome_some, true_and]
        simp [Content.ofServer, listed]
      · rw [if_neg fits, if_neg fun both => fits both.2]
        rfl

end Frame

/-! ## Every payload -/

section Payload

variable {payload : Json} {event : Server.ClipEvent}

theorem ofServer_received (lib : Server.Library) (event : Server.ClipEvent)
    (origin : Server.DeviceID) (now : Server.Time) :
    Content.ofServer (event.received lib origin now) = Content.ofServer event := rfl

/-- Both clients read what the server read if and only if the types are listed and the
counter fits a `Long`. -/
theorem compatible_iff (seq : event.seq < 2 ^ 64)
    (size : -2 ^ 63 ≤ event.size ∧ event.size < 2 ^ 63) :
    Compatible event (Server.encodeClip event) ↔
      event.mime.isSome = true ∧ event.seq < 2 ^ 63 := by
  rw [Compatible, desktop_accepts seq size, android_accepts size]
  constructor
  · rintro ⟨-, android⟩
    by_contra unreadable
    rw [if_neg unreadable] at android
    cases android
  · rintro ⟨listed, fits⟩
    exact ⟨if_pos listed, if_pos ⟨listed, fits⟩⟩

/-- A clip the server accepts and relays is accepted by both clients, with the same
content, if and only if the last value the payload gives for the types is an array and
the last number it gives for the counter fits a `Long`. -/
theorem relayed_clip_compatible (accepted : Server.decodeClip payload = some event)
    (lib : Server.Library) (origin : Server.DeviceID) (now : Server.Time) :
    Compatible event (Server.encodeClip (event.received lib origin now)) ↔
      endsInArray (valuesFor "mime" payload) = true ∧
        lastNumber (valuesFor "seq" payload) 0 < 2 ^ 63 := by
  obtain ⟨counter, seq⟩ := Server.decodeClip_seq accepted
  have size := Server.decodeClip_size accepted
  have relayed := @compatible_iff (event.received lib origin now) seq size
  rw [Compatible, ofServer_received] at relayed
  rw [Compatible, relayed, ← Server.decodeClip_mime accepted, counter]
  exact and_congr_right fun _ => (Nat.cast_lt (α := Int)).symm

end Payload

/-! ## Concrete payloads -/

section Concrete

/-- A clip whose sender leaves the types out. -/
def untyped : Json := .object [("id", .string "c1"), ("inlineText", .string "hi")]

def plainText : Json :=
  .object [("id", .string "c1"), ("seq", .number (.ofNat 7)),
    ("mime", .array [.string "text/plain"]), ("inlineText", .string "hi")]

def untypedClip : Server.ClipEvent :=
  { Server.ClipEvent.zero with id := "c1", inlineText := "hi" }

def plainClip : Server.ClipEvent :=
  { untypedClip with seq := 7, mime := some ["text/plain"] }

theorem decodeClip_untyped : Server.decodeClip untyped = some untypedClip := by
  decide +kernel

theorem decodeClip_plainText : Server.decodeClip plainText = some plainClip := by
  decide +kernel

theorem relayed_plainText :
    Compatible plainClip (Server.encodeClip (plainClip.received Server.plainLibrary "dev_a" 0)) :=
  (relayed_clip_compatible decodeClip_plainText Server.plainLibrary "dev_a" 0).mpr
    (by decide)

/-- The clip without types is relayed with `null` for them, which the desktop client does
not accept. -/
theorem untyped_clip_lost :
    ¬∀ (payload : Json) (event : Server.ClipEvent), Server.decodeClip payload = some event →
      ∀ (lib : Server.Library) (origin : Server.DeviceID) (now : Server.Time),
        Compatible event (Server.encodeClip (event.received lib origin now)) := by
  intro claim
  have read := (claim untyped untypedClip decodeClip_untyped Server.plainLibrary "dev_a" 0).1
  have rejected : Desktop.decodeClip
      (Server.encodeClip (untypedClip.received Server.plainLibrary "dev_a" 0)) = none :=
    decodeClip_server (by decide) (by decide)
  rw [rejected] at read
  cases read

end Concrete

end CopySync.Interop
