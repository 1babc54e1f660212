import CopySync.Foundation.GoJson
import CopySync.Server.Types

/-!
# Clips on the server's side of the wire

`ClipEvent` as `encoding/json` reads it from the payload of a frame and writes it into
the frames for the recipients, by the tags of `model/types.go`.
-/

namespace CopySync.Server

open Foundation GoJson

/-- A clip while it is decoded: `mimeSpare` is what the array of `Mime` holds behind its
length. -/
structure ClipTarget where
  event : ClipEvent
  mimeSpare : List String

def EncMeta.zero : EncMeta := ⟨"", "", ""⟩

/-- `Targets{}`. -/
def Targets.zero : Targets := ⟨false, false, none⟩

/-- `ClipEvent{}`. -/
def ClipEvent.zero : ClipEvent where
  id := ""
  originDevice := ""
  seq := 0
  ts := ""
  mime := none
  inlineText := ""
  html := ""
  blobID := ""
  name := ""
  onDemand := false
  size := 0
  sha256 := ""
  targets := .zero
  enc := none

/-! ## Decoding -/

/-- `Targets.UnmarshalJSON`: `null`, the string `"all"`, or an array of ids. -/
def Targets.unmarshal : Decoder Targets
  | .null, old => some { old with all := false, devices := none }
  | .string text, old =>
      if text = "all" then some { old with all := true, devices := none } else none
  | .array elements, old =>
      (decodeSlice decodeString "" (.array elements) ⟨none, []⟩).map fun ids =>
        { old with all := false, devices := ids.elements }
  | _, _ => none

def encFields : Fields EncMeta :=
  [("alg", field (·.alg) (fun enc alg => { enc with alg }) decodeString),
   ("keyId", field (·.keyID) (fun enc keyID => { enc with keyID }) decodeString),
   ("nonce", field (·.nonce) (fun enc nonce => { enc with nonce }) decodeString)]

namespace ClipTarget

/-- The slice `Mime` decodes into. -/
def mime (target : ClipTarget) : Slice String := ⟨target.event.mime, target.mimeSpare⟩

def setMime (target : ClipTarget) (slice : Slice String) : ClipTarget :=
  ⟨{ target.event with mime := slice.elements }, slice.spare⟩

end ClipTarget

/-- A field of the event other than `Mime`. -/
def eventField {α : Type} (get : ClipEvent → α) (set : ClipEvent → α → ClipEvent)
    (decode : Decoder α) : Decoder ClipTarget :=
  field (fun target => get target.event)
    (fun target value => { target with event := set target.event value }) decode

def clipFields : Fields ClipTarget :=
  [("id", eventField (·.id) (fun event id => { event with id }) decodeString),
   ("originDeviceId",
      eventField (·.originDevice) (fun event originDevice => { event with originDevice })
        decodeString),
   ("seq", eventField (·.seq) (fun event seq => { event with seq }) decodeUint64),
   ("ts", eventField (·.ts) (fun event ts => { event with ts }) decodeString),
   ("mime", field ClipTarget.mime ClipTarget.setMime (decodeSlice decodeString "")),
   ("inlineText",
      eventField (·.inlineText) (fun event inlineText => { event with inlineText })
        decodeString),
   ("html", eventField (·.html) (fun event html => { event with html }) decodeString),
   ("blobId", eventField (·.blobID) (fun event blobID => { event with blobID }) decodeString),
   ("name", eventField (·.name) (fun event name => { event with name }) decodeString),
   ("onDemand",
      eventField (·.onDemand) (fun event onDemand => { event with onDemand }) decodeBool),
   ("size", eventField (·.size) (fun event size => { event with size }) decodeInt64),
   ("sha256", eventField (·.sha256) (fun event sha256 => { event with sha256 }) decodeString),
   ("targets",
      eventField (·.targets) (fun event targets => { event with targets }) Targets.unmarshal),
   ("enc",
      eventField (·.enc) (fun event enc => { event with enc })
        (decodePointer (decodeStruct encFields) .zero))]

/-- `Envelope.Decode` into a `ClipEvent`; the read pump drops a frame that fails. -/
def decodeClip (payload : Json) : Option ClipEvent :=
  (decodeStruct clipFields payload ⟨.zero, []⟩).map (·.event)

/-! ## Encoding -/

/-- `Targets.MarshalJSON`. -/
def Targets.marshal (targets : Targets) : Json :=
  if targets.all then .string "all"
  else .array ((targets.devices.getD []).map .string)

def EncMeta.marshal (enc : EncMeta) : Json :=
  .object [("alg", .string enc.alg), ("keyId", .string enc.keyID), ("nonce", .string enc.nonce)]

/-- The members of an encoded clip.  A nil `Mime` is `null`. -/
def encodeClip (event : ClipEvent) : Members :=
  [("id", .string event.id), ("originDeviceId", .string event.originDevice),
    ("seq", .number (.ofNat event.seq)), ("ts", .string event.ts),
    ("mime", (event.mime.map fun mime => Json.array (mime.map .string)).getD .null)] ++
  Members.optional "inlineText" (Json.unlessEmpty event.inlineText) ++
  Members.optional "html" (Json.unlessEmpty event.html) ++
  Members.optional "blobId" (Json.unlessEmpty event.blobID) ++
  Members.optional "name" (Json.unlessEmpty event.name) ++
  Members.optional "onDemand" (Json.ifSet event.onDemand) ++
  [("size", .number (.ofInt event.size)), ("sha256", .string event.sha256),
    ("targets", event.targets.marshal)] ++
  Members.optional "enc" (event.enc.map EncMeta.marshal)

/-! ## Members under the names of the fields -/

theorem clipFields_distinct : Distinct clipFields := by decide

theorem encFields_distinct : Distinct encFields := by decide

section Named

variable {α : Type} {get : ClipEvent → α} {set : ClipEvent → α → ClipEvent} {key : String}
variable {target : ClipTarget}

/-- A member of an event field other than `Mime`. -/
theorem decodeMembers_event {decode : Decoder α} {json : Json} {rest : Members} {value : α}
    (index : Nat) (found : clipFields[index]? = some (key, eventField get set decode))
    (read : decode json (get target.event) = some value) :
    decodeMembers clipFields ((key, json) :: rest) target =
      decodeMembers clipFields rest { target with event := set target.event value } := by
  rw [decodeMembers_cons_at clipFields_distinct index found]
  simp [eventField, field, read]

theorem decodeMembers_text {set : ClipEvent → String → ClipEvent} {get : ClipEvent → String}
    (index : Nat) (found : clipFields[index]? = some (key, eventField get set decodeString))
    (text : String) (vacant : set target.event "" = target.event) :
    decodeMembers clipFields (Members.optional key (Json.unlessEmpty text)) target =
      some { target with event := set target.event text } := by
  rw [decodeMembers_optional_at clipFields_distinct index found]
  exact elim_unlessEmpty text (by rw [vacant])

theorem decodeMembers_flag {set : ClipEvent → Bool → ClipEvent} {get : ClipEvent → Bool}
    (index : Nat) (found : clipFields[index]? = some (key, eventField get set decodeBool))
    (flag : Bool) (vacant : set target.event false = target.event) :
    decodeMembers clipFields (Members.optional key (Json.ifSet flag)) target =
      some { target with event := set target.event flag } := by
  rw [decodeMembers_optional_at clipFields_distinct index found]
  exact elim_ifSet flag (by rw [vacant])

/-- The member of `Mime`. -/
theorem decodeMembers_mime (mime : Option (List String)) {rest : Members}
    (fresh : target.mime = ⟨none, []⟩) :
    decodeMembers clipFields
        (("mime", (mime.map fun mime => Json.array (mime.map .string)).getD .null) :: rest)
        target =
      decodeMembers clipFields rest (target.setMime ⟨mime, []⟩) := by
  rw [decodeMembers_cons_at clipFields_distinct 4 rfl]
  cases mime with
  | none => rfl
  | some mime =>
      simp only [field, fresh, Option.map_some, Option.getD_some, decodeSlice_strings,
        Option.bind_some]

theorem EncMeta.decode_marshal (enc : EncMeta) :
    decodePointer (decodeStruct encFields) .zero enc.marshal none = some (some enc) := by
  simp only [decodePointer, EncMeta.marshal, decodeStruct, Option.getD_none]
  rw [decodeMembers_cons_at encFields_distinct 0 rfl]
  simp only [field, decodeString, Option.map_some, Option.bind_some]
  rw [decodeMembers_cons_at encFields_distinct 1 rfl]
  simp only [field, decodeString, Option.map_some, Option.bind_some]
  rw [decodeMembers_cons_at encFields_distinct 2 rfl]
  rfl

theorem decodeMembers_enc (enc : Option EncMeta) (fresh : target.event.enc = none) :
    decodeMembers clipFields (Members.optional "enc" (enc.map EncMeta.marshal)) target =
      some { target with event := { target.event with enc } } := by
  rw [decodeMembers_optional_at clipFields_distinct 13 rfl]
  cases enc with
  | none =>
      obtain ⟨decoded, spare⟩ := target
      cases decoded
      cases fresh
      rfl
  | some mark =>
      simp only [Option.map_some, Option.elim_some, eventField, field, fresh,
        EncMeta.decode_marshal]

end Named

/-! ## What the decoder guarantees -/

section Decoded

theorem owns_mime :
    Owns clipFields "mime" ClipTarget.mime (decodeSlice decodeString "") := by
  refine ⟨⟨_, List.mem_of_getElem? (i := 4) rfl, by decide⟩, ?_⟩
  simp only [clipFields, List.forall_mem_cons]
  and_intros
  all_goals first
    | exact respects_other (by decide) fun _ _ => rfl
    | exact respects_own (by decide) fun _ _ => rfl
    | exact fun _ absent => absurd absent List.not_mem_nil

theorem owns_seq : Owns clipFields "seq" (fun target => target.event.seq) decodeUint64 := by
  refine ⟨⟨_, List.mem_of_getElem? (i := 2) rfl, by decide⟩, ?_⟩
  simp only [clipFields, List.forall_mem_cons]
  and_intros
  all_goals first
    | exact respects_other (by decide) fun _ _ => rfl
    | exact respects_own (by decide) fun _ _ => rfl
    | exact fun _ absent => absurd absent List.not_mem_nil

theorem owns_size : Owns clipFields "size" (fun target => target.event.size) decodeInt64 := by
  refine ⟨⟨_, List.mem_of_getElem? (i := 10) rfl, by decide⟩, ?_⟩
  simp only [clipFields, List.forall_mem_cons]
  and_intros
  all_goals first
    | exact respects_other (by decide) fun _ _ => rfl
    | exact respects_own (by decide) fun _ _ => rfl
    | exact fun _ absent => absurd absent List.not_mem_nil

variable {payload : Json} {event : ClipEvent}

/-- The types of a decoded clip are listed if and only if the payload's last value for
them is an array. -/
theorem decodeClip_mime (decoded : decodeClip payload = some event) :
    event.mime.isSome = endsInArray (valuesFor "mime" payload) := by
  obtain ⟨target, struct, rfl⟩ := Option.map_eq_some_iff.mp decoded
  exact decodeSlice_isSome rfl (owns_mime.struct struct)

theorem decodeClip_seq (decoded : decodeClip payload = some event) :
    lastNumber (valuesFor "seq" payload) 0 = event.seq ∧ event.seq < 2 ^ 64 := by
  obtain ⟨target, struct, rfl⟩ := Option.map_eq_some_iff.mp decoded
  exact decodeUint64_last (by decide) (owns_seq.struct struct)

theorem decodeClip_size (decoded : decodeClip payload = some event) :
    -2 ^ 63 ≤ event.size ∧ event.size < 2 ^ 63 := by
  obtain ⟨target, struct, rfl⟩ := Option.map_eq_some_iff.mp decoded
  exact decodeInt64_range (by decide) (owns_size.struct struct)

end Decoded

end CopySync.Server
