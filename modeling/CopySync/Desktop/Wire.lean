import CopySync.Desktop.Protocol
import CopySync.Foundation.Json

/-!
# Clips on the desktop client's side of the wire

`ClipEvent` as `serde` writes it and reads it back, by the attributes of `protocol.rs`.
A frame's payload goes through `serde_json::Value`, which keeps the last value of a
repeated member.
-/

namespace CopySync.Desktop

open Foundation Client

/-! ## Encoding -/

def Targets.serialize : Targets → Json
  | .all => .string "all"
  | .devices ids => .array (ids.map .string)

def serializeEnc (enc : EncMeta) : Json :=
  .object [("alg", .string enc.alg), ("keyId", .string enc.keyId), ("nonce", .string enc.nonce)]

def encodeClip (event : ClipEvent) : Members :=
  [("id", .string event.id), ("originDeviceId", .string event.originDevice),
    ("seq", .number (.ofNat event.seq)), ("ts", .string event.ts),
    ("mime", .array (event.mime.map .string))] ++
  Members.optional "inlineText" (Json.unlessEmpty event.inlineText) ++
  Members.optional "html" (Json.unlessEmpty event.html) ++
  Members.optional "blobId" (Json.unlessEmpty event.blobId) ++
  Members.optional "name" (Json.unlessEmpty event.name) ++
  Members.optional "onDemand" (Json.ifSet event.onDemand) ++
  [("size", .number (.ofInt event.size)), ("sha256", .string event.sha256),
    ("targets", event.targets.serialize)] ++
  Members.optional "enc" (event.enc.map serializeEnc)

/-! ## Decoding -/

def asString : Json → Option String
  | .string text => some text
  | _ => none

def asBool : Json → Option Bool
  | .bool value => some value
  | _ => none

def asU64 : Json → Option Nat
  | .number (.integer false magnitude) => if magnitude < 2 ^ 64 then some magnitude else none
  | _ => none

/-- `-0` is read as a floating-point number. -/
def asI64 : Json → Option Int
  | .number (.integer false magnitude) =>
      if magnitude < 2 ^ 63 then some magnitude else none
  | .number (.integer true magnitude) =>
      if 0 < magnitude ∧ magnitude ≤ 2 ^ 63 then some (-magnitude) else none
  | _ => none

def asStrings : Json → Option (List String)
  | .array elements => elements.mapM asString
  | _ => none

/-- A field without a default. -/
def required {α : Type} (decode : Json → Option α) (value : Option Json) : Option α :=
  value.bind decode

/-- `#[serde(default)]`. -/
def defaulted {α : Type} (decode : Json → Option α) (default : α) : Option Json → Option α
  | none => some default
  | some json => decode json

def Targets.deserialize : Json → Option Targets
  | .null => some (.devices [])
  | .string text => if text = "all" then some .all else none
  | .array elements => (elements.mapM asString).map .devices
  | _ => none

def deserializeEnc : Json → Option EncMeta
  | .object members => do
      let alg ← required asString (Members.get? members "alg")
      let keyId ← required asString (Members.get? members "keyId")
      let nonce ← defaulted asString "" (Members.get? members "nonce")
      some ⟨alg, keyId, nonce⟩
  | _ => none

/-- `Option<EncMeta>`. -/
def asEnc : Json → Option (Option EncMeta)
  | .null => some none
  | json => (deserializeEnc json).map some

/-- `from_value::<ClipEvent>` of an object. -/
def decodeClip (members : Members) : Option ClipEvent := do
  let id ← required asString (members.get? "id")
  let originDevice ← required asString (members.get? "originDeviceId")
  let seq ← required asU64 (members.get? "seq")
  let ts ← required asString (members.get? "ts")
  let mime ← defaulted asStrings [] (members.get? "mime")
  let inlineText ← defaulted asString "" (members.get? "inlineText")
  let html ← defaulted asString "" (members.get? "html")
  let blobId ← defaulted asString "" (members.get? "blobId")
  let name ← defaulted asString "" (members.get? "name")
  let onDemand ← defaulted asBool false (members.get? "onDemand")
  let size ← required asI64 (members.get? "size")
  let sha256 ← defaulted asString "" (members.get? "sha256")
  let targets ← required Targets.deserialize (members.get? "targets")
  let enc ← defaulted asEnc none (members.get? "enc")
  some ⟨id, originDevice, seq, ts, mime, inlineText, html, blobId, name, onDemand, size, sha256,
    targets, enc⟩

/-! ## Reading what was written -/

section Written

@[simp] theorem mapM_asString (texts : List String) :
    (texts.map Json.string).mapM asString = some texts := by
  induction texts with
  | nil => rfl
  | cons text rest ih => simp [asString, ih]

@[simp] theorem asStrings_array (texts : List String) :
    asStrings (.array (texts.map .string)) = some texts := mapM_asString texts

@[simp] theorem asU64_ofNat {value : Nat} (fits : value < 2 ^ 64) :
    asU64 (.number (.ofNat value)) = some value := by
  simp only [asU64, Number.ofNat, fits, if_true]

@[simp] theorem asI64_ofInt {value : Int} (fits : -2 ^ 63 ≤ value ∧ value < 2 ^ 63) :
    asI64 (.number (.ofInt value)) = some value := by
  rw [Number.ofInt]
  by_cases negative : value < 0
  · have low : 0 < value.natAbs ∧ value.natAbs ≤ 2 ^ 63 := by omega
    simp only [negative, decide_true, asI64, low, and_self, if_true]
    congr
    omega
  · have high : value.natAbs < 2 ^ 63 := by omega
    simp only [negative, decide_false, asI64, high, if_true]
    congr
    omega

/-- A text that was left out when empty is read as it was. -/
@[simp] theorem defaulted_unlessEmpty (text : String) :
    defaulted asString "" (Json.unlessEmpty text) = some text := by
  rw [Json.unlessEmpty]
  split_ifs with empty
  · simp [defaulted, empty]
  · rfl

@[simp] theorem defaulted_ifSet (flag : Bool) :
    defaulted asBool false (Json.ifSet flag) = some flag := by
  cases flag <;> rfl

@[simp] theorem required_some {α : Type} (decode : Json → Option α) (json : Json) :
    required decode (some json) = decode json := rfl

@[simp] theorem defaulted_some {α : Type} (decode : Json → Option α) (default : α)
    (json : Json) : defaulted decode default (some json) = decode json := rfl

end Written

end CopySync.Desktop
