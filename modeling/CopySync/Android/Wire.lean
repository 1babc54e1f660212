import CopySync.Client.E2e
import CopySync.Foundation.Json

/-!
# Clips on the Android client's side of the wire

`ClipEvent` of `Protocol.kt` as the configuration of `Codec.kt` reads it: unknown members
are skipped, a missing member takes its default, and `null` is a value of the nullable
properties only.  Of what `kotlinx.serialization` reads as a number or a flag, these
readers cover the unquoted literals without exponent, which is what servers write.
-/

namespace CopySync.Android

open Foundation Client

/-- A received clip.  `seq` and `size` are of type `Long`; `targets` stays as it is. -/
structure ReceivedClip where
  id : String
  originDeviceId : String
  seq : Int
  ts : Option String
  mime : List String
  inlineText : Option String
  html : Option String
  blobId : Option String
  name : Option String
  onDemand : Bool
  size : Int
  sha256 : String
  enc : Option EncMeta
  targets : Json

def readString : Json → Option String
  | .string text => some text
  | _ => none

def readBool : Json → Option Bool
  | .bool value => some value
  | _ => none

def readLong : Json → Option Int
  | .number literal => literal.value?.filter fun value => decide (-2 ^ 63 ≤ value ∧ value < 2 ^ 63)
  | _ => none

def readStrings : Json → Option (List String)
  | .array elements => elements.mapM readString
  | _ => none

/-- A nullable property. -/
def nullable {α : Type} (read : Json → Option α) : Json → Option (Option α)
  | .null => some none
  | json => (read json).map some

/-- A property with a default. -/
def orDefault {α : Type} (read : Json → Option α) (default : α) : Option Json → Option α
  | none => some default
  | some json => read json

def readEnc : Json → Option EncMeta
  | .object members => do
      let alg ← orDefault readString "" (Members.get? members "alg")
      let keyId ← orDefault readString "" (Members.get? members "keyId")
      let nonce ← orDefault readString "" (Members.get? members "nonce")
      some ⟨alg, keyId, nonce⟩
  | _ => none

/-- `decodePayload<ClipEvent>()` of an object. -/
def decodeClip (members : Members) : Option ReceivedClip := do
  let id ← (members.get? "id").bind readString
  let originDeviceId ← orDefault readString "" (members.get? "originDeviceId")
  let seq ← orDefault readLong 0 (members.get? "seq")
  let ts ← orDefault (nullable readString) none (members.get? "ts")
  let mime ← orDefault readStrings [] (members.get? "mime")
  let inlineText ← orDefault (nullable readString) none (members.get? "inlineText")
  let html ← orDefault (nullable readString) none (members.get? "html")
  let blobId ← orDefault (nullable readString) none (members.get? "blobId")
  let name ← orDefault (nullable readString) none (members.get? "name")
  let onDemand ← orDefault readBool false (members.get? "onDemand")
  let size ← orDefault readLong 0 (members.get? "size")
  let sha256 ← orDefault readString "" (members.get? "sha256")
  let enc ← orDefault (nullable readEnc) none (members.get? "enc")
  let targets := (members.get? "targets").getD (.string "all")
  some ⟨id, originDeviceId, seq, ts, mime, inlineText, html, blobId, name, onDemand, size, sha256,
    enc, targets⟩

/-! ## Reading what was written -/

section Written

@[simp] theorem mapM_readString (texts : List String) :
    (texts.map Json.string).mapM readString = some texts := by
  induction texts with
  | nil => rfl
  | cons text rest ih => simp [readString, ih]

@[simp] theorem readStrings_array (texts : List String) :
    readStrings (.array (texts.map .string)) = some texts := mapM_readString texts

theorem readLong_ofInt {value : Int} (fits : -2 ^ 63 ≤ value ∧ value < 2 ^ 63) :
    readLong (.number (.ofInt value)) = some value := by
  simp only [readLong, Number.value?_ofInt, Option.filter_some, fits, and_self, decide_true,
    if_true]

/-- A counter is read if and only if it is not too large for a `Long`. -/
theorem readLong_ofNat (value : Nat) :
    readLong (.number (.ofNat value)) = if value < 2 ^ 63 then some (value : Int) else none := by
  simp only [readLong, Number.value?_ofNat, Option.filter_some, decide_eq_true_eq]
  split_ifs with inside fits fits
  · rfl
  · omega
  · omega
  · rfl

theorem readString_string (text : String) : readString (.string text) = some text := by
  rw [readString]

/-- A text that was left out when empty is `null` then. -/
def ifPresent (text : String) : Option String :=
  if text = "" then none else some text

@[simp] theorem orDefault_unlessEmpty (text : String) :
    orDefault (nullable readString) none (Json.unlessEmpty text) = some (ifPresent text) := by
  rw [Json.unlessEmpty, ifPresent]
  split_ifs <;> rfl

@[simp] theorem ifPresent_getD (text : String) : (ifPresent text).getD "" = text := by
  rw [ifPresent]
  split_ifs with empty
  · exact empty.symm
  · rfl

@[simp] theorem orDefault_ifSet (flag : Bool) :
    orDefault readBool false (Json.ifSet flag) = some flag := by
  cases flag <;> rfl

@[simp] theorem orDefault_some {α : Type} (read : Json → Option α) (default : α) (json : Json) :
    orDefault read default (some json) = read json := by rw [orDefault]

end Written

end CopySync.Android
