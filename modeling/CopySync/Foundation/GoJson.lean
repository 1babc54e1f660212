import CopySync.Foundation.Json
import Mathlib.Data.List.Induction

/-!
# Decoding by the rules of `encoding/json`

A decoder updates the value it decodes into.  `null` leaves texts, flags, numbers and
structures as they are and resets slices and pointers; a structure takes each member in
turn, matches its name up to case and skips what it does not know, so repeated members
override or extend one another.  A type mismatch fails the decoding as a whole.
-/

namespace CopySync.Foundation.GoJson

universe u v

/-- Decode into an existing value. -/
abbrev Decoder (α : Type u) := Json → α → Option α

def decodeString : Decoder String
  | .null, old => some old
  | .string text, _ => some text
  | _, _ => none

def decodeBool : Decoder Bool
  | .null, old => some old
  | .bool value, _ => some value
  | _, _ => none

/-- `ParseUint` takes no sign. -/
def decodeUint64 : Decoder Nat
  | .null, old => some old
  | .number (.integer false magnitude), _ =>
      if magnitude < 2 ^ 64 then some magnitude else none
  | _, _ => none

def decodeInt64 : Decoder Int
  | .null, old => some old
  | .number literal, _ =>
      literal.value?.filter fun value => decide (-2 ^ 63 ≤ value ∧ value < 2 ^ 63)
  | _, _ => none

/-- A slice with the elements of its array behind its length, which decoding a longer
array into it uncovers again. -/
structure Slice (α : Type u) where
  elements : Option (List α)
  spare : List α
  deriving DecidableEq, Repr

section Composite

variable {α : Type u} (decode : Decoder α) (zero : α)

/-- Decode each element into what its place held before. -/
def decodeElements : List Json → List α → Option (List α)
  | [], _ => some []
  | element :: rest, places => do
      let value ← decode element (places.headD zero)
      let values ← decodeElements rest places.tail
      some (value :: values)

def decodeSlice : Decoder (Slice α)
  | .null, _ => some ⟨none, []⟩
  | .array [], _ => some ⟨some [], []⟩
  | .array elements, old =>
      let places := old.elements.getD [] ++ old.spare
      (decodeElements decode zero elements places).map fun values =>
        ⟨some values, places.drop elements.length⟩
  | _, _ => none

def decodePointer : Decoder (Option α)
  | .null, _ => some none
  | json, old => (decode json (old.getD zero)).map some

end Composite

/-! ## Structures -/

/-- Case folding, as far as it reaches the letters of ASCII: the long s and the Kelvin
sign fold to `S` and `K`. -/
def foldChar (char : Char) : Char :=
  if 'a' ≤ char ∧ char ≤ 'z' then Char.ofNat (char.toNat - 32)
  else if char.toNat = 0x17F then 'S'
  else if char.toNat = 0x212A then 'K'
  else char

def foldName (name : String) : List Char := name.toList.map foldChar

/-- A member name matches a field of plain ASCII letters and digits. -/
def names (field key : String) : Bool := decide (foldName field = foldName key)

/-- The fields of a structure by their JSON names. -/
abbrev Fields (σ : Type u) := List (String × Decoder σ)

variable {σ : Type u} {α : Type v}

/-- One field, as the part of the structure it decodes into. -/
def field (get : σ → α) (set : σ → α → σ) (decode : Decoder α) : Decoder σ :=
  fun json old => (decode json (get old)).map (set old)

/-- One member of an object. -/
def decodeMember (fields : Fields σ) (old : σ) (member : String × Json) : Option σ :=
  match fields.find? fun candidate => names candidate.1 member.1 with
  | some (_, decode) => decode member.2 old
  | none => some old

def decodeMembers (fields : Fields σ) (members : Members) (old : σ) : Option σ :=
  members.foldlM (decodeMember fields) old

def decodeStruct (fields : Fields σ) : Decoder σ
  | .null, old => some old
  | .object members, old => decodeMembers fields members old
  | _, _ => none

/-- The values decoded into a field, in order. -/
def valuesFor (name : String) : Json → List Json
  | .object members =>
      members.filterMap fun member => if names name member.1 then some member.2 else none
  | _ => []

/-! ## One field of a structure -/

/-- What a field does to one part of the structure, which belongs to the field of the
given name: that field decodes into it, every other leaves it alone. -/
def Respects (name : String) (get : σ → α) (decode : Decoder α)
    (candidate : String × Decoder σ) : Prop :=
  ∀ json old new, candidate.2 json old = some new →
    if names candidate.1 name then decode json (get old) = some (get new) else get new = get old

/-- A field of a structure with a part of its own. -/
structure Owns (fields : Fields σ) (name : String) (get : σ → α) (decode : Decoder α) :
    Prop where
  present : ∃ candidate ∈ fields, names candidate.1 name = true
  respected : ∀ candidate ∈ fields, Respects name get decode candidate

theorem respects_own {key name : String} {get : σ → α} {set : σ → α → σ} {decode : Decoder α}
    (own : names key name = true) (put : ∀ old value, get (set old value) = value) :
    Respects name get decode (key, field get set decode) := by
  intro json old new decoded
  obtain ⟨value, inner, rfl⟩ := Option.map_eq_some_iff.mp decoded
  simp [own, inner, put]

theorem respects_other {β : Type v} {key name : String} {get : σ → α} {set : σ → α → σ}
    {decode : Decoder α} {part : σ → β} {partDecode : Decoder β}
    (other : names key name = false) (keeps : ∀ old value, part (set old value) = part old) :
    Respects name part partDecode (key, field get set decode) := by
  intro json old new decoded
  obtain ⟨value, -, rfl⟩ := Option.map_eq_some_iff.mp decoded
  simp [other, keeps]

section Owns

variable {fields : Fields σ} {name : String} {get : σ → α} {decode : Decoder α}
variable {old new : σ}

theorem names_eq {field key : String} (same : names field key = true) :
    foldName field = foldName key := of_decide_eq_true same

/-- What one member does to the part. -/
theorem Owns.member (owns : Owns fields name get decode) {member : String × Json}
    (decoded : decodeMember fields old member = some new) :
    if names name member.1 then decode member.2 (get old) = some (get new)
    else get new = get old := by
  rw [decodeMember] at decoded
  split at decoded
  next key update found =>
    have among := List.mem_of_find?_eq_some found
    have named := List.find?_some found
    have matched : foldName key = foldName member.1 := names_eq named
    have same : names key name = names name member.1 := by
      simp only [names, decide_eq_decide, matched]
      exact eq_comm
    simpa only [same] using owns.respected _ among _ _ _ decoded
  next missing =>
    cases decoded
    split_ifs with own
    · obtain ⟨candidate, among, named⟩ := owns.present
      have absent := List.find?_eq_none.mp missing candidate among
      exact absurd (decide_eq_true ((names_eq named).trans (names_eq own))) absent
    · rfl

/-- The part is what its own members make of it, one after the other. -/
theorem Owns.members (owns : Owns fields name get decode) {members : Members}
    (decoded : decodeMembers fields members old = some new) :
    (valuesFor name (.object members)).foldlM (fun part json => decode json part) (get old) =
      some (get new) := by
  induction members generalizing old with
  | nil =>
      cases decoded
      rfl
  | cons member rest ih =>
      obtain ⟨middle, first, others⟩ := Option.bind_eq_some_iff.mp decoded
      have step := owns.member first
      have later := ih others
      simp only [valuesFor, List.filterMap_cons] at later ⊢
      split_ifs at step with own
      · simpa [own, step] using later
      · simpa [own, ← step] using later

theorem Owns.struct (owns : Owns fields name get decode) {json : Json}
    (decoded : decodeStruct fields json old = some new) :
    (valuesFor name json).foldlM (fun part json => decode json part) (get old) =
      some (get new) := by
  cases json with
  | object members => exact owns.members decoded
  | null =>
      cases decoded
      rfl
  | _ => cases decoded

end Owns

/-! ## Members under the names of the fields -/

section Named

variable {fields : Fields σ} {key : String} {decode : Decoder σ} {old : σ} {rest : Members}
variable {json : Json}

/-- No two fields of the structure answer to one name. -/
def Distinct (fields : Fields σ) : Prop := (fields.map fun field => foldName field.1).Nodup

instance (fields : Fields σ) : Decidable (Distinct fields) :=
  inferInstanceAs (Decidable (List.Nodup _))

theorem decodeMember_of_mem (distinct : Distinct fields) (among : (key, decode) ∈ fields) :
    decodeMember fields old (key, json) = decode json old := by
  have found : fields.find? (fun candidate => names candidate.1 key) = some (key, decode) := by
    induction fields with
    | nil => cases among
    | cons head others ih =>
        obtain ⟨fresh, later⟩ := List.nodup_cons.mp distinct
        rcases List.mem_cons.mp among with rfl | among
        · exact List.find?_cons_of_pos (decide_eq_true rfl)
        · rw [List.find?_cons_of_neg, ih later among]
          intro same
          exact fresh (List.mem_map.mpr ⟨_, among, (of_decide_eq_true same).symm⟩)
  simp [decodeMember, found]

theorem decodeMembers_append (left right : Members) :
    decodeMembers fields (left ++ right) old =
      (decodeMembers fields left old).bind (decodeMembers fields right) := by
  rw [decodeMembers, List.foldlM_append]
  rfl

@[simp] theorem decodeMembers_nil : decodeMembers fields [] old = some old := rfl

/-- A member under the name of the field at some place. -/
theorem decodeMembers_cons_at (distinct : Distinct fields) (index : Nat)
    (found : fields[index]? = some (key, decode)) :
    decodeMembers fields ((key, json) :: rest) old =
      (decode json old).bind (decodeMembers fields rest) := by
  rw [← decodeMember_of_mem distinct (List.mem_of_getElem? found)]
  rfl

/-- A member that is left out leaves the structure as it is. -/
theorem decodeMembers_optional_at (distinct : Distinct fields) (index : Nat)
    (found : fields[index]? = some (key, decode)) (value : Option Json) :
    decodeMembers fields (Members.optional key value) old =
      value.elim (some old) fun json => decode json old := by
  cases value with
  | none => rfl
  | some json =>
      have single : decodeMembers fields [(key, json)] old =
          (decode json old).bind (decodeMembers fields []) :=
        decodeMembers_cons_at distinct index found
      exact single.trans (Option.bind_fun_some _)

end Named

/-- Leaving out an empty text decodes like writing it. -/
theorem elim_unlessEmpty {get : σ → String} {set : σ → String → σ} {old : σ} (text : String)
    (vacant : set old "" = old) :
    (Json.unlessEmpty text).elim (some old) (fun json => field get set decodeString json old) =
      some (set old text) := by
  rw [Json.unlessEmpty]
  split_ifs with empty
  · simp [empty, vacant]
  · rfl

theorem elim_ifSet {get : σ → Bool} {set : σ → Bool → σ} {old : σ} (flag : Bool)
    (vacant : set old false = old) :
    (Json.ifSet flag).elim (some old) (fun json => field get set decodeBool json old) =
      some (set old flag) := by
  cases flag with
  | false => simp [Json.ifSet, vacant]
  | true => rfl

/-- A fresh slice takes the texts of an array. -/
theorem decodeElements_strings (texts : List String) :
    decodeElements decodeString "" (texts.map .string) [] = some texts := by
  induction texts with
  | nil => rfl
  | cons text rest ih => simp [decodeElements, decodeString, ih]

theorem decodeSlice_strings (texts : List String) :
    decodeSlice decodeString "" (.array (texts.map .string)) ⟨none, []⟩ =
      some ⟨some texts, []⟩ := by
  cases texts with
  | nil => rfl
  | cons text rest =>
      have all := decodeElements_strings (text :: rest)
      simp only [List.map_cons] at all
      simp [decodeSlice, all]

theorem decodeUint64_ofNat {value : Nat} (old : Nat) (fits : value < 2 ^ 64) :
    decodeUint64 (.number (.ofNat value)) old = some value := by
  simp only [decodeUint64, Number.ofNat, fits, if_true]

theorem decodeInt64_ofInt {value : Int} (old : Int)
    (fits : -2 ^ 63 ≤ value ∧ value < 2 ^ 63) :
    decodeInt64 (.number (.ofInt value)) old = some value := by
  simp only [decodeInt64, Number.value?_ofInt, Option.filter_some, fits, and_self, decide_true,
    if_true]

/-! ## The last value decides -/

/-- Whether the last of several values is an array. -/
def endsInArray (values : List Json) : Bool :=
  match values.getLast? with
  | some (.array _) => true
  | _ => false

/-- The number left by the last value that is not `null`. -/
def lastNumber (values : List Json) (old : Int) : Int :=
  values.foldl
    (fun number json =>
      match json with
      | .number literal => literal.value?.getD number
      | _ => number)
    old

/-- A slice is non-nil after decoding if and only if the last value was an array. -/
theorem decodeSlice_isSome {decode : Decoder α} {zero : α} {values : List Json}
    {old new : Slice α} (vacant : old.elements = none)
    (decoded : values.foldlM (fun part json => decodeSlice decode zero json part) old =
      some new) : new.elements.isSome = endsInArray values := by
  induction values using List.reverseRecOn generalizing new with
  | nil =>
      cases decoded
      simp [vacant, endsInArray]
  | append_singleton rest json _ =>
      rw [List.foldlM_append] at decoded
      obtain ⟨middle, -, last⟩ := Option.bind_eq_some_iff.mp decoded
      simp only [List.foldlM_cons, List.foldlM_nil, bind_pure] at last
      simp only [endsInArray, List.getLast?_append, List.getLast?_singleton, Option.some_or]
      cases json with
      | null =>
          cases last
          rfl
      | array elements =>
          cases elements with
          | nil =>
              cases last
              rfl
          | cons element elements =>
              obtain ⟨values, -, rfl⟩ := Option.map_eq_some_iff.mp last
              rfl
      | _ => cases last

theorem decodeUint64_some {json : Json} {old new : Nat}
    (decoded : decodeUint64 json old = some new) :
    (json = .null ∧ new = old) ∨ (json = .number (.integer false new) ∧ new < 2 ^ 64) := by
  unfold decodeUint64 at decoded
  split at decoded
  next =>
    cases decoded
    exact .inl ⟨rfl, rfl⟩
  next magnitude =>
    split_ifs at decoded with fits
    cases decoded
    exact .inr ⟨rfl, fits⟩
  next => cases decoded

/-- An unsigned number is what its last literal says, and in range. -/
theorem decodeUint64_last {values : List Json} {old new : Nat} (fits : old < 2 ^ 64)
    (decoded : values.foldlM (fun part json => decodeUint64 json part) old = some new) :
    lastNumber values old = new ∧ new < 2 ^ 64 := by
  induction values generalizing old with
  | nil =>
      cases decoded
      exact ⟨rfl, fits⟩
  | cons json rest ih =>
      obtain ⟨middle, first, others⟩ := Option.bind_eq_some_iff.mp decoded
      rcases decodeUint64_some first with ⟨rfl, rfl⟩ | ⟨rfl, small⟩
      · exact ih fits others
      · exact ih small others

theorem decodeInt64_range {values : List Json} {old new : Int}
    (fits : -2 ^ 63 ≤ old ∧ old < 2 ^ 63)
    (decoded : values.foldlM (fun part json => decodeInt64 json part) old = some new) :
    -2 ^ 63 ≤ new ∧ new < 2 ^ 63 := by
  induction values generalizing old with
  | nil =>
      cases decoded
      exact fits
  | cons json rest ih =>
      obtain ⟨middle, first, others⟩ := Option.bind_eq_some_iff.mp decoded
      refine ih ?_ others
      cases json with
      | null =>
          cases first
          exact fits
      | number literal =>
          have inside := (Option.filter_eq_some_iff.mp first).2
          exact of_decide_eq_true inside
      | _ => cases first

end CopySync.Foundation.GoJson
