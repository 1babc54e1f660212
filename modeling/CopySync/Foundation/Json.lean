import Mathlib.Data.List.Basic
import Mathlib.Algebra.Order.Ring.Int

/-!
# JSON values

What a decoder works on once a text has been parsed.  Strings are decoded, an object is
the list of its members in order and with repetitions, and a number keeps the form of
its literal: decoders read a 64-bit integer from an integer literal only.
-/

namespace CopySync.Foundation

/-- A number literal; `real` has a fraction or an exponent. -/
inductive Number where
  | integer (negative : Bool) (magnitude : Nat)
  | real (literal : String)
  deriving DecidableEq, Repr

namespace Number

def ofNat (value : Nat) : Number := .integer false value

def ofInt (value : Int) : Number := .integer (decide (value < 0)) value.natAbs

/-- The value of an integer literal. -/
def value? : Number → Option Int
  | .integer negative magnitude => some (if negative then -magnitude else magnitude)
  | .real _ => none

@[simp] theorem value?_ofNat (value : Nat) : (ofNat value).value? = some (value : Int) := rfl

@[simp] theorem value?_ofInt (value : Int) : (ofInt value).value? = some value := by
  rw [ofInt, value?]
  by_cases negative : value < 0
  · simp only [negative, decide_true, if_true]
    congr
    omega
  · simp only [negative, decide_false, Bool.false_eq_true, if_false]
    congr
    omega

end Number

inductive Json where
  | null
  | bool (value : Bool)
  | number (literal : Number)
  | string (text : String)
  | array (elements : List Json)
  | object (members : List (String × Json))

/-- The members of an object, in order. -/
abbrev Members := List (String × Json)

namespace Members

/-- A member that is left out when it has no value. -/
def optional (name : String) (value : Option Json) : Members :=
  (value.map fun json => (name, json)).toList

/-- The value a map built from the members holds: of a repeated name, the last one. -/
def get? (members : Members) (name : String) : Option Json :=
  match members with
  | [] => none
  | (key, value) :: rest => (get? rest name).or (if key = name then some value else none)

@[simp] theorem get?_nil (name : String) : get? [] name = none := rfl

@[simp] theorem get?_cons (key name : String) (value : Json) (rest : Members) :
    get? ((key, value) :: rest) name =
      (get? rest name).or (if key = name then some value else none) := rfl

@[simp] theorem get?_append (left right : Members) (name : String) :
    get? (left ++ right) name = (get? right name).or (get? left name) := by
  induction left with
  | nil => simp
  | cons member rest ih =>
      obtain ⟨key, value⟩ := member
      simp [ih, Option.or_assoc]

@[simp] theorem get?_optional (key name : String) (value : Option Json) :
    get? (optional key value) name = if key = name then value else none := by
  cases value with
  | none => simp [optional]
  | some json => simp [optional]

end Members

/-- A text that is left out when it is empty. -/
def Json.unlessEmpty (text : String) : Option Json :=
  if text = "" then none else some (.string text)

/-- A flag that is left out unless it is set. -/
def Json.ifSet (flag : Bool) : Option Json := if flag then some (.bool true) else none

end CopySync.Foundation
