import CopySync.Foundation.Recoding
import CopySync.Foundation.Utf8
import Mathlib.Data.List.DropRight

/-!
# Characters as the standard libraries classify them

Texts are lists of characters.  The tables of the Unicode character database that the
libraries of the three languages consult are parameters, with the documented facts
that a reader of ASCII patterns depends on.  White space is listed.
-/

namespace CopySync.Foundation

/-- A text, by its characters. -/
abbrev Text := List Char

/-- A property of all characters of a text, by evaluation. -/
theorem forall_of_all {property : Char → Prop} [DecidablePred property] {text : Text}
    (checked : (text.all fun char => decide (property char)) = true) :
    ∀ char ∈ text, property char := by
  simpa [List.all_eq_true] using checked

/-! ## White space -/

/-- The property `White_Space`. -/
def isWhiteSpace (char : Char) : Bool :=
  let code := char.toNat
  decide (9 ≤ code ∧ code ≤ 13 ∨ code = 0x20 ∨ code = 0x85 ∨ code = 0xA0 ∨ code = 0x1680 ∨
    0x2000 ≤ code ∧ code ≤ 0x200A ∨ code = 0x2028 ∨ code = 0x2029 ∨ code = 0x202F ∨
    code = 0x205F ∨ code = 0x3000)

section Trim

universe u v

variable {α : Type u} {β : Type v}

/-- A list without what satisfies a test at either end. -/
def trimBy (test : α → Bool) (list : List α) : List α :=
  (list.dropWhile test).rdropWhile test

theorem trimBy_sublist (test : α → Bool) (list : List α) : (trimBy test list).Sublist list :=
  have kept : trimBy test list <+: list.dropWhile test := List.rdropWhile_prefix test _
  kept.sublist.trans (list.dropWhile_sublist test)

theorem trimBy_concat {test : α → Bool} (list : List α) {last : α} (hidden : test last = true) :
    trimBy test (list ++ [last]) = trimBy test list := by
  rw [trimBy, trimBy, List.dropWhile_append]
  by_cases blank : (list.dropWhile test).isEmpty = true
  · rw [if_pos blank, List.isEmpty_iff.mp blank, List.dropWhile_cons_of_pos hidden,
      List.dropWhile_nil]
  · rw [if_neg blank, List.rdropWhile_concat_pos _ _ _ hidden]

theorem mem_dropWhile_or (test : α → Bool) {list : List α} {element : α}
    (among : element ∈ list) : element ∈ list.dropWhile test ∨ test element = true := by
  rw [← List.takeWhile_append_dropWhile (p := test) (l := list), List.mem_append] at among
  rcases among with front | back
  · exact .inr (List.mem_takeWhile_imp front)
  · exact .inl back

theorem trimBy_congr {test other : α → Bool} {list : List α}
    (same : ∀ element ∈ list, test element = other element) :
    trimBy test list = trimBy other list := by
  have front {list : List α} (same : ∀ element ∈ list, test element = other element) :
      list.dropWhile test = list.dropWhile other := by
    induction list with
    | nil => rfl
    | cons element rest ih =>
        rw [List.dropWhile_cons, List.dropWhile_cons, same element List.mem_cons_self,
          ih fun later among => same later (List.mem_cons_of_mem _ among)]
  rw [trimBy, trimBy, front same, List.rdropWhile, List.rdropWhile, front]
  intro element among
  exact same element ((list.dropWhile_sublist other).subset (List.mem_reverse.mp among))

/-- Only what satisfies the test is trimmed. -/
theorem mem_trimBy_or {test : α → Bool} {list : List α} {element : α} (among : element ∈ list) :
    element ∈ trimBy test list ∨ test element = true := by
  rcases mem_dropWhile_or test among with kept | trimmed
  · rw [← List.mem_reverse] at kept
    rcases mem_dropWhile_or test kept with kept | trimmed
    · exact .inl (List.mem_reverse.mpr kept)
    · exact .inr trimmed
  · exact .inr trimmed

theorem infix_dropWhile {test : α → Bool} {first : α} (visible : test first = false)
    (pattern list : List α) :
    first :: pattern <:+: list.dropWhile test ↔ first :: pattern <:+: list := by
  induction list with
  | nil => rfl
  | cons element rest ih =>
      cases passes : test element with
      | false => rw [List.dropWhile_cons_of_neg (by simp [passes])]
      | true =>
          rw [List.dropWhile_cons_of_pos passes, ih, List.infix_cons_iff, List.cons_prefix_cons]
          refine ⟨.inr, ?_⟩
          rintro (⟨rfl, -⟩ | occurs)
          · exact absurd passes (by simp [visible])
          · exact occurs

/-- Trimming does not affect the occurrences of a pattern with visible ends. -/
theorem infix_trimBy {test : α → Bool} {first last : α} (visible : test first = false)
    (visibleEnd : test last = false) {pattern middle : List α} (starts : pattern = first :: middle)
    (front : List α) (ends : pattern = front ++ [last]) (list : List α) :
    pattern <:+: trimBy test list ↔ pattern <:+: list := by
  have backward : pattern.reverse = last :: front.reverse := by
    rw [ends, List.reverse_append, List.reverse_singleton, List.singleton_append]
  rw [trimBy, List.rdropWhile, ← List.reverse_infix, List.reverse_reverse, backward,
    infix_dropWhile visibleEnd, ← backward, List.reverse_infix, starts, infix_dropWhile visible]

theorem dropWhile_flatMap {image : α → List β} (test : α → Bool) {unitTest : β → Bool}
    (uniform : ∀ element, ∀ unit ∈ image element, unitTest unit = test element)
    (shown : ∀ element, image element ≠ []) (list : List α) :
    (list.flatMap image).dropWhile unitTest = (list.dropWhile test).flatMap image := by
  induction list with
  | nil => rfl
  | cons element rest ih =>
      cases passes : test element with
      | true =>
          rw [List.dropWhile_cons_of_pos passes, List.flatMap_cons, ← ih]
          exact List.dropWhile_append_of_pos fun unit among =>
            (uniform element unit among).trans passes
      | false =>
          rw [List.dropWhile_cons_of_neg (by simp [passes]), List.flatMap_cons]
          obtain ⟨unit, image, same⟩ := List.exists_cons_of_ne_nil (shown element)
          have fails : unitTest unit = false :=
            (uniform element unit (by simp [same])).trans passes
          rw [same, List.cons_append, List.dropWhile_cons_of_neg (by simp [fails])]

/-- Trimming what a list is recoded to, when the parts of an element pass together. -/
theorem trimBy_flatMap {image : α → List β} {test : α → Bool} {unitTest : β → Bool}
    (uniform : ∀ element, ∀ unit ∈ image element, unitTest unit = test element)
    (shown : ∀ element, image element ≠ []) (list : List α) :
    trimBy unitTest (list.flatMap image) = (trimBy test list).flatMap image := by
  rw [trimBy, trimBy, dropWhile_flatMap test uniform shown, List.rdropWhile, List.rdropWhile,
    List.reverse_flatMap, dropWhile_flatMap test (by simpa using uniform)
      (by simpa using shown), List.reverse_flatMap]
  simp only [Function.comp_def, List.reverse_reverse]

end Trim

/-! ## Tables -/

/-- The tables of the character database: the general categories `L`, `Nd` and `N`, the
property `Alphabetic`, the simple mappings to lower and upper case, simple case folding,
and the full mapping to lower case with the condition `Final_Sigma` on what surrounds
a character. -/
structure CharacterData where
  letter : Char → Bool
  decimal : Char → Bool
  numeric : Char → Bool
  alphabetic : Char → Bool
  lower : Char → Char
  upper : Char → Char
  fold : Char → Char
  fullLower : Char → Text
  finalSigma : Text → Text → Bool

def IsAscii (char : Char) : Prop := char.toNat < 128

instance (char : Char) : Decidable (IsAscii char) := inferInstanceAs (Decidable (_ < _))

/-- The part of ASCII to which case relates no character beyond ASCII: there are the Kelvin
sign, the long s, and the dotted and the dotless i. -/
def IsPlain (char : Char) : Prop :=
  char.toNat < 128 ∧ char ≠ 'i' ∧ char ≠ 'k' ∧ char ≠ 's'

instance (char : Char) : Decidable (IsPlain char) := inferInstanceAs (Decidable (_ ∧ _))

/-! ## ASCII among bytes -/

theorem toNat_toUInt8 {char : Char} (ascii : IsAscii char) : char.toUInt8.toNat = char.toNat :=
  toNat_ofNat (Nat.lt_trans ascii (by decide))

theorem distinct_toUInt8 : Recodes.Distinct Char.toUInt8 IsAscii := by
  intro left right leftAscii rightAscii same
  apply Char.toNat_inj.mp
  rw [← toNat_toUInt8 leftAscii, ← toNat_toUInt8 rightAscii, same]

/-- The ASCII characters keep their codes among the bytes. -/
theorem recodes_utf8 (text : Text) :
    Recodes Char.toUInt8 IsAscii text (text.flatMap String.utf8EncodeChar) := by
  refine Recodes.of_flatMap (fun char ascii => utf8_ascii ascii)
    (fun char _ => String.utf8EncodeChar_ne_nil)
    (fun char notAscii other ascii among => ?_) text
  have large : 128 ≤ other.toUInt8.toNat := utf8_large (Nat.le_of_not_lt notAscii) among
  have small : other.toNat < 128 := ascii
  rw [toNat_toUInt8 ascii] at large
  omega

namespace CharacterData

/-- What the character database documents. -/
structure Standard (data : CharacterData) : Prop where
  letter_ascii : ∀ char, char.toNat < 128 → data.letter char = char.isAlpha
  decimal_ascii : ∀ char, char.toNat < 128 → data.decimal char = char.isDigit
  numeric_ascii : ∀ char, char.toNat < 128 → data.numeric char = char.isDigit
  alphabetic_ascii : ∀ char, char.toNat < 128 → data.alphabetic char = char.isAlpha
  lower_ascii : ∀ char, char.toNat < 128 → data.lower char = char.toLower
  upper_ascii : ∀ char, char.toNat < 128 → data.upper char = char.toUpper
  fold_ascii : ∀ char, char.toNat < 128 → data.fold char = char.toLower
  fullLower_ascii : ∀ char, char.toNat < 128 → data.fullLower char = [char.toLower]
  letter_alphabetic : ∀ char, data.letter char = true → data.alphabetic char = true
  decimal_numeric : ∀ char, data.decimal char = true → data.numeric char = true
  decimal_visible : ∀ char, data.decimal char = true → isWhiteSpace char = false
  lower_apart : ∀ char, 128 ≤ char.toNat → ¬IsPlain (data.lower char)
  upper_apart : ∀ char, 128 ≤ char.toNat → ¬IsPlain (data.lower (data.upper char))
  fold_apart : ∀ char, 128 ≤ char.toNat → ¬IsPlain (data.fold char)
  fullLower_apart : ∀ char, 128 ≤ char.toNat → ∀ image ∈ data.fullLower char, ¬IsPlain image
  fullLower_shown : ∀ char, data.fullLower char ≠ []

/-! ## Lower case -/

/-- The full mapping of a text to lower case, after what stands before it. -/
def lowercaseFrom (data : CharacterData) (before : Text) : Text → Text
  | [] => []
  | char :: rest =>
      (if char = 'Σ' ∧ data.finalSigma before rest then ['ς'] else data.fullLower char) ++
        lowercaseFrom data (char :: before) rest

def lowercase (data : CharacterData) (text : Text) : Text := lowercaseFrom data [] text

variable {data : CharacterData}

theorem toLower_of_not_ascii {char : Char} (large : 128 ≤ char.toNat) : char.toLower = char := by
  unfold Char.toLower
  refine dif_neg fun isUpper => ?_
  have small := UInt32.le_iff_toNat_le.mp isUpper.2
  simp only [Char.toNat_val, Char.reduceToNat] at small
  omega

theorem toUpper_of_not_ascii {char : Char} (large : 128 ≤ char.toNat) : char.toUpper = char := by
  unfold Char.toUpper
  refine dif_neg fun isLower => ?_
  have small := UInt32.le_iff_toNat_le.mp isLower.2
  simp only [Char.toNat_val, Char.reduceToNat] at small
  omega

/-- A fact about ASCII by inspection. -/
theorem of_ascii {property : Char → Prop} (inspected : ∀ code < 128, property (Char.ofNat code))
    {char : Char} (small : char.toNat < 128) : property char :=
  Char.ofNat_toNat char ▸ inspected char.toNat small

theorem toLower_toUpper {char : Char} (small : char.toNat < 128) :
    char.toUpper.toNat < 128 ∧ char.toUpper.toLower = char.toLower :=
  @of_ascii (fun char => char.toUpper.toNat < 128 ∧ char.toUpper.toLower = char.toLower)
    (by decide) char small

/-- One character in front of a recoded text. -/
theorem recodes_cons {char : Char} {image text out : Text}
    (ascii : char.toNat < 128 → image = [char.toLower])
    (apart : 128 ≤ char.toNat → image ≠ [] ∧ ∀ unit ∈ image, ¬IsPlain unit)
    (recoded : Recodes id IsPlain (text.map Char.toLower) out) :
    Recodes id IsPlain ((char :: text).map Char.toLower) (image ++ out) := by
  rw [List.map_cons]
  by_cases small : char.toNat < 128
  · rw [ascii small]
    by_cases plain : IsPlain char.toLower
    · exact .keep plain recoded
    · refine .replace plain (by simp) (fun other otherPlain among => ?_) recoded
      rw [List.mem_singleton] at among
      exact plain (among ▸ otherPlain)
  · have large : 128 ≤ char.toNat := by omega
    obtain ⟨shown, foreign⟩ := apart large
    rw [toLower_of_not_ascii large]
    exact .replace (fun plain => small plain.1) shown
      (fun other otherPlain among => foreign other among otherPlain) recoded

/-- The simple mapping agrees with the mapping of ASCII letters on plain characters. -/
theorem recodes_lower (standard : data.Standard) (text : Text) :
    Recodes id IsPlain (text.map Char.toLower) (text.map data.lower) := by
  induction text with
  | nil => exact .nil
  | cons char rest ih =>
      exact @recodes_cons char [data.lower char] _ _
        (fun small => by rw [standard.lower_ascii char small])
        (fun large => ⟨by simp, by simpa using standard.lower_apart char large⟩) ih

theorem recodes_lowercaseFrom (standard : data.Standard) (before text : Text) :
    Recodes id IsPlain (text.map Char.toLower) (data.lowercaseFrom before text) := by
  induction text generalizing before with
  | nil => exact .nil
  | cons char rest ih =>
      refine recodes_cons (fun small => ?_) (fun large => ?_) (ih (char :: before))
      · have other : char ≠ 'Σ' := by
          rintro rfl
          exact absurd small (by decide)
        rw [if_neg fun both => other both.1, standard.fullLower_ascii char small]
      · split_ifs
        · exact ⟨by simp, forall_of_all (by decide)⟩
        · exact ⟨standard.fullLower_shown char, standard.fullLower_apart char large⟩

/-- So does the full mapping. -/
theorem recodes_lowercase (standard : data.Standard) (text : Text) :
    Recodes id IsPlain (text.map Char.toLower) (data.lowercase text) :=
  recodes_lowercaseFrom standard [] text

end CharacterData

end CopySync.Foundation
