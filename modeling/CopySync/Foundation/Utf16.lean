import CopySync.Foundation.Unicode

/-!
# Texts as UTF-16 code units

A character beyond the basic plane is a pair of surrogates.  A pattern of characters of
the basic plane occurs among the units where it occurs in the text, and what tests the
units one by one sees nothing of such a pair but surrogates.
-/

namespace CopySync.Foundation.Utf16

/-- The units of a character. -/
def encodeChar (char : Char) : List Nat :=
  if char.toNat < 0x10000 then [char.toNat]
  else [0xD800 + (char.toNat - 0x10000) / 0x400, 0xDC00 + (char.toNat - 0x10000) % 0x400]

def encode (text : Text) : List Nat := text.flatMap encodeChar

def isHigh (unit : Nat) : Bool := decide (0xD800 ≤ unit ∧ unit < 0xDC00)

def isLow (unit : Nat) : Bool := decide (0xDC00 ≤ unit ∧ unit < 0xE000)

/-- The characters of well-formed units. -/
def decode : List Nat → Text
  | [] => []
  | [unit] => [Char.ofNat unit]
  | high :: low :: rest =>
      if isHigh high && isLow low then
        Char.ofNat (0x10000 + (high - 0xD800) * 0x400 + (low - 0xDC00)) :: decode rest
      else Char.ofNat high :: decode (low :: rest)

/-- A test of characters on a unit that is one; a surrogate fails. -/
def onUnit (test : Char → Bool) (unit : Nat) : Bool :=
  !isHigh unit && !isLow unit && test (Char.ofNat unit)

/-! ## One character -/

section Single

variable {char : Char}

theorem scalar (char : Char) :
    char.toNat < 0xD800 ∨ 0xDFFF < char.toNat ∧ char.toNat < 0x110000 := char.valid

theorem encodeChar_basic (basic : char.toNat < 0x10000) : encodeChar char = [char.toNat] :=
  if_pos basic

theorem encodeChar_ne_nil (char : Char) : encodeChar char ≠ [] := by
  unfold encodeChar
  split_ifs <;> simp

/-- A surrogate, or the character itself. -/
theorem unit_cases {unit : Nat} (among : unit ∈ encodeChar char) :
    (char.toNat < 0x10000 ∧ unit = char.toNat) ∨
      (0x10000 ≤ char.toNat ∧ (isHigh unit || isLow unit) = true) := by
  have valid := scalar char
  unfold encodeChar at among
  split_ifs at among with basic
  · exact .inl ⟨basic, List.mem_singleton.mp among⟩
  · refine .inr ⟨by omega, ?_⟩
    simp only [List.mem_cons, List.not_mem_nil, or_false] at among
    simp only [isHigh, isLow, Bool.or_eq_true, decide_eq_true_eq]
    omega

theorem not_surrogate (char : Char) (basic : char.toNat < 0x10000) :
    isHigh char.toNat = false ∧ isLow char.toNat = false := by
  have valid := scalar char
  simp only [isHigh, isLow, decide_eq_false_iff_not]
  omega

theorem onUnit_basic (test : Char → Bool) (basic : char.toNat < 0x10000) :
    onUnit test char.toNat = test char := by
  obtain ⟨high, low⟩ := not_surrogate char basic
  simp [onUnit, high, low, Char.ofNat_toNat]

theorem onUnit_surrogate (test : Char → Bool) {unit : Nat}
    (surrogate : (isHigh unit || isLow unit) = true) : onUnit test unit = false := by
  rw [Bool.or_eq_true] at surrogate
  rcases surrogate with high | low
  · simp [onUnit, high]
  · simp [onUnit, low]

theorem decode_encodeChar (char : Char) (rest : List Nat) :
    decode (encodeChar char ++ rest) = char :: decode rest := by
  have valid := scalar char
  unfold encodeChar
  split_ifs with basic
  · cases rest with
    | nil => simp [decode, Char.ofNat_toNat]
    | cons low rest =>
        simp [decode, (not_surrogate char basic).1, Char.ofNat_toNat]
  · have high : isHigh (0xD800 + (char.toNat - 0x10000) / 0x400) = true := by
      simp only [isHigh, decide_eq_true_eq]
      omega
    have low : isLow (0xDC00 + (char.toNat - 0x10000) % 0x400) = true := by
      simp only [isLow, decide_eq_true_eq]
      omega
    have value : 0x10000 + (0xD800 + (char.toNat - 0x10000) / 0x400 - 0xD800) * 0x400 +
        (0xDC00 + (char.toNat - 0x10000) % 0x400 - 0xDC00) = char.toNat := by omega
    simp only [List.cons_append, List.nil_append, decode, high, low, Bool.and_self, if_true,
      value, Char.ofNat_toNat]

end Single

/-! ## Texts -/

variable (text : Text)

@[simp] theorem encode_nil : encode [] = [] := rfl

@[simp] theorem encode_cons (char : Char) :
    encode (char :: text) = encodeChar char ++ encode text := rfl

@[simp] theorem encode_eq_nil : encode text = [] ↔ text = [] := by
  cases text with
  | nil => simp
  | cons char rest => simp [encodeChar_ne_nil]

/-- Decoding inverts the encoding of a text. -/
@[simp] theorem decode_encode : decode (encode text) = text := by
  induction text with
  | nil => rfl
  | cons char rest ih => rw [encode_cons, decode_encodeChar, ih]

theorem any_encode (test : Nat → Bool) :
    (encode text).any test = text.any fun char => (encodeChar char).any test := by
  rw [encode, List.any_flatMap]

/-- A test that passes below the surrogates only sees the characters. -/
theorem any_encode_below {test : Nat → Bool} (below : ∀ unit, test unit = true → unit < 0xD800) :
    (encode text).any test = text.any fun char => test char.toNat := by
  rw [any_encode]
  congr
  funext char
  by_cases basic : char.toNat < 0x10000
  · simp [encodeChar_basic basic]
  · have beyond : test char.toNat = false := by
      rw [← Bool.not_eq_true]
      intro passes
      have small := below _ passes
      omega
    rw [beyond, List.any_eq_false]
    intro unit among passes
    have small := below unit passes
    rcases unit_cases among with ⟨inside, -⟩ | ⟨-, surrogate⟩
    · exact basic inside
    · simp only [isHigh, isLow, Bool.or_eq_true, decide_eq_true_eq] at surrogate
      omega

theorem encode_basic {text : Text} (basic : ∀ char ∈ text, char.toNat < 0x10000) :
    encode text = text.map Char.toNat := by
  induction text with
  | nil => rfl
  | cons char rest ih =>
      rw [encode_cons, encodeChar_basic (basic char List.mem_cons_self), List.map_cons,
        List.singleton_append,
        ih fun other among => basic other (List.mem_cons_of_mem _ among)]

/-- What all units pass when no surrogate passes. -/
theorem all_encode {test : Nat → Bool}
    (surrogate : ∀ unit, (isHigh unit || isLow unit) = true → test unit = false) :
    (encode text).all test = true ↔
      ∀ char ∈ text, char.toNat < 0x10000 ∧ test char.toNat = true := by
  rw [encode, List.all_flatMap, List.all_eq_true]
  refine forall₂_congr fun char _ => ?_
  by_cases basic : char.toNat < 0x10000
  · simp [encodeChar_basic basic, basic]
  · obtain ⟨unit, more, same⟩ := List.exists_cons_of_ne_nil (encodeChar_ne_nil char)
    have fails : test unit = false := by
      rcases @unit_cases char unit (by simp [same]) with ⟨inside, -⟩ | ⟨-, pair⟩
      · exact absurd inside basic
      · exact surrogate unit pair
    simp [same, fails, basic]

/-- The ASCII symbols keep their codes. -/
theorem recodes_encode {kept : Char → Prop} (ascii : ∀ char, kept char → char.toNat < 128) :
    Recodes Char.toNat kept text (encode text) := by
  refine Recodes.of_flatMap (fun char isKept => encodeChar_basic ?_)
    (fun char _ => encodeChar_ne_nil char) (fun char notKept other otherKept among => ?_) text
  · have small := ascii char isKept
    omega
  · rcases unit_cases among with ⟨-, same⟩ | ⟨-, pair⟩
    · exact notKept (Char.toNat_inj.mp same ▸ otherKept)
    · have small := ascii other otherKept
      simp only [isHigh, isLow, Bool.or_eq_true, decide_eq_true_eq] at pair
      omega

theorem distinct_toNat (kept : Char → Prop) : Recodes.Distinct Char.toNat kept :=
  fun _ _ _ _ same => Char.toNat_inj.mp same

end CopySync.Foundation.Utf16
