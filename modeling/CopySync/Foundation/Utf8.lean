import Mathlib.Data.List.Basic

/-!
# Lossy UTF-8 decoding

Every maximal ill-formed part of the input becomes one replacement character; the
encoding of a text decodes to that text.
-/

namespace CopySync.Foundation

def replacementChar : Char := Char.ofNat 0xFFFD

/-- A byte between two bounds. -/
def inRange (low high byte : UInt8) : Bool := low ≤ byte && byte ≤ high

/-- The bounds of the second byte, by the first byte of a three-byte sequence. -/
def second3 (first : UInt8) : UInt8 × UInt8 :=
  if first = 0xE0 then (0xA0, 0xBF) else if first = 0xED then (0x80, 0x9F) else (0x80, 0xBF)

/-- The bounds of the second byte, by the first byte of a four-byte sequence. -/
def second4 (first : UInt8) : UInt8 × UInt8 :=
  if first = 0xF0 then (0x90, 0xBF) else if first = 0xF4 then (0x80, 0x8F) else (0x80, 0xBF)

/-- Append six payload bits. -/
def continued (value : Nat) (byte : UInt8) : Nat := value * 64 + (byte.toNat - 0x80)

def decodeLossy : List UInt8 → List Char
  | [] => []
  | first :: rest =>
      if first < 0x80 then Char.ofNat first.toNat :: decodeLossy rest
      else if inRange 0xC2 0xDF first then
        match rest with
        | [] => [replacementChar]
        | second :: more =>
            if inRange 0x80 0xBF second then
              Char.ofNat (continued (first.toNat - 0xC0) second) :: decodeLossy more
            else replacementChar :: decodeLossy (second :: more)
      else if inRange 0xE0 0xEF first then
        match rest with
        | [] => [replacementChar]
        | [second] =>
            if inRange (second3 first).1 (second3 first).2 second then [replacementChar]
            else replacementChar :: decodeLossy [second]
        | second :: third :: more =>
            if inRange (second3 first).1 (second3 first).2 second then
              if inRange 0x80 0xBF third then
                Char.ofNat (continued (continued (first.toNat - 0xE0) second) third) ::
                  decodeLossy more
              else replacementChar :: decodeLossy (third :: more)
            else replacementChar :: decodeLossy (second :: third :: more)
      else if inRange 0xF0 0xF4 first then
        match rest with
        | [] => [replacementChar]
        | [second] =>
            if inRange (second4 first).1 (second4 first).2 second then [replacementChar]
            else replacementChar :: decodeLossy [second]
        | [second, third] =>
            if inRange (second4 first).1 (second4 first).2 second then
              if inRange 0x80 0xBF third then [replacementChar]
              else replacementChar :: decodeLossy [third]
            else replacementChar :: decodeLossy [second, third]
        | second :: third :: fourth :: more =>
            if inRange (second4 first).1 (second4 first).2 second then
              if inRange 0x80 0xBF third then
                if inRange 0x80 0xBF fourth then
                  Char.ofNat (continued (continued (continued (first.toNat - 0xF0) second) third)
                    fourth) :: decodeLossy more
                else replacementChar :: decodeLossy (fourth :: more)
              else replacementChar :: decodeLossy (third :: fourth :: more)
            else replacementChar :: decodeLossy (second :: third :: fourth :: more)
      else replacementChar :: decodeLossy rest

/-- The first character and its width in bytes; a byte that starts no well-formed
character is read on its own. -/
def decodeRune (first : UInt8) (rest : List UInt8) : Char × Nat :=
  if first < 0x80 then (Char.ofNat first.toNat, 1)
  else if inRange 0xC2 0xDF first then
    match rest with
    | second :: _ =>
        if inRange 0x80 0xBF second then
          (Char.ofNat (continued (first.toNat - 0xC0) second), 2)
        else (replacementChar, 1)
    | [] => (replacementChar, 1)
  else if inRange 0xE0 0xEF first then
    match rest with
    | second :: third :: _ =>
        if inRange (second3 first).1 (second3 first).2 second && inRange 0x80 0xBF third then
          (Char.ofNat (continued (continued (first.toNat - 0xE0) second) third), 3)
        else (replacementChar, 1)
    | _ => (replacementChar, 1)
  else if inRange 0xF0 0xF4 first then
    match rest with
    | second :: third :: fourth :: _ =>
        if inRange (second4 first).1 (second4 first).2 second && inRange 0x80 0xBF third &&
            inRange 0x80 0xBF fourth then
          (Char.ofNat (continued (continued (continued (first.toNat - 0xF0) second) third)
            fourth), 4)
        else (replacementChar, 1)
    | _ => (replacementChar, 1)
  else (replacementChar, 1)

/-- The first characters, at most as many as given. -/
def runesUpTo : Nat → List UInt8 → List Char
  | 0, _ => []
  | _ + 1, [] => []
  | count + 1, first :: rest =>
      let (char, width) := decodeRune first rest
      char :: runesUpTo count ((first :: rest).drop width)

/-- The characters of a string read with one replacement for each ill-formed byte. -/
def runes (bytes : List UInt8) : List Char := runesUpTo bytes.length bytes

/-! ## Bytes beyond ASCII -/

section Beyond

theorem toNat_ofNat_scalar {value : Nat}
    (scalar : value < 0xD800 ∨ 0xDFFF < value ∧ value < 0x110000) :
    (Char.ofNat value).toNat = value := by
  unfold Char.ofNat
  rw [dif_pos scalar]
  rfl

theorem inRange_iff {low high byte : UInt8} :
    inRange low high byte = true ↔ low.toNat ≤ byte.toNat ∧ byte.toNat ≤ high.toNat := by
  simp [inRange, UInt8.le_iff_toNat_le]

theorem second3_bounds {first second : UInt8}
    (inside : inRange (second3 first).1 (second3 first).2 second = true) :
    0x80 ≤ second.toNat ∧ second.toNat ≤ 0xBF ∧ (first.toNat = 0xE0 → 0xA0 ≤ second.toNat) ∧
      (first.toNat = 0xED → second.toNat ≤ 0x9F) := by
  have zero : first = 0xE0 ↔ first.toNat = 0xE0 := UInt8.toNat_inj.symm
  have surrogates : first = 0xED ↔ first.toNat = 0xED := UInt8.toNat_inj.symm
  simp only [second3, zero, surrogates] at inside
  split_ifs at inside
  all_goals
    rw [inRange_iff] at inside
    simp only [UInt8.reduceToNat] at inside
    omega

theorem second4_bounds {first second : UInt8}
    (inside : inRange (second4 first).1 (second4 first).2 second = true) :
    0x80 ≤ second.toNat ∧ second.toNat ≤ 0xBF ∧ (first.toNat = 0xF0 → 0x90 ≤ second.toNat) ∧
      (first.toNat = 0xF4 → second.toNat ≤ 0x8F) := by
  have zero : first = 0xF0 ↔ first.toNat = 0xF0 := UInt8.toNat_inj.symm
  have last : first = 0xF4 ↔ first.toNat = 0xF4 := UInt8.toNat_inj.symm
  simp only [second4, zero, last] at inside
  split_ifs at inside
  all_goals
    rw [inRange_iff] at inside
    simp only [UInt8.reduceToNat] at inside
    omega

/-- No byte beyond ASCII is read as a character of ASCII. -/
theorem decodeRune_large {first : UInt8} (large : 128 ≤ first.toNat) (rest : List UInt8) :
    128 ≤ (decodeRune first rest).1.toNat := by
  have beyond : ¬first < 0x80 := by
    rw [UInt8.lt_iff_toNat_lt]
    simpa using large
  have replaced : 128 ≤ replacementChar.toNat := by decide
  unfold decodeRune
  rw [if_neg beyond]
  split_ifs with two three four
  · rw [inRange_iff] at two
    simp only [UInt8.reduceToNat] at two
    split
    next second _ =>
      split_ifs with inside
      · rw [inRange_iff] at inside
        simp only [UInt8.reduceToNat] at inside
        have value : 128 ≤ continued (first.toNat - 0xC0) second ∧
            continued (first.toNat - 0xC0) second < 0xD800 := by
          unfold continued
          omega
        rw [toNat_ofNat_scalar (.inl value.2)]
        exact value.1
      · exact replaced
    next => exact replaced
  · rw [inRange_iff] at three
    simp only [UInt8.reduceToNat] at three
    split
    next second third _ =>
      split_ifs with inside
      · simp only [Bool.and_eq_true, inRange_iff, UInt8.reduceToNat] at inside
        obtain ⟨within, continuation⟩ := inside
        have bounds := second3_bounds (inRange_iff.mpr within)
        rw [toNat_ofNat_scalar (by unfold continued; omega)]
        unfold continued
        omega
      · exact replaced
    next => exact replaced
  · rw [inRange_iff] at four
    simp only [UInt8.reduceToNat] at four
    split
    next second third fourth _ =>
      split_ifs with inside
      · simp only [Bool.and_eq_true, inRange_iff, UInt8.reduceToNat] at inside
        obtain ⟨⟨within, continuation⟩, further⟩ := inside
        have bounds := second4_bounds (inRange_iff.mpr within)
        rw [toNat_ofNat_scalar (by unfold continued; omega)]
        unfold continued
        omega
      · exact replaced
    next => exact replaced
  · exact replaced

end Beyond

/-! ## Well-formed input -/

section Encoded

theorem inRange_ofNat {low high : UInt8} {n : Nat} (small : n < 256) :
    inRange low high (UInt8.ofNat n) = true ↔ low.toNat ≤ n ∧ n ≤ high.toNat := by
  simp only [inRange, Bool.and_eq_true, decide_eq_true_eq, UInt8.le_iff_toNat_le,
    UInt8.toNat_ofNat', Nat.reducePow, Nat.mod_eq_of_lt small]

theorem ofNat_eq_iff {n : Nat} {k : UInt8} (small : n < 256) :
    UInt8.ofNat n = k ↔ n = k.toNat := by
  rw [← UInt8.toNat_inj, UInt8.toNat_ofNat', Nat.mod_eq_of_lt small]

theorem ofNat_lt_iff {n : Nat} {k : UInt8} (small : n < 256) :
    UInt8.ofNat n < k ↔ n < k.toNat := by
  rw [UInt8.lt_iff_toNat_lt, UInt8.toNat_ofNat', Nat.mod_eq_of_lt small]

theorem toNat_ofNat {n : Nat} (small : n < 256) : (UInt8.ofNat n).toNat = n := by
  rw [UInt8.toNat_ofNat', Nat.mod_eq_of_lt small]

theorem not_ascii {n : Nat} (large : 128 ≤ n) (small : n < 256) : ¬UInt8.ofNat n < 0x80 := by
  rw [ofNat_lt_iff small]
  simp only [UInt8.reduceToNat]
  omega

/-- Payload bits of a continuation byte. -/
theorem continued_ofNat (value : Nat) {n : Nat} (small : n < 64) :
    continued value (UInt8.ofNat (n + 0x80)) = value * 64 + n := by
  have byte : (UInt8.ofNat (n + 0x80)).toNat = n + 0x80 := toNat_ofNat (by omega)
  generalize UInt8.ofNat (n + 0x80) = continuation at byte ⊢
  unfold continued
  omega

theorem inRange_continuation {n : Nat} (small : n < 64) :
    inRange 0x80 0xBF (UInt8.ofNat (n + 0x80)) = true := by
  have byte : n + 0x80 < 256 := by omega
  rw [inRange_ofNat byte]
  simp only [UInt8.reduceToNat]
  omega

/-- The second byte of a three-byte character is within its bounds. -/
theorem inRange_second3 {v : Nat} (low : 0x7ff < v) (high : v ≤ 0xffff)
    (scalar : v < 0xd800 ∨ 0xdfff < v) :
    inRange (second3 (UInt8.ofNat (v / 4096 % 16 + 0xe0))).1
      (second3 (UInt8.ofNat (v / 4096 % 16 + 0xe0))).2
      (UInt8.ofNat (v / 64 % 64 + 0x80)) = true := by
  simp only [second3, ofNat_eq_iff (show v / 4096 % 16 + 0xe0 < 256 by omega)]
  split_ifs with zero surrogates
  all_goals
    rw [inRange_ofNat (by omega)]
    simp only [UInt8.reduceToNat] at *
    omega

theorem inRange_second4 {v : Nat} (low : 0xffff < v) (high : v < 0x110000) :
    inRange (second4 (UInt8.ofNat (v / 262144 % 8 + 0xf0))).1
      (second4 (UInt8.ofNat (v / 262144 % 8 + 0xf0))).2
      (UInt8.ofNat (v / 4096 % 64 + 0x80)) = true := by
  simp only [second4, ofNat_eq_iff (show v / 262144 % 8 + 0xf0 < 256 by omega)]
  split_ifs with zero last
  all_goals
    rw [inRange_ofNat (by omega)]
    simp only [UInt8.reduceToNat] at *
    omega

theorem inRange_false {low high : UInt8} {n : Nat} (small : n < 256)
    (outside : n < low.toNat ∨ high.toNat < n) : inRange low high (UInt8.ofNat n) = false := by
  rw [← Bool.not_eq_true, inRange_ofNat small]
  omega

/-- A well-formed character is read back. -/
theorem decodeLossy_encode (char : Char) (rest : List UInt8) :
    decodeLossy (String.utf8EncodeChar char ++ rest) = char :: decodeLossy rest := by
  have scalar : char.val.toNat < 0xd800 ∨ 0xdfff < char.val.toNat ∧ char.val.toNat < 0x110000 :=
    char.valid
  have back : Char.ofNat char.val.toNat = char := Char.ofNat_toNat char
  simp only [String.utf8EncodeChar]
  generalize char.val.toNat = v at *
  split_ifs with one two three
  · have ascii : UInt8.ofNat v < 0x80 := by
      rw [ofNat_lt_iff (by omega)]
      simp only [UInt8.reduceToNat]
      omega
    simp only [List.cons_append, List.nil_append]
    rw [decodeLossy.eq_def]
    simp only [ascii, if_true, toNat_ofNat (show v < 256 by omega), back]
  · have head : inRange 0xC2 0xDF (UInt8.ofNat (v / 64 % 32 + 0xc0)) = true := by
      rw [inRange_ofNat (by omega)]
      simp only [UInt8.reduceToNat]
      omega
    have payload : (v / 64 % 32 + 0xc0 - 0xC0) * 64 + v % 64 = v := by omega
    simp only [List.cons_append, List.nil_append]
    rw [decodeLossy.eq_def]
    simp only [not_ascii (show 128 ≤ v / 64 % 32 + 0xc0 by omega)
        (show v / 64 % 32 + 0xc0 < 256 by omega), head,
      inRange_continuation (show v % 64 < 64 by omega), if_true, if_false,
      continued_ofNat _ (show v % 64 < 64 by omega),
      toNat_ofNat (show v / 64 % 32 + 0xc0 < 256 by omega), payload, back]
  · have two : inRange 0xC2 0xDF (UInt8.ofNat (v / 4096 % 16 + 0xe0)) = false :=
      inRange_false (by omega) (.inr (by simp only [UInt8.reduceToNat]; omega))
    have head : inRange 0xE0 0xEF (UInt8.ofNat (v / 4096 % 16 + 0xe0)) = true := by
      rw [inRange_ofNat (by omega)]
      simp only [UInt8.reduceToNat]
      omega
    have payload : ((v / 4096 % 16 + 0xe0 - 0xE0) * 64 + v / 64 % 64) * 64 + v % 64 = v := by omega
    simp only [List.cons_append, List.nil_append]
    rw [decodeLossy.eq_def]
    simp only [not_ascii (show 128 ≤ v / 4096 % 16 + 0xe0 by omega)
        (show v / 4096 % 16 + 0xe0 < 256 by omega), two, head, Bool.false_eq_true,
      inRange_second3 (by omega) three (by omega),
      inRange_continuation (show v % 64 < 64 by omega), if_true, if_false,
      continued_ofNat _ (show v / 64 % 64 < 64 by omega),
      continued_ofNat _ (show v % 64 < 64 by omega),
      toNat_ofNat (show v / 4096 % 16 + 0xe0 < 256 by omega), payload, back]
  · have two : inRange 0xC2 0xDF (UInt8.ofNat (v / 262144 % 8 + 0xf0)) = false :=
      inRange_false (by omega) (.inr (by simp only [UInt8.reduceToNat]; omega))
    have notThree : inRange 0xE0 0xEF (UInt8.ofNat (v / 262144 % 8 + 0xf0)) = false :=
      inRange_false (by omega) (.inr (by simp only [UInt8.reduceToNat]; omega))
    have head : inRange 0xF0 0xF4 (UInt8.ofNat (v / 262144 % 8 + 0xf0)) = true := by
      rw [inRange_ofNat (by omega)]
      simp only [UInt8.reduceToNat]
      omega
    have payload : (((v / 262144 % 8 + 0xf0 - 0xF0) * 64 + v / 4096 % 64) * 64 + v / 64 % 64) * 64 +
        v % 64 = v := by omega
    simp only [List.cons_append, List.nil_append]
    rw [decodeLossy.eq_def]
    simp only [not_ascii (show 128 ≤ v / 262144 % 8 + 0xf0 by omega)
        (show v / 262144 % 8 + 0xf0 < 256 by omega), two, notThree, head, Bool.false_eq_true,
      inRange_second4 (show 0xffff < v by omega) (by omega),
      inRange_continuation (show v / 64 % 64 < 64 by omega),
      inRange_continuation (show v % 64 < 64 by omega), if_true, if_false,
      continued_ofNat _ (show v / 4096 % 64 < 64 by omega),
      continued_ofNat _ (show v / 64 % 64 < 64 by omega),
      continued_ofNat _ (show v % 64 < 64 by omega),
      toNat_ofNat (show v / 262144 % 8 + 0xf0 < 256 by omega), payload, back]

/-- Decoding inverts the encoding of a text. -/
theorem decodeLossy_utf8 (chars : List Char) :
    decodeLossy (chars.flatMap String.utf8EncodeChar) = chars := by
  induction chars with
  | nil => simp [decodeLossy]
  | cons char rest ih => rw [List.flatMap_cons, decodeLossy_encode, ih]

/-! ## Single characters -/

theorem utf8_ascii {char : Char} (small : char.toNat < 128) :
    String.utf8EncodeChar char = [UInt8.ofNat char.toNat] := by
  have one : char.val.toNat ≤ 0x7f := by
    rw [Char.toNat_val]
    omega
  simp only [String.utf8EncodeChar, if_pos one]
  rfl

/-- Every byte of a character beyond ASCII is beyond ASCII. -/
theorem utf8_large {char : Char} (large : 128 ≤ char.toNat) {byte : UInt8}
    (among : byte ∈ String.utf8EncodeChar char) : 128 ≤ byte.toNat := by
  have scalar : char.val.toNat < 0xd800 ∨ 0xdfff < char.val.toNat ∧ char.val.toNat < 0x110000 :=
    char.valid
  rw [← Char.toNat_val] at large
  simp only [String.utf8EncodeChar] at among
  generalize char.val.toNat = v at *
  split_ifs at among with one two three
  · omega
  all_goals
    simp only [List.mem_cons, List.not_mem_nil, or_false] at among
    rcases among with rfl | rfl | rfl | rfl <;> rw [toNat_ofNat (by omega)] <;> omega

theorem utf8_long {char : Char} (large : 128 ≤ char.toNat) :
    2 ≤ (String.utf8EncodeChar char).length := by
  have positive := char.utf8Size_pos
  have notOne : char.utf8Size ≠ 1 := by
    rw [Ne, Char.utf8Size_eq_one_iff, UInt32.le_iff_toNat_le, Char.toNat_val]
    simp only [UInt32.reduceToNat]
    omega
  rw [String.length_utf8EncodeChar]
  omega

end Encoded

end CopySync.Foundation
