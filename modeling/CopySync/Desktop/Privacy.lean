import CopySync.Client.Privacy
import CopySync.Foundation.Utf8
import Mathlib.Data.List.Infix

/-!
# The sensitivity classifier of the desktop client

`privacy.rs`: texts are `str`, of which `chars` walks the characters and `as_bytes` and
`get` see the bytes.  Custom patterns are tests of the trimmed text, and so is the entropy
threshold.
-/

namespace CopySync.Desktop.Privacy

open Foundation Client Client.Privacy

variable (data : CharacterData) (random : Text → Bool)

/-- `t.get(..limit)`: the characters that fill the first bytes exactly. -/
def getTo : Text → Nat → Option Text
  | _, 0 => some []
  | [], _ + 1 => none
  | char :: rest, limit + 1 =>
      if char.utf8Size ≤ limit + 1 then
        (getTo rest (limit + 1 - char.utf8Size)).map (char :: ·)
      else none

def eqIgnoreAsciiCase (left right : Text) : Bool :=
  left.map Char.toLower == right.map Char.toLower

/-- `luhn_ok`. -/
def luhnOk (digits : List Nat) : Bool :=
  (digits.map Int.ofNat).reverse.zipIdx.foldl
    (fun sum entry => sum + weigh (entry.2 % 2 == 1) entry.1) 0 % 10 == 0

def isAsciiDigit (byte : UInt8) : Bool := isDigitCode byte.toNat

def isCardNumber (t : Text) : Bool :=
  if !(t.all fun c => c.isDigit || c == ' ' || c == '-') then false
  else
    let digits := ((t.flatMap String.utf8EncodeChar).filter isAsciiDigit).map fun byte =>
      byte.toNat - '0'.toNat
    decide (13 ≤ digits.length ∧ digits.length ≤ 19) && luhnOk digits

def looksLikeUrl (t : Text) : Bool :=
  let l := t.map Char.toLower
  decide ("://".toList <:+: l) || decide ("http".toList <+: l) || decide ("www.".toList <+: l)

def looksLikePath (t : Text) : Bool := isBytePath t

def isStrongSymbol (c : Char) : Bool :=
  !(data.alphabetic c || data.numeric c) && !"-_./:,".toList.contains c

def isPasswordLike (t : Text) : Bool :=
  let n := t.length
  if n < 8 ∨ 64 < n ∨ t.any isWhiteSpace then false
  else if looksLikeUrl t || looksLikeEmail '@' '.' t || looksLikePath t then false
  else if t.any fun c => isCjk c.toNat then false
  else
    let classes := Classes.of Char.toNat (isStrongSymbol data) t
    classes.symbol && decide (2 ≤ classes.alnum) && random t

def classify (text : Text) (custom : List (Text → Bool)) : Option Sensitivity :=
  let t := trimBy isWhiteSpace text
  if t.isEmpty then none
  else if "-----BEGIN".toList <:+: t ∧ "PRIVATE KEY".toList <:+: t then some .privateKey
  else if (getTo t 10).any fun p => eqIgnoreAsciiCase p "otpauth://".toList then some .otpAuth
  else if isCardNumber t then some .creditCard
  else if custom.any fun re => re t then some .custom
  else if isPasswordLike data random t then some .passwordLike
  else none

/-! ## What the tests decide -/

section Decides

variable {data : CharacterData} {random : Text → Bool} {t : Text}

theorem getTo_reads (pattern t : Text) (plain : ∀ first ∈ pattern, IsPlain first ∧
    first.toLower = first) :
    ((getTo t pattern.length).any fun p => eqIgnoreAsciiCase p pattern) = true ↔
      pattern <+: t.map Char.toLower := by
  refine @reads_iff (fun pattern t =>
    ((getTo t pattern.length).any fun p => eqIgnoreAsciiCase p pattern) = true)
    (fun t => by simp [getTo, eqIgnoreAsciiCase]) (fun first pattern => by simp [getTo])
    ?_ _ plain t
  intro first pattern c t isPlain isLower
  simp only [List.length_cons, getTo]
  by_cases small : c.toNat < 128
  · have one : c.utf8Size = 1 := by
      rw [Char.utf8Size_eq_one_iff, UInt32.le_iff_toNat_le, Char.toNat_val]
      simp only [UInt32.reduceToNat]
      omega
    rw [one, if_pos (by omega), Nat.add_sub_cancel, Option.any_map]
    cases getTo t pattern.length with
    | none => simp
    | some front => simp [eqIgnoreAsciiCase, isLower]
  · have other : c.toLower ≠ first := by
      rw [CharacterData.toLower_of_not_ascii (by omega)]
      rintro rfl
      exact small isPlain.1
    split_ifs with within
    · rw [Option.any_map]
      cases getTo t (pattern.length + 1 - c.utf8Size) with
      | none => simp [other]
      | some front => simp [eqIgnoreAsciiCase, isLower, other]
    · simp [other]

theorem link_iff (t : Text) :
    ((getTo t 10).any fun p => eqIgnoreAsciiCase p "otpauth://".toList) = true ↔ IsLink t :=
  getTo_reads "otpauth://".toList t link_plain

theorem luhnOk_eq (digits : List Nat) :
    luhnOk digits = decide (luhnSum false (digits.map Int.ofNat).reverse % 10 = 0) := by
  rw [luhnOk, foldl_zipIdx, Int.zero_add]
  rfl

/-- The digits among the bytes are those among the characters. -/
theorem filter_isAsciiDigit (t : Text) :
    ((t.flatMap String.utf8EncodeChar).filter isAsciiDigit).map
        (fun byte => Int.ofNat (byte.toNat - '0'.toNat)) =
      (t.filter Char.isDigit).map digitValue := by
  induction t with
  | nil => rfl
  | cons c rest ih =>
      rw [List.flatMap_cons, List.filter_append, List.map_append, ih]
      by_cases small : c.toNat < 128
      · have byte : (UInt8.ofNat c.toNat).toNat = c.toNat := toNat_ofNat (by omega)
        have own : isAsciiDigit (UInt8.ofNat c.toNat) = c.isDigit := by
          rw [isAsciiDigit, byte, isDigit_eq]
        rw [utf8_ascii small]
        cases isDigit : c.isDigit with
        | true =>
            have bound := Char.isDigit_iff_toNat.mp isDigit
            have value : Int.ofNat (c.toNat - '0'.toNat) = digitValue c := Int.ofNat_sub bound.1
            simpa [own, isDigit, byte] using value
        | false => simp [own, isDigit]
      · have none : (String.utf8EncodeChar c).filter isAsciiDigit = [] := by
          rw [List.filter_eq_nil_iff]
          intro byte among
          rw [isAsciiDigit, isDigitCode_large (utf8_large (by omega) among)]
          decide
        have notDigit : c.isDigit = false := by
          rw [isDigit_eq, isDigitCode_large (by omega)]
        rw [none, List.filter_cons_of_neg (by simp [notDigit])]
        rfl

theorem isCardNumber_iff : isCardNumber t = true ↔ IsCard t := by
  have values := filter_isAsciiDigit t
  have count := congrArg List.length values
  simp only [List.length_map] at count
  by_cases all : ∀ c ∈ t, c.isDigit = true ∨ c = ' ' ∨ c = '-'
  · simp only [isCardNumber, visible_iff.mpr all, luhnOk_eq, List.map_map, Function.comp_def,
      values, List.length_map, count, IsCard, HasChecksum, Bool.not_true, Bool.false_eq_true,
      if_false, Bool.and_eq_true, decide_eq_true_eq, and_assoc]
    exact ⟨fun checked => ⟨all, checked⟩, And.right⟩
  · have hidden : (t.all fun c => c.isDigit || c == ' ' || c == '-') = false := by
      rw [← Bool.not_eq_true, visible_iff]
      exact all
    simp only [isCardNumber, hidden, Bool.not_false, if_true, Bool.false_eq_true, false_iff]
    exact fun isCard => all isCard.1

theorem looksLikeUrl_iff : looksLikeUrl t = true ↔ IsUrl t := by
  simp only [looksLikeUrl, IsUrl, Bool.or_eq_true, decide_eq_true_eq, or_assoc]

theorem symbolic_isStrongSymbol (standard : data.Standard) :
    Classes.Symbolic Char.toNat (isStrongSymbol data) := by
  refine symbolic_of_ascii fun c small strong => ?_
  simp only [isStrongSymbol, standard.alphabetic_ascii c small, standard.numeric_ascii c small,
    Bool.and_eq_true, Bool.not_eq_true', Bool.or_eq_false_iff] at strong
  exact strong.1

theorem isPasswordLike_iff (standard : data.Standard) :
    isPasswordLike data random t = true ↔
      IsToken t ∧ IsCredential t random ∧ t.any (isStrongSymbol data) = true := by
  simp only [isPasswordLike, Classes.of_symbol t (symbolic_isStrongSymbol standard),
    alnum_eq_kinds, Bool.if_false_left, Bool.and_eq_true, Bool.not_eq_true',
    decide_eq_false_iff_not, decide_eq_true_eq, Bool.or_eq_true, not_or, looksLikeUrl_iff,
    Nat.not_lt, Bool.not_eq_true, looksLikePath]
  constructor
  · rintro ⟨⟨long, short, unbroken⟩, ⟨⟨url, email⟩, path⟩, cjk, ⟨symbol, mixed⟩, random⟩
    exact ⟨⟨long, short, unbroken, path⟩, ⟨url, email, cjk, mixed, random⟩, symbol⟩
  · rintro ⟨⟨long, short, unbroken, path⟩, ⟨url, email, cjk, mixed, random⟩, symbol⟩
    exact ⟨⟨long, short, unbroken⟩, ⟨⟨url, email⟩, path⟩, cjk, ⟨symbol, mixed⟩, random⟩

/-- The classifier as a sequence of tests; nothing is found in an empty text. -/
theorem classify_eq (text : Text) :
    classify data random text [] =
      verdict (HoldsKey text) (IsLink (trimBy isWhiteSpace text))
        (IsCard (trimBy isWhiteSpace text))
        (isPasswordLike data random (trimBy isWhiteSpace text)) := by
  have key : HoldsKey (trimBy isWhiteSpace text) ↔ HoldsKey text :=
    holdsKey_trimBy rfl rfl rfl rfl
  unfold classify
  generalize trimBy isWhiteSpace text = t at key ⊢
  cases t with
  | nil =>
      have keyless : ¬HoldsKey text := by
        rw [← key]
        decide
      rw [decide_eq_false keyless]
      rfl
  | cons c rest =>
      simp only [verdict, List.isEmpty_cons, Bool.false_eq_true, if_false, List.any_nil,
        decide_eq_true_eq, ← key, link_iff, isCardNumber_iff]
      rfl

end Decides

end CopySync.Desktop.Privacy
