import CopySync.Client.Privacy
import CopySync.Foundation.Utf16
import CopySync.Foundation.Utf8
import Mathlib.Data.List.Infix

/-!
# The sensitivity classifier of the Android client

`Privacy.kt`: a `String` is its UTF-16 units, and a `Char` is one of them.
-/

namespace CopySync.Android.Privacy

open Foundation Client Client.Privacy

variable (data : CharacterData) (random : Text → Bool)

/-- The units of a literal. -/
def units (literal : String) : List Nat := Utf16.encode literal.toList

/-- `Char.isWhitespace`: the categories `Zs`, `Zl` and `Zp` and some controls. -/
def isWhitespace (unit : Nat) : Bool :=
  decide (9 ≤ unit ∧ unit ≤ 13 ∨ 0x1C ≤ unit ∧ unit ≤ 0x1F ∨ unit = 0x20 ∨ unit = 0xA0 ∨
    unit = 0x1680 ∨ 0x2000 ≤ unit ∧ unit ≤ 0x200A ∨ unit = 0x2028 ∨ unit = 0x2029 ∨
    unit = 0x202F ∨ unit = 0x205F ∨ unit = 0x3000)

def isDigit (unit : Nat) : Bool := Utf16.onUnit data.decimal unit

def isLetterOrDigit (unit : Nat) : Bool :=
  Utf16.onUnit (fun c => data.letter c || data.decimal c) unit

def lowercase (t : List Nat) : List Nat := Utf16.encode (data.lowercase (Utf16.decode t))

/-- The form of a unit that is compared when case is ignored. -/
def foldUnit (unit : Nat) : Nat :=
  if Utf16.isHigh unit || Utf16.isLow unit then unit
  else (data.lower (data.upper (Char.ofNat unit))).toNat

/-- `startsWith(prefix, ignoreCase = true)`. -/
def startsWithIgnoringCase (t start : List Nat) : Bool :=
  decide (start.length ≤ t.length) &&
    (t.take start.length).map (foldUnit data) == start.map (foldUnit data)

/-- `luhnOk`; the flag is `alt`. -/
def luhnOk (digits : List Nat) : Bool :=
  ((digits.map fun unit : Nat => (unit : Int) - '0'.toNat).reverse.foldl
    (fun (state : Int × Bool) digit => (state.1 + weigh state.2 digit, !state.2)) (0, false)).1 %
      10 == 0

def isCardNumber (t : List Nat) : Bool :=
  if !(t.all fun c => isDigit data c || c == ' '.toNat || c == '-'.toNat) then false
  else
    let digits := t.filter (isDigit data)
    decide (13 ≤ digits.length ∧ digits.length ≤ 19) && luhnOk digits

def looksLikeUrl (t : List Nat) : Bool :=
  let l := lowercase data t
  decide (units "://" <:+: l) || decide (units "http" <+: l) || decide (units "www." <+: l)

def looksLikePath (t : List Nat) : Bool :=
  decide (units "/" <+: t) || decide (units "./" <+: t) || decide (units "../" <+: t) ||
    isDrive ':'.toNat '\\'.toNat '/'.toNat t

def isStrongSymbol (c : Nat) : Bool :=
  !isLetterOrDigit data c && !(units "-_./:,").contains c

def isPasswordLike (t : List Nat) : Bool :=
  let n := t.length
  if n < 8 ∨ 64 < n ∨ t.any isWhitespace then false
  else if looksLikeUrl data t || looksLikeEmail '@'.toNat '.'.toNat t || looksLikePath t then false
  else if t.any isCjk then false
  else
    let classes := Classes.of id (isStrongSymbol data) t
    classes.symbol && decide (2 ≤ classes.alnum) && random (Utf16.decode t)

def classify (text : List Nat) (custom : List (List Nat → Bool)) : Option Sensitivity :=
  let t := trimBy isWhitespace text
  if t.isEmpty then none
  else if units "-----BEGIN" <:+: t ∧ units "PRIVATE KEY" <:+: t then some .privateKey
  else if startsWithIgnoringCase data t (units "otpauth://") then some .otpAuth
  else if isCardNumber data t then some .creditCard
  else if custom.any fun re => re t then some .custom
  else if isPasswordLike data random t then some .passwordLike
  else none

/-! ## What the tests decide -/

/-- What trimming leaves of a text, by its characters. -/
def trim (text : Text) : Text := trimBy (fun c => isWhitespace c.toNat) text

/-- A single token of a password's length, by units, that is not a path. -/
structure IsToken (t : Text) : Prop where
  long : 8 ≤ (Utf16.encode t).length
  short : (Utf16.encode t).length ≤ 64
  unbroken : (Utf16.encode t).any isWhitespace = false
  notPath : looksLikePath (Utf16.encode t) = false

/-- Decimal digits of any script, with the checksum of their distances from `0`, among
spaces and dashes, all of the basic plane. -/
def IsDecimalCard (data : CharacterData) (t : Text) : Prop :=
  (∀ c ∈ t, c.toNat < 0x10000 ∧ (data.decimal c = true ∨ c = ' ' ∨ c = '-')) ∧
    HasChecksum ((t.filter data.decimal).map digitValue)

section Decides

variable {data : CharacterData} {random : Text → Bool} {t : Text}

theorem recodes_units (t : Text) : Recodes Char.toNat IsAscii t (Utf16.encode t) :=
  Utf16.recodes_encode t fun _ ascii => ascii

theorem trimBy_encode (text : Text) :
    trimBy isWhitespace (Utf16.encode text) = Utf16.encode (trim text) := by
  refine trimBy_flatMap (fun c unit among => ?_) Utf16.encodeChar_ne_nil text
  rcases Utf16.unit_cases among with ⟨-, rfl⟩ | ⟨beyond, surrogate⟩
  · rfl
  · have visible : isWhitespace c.toNat = false := by
      simp only [isWhitespace, decide_eq_false_iff_not]
      omega
    rw [visible]
    simp only [isWhitespace, Utf16.isHigh, Utf16.isLow, Bool.or_eq_true, decide_eq_true_eq,
      decide_eq_false_iff_not] at surrogate ⊢
    omega

theorem key_iff (t : Text) : (units "-----BEGIN" <:+: Utf16.encode t ∧
    units "PRIVATE KEY" <:+: Utf16.encode t) ↔ HoldsKey t := by
  have distinct := Utf16.distinct_toNat IsAscii
  have begins : units "-----BEGIN" = "-----BEGIN".toList.map Char.toNat := by decide
  have names : units "PRIVATE KEY" = "PRIVATE KEY".toList.map Char.toNat := by decide
  rw [begins, names]
  exact and_congr
    ((recodes_units t).infix_iff distinct (forall_of_all (by decide)) (by decide))
    ((recodes_units t).infix_iff distinct (forall_of_all (by decide)) (by decide))

theorem looksLikeUrl_iff (standard : data.Standard) :
    looksLikeUrl data (Utf16.encode t) = true ↔ IsUrl t := by
  have distinct : Recodes.Distinct id IsPlain := fun _ _ _ _ same => same
  have lowered := url_recoded distinct (CharacterData.recodes_lowercase standard t)
  have encoded := url_recoded (Utf16.distinct_toNat IsPlain)
    (Utf16.recodes_encode (data.lowercase t) fun _ plain => plain.1)
  rw [List.map_id, List.map_id, List.map_id] at lowered
  simp only [looksLikeUrl, lowercase, Utf16.decode_encode, Bool.or_eq_true, decide_eq_true_eq,
    or_assoc]
  exact encoded.trans lowered

theorem looksLikeEmail_encode :
    looksLikeEmail '@'.toNat '.'.toNat (Utf16.encode t) = looksLikeEmail '@' '.' t :=
  looksLikeEmail_recoded (Utf16.distinct_toNat IsAscii) (recodes_units t) (by decide) (by decide)

/-- By units, the first character of a drive is of the basic plane. -/
theorem isDrive_encode (t : Text) :
    isDrive ':'.toNat '\\'.toNat '/'.toNat (Utf16.encode t) = true ↔
      ∃ c rest, t = c :: rest ∧ c.toNat < 0x10000 ∧ FollowsDrive rest := by
  have follows (rest : Text) :=
    followsDrive_recoded (Utf16.distinct_toNat IsAscii) (recodes_units rest)
  rw [isDrive_iff]
  constructor
  · rintro ⟨first, units, same, drive⟩
    cases t with
    | nil => cases same
    | cons c rest =>
        rw [Utf16.encode_cons] at same
        by_cases basic : c.toNat < 0x10000
        · rw [Utf16.encodeChar_basic basic, List.singleton_append, List.cons.injEq] at same
          exact ⟨c, rest, rfl, basic, (follows rest).mp (same.2 ▸ drive)⟩
        · rw [Utf16.encodeChar, if_neg basic, List.cons_append, List.cons.injEq] at same
          have colon : ':'.toNat = 0xDC00 + (c.toNat - 0x10000) % 0x400 := by
            rw [← same.2, List.cons_append, List.cons_prefix_cons, List.cons_prefix_cons] at drive
            exact drive.elim And.left And.left
          simp only [Char.reduceToNat] at colon
          omega
  · rintro ⟨c, rest, rfl, basic, drive⟩
    exact ⟨_, _, by rw [Utf16.encode_cons, Utf16.encodeChar_basic basic, List.singleton_append],
      (follows rest).mpr drive⟩

/-- Paths are recognised by their first characters alike. -/
theorem looksLikePath_encode (t : Text) : looksLikePath (Utf16.encode t) = true ↔
    StartsPath t ∨ ∃ c rest, t = c :: rest ∧ c.toNat < 0x10000 ∧ FollowsDrive rest := by
  have distinct := Utf16.distinct_toNat IsAscii
  have root : "/".toList.map Char.toNat <+: Utf16.encode t ↔ _ :=
    (recodes_units t).prefix_iff distinct (forall_of_all (by decide))
  have here : "./".toList.map Char.toNat <+: Utf16.encode t ↔ _ :=
    (recodes_units t).prefix_iff distinct (forall_of_all (by decide))
  have parent : "../".toList.map Char.toNat <+: Utf16.encode t ↔ _ :=
    (recodes_units t).prefix_iff distinct (forall_of_all (by decide))
  have literals : units "/" = "/".toList.map Char.toNat ∧ units "./" = "./".toList.map Char.toNat ∧
      units "../" = "../".toList.map Char.toNat := by decide
  simp only [looksLikePath, literals, Bool.or_eq_true, decide_eq_true_eq, root, here, parent,
    isDrive_encode, StartsPath, or_assoc]

theorem isCjk_encode : (Utf16.encode t).any isCjk = t.any fun c => isCjk c.toNat := by
  refine Utf16.any_encode_below t fun unit passes => ?_
  simp only [isCjk, decide_eq_true_eq] at passes
  omega

theorem alnum_encode (strong : Nat → Bool) :
    (Classes.of id strong (Utf16.encode t)).alnum = kinds t := by
  have lower : (Utf16.encode t).any isLowerCode = t.any fun c => isLowerCode c.toNat := by
    refine Utf16.any_encode_below t fun unit passes => ?_
    simp only [isLowerCode, decide_eq_true_eq, Char.reduceToNat] at passes
    omega
  have upper : (Utf16.encode t).any isUpperCode = t.any fun c => isUpperCode c.toNat := by
    refine Utf16.any_encode_below t fun unit passes => ?_
    simp only [isUpperCode, decide_eq_true_eq, Char.reduceToNat] at passes
    omega
  have digit : (Utf16.encode t).any isDigitCode = t.any fun c => isDigitCode c.toNat := by
    refine Utf16.any_encode_below t fun unit passes => ?_
    simp only [isDigitCode, decide_eq_true_eq, Char.reduceToNat] at passes
    omega
  simp only [kinds, Classes.alnum, Classes.of_lower, Classes.of_upper, Classes.of_digit, id_eq,
    lower, upper, digit]

theorem symbolic_isStrongSymbol (standard : data.Standard) :
    Classes.Symbolic id (isStrongSymbol data) := by
  have chars : Classes.Symbolic Char.toNat fun c => isStrongSymbol data c.toNat := by
    refine symbolic_of_ascii fun c small strong => ?_
    have basic : c.toNat < 0x10000 := by omega
    simp only [isStrongSymbol, isLetterOrDigit, Utf16.onUnit_basic _ basic,
      standard.letter_ascii c small, standard.decimal_ascii c small, Bool.and_eq_true,
      Bool.not_eq_true', Bool.or_eq_false_iff] at strong
    exact strong.1
  intro unit strong
  by_cases small : unit < 128
  · have valid : (Char.ofNat unit).toNat = unit := toNat_ofNat_scalar (.inl (by omega))
    have apart := chars (Char.ofNat unit)
    simp only [valid] at apart
    exact apart strong
  · simp only [isLowerCode, isUpperCode, isDigitCode, decide_eq_false_iff_not, Char.reduceToNat,
      id_eq]
    omega

theorem isPasswordLike_iff (standard : data.Standard) :
    isPasswordLike data random (Utf16.encode t) = true ↔
      IsToken t ∧ IsCredential t random ∧
        (Utf16.encode t).any (isStrongSymbol data) = true := by
  simp only [isPasswordLike, Classes.of_symbol _ (symbolic_isStrongSymbol standard), alnum_encode,
    Bool.if_false_left, Bool.and_eq_true, Bool.not_eq_true', decide_eq_false_iff_not,
    decide_eq_true_eq, Bool.or_eq_true, not_or, looksLikeUrl_iff standard, Nat.not_lt,
    Bool.not_eq_true, looksLikeEmail_encode, isCjk_encode, Utf16.decode_encode]
  constructor
  · rintro ⟨⟨long, short, unbroken⟩, ⟨⟨url, email⟩, path⟩, cjk, ⟨symbol, mixed⟩, random⟩
    exact ⟨⟨long, short, unbroken, path⟩, ⟨url, email, cjk, mixed, random⟩, symbol⟩
  · rintro ⟨⟨long, short, unbroken, path⟩, ⟨url, email, cjk, mixed, random⟩, symbol⟩
    exact ⟨⟨long, short, unbroken⟩, ⟨⟨url, email⟩, path⟩, cjk, ⟨symbol, mixed⟩, random⟩

theorem foldUnit_ascii (standard : data.Standard) {c : Char} (small : c.toNat < 128) :
    foldUnit data c.toNat = c.toLower.toNat := by
  obtain ⟨high, low⟩ := Utf16.not_surrogate c (by omega)
  obtain ⟨upperSmall, lower⟩ := CharacterData.toLower_toUpper small
  simp [foldUnit, high, low, Char.ofNat_toNat, standard.upper_ascii c small,
    standard.lower_ascii _ upperSmall, lower]

/-- No unit of a character beyond ASCII is folded to a plain character. -/
theorem foldUnit_apart (standard : data.Standard) {c first : Char} (large : 128 ≤ c.toNat)
    (plain : IsPlain first) {unit : Nat} (among : unit ∈ Utf16.encodeChar c) :
    foldUnit data unit ≠ first.toNat := by
  have small := plain.1
  rcases Utf16.unit_cases among with ⟨basic, rfl⟩ | ⟨-, surrogate⟩
  · obtain ⟨high, low⟩ := Utf16.not_surrogate c basic
    simp only [foldUnit, high, low, Bool.or_self, Bool.false_eq_true, if_false, Char.ofNat_toNat]
    intro same
    exact standard.upper_apart c large (Char.toNat_inj.mp same ▸ plain)
  · rw [foldUnit, if_pos surrogate]
    simp only [Utf16.isHigh, Utf16.isLow, Bool.or_eq_true, decide_eq_true_eq] at surrogate
    omega

/-- Ignoring case, a plain prefix of the units is one of the characters. -/
theorem startsWith_reads (standard : data.Standard) {pattern : Text}
    (plain : ∀ first ∈ pattern, IsPlain first ∧ first.toLower = first) (t : Text) :
    startsWithIgnoringCase data (Utf16.encode t) (pattern.map Char.toNat) = true ↔
      pattern <+: t.map Char.toLower := by
  refine @reads_iff (fun pattern t =>
    startsWithIgnoringCase data (Utf16.encode t) (pattern.map Char.toNat) = true)
    (fun t => by simp [startsWithIgnoringCase])
    (fun first pattern => by simp [startsWithIgnoringCase]) ?_ _ plain t
  intro first pattern c t isPlain isLower
  have own : foldUnit data first.toNat = first.toNat := by
    rw [foldUnit_ascii standard isPlain.1, isLower]
  by_cases small : c.toNat < 128
  · rw [Utf16.encode_cons, Utf16.encodeChar_basic (by omega)]
    simp only [startsWithIgnoringCase, List.singleton_append, List.map_cons, List.length_cons,
      List.take_succ_cons, own, foldUnit_ascii standard small, Nat.add_le_add_iff_right,
      Bool.and_eq_true, decide_eq_true_eq, beq_iff_eq, List.cons.injEq, Char.toNat_inj]
    tauto
  · have large : 128 ≤ c.toNat := by omega
    have other : c.toLower ≠ first := by
      rw [CharacterData.toLower_of_not_ascii large]
      rintro rfl
      exact small isPlain.1
    obtain ⟨unit, more, same⟩ := List.exists_cons_of_ne_nil (Utf16.encodeChar_ne_nil c)
    have apart := @foldUnit_apart data standard c first large isPlain unit (by simp [same])
    simp only [startsWithIgnoringCase, Utf16.encode_cons, same, List.cons_append, List.map_cons,
      List.length_cons, List.take_succ_cons, own, Bool.and_eq_true, beq_iff_eq, List.cons.injEq,
      apart, other, false_and, and_false]

theorem link_iff (standard : data.Standard) (t : Text) :
    startsWithIgnoringCase data (Utf16.encode t) (units "otpauth://") = true ↔ IsLink t := by
  have pattern : units "otpauth://" = "otpauth://".toList.map Char.toNat := by decide
  rw [pattern]
  exact startsWith_reads standard link_plain t

theorem isDigit_basic {c : Char} (basic : c.toNat < 0x10000) :
    isDigit data c.toNat = data.decimal c :=
  Utf16.onUnit_basic data.decimal basic

theorem luhnOk_eq (digits : List Nat) : luhnOk digits = decide (luhnSum false
    (digits.map fun unit : Nat => (unit : Int) - '0'.toNat).reverse % 10 = 0) := by
  rw [luhnOk, foldl_alternating, Int.zero_add]
  rfl

theorem isCardNumber_iff : isCardNumber data (Utf16.encode t) = true ↔ IsDecimalCard data t := by
  have visible : ((Utf16.encode t).all fun c =>
      isDigit data c || c == ' '.toNat || c == '-'.toNat) = true ↔
      ∀ c ∈ t, c.toNat < 0x10000 ∧ (data.decimal c = true ∨ c = ' ' ∨ c = '-') := by
    rw [Utf16.all_encode]
    · refine forall₂_congr fun c _ => and_congr_right fun basic => ?_
      rw [isDigit_basic basic, Bool.or_eq_true, Bool.or_eq_true, beq_iff_eq, beq_iff_eq,
        Char.toNat_inj, Char.toNat_inj, or_assoc]
    · intro unit surrogate
      have hidden : isDigit data unit = false := Utf16.onUnit_surrogate data.decimal surrogate
      simp only [Utf16.isHigh, Utf16.isLow, Bool.or_eq_true, decide_eq_true_eq] at surrogate
      simp only [hidden, Bool.false_or, Bool.or_eq_false_iff, beq_eq_false_iff_ne, ne_eq,
        Char.reduceToNat]
      omega
  by_cases all : ∀ c ∈ t, c.toNat < 0x10000 ∧ (data.decimal c = true ∨ c = ' ' ∨ c = '-')
  · have digits : (Utf16.encode t).filter (isDigit data) =
        (t.filter data.decimal).map Char.toNat := by
      rw [Utf16.encode_basic fun c among => (all c among).1, List.filter_map]
      refine congrArg (List.map Char.toNat) (List.filter_congr fun c among => ?_)
      exact isDigit_basic (all c among).1
    have values : ((t.filter data.decimal).map Char.toNat).map
        (fun unit : Nat => (unit : Int) - '0'.toNat) = (t.filter data.decimal).map digitValue :=
      List.map_map
    simp only [isCardNumber, visible.mpr all, digits, luhnOk_eq, values, List.length_map,
      IsDecimalCard, HasChecksum, Bool.not_true, Bool.false_eq_true, if_false, Bool.and_eq_true,
      decide_eq_true_eq, and_assoc]
    exact ⟨fun checked => ⟨all, checked⟩, And.right⟩
  · have hidden : ((Utf16.encode t).all fun c =>
        isDigit data c || c == ' '.toNat || c == '-'.toNat) = false := by
      rw [← Bool.not_eq_true, visible]
      exact all
    simp only [isCardNumber, hidden, Bool.not_false, if_true, Bool.false_eq_true, false_iff]
    exact fun isCard => all isCard.1

/-- The classifier as a sequence of tests; nothing is found in an empty text. -/
theorem classify_eq (standard : data.Standard) (text : Text) :
    classify data random (Utf16.encode text) [] =
      verdict (HoldsKey text) (IsLink (trim text))
        (isCardNumber data (Utf16.encode (trim text)))
        (isPasswordLike data random (Utf16.encode (trim text))) := by
  have key : HoldsKey (trim text) ↔ HoldsKey text := holdsKey_trimBy rfl rfl rfl rfl
  unfold classify
  rw [trimBy_encode]
  generalize trim text = t at key ⊢
  cases t with
  | nil =>
      have keyless : ¬HoldsKey text := by
        rw [← key]
        decide
      rw [decide_eq_false keyless]
      rfl
  | cons c rest =>
      have shown : (Utf16.encode (c :: rest)).isEmpty = false := by
        rw [(recodes_units (c :: rest)).isEmpty_eq, List.isEmpty_cons]
      simp only [verdict, shown, Bool.false_eq_true, if_false, List.any_nil, decide_eq_true_eq,
        ← key, key_iff, link_iff standard]

end Decides

end CopySync.Android.Privacy
