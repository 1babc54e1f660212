import CopySync.Foundation.Unicode

/-!
# What the sensitivity classifiers share

The classifier is written three times, over characters, bytes and UTF-16 units.  The
tests that are the same up to the alphabet are here, over the alphabet.
-/

namespace CopySync.Client

open Foundation

/-- Why a clip was flagged. -/
inductive Sensitivity where
  | privateKey
  | otpAuth
  | creditCard
  | passwordLike
  | custom
  deriving DecidableEq, Repr

namespace Privacy

/-! ## The Luhn checksum -/

/-- What a digit adds to the checksum; every second one is doubled. -/
def weigh (doubled : Bool) (digit : Int) : Int :=
  if doubled then
    let value := digit * 2
    if value > 9 then value - 9 else value
  else digit

/-- The checksum of digits from the last to the first. -/
def luhnSum (doubled : Bool) : List Int → Int
  | [] => 0
  | digit :: rest => weigh doubled digit + luhnSum (!doubled) rest

/-! ## The kinds of characters -/

def isLowerCode (code : Nat) : Bool := decide ('a'.toNat ≤ code ∧ code ≤ 'z'.toNat)

def isUpperCode (code : Nat) : Bool := decide ('A'.toNat ≤ code ∧ code ≤ 'Z'.toNat)

def isDigitCode (code : Nat) : Bool := decide ('0'.toNat ≤ code ∧ code ≤ '9'.toNat)

/-- Hangul, Kana and CJK ideographs. -/
def isCjk (code : Nat) : Bool :=
  decide (0x1100 ≤ code ∧ code ≤ 0x11FF ∨ 0x3130 ≤ code ∧ code ≤ 0x318F ∨
    0xAC00 ≤ code ∧ code ≤ 0xD7A3 ∨ 0x3040 ≤ code ∧ code ≤ 0x30FF ∨
    0x3400 ≤ code ∧ code ≤ 0x4DBF ∨ 0x4E00 ≤ code ∧ code ≤ 0x9FFF)

/-- The flags `lo`, `up`, `di` and `sy`. -/
structure Classes where
  lower : Bool
  upper : Bool
  digit : Bool
  symbol : Bool
  deriving DecidableEq, Repr

namespace Classes

variable {σ : Type} (code : σ → Nat) (strong : σ → Bool)

def none : Classes := ⟨false, false, false, false⟩

/-- One turn of the loop that sets the flags. -/
def note (classes : Classes) (char : σ) : Classes :=
  if isLowerCode (code char) then { classes with lower := true }
  else if isUpperCode (code char) then { classes with upper := true }
  else if isDigitCode (code char) then { classes with digit := true }
  else if strong char then { classes with symbol := true }
  else classes

def of (text : List σ) : Classes := text.foldl (note code strong) none

/-- How many of the kinds lower case, upper case and digit are there. -/
def alnum (classes : Classes) : Nat :=
  classes.lower.toNat + classes.upper.toNat + classes.digit.toNat

end Classes

/-! ## Addresses and paths -/

section Shape

variable {σ : Type} [DecidableEq σ]

/-- Something before the only sign, and after it a dot that is neither first nor last. -/
def looksLikeEmail (sign dot : σ) (text : List σ) : Bool :=
  match text.splitOn sign with
  | [user, domain] =>
      !user.isEmpty && decide ([dot] <:+: domain) && !decide ([dot] <+: domain) &&
        !decide ([dot] <:+ domain)
  | _ => false

/-- A drive such as `C:\` or `C:/`, by the second and the third unit. -/
def isDrive (colon backslash slash : σ) (units : List σ) : Bool :=
  decide (3 ≤ units.length ∧ units[1]? = some colon ∧
    (units[2]? = some backslash ∨ units[2]? = some slash))

/-- A path by its first characters, or a drive by the bytes. -/
def isBytePath (t : Text) : Bool :=
  decide ("/".toList <+: t) || decide ("./".toList <+: t) || decide ("../".toList <+: t) ||
    isDrive ':'.toUInt8 '\\'.toUInt8 '/'.toUInt8 (t.flatMap String.utf8EncodeChar)

end Shape

/-! ## Facts about the shared parts -/

theorem foldl_zipIdx (digits : List Int) (start : Nat) (sum : Int) :
    (digits.zipIdx start).foldl (fun sum entry => sum + weigh (entry.2 % 2 == 1) entry.1) sum =
      sum + luhnSum (start % 2 == 1) digits := by
  induction digits generalizing start sum with
  | nil => simp [luhnSum]
  | cons digit rest ih =>
      have parity : ((start + 1) % 2 == 1) = !(start % 2 == 1) := by
        rcases Nat.mod_two_eq_zero_or_one start with even | odd
        · simp [even, Nat.add_mod]
        · simp [odd, Nat.add_mod]
      rw [List.zipIdx_cons, List.foldl_cons, ih, luhnSum, parity, Int.add_assoc]

theorem foldl_alternating (digits : List Int) (sum : Int) (alt : Bool) :
    (digits.foldl (fun (state : Int × Bool) digit => (state.1 + weigh state.2 digit, !state.2))
      (sum, alt)).1 = sum + luhnSum alt digits := by
  induction digits generalizing sum alt with
  | nil => simp [luhnSum]
  | cons digit rest ih => rw [List.foldl_cons, ih, luhnSum, Int.add_assoc]

/-- Recoding a text keeps its reading as an address. -/
theorem looksLikeEmail_recoded {σ τ : Type} [DecidableEq σ] [DecidableEq τ] {code : σ → τ}
    {kept : σ → Prop} (distinct : Recodes.Distinct code kept) {text : List σ} {out : List τ}
    (recoded : Recodes code kept text out) {sign dot : σ} (signKept : kept sign)
    (dotKept : kept dot) :
    looksLikeEmail (code sign) (code dot) out = looksLikeEmail sign dot text := by
  have ofKept : ∀ symbol ∈ [dot], kept symbol := by simpa using dotKept
  have parts := recoded.splitOn distinct signKept
  unfold looksLikeEmail
  generalize text.splitOn sign = left, out.splitOn (code sign) = right at parts ⊢
  cases parts with
  | nil => rfl
  | cons user rest =>
      cases rest with
      | nil => rfl
      | cons domain rest =>
          cases rest with
          | nil =>
              have within := domain.infix_iff distinct ofKept (List.cons_ne_nil _ _)
              have first := domain.prefix_iff distinct ofKept
              have last := domain.suffix_iff distinct ofKept
              simp only [List.map_cons, List.map_nil] at within first last
              simp only [user.isEmpty_eq, within, first, last]
          | cons => rfl

/-- Recoding a text keeps the marks of a URL. -/
theorem url_recoded {β : Type} {code : Char → β} (distinct : Recodes.Distinct code IsPlain)
    {text : Text} {out : List β} (recoded : Recodes code IsPlain text out) :
    ("://".toList.map code <:+: out ∨ "http".toList.map code <+: out ∨
        "www.".toList.map code <+: out) ↔
      ("://".toList <:+: text ∨ "http".toList <+: text ∨ "www.".toList <+: text) := by
  rw [recoded.infix_iff distinct (forall_of_all (by decide)) (by decide),
    recoded.prefix_iff distinct (forall_of_all (by decide)),
    recoded.prefix_iff distinct (forall_of_all (by decide))]

theorem isDrive_iff {σ : Type} [DecidableEq σ] {colon backslash slash : σ} {units : List σ} :
    isDrive colon backslash slash units = true ↔
      ∃ first rest, units = first :: rest ∧
        ([colon, backslash] <+: rest ∨ [colon, slash] <+: rest) := by
  rw [isDrive, decide_eq_true_eq]
  constructor
  · rintro ⟨long, second, third⟩
    obtain ⟨first, rest, rfl⟩ := List.exists_cons_of_length_pos (show 0 < units.length by omega)
    obtain ⟨sign, rest, rfl⟩ := List.exists_cons_of_length_pos
      (show 0 < rest.length by rw [List.length_cons] at long; omega)
    obtain ⟨bar, rest, rfl⟩ := List.exists_cons_of_length_pos
      (show 0 < rest.length by rw [List.length_cons, List.length_cons] at long; omega)
    refine ⟨first, _, rfl, ?_⟩
    simpa [eq_comm, and_or_left] using And.intro second third
  · rintro ⟨first, rest, rfl, ⟨tail, rfl⟩ | ⟨tail, rfl⟩⟩
    · simp
    · simp

/-- What follows the first character of a drive. -/
def FollowsDrive (rest : Text) : Prop := [':', '\\'] <+: rest ∨ [':', '/'] <+: rest

theorem followsDrive_recoded {β : Type} {code : Char → β}
    (distinct : Recodes.Distinct code IsAscii) {text : Text} {out : List β}
    (recoded : Recodes code IsAscii text out) :
    ([code ':', code '\\'] <+: out ∨ [code ':', code '/'] <+: out) ↔ FollowsDrive text := by
  have backslash : [':', '\\'].map code <+: out ↔ _ :=
    recoded.prefix_iff distinct (forall_of_all (by decide))
  have slash : [':', '/'].map code <+: out ↔ _ :=
    recoded.prefix_iff distinct (forall_of_all (by decide))
  exact or_congr backslash slash

/-- By bytes, the first character of a drive is of ASCII. -/
theorem isDrive_utf8 (t : Text) :
    isDrive ':'.toUInt8 '\\'.toUInt8 '/'.toUInt8 (t.flatMap String.utf8EncodeChar) = true ↔
      ∃ c rest, t = c :: rest ∧ IsAscii c ∧ FollowsDrive rest := by
  have follows (rest : Text) := followsDrive_recoded distinct_toUInt8 (recodes_utf8 rest)
  rw [isDrive_iff]
  constructor
  · rintro ⟨first, bytes, same, drive⟩
    cases t with
    | nil => cases same
    | cons c rest =>
        rw [List.flatMap_cons] at same
        by_cases ascii : IsAscii c
        · rw [utf8_ascii ascii, List.singleton_append, List.cons.injEq] at same
          exact ⟨c, rest, rfl, ascii, (follows rest).mp (same.2 ▸ drive)⟩
        · have large : 128 ≤ c.toNat := Nat.le_of_not_lt ascii
          have long := utf8_long large
          obtain ⟨byte, more, split⟩ := List.exists_cons_of_ne_nil (@String.utf8EncodeChar_ne_nil c)
          rw [split, List.length_cons] at long
          obtain ⟨second, more, rfl⟩ := List.exists_cons_of_length_pos
            (show 0 < more.length by omega)
          have beyond : 128 ≤ second.toNat := utf8_large large (by simp [split])
          rw [split, List.cons_append, List.cons_append, List.cons.injEq] at same
          have colon : ':'.toUInt8 = second := by
            rw [← same.2, List.cons_prefix_cons, List.cons_prefix_cons] at drive
            exact drive.elim And.left And.left
          rw [← colon] at beyond
          exact absurd beyond (by decide)
  · rintro ⟨c, rest, rfl, ascii, drive⟩
    exact ⟨_, _, by rw [List.flatMap_cons, utf8_ascii ascii, List.singleton_append],
      (follows rest).mpr drive⟩

def StartsPath (t : Text) : Prop :=
  "/".toList <+: t ∨ "./".toList <+: t ∨ "../".toList <+: t

theorem isBytePath_iff (t : Text) : isBytePath t = true ↔
    StartsPath t ∨ ∃ c rest, t = c :: rest ∧ IsAscii c ∧ FollowsDrive rest := by
  simp only [isBytePath, Bool.or_eq_true, decide_eq_true_eq, isDrive_utf8, StartsPath, or_assoc]

namespace Classes

variable {σ : Type} {code : σ → Nat} {strong : σ → Bool}

theorem note_lower (classes : Classes) (char : σ) :
    (note code strong classes char).lower = (classes.lower || isLowerCode (code char)) := by
  unfold note
  split_ifs <;> simp_all

theorem note_upper (classes : Classes) (char : σ) :
    (note code strong classes char).upper = (classes.upper || isUpperCode (code char)) := by
  have exclusive : isLowerCode (code char) = true → isUpperCode (code char) = false := by
    simp only [isLowerCode, isUpperCode, decide_eq_true_eq, decide_eq_false_iff_not,
      Char.reduceToNat]
    omega
  unfold note
  split_ifs <;> simp_all

theorem note_digit (classes : Classes) (char : σ) :
    (note code strong classes char).digit = (classes.digit || isDigitCode (code char)) := by
  have exclusive : isLowerCode (code char) = true ∨ isUpperCode (code char) = true →
      isDigitCode (code char) = false := by
    simp only [isLowerCode, isUpperCode, isDigitCode, decide_eq_true_eq, decide_eq_false_iff_not,
      Char.reduceToNat]
    omega
  unfold note
  split_ifs <;> simp_all

/-- A strong symbol is neither a letter nor a digit of ASCII. -/
def Symbolic (code : σ → Nat) (strong : σ → Bool) : Prop :=
  ∀ char, strong char = true → isLowerCode (code char) = false ∧
    isUpperCode (code char) = false ∧ isDigitCode (code char) = false

theorem note_symbol (symbolic : Symbolic code strong) (classes : Classes) (char : σ) :
    (note code strong classes char).symbol = (classes.symbol || strong char) := by
  have apart := symbolic char
  unfold note
  split_ifs <;> simp_all

/-- A flag is set when some character sets it. -/
theorem foldl_note {flag : Classes → Bool} {test : σ → Bool}
    (step : ∀ classes char, flag (note code strong classes char) = (flag classes || test char))
    (text : List σ) (classes : Classes) :
    flag (text.foldl (note code strong) classes) = (flag classes || text.any test) := by
  induction text generalizing classes with
  | nil => simp
  | cons char rest ih => rw [List.foldl_cons, ih, step, List.any_cons, Bool.or_assoc]

variable (text : List σ)

theorem of_lower :
    (of code strong text).lower = text.any fun char => isLowerCode (code char) := by
  rw [of, foldl_note note_lower]
  rfl

theorem of_upper :
    (of code strong text).upper = text.any fun char => isUpperCode (code char) := by
  rw [of, foldl_note note_upper]
  rfl

theorem of_digit :
    (of code strong text).digit = text.any fun char => isDigitCode (code char) := by
  rw [of, foldl_note note_digit]
  rfl

theorem of_symbol (symbolic : Symbolic code strong) :
    (of code strong text).symbol = text.any strong := by
  rw [of, foldl_note (note_symbol symbolic)]
  rfl

/-- A text without letters of ASCII has one kind of these three at most. -/
theorem alnum_of_digits (letterless : ∀ char ∈ text,
    isLowerCode (code char) = false ∧ isUpperCode (code char) = false) :
    (of code strong text).alnum < 2 := by
  have lower : (of code strong text).lower = false := by
    rw [of_lower, List.any_eq_false]
    exact fun char among => by simp [letterless char among]
  have upper : (of code strong text).upper = false := by
    rw [of_upper, List.any_eq_false]
    exact fun char among => by simp [letterless char among]
  rw [alnum, lower, upper]
  cases (of code strong text).digit <;> decide

end Classes

/-! ## The tests as properties of a text -/

section Tests

variable (t : Text)

/-- The marks of a private key. -/
def HoldsKey : Prop := "-----BEGIN".toList <:+: t ∧ "PRIVATE KEY".toList <:+: t

/-- An `otpauth` link, in lower or upper case. -/
def IsLink : Prop := "otpauth://".toList <+: t.map Char.toLower

def IsUrl : Prop :=
  "://".toList <:+: t.map Char.toLower ∨ "http".toList <+: t.map Char.toLower ∨
    "www.".toList <+: t.map Char.toLower

/-- The digits of a card number, first to last, are as many as they should be and have the
checksum. -/
def HasChecksum (digits : List Int) : Prop :=
  13 ≤ digits.length ∧ digits.length ≤ 19 ∧ luhnSum false digits.reverse % 10 = 0

/-- The value of a digit as the distance from `0`. -/
def digitValue (c : Char) : Int := (c.toNat : Int) - '0'.toNat

/-- ASCII digits with the checksum, among spaces and dashes. -/
def IsCard : Prop :=
  (∀ c ∈ t, c.isDigit = true ∨ c = ' ' ∨ c = '-') ∧
    HasChecksum ((t.filter Char.isDigit).map digitValue)

/-- How many of the kinds lower case, upper case and digit there are. -/
def kinds : Nat := (Classes.of Char.toNat (fun _ => false) t).alnum

/-- The tests for a password on which the three classifiers do not differ. -/
structure IsCredential (random : Text → Bool) : Prop where
  notUrl : ¬IsUrl t
  notEmail : looksLikeEmail '@' '.' t = false
  notCjk : (t.any fun c => isCjk c.toNat) = false
  mixed : 2 ≤ kinds t
  random : random t = true

/-- A single token of a password's length that is not a path. -/
structure IsToken : Prop where
  long : 8 ≤ t.length
  short : t.length ≤ 64
  unbroken : t.any isWhiteSpace = false
  notPath : isBytePath t = false

instance : Decidable (HoldsKey t) := inferInstanceAs (Decidable (_ ∧ _))

instance : Decidable (IsLink t) := inferInstanceAs (Decidable (_ <+: _))

instance : Decidable (IsUrl t) := inferInstanceAs (Decidable (_ ∨ _ ∨ _))

instance (digits : List Int) : Decidable (HasChecksum digits) :=
  inferInstanceAs (Decidable (_ ∧ _ ∧ _))

instance : Decidable (IsCard t) :=
  have : Decidable (∀ c ∈ t, c.isDigit = true ∨ c = ' ' ∨ c = '-') := List.decidableBAll _ t
  inferInstanceAs (Decidable (_ ∧ _))

/-- The first test that succeeds decides. -/
def verdict (key link card password : Bool) : Option Sensitivity :=
  if key then some .privateKey
  else if link then some .otpAuth
  else if card then some .creditCard
  else if password then some .passwordLike
  else Option.none

end Tests

theorem isDigit_eq (c : Char) : c.isDigit = isDigitCode c.toNat := by
  rw [Bool.eq_iff_iff, Char.isDigit_iff_toNat, isDigitCode, decide_eq_true_eq]

theorem isDigitCode_large {code : Nat} (large : 128 ≤ code) : isDigitCode code = false := by
  simp only [isDigitCode, decide_eq_false_iff_not, Char.reduceToNat]
  omega

theorem isUpper_eq (c : Char) : c.isUpper = isUpperCode c.toNat :=
  decide_eq_decide.mpr (and_congr UInt32.le_iff_toNat_le UInt32.le_iff_toNat_le)

theorem isLower_eq (c : Char) : c.isLower = isLowerCode c.toNat :=
  (Bool.decide_and _ _).symm.trans
    (decide_eq_decide.mpr (and_congr UInt32.le_iff_toNat_le UInt32.le_iff_toNat_le))

/-- Symbols among the characters, if no letter or digit of ASCII is one. -/
theorem symbolic_of_ascii {strong : Char → Bool} (ascii : ∀ c, c.toNat < 128 → strong c = true →
    c.isAlpha = false ∧ c.isDigit = false) : Classes.Symbolic Char.toNat strong := by
  intro c isStrong
  by_cases small : c.toNat < 128
  · obtain ⟨notLetter, notDigit⟩ := ascii c small isStrong
    obtain ⟨notUpper, notLower⟩ := Bool.or_eq_false_iff.mp notLetter
    rw [isUpper_eq] at notUpper
    rw [isLower_eq] at notLower
    rw [isDigit_eq] at notDigit
    exact ⟨notLower, notUpper, notDigit⟩
  · simp only [isLowerCode, isUpperCode, isDigitCode, decide_eq_false_iff_not, Char.reduceToNat]
    omega

/-! ## Reading a link -/

/-- A reader that compares one character after the other finds the patterns it finds. -/
theorem reads_iff {reads : Text → Text → Prop} (nil : ∀ t, reads [] t)
    (exhausted : ∀ first pattern, ¬reads (first :: pattern) [])
    (step : ∀ first pattern c t, IsPlain first → first.toLower = first →
      (reads (first :: pattern) (c :: t) ↔ c.toLower = first ∧ reads pattern t))
    {pattern : Text} (plain : ∀ first ∈ pattern, IsPlain first ∧ first.toLower = first)
    (t : Text) : reads pattern t ↔ pattern <+: t.map Char.toLower := by
  induction pattern generalizing t with
  | nil => simp [nil t]
  | cons first pattern ih =>
      cases t with
      | nil => simp [exhausted first pattern]
      | cons c t =>
          obtain ⟨isPlain, isLower⟩ := plain first List.mem_cons_self
          rw [step first pattern c t isPlain isLower,
            ih (fun symbol among => plain symbol (List.mem_cons_of_mem _ among)), List.map_cons,
            List.cons_prefix_cons, eq_comm]

theorem link_plain : ∀ first ∈ "otpauth://".toList, IsPlain first ∧ first.toLower = first :=
  forall_of_all (by decide)

theorem visible_iff {t : Text} : (t.all fun c => c.isDigit || c == ' ' || c == '-') = true ↔
    ∀ c ∈ t, c.isDigit = true ∨ c = ' ' ∨ c = '-' := by
  simp [List.all_eq_true, or_assoc]

/-! ## Tests that exclude one another -/

section Exclusive

variable {t : Text}

/-- Trimming keeps the marks of a private key, whose ends are visible. -/
theorem holdsKey_trimBy {test : Char → Bool} (dash : test '-' = false) (n : test 'N' = false)
    (p : test 'P' = false) (y : test 'Y' = false) :
    HoldsKey (trimBy test t) ↔ HoldsKey t :=
  and_congr (infix_trimBy dash n rfl "-----BEGI".toList rfl t)
    (infix_trimBy p y rfl "PRIVATE KE".toList rfl t)

/-- The number of kinds does not depend on what counts as a symbol. -/
theorem alnum_eq_kinds (strong : Char → Bool) :
    (Classes.of Char.toNat strong t).alnum = kinds t := by
  rw [kinds, Classes.alnum, Classes.alnum, Classes.of_lower, Classes.of_upper, Classes.of_digit,
    Classes.of_lower, Classes.of_upper, Classes.of_digit]

theorem IsLink.isUrl (isLink : IsLink t) : IsUrl t := by
  have scheme : "://".toList <:+: "otpauth://".toList := by decide
  exact .inl (scheme.trans isLink.isInfix)

theorem IsLink.letter (isLink : IsLink t) : ∃ c ∈ t, c.toLower = 'o' := by
  have first : 'o' ∈ t.map Char.toLower := isLink.subset (by decide)
  exact List.mem_map.mp first

theorem not_lower_o {c : Char} (visible : c.isDigit = true ∨ c = ' ' ∨ c = '-') :
    c.toLower ≠ 'o' := by
  rcases visible with isDigit | rfl | rfl
  · intro same
    have bound := (Char.isDigit_iff_toNat.mp isDigit).2
    unfold Char.toLower at same
    split_ifs at same with isUpper
    · have low := UInt32.le_iff_toNat_le.mp isUpper.1
      simp only [Char.toNat_val, Char.reduceToNat] at low bound
      omega
    · subst same
      exact absurd bound (by decide)
  · decide
  · decide

theorem IsCard.not_isLink (isCard : IsCard t) : ¬IsLink t := by
  intro isLink
  obtain ⟨c, among, lower⟩ := isLink.letter
  exact not_lower_o (isCard.1 c among) lower

theorem letterless {c : Char} (visible : c.isDigit = true ∨ c = ' ' ∨ c = '-') :
    isLowerCode c.toNat = false ∧ isUpperCode c.toNat = false := by
  rcases visible with isDigit | rfl | rfl
  · have bound := (Char.isDigit_iff_toNat.mp isDigit).2
    simp only [isLowerCode, isUpperCode, decide_eq_false_iff_not, Char.reduceToNat] at bound ⊢
    omega
  · decide
  · decide

theorem IsCard.kinds (isCard : IsCard t) : Privacy.kinds t < 2 :=
  Classes.alnum_of_digits t fun c among => letterless (isCard.1 c among)

theorem IsCredential.not_isLink {random : Text → Bool} (isCredential : IsCredential t random) :
    ¬IsLink t := fun isLink => isCredential.notUrl isLink.isUrl

theorem IsCredential.not_isCard {random : Text → Bool} (isCredential : IsCredential t random) :
    ¬IsCard t := fun isCard => absurd isCredential.mixed (by have few := isCard.kinds; omega)

end Exclusive

end Privacy

end CopySync.Client
