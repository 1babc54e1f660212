import CopySync.Client.Privacy
import CopySync.Foundation.Utf8
import Mathlib.Data.List.Infix

/-!
# The sensitivity classifier in Go

`internal/privacy`: a string is its bytes; what ranges over it or converts it to runes
walks the characters, an index or a slice sees the bytes.  Of a valid text the substring
functions find the same on either.
-/

namespace CopySync.Server.Privacy

open Foundation Client Client.Privacy

variable (data : CharacterData) (random : Text → Bool)

/-- `strings.EqualFold`. -/
def equalFold (left right : List UInt8) : Bool :=
  (runes left).map data.fold == (runes right).map data.fold

def luhnOK (digits : List Nat) : Bool :=
  (List.range digits.length).foldl
    (fun sum i => sum + weigh (i % 2 == 1) (digits.getD (digits.length - 1 - i) 0)) (0 : Int) %
      10 == 0

/-- The digits the loop of `isCardNumber` collects, unless it returns early. -/
def cardDigits : Text → Option (List Nat)
  | [] => some []
  | c :: rest =>
      if isDigitCode c.toNat then (cardDigits rest).map ((c.toNat - '0'.toNat) :: ·)
      else if c = ' ' ∨ c = '-' then cardDigits rest
      else none

def isCardNumber (t : Text) : Bool :=
  match cardDigits t with
  | none => false
  | some digits => decide (13 ≤ digits.length ∧ digits.length ≤ 19) && luhnOK digits

def looksLikeURL (t : Text) : Bool :=
  let l := t.map data.lower
  decide ("://".toList <:+: l) || decide ("http".toList <+: l) || decide ("www.".toList <+: l)

def looksLikePath (t : Text) : Bool := isBytePath t

def isStrongSymbol (c : Char) : Bool :=
  if data.letter c || data.decimal c then false
  else !"-_./:,".toList.contains c

def isPasswordLike (t : Text) : Bool :=
  let n := t.length
  if n < 8 ∨ 64 < n then false
  else if t.any isWhiteSpace then false
  else if looksLikeURL data t || looksLikeEmail '@' '.' t || looksLikePath t then false
  else if t.any fun c => isCjk c.toNat then false
  else
    let classes := Classes.of Char.toNat (isStrongSymbol data) t
    classes.symbol && decide (2 ≤ classes.alnum) && random t

/-- `Classify`; 0 is `none`, and a nil pattern matches nothing. -/
def classify (text : Text) (custom : List (Option (Text → Bool))) : Option Sensitivity :=
  let t := trimBy isWhiteSpace text
  let bytes := t.flatMap String.utf8EncodeChar
  if t = [] then none
  else if "-----BEGIN".toList <:+: t ∧ "PRIVATE KEY".toList <:+: t then some .privateKey
  else if 10 ≤ bytes.length ∧
      equalFold data (bytes.take 10) ("otpauth://".toList.flatMap String.utf8EncodeChar) then
    some .otpAuth
  else if isCardNumber t then some .creditCard
  else if custom.any fun re => re.any fun test => test t then some .custom
  else if isPasswordLike data random t then some .passwordLike
  else none

/-! ## What the tests decide -/

section Decides

variable {data : CharacterData} {random : Text → Bool} {t : Text}

/-- The bytes of a text and the first character read from some of them. -/
theorem equalFold_reads (standard : data.Standard) {pattern : Text}
    (plain : ∀ first ∈ pattern, IsPlain first ∧ first.toLower = first) (t : Text) :
    (pattern.length ≤ (t.flatMap String.utf8EncodeChar).length ∧
      (runesUpTo pattern.length ((t.flatMap String.utf8EncodeChar).take pattern.length)).map
        data.fold = pattern.map data.fold) ↔ pattern <+: t.map Char.toLower := by
  refine @reads_iff (fun pattern t =>
    pattern.length ≤ (t.flatMap String.utf8EncodeChar).length ∧
      (runesUpTo pattern.length ((t.flatMap String.utf8EncodeChar).take pattern.length)).map
        data.fold = pattern.map data.fold) (fun t => by simp [runesUpTo])
    (fun first pattern => by simp) ?_ _ plain t
  intro first pattern c t isPlain isLower
  have own : data.fold first = first := by rw [standard.fold_ascii first isPlain.1, isLower]
  by_cases small : c.toNat < 128
  · have byte : (UInt8.ofNat c.toNat).toNat = c.toNat := toNat_ofNat (by omega)
    have ascii : UInt8.ofNat c.toNat < 0x80 := by
      rw [UInt8.lt_iff_toNat_lt, byte]
      simpa using small
    simp only [List.flatMap_cons, utf8_ascii small, List.singleton_append, List.length_cons,
      List.take_succ_cons, runesUpTo, decodeRune, ascii, if_true, List.drop_succ_cons,
      List.drop_zero, List.map_cons, List.cons.injEq, byte, Char.ofNat_toNat,
      standard.fold_ascii c small, own, Nat.add_le_add_iff_right]
    tauto
  · have large : 128 ≤ c.toNat := by omega
    have other : c.toLower ≠ first := by
      rw [CharacterData.toLower_of_not_ascii large]
      rintro rfl
      exact small isPlain.1
    obtain ⟨byte, more, same⟩ := List.exists_cons_of_ne_nil (@String.utf8EncodeChar_ne_nil c)
    have beyond : 128 ≤ byte.toNat := utf8_large large (by simp [same])
    have apart (rest : List UInt8) : data.fold (decodeRune byte rest).1 ≠ first := fun folded =>
      standard.fold_apart _ (decodeRune_large beyond rest) (folded ▸ isPlain)
    simp only [List.flatMap_cons, same, List.cons_append, List.length_cons, List.take_succ_cons,
      runesUpTo, List.map_cons, List.cons.injEq, own, apart, other, false_and, and_false]

theorem link_iff (standard : data.Standard) (t : Text) :
    (10 ≤ (t.flatMap String.utf8EncodeChar).length ∧
      equalFold data ((t.flatMap String.utf8EncodeChar).take 10)
        ("otpauth://".toList.flatMap String.utf8EncodeChar) = true) ↔ IsLink t := by
  have reads := equalFold_reads standard link_plain t
  have pattern : runes ("otpauth://".toList.flatMap String.utf8EncodeChar) =
      "otpauth://".toList := by decide
  rw [IsLink, ← reads]
  refine and_congr_right fun long => ?_
  have count : ((t.flatMap String.utf8EncodeChar).take 10).length = 10 := by
    rw [List.length_take]
    omega
  rw [equalFold, pattern, runes, count, beq_iff_eq]
  rfl

/-- The loop over indices from the end is the sum over the reversed digits. -/
theorem luhnOK_eq (digits : List Nat) :
    luhnOK digits = decide (luhnSum false (digits.map Int.ofNat).reverse % 10 = 0) := by
  have entries : (digits.map Int.ofNat).reverse.zipIdx =
      (List.range digits.length).map fun i =>
        (Int.ofNat (digits.getD (digits.length - 1 - i) 0), i) := by
    refine List.ext_getElem (by simp) fun i inside _ => ?_
    have bound : digits.length - 1 - i < digits.length := by
      simp only [List.length_zipIdx, List.length_reverse, List.length_map] at inside
      omega
    simp [List.getElem_reverse, List.getD, bound]
  have sum := foldl_zipIdx (digits.map Int.ofNat).reverse 0 0
  rw [entries, List.foldl_map, Int.zero_add] at sum
  exact congrArg (fun total : Int => total % 10 == 0) sum

theorem cardDigits_eq (t : Text) : cardDigits t =
    if t.all fun c => c.isDigit || c == ' ' || c == '-' then
      some ((t.filter Char.isDigit).map fun c => c.toNat - '0'.toNat)
    else none := by
  induction t with
  | nil => rfl
  | cons c rest ih =>
      simp only [cardDigits, ih, ← isDigit_eq, List.all_cons]
      by_cases isDigit : c.isDigit = true
      · rw [List.filter_cons_of_pos isDigit]
        simp only [isDigit, Bool.true_or, Bool.true_and, if_true, List.map_cons]
        split_ifs <;> rfl
      · rw [List.filter_cons_of_neg isDigit]
        by_cases separator : c = ' ' ∨ c = '-'
        · have visible : (c == ' ' || c == '-') = true := by simpa using separator
          simp only [isDigit, separator, Bool.or_assoc, visible, Bool.or_true, Bool.true_and,
            Bool.false_eq_true, if_true, if_false]
        · have hidden : (c == ' ' || c == '-') = false := by simpa using separator
          simp only [isDigit, separator, Bool.or_assoc, hidden, Bool.or_false, Bool.false_and,
            Bool.false_eq_true, if_false]

theorem isCardNumber_iff : isCardNumber t = true ↔ IsCard t := by
  rw [isCardNumber, cardDigits_eq, IsCard, HasChecksum]
  split_ifs with all
  · have values : ((t.filter Char.isDigit).map fun c => c.toNat - '0'.toNat).map Int.ofNat =
        (t.filter Char.isDigit).map digitValue := by
      rw [List.map_map]
      refine List.map_congr_left fun c among => ?_
      exact Int.ofNat_sub (Char.isDigit_iff_toNat.mp (List.of_mem_filter among)).1
    simp only [luhnOK_eq, values, List.length_map, Bool.and_eq_true, decide_eq_true_eq, and_assoc]
    exact ⟨fun checked => ⟨visible_iff.mp all, checked⟩, And.right⟩
  · rw [visible_iff] at all
    simp [all]

theorem looksLikeURL_iff (standard : data.Standard) : looksLikeURL data t = true ↔ IsUrl t := by
  have distinct : Recodes.Distinct id IsPlain := fun _ _ _ _ same => same
  have recoded := url_recoded distinct (CharacterData.recodes_lower standard t)
  rw [List.map_id, List.map_id, List.map_id] at recoded
  simp only [looksLikeURL, Bool.or_eq_true, decide_eq_true_eq, or_assoc]
  exact recoded

theorem symbolic_isStrongSymbol (standard : data.Standard) :
    Classes.Symbolic Char.toNat (isStrongSymbol data) := by
  refine symbolic_of_ascii fun c small strong => ?_
  rw [isStrongSymbol, standard.letter_ascii c small, standard.decimal_ascii c small] at strong
  split_ifs at strong with alphanumeric
  simpa using alphanumeric

theorem isPasswordLike_iff (standard : data.Standard) :
    isPasswordLike data random t = true ↔
      IsToken t ∧ IsCredential t random ∧ t.any (isStrongSymbol data) = true := by
  simp only [isPasswordLike, Classes.of_symbol t (symbolic_isStrongSymbol standard),
    alnum_eq_kinds, Bool.if_false_left, Bool.and_eq_true, Bool.not_eq_true',
    decide_eq_false_iff_not, decide_eq_true_eq, Bool.or_eq_true, not_or,
    looksLikeURL_iff standard, Nat.not_lt, Bool.not_eq_true, looksLikePath]
  constructor
  · rintro ⟨⟨long, short⟩, unbroken, ⟨⟨url, email⟩, path⟩, cjk, ⟨symbol, mixed⟩, random⟩
    exact ⟨⟨long, short, unbroken, path⟩, ⟨url, email, cjk, mixed, random⟩, symbol⟩
  · rintro ⟨⟨long, short, unbroken, path⟩, ⟨url, email, cjk, mixed, random⟩, symbol⟩
    exact ⟨⟨long, short⟩, unbroken, ⟨⟨url, email⟩, path⟩, cjk, ⟨symbol, mixed⟩, random⟩

/-- The classifier as a sequence of tests; nothing is found in an empty text. -/
theorem classify_eq (standard : data.Standard) (text : Text) :
    classify data random text [] =
      verdict (HoldsKey text) (IsLink (trimBy isWhiteSpace text))
        (IsCard (trimBy isWhiteSpace text))
        (isPasswordLike data random (trimBy isWhiteSpace text)) := by
  have key : HoldsKey (trimBy isWhiteSpace text) ↔ HoldsKey text :=
    holdsKey_trimBy rfl rfl rfl rfl
  unfold classify
  generalize trimBy isWhiteSpace text = t at key ⊢
  cases t with
  | nil =>
      have keyless : ¬HoldsKey text := by
        rw [← key]
        decide
      rw [decide_eq_false keyless]
      rfl
  | cons c rest =>
      simp only [verdict, reduceCtorEq, if_false, List.any_nil, Bool.false_eq_true,
        decide_eq_true_eq, ← key, link_iff standard, isCardNumber_iff]
      rfl

end Decides

end CopySync.Server.Privacy
