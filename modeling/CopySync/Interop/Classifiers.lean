import CopySync.Android.Privacy
import CopySync.Desktop.Privacy
import CopySync.Server.Privacy

/-!
# The three sensitivity classifiers compared

They run the same tests in the same order.  The texts they test differ where one library
trims a character that another keeps, and so do four of the tests: which digits a card
number may have, how long a token is, whether it is a path, and which characters are strong
symbols.
-/

namespace CopySync.Interop

open Foundation Client Client.Privacy

/-- The three classifiers find the same in a text. -/
def Agree (data : CharacterData) (random : Text → Bool) (text : Text) : Prop :=
  Server.Privacy.classify data random text [] = Desktop.Privacy.classify data random text [] ∧
    Android.Privacy.classify data random (Utf16.encode text) [] =
      Desktop.Privacy.classify data random text []

/-- No difference between the libraries matters for a text, of which the desktop client and
the server test `wide` and the Android client tests `own`. -/
structure Uncontested (data : CharacterData) (random : Text → Bool) (wide own : Text) :
    Prop where
  /-- What is trimmed on one side only does not hide a link. -/
  links : IsLink wide ↔ IsLink own
  /-- Nor does it hide a card number. -/
  cards : IsCard wide ↔ IsCard own
  /-- No digits of another script pass for a card number. -/
  digits : Android.Privacy.IsDecimalCard data own →
    ∀ c ∈ own, data.decimal c = true → c.isDigit = true
  /-- No credential's strong symbols are all alphabetic or numeric, but neither letters nor
  decimal digits. -/
  symbols : IsToken wide → IsCredential wide random →
    wide.any (Server.Privacy.isStrongSymbol data) = true →
      wide.any (Desktop.Privacy.isStrongSymbol data) = true
  /-- A credential is a token with a strong symbol by characters and bytes exactly if it is
  one by units. -/
  tokens : (IsToken wide ∧ IsCredential wide random ∧
      wide.any (Desktop.Privacy.isStrongSymbol data) = true) ↔
    (Android.Privacy.IsToken own ∧ IsCredential own random ∧
      (Utf16.encode own).any (Android.Privacy.isStrongSymbol data) = true)

section Cards

variable {data : CharacterData} {t : Text}

theorem isDigit_decimal (standard : data.Standard) {c : Char} (isDigit : c.isDigit = true) :
    c.toNat < 128 ∧ data.decimal c = true := by
  have bound := (Char.isDigit_iff_toNat.mp isDigit).2
  have small : c.toNat < 128 := by
    simp only [Char.reduceToNat] at bound
    omega
  exact ⟨small, (standard.decimal_ascii c small).trans isDigit⟩

/-- Where the digits are of ASCII, a card number is one on Android. -/
theorem isDecimalCard_iff (standard : data.Standard)
    (ascii : ∀ c ∈ t, data.decimal c = true → c.isDigit = true) :
    Android.Privacy.IsDecimalCard data t ↔ IsCard t := by
  have digits : t.filter data.decimal = t.filter Char.isDigit :=
    List.filter_congr fun c among => by
      rw [Bool.eq_iff_iff]
      exact ⟨ascii c among, fun isDigit => (isDigit_decimal standard isDigit).2⟩
  rw [Android.Privacy.IsDecimalCard, IsCard, digits]
  refine and_congr_left fun _ => forall₂_congr fun c among => ?_
  constructor
  · rintro ⟨-, decimal | separator⟩
    · exact .inl (ascii c among decimal)
    · exact .inr separator
  · rintro (isDigit | rfl | rfl)
    · obtain ⟨small, decimal⟩ := isDigit_decimal standard isDigit
      exact ⟨by omega, .inl decimal⟩
    · exact ⟨by decide, .inr (.inl rfl)⟩
    · exact ⟨by decide, .inr (.inr rfl)⟩

theorem ascii_of_isCard (standard : data.Standard) (isCard : IsCard t) :
    ∀ c ∈ t, data.decimal c = true → c.isDigit = true := by
  intro c among decimal
  rcases isCard.1 c among with isDigit | rfl | rfl
  · exact isDigit
  · exact (standard.decimal_ascii ' ' (by decide)).symm.trans decimal
  · exact (standard.decimal_ascii '-' (by decide)).symm.trans decimal

theorem not_isLink_of_isDecimalCard (standard : data.Standard)
    (isCard : Android.Privacy.IsDecimalCard data t) : ¬IsLink t := by
  intro isLink
  obtain ⟨c, among, lower⟩ := isLink.letter
  by_cases small : c.toNat < 128
  · refine not_lower_o ?_ lower
    rcases (isCard.1 c among).2 with decimal | separator
    · exact .inl ((standard.decimal_ascii c small).symm.trans decimal)
    · exact .inr separator
  · rw [CharacterData.toLower_of_not_ascii (by omega)] at lower
    subst lower
    exact small (by decide)

end Cards

/-! ## Agreement -/

section Agreement

variable {data : CharacterData} {random : Text → Bool}

/-- Every strong symbol of the desktop client is one of the server. -/
theorem isStrongSymbol_server (standard : data.Standard) {c : Char}
    (strong : Desktop.Privacy.isStrongSymbol data c = true) :
    Server.Privacy.isStrongSymbol data c = true := by
  simp only [Desktop.Privacy.isStrongSymbol, Bool.and_eq_true, Bool.not_eq_true',
    Bool.or_eq_false_iff] at strong
  obtain ⟨⟨notAlphabetic, notNumeric⟩, listed⟩ := strong
  have notLetter : data.letter c = false := by
    rw [← Bool.not_eq_true]
    intro letter
    exact absurd (standard.letter_alphabetic c letter) (by simp [notAlphabetic])
  have notDecimal : data.decimal c = false := by
    rw [← Bool.not_eq_true]
    intro decimal
    exact absurd (standard.decimal_numeric c decimal) (by simp [notNumeric])
  rw [Server.Privacy.isStrongSymbol, notLetter, notDecimal, listed]
  rfl

theorem verdict_inj : ∀ link card password link' card' password' : Bool,
    verdict false link card password = verdict false link' card' password' →
      link = link' ∧ (link = false → card = card' ∧ (card = false → password = password')) := by
  decide

theorem agree_of_uncontested (standard : data.Standard) {text : Text}
    (uncontested : Uncontested data random (trimBy isWhiteSpace text)
      (Android.Privacy.trim text)) : Agree data random text := by
  obtain ⟨links, cards, digits, symbols, tokens⟩ := uncontested
  rw [Agree, Desktop.Privacy.classify_eq, Server.Privacy.classify_eq standard,
    Android.Privacy.classify_eq standard]
  generalize trimBy isWhiteSpace text = wide at *
  generalize Android.Privacy.trim text = own at *
  have server : Server.Privacy.isPasswordLike data random wide =
      Desktop.Privacy.isPasswordLike data random wide := by
    rw [Bool.eq_iff_iff, Server.Privacy.isPasswordLike_iff standard,
      Desktop.Privacy.isPasswordLike_iff standard]
    refine and_congr_right fun token => and_congr_right fun credential => ?_
    refine ⟨symbols token credential, fun strong => ?_⟩
    obtain ⟨c, among, isStrong⟩ := List.any_eq_true.mp strong
    exact List.any_eq_true.mpr ⟨c, among, isStrongSymbol_server standard isStrong⟩
  have password : Android.Privacy.isPasswordLike data random (Utf16.encode own) =
      Desktop.Privacy.isPasswordLike data random wide := by
    rw [Bool.eq_iff_iff, Android.Privacy.isPasswordLike_iff standard,
      Desktop.Privacy.isPasswordLike_iff standard]
    exact tokens.symm
  have card : Android.Privacy.isCardNumber data (Utf16.encode own) = decide (IsCard wide) := by
    rw [Bool.eq_iff_iff, Android.Privacy.isCardNumber_iff, decide_eq_true_eq, cards]
    constructor
    · intro isCard
      exact (isDecimalCard_iff standard (digits isCard)).mp isCard
    · intro isCard
      exact (isDecimalCard_iff standard (ascii_of_isCard standard isCard)).mpr isCard
  rw [server, password, card, decide_eq_decide.mpr links]
  exact ⟨rfl, rfl⟩

/-- A character of the basic plane that all three read alike: white space for all or none, a
digit of ASCII or none, and alphabetic or numeric only if a letter or a decimal digit. -/
structure IsCommon (data : CharacterData) (c : Char) : Prop where
  basic : c.toNat < 0x10000
  space : Android.Privacy.isWhitespace c.toNat = isWhiteSpace c
  digit : data.decimal c = true → c.isDigit = true
  symbol : (data.alphabetic c || data.numeric c) = (data.letter c || data.decimal c)

section Common

variable {t : Text}

theorem any_common {test other : Char → Bool} (same : ∀ c ∈ t, test c = other c) :
    t.any test = t.any other := by
  rw [Bool.eq_iff_iff, List.any_eq_true, List.any_eq_true]
  exact exists_congr fun c => and_congr_right fun among => by rw [same c among]

theorem isStrongSymbol_common {c : Char} (common : IsCommon data c) :
    Server.Privacy.isStrongSymbol data c = Desktop.Privacy.isStrongSymbol data c ∧
      Android.Privacy.isStrongSymbol data c.toNat = Desktop.Privacy.isStrongSymbol data c := by
  have literal : Android.Privacy.units "-_./:," = "-_./:,".toList.map Char.toNat := by decide
  have listed : ("-_./:,".toList.map Char.toNat).contains c.toNat =
      "-_./:,".toList.contains c := by
    rw [Bool.eq_iff_iff, List.contains_iff_mem, List.contains_iff_mem]
    exact List.mem_map_of_injective fun _ _ same => Char.toNat_inj.mp same
  constructor
  · rw [Server.Privacy.isStrongSymbol, Desktop.Privacy.isStrongSymbol, common.symbol]
    cases data.letter c || data.decimal c <;> rfl
  · rw [Android.Privacy.isStrongSymbol, Desktop.Privacy.isStrongSymbol, common.symbol,
      Android.Privacy.isLetterOrDigit, Utf16.onUnit_basic _ common.basic, literal, listed]

theorem isToken_common (common : ∀ c ∈ t, IsCommon data c)
    (drive : ∀ c rest, t = c :: rest → FollowsDrive rest → IsAscii c) :
    Android.Privacy.IsToken t ↔ IsToken t := by
  have encoded := Utf16.encode_basic fun c among => (common c among).basic
  have count : (Utf16.encode t).length = t.length := by rw [encoded, List.length_map]
  have spaces : (Utf16.encode t).any Android.Privacy.isWhitespace = t.any isWhiteSpace := by
    rw [encoded, List.any_map]
    exact any_common fun c among => (common c among).space
  have path : Android.Privacy.looksLikePath (Utf16.encode t) = isBytePath t := by
    rw [Bool.eq_iff_iff, Android.Privacy.looksLikePath_encode, isBytePath_iff]
    refine or_congr_right (exists_congr fun c => exists_congr fun rest =>
      and_congr_right fun split => and_congr_left fun follows => ?_)
    exact iff_of_true (common c (by simp [split])).basic (drive c rest split follows)
  constructor
  · rintro ⟨long, short, unbroken, notPath⟩
    exact ⟨count ▸ long, count ▸ short, spaces ▸ unbroken, path ▸ notPath⟩
  · rintro ⟨long, short, unbroken, notPath⟩
    exact ⟨count ▸ long, count ▸ short, spaces ▸ unbroken, path ▸ notPath⟩

/-- A text of common characters is uncontested, unless it starts like a drive with a
character beyond ASCII. -/
theorem uncontested_of_common {text : Text} (common : ∀ c ∈ text, IsCommon data c)
    (drive : ∀ c rest, trimBy isWhiteSpace text = c :: rest → FollowsDrive rest → IsAscii c) :
    Uncontested data random (trimBy isWhiteSpace text) (Android.Privacy.trim text) := by
  have same : Android.Privacy.trim text = trimBy isWhiteSpace text :=
    trimBy_congr fun c among => (common c among).space
  have kept : ∀ c ∈ trimBy isWhiteSpace text, IsCommon data c := fun c among =>
    common c ((trimBy_sublist _ text).subset among)
  rw [same]
  generalize trimBy isWhiteSpace text = t at *
  refine ⟨.rfl, .rfl, fun _ c among => (kept c among).digit, fun _ _ strong => ?_, ?_⟩
  · rwa [any_common fun c among => (isStrongSymbol_common (kept c among)).1] at strong
  · have strong : (Utf16.encode t).any (Android.Privacy.isStrongSymbol data) =
        t.any (Desktop.Privacy.isStrongSymbol data) := by
      rw [Utf16.encode_basic fun c among => (kept c among).basic, List.any_map]
      exact any_common fun c among => (isStrongSymbol_common (kept c among)).2
    rw [isToken_common kept drive, strong]

end Common

/-- What the Android client keeps of a text the desktop client keeps as well, except for
white space. -/
theorem mem_trimmed {text : Text} {c : Char} (among : c ∈ Android.Privacy.trim text) :
    c ∈ trimBy isWhiteSpace text ∨ isWhiteSpace c = true :=
  mem_trimBy_or ((trimBy_sublist _ text).subset among)

theorem uncontested_of_agree (standard : data.Standard) {text : Text} (keyless : ¬HoldsKey text)
    (agree : Agree data random text) :
    Uncontested data random (trimBy isWhiteSpace text) (Android.Privacy.trim text) := by
  have kept := @mem_trimmed text
  rw [Agree, Desktop.Privacy.classify_eq, Server.Privacy.classify_eq standard,
    Android.Privacy.classify_eq standard, decide_eq_false keyless] at agree
  generalize trimBy isWhiteSpace text = wide at *
  generalize Android.Privacy.trim text = own at *
  obtain ⟨server, android⟩ := agree
  obtain ⟨-, server⟩ := verdict_inj _ _ _ _ _ _ server
  obtain ⟨link, android⟩ := verdict_inj _ _ _ _ _ _ android
  have links : IsLink wide ↔ IsLink own := (decide_eq_decide.mp link).symm
  by_cases isLink : IsLink wide
  · have ownLink := links.mp isLink
    refine ⟨links, iff_of_false (fun isCard => isCard.not_isLink isLink)
      (fun isCard => isCard.not_isLink ownLink), fun isCard => ?_, fun _ credential => ?_,
      iff_of_false ?_ ?_⟩
    · exact absurd ownLink (not_isLink_of_isDecimalCard standard isCard)
    · exact absurd isLink credential.not_isLink
    · exact fun password => password.2.1.not_isLink isLink
    · exact fun password => password.2.1.not_isLink ownLink
  obtain ⟨-, server⟩ := server (decide_eq_false isLink)
  obtain ⟨sameCard, android⟩ := android (decide_eq_false fun ownLink => isLink (links.mpr ownLink))
  have card : Android.Privacy.IsDecimalCard data own ↔ IsCard wide := by
    rw [← Android.Privacy.isCardNumber_iff, sameCard, decide_eq_true_eq]
  by_cases isCard : IsCard wide
  · have digits : ∀ c ∈ own, data.decimal c = true → c.isDigit = true := by
      intro c among decimal
      rcases kept among with within | white
      · exact ascii_of_isCard standard isCard c within decimal
      · rw [standard.decimal_visible c decimal] at white
        cases white
    have ownCard := (isDecimalCard_iff standard digits).mp (card.mpr isCard)
    refine ⟨links, iff_of_true isCard ownCard, fun _ => digits, fun _ credential => ?_,
      iff_of_false ?_ ?_⟩
    · exact absurd isCard credential.not_isCard
    · exact fun password => password.2.1.not_isCard isCard
    · exact fun password => password.2.1.not_isCard ownCard
  have ownCard : ¬Android.Privacy.IsDecimalCard data own := fun ownCard =>
    isCard (card.mp ownCard)
  have server := server (decide_eq_false isCard)
  have android := android (sameCard.trans (decide_eq_false isCard))
  rw [Bool.eq_iff_iff, Server.Privacy.isPasswordLike_iff standard,
    Desktop.Privacy.isPasswordLike_iff standard] at server
  rw [Bool.eq_iff_iff, Android.Privacy.isPasswordLike_iff standard,
    Desktop.Privacy.isPasswordLike_iff standard] at android
  refine ⟨links, iff_of_false isCard fun isOwn => ?_, fun isOwn => absurd isOwn ownCard, ?_,
    android.symm⟩
  · exact ownCard ((isDecimalCard_iff standard (ascii_of_isCard standard isOwn)).mpr isOwn)
  · exact fun token credential strong => (server.mp ⟨token, credential, strong⟩).2.2

/-- The classifiers agree on a text if and only if it has the marks of a private key or
none of their differences matters for it. -/
theorem classifiers_agree_iff (standard : data.Standard) (text : Text) :
    Agree data random text ↔ HoldsKey text ∨
      Uncontested data random (trimBy isWhiteSpace text) (Android.Privacy.trim text) := by
  constructor
  · intro agree
    by_cases key : HoldsKey text
    · exact .inl key
    · exact .inr (uncontested_of_agree standard key agree)
  · rintro (key | uncontested)
    · rw [Agree, Desktop.Privacy.classify_eq, Server.Privacy.classify_eq standard,
        Android.Privacy.classify_eq standard, decide_eq_true key]
      exact ⟨rfl, rfl⟩
    · exact agree_of_uncontested standard uncontested

end Agreement

/-! ## Concrete texts -/

section Concrete

/-- Tables that know the characters of ASCII only. -/
def asciiData : CharacterData where
  letter := Char.isAlpha
  decimal := Char.isDigit
  numeric := Char.isDigit
  alphabetic := Char.isAlpha
  lower := Char.toLower
  upper := Char.toUpper
  fold := Char.toLower
  fullLower c := [c.toLower]
  finalSigma _ _ := false

theorem standard_asciiData : asciiData.Standard where
  letter_ascii _ _ := rfl
  decimal_ascii _ _ := rfl
  numeric_ascii _ _ := rfl
  alphabetic_ascii _ _ := rfl
  lower_ascii _ _ := rfl
  upper_ascii _ _ := rfl
  fold_ascii _ _ := rfl
  fullLower_ascii _ _ := rfl
  letter_alphabetic _ letter := letter
  decimal_numeric _ decimal := decimal
  decimal_visible c decimal := by
    obtain ⟨low, high⟩ := Char.isDigit_iff_toNat.mp decimal
    simp only [isWhiteSpace, decide_eq_false_iff_not, Char.reduceToNat] at low high ⊢
    omega
  lower_apart c large plain := by
    have small : c.toLower.toNat < 128 := plain.1
    rw [CharacterData.toLower_of_not_ascii large] at small
    omega
  upper_apart c large plain := by
    have small : c.toUpper.toLower.toNat < 128 := plain.1
    rw [CharacterData.toUpper_of_not_ascii large,
      CharacterData.toLower_of_not_ascii large] at small
    omega
  fold_apart c large plain := by
    have small : c.toLower.toNat < 128 := plain.1
    rw [CharacterData.toLower_of_not_ascii large] at small
    omega
  fullLower_apart c large image among plain := by
    have small := plain.1
    rw [List.mem_singleton.mp among, CharacterData.toLower_of_not_ascii large] at small
    omega
  fullLower_shown c := List.cons_ne_nil _ _

/-- A card number is one for all three. -/
theorem classifiers_agree_card : Agree asciiData (fun _ => true) "4242 4242 4242 4242".toList := by
  refine (classifiers_agree_iff standard_asciiData _).mpr (.inr ⟨by decide, by decide,
    fun _ _ _ decimal => decimal, fun token => absurd token.unbroken (by decide),
    iff_of_false ?_ ?_⟩)
  · exact fun password => absurd password.1.unbroken (by decide)
  · exact fun password => absurd password.1.unbroken (by decide)

/-- A card number copied with a next-line character behind it is one for the desktop client
and in Go, which trim the character; the Android client keeps it and finds nothing. -/
theorem trailing_next_line_contested : ¬∀ data : CharacterData, data.Standard →
    ∀ (random : Text → Bool) (text : Text), Agree data random text := by
  intro claim
  have same := (claim asciiData standard_asciiData (fun _ => true)
    "4242 4242 4242 4242\u0085".toList).2
  have desktop : Desktop.Privacy.classify asciiData (fun _ => true)
      "4242 4242 4242 4242\u0085".toList [] = some .creditCard := by decide +kernel
  have android : Android.Privacy.classify asciiData (fun _ => true)
      (Utf16.encode "4242 4242 4242 4242\u0085".toList) [] = none := by decide +kernel
  rw [desktop, android] at same
  cases same

end Concrete

end CopySync.Interop
