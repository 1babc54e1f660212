import Mathlib.Data.List.Basic
import Mathlib.Data.String.Basic

/-!
# Components of native paths

Paths as `std::path` reads them.  On Unix a slash separates components.  On Windows a
backslash does too, a path may begin with a prefix such as a drive, and a path with a
verbatim prefix keeps its slashes inside components.  Joining is described by the
components of the result: a path with a prefix, or an absolute one, replaces the base.
-/

namespace CopySync.Foundation

inductive Platform where
  | unix
  | windows
  deriving DecidableEq, Repr

namespace PlatformPath

abbrev Text := List Char

/-! ## Prefixes -/

inductive Prefix where
  | verbatim (name : Text)
  | verbatimUNC (server share : Text)
  | verbatimDisk (drive : Char)
  | deviceNS (name : Text)
  | unc (server share : Text)
  | disk (drive : Char)
  deriving DecidableEq, Repr

namespace Prefix

def isVerbatim : Prefix → Bool
  | .verbatim _ | .verbatimUNC _ _ | .verbatimDisk _ => true
  | _ => false

/-- Every prefix but a bare drive implies a root. -/
def hasImplicitRoot : Prefix → Bool
  | .disk _ => false
  | _ => true

def shareLength (share : Text) : Nat := if share = [] then 0 else 1 + share.length

def length : Prefix → Nat
  | .verbatim name => 4 + name.length
  | .verbatimUNC server share => 8 + server.length + shareLength share
  | .verbatimDisk _ => 6
  | .deviceNS name => 4 + name.length
  | .unc server share => 2 + server.length + shareLength share
  | .disk _ => 2

end Prefix

/-- Separators of Windows: both slashes, or in verbatim paths the backslash. -/
def isWindowsSeparator (verbatim : Bool) (char : Char) : Bool :=
  char == '\\' || (!verbatim && char == '/')

def parseDrive : Text → Option Char
  | drive :: ':' :: _ => if drive.isAlpha then some drive.toUpper else none
  | _ => none

/-- A drive that is a component of its own. -/
def parseDriveExact (path : Text) : Option Char :=
  if path[2]?.all (isWindowsSeparator false) then parseDrive path else none

/-- The text up to the next separator, and what follows the separator. -/
def parseNextComponent (path : Text) (verbatim : Bool) : Text × Text :=
  let inside := fun char => !isWindowsSeparator verbatim char
  (path.takeWhile inside, (path.dropWhile inside).drop 1)

/-- Whether a path begins with a text, slashes read as backslashes. -/
def startsWith (front : String) (path : Text) : Bool :=
  front.toList.isPrefixOf (path.map fun char => if char = '/' then '\\' else char)

def parseWindowsPrefix (path : Text) : Option Prefix :=
  if startsWith "\\\\" path then
    if startsWith "\\\\?\\" path && !(path.take 4).contains '/' then
      if startsWith "\\\\?\\UNC\\" path then
        let (server, rest) := parseNextComponent (path.drop 8) true
        some (.verbatimUNC server (parseNextComponent rest true).1)
      else
        match parseDriveExact (path.drop 4) with
        | some drive => some (.verbatimDisk drive)
        | none => some (.verbatim (parseNextComponent (path.drop 4) true).1)
    else if startsWith "\\\\.\\" path then
      some (.deviceNS (parseNextComponent (path.drop 4) false).1)
    else
      let (server, rest) := parseNextComponent (path.drop 2) false
      let (share, _) := parseNextComponent rest false
      if server ≠ [] ∧ share ≠ [] then some (.unc server share) else none
  else (parseDrive path).map .disk

def parsePrefix : Platform → Text → Option Prefix
  | .unix, _ => none
  | .windows, path => parseWindowsPrefix path

/-! ## Components -/

inductive Component where
  | pre (pre : Prefix)
  | rootDir
  | curDir
  | parentDir
  | normal (name : Text)
  deriving DecidableEq, Repr

section Components

variable (platform : Platform) (path : Text)

def isVerbatim : Bool := (parsePrefix platform path).any Prefix.isVerbatim

def isSeparator (char : Char) : Bool :=
  match platform with
  | .unix => char == '/'
  | .windows => isWindowsSeparator (isVerbatim platform path) char

/-- Separators of a platform, the prefix of the path left aside. -/
def isSepByte (char : Char) : Bool :=
  match platform with
  | .unix => char == '/'
  | .windows => isWindowsSeparator false char

/-- What follows the prefix. -/
def unprefixed : Text := path.drop ((parsePrefix platform path).elim 0 Prefix.length)

/-- A slash is a root also after a verbatim drive. -/
def hasPhysicalRoot : Bool := (unprefixed platform path).head?.any (isSepByte platform)

def hasRoot : Bool :=
  hasPhysicalRoot platform path || (parsePrefix platform path).any Prefix.hasImplicitRoot

/-- A leading `.` of a relative path is a component. -/
def includesCurDir : Bool :=
  !hasRoot platform path &&
    match unprefixed platform path with
    | ['.'] => true
    | '.' :: char :: _ => isSeparator platform path char
    | _ => false

/-- A single component; an inner `.` is one in verbatim paths only. -/
def parseSingle (verbatim : Bool) (text : Text) : Option Component :=
  if text = [] then none
  else if text = ['.'] then if verbatim then some .curDir else none
  else if text = ['.', '.'] then some .parentDir
  else some (.normal text)

/-- What follows prefix and root. -/
def body : Text := (unprefixed platform path).drop (if hasPhysicalRoot platform path then 1 else 0)

def start : List Component :=
  match parsePrefix platform path with
  | some pre =>
      .pre pre :: if hasPhysicalRoot platform path || (pre.hasImplicitRoot && !pre.isVerbatim)
        then [.rootDir] else []
  | none =>
      if hasPhysicalRoot platform path then [.rootDir]
      else if includesCurDir platform path then [.curDir] else []

def components : List Component :=
  start platform path ++
    ((body platform path).splitOnP (isSeparator platform path)).filterMap
      (parseSingle (isVerbatim platform path))

/-- `Path::file_name`. -/
def fileName? : Option Text :=
  match (components platform path).getLast? with
  | some (.normal name) => some name
  | _ => none

end Components

/-- Joining to a verbatim base resolves `.` and `..`. -/
def joinVerbatim (base : List Component) : Component → List Component
  | .rootDir => base.take 1 ++ [.rootDir]
  | .curDir => base
  | .parentDir => match base.getLast? with
      | some (.normal _) => base.dropLast
      | _ => base
  | part => base ++ [part]

/-- The components of `Path::join`. -/
def join (platform : Platform) (base : List Component) (path : Text) : List Component :=
  let parts := components platform path
  let kept := base.takeWhile fun part => match part with
    | .pre _ => true
    | _ => false
  if (parsePrefix platform path).isSome then parts
  else if kept.any (fun part => match part with
    | .pre pre => pre.isVerbatim
    | _ => false) then parts.foldl joinVerbatim base
  else if hasRoot platform path then kept ++ parts
  else base ++ parts.filter (· ≠ .curDir)

/-! ## Single names -/

/-- A text that is one component, and the same text as that component. -/
def IsName (platform : Platform) (name : Text) : Prop :=
  name ≠ [] ∧ name ≠ ['.'] ∧ name ≠ ['.', '.'] ∧ parsePrefix platform name = none ∧
    ∀ char ∈ name, isSeparator platform name char = false

variable {platform : Platform} {path name : Text}

theorem not_separator_of_mem_splitOnP {separates : Char → Bool} {text piece : Text}
    (among : piece ∈ text.splitOnP separates) : ∀ char ∈ piece, separates char = false := by
  induction text generalizing piece with
  | nil =>
      rw [List.splitOnP_nil, List.mem_singleton] at among
      subst among
      intro char membership
      cases membership
  | cons first rest ih =>
      obtain ⟨head, pieces, split⟩ := List.exists_cons_of_ne_nil
        (List.splitOnP_ne_nil separates rest)
      rw [List.splitOnP_cons_eq_if_modifyHead, split] at among
      rw [split] at ih
      split_ifs at among with separator
      · rcases List.mem_cons.mp among with rfl | later
        · intro char membership
          cases membership
        · exact ih later
      · rcases List.mem_cons.mp among with rfl | later
        · intro char membership
          rcases List.mem_cons.mp membership with rfl | inner
          · exact Bool.eq_false_iff.mpr separator
          · exact ih List.mem_cons_self char inner
        · exact ih (List.mem_cons_of_mem _ later)

theorem parseSingle_eq_normal {verbatim : Bool} {text : Text} :
    parseSingle verbatim text = some (.normal name) ↔
      text = name ∧ name ≠ [] ∧ name ≠ ['.'] ∧ name ≠ ['.', '.'] := by
  rw [parseSingle]
  constructor
  · intro single
    split_ifs at single with empty dot verbatim dots <;> cases single
    exact ⟨rfl, empty, dot, dots⟩
  · rintro ⟨rfl, empty, dot, dots⟩
    rw [if_neg empty, if_neg dot, if_neg dots]

/-- No prefix, root or leading `.` is a normal component. -/
theorem normal_not_mem_start : .normal name ∉ start platform path := by
  rw [start]
  split
  · split_ifs <;> simp
  · split_ifs <;> simp

theorem fileName?_eq_some (found : fileName? platform path = some name) :
    name ≠ [] ∧ name ≠ ['.'] ∧ name ≠ ['.', '.'] ∧
      ∀ char ∈ name, isSeparator platform path char = false := by
  rw [fileName?] at found
  split at found
  next last ended =>
    cases found
    rcases List.mem_append.mp (List.mem_of_getLast? ended) with early | late
    · exact absurd early normal_not_mem_start
    · obtain ⟨piece, among, single⟩ := List.mem_filterMap.mp late
      obtain ⟨rfl, empty, dot, dots⟩ := parseSingle_eq_normal.mp single
      exact ⟨empty, dot, dots, not_separator_of_mem_splitOnP among⟩
  next => cases found

/-- Without a prefix both slashes separate. -/
theorem isSeparator_of_none (bare : parsePrefix platform path = none) :
    isSeparator platform path = isSepByte platform := by
  funext char
  cases platform with
  | unix => rfl
  | windows => simp [isSeparator, isSepByte, isVerbatim, bare]

theorem unprefixed_of_none (bare : parsePrefix platform path = none) :
    unprefixed platform path = path := by
  rw [unprefixed, bare]
  rfl

/-- A name has no root and no leading `.`. -/
theorem start_of_isName (single : IsName platform name) :
    hasPhysicalRoot platform name = false ∧ start platform name = [] := by
  obtain ⟨empty, dot, dots, bare, inner⟩ := single
  have whole := unprefixed_of_none bare
  have unrooted : hasPhysicalRoot platform name = false := by
    rw [hasPhysicalRoot, whole, ← isSeparator_of_none bare]
    cases name with
    | nil => rfl
    | cons first rest => exact inner first List.mem_cons_self
  have visible : includesCurDir platform name = false := by
    rw [includesCurDir, whole, Bool.and_eq_false_iff]
    refine .inr ?_
    split
    · exact absurd rfl dot
    next char rest => exact inner char (by simp)
    · rfl
  refine ⟨unrooted, ?_⟩
  rw [start, bare]
  simp [unrooted, visible]

/-- A path is one component with its own text when it is a name. -/
theorem components_eq_normal :
    components platform name = [.normal name] ↔ IsName platform name := by
  constructor
  · intro single
    have unstarted : start platform name = [] := by
      cases begun : start platform name with
      | nil => rfl
      | cons first rest =>
          rw [components, begun, List.cons_append] at single
          have among : .normal name ∈ start platform name := by
            rw [begun, (List.cons.inj single).1]
            exact List.mem_cons_self
          exact absurd among normal_not_mem_start
    have bare : parsePrefix platform name = none := by
      cases parsed : parsePrefix platform name with
      | none => rfl
      | some pre =>
          rw [start, parsed] at unstarted
          cases unstarted
    have unrooted : hasPhysicalRoot platform name = false := by
      rw [start, bare] at unstarted
      cases rooted : hasPhysicalRoot platform name with
      | false => rfl
      | true => simp [rooted] at unstarted
    have listed : .normal name ∈ components platform name := single ▸ List.mem_cons_self
    rw [components, unstarted, List.nil_append] at listed
    obtain ⟨piece, among, parsed⟩ := List.mem_filterMap.mp listed
    obtain ⟨rfl, empty, dot, dots⟩ := parseSingle_eq_normal.mp parsed
    exact ⟨empty, dot, dots, bare, not_separator_of_mem_splitOnP among⟩
  · intro single
    obtain ⟨unrooted, unstarted⟩ := start_of_isName single
    obtain ⟨empty, dot, dots, bare, inner⟩ := single
    have whole : body platform name = name := by
      rw [body, unprefixed_of_none bare, unrooted]
      rfl
    rw [components, unstarted, whole, List.splitOnP_eq_singleton inner, List.nil_append]
    exact List.filterMap_cons_some (parseSingle_eq_normal.mpr ⟨rfl, empty, dot, dots⟩)

/-- Joining a name appends it to any base. -/
theorem join_isName (base : List Component) (single : IsName platform name) :
    join platform base name = base ++ [.normal name] := by
  have unrooted : hasRoot platform name = false := by
    rw [hasRoot, (start_of_isName single).1, single.2.2.2.1]
    rfl
  rw [join, components_eq_normal.mpr single]
  simp [single.2.2.2.1, unrooted, joinVerbatim]

theorem isName_unix : IsName .unix name ↔
    name ≠ [] ∧ name ≠ ['.'] ∧ name ≠ ['.', '.'] ∧ '/' ∉ name := by
  simp only [IsName, parsePrefix, isSeparator, beq_eq_false_iff_ne, true_and]
  constructor
  · rintro ⟨empty, dot, dots, inner⟩
    exact ⟨empty, dot, dots, fun slash => inner '/' slash rfl⟩
  · rintro ⟨empty, dot, dots, slashless⟩
    exact ⟨empty, dot, dots, fun char membership same => slashless (same ▸ membership)⟩

/-- A drive needs a colon. -/
theorem parseDrive_of_colonless {name : Text} (colonless : ':' ∉ name) :
    parseDrive name = none := by
  rw [parseDrive.eq_def]
  split
  next drive rest => exact absurd (by simp) colonless
  next => rfl

/-- Without separators the only prefix is a drive. -/
theorem parseWindowsPrefix_of_plain (slashless : '/' ∉ name) (backslashless : '\\' ∉ name) :
    parseWindowsPrefix name = (parseDrive name).map .disk := by
  have plain : startsWith "\\\\" name = false := by
    cases name with
    | nil => rfl
    | cons first rest =>
        have notSlash : first ≠ '/' := fun same => slashless (same ▸ List.mem_cons_self)
        have notBackslash : '\\' ≠ first := fun same => backslashless (same ▸ List.mem_cons_self)
        simp [startsWith, notSlash, List.isPrefixOf_cons_cons, notBackslash]
  rw [parseWindowsPrefix, plain]
  rfl

theorem isWindowsSeparator_eq_false {char : Char} :
    isWindowsSeparator false char = false ↔ char ≠ '\\' ∧ char ≠ '/' := by
  simp [isWindowsSeparator]

/-- On Windows a name has no separator and begins with no drive. -/
theorem isName_windows : IsName .windows name ↔
    name ≠ [] ∧ name ≠ ['.'] ∧ name ≠ ['.', '.'] ∧ parseDrive name = none ∧
      '/' ∉ name ∧ '\\' ∉ name := by
  constructor
  · rintro ⟨empty, dot, dots, bare, inner⟩
    have plain : ∀ char ∈ name, char ≠ '\\' ∧ char ≠ '/' := by
      intro char membership
      have inside := inner char membership
      rw [isSeparator, isVerbatim, bare] at inside
      exact isWindowsSeparator_eq_false.mp inside
    have slashless : '/' ∉ name := fun slash => (plain _ slash).2 rfl
    have backslashless : '\\' ∉ name := fun backslash => (plain _ backslash).1 rfl
    rw [parsePrefix, parseWindowsPrefix_of_plain slashless backslashless] at bare
    exact ⟨empty, dot, dots, Option.map_eq_none_iff.mp bare, slashless, backslashless⟩
  · rintro ⟨empty, dot, dots, driveless, slashless, backslashless⟩
    have bare : parsePrefix .windows name = none := by
      rw [parsePrefix, parseWindowsPrefix_of_plain slashless backslashless, driveless]
      rfl
    refine ⟨empty, dot, dots, bare, ?_⟩
    intro char membership
    rw [isSeparator, isVerbatim, bare]
    exact isWindowsSeparator_eq_false.mpr
      ⟨fun same => backslashless (same ▸ membership), fun same => slashless (same ▸ membership)⟩

/-- The backslash separates in every path of Windows. -/
theorem backslash_separates : isSeparator .windows path '\\' = true := rfl

/-- What is taken from a path as its file name is a name, but on Windows it may begin with a
drive, or come with slashes from a verbatim path. -/
theorem isName_fileName (found : fileName? platform path = some name) :
    IsName platform name ↔ (platform = .windows → parseDrive name = none ∧ '/' ∉ name) := by
  obtain ⟨empty, dot, dots, inner⟩ := fileName?_eq_some found
  cases platform with
  | unix =>
      have slashless : '/' ∉ name := fun slash => by simpa [isSeparator] using inner _ slash
      simp [isName_unix, empty, dot, dots, slashless]
  | windows =>
      have backslashless : '\\' ∉ name := fun backslash =>
        absurd (inner _ backslash) (by rw [backslash_separates]; decide)
      simp [isName_windows, empty, dot, dots, backslashless]

/-! ### Unix -/

/-- The components after a root are the pieces that are not empty or `.`. -/
theorem filterMap_parseSingle (pieces : List Text) :
    pieces.filterMap (parseSingle false) =
      (pieces.filter fun piece => piece ≠ [] ∧ piece ≠ ['.']).map fun piece =>
        if piece = ['.', '.'] then .parentDir else .normal piece := by
  induction pieces with
  | nil => rfl
  | cons piece rest ih =>
      by_cases empty : piece = []
      · simp [parseSingle, empty, ih]
      by_cases dot : piece = ['.']
      · simp [parseSingle, dot, ih]
      by_cases dots : piece = ['.', '.']
      · simp [parseSingle, dots, ih]
      · simp [parseSingle, empty, dot, dots, ih]

theorem components_unix (path : Text) :
    components .unix path = start .unix path ++
      (path.splitOnP (· == '/')).filterMap (parseSingle false) := by
  have bodies : ((body .unix path).splitOnP (· == '/')).filterMap (parseSingle false) =
      (path.splitOnP (· == '/')).filterMap (parseSingle false) := by
    cases path with
    | nil => rfl
    | cons first rest =>
        by_cases slash : first = '/'
        · subst slash
          rw [List.splitOnP_cons_eq_if_modifyHead]
          rfl
        · have unrooted : hasPhysicalRoot .unix (first :: rest) = false := by
            simpa [hasPhysicalRoot, unprefixed, parsePrefix, isSepByte] using slash
          rw [body, unrooted]
          rfl
  rw [components, ← bodies]
  rfl

/-- A file name on Unix is the last piece that is not empty or `.`. -/
theorem fileName?_unix (path : Text) :
    fileName? .unix path =
      (((path.splitOnP (· == '/')).filter fun piece => piece ≠ [] ∧ piece ≠ ['.']).getLast?).bind
        fun piece => if piece = ['.', '.'] then none else some piece := by
  rw [fileName?, components_unix, filterMap_parseSingle, List.getLast?_append, List.getLast?_map]
  generalize (List.filter _ _).getLast? = last
  cases last with
  | none =>
      cases ended : (start .unix path).getLast? with
      | none => rfl
      | some component =>
          cases component with
          | normal name => exact absurd (List.mem_of_getLast? ended) normal_not_mem_start
          | pre | rootDir | curDir | parentDir => rfl
  | some piece =>
      simp only [Option.map_some, Option.some_or, Option.bind_some]
      split_ifs <;> rfl

end PlatformPath

end CopySync.Foundation
