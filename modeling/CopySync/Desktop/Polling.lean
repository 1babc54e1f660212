import CopySync.Desktop.Watcher
import CopySync.Foundation.History

/-!
# Desktop client: what the watcher reports

The watcher compares each format with the last value it has noted for it.  A new image or
file list makes it note all formats as they are; a new text leaves what it noted of the
others, so an image or a file list that comes back after a text is taken for the one that
was there before.
-/

namespace CopySync.Desktop

open Foundation Client

/-! ## One read -/

/-- Nothing in a reading is new. -/
structure Unchanged (prims : Primitives) (state : ClipState) (reading : Reading) : Prop where
  image : ∀ {rgba : Bytes}, reading.image = some rgba → prims.sha256Hex rgba = state.lastImg
  files : ∀ {paths : List String}, reading.files = some paths → joinFiles paths = state.lastFiles
  text : ∀ {text : String}, reading.text = some text → text ≠ "" → text = state.lastText

/-- The change counter after a read that looked at the clipboard. -/
def Reading.nextSeq (reading : Reading) (last : Option Nat) : Option Nat :=
  if reading.image.isSome || reading.files.isSome || reading.text.isSome then reading.seq.or last
  else last

/-- The text, the image and the files a reading makes the watcher note. -/
def Reading.noted (prims : Primitives) (reading : Reading) (last : Option Nat) : ClipState :=
  ⟨reading.nextSeq last, (reading.text.filter (· != "")).getD "",
    (reading.image.map prims.sha256Hex).getD "", (reading.files.map joinFiles).getD ""⟩

/-- What one read does. -/
inductive Polled (prims : Primitives) (state : ClipState) (reading : Reading) :
    ClipState × Option Request → Prop where
  | skipped {seq : Nat} (same : reading.seq = some seq) (last : state.lastSeq = some seq) :
      Polled prims state reading (state, none)
  | image {rgba : Bytes} (present : reading.image = some rgba)
      (changed : prims.sha256Hex rgba ≠ state.lastImg) :
      Polled prims state reading (reading.noted prims state.lastSeq, some (.localImage rgba))
  | files {paths : List String} (present : reading.files = some paths)
      (changed : joinFiles paths ≠ state.lastFiles) :
      Polled prims state reading (reading.noted prims state.lastSeq, some (.localFiles paths))
  | text {text : String} (present : reading.text = some text) (nonempty : text ≠ "")
      (changed : text ≠ state.lastText)
      (others : Unchanged prims state { reading with text := none }) :
      Polled prims state reading
        ({ state with lastSeq := reading.nextSeq state.lastSeq, lastText := text },
          some (.localText text (reading.html.filter (· != ""))))
  | quiet (unchanged : Unchanged prims state reading) :
      Polled prims state reading
        ({ state with lastSeq := reading.nextSeq state.lastSeq }, none)

section Read

variable {prims : Primitives} {state : ClipState} {reading : Reading}

theorem polled (prims : Primitives) (state : ClipState) (reading : Reading) :
    Polled prims state reading (pollOnce prims state reading) := by
  rw [pollOnce]
  split_ifs with same
  · obtain ⟨seq, found, last⟩ := (Option.any_eq_true _ _).mp same
    exact .skipped found (of_decide_eq_true last)
  · simp only
    split
    next rgba image =>
      obtain ⟨present, changed⟩ := Option.filter_eq_some_iff.mp image
      have noted : reading.noted prims state.lastSeq = ⟨reading.nextSeq state.lastSeq,
          (reading.text.filter (· != "")).getD "", prims.sha256Hex rgba,
          (reading.files.map joinFiles).getD ""⟩ := by
        rw [Reading.noted, present, Option.map_some, Option.getD_some]
      rw [← Reading.nextSeq, ← noted]
      exact .image present (bne_iff_ne.mp changed)
    next image =>
      split
      next paths files =>
        obtain ⟨present, changed⟩ := Option.filter_eq_some_iff.mp files
        have noted : reading.noted prims state.lastSeq = ⟨reading.nextSeq state.lastSeq,
            (reading.text.filter (· != "")).getD "", (reading.image.map prims.sha256Hex).getD "",
            joinFiles paths⟩ := by
          rw [Reading.noted, present, Option.map_some, Option.getD_some]
        rw [← Reading.nextSeq, ← noted]
        exact .files present (bne_iff_ne.mp changed)
      next files =>
        have sameImage : ∀ {rgba}, reading.image = some rgba →
            prims.sha256Hex rgba = state.lastImg := by
          intro rgba present
          have kept := Option.filter_eq_none_iff.mp image rgba present
          simpa using kept
        have sameFiles : ∀ {paths}, reading.files = some paths →
            joinFiles paths = state.lastFiles := by
          intro paths present
          have kept := Option.filter_eq_none_iff.mp files paths present
          simpa using kept
        split
        next text found =>
          obtain ⟨present, changed⟩ := Option.filter_eq_some_iff.mp found
          obtain ⟨nonempty, changed⟩ := Bool.and_eq_true_iff.mp changed
          refine .text present (bne_iff_ne.mp nonempty) (bne_iff_ne.mp changed) ?_
          exact ⟨sameImage, sameFiles, fun absent => by cases absent⟩
        next found =>
          refine .quiet ⟨sameImage, sameFiles, ?_⟩
          intro text present nonempty
          have kept := Option.filter_eq_none_iff.mp found text present
          simpa [nonempty] using kept

variable {prims : Primitives} {state : ClipState} {reading : Reading}

theorem Reading.nextSeq_of_seq {seq : Nat} (same : reading.seq = some seq) :
    reading.nextSeq (some seq) = some seq := by
  rw [nextSeq, same]
  split_ifs <;> rfl

theorem Reading.nextSeq_idem (last : Option Nat) :
    reading.nextSeq (reading.nextSeq last) = reading.nextSeq last := by
  cases counted : reading.seq with
  | some seq =>
      rw [nextSeq, nextSeq, counted]
      split_ifs <;> rfl
  | none =>
      rw [nextSeq, nextSeq, counted]
      split_ifs <;> rfl

/-- Where nothing is new the watcher says nothing and notes the counter at most. -/
theorem Unchanged.pollOnce (unchanged : Unchanged prims state reading) :
    pollOnce prims state reading =
      ({ state with lastSeq := reading.nextSeq state.lastSeq }, none) := by
  generalize outcome : Desktop.pollOnce prims state reading = result
  have read := polled prims state reading
  rw [outcome] at read
  cases read with
  | skipped same last => rw [last, Reading.nextSeq_of_seq same, ← last]
  | image present changed => exact absurd (unchanged.image present) changed
  | files present changed => exact absurd (unchanged.files present) changed
  | text present nonempty changed => exact absurd (unchanged.text present nonempty) changed
  | quiet => rfl

theorem Reading.unchanged_noted (reading : Reading) (last : Option Nat) :
    Unchanged prims (reading.noted prims last) reading where
  image := by
    intro rgba present
    rw [noted, present, Option.map_some, Option.getD_some]
  files := by
    intro paths present
    rw [noted, present, Option.map_some, Option.getD_some]
  text := by
    intro text present nonempty
    rw [noted, present, Option.filter_some, if_pos (bne_iff_ne.mpr nonempty), Option.getD_some]

/-! ## The same reading again -/

/-- A reading that comes again changes nothing. -/
theorem pollOnce_again :
    pollOnce prims (pollOnce prims state reading).1 reading =
      ((pollOnce prims state reading).1, none) := by
  generalize outcome : pollOnce prims state reading = result
  have read := polled prims state reading
  rw [outcome] at read
  have settled : ∀ {after : ClipState}, Unchanged prims after reading →
      reading.nextSeq after.lastSeq = after.lastSeq →
      pollOnce prims after reading = (after, none) := by
    intro after unchanged counted
    rw [unchanged.pollOnce, counted]
  cases read with
  | skipped => exact outcome
  | image => exact settled (reading.unchanged_noted _) (Reading.nextSeq_idem _)
  | files => exact settled (reading.unchanged_noted _) (Reading.nextSeq_idem _)
  | @text text present nonempty changed others =>
      refine settled ⟨others.image, others.files, ?_⟩ (Reading.nextSeq_idem _)
      intro other found _
      exact Option.some.inj (found.symm.trans present)
  | quiet unchanged =>
      exact settled ⟨unchanged.image, unchanged.files, unchanged.text⟩ (Reading.nextSeq_idem _)

end Read

/-- The commands of the watcher for one reading after the other. -/
def requests (prims : Primitives) : ClipState → List Reading → List (Option Request)
  | _, [] => []
  | state, reading :: rest =>
      let (after, request) := pollOnce prims state reading
      request :: requests prims after rest

/-- Whatever the watcher has noted and whatever it reads, reading the same again any number of
times sends nothing. -/
theorem nothing_resent (prims : Primitives) (state : ClipState) (reading : Reading)
    (count : Nat) :
    requests prims (pollOnce prims state reading).1 (List.replicate count reading) =
      List.replicate count none := by
  induction count with
  | zero => rfl
  | succ count ih =>
      rw [List.replicate_succ, List.replicate_succ, requests, pollOnce_again]
      exact congrArg (none :: ·) ih

/-! ## One format at a time -/

/-- A clipboard that holds one format. -/
inductive Content where
  | image (width height : Nat) (rgba : Bytes)
  | files (paths : List String) (nonempty : paths ≠ [])
  | text (text : String) (nonempty : text ≠ "")

/-- A content with the change counter and the HTML that are read beside it. -/
structure Shown where
  seq : Option Nat
  html : Option String
  content : Content

namespace Shown

/-- All reads of what is there succeed. -/
def reading (shown : Shown) : Reading :=
  match shown.content with
  | .image _ _ rgba => ⟨shown.seq, some rgba, none, none, shown.html⟩
  | .files paths _ => ⟨shown.seq, none, some paths, none, shown.html⟩
  | .text text _ => ⟨shown.seq, none, none, some text, shown.html⟩

/-- The command that carries the content. -/
def request (shown : Shown) : Request :=
  match shown.content with
  | .image _ _ rgba => .localImage rgba
  | .files paths _ => .localFiles paths
  | .text text _ => .localText text (shown.html.filter (· != ""))

end Shown

namespace Content

def isText : Content → Bool
  | .text .. => true
  | _ => false

/-- What `last_text` is after the content was sent. -/
def textPrint : Content → String
  | .text plain _ => plain
  | _ => ""

/-- What `last_img` is after an image or files were sent. -/
def imagePrint (prims : Primitives) : Content → String
  | .image _ _ rgba => prims.sha256Hex rgba
  | _ => ""

/-- What `last_files` is then. -/
def filesPrint : Content → String
  | .files paths _ => joinFiles paths
  | _ => ""

/-- An image or a file list with another fingerprint than the last one, if that was of its
kind, and than the empty text otherwise. -/
def Fresh (prims : Primitives) (last : Option Content) : Content → Prop
  | .image _ _ rgba => prims.sha256Hex rgba ≠ (last.map (imagePrint prims)).getD ""
  | .files paths _ => joinFiles paths ≠ (last.map filesPrint).getD ""
  | .text .. => True

end Content

/-- What the watcher compares a content with. -/
def Content.New (prims : Primitives) (state : ClipState) : Content → Prop
  | .image _ _ rgba => prims.sha256Hex rgba ≠ state.lastImg
  | .files paths _ => joinFiles paths ≠ state.lastFiles
  | .text plain _ => plain ≠ state.lastText

/-- The watcher after it has sent a content. -/
def Shown.after (prims : Primitives) (state : ClipState) (shown : Shown) : ClipState :=
  match shown.content with
  | .image _ _ rgba => ⟨shown.seq.or state.lastSeq, "", prims.sha256Hex rgba, ""⟩
  | .files paths _ => ⟨shown.seq.or state.lastSeq, "", "", joinFiles paths⟩
  | .text plain _ => { state with lastSeq := shown.seq.or state.lastSeq, lastText := plain }

/-- The watcher after it has read each content once. -/
def stateAfter (prims : Primitives) (shown : List Shown) : ClipState :=
  shown.foldl (fun state next => (pollOnce prims state next.reading).1) .new

/-- The last change counter that was read. -/
def lastCount (shown : List Shown) : Option Nat :=
  shown.foldl (fun last next => next.seq.or last) none

/-- The last image or file list. -/
def lastRich (shown : List Shown) : Option Content :=
  shown.foldl (fun last next => if next.content.isText then last else some next.content) none

/-- A content that differs from the one before it is sent. -/
def Sent (prims : Primitives) (before : List Shown) (next : Shown) : Prop :=
  ∀ previous, before.getLast? = some previous → next.content ≠ previous.content →
    (pollOnce prims (stateAfter prims before) next.reading).2 = some next.request

/-- A content that differs from the one before it comes with a change counter, if any, that is
not the last one read, and is no text only if it is fresh. -/
def Discernible (prims : Primitives) (before : List Shown) (next : Shown) : Prop :=
  ∀ previous, before.getLast? = some previous → next.content ≠ previous.content →
    (∀ seq, next.seq = some seq → lastCount before ≠ some seq) ∧
    next.content.Fresh prims (lastRich before)

/-- The watcher as the contents so far leave it. -/
def remembered (prims : Primitives) (shown : List Shown) : ClipState :=
  ⟨lastCount shown, (shown.getLast?.map (·.content.textPrint)).getD "",
    ((lastRich shown).map (Content.imagePrint prims)).getD "",
    ((lastRich shown).map Content.filesPrint).getD ""⟩

section Contents

variable {prims : Primitives} {before : List Shown} {next : Shown}

theorem stateAfter_concat :
    stateAfter prims (before ++ [next]) =
      (pollOnce prims (stateAfter prims before) next.reading).1 := by
  rw [stateAfter, List.foldl_append]
  rfl

theorem lastCount_concat : lastCount (before ++ [next]) = next.seq.or (lastCount before) := by
  rw [lastCount, List.foldl_append]
  rfl

theorem lastRich_concat :
    lastRich (before ++ [next]) =
      if next.content.isText then lastRich before else some next.content := by
  rw [lastRich, List.foldl_append]
  rfl

theorem Shown.reading_seq (shown : Shown) : shown.reading.seq = shown.seq := by
  obtain ⟨seq, html, content⟩ := shown
  cases content <;> rfl

theorem Shown.nextSeq_reading (shown : Shown) (last : Option Nat) :
    shown.reading.nextSeq last = shown.seq.or last := by
  obtain ⟨seq, html, content⟩ := shown
  cases content <;> rfl

/-- A content that stays changes nothing but the counter. -/
theorem remembered_same {previous : Shown} (last : before.getLast? = some previous)
    (same : next.content = previous.content) :
    remembered prims (before ++ [next]) =
      { remembered prims before with lastSeq := next.seq.or (lastCount before) } := by
  obtain ⟨former, rfl⟩ := List.getLast?_eq_some_iff.mp last
  have rich : lastRich (former ++ [previous] ++ [next]) = lastRich (former ++ [previous]) := by
    rw [lastRich_concat, lastRich_concat, same]
    split_ifs <;> rfl
  simp only [remembered, lastCount_concat, rich, List.getLast?_concat, Option.map_some, same]

theorem pollOnce_skipped {state : ClipState} {reading : Reading} {seq : Nat}
    (counted : reading.seq = some seq) (last : state.lastSeq = some seq) :
    pollOnce prims state reading = (state, none) := by
  rw [pollOnce, if_pos]
  rw [counted, Option.any_some, last]
  exact decide_eq_true rfl

/-- A content that is new for its format and comes with a new counter is sent. -/
theorem pollOnce_new {state : ClipState} (new : next.content.New prims state)
    (counted : ∀ seq, next.seq = some seq → state.lastSeq ≠ some seq) :
    pollOnce prims state next.reading = (next.after prims state, some next.request) := by
  generalize outcome : pollOnce prims state next.reading = result
  have read := polled prims state next.reading
  rw [outcome] at read
  obtain ⟨seq, html, content⟩ := next
  cases content with
  | image width height rgba =>
      cases read with
      | skipped same last => exact absurd last (counted _ same)
      | image present => cases present; rfl
      | files present => cases present
      | text present => cases present
      | quiet unchanged => exact absurd (unchanged.image rfl) new
  | files paths nonempty =>
      cases read with
      | skipped same last => exact absurd last (counted _ same)
      | image present => cases present
      | files present => cases present; rfl
      | text present => cases present
      | quiet unchanged => exact absurd (unchanged.files rfl) new
  | text plain nonempty =>
      cases read with
      | skipped same last => exact absurd last (counted _ same)
      | image present => cases present
      | files present => cases present
      | text present => cases present; rfl
      | quiet unchanged => exact absurd (unchanged.text rfl nonempty) new

theorem pollOnce_old {state : ClipState} (old : ¬next.content.New prims state) :
    pollOnce prims state next.reading =
      ({ state with lastSeq := next.seq.or state.lastSeq }, none) := by
  rw [← Shown.nextSeq_reading]
  apply Unchanged.pollOnce
  obtain ⟨seq, html, content⟩ := next
  cases content with
  | image width height rgba =>
      refine ⟨?_, fun absent => (by cases absent), fun absent => (by cases absent)⟩
      intro other present
      cases present
      exact not_not.mp old
  | files paths nonempty =>
      refine ⟨fun absent => (by cases absent), ?_, fun absent => (by cases absent)⟩
      intro other present
      cases present
      exact not_not.mp old
  | text plain nonempty =>
      refine ⟨fun absent => (by cases absent), fun absent => (by cases absent), ?_⟩
      intro other present _
      cases present
      exact not_not.mp old

/-- Once a content was sent it is remembered. -/
theorem after_remembered :
    next.after prims (remembered prims before) = remembered prims (before ++ [next]) := by
  obtain ⟨seq, html, content⟩ := next
  cases content <;>
    simp [Shown.after, remembered, lastCount_concat, lastRich_concat, Content.isText,
      Content.textPrint, Content.imagePrint, Content.filesPrint]

theorem new_remembered {previous : Shown} (last : before.getLast? = some previous)
    (other : next.content ≠ previous.content) :
    next.content.New prims (remembered prims before) ↔
      next.content.Fresh prims (lastRich before) := by
  obtain ⟨seq, html, content⟩ := next
  cases content with
  | image => exact Iff.rfl
  | files => exact Iff.rfl
  | text plain nonempty =>
      refine iff_of_true ?_ trivial
      intro same
      simp only [remembered, last, Option.map_some, Option.getD_some] at same
      obtain ⟨_, _, former⟩ := previous
      cases former with
      | text => 
          simp only [Content.textPrint] at same
          exact other (by simp [same])
      | _ => exact nonempty same

/-- As long as every change was sent and discernible the watcher remembers the last
contents. -/
theorem stateAfter_eq (sent : EachAfter (Sent prims) before)
    (discernible : EachAfter (Discernible prims) before) :
    stateAfter prims before = remembered prims before := by
  induction before using List.reverseRecOn with
  | nil => rfl
  | append_singleton before next ih =>
      obtain ⟨sent, nextSent⟩ := eachAfter_concat.mp sent
      obtain ⟨discernible, nextDiscernible⟩ := eachAfter_concat.mp discernible
      have state := ih sent discernible
      rw [Sent, state] at nextSent
      rw [stateAfter_concat, state]
      by_cases new : next.content.New prims (remembered prims before)
      · by_cases counted : ∀ seq, next.seq = some seq → lastCount before ≠ some seq
        · rw [pollOnce_new new counted, after_remembered]
        · push Not at counted
          obtain ⟨seq, same, repeated⟩ := counted
          rw [pollOnce_skipped ((Shown.reading_seq next).trans same) repeated]
          cases last : before.getLast? with
          | none =>
              rw [List.getLast?_eq_none_iff.mp last] at repeated
              cases repeated
          | some previous =>
              have kept : next.content = previous.content := by
                by_contra other
                exact (nextDiscernible previous last other).1 seq same repeated
              rw [remembered_same last kept, same, Option.some_or, ← repeated]
              rfl
      · rw [pollOnce_old new]
        rw [pollOnce_old new] at nextSent
        cases last : before.getLast? with
        | some previous =>
            refine (remembered_same last ?_).symm
            by_contra other
            cases nextSent previous last other
        | none =>
            rw [List.getLast?_eq_none_iff.mp last] at new ⊢
            rw [← after_remembered]
            obtain ⟨seq, html, content⟩ := next
            cases content with
            | image => simp [Shown.after, not_not.mp new, remembered, lastRich]
            | files => simp [Shown.after, not_not.mp new, remembered, lastRich]
            | text plain nonempty => exact absurd (not_not.mp new) nonempty

/-- Every change is sent exactly when every change is discernible. -/
theorem changes_sent_iff (prims : Primitives) (shown : List Shown) :
    EachAfter (Sent prims) shown ↔ EachAfter (Discernible prims) shown := by
  apply eachAfter_congr
  intro before next sent discernible
  have state := stateAfter_eq sent discernible
  constructor
  · intro nextSent previous last other
    have request := nextSent previous last other
    rw [state] at request
    refine ⟨?_, ?_⟩
    · intro seq same repeated
      rw [pollOnce_skipped ((Shown.reading_seq next).trans same) repeated] at request
      cases request
    · refine (new_remembered last other).mp ?_
      by_contra old
      rw [pollOnce_old old] at request
      cases request
  · intro nextDiscernible previous last other
    obtain ⟨counted, fresh⟩ := nextDiscernible previous last other
    rw [state, pollOnce_new ((new_remembered last other).mpr fresh) counted]

end Contents

/-- The same file list is copied again after a text. -/
def filesAgain : List Shown :=
  let files := Content.files ["C:\\a.txt"] (by decide)
  [⟨some 1, none, files⟩, ⟨some 2, none, .text "b" (by decide)⟩, ⟨some 3, none, files⟩]

/-- The second time the files are not sent. -/
theorem files_again_missed : ¬EachAfter (Sent Reference.prims) filesAgain := by
  intro sent
  have third := sent [⟨some 1, none, .files ["C:\\a.txt"] (by decide)⟩,
    ⟨some 2, none, .text "b" (by decide)⟩] ⟨some 3, none, .files ["C:\\a.txt"] (by decide)⟩
    List.prefix_rfl _ rfl (by simp)
  cases third

end CopySync.Desktop
