import CopySync.Android.SyncService
import CopySync.Foundation.Clock
import CopySync.Foundation.Expiry
import CopySync.Foundation.Latest

/-!
# Capturing the clipboard on Android

The capture engine of `ClipboardCaptureEngine.kt` and its guard against echoes.  Two watchers
trigger on threads of their own, one worker reads the clipboard, checks it and emits, and
other threads apply clips from the server and clear the clipboard; one step is what a thread
does between two accesses to shared state.  What a read of the clipboard gives is part of the
step.

The history is no part of the program.
-/

namespace CopySync.Android

open Foundation Client

/-! ## The guard -/

/-- Milliseconds since boot. -/
abbrev Millis := Int

def ttlMs : Millis := 4000

def debounceMs : Millis := 350

/-- A mark counts for four seconds. -/
def markLife : Lifetime Millis Millis where
  gone now marked := decide (marked < now - ttlMs)
  mono {_ _ _} later old := by
    simp only [decide_eq_true_eq] at old ⊢
    exact Int.lt_of_lt_of_le old (Int.sub_le_sub_right later ttlMs)

structure EchoGuard where
  seen : OrderedMap String Millis

namespace EchoGuard

def prune (guard : EchoGuard) (now : Millis) : EchoGuard := ⟨markLife.sweep guard.seen now⟩

def mark (guard : EchoGuard) (sha : String) (now : Millis) : EchoGuard :=
  ⟨(guard.prune now).seen.put sha now⟩

def seenRecently (guard : EchoGuard) (sha : String) (now : Millis) : EchoGuard × Bool :=
  let pruned := guard.prune now
  (pruned, (pruned.seen.get? sha).isSome)

end EchoGuard

/-- What tells captured items apart. -/
def Captured.dedupKey (prims : Primitives) : Captured → String
  | .text content _ => prims.sha256Hex (bytesOf content)
  | .binary _ _ _ _ sha => sha

/-! ## The engine -/

/-- What the worker has done for the item in hand: read it, found it new, marked it, or noted
it as the last activity. -/
inductive Work where
  | idle
  | read (captured : Captured)
  | fresh (captured : Captured)
  | marked (captured : Captured)
  | noted (captured : Captured)

/-- How far a clip of the server is on its way to the clipboard: marked, noted as the last
activity, or made into clip data. -/
inductive Applying where
  | marked
  | noted
  | made

/-- A call of `applyInbound`, or of `applyInboundFile`, whose clip data is a file and may fail
to be made. -/
structure Application where
  sha : String
  isFile : Bool
  stage : Applying

/-- `passed` and `suppressed` are the two answers of the guard to the worker, `noted` and
`forgotten` the writes of `lastActivitySha`, and `written` and `cleared` what reaches the
clipboard. -/
inductive CaptureEvent where
  | read (captured : Captured)
  | passed (captured : Captured) (now : Millis)
  | suppressed (captured : Captured) (now : Millis)
  | marked (sha : String) (now : Millis)
  | noted (sha : String)
  | emitted (captured : Captured)
  | written (sha : String)
  | clearing (sha : String)
  | cleared (sha : String)
  | forgotten

/-- `triggered` are watchers that passed the debounce and have yet to note it, `queued` the
tasks of the worker, `clearing` the calls of `clearIfStill` that passed their check, and
`forgetting` those behind their call of the clipboard. -/
structure CaptureEngine where
  guard : EchoGuard
  lastTriggerAt : Millis
  triggered : List Millis
  queued : Nat
  work : Work
  applying : List Application
  clearing : List String
  forgetting : Nat
  lastActivitySha : String
  history : List CaptureEvent

inductive CaptureAction where
  | trigger (now : Millis)
  | enqueue (index : Nat)
  | read (captured : Option Captured)
  | check (now : Millis)
  | mark (now : Millis)
  | note
  | emit
  | apply (sha : String) (isFile : Bool) (now : Millis)
  | advance (index : Nat) (succeeds : Bool)
  | clearIfStill (sha : String)
  | clear (index : Nat) (succeeds : Bool)
  | forget

namespace CaptureEngine

def start : CaptureEngine where
  guard := ⟨.empty⟩
  lastTriggerAt := 0
  triggered := []
  queued := 0
  work := .idle
  applying := []
  clearing := []
  forgetting := 0
  lastActivitySha := ""
  history := []

variable (prims : Primitives) (engine : CaptureEngine)

def record (event : CaptureEvent) : CaptureEngine :=
  { engine with history := engine.history ++ [event] }

/-- A watcher collapses a burst of changes. -/
def trigger (now : Millis) : CaptureEngine :=
  if now - engine.lastTriggerAt < debounceMs then engine
  else { engine with triggered := engine.triggered ++ [now] }

def enqueue (index : Nat) : Option CaptureEngine :=
  engine.triggered[index]?.map fun now =>
    { engine with
      lastTriggerAt := now
      triggered := engine.triggered.eraseIdx index
      queued := engine.queued + 1 }

/-- The worker takes a task; a read that is blocked or empty ends it. -/
def read (captured : Option Captured) : Option CaptureEngine :=
  match engine.work, engine.queued with
  | .idle, queued + 1 =>
      match captured with
      | some captured =>
          some ({ engine with queued, work := .read captured }.record (.read captured))
      | none => some { engine with queued }
  | _, _ => none

def check (now : Millis) : Option CaptureEngine :=
  match engine.work with
  | .read captured =>
      match engine.guard.seenRecently (captured.dedupKey prims) now with
      | (guard, true) =>
          some ({ engine with guard, work := .idle }.record (.suppressed captured now))
      | (guard, false) =>
          some ({ engine with guard, work := .fresh captured }.record (.passed captured now))
  | _ => none

def mark (now : Millis) : Option CaptureEngine :=
  match engine.work with
  | .fresh captured =>
      let sha := captured.dedupKey prims
      some ({ engine with
        guard := engine.guard.mark sha now
        work := .marked captured }.record (.marked sha now))
  | _ => none

def note : Option CaptureEngine :=
  match engine.work with
  | .marked captured =>
      let sha := captured.dedupKey prims
      some ({ engine with
        lastActivitySha := sha
        work := .noted captured }.record (.noted sha))
  | _ => none

/-- The item goes to `onCaptured`. -/
def emit : Option CaptureEngine :=
  match engine.work with
  | .noted captured => some ({ engine with work := .idle }.record (.emitted captured))
  | _ => none

/-- `applyInbound` and `applyInboundFile`, up to the mark. -/
def apply (sha : String) (isFile : Bool) (now : Millis) : CaptureEngine :=
  { engine with
    guard := engine.guard.mark sha now
    applying := engine.applying ++ [Application.mk sha isFile .marked] }.record (.marked sha now)

/-- The next step of a clip of the server.  Its content is noted as the last activity first;
then the file may not come about, and neither the overlay nor the clipboard may take it. -/
def advance (index : Nat) (succeeds : Bool) : Option CaptureEngine :=
  engine.applying[index]?.map fun application =>
    let gone := { engine with applying := engine.applying.eraseIdx index }
    let staged (stage : Applying) : CaptureEngine :=
      { engine with applying := engine.applying.set index { application with stage } }
    match application.stage with
    | .marked =>
        { staged .noted with lastActivitySha := application.sha }.record (.noted application.sha)
    | .noted => if application.isFile && !succeeds then gone else staged .made
    | .made => if succeeds then gone.record (.written application.sha) else gone

def clearIfStill (sha : String) : CaptureEngine :=
  if engine.lastActivitySha ≠ sha then engine
  else { engine with clearing := engine.clearing ++ [sha] }.record (.clearing sha)

/-- `clearPrimaryClip` under `runCatching`. -/
def clear (index : Nat) (succeeds : Bool) : Option CaptureEngine :=
  engine.clearing[index]?.map fun sha =>
    let after := { engine with
      clearing := engine.clearing.eraseIdx index
      forgetting := engine.forgetting + 1 }
    if succeeds then after.record (.cleared sha) else after

def forget : Option CaptureEngine :=
  match engine.forgetting with
  | 0 => none
  | forgetting + 1 =>
      some ({ engine with forgetting, lastActivitySha := "" }.record .forgotten)

def step : CaptureAction → Option CaptureEngine
  | .trigger now => some (engine.trigger now)
  | .enqueue index => engine.enqueue index
  | .read captured => engine.read captured
  | .check now => engine.check prims now
  | .mark now => engine.mark prims now
  | .note => engine.note prims
  | .emit => engine.emit
  | .apply sha isFile now => some (engine.apply sha isFile now)
  | .advance index succeeds => engine.advance index succeeds
  | .clearIfStill sha => some (engine.clearIfStill sha)
  | .clear index succeeds => engine.clear index succeeds
  | .forget => engine.forget

end CaptureEngine

/-- The time a step reads. -/
def CaptureAction.now? : CaptureAction → Option Millis
  | .trigger now | .check now | .mark now | .apply _ _ now => some now
  | _ => none

/-! ## What the guard knows -/

namespace CaptureEvent

def read? : CaptureEvent → Option Captured
  | .read captured => some captured
  | _ => none

def answered? : CaptureEvent → Option Captured
  | .passed captured _ | .suppressed captured _ => some captured
  | _ => none

def passed? : CaptureEvent → Option Captured
  | .passed captured _ => some captured
  | _ => none

def emitted? : CaptureEvent → Option Captured
  | .emitted captured => some captured
  | _ => none

end CaptureEvent

/-- The item in hand that the guard has yet to answer. -/
def Work.unanswered : Work → List Captured
  | .read captured => [captured]
  | _ => []

/-- The item in hand that passed and has yet to be emitted. -/
def Work.unemitted : Work → List Captured
  | .fresh captured | .marked captured | .noted captured => [captured]
  | _ => []

/-- The mark an event leaves on a key. -/
def CaptureEvent.marks (key : String) : CaptureEvent → Option (Option Millis)
  | .marked sha now => if sha = key then some (some now) else none
  | _ => none

/-- The content that was last captured or received, until it is forgotten. -/
def CaptureEvent.notes : CaptureEvent → Option (Option String)
  | .noted sha => some (some sha)
  | .forgotten => some none
  | _ => none

/-- Why an event is right: the guard passes an item that was not marked within the last four
seconds, and no other; what is emitted has passed and is marked since; what is noted is
marked, and what is written to the clipboard is noted; and the clipboard is cleared after a
check that found the content to be the one noted last. -/
inductive Justified (prims : Primitives) (before : List CaptureEvent) : CaptureEvent → Prop where
  | read (captured : Captured) : Justified prims before (.read captured)
  | passed (captured : Captured) (now : Millis)
      (new : ∀ marked, .marked (captured.dedupKey prims) marked ∈ before → marked + ttlMs < now) :
      Justified prims before (.passed captured now)
  | suppressed (captured : Captured) (now marked : Millis)
      (echo : .marked (captured.dedupKey prims) marked ∈ before) (recent : now ≤ marked + ttlMs) :
      Justified prims before (.suppressed captured now)
  | marked (sha : String) (now : Millis) : Justified prims before (.marked sha now)
  | noted (sha : String) (now : Millis) (marked : .marked sha now ∈ before) :
      Justified prims before (.noted sha)
  | emitted (captured : Captured) (first between later : List CaptureEvent) (passed marked : Millis)
      (order : before = first ++ [.passed captured passed] ++ between ++
        [.marked (captured.dedupKey prims) marked] ++ later)
      (once : ∀ other now, .passed other now ∉ between ++ later) :
      Justified prims before (.emitted captured)
  | written (sha : String) (noted : .noted sha ∈ before) : Justified prims before (.written sha)
  | clearing (sha : String) (last : (lastWritten CaptureEvent.notes before).getD "" = sha) :
      Justified prims before (.clearing sha)
  | cleared (sha : String) (checked : .clearing sha ∈ before) :
      Justified prims before (.cleared sha)
  | forgotten (sha : String) (checked : .clearing sha ∈ before) : Justified prims before .forgotten

theorem marks_eq_some {key : String} {event : CaptureEvent} {marked : Millis}
    (left : event.marks key = some (some marked)) : event = .marked key marked := by
  cases event with
  | marked sha now =>
      simp only [CaptureEvent.marks] at left
      split_ifs at left with same
      cases left
      rw [same]
  | _ => cases left

/-- The guard holds the latest mark of every key that is not too old, and nothing else that
counts. -/
structure EchoTracked (now : Millis) (guard : EchoGuard) (history : List CaptureEvent) : Prop where
  seen : ∀ key, markLife.look guard.seen key now =
    (lastWritten (CaptureEvent.marks key) history).filter fun marked => !markLife.gone now marked
  latest : ∀ key marked, .marked key marked ∈ history →
    ∃ last, lastWritten (CaptureEvent.marks key) history = some last ∧ marked ≤ last
  past : ∀ key marked, .marked key marked ∈ history → marked ≤ now

namespace EchoTracked

variable {now : Millis} {guard : EchoGuard} {history : List CaptureEvent}

theorem mono {later : Millis} (guarded : EchoTracked now guard history) (passed : now ≤ later) :
    EchoTracked later guard history where
  seen key := by
    rw [Lifetime.look_later _ _ passed, guarded.seen key, Option.filter_filter]
    congr 1
    funext marked
    cases old : markLife.gone now marked with
    | true => simp [markLife.mono passed old]
    | false => simp
  latest := guarded.latest
  past key marked among := (guarded.past key marked among).trans passed

theorem prune (guarded : EchoTracked now guard history) :
    EchoTracked now (guard.prune now) history :=
  { guarded with
    seen := fun key => (Lifetime.sweep_agree guard.seen now key).trans (guarded.seen key) }

/-- An event that is no mark. -/
theorem silent (guarded : EchoTracked now guard history) {event : CaptureEvent}
    (silent : ∀ key, event.marks key = none) : EchoTracked now guard (history ++ [event]) := by
  have among {key : String} {marked : Millis}
      (listed : .marked key marked ∈ history ++ [event]) : .marked key marked ∈ history := by
    rcases List.mem_append.mp listed with old | new
    · exact old
    · have written := silent key
      rw [← List.mem_singleton.mp new, CaptureEvent.marks, if_pos rfl] at written
      cases written
  refine ⟨fun key => ?_, fun key marked listed => ?_, fun key marked listed => ?_⟩
  · rw [lastWritten_concat_of_none (silent key)]
    exact guarded.seen key
  · rw [lastWritten_concat_of_none (silent key)]
    exact guarded.latest key marked (among listed)
  · exact guarded.past key marked (among listed)

theorem mark (guarded : EchoTracked now guard history) (sha : String) :
    EchoTracked now (guard.mark sha now) (history ++ [.marked sha now]) := by
  have written (key : String) :
      lastWritten (CaptureEvent.marks key) (history ++ [.marked sha now]) =
        if sha = key then some now else lastWritten (CaptureEvent.marks key) history := by
    rw [lastWritten_concat, CaptureEvent.marks]
    split_ifs <;> rfl
  refine ⟨fun key => ?_, fun key marked listed => ?_, fun key marked listed => ?_⟩
  · rw [written, EchoGuard.mark, Lifetime.look, OrderedMap.get?_put]
    split_ifs with same other
    · rfl
    · exact absurd same.symm other
    · exact absurd (Eq.symm ‹_›) same
    · exact guarded.prune.seen key
  · rw [written]
    split_ifs with same
    · refine ⟨now, rfl, ?_⟩
      rcases List.mem_append.mp listed with old | new
      · exact guarded.past key marked old
      · cases List.mem_singleton.mp new
        exact le_rfl
    · rcases List.mem_append.mp listed with old | new
      · exact guarded.latest key marked old
      · cases List.mem_singleton.mp new
        exact absurd rfl same
  · rcases List.mem_append.mp listed with old | new
    · exact guarded.past key marked old
    · cases List.mem_singleton.mp new
      exact le_rfl

/-- The guard knows a key exactly when it was marked within the last four seconds. -/
theorem seenRecently_iff (guarded : EchoTracked now guard history) (key : String) :
    (guard.seenRecently key now).2 = true ↔
      ∃ marked, .marked key marked ∈ history ∧ now ≤ marked + ttlMs := by
  have look : (guard.seenRecently key now).2 = (markLife.look guard.seen key now).isSome := by
    rw [EchoGuard.seenRecently, EchoGuard.prune, Lifetime.sweep, OrderedMap.get?_filter]
    rfl
  have alive (marked : Millis) : markLife.gone now marked = false ↔ now ≤ marked + ttlMs := by
    rw [markLife, decide_eq_false_iff_not, Int.not_lt]
    exact ⟨Int.le_add_of_sub_right_le, Int.sub_right_le_of_le_add⟩
  rw [look, guarded.seen key, Option.isSome_filter]
  constructor
  · intro known
    obtain ⟨last, found, counts⟩ := (Option.any_eq_true _ _).mp known
    obtain ⟨event, among, written⟩ := exists_of_lastWritten found
    rw [Bool.not_eq_true', alive] at counts
    exact ⟨last, marks_eq_some written ▸ among, counts⟩
  · rintro ⟨marked, among, recent⟩
    obtain ⟨last, found, later⟩ := guarded.latest key marked among
    refine (Option.any_eq_true _ _).mpr ⟨last, found, ?_⟩
    rw [Bool.not_eq_true', alive]
    exact recent.trans (Int.add_le_add_right later ttlMs)

end EchoTracked

/-! ## Runs -/

/-- Where the item of the worker stands in the history. -/
def Worked (prims : Primitives) (history : List CaptureEvent) : Work → Prop
  | .idle | .read _ => True
  | .fresh captured => ∃ first passed later, history = first ++ [.passed captured passed] ++ later ∧
      ∀ other now, .passed other now ∉ later
  | .marked captured | .noted captured => ∃ first passed between marked later,
      history = first ++ [.passed captured passed] ++ between ++
        [.marked (captured.dedupKey prims) marked] ++ later ∧
      ∀ other now, .passed other now ∉ between ++ later

theorem Worked.concat {prims : Primitives} {history : List CaptureEvent} {work : Work}
    (worked : Worked prims history work) {event : CaptureEvent}
    (quiet : ∀ other now, event ≠ .passed other now) :
    Worked prims (history ++ [event]) work := by
  have kept {later : List CaptureEvent} (none : ∀ other now, .passed other now ∉ later)
      (other : Captured) (now : Millis) : .passed other now ∉ later ++ [event] := by
    intro among
    rcases List.mem_append.mp among with old | new
    · exact none other now old
    · exact quiet other now (List.mem_singleton.mp new).symm
  cases work with
  | idle | read => trivial
  | fresh captured =>
      obtain ⟨first, passed, later, rfl, none⟩ := worked
      exact ⟨first, passed, later ++ [event], by simp, kept none⟩
  | marked captured | noted captured =>
      obtain ⟨first, passed, between, marked, later, rfl, none⟩ := worked
      refine ⟨first, passed, between, marked, later ++ [event], by simp, ?_⟩
      rw [← List.append_assoc]
      exact kept none

/-- A clip on its way to the clipboard is marked, and noted behind the first step. -/
def Application.Backed (history : List CaptureEvent) (application : Application) : Prop :=
  match application.stage with
  | .marked => ∃ now, .marked application.sha now ∈ history
  | .noted | .made => .noted application.sha ∈ history

theorem Application.Backed.append {history : List CaptureEvent} {application : Application}
    (backed : application.Backed history) (later : List CaptureEvent) :
    application.Backed (history ++ later) := by
  obtain ⟨sha, isFile, stage⟩ := application
  cases stage with
  | marked =>
      obtain ⟨now, among⟩ := backed
      exact ⟨now, List.mem_append_left _ among⟩
  | noted | made => exact List.mem_append_left _ backed

/-- What holds of the engine at a time of a run. -/
structure CaptureEngine.Sound (prims : Primitives) (now : Millis) (engine : CaptureEngine) :
    Prop where
  guarded : EchoTracked now engine.guard engine.history
  events : EachAfter (Justified prims) engine.history
  worked : Worked prims engine.history engine.work
  applying : ∀ application ∈ engine.applying, application.Backed engine.history
  activity : engine.lastActivitySha = (lastWritten CaptureEvent.notes engine.history).getD ""
  clearing : ∀ sha ∈ engine.clearing, .clearing sha ∈ engine.history
  forgetting : 0 < engine.forgetting → ∃ sha, .clearing sha ∈ engine.history

namespace CaptureEngine

variable {prims : Primitives} {engine after : CaptureEngine} {now : Millis}

namespace Sound

theorem start (prims : Primitives) (now : Millis) : CaptureEngine.start.Sound prims now where
  guarded := ⟨fun _ => rfl, fun _ _ among => (by cases among), fun _ _ among => (by cases among)⟩
  events := .nil
  worked := trivial
  applying _ among := by cases among
  activity := rfl
  clearing _ among := by cases among
  forgetting waiting := by cases waiting

theorem mono {later : Millis} (sound : engine.Sound prims now) (passed : now ≤ later) :
    engine.Sound prims later :=
  { sound with guarded := sound.guarded.mono passed }

/-- A step that adds an event. -/
theorem record (sound : engine.Sound prims now) {event : CaptureEvent} (changed : CaptureEngine)
    (history : changed.history = engine.history) (justified : Justified prims engine.history event)
    (guarded : EchoTracked now changed.guard (engine.history ++ [event]))
    (worked : Worked prims (engine.history ++ [event]) changed.work)
    (applying : ∀ application ∈ changed.applying,
      application ∈ engine.applying ∨ application.Backed (engine.history ++ [event]))
    (activity : changed.lastActivitySha =
      (event.notes.getD (lastWritten CaptureEvent.notes engine.history)).getD "")
    (clearing : ∀ sha ∈ changed.clearing, sha ∈ engine.clearing ∨ event = .clearing sha)
    (forgetting : 0 < changed.forgetting → 0 < engine.forgetting ∨
      ∃ sha, .clearing sha ∈ engine.history) :
    (changed.record event).Sound prims now := by
  rw [CaptureEngine.record, history]
  refine ⟨guarded, eachAfter_concat.mpr ⟨sound.events, justified⟩, worked,
    fun application among => ?_, ?_, fun sha among => ?_, fun waiting => ?_⟩
  · rcases applying application among with old | new
    · exact (sound.applying application old).append _
    · exact new
  · rw [lastWritten_concat]
    exact activity
  · rcases clearing sha among with old | rfl
    · exact List.mem_append_left _ (sound.clearing sha old)
    · exact List.mem_append_right _ List.mem_cons_self
  · have checked := (forgetting waiting).elim sound.forgetting id
    exact checked.imp fun _ => List.mem_append_left _

theorem read (sound : engine.Sound prims now) {captured : Option Captured}
    (stepped : engine.read captured = some after) : after.Sound prims now := by
  rw [CaptureEngine.read] at stepped
  split at stepped
  next queued _ _ =>
    cases captured with
    | none =>
        cases stepped
        exact { sound with }
    | some captured =>
        cases stepped
        exact sound.record _ rfl (.read captured) (sound.guarded.silent fun _ => rfl) trivial
          (fun _ among => .inl among) sound.activity (fun _ among => .inl among) .inl
  next => cases stepped

theorem check (sound : engine.Sound prims now) (stepped : engine.check prims now = some after) :
    after.Sound prims now := by
  rw [CaptureEngine.check] at stepped
  split at stepped
  next captured current =>
    have known := sound.guarded.seenRecently_iff (captured.dedupKey prims)
    have pruned : EchoTracked now (engine.guard.seenRecently (captured.dedupKey prims) now).1
        engine.history := sound.guarded.prune
    generalize engine.guard.seenRecently (captured.dedupKey prims) now = answer at *
    obtain ⟨guard, seen⟩ := answer
    have quiet (key : String) (seen : Bool) : CaptureEvent.marks key
        (if seen then .suppressed captured now else .passed captured now) = none := by
      cases seen <;> rfl
    cases seen with
    | true =>
        cases stepped
        obtain ⟨marked, echo, recent⟩ := known.mp rfl
        exact sound.record _ rfl (.suppressed captured now marked echo recent)
          (pruned.silent fun key => quiet key true) trivial (fun _ among => .inl among)
          sound.activity (fun _ among => .inl among) .inl
    | false =>
        cases stepped
        have new (marked : Millis)
            (among : .marked (captured.dedupKey prims) marked ∈ engine.history) :
            marked + ttlMs < now :=
          Int.not_le.mp fun recent => Bool.false_ne_true (known.mpr ⟨marked, among, recent⟩)
        exact sound.record _ rfl (.passed captured now new)
          (pruned.silent fun key => quiet key false) ⟨engine.history, now, [], by simp, by simp⟩
          (fun _ among => .inl among) sound.activity (fun _ among => .inl among) .inl
  next => cases stepped

theorem mark (sound : engine.Sound prims now) (stepped : engine.mark prims now = some after) :
    after.Sound prims now := by
  rw [CaptureEngine.mark] at stepped
  split at stepped
  next captured current =>
    cases stepped
    have worked := sound.worked
    rw [current] at worked
    obtain ⟨first, passed, later, order, none⟩ := worked
    exact sound.record _ rfl (.marked _ now) (sound.guarded.mark _)
      ⟨first, passed, later, now, [], by simp [order], by simpa using none⟩
      (fun _ among => .inl among) sound.activity (fun _ among => .inl among) .inl
  next => cases stepped

theorem note (sound : engine.Sound prims now) (stepped : engine.note prims = some after) :
    after.Sound prims now := by
  rw [CaptureEngine.note] at stepped
  split at stepped
  next captured current =>
    cases stepped
    have worked : Worked prims engine.history (.noted captured) := by
      have marked := sound.worked
      rw [current] at marked
      exact marked
    have marked : ∃ time, .marked (captured.dedupKey prims) time ∈ engine.history := by
      obtain ⟨first, passed, between, time, later, order, none⟩ := worked
      exact ⟨time, by simp [order]⟩
    obtain ⟨time, among⟩ := marked
    exact sound.record _ rfl (.noted _ time among) (sound.guarded.silent fun _ => rfl)
      (worked.concat fun _ _ same => by cases same) (fun _ among => .inl among) rfl
      (fun _ among => .inl among) .inl
  next => cases stepped

theorem emit (sound : engine.Sound prims now) (stepped : engine.emit = some after) :
    after.Sound prims now := by
  rw [CaptureEngine.emit] at stepped
  split at stepped
  next captured current =>
    cases stepped
    have worked := sound.worked
    rw [current] at worked
    obtain ⟨first, passed, between, marked, later, order, none⟩ := worked
    exact sound.record _ rfl (.emitted captured first between later passed marked order none)
      (sound.guarded.silent fun _ => rfl) trivial (fun _ among => .inl among) sound.activity
      (fun _ among => .inl among) .inl
  next => cases stepped

theorem apply (sound : engine.Sound prims now) (sha : String) (isFile : Bool) :
    (engine.apply sha isFile now).Sound prims now := by
  refine sound.record _ rfl (.marked sha now) (sound.guarded.mark sha)
    (sound.worked.concat fun _ _ same => by cases same) (fun other among => ?_) sound.activity
    (fun _ among => .inl among) .inl
  rcases List.mem_append.mp among with old | new
  · exact .inl old
  · cases List.mem_singleton.mp new
    exact .inr ⟨now, List.mem_append_right _ List.mem_cons_self⟩

theorem advance (sound : engine.Sound prims now) {index : Nat} {succeeds : Bool}
    (stepped : engine.advance index succeeds = some after) : after.Sound prims now := by
  obtain ⟨application, found, rfl⟩ := Option.map_eq_some_iff.mp stepped
  have backed := sound.applying application (List.mem_of_getElem? found)
  have gone : Sound prims now { engine with applying := engine.applying.eraseIdx index } :=
    { sound with
      applying := fun other among => sound.applying other (List.mem_of_mem_eraseIdx among) }
  obtain ⟨sha, isFile, stage⟩ := application
  cases stage with
  | marked =>
      obtain ⟨marked, among⟩ := backed
      refine sound.record _ rfl (.noted sha marked among) (sound.guarded.silent fun _ => rfl)
        (sound.worked.concat fun _ _ same => by cases same) (fun other among => ?_) rfl
        (fun _ among => .inl among) .inl
      rcases List.mem_or_eq_of_mem_set among with old | rfl
      · exact .inl old
      · exact .inr (List.mem_append_right _ List.mem_cons_self)
  | noted =>
      dsimp only
      split
      · exact gone
      · refine { sound with applying := fun other among => ?_ }
        rcases List.mem_or_eq_of_mem_set among with old | rfl
        · exact sound.applying other old
        · exact backed
  | made =>
      dsimp only
      split
      · exact gone.record _ rfl (.written sha backed) (sound.guarded.silent fun _ => rfl)
          (sound.worked.concat fun _ _ same => by cases same) (fun _ among => .inl among)
          sound.activity (fun _ among => .inl among) .inl
      · exact gone

theorem clearIfStill (sound : engine.Sound prims now) (sha : String) :
    (engine.clearIfStill sha).Sound prims now := by
  rw [CaptureEngine.clearIfStill]
  split_ifs with last
  · exact sound
  · rw [not_not] at last
    refine sound.record _ rfl (.clearing sha (sound.activity.symm.trans last))
      (sound.guarded.silent fun _ => rfl) (sound.worked.concat fun _ _ same => by cases same)
      (fun _ among => .inl among) sound.activity (fun other among => ?_) .inl
    rcases List.mem_append.mp among with old | new
    · exact .inl old
    · exact .inr (congrArg CaptureEvent.clearing (List.mem_singleton.mp new).symm)

theorem clear (sound : engine.Sound prims now) {index : Nat} {succeeds : Bool}
    (stepped : engine.clear index succeeds = some after) : after.Sound prims now := by
  obtain ⟨sha, found, rfl⟩ := Option.map_eq_some_iff.mp stepped
  have checked := sound.clearing sha (List.mem_of_getElem? found)
  have called : Sound prims now { engine with
      clearing := engine.clearing.eraseIdx index
      forgetting := engine.forgetting + 1 } :=
    { sound with
      clearing := fun other among => sound.clearing other (List.mem_of_mem_eraseIdx among)
      forgetting := fun _ => ⟨sha, checked⟩ }
  dsimp only
  split
  · exact called.record _ rfl (.cleared sha checked) (sound.guarded.silent fun _ => rfl)
      (sound.worked.concat fun _ _ same => by cases same) (fun _ among => .inl among)
      sound.activity (fun _ among => .inl among) .inl
  · exact called

theorem forget (sound : engine.Sound prims now) (stepped : engine.forget = some after) :
    after.Sound prims now := by
  rw [CaptureEngine.forget] at stepped
  split at stepped
  next => cases stepped
  next forgetting waiting =>
    cases stepped
    have called : 0 < engine.forgetting := by
      rw [waiting]
      exact Nat.succ_pos forgetting
    obtain ⟨sha, checked⟩ := sound.forgetting called
    exact sound.record _ rfl (.forgotten sha checked) (sound.guarded.silent fun _ => rfl)
      (sound.worked.concat fun _ _ same => by cases same) (fun _ among => .inl among) rfl
      (fun _ among => .inl among) fun _ => .inl called

theorem step (sound : engine.Sound prims now) {action : CaptureAction}
    (timed : ∀ time ∈ action.now?, time = now)
    (stepped : engine.step prims action = some after) : after.Sound prims now := by
  cases action with
  | trigger time =>
      cases stepped
      rw [trigger]
      split_ifs
      · exact sound
      · exact { sound with }
  | enqueue index =>
      obtain ⟨time, -, rfl⟩ := Option.map_eq_some_iff.mp stepped
      exact { sound with }
  | read captured => exact sound.read stepped
  | check time =>
      cases timed time rfl
      exact sound.check stepped
  | mark time =>
      cases timed time rfl
      exact sound.mark stepped
  | note => exact sound.note stepped
  | emit => exact sound.emit stepped
  | apply sha isFile time =>
      cases timed time rfl
      cases stepped
      exact sound.apply sha isFile
  | advance index succeeds => exact sound.advance stepped
  | clearIfStill sha =>
      cases stepped
      exact sound.clearIfStill sha
  | clear index succeeds => exact sound.clear stepped
  | forget => exact sound.forget stepped

end Sound

/-! ### Nothing is left out -/

/-- What the worker read is answered by the guard in order, and what passed is emitted in
order, but for the item in hand. -/
structure Complete (engine : CaptureEngine) : Prop where
  answered : engine.history.filterMap CaptureEvent.read? =
    engine.history.filterMap CaptureEvent.answered? ++ engine.work.unanswered
  emitted : engine.history.filterMap CaptureEvent.passed? =
    engine.history.filterMap CaptureEvent.emitted? ++ engine.work.unemitted

namespace Complete

theorem start : CaptureEngine.start.Complete := ⟨rfl, rfl⟩

/-- A step of the worker: its event and the item in hand change together. -/
theorem record (complete : engine.Complete) {event : CaptureEvent} (changed : CaptureEngine)
    (history : changed.history = engine.history) {work : Work} (current : engine.work = work)
    (answered : work.unanswered ++ event.read?.toList =
      event.answered?.toList ++ changed.work.unanswered)
    (emitted : work.unemitted ++ event.passed?.toList =
      event.emitted?.toList ++ changed.work.unemitted) : (changed.record event).Complete := by
  subst current
  have extend {pick : CaptureEvent → Option Captured} :
      (engine.history ++ [event]).filterMap pick =
        engine.history.filterMap pick ++ (pick event).toList := by
    rw [List.filterMap_append]
    cases picked : pick event <;> simp [picked]
  constructor
  · simp only [CaptureEngine.record, history, extend, complete.answered, List.append_assoc,
      answered]
  · simp only [CaptureEngine.record, history, extend, complete.emitted, List.append_assoc, emitted]

/-- Nobody but the worker touches its item. -/
theorem other (complete : engine.Complete) {event : CaptureEvent} (changed : CaptureEngine)
    (history : changed.history = engine.history) (work : changed.work = engine.work)
    (silent : event.read? = none ∧ event.answered? = none ∧ event.passed? = none ∧
      event.emitted? = none) : (changed.record event).Complete := by
  obtain ⟨read, answered, passed, emitted⟩ := silent
  apply complete.record changed history rfl
  · simp [work, read, answered]
  · simp [work, passed, emitted]

theorem step (complete : engine.Complete) {action : CaptureAction}
    (stepped : engine.step prims action = some after) : after.Complete := by
  have quiet {changed : CaptureEngine} (history : changed.history = engine.history)
      (work : changed.work = engine.work) : changed.Complete := by
    constructor
    · rw [history, work, complete.answered]
    · rw [history, work, complete.emitted]
  cases action with
  | trigger time =>
      cases stepped
      rw [trigger]
      split_ifs
      · exact complete
      · exact quiet rfl rfl
  | enqueue index =>
      obtain ⟨time, -, rfl⟩ := Option.map_eq_some_iff.mp stepped
      exact quiet rfl rfl
  | read captured =>
      rw [CaptureEngine.step, CaptureEngine.read] at stepped
      split at stepped
      next queued idle _ =>
        cases captured with
        | none =>
            cases stepped
            exact quiet rfl rfl
        | some captured =>
            cases stepped
            exact complete.record _ rfl idle rfl rfl
      next => cases stepped
  | check time =>
      rw [CaptureEngine.step, CaptureEngine.check] at stepped
      split at stepped
      next captured current =>
        split at stepped <;> cases stepped
        · exact complete.record _ rfl current rfl rfl
        · exact complete.record _ rfl current rfl rfl
      next => cases stepped
  | mark time =>
      rw [CaptureEngine.step, CaptureEngine.mark] at stepped
      split at stepped <;> cases stepped
      next captured current =>
        exact complete.record _ rfl current rfl rfl
  | note =>
      rw [CaptureEngine.step, CaptureEngine.note] at stepped
      split at stepped <;> cases stepped
      next captured current =>
        exact complete.record _ rfl current rfl rfl
  | emit =>
      rw [CaptureEngine.step, CaptureEngine.emit] at stepped
      split at stepped <;> cases stepped
      next captured current =>
        exact complete.record _ rfl current rfl rfl
  | apply sha isFile time =>
      cases stepped
      exact complete.other _ rfl rfl ⟨rfl, rfl, rfl, rfl⟩
  | advance index succeeds =>
      obtain ⟨⟨sha, isFile, stage⟩, -, rfl⟩ := Option.map_eq_some_iff.mp stepped
      cases stage with
      | marked => exact complete.other _ rfl rfl ⟨rfl, rfl, rfl, rfl⟩
      | noted =>
          dsimp only
          split
          · exact quiet rfl rfl
          · exact quiet rfl rfl
      | made =>
          dsimp only
          split
          · exact complete.other _ rfl rfl ⟨rfl, rfl, rfl, rfl⟩
          · exact quiet rfl rfl
  | clearIfStill sha =>
      cases stepped
      rw [CaptureEngine.clearIfStill]
      split_ifs
      · exact complete
      · exact complete.other _ rfl rfl ⟨rfl, rfl, rfl, rfl⟩
  | clear index succeeds =>
      obtain ⟨sha, -, rfl⟩ := Option.map_eq_some_iff.mp stepped
      dsimp only
      split
      · exact complete.other _ rfl rfl ⟨rfl, rfl, rfl, rfl⟩
      · exact quiet rfl rfl
  | forget =>
      rw [CaptureEngine.step, CaptureEngine.forget] at stepped
      split at stepped <;> cases stepped
      exact complete.other _ rfl rfl ⟨rfl, rfl, rfl, rfl⟩

end Complete

/-- In every run in which the clock does not go back, the worker suppresses what was marked
within four seconds and nothing else, emits what it found new and all of it, in order, and a
clear is for the content that was noted last when it was checked. -/
theorem each_justified {clock : Millis} {first : Millis}
    (reached : Reachable (Clocked.step CaptureAction.now? (CaptureEngine.step prims))
      (CaptureEngine.start, first) (engine, clock)) :
    EachAfter (Justified prims) engine.history ∧ engine.Complete := by
  have sound : engine.Sound prims clock :=
    Clocked.invariant reached (.start prims first) (fun passed sound => sound.mono passed)
      fun sound timed stepped => sound.step timed stepped
  have complete : engine.Complete :=
    (Clocked.reachable reached).invariant .start fun complete _ stepped => complete.step stepped
  exact ⟨sound.events, complete⟩

/-- A copy is captured, triggers again and is suppressed; a received file is noted and does
not come about; and the copy is captured once more later. -/
def demoCaptures : List CaptureAction :=
  let copy := some (Captured.text "hi" none)
  [.trigger 1000, .enqueue 0, .read copy, .check 1010, .mark 1010, .note, .emit,
   .trigger 2000, .enqueue 0, .read copy, .check 2010,
   .apply "sha" true 3000, .advance 0 true, .advance 0 false,
   .trigger 9000, .enqueue 0, .read copy, .check 9010, .mark 9010, .note, .emit]

theorem demoCaptures_justified :
    ∃ engine clock, Reachable (Clocked.step CaptureAction.now? (CaptureEngine.step Reference.prims))
        (CaptureEngine.start, 0) (engine, clock) ∧
      engine.history.filterMap CaptureEvent.emitted? = [.text "hi" none, .text "hi" none] ∧
      engine.applying.length = 0 ∧
      EachAfter (Justified Reference.prims) engine.history ∧ engine.Complete := by
  obtain ⟨⟨engine, clock⟩, reached, holds⟩ := Reachable.exists_of_exec
    (Clocked.step CaptureAction.now? (CaptureEngine.step Reference.prims)) (CaptureEngine.start, 0)
    demoCaptures
    (fun state => decide (state.1.history.filterMap CaptureEvent.emitted? =
      [.text "hi" none, .text "hi" none] ∧ state.1.applying.length = 0))
    (by decide +kernel)
  obtain ⟨emitted, applied⟩ := of_decide_eq_true holds
  exact ⟨engine, clock, reached, emitted, applied, each_justified reached⟩

end CaptureEngine

end CopySync.Android
