import CopySync.Desktop.Turn
import CopySync.Foundation.Custody

/-!
# Desktop client: received clips

A text clip is put on the clipboard when its frame is handled, a blob clip when the
result of its download is taken off the channel.  Nothing ties a download to the
place of its frame among the others, so a text may be applied while blobs received
before it are still on their way, and is overwritten when they arrive.

The inbox numbers clips in the order in which they are received and notes for each
one that is handled which clips received before it it has overtaken.
-/

namespace CopySync.Desktop

open Foundation Client

def Worker.download? : Worker → Option ClipEvent
  | .download event => some event
  | _ => none

def BlobResult.download? : BlobResult → Option ClipEvent
  | .download _ event => some event
  | _ => none

/-! ## What a turn means for received clips -/

/-- A text clip is applied, a blob clip is announced, its download at a position among
the running ones ends, or the result of a download is taken off the channel. -/
inductive Arrival where
  | none
  | applied (event : ClipEvent) (content : Option Clipboard)
  | announced (event : ClipEvent)
  | fetched (position : Nat)
  | settled (content : Option Clipboard)

namespace Engine

variable (env : Env) (engine : Engine)

/-- The running downloads. -/
def downloads : List ClipEvent := engine.workers.filterMap Worker.download?

/-- The results of downloads in the channel. -/
def fetched : List ClipEvent := engine.results.filterMap BlobResult.download?

/-- What was put on the clipboard, oldest first. -/
def writes : List Clipboard := engine.log.filterMap Output.clipboard?

def arrival : Action → Arrival
  | .frame (.clip event applying) =>
      if event.isBlob then .announced event
      else .applied event (engine.textContent env event applying)
  | .result _ applying =>
      match engine.results with
      | .download (.ok data) event :: _ => .settled (engine.blobContent env event data applying)
      | .download (.error _) _ :: _ => .settled Option.none
      | _ => .none
  | .finish index _ =>
      match engine.workers[index]? with
      | some (.download _) =>
          .fetched ((engine.workers.take index).filterMap Worker.download?).length
      | _ => .none
  | _ => .none

/-- How the engine has changed. -/
structure Took (next : Engine) (downloads fetched : List ClipEvent)
    (content : Option Clipboard) : Prop where
  downloads : next.downloads = downloads
  fetched : next.fetched = fetched
  writes : next.writes = engine.writes ++ content.toList

/-- What becomes of received clips in a turn. -/
def Takes (next : Engine) : Arrival → Prop
  | .none => engine.Took next engine.downloads engine.fetched Option.none
  | .applied _ content => engine.Took next engine.downloads engine.fetched content
  | .announced event =>
      engine.Took next (engine.downloads ++ [event]) engine.fetched Option.none
  | .fetched position =>
      ∃ event, engine.downloads[position]? = some event ∧
        engine.Took next (engine.downloads.eraseIdx position) (engine.fetched ++ [event])
          Option.none
  | .settled content =>
      ∃ event rest, engine.fetched = event :: rest ∧
        engine.Took next engine.downloads rest content

variable {env engine} {next : Engine} {content : Option Clipboard}

theorem Took.refl (engine : Engine) :
    engine.Took engine engine.downloads engine.fetched none :=
  ⟨rfl, rfl, by simp⟩

/-- Outputs that put nothing on the clipboard. -/
theorem Took.silent {downloads fetched : List ClipEvent} {later : Engine} {outputs : List Output}
    (took : engine.Took next downloads fetched content)
    (running : later.downloads = next.downloads) (waiting : later.fetched = next.fetched)
    (log : later.log = next.log ++ outputs) (quiet : outputs.filterMap Output.clipboard? = []) :
    engine.Took later downloads fetched content := by
  refine ⟨running.trans took.downloads, waiting.trans took.fetched, ?_⟩
  rw [Engine.writes, log, List.filterMap_append, quiet, List.append_nil]
  exact took.writes

theorem Receives.took (receives : engine.Receives content next) :
    engine.Took next engine.downloads engine.fetched content := by
  obtain ⟨recentText, recentImg, recentFiles, outputs, -, written, rfl⟩ := receives
  exact ⟨rfl, rfl, by simp [writes, written]⟩

theorem carryOut_took (numbered : Bool) {plan : Plan} (sending : Sending) (proper : plan.Proper)
    (took : engine.Took next engine.downloads engine.fetched none) :
    engine.Took ((next.number numbered).carryOut env plan sending).1 engine.downloads
      engine.fetched none := by
  obtain ⟨seq, counted⟩ := next.number_shape numbered
  rw [counted]
  cases plan with
  | refuse output =>
      refine took.silent rfl rfl rfl ?_
      cases output <;> first | rfl | cases proper
  | upload payload report =>
      refine took.silent ?_ rfl rfl rfl
      exact (List.filterMap_append ..).trans (List.append_nil _)
  | post event hold row notice sha =>
      obtain ⟨holds, held, carried⟩ :=
        Engine.carryOut_post { next with seq } env event hold row notice sha sending
      rw [carried]
      split_ifs
      · exact took.silent rfl rfl rfl rfl
      · exact took.silent rfl rfl rfl rfl

theorem command_took (session : Session) (cmd : Cmd) :
    engine.Took (engine.command env session cmd) engine.downloads engine.fetched none := by
  refine command_induction
    (motive := fun current => engine.Took current engine.downloads engine.fetched none) session cmd
    (.refl engine) ?_ ?_ ?_ ?_
  · intro current numbered plan sending proper took
    exact carryOut_took numbered sending proper took
  · intro current row text reason took _
    exact took.silent rfl rfl (List.append_assoc ..) rfl
  · intro current name delivered took
    exact took.silent rfl rfl rfl rfl
  · intro current why took
    exact took.silent rfl rfl rfl rfl

theorem readverts_silent (holds : Holds) (accepted : Nat) (stash : List Upload) :
    (readverts holds accepted stash).filterMap Output.clipboard? = [] := by
  induction stash generalizing accepted with
  | nil => cases accepted <;> rfl
  | cons report rest ih =>
      cases accepted with
      | zero => rfl
      | succ accepted =>
          rw [readverts, List.filterMap_append, ih]
          rfl

theorem connect_took (session : Session) (accepted now : Nat) :
    engine.Took (engine.connect session accepted now) engine.downloads engine.fetched none := by
  obtain ⟨recentImg, message, same⟩ := connect_shape engine session accepted now
  have quiet := readverts_silent engine.holds accepted engine.pendingUploads
  rw [same]
  split_ifs
  · exact (Took.refl engine).silent rfl rfl rfl quiet
  · refine (Took.refl engine).silent rfl rfl (List.append_assoc ..) ?_
    rw [List.filterMap_append, quiet]
    rfl

theorem handleFrame_takes (frame : Frame) :
    engine.Takes (engine.handleFrame env frame) (engine.arrival env (.frame frame)) := by
  have start := Took.refl engine
  cases frame with
  | keepalive | other => exact start
  | badClip error => exact start.silent rfl rfl rfl rfl
  | tokenRotate token =>
      simp only [handleFrame, arrival, Takes]
      split_ifs
      · exact start
      · exact start.silent rfl rfl (List.append_assoc ..) rfl
  | clip event applying =>
      simp only [handleFrame, arrival]
      by_cases blob : event.isBlob = true
      · rw [if_pos blob, if_pos blob]
        exact ⟨List.filterMap_append .., rfl, by simp [spawn, writes]⟩
      · rw [if_neg blob, if_neg blob]
        exact (handleIncomingText_receives event applying).took
  | blobRequest id reread =>
      have served : ∀ bytes, engine.Took (engine.spawn env (.serve id bytes)) engine.downloads
          engine.fetched none := fun bytes =>
        start.silent ((List.filterMap_append ..).trans (List.append_nil _)) rfl rfl rfl
      simp only [handleFrame, serve, arrival, Takes]
      repeat' split
      · exact start.silent rfl rfl rfl rfl
      · exact served _
      · exact served _
      · exact start.silent rfl rfl rfl rfl

/-- A result of another kind. -/
theorem Took.of_other {result : BlobResult} {rest : List BlobResult}
    (found : engine.results = result :: rest) (other : result.download? = none) :
    engine.Took { engine with results := rest } engine.downloads engine.fetched none := by
  have same : engine.fetched = rest.filterMap BlobResult.download? := by
    rw [Engine.fetched, found, List.filterMap_cons_none other]
  exact ⟨rfl, same.symm, by simp [Engine.writes]⟩

theorem result_takes {result : BlobResult} {rest : List BlobResult} {delivered : Bool}
    {applying : Applying} (found : engine.results = result :: rest) :
    engine.Takes ({ engine with results := rest }.handleResult env result delivered applying)
      (engine.arrival env (.result delivered applying)) := by
  match result with
  | .upload (.ok ()) report =>
      have start := Took.of_other found rfl
      simp only [arrival, found, handleResult, Takes]
      cases delivered with
      | true =>
          obtain ⟨recentImg, same⟩ :=
            posted_shape { engine with results := rest } report applying.now
          simp only [if_true, same]
          exact start.silent rfl rfl rfl rfl
      | false => exact start.silent rfl rfl (List.append_assoc ..) rfl
  | .upload (.error message) report =>
      have start := Took.of_other found rfl
      simp only [arrival, found, handleResult, Takes]
      refine start.silent rfl rfl rfl ?_
      cases report.errViaError <;> rfl
  | .serve id ok =>
      have start := Took.of_other found rfl
      simp only [arrival, found, handleResult, Takes]
      cases ok <;> exact start.silent rfl rfl (List.append_nil _).symm rfl
  | .download (.ok data) event =>
      simp only [arrival, found, handleResult, Takes]
      refine ⟨event, rest.filterMap BlobResult.download?, by rw [fetched, found]; rfl, ?_⟩
      obtain ⟨downloads, fetched, writes⟩ := (@applyBlob_receives env
        { engine with results := rest } event data applying).took
      exact ⟨downloads, fetched, writes⟩
  | .download (.error message) event =>
      simp only [arrival, found, handleResult, Takes]
      refine ⟨event, rest.filterMap BlobResult.download?, by rw [fetched, found]; rfl, rfl, rfl, ?_⟩
      simp [writes, emit, Output.clipboard?]

theorem finish_takes {index : Nat} {response : Except String Bytes} {worker : Worker}
    (found : engine.workers[index]? = some worker) :
    engine.Takes
      ({ engine with workers := engine.workers.eraseIdx index }.finishWorker env worker response)
      (engine.arrival env (.finish index response)) := by
  have start := Took.refl engine
  have same : ∀ result : BlobResult, result.download? = none →
      (engine.results ++ [result]).filterMap BlobResult.download? = engine.fetched := by
    intro result other
    rw [List.filterMap_append, List.filterMap_cons_none other, List.filterMap_nil, List.append_nil,
      fetched]
  cases worker with
  | upload payload report =>
      have erased : _ = engine.downloads := filterMap_finish_other found rfl
      simp only [arrival, found, Takes]
      cases response with
      | ok body => exact start.silent erased (same _ rfl) rfl rfl
      | error error => exact start.silent erased (same _ rfl) (List.append_nil _).symm rfl
  | serve id bytes =>
      have erased : _ = engine.downloads := filterMap_finish_other found rfl
      simp only [arrival, found, Takes]
      cases response with
      | ok body => exact start.silent erased (same _ rfl) rfl rfl
      | error error => exact start.silent erased (same _ rfl) (List.append_nil _).symm rfl
  | download event =>
      obtain ⟨placed, erased⟩ : engine.downloads[_]? = some event ∧ _ :=
        filterMap_finish found rfl
      simp only [arrival, found, Takes]
      exact ⟨event, placed, erased, List.filterMap_append .., by simp [writes, finishWorker]⟩

theorem takes_of_step {action : Action} (stepped : engine.step env action = some next) :
    engine.Takes next (engine.arrival env action) := by
  have start := Took.refl engine
  cases turn_of_step stepped with
  | connect session accepted now offline => exact connect_took session accepted now
  | connectFailed error offline => exact start.silent rfl rfl rfl rfl
  | lost why session connected => exact start.silent rfl rfl rfl rfl
  | command cmd session connected => exact command_took session cmd
  | frame frame session connected => exact handleFrame_takes frame
  | result delivered applying session result rest connected found => exact result_takes found
  | finish index response worker found => exact finish_takes found

end Engine

/-! ## The inbox -/

/-- Where a received clip is. -/
inductive Stage where
  | downloading
  | downloaded
  | handled
  deriving DecidableEq, Repr

/-- A clip that was handled, with what it put on the clipboard and the clips received
before it that were not. -/
structure Handling where
  tag : Nat
  content : Option Clipboard
  overtaken : List Nat
  deriving DecidableEq, Repr

structure Inbox where
  engine : Engine
  received : List ClipEvent
  custody : Custody Stage ClipEvent
  handlings : List Handling

namespace Inbox

def start (env : Env) (config : Config) : Inbox where
  engine := .start env config
  received := []
  custody _ := []
  handlings := []

/-- The clips on their way. -/
def outstanding (inbox : Inbox) : List Nat :=
  inbox.custody.tags .downloading ++ inbox.custody.tags .downloaded

def handling (inbox : Inbox) (content : Option Clipboard) (tag : Nat) : Handling :=
  ⟨tag, content, inbox.outstanding.filter (· < tag)⟩

/-- Book what a turn does. -/
def account (inbox : Inbox) : Arrival → Inbox
  | .none => inbox
  | .applied event content =>
      { inbox with
        received := inbox.received ++ [event]
        custody := inbox.custody.receive .handled inbox.received.length event
        handlings := inbox.handlings ++ [inbox.handling content inbox.received.length] }
  | .announced event =>
      { inbox with
        received := inbox.received ++ [event]
        custody := inbox.custody.receive .downloading inbox.received.length event }
  | .fetched position =>
      { inbox with
        custody := inbox.custody.move .downloading .downloaded
          ((inbox.custody .downloading).eraseIdx position)
          ((inbox.custody .downloading)[position]?.toList) }
  | .settled content =>
      { inbox with
        custody := inbox.custody.move .downloaded .handled
          ((inbox.custody .downloaded).drop 1) ((inbox.custody .downloaded).take 1)
        handlings := inbox.handlings ++
          ((inbox.custody.tags .downloaded).take 1).map (inbox.handling content) }

def step (env : Env) (inbox : Inbox) (action : Action) : Option Inbox :=
  (inbox.engine.step env action).map fun engine =>
    { inbox.account (inbox.engine.arrival env action) with engine }

/-- The inbox has the clips where the engine has them, and the clipboard was written
by the handled clips, in the order in which they were handled. -/
structure Faithful (inbox : Inbox) : Prop where
  downloading : inbox.custody.items .downloading = inbox.engine.downloads
  downloaded : inbox.custody.items .downloaded = inbox.engine.fetched
  handled : inbox.handlings.map (·.tag) = inbox.custody.tags .handled
  writes : inbox.handlings.filterMap (·.content) = inbox.engine.writes

/-- Every received clip is in one place, and listed there once. -/
structure Accurate (inbox : Inbox) : Prop where
  unique : ∀ tag event, inbox.received[tag]? = some event →
    ∃! stage, (tag, event) ∈ inbox.custody stage
  once : ∀ stage, (inbox.custody.tags stage).Nodup

/-- All downloads have finished and their results are handled. -/
def Settled (inbox : Inbox) : Prop :=
  inbox.engine.downloads = [] ∧ inbox.engine.fetched = []

/-- The last received clip that could be applied. -/
structure LastApplicable (inbox : Inbox) (last : Handling) : Prop where
  handled : last ∈ inbox.handlings
  applied : last.content.isSome = true
  last : ∀ other ∈ inbox.handlings, other.content.isSome = true → other.tag ≤ last.tag

/-- The last received clip that could be applied was the last one written. -/
def LastWins (inbox : Inbox) : Prop :=
  inbox.Settled → ∀ last, inbox.LastApplicable last →
    inbox.engine.writes.getLast? = last.content

/-- None of the clips it has overtaken could be applied. -/
def InTurn (inbox : Inbox) (last : Handling) : Prop :=
  ∀ other ∈ inbox.handlings, other.tag ∈ last.overtaken → other.content = none

/-- What is known about clips handled after a clip received later. -/
structure Sound (inbox : Inbox) : Prop where
  faithful : inbox.Faithful
  exact : inbox.custody.Exact inbox.received
  waiting : ∀ handling ∈ inbox.handlings, ∀ tag ∈ inbox.outstanding, tag < handling.tag →
    tag ∈ handling.overtaken
  order : inbox.handlings.Pairwise fun earlier later =>
    later.tag < earlier.tag → later.tag ∈ earlier.overtaken

theorem mem_outstanding {inbox : Inbox} {tag : Nat} :
    tag ∈ inbox.outstanding ↔
      ∃ stage, stage ≠ .handled ∧ tag ∈ inbox.custody.tags stage := by
  rw [outstanding, List.mem_append]
  constructor
  · rintro (running | waiting)
    · exact ⟨.downloading, by decide, running⟩
    · exact ⟨.downloaded, by decide, waiting⟩
  · rintro ⟨stage, open_, listed⟩
    cases stage with
    | downloading => exact .inl listed
    | downloaded => exact .inr listed
    | handled => exact absurd rfl open_

namespace Sound

variable {env : Env} {inbox : Inbox} {next : Engine}

/-- A new number is larger than that of any handled clip. -/
theorem handled_lt (sound : inbox.Sound) {handling : Handling}
    (listed : handling ∈ inbox.handlings) : handling.tag < inbox.received.length := by
  have numbered : handling.tag ∈ inbox.custody.tags .handled := by
    rw [← sound.faithful.handled]
    exact List.mem_map.mpr ⟨handling, listed, rfl⟩
  exact sound.exact.lt_length numbered

theorem same (sound : inbox.Sound)
    (took : inbox.engine.Took next inbox.engine.downloads inbox.engine.fetched none) :
    Sound { inbox with engine := next } := by
  obtain ⟨downloads, fetched, writes⟩ := took
  refine ⟨⟨?_, ?_, sound.faithful.handled, ?_⟩, sound.exact, sound.waiting, sound.order⟩
  · exact sound.faithful.downloading.trans downloads.symm
  · exact sound.faithful.downloaded.trans fetched.symm
  · simpa [writes] using sound.faithful.writes

theorem apply_text (sound : inbox.Sound) {event : ClipEvent} {content : Option Clipboard}
    (took : inbox.engine.Took next inbox.engine.downloads inbox.engine.fetched content) :
    Sound { inbox.account (.applied event content) with engine := next } := by
  obtain ⟨downloads, fetched, writes⟩ := took
  have running : Stage.downloading ≠ .handled := by decide
  have waiting : Stage.downloaded ≠ .handled := by decide
  constructor
  · refine ⟨?_, ?_, ?_, ?_⟩
    · simpa [account, downloads] using sound.faithful.downloading
    · simpa [account, fetched] using sound.faithful.downloaded
    · simp [account, handling, Custody.tags, sound.faithful.handled]
    · rw [writes, ← sound.faithful.writes]
      cases content <;> simp [account, handling]
  · exact sound.exact.receive .handled event
  · have same : (inbox.account (.applied event content)).outstanding = inbox.outstanding := by
      simp only [outstanding, account, Custody.tags, Custody.receive_of_ne running,
        Custody.receive_of_ne waiting]
    intro handling listed tag outstanding before
    have unhandled : tag ∈ inbox.outstanding := same ▸ outstanding
    rcases List.mem_append.mp listed with old | new
    · exact sound.waiting handling old tag unhandled before
    · cases List.mem_singleton.mp new
      exact List.mem_filter.mpr ⟨unhandled, decide_eq_true before⟩
  · refine List.pairwise_append.mpr ⟨sound.order, List.pairwise_singleton .., ?_⟩
    intro earlier listed later new before
    cases List.mem_singleton.mp new
    exact absurd (sound.handled_lt listed) (Nat.not_lt.mpr (Nat.le_of_lt before))

theorem announce (sound : inbox.Sound) {event : ClipEvent}
    (took : inbox.engine.Took next (inbox.engine.downloads ++ [event]) inbox.engine.fetched none) :
    Sound { inbox.account (.announced event) with engine := next } := by
  obtain ⟨downloads, fetched, writes⟩ := took
  have waiting : Stage.downloaded ≠ .downloading := by decide
  have handled : Stage.handled ≠ .downloading := by decide
  constructor
  · refine ⟨?_, ?_, ?_, ?_⟩
    · simp [account, downloads, sound.faithful.downloading]
    · simpa [account, fetched] using sound.faithful.downloaded
    · simpa [account, Custody.tags, Custody.receive_of_ne handled] using sound.faithful.handled
    · simpa [account, writes] using sound.faithful.writes
  · exact sound.exact.receive .downloading event
  · intro handling listed tag outstanding before
    have split : tag ∈ inbox.outstanding ∨ tag = inbox.received.length := by
      simp only [Inbox.outstanding, account, Custody.tags, Custody.receive_self,
        Custody.receive_of_ne waiting, List.map_append, List.mem_append] at outstanding ⊢
      rcases outstanding with (old | new) | other
      · exact .inl (.inl old)
      · exact .inr (by simpa using new)
      · exact .inl (.inr other)
    rcases split with old | rfl
    · exact sound.waiting handling listed tag old before
    · exact absurd (sound.handled_lt listed) (Nat.not_lt.mpr (Nat.le_of_lt before))
  · exact sound.order

theorem fetch (sound : inbox.Sound) {position : Nat} {event : ClipEvent}
    (found : inbox.engine.downloads[position]? = some event)
    (took : inbox.engine.Took next (inbox.engine.downloads.eraseIdx position)
      (inbox.engine.fetched ++ [event]) none) :
    Sound { inbox.account (.fetched position) with engine := next } := by
  obtain ⟨downloads, fetched, writes⟩ := took
  have apart : Stage.downloading ≠ .downloaded := by decide
  have notSource : Stage.handled ≠ .downloading := by decide
  have notTarget : Stage.handled ≠ .downloaded := by decide
  have items : (inbox.custody .downloading).map (·.2) = inbox.engine.downloads :=
    sound.faithful.downloading
  have split := Custody.perm_eraseIdx (inbox.custody .downloading) position
  constructor
  · refine ⟨?_, ?_, ?_, ?_⟩
    · simp only [account]
      rw [Custody.items_move_source apart, ← List.eraseIdx_map, items, downloads]
    · simp only [account, Custody.items_move_target, Custody.map_position items found, fetched,
        sound.faithful.downloaded]
    · simpa [account, Custody.tags, Custody.move_of_ne notSource notTarget] using
        sound.faithful.handled
    · simpa [account, writes] using sound.faithful.writes
  · exact sound.exact.move apart split
  · intro handling listed tag outstanding before
    obtain ⟨stage, open_, there⟩ := mem_outstanding.mp outstanding
    refine sound.waiting handling listed tag (mem_outstanding.mpr ?_) before
    rcases Custody.mem_tags_of_move apart split there with old | ⟨-, running⟩
    · exact ⟨stage, open_, old⟩
    · exact ⟨.downloading, by decide, running⟩
  · exact sound.order

theorem settle (sound : inbox.Sound) {event : ClipEvent} {rest : List ClipEvent}
    {content : Option Clipboard} (first : inbox.engine.fetched = event :: rest)
    (took : inbox.engine.Took next inbox.engine.downloads rest content) :
    Sound { inbox.account (.settled content) with engine := next } := by
  obtain ⟨downloads, fetched, writes⟩ := took
  have apart : Stage.downloaded ≠ .handled := by decide
  have notSource : Stage.downloading ≠ .downloaded := by decide
  have notTarget : Stage.downloading ≠ .handled := by decide
  obtain ⟨⟨tag, item⟩, others, waiting⟩ :
      ∃ head others, inbox.custody .downloaded = head :: others := by
    cases listed : inbox.custody .downloaded with
    | nil =>
        have empty := sound.faithful.downloaded
        rw [Custody.items, listed, first] at empty
        cases empty
    | cons head others => exact ⟨head, others, rfl⟩
  have items : item :: others.map (·.2) = event :: rest := by
    have same := sound.faithful.downloaded
    rwa [Custody.items, waiting, first] at same
  obtain ⟨-, left⟩ := List.cons.inj items
  have handled : (inbox.account (.settled content)).handlings =
      inbox.handlings ++ [inbox.handling content tag] := by
    simp [account, Custody.tags, waiting]
  have split := Custody.perm_drop_take (inbox.custody .downloaded) 1
  have outstanding_before : ∀ other ∈ (inbox.account (.settled content)).outstanding,
      other ∈ inbox.outstanding := by
    intro other listed
    obtain ⟨stage, open_, there⟩ := mem_outstanding.mp listed
    rcases Custody.mem_tags_of_move apart split there with old | ⟨rfl, -⟩
    · exact mem_outstanding.mpr ⟨stage, open_, old⟩
    · exact absurd rfl open_
  constructor
  · refine ⟨?_, ?_, ?_, ?_⟩
    · simpa [account, downloads] using sound.faithful.downloading
    · simp only [account]
      rw [Custody.items_move_source apart, waiting, fetched]
      exact left
    · rw [handled]
      simp [account, handling, Custody.tags, waiting, sound.faithful.handled]
    · rw [handled, writes, ← sound.faithful.writes]
      cases content <;> simp [handling]
  · exact sound.exact.move apart split
  · intro handling listed other outstanding before
    have unhandled := outstanding_before other outstanding
    rcases List.mem_append.mp (handled ▸ listed) with old | new
    · exact sound.waiting handling old other unhandled before
    · cases List.mem_singleton.mp new
      exact List.mem_filter.mpr ⟨unhandled, decide_eq_true before⟩
  · -- A clip that was on its way was overtaken by the later ones handled before it.
    have own : tag ∈ inbox.outstanding :=
      mem_outstanding.mpr ⟨.downloaded, by decide, by simp [Custody.tags, waiting]⟩
    simp only
    rw [handled]
    refine List.pairwise_append.mpr ⟨sound.order, List.pairwise_singleton .., ?_⟩
    intro earlier listed later new before
    cases List.mem_singleton.mp new
    exact sound.waiting earlier listed tag own before

theorem advance (sound : inbox.Sound) {arrival : Arrival}
    (takes : inbox.engine.Takes next arrival) :
    Sound { inbox.account arrival with engine := next } := by
  cases arrival with
  | none => exact sound.same takes
  | applied event content => exact sound.apply_text takes
  | announced event => exact sound.announce takes
  | fetched position =>
      obtain ⟨event, found, took⟩ := takes
      exact sound.fetch found took
  | settled content =>
      obtain ⟨event, rest, first, took⟩ := takes
      exact sound.settle first took

theorem start (env : Env) (config : Config) : (Inbox.start env config).Sound where
  faithful := ⟨rfl, rfl, rfl, rfl⟩
  exact := .empty
  waiting handling listed := by cases listed
  order := .nil

/-- The clip that was last written is the last applicable one, unless it has overtaken
an applicable one. -/
theorem last_written (sound : inbox.Sound) {last : Handling}
    (applicable : inbox.LastApplicable last) (inTurn : inbox.InTurn last) :
    inbox.engine.writes.getLast? = last.content := by
  obtain ⟨before, after, split⟩ := List.append_of_mem applicable.handled
  have order := sound.order
  rw [split] at order
  obtain ⟨-, tail, -⟩ := List.pairwise_append.mp order
  have later := (List.pairwise_cons.mp tail).1
  have numbers : (inbox.handlings.map (·.tag)).Nodup := by
    rw [sound.faithful.handled]
    exact sound.exact.once .handled
  have unapplied : after.filterMap (·.content) = [] := by
    refine List.filterMap_eq_nil_iff.mpr fun other listed => ?_
    have member : other ∈ inbox.handlings := by
      rw [split]
      exact List.mem_append_right _ (List.mem_cons_of_mem _ listed)
    by_contra applied
    have smaller : other.tag < last.tag := by
      refine Nat.lt_of_le_of_ne (applicable.last other member ?_) ?_
      · exact Option.isSome_iff_ne_none.mpr applied
      · intro same
        rw [split, List.map_append, List.map_cons] at numbers
        have distinct := (List.nodup_cons.mp (List.nodup_append.mp numbers).2.1).1
        exact distinct (same ▸ List.mem_map.mpr ⟨other, listed, rfl⟩)
    exact applied (inTurn other member (later other listed smaller))
  obtain ⟨content, applied⟩ := Option.isSome_iff_exists.mp applicable.applied
  rw [← sound.faithful.writes, split, List.filterMap_append, List.filterMap_cons_some applied,
    unapplied, applied]
  exact List.getLast?_concat

end Sound

/-- In every run, the clipboard was last written by the last received clip that could
be applied, if no applicable clip received before it was still on its way when it was
applied; and clips are applied at most once. -/
theorem last_received_wins {env : Env} {config : Config} {inbox : Inbox}
    (run : Reachable (Inbox.step env) (Inbox.start env config) inbox) :
    inbox.Faithful ∧ inbox.Accurate ∧
      (inbox.Settled → ∀ last, inbox.LastApplicable last → inbox.InTurn last →
        inbox.engine.writes.getLast? = last.content) := by
  have sound : inbox.Sound := by
    refine run.invariant (Sound.start env config) ?_
    intro before after action sound _ stepped
    obtain ⟨engine, moved, rfl⟩ := Option.map_eq_some_iff.mp stepped
    exact sound.advance (Engine.takes_of_step moved)
  refine ⟨sound.faithful, ⟨fun tag event known => sound.exact.unique known, sound.exact.once⟩, ?_⟩
  intro _ last applicable inTurn
  exact sound.last_written applicable inTurn

/-- A file and then a text are received; the text is applied, and the file overwrites it
when its download has finished. -/
theorem file_overwrites_later_text :
    ¬∀ (env : Env) (config : Config) (inbox : Inbox),
      Reachable (Inbox.step env) (Inbox.start env config) inbox → inbox.LastWins := by
  intro claim
  obtain ⟨inbox, reached, checked⟩ := Reachable.exists_of_exec (Inbox.step demoEnv)
    (Inbox.start demoEnv demoConfig)
    [.connect ⟨0, 0⟩ 0 0, .frame (.clip demoFile demoApplying),
      .frame (.clip demoText demoApplying), .finish 0 (.ok Reference.file.sealed),
      .result true demoApplying]
    (fun inbox => decide (inbox.engine.downloads = [] ∧ inbox.engine.fetched = [] ∧
      inbox.handlings = [⟨1, some (.text "hi"), [0]⟩,
        ⟨0, some (.files ["/home/u/Downloads/a.bin"]), []⟩] ∧
      inbox.engine.writes.getLast? = some (.files ["/home/u/Downloads/a.bin"])))
    (by decide +kernel)
  obtain ⟨downloads, fetched, handled, written⟩ := of_decide_eq_true checked
  have last : inbox.LastApplicable ⟨1, some (.text "hi"), [0]⟩ := by
    constructor <;> simp [handled]
  have wins := claim demoEnv demoConfig inbox reached ⟨downloads, fetched⟩ _ last
  rw [written] at wins
  cases wins

/-- A file and then a text are received; the download of the file fails after the text
was applied. -/
theorem text_after_failed_download :
    ∃ inbox, Reachable (Inbox.step demoEnv) (Inbox.start demoEnv demoConfig) inbox ∧
      inbox.Settled ∧ inbox.LastApplicable ⟨1, some (.text "hi"), [0]⟩ ∧
      inbox.engine.writes.getLast? = some (.text "hi") := by
  obtain ⟨inbox, reached, checked⟩ := Reachable.exists_of_exec (Inbox.step demoEnv)
    (Inbox.start demoEnv demoConfig)
    [.connect ⟨0, 0⟩ 0 0, .frame (.clip demoFile demoApplying),
      .frame (.clip demoText demoApplying), .finish 0 (.error "404 Not Found"),
      .result true demoApplying]
    (fun inbox => decide (inbox.engine.downloads = [] ∧ inbox.engine.fetched = [] ∧
      inbox.handlings = [⟨1, some (.text "hi"), [0]⟩, ⟨0, none, []⟩]))
    (by decide +kernel)
  obtain ⟨downloads, fetched, handled⟩ := of_decide_eq_true checked
  have last : inbox.LastApplicable ⟨1, some (.text "hi"), [0]⟩ := by
    constructor <;> simp [handled]
  have inTurn : inbox.InTurn ⟨1, some (.text "hi"), [0]⟩ := by
    simp [InTurn, handled]
  obtain ⟨-, -, wins⟩ := last_received_wins reached
  exact ⟨inbox, reached, ⟨downloads, fetched⟩, last, wins ⟨downloads, fetched⟩ _ last inTurn⟩

end Inbox

end CopySync.Desktop
