import CopySync.Desktop.Plan

/-!
# Desktop client: what a turn can do

The handlers of the engine in the form in which invariants use them: which fields
they touch, and what they append to the log.
-/

namespace CopySync.Desktop

open Foundation Client

/-- The history row of an uploaded clip. -/
def Upload.row (report : Upload) : HistoryRow :=
  ⟨report.event.ts, report.histKind, "me", "out", report.histPreview, report.histMime,
    report.histSize, report.event.blobId, report.histName⟩

/-- What sending the frame of an uploaded clip appends to the log. -/
def Upload.posted (report : Upload) (holds : Holds) : List Output :=
  [.clip report.event (holds.get? report.event.blobId) true, .history report.row,
    .notice report.notice]

/-- What re-advertising appends, up to the first send that fails. -/
def readverts (holds : Holds) : Nat → List Upload → List Output
  | _, [] => []
  | 0, report :: _ => [.clip report.event (holds.get? report.event.blobId) false]
  | accepted + 1, report :: rest => report.posted holds ++ readverts holds accepted rest

/-- Outputs of applying a received clip. -/
def Output.inbound : Output → Bool
  | .history row => row.direction == "in"
  | .notice (.inText ..) | .notice (.inBlob ..) => true
  | .error _ | .notify _ | .clipboard _ | .file .. => true
  | _ => false

/-- What an output puts on the clipboard. -/
def Output.clipboard? : Output → Option Clipboard
  | .clipboard content => some content
  | _ => none

namespace Engine

variable {env : Env} (engine : Engine)

theorem record_shape (report : Upload) (now : Nat) :
    ∃ recentImg, engine.record report now =
      { engine with
        recentImg
        log := engine.log ++ [.history report.row, .notice report.notice] } := by
  cases sha : report.echoImgSha with
  | none => exact ⟨engine.recentImg, by simp [record, sha, emit, Upload.row]⟩
  | some digest =>
      exact ⟨engine.recentImg.remember digest now, by simp [record, sha, emit, Upload.row]⟩

/-- Posting a frame: a text is remembered when its frame went out. -/
theorem carryOut_post (env : Env) (event : ClipEvent) (hold : Option Hold) (row : HistoryRow)
    (notice : Notice) (sha : Option String) (sending : Sending) :
    ∃ holds held,
      engine.carryOut env (.post event hold row notice sha) sending =
        if sending.delivered then
          ({ engine with
            holds
            recentText := sha.elim engine.recentText (engine.recentText.remember · sending.sentAt)
            log := engine.log ++ [.clip event held true, .history row, .notice notice] }, true)
        else ({ engine with holds, log := engine.log ++ [.clip event held false] }, false) := by
  refine ⟨hold.elim engine.holds (engine.holds.insert event.blobId ·),
    (hold.elim engine.holds (engine.holds.insert event.blobId ·)).get? event.blobId, ?_⟩
  cases hold <;> cases sha <;> cases delivered : sending.delivered <;>
    simp [carryOut, delivered, sendClip, emit]

/-- The frame of an uploaded clip that went out, with its bookkeeping. -/
theorem posted_shape (report : Upload) (now : Nat) :
    ∃ recentImg, (engine.sendClip report.event true).record report now =
      { engine with recentImg, log := engine.log ++ report.posted engine.holds } := by
  obtain ⟨recentImg, same⟩ := record_shape (engine.sendClip report.event true) report now
  refine ⟨recentImg, ?_⟩
  rw [same]
  simp [sendClip, emit, Upload.posted]

theorem readvertise_shape (now accepted : Nat) (stash : List Upload) :
    ∃ recentImg, readvertise now accepted engine stash =
      ({ engine with recentImg, log := engine.log ++ readverts engine.holds accepted stash },
        stash.drop accepted) := by
  induction stash generalizing engine accepted with
  | nil => exact ⟨engine.recentImg, by cases accepted <;> simp [readvertise, readverts]⟩
  | cons report rest ih =>
      cases accepted with
      | zero => exact ⟨engine.recentImg, by simp [readvertise, readverts, sendClip, emit]⟩
      | succ accepted =>
          obtain ⟨first, posted⟩ := posted_shape engine report now
          obtain ⟨recentImg, later⟩ := ih
            { engine with recentImg := first, log := engine.log ++ report.posted engine.holds }
            accepted
          exact ⟨recentImg, by simp [readvertise, posted, later, readverts]⟩

/-- A handshake re-advertises the stash; it keeps the connection when all of it went
out. -/
theorem connect_shape (session : Session) (accepted now : Nat) :
    ∃ recentImg message, engine.connect session accepted now =
      if engine.pendingUploads.drop accepted = [] then
        { engine with
          recentImg
          session := some session
          pendingUploads := []
          log := engine.log ++ readverts engine.holds accepted engine.pendingUploads }
      else
        { engine with
          recentImg
          session := none
          pendingUploads := engine.pendingUploads.drop accepted
          log := engine.log ++ readverts engine.holds accepted engine.pendingUploads ++
            [.error message] } := by
  obtain ⟨recentImg, same⟩ := readvertise_shape
    { engine with session := some session, pendingUploads := [] } now accepted
    engine.pendingUploads
  cases kept : engine.pendingUploads.drop accepted with
  | nil => exact ⟨recentImg, "", by rw [connect, same, kept]; rfl⟩
  | cons report rest => exact ⟨recentImg, _, by rw [connect, same, kept]; rfl⟩

/-- What a text clip puts on the clipboard. -/
def textContent (env : Env) (event : ClipEvent) (applying : Applying) : Option Clipboard :=
  match engine.incomingText env event, applying.outcome with
  | .ok text, .ok () =>
      some (match engine.incomingHtml env event with
        | some html => Clipboard.html html text
        | none => if applying.mark then .sensitive text else .text text)
  | _, _ => none

/-- What a downloaded blob puts on the clipboard. -/
def blobContent (env : Env) (event : ClipEvent) (data : Bytes) (applying : Applying) :
    Option Clipboard :=
  match engine.incomingBlob env event data, applying.outcome with
  | .ok plain, .ok () =>
      if event.isImage then
        match env.decodeImage plain with
        | .ok rgba => some (.image rgba)
        | .error _ => none
      else some (.files [env.downloads ++ "/" ++ downloadName event])
  | _, _ => none

theorem incomingText_error {event : ClipEvent} {output : Output}
    (refused : engine.incomingText env event = .error output) :
    output.inbound = true ∧ output.clipboard? = none := by
  rw [incomingText] at refused
  repeat' split at refused
  all_goals cases refused <;> exact ⟨rfl, rfl⟩

theorem incomingBlob_error {event : ClipEvent} {data : Bytes} {output : Output}
    (refused : engine.incomingBlob env event data = .error output) :
    output.inbound = true ∧ output.clipboard? = none := by
  rw [incomingBlob] at refused
  repeat' split at refused
  all_goals cases refused <;> exact ⟨rfl, rfl⟩

/-- Handling received content: rings and the log change, by inbound outputs that put
the given content, if any, on the clipboard. -/
def Receives (content : Option Clipboard) (next : Engine) : Prop :=
  ∃ recentText recentImg recentFiles outputs, (∀ output ∈ outputs, output.inbound = true) ∧
    outputs.filterMap Output.clipboard? = content.toList ∧
    next = { engine with recentText, recentImg, recentFiles, log := engine.log ++ outputs }

theorem Receives.refl : engine.Receives none engine :=
  ⟨engine.recentText, engine.recentImg, engine.recentFiles, [], by simp, rfl, by simp⟩

variable {engine} {content : Option Clipboard} {next : Engine}

/-- Outputs that write nothing. -/
theorem Receives.emit {output : Output} (receives : engine.Receives content next)
    (inbound : output.inbound = true) (quiet : output.clipboard? = none) :
    engine.Receives content (next.emit output) := by
  obtain ⟨recentText, recentImg, recentFiles, outputs, all, written, rfl⟩ := receives
  refine ⟨recentText, recentImg, recentFiles, outputs ++ [output], ?_, ?_, by simp [Engine.emit]⟩
  · intro other listed
    rcases List.mem_append.mp listed with old | new
    · exact all other old
    · exact List.mem_singleton.mp new ▸ inbound
  · simp [written, quiet]

theorem Receives.write (receives : engine.Receives none next) (content : Clipboard) :
    engine.Receives (some content) (next.emit (.clipboard content)) := by
  obtain ⟨recentText, recentImg, recentFiles, outputs, all, written, rfl⟩ := receives
  refine ⟨recentText, recentImg, recentFiles, outputs ++ [.clipboard content], ?_, ?_,
    by simp [Engine.emit]⟩
  · intro other listed
    rcases List.mem_append.mp listed with old | new
    · exact all other old
    · exact List.mem_singleton.mp new ▸ rfl
  · simp [written, Output.clipboard?]

theorem Receives.rings (receives : engine.Receives content next)
    (recentText recentImg recentFiles : Dedup) :
    engine.Receives content { next with recentText, recentImg, recentFiles } := by
  obtain ⟨_, _, _, outputs, all, written, rfl⟩ := receives
  exact ⟨recentText, recentImg, recentFiles, outputs, all, written, rfl⟩

theorem handleIncomingText_receives (event : ClipEvent) (applying : Applying) :
    engine.Receives (engine.textContent env event applying)
      (engine.handleIncomingText env event applying) := by
  cases content : engine.incomingText env event with
  | error output =>
      obtain ⟨inbound, quiet⟩ := engine.incomingText_error content
      simp only [handleIncomingText, textContent, content]
      exact (Receives.refl engine).emit inbound quiet
  | ok text =>
      have remembered := (Receives.refl engine).rings
        (engine.recentText.remember (env.prims.sha256Hex (bytesOf text)) applying.now)
        engine.recentImg engine.recentFiles
      cases outcome : applying.outcome with
      | ok done =>
          simp only [handleIncomingText, textContent, content, outcome]
          exact ((remembered.write _).emit rfl rfl).emit rfl rfl
      | error error =>
          simp only [handleIncomingText, textContent, content, outcome]
          exact ((remembered.emit rfl rfl).emit rfl rfl).emit rfl rfl

theorem applyBlob_receives (event : ClipEvent) (data : Bytes) (applying : Applying) :
    engine.Receives (engine.blobContent env event data applying)
      (engine.applyBlob env event data applying) := by
  cases content : engine.incomingBlob env event data with
  | error output =>
      obtain ⟨inbound, quiet⟩ := engine.incomingBlob_error content
      simp only [applyBlob, blobContent, content]
      exact (Receives.refl engine).emit inbound quiet
  | ok plain =>
      have stored : engine.Receives none (engine.emit (.file (downloadName event) plain)) :=
        (Receives.refl engine).emit rfl rfl
      by_cases image : event.isImage = true
      · cases decoded : env.decodeImage plain with
        | error error =>
            have unwritten : engine.blobContent env event data applying = none := by
              cases outcome : applying.outcome <;>
                simp [blobContent, content, image, decoded, outcome]
            simp only [applyBlob, unwritten, content, image, decoded, if_true]
            exact ((stored.emit rfl rfl).emit rfl rfl).emit rfl rfl
        | ok rgba =>
            have remembered := stored.rings engine.recentText
              (engine.recentImg.remember (env.prims.sha256Hex rgba) applying.now)
              engine.recentFiles
            cases outcome : applying.outcome with
            | ok done =>
                simp only [applyBlob, blobContent, content, image, decoded, outcome, if_true]
                exact ((remembered.write _).emit rfl rfl).emit rfl rfl
            | error error =>
                simp only [applyBlob, blobContent, content, image, decoded, outcome, if_true]
                exact ((remembered.emit rfl rfl).emit rfl rfl).emit rfl rfl
      · have remembered := stored.rings engine.recentText engine.recentImg
          (engine.recentFiles.remember (env.downloads ++ "/" ++ downloadName event) applying.now)
        cases outcome : applying.outcome with
        | ok done =>
            simp only [applyBlob, blobContent, content, image, outcome]
            exact ((remembered.write _).emit rfl rfl).emit rfl rfl
        | error error =>
            simp only [applyBlob, blobContent, content, image, outcome]
            exact ((remembered.emit rfl rfl).emit rfl rfl).emit rfl rfl

/-- A result is a blob to apply, or changes no more than the ring of images, the connection,
the stash, the holds and the log. -/
theorem handleResult_cases (env : Env) (result : BlobResult) (delivered : Bool)
    (applying : Applying) :
    (∃ data event, engine.handleResult env result delivered applying =
      engine.applyBlob env event data applying) ∨
    ∃ recentImg session pendingUploads holds log,
      engine.handleResult env result delivered applying =
        { engine with recentImg, session, pendingUploads, holds, log } := by
  match result with
  | .upload (.ok ()) report =>
      cases delivered with
      | true =>
          obtain ⟨recentImg, same⟩ := posted_shape engine report applying.now
          exact .inr ⟨recentImg, _, _, _, _, same⟩
      | false => exact .inr ⟨_, _, _, _, _, rfl⟩
  | .upload (.error message) report => exact .inr ⟨_, _, _, _, _, rfl⟩
  | .serve id ok => cases ok <;> exact .inr ⟨_, _, _, _, _, rfl⟩
  | .download (.ok data) event => exact .inl ⟨data, event, rfl⟩
  | .download (.error message) event => exact .inr ⟨_, _, _, _, _, rfl⟩

end Engine

/-! ## Progress of outbound content -/

/-- Outputs about content of this device. -/
def Output.outgoing : Output → Bool
  | .clip .. => true
  | .history row => row.direction != "in"
  | .notice (.inText ..) | .notice (.inBlob ..) => false
  | .notice _ => true
  | _ => false

theorem Output.not_outgoing {output : Output} (inbound : output.inbound = true) :
    output.outgoing = false := by
  cases output with
  | history row =>
      have received : row.direction = "in" := by simpa [Output.inbound] using inbound
      simp [outgoing, received]
  | notice notice => cases notice <;> first | rfl | cases inbound
  | error | notify | clipboard | file => rfl
  | _ => cases inbound

def Worker.upload? : Worker → Option Upload
  | .upload _ report => some report
  | _ => none

def BlobResult.upload? : BlobResult → Option (Except String Unit × Upload)
  | .upload outcome report => some (outcome, report)
  | _ => none

/-- What a turn means for outbound content: a worker has finished the upload at a
position among the running ones, a result of an upload is taken off the channel, the
stash is re-advertised, or a command is handled. -/
inductive Progress where
  | none
  | command (session : Session) (cmd : Cmd)
  | finish (position : Nat) (report : Upload) (outcome : Except String Unit)
  | settle (report : Upload) (outcome : Except String Unit) (delivered : Bool)
  | readvertise (accepted : Nat)

namespace Engine

variable (engine : Engine)

/-- The running uploads. -/
def uploads : List Upload := engine.workers.filterMap Worker.upload?

/-- The results of uploads in the channel. -/
def outcomes : List (Except String Unit × Upload) := engine.results.filterMap BlobResult.upload?

def progress : Action → Progress
  | .connect _ accepted _ => .readvertise accepted
  | .command cmd => engine.session.elim .none fun session => .command session cmd
  | .result delivered _ =>
      match engine.results with
      | .upload outcome report :: _ => .settle report outcome delivered
      | _ => .none
  | .finish index response =>
      match engine.workers[index]? with
      | some (.upload _ report) =>
          .finish ((engine.workers.take index).filterMap Worker.upload?).length report
            (match response with
            | .ok _ => .ok ()
            | .error error => .error (report.failure error))
      | _ => .none
  | _ => .none

/-- The log grew by these outputs and others that are not about outbound content. -/
def Logs (next : Engine) (outputs : List Output) : Prop :=
  ∃ rest, (∀ output ∈ rest, output.outgoing = false) ∧ next.log = engine.log ++ outputs ++ rest

/-- How the engine has changed. -/
structure Progressed (next : Engine) (uploads : List Upload)
    (outcomes : List (Except String Unit × Upload)) (pending : List Upload)
    (outputs : List Output) : Prop where
  uploads : next.uploads = uploads
  outcomes : next.outcomes = outcomes
  pending : next.pendingUploads = pending
  log : engine.Logs next outputs

/-- What becomes of outbound content in a turn. -/
def Advances (env : Env) (next : Engine) : Progress → Prop
  | .none => engine.Progressed next engine.uploads engine.outcomes engine.pendingUploads []
  | .command session cmd => next = engine.command env session cmd
  | .finish position report outcome =>
      engine.uploads[position]? = some report ∧
        engine.Progressed next (engine.uploads.eraseIdx position)
          (engine.outcomes ++ [(outcome, report)]) engine.pendingUploads []
  | .settle report outcome delivered =>
      ∃ rest, engine.outcomes = (outcome, report) :: rest ∧
        match outcome, delivered with
        | .ok (), true =>
            engine.Progressed next engine.uploads rest engine.pendingUploads
              (report.posted engine.holds)
        | .ok (), false =>
            engine.Progressed next engine.uploads rest (engine.pendingUploads ++ [report])
              [.clip report.event (engine.holds.get? report.event.blobId) false]
        | .error message, _ =>
            engine.Progressed next engine.uploads rest engine.pendingUploads
              [if report.errViaError then .error message else .notify message]
  | .readvertise accepted =>
      engine.Progressed next engine.uploads engine.outcomes (engine.pendingUploads.drop accepted)
        (readverts engine.holds accepted engine.pendingUploads)

variable {engine} {next : Engine} {content : Option Clipboard}

theorem Logs.of_eq {outputs : List Output} (same : next.log = engine.log ++ outputs) :
    engine.Logs next outputs :=
  ⟨[], by simp, by simp [same]⟩

/-- Outputs that are not about outbound content may follow. -/
theorem Logs.of_append {outputs : List Output} (output : Output) (quiet : output.outgoing = false)
    (same : next.log = engine.log ++ outputs ++ [output]) : engine.Logs next outputs :=
  ⟨[output], fun _ listed => List.mem_singleton.mp listed ▸ quiet, same⟩

theorem Receives.progressed (receives : engine.Receives content next) :
    engine.Progressed next engine.uploads engine.outcomes engine.pendingUploads [] := by
  obtain ⟨recentText, recentImg, recentFiles, outputs, inbound, -, rfl⟩ := receives
  exact ⟨rfl, rfl, rfl, outputs, fun output listed => Output.not_outgoing (inbound output listed),
    by simp⟩

/-- An output that is not about outbound content. -/
theorem progressed_emit {output : Output} (quiet : output.outgoing = false) :
    engine.Progressed (engine.emit output) engine.uploads engine.outcomes
      engine.pendingUploads [] :=
  ⟨rfl, rfl, rfl, .of_append output quiet (by simp [emit])⟩

theorem progressed_serve (id : String) (bytes : Bytes) :
    engine.Progressed (engine.spawn env (.serve id bytes)) engine.uploads engine.outcomes
      engine.pendingUploads [] :=
  ⟨by simp [uploads, spawn, emit, Worker.upload?], rfl, rfl,
    .of_append (.put (blobId env.prims bytes) bytes) rfl (by simp [spawn, emit])⟩

theorem handleFrame_progressed (frame : Frame) :
    engine.Progressed (engine.handleFrame env frame) engine.uploads engine.outcomes
      engine.pendingUploads [] := by
  have unchanged : engine.Progressed engine engine.uploads engine.outcomes
      engine.pendingUploads [] := ⟨rfl, rfl, rfl, .of_eq (by simp)⟩
  cases frame with
  | keepalive | other => exact unchanged
  | badClip error => exact progressed_emit rfl
  | tokenRotate token =>
      simp only [handleFrame]
      split_ifs
      · exact unchanged
      · exact ⟨rfl, rfl, rfl, [.saveToken token, .error _], by simp [Output.outgoing],
          by simp only [emit, List.append_assoc, List.append_nil]; rfl⟩
  | clip event applying =>
      simp only [handleFrame]
      split_ifs
      · exact ⟨by simp [uploads, spawn, Worker.upload?], rfl, rfl, .of_eq (by simp [spawn])⟩
      · exact (handleIncomingText_receives event applying).progressed
  | blobRequest id reread =>
      simp only [handleFrame, serve]
      repeat' split
      · exact progressed_emit rfl
      · exact progressed_serve id _
      · exact progressed_serve id _
      · exact progressed_emit rfl

/-- A worker among the others. -/
theorem workers_split {workers : List Worker} {index : Nat} {worker : Worker}
    (found : workers[index]? = some worker) :
    workers = workers.take index ++ worker :: workers.drop (index + 1) ∧
      workers.eraseIdx index = workers.take index ++ workers.drop (index + 1) := by
  obtain ⟨inside, rfl⟩ := List.getElem?_eq_some_iff.mp found
  refine ⟨?_, List.eraseIdx_eq_take_drop_succ ..⟩
  rw [← List.drop_eq_getElem_cons inside, List.take_append_drop]

/-- A finished worker of a kind is gone from the workers of that kind. -/
theorem filterMap_finish {α : Type} {kind : Worker → Option α} {workers : List Worker} {index : Nat}
    {worker : Worker} {item : α} (found : workers[index]? = some worker)
    (own : kind worker = some item) :
    let position := ((workers.take index).filterMap kind).length
    (workers.filterMap kind)[position]? = some item ∧
      (workers.eraseIdx index).filterMap kind = (workers.filterMap kind).eraseIdx position := by
  obtain ⟨split, erased⟩ := workers_split found
  have listed : workers.filterMap kind = (workers.take index).filterMap kind ++
      item :: (workers.drop (index + 1)).filterMap kind := by
    conv_lhs => rw [split]
    simp [own]
  intro position
  refine ⟨by simp [listed, position], ?_⟩
  rw [listed, erased, List.filterMap_append, List.eraseIdx_append_of_length_le (Nat.le_refl _)]
  simp

theorem filterMap_finish_other {α : Type} {kind : Worker → Option α} {workers : List Worker}
    {index : Nat} {worker : Worker} (found : workers[index]? = some worker)
    (other : kind worker = none) :
    (workers.eraseIdx index).filterMap kind = workers.filterMap kind := by
  obtain ⟨split, erased⟩ := workers_split found
  rw [erased]
  conv_rhs => rw [split]
  simp [other]

theorem finish_advances {index : Nat} {response : Except String Bytes} {worker : Worker}
    (found : engine.workers[index]? = some worker) :
    engine.Advances env
      ({ engine with workers := engine.workers.eraseIdx index }.finishWorker env worker response)
      (engine.progress (.finish index response)) := by
  cases worker with
  | upload payload report =>
      obtain ⟨placed, erased⟩ : engine.uploads[_]? = some report ∧ _ :=
        filterMap_finish found rfl
      simp only [progress, found, Advances]
      refine ⟨placed, ?_⟩
      cases response with
      | ok body =>
          exact ⟨erased, by simp [outcomes, finishWorker, emit, BlobResult.upload?], rfl,
            .of_append (.stored (blobId env.prims payload) payload) rfl
              (by simp [finishWorker, emit])⟩
      | error error =>
          exact ⟨erased, by simp [outcomes, finishWorker, BlobResult.upload?], rfl,
            .of_eq (by simp [finishWorker])⟩
  | serve id bytes =>
      have erased : _ = engine.uploads := filterMap_finish_other found rfl
      simp only [progress, found, Advances]
      cases response with
      | ok body =>
          exact ⟨erased, by simp [outcomes, finishWorker, emit, BlobResult.upload?], rfl,
            .of_append (.stored (blobId env.prims bytes) bytes) rfl
              (by simp [finishWorker, emit])⟩
      | error error =>
          exact ⟨erased, by simp [outcomes, finishWorker, BlobResult.upload?], rfl,
            .of_eq (by simp [finishWorker])⟩
  | download event =>
      have erased : _ = engine.uploads := filterMap_finish_other found rfl
      simp only [progress, found, Advances]
      exact ⟨erased, by simp [outcomes, finishWorker, BlobResult.upload?], rfl,
        .of_eq (by simp [finishWorker])⟩

theorem outcomes_of_other {result : BlobResult} {rest : List BlobResult}
    (found : engine.results = result :: rest) (other : result.upload? = none) :
    engine.outcomes = rest.filterMap BlobResult.upload? := by
  rw [outcomes, found, List.filterMap_cons_none other]

theorem result_advances {result : BlobResult} {rest : List BlobResult} {delivered : Bool}
    {applying : Applying} (found : engine.results = result :: rest) :
    engine.Advances env ({ engine with results := rest }.handleResult env result delivered applying)
      (engine.progress (.result delivered applying)) := by
  match result with
  | .upload (.ok ()) report =>
      simp only [progress, found, Advances, handleResult]
      refine ⟨rest.filterMap BlobResult.upload?, by simp [outcomes, found, BlobResult.upload?], ?_⟩
      cases delivered with
      | true =>
          obtain ⟨recentImg, same⟩ :=
            posted_shape { engine with results := rest } report applying.now
          simp only [if_true, same]
          exact ⟨rfl, rfl, rfl, .of_eq rfl⟩
      | false =>
          exact ⟨rfl, rfl, rfl, .of_append (.error _) rfl
            (by simp only [drop, sendClip, emit]; rfl)⟩
  | .upload (.error message) report =>
      simp only [progress, found, Advances, handleResult]
      exact ⟨rest.filterMap BlobResult.upload?, by simp [outcomes, found, BlobResult.upload?],
        rfl, rfl, rfl, .of_eq rfl⟩
  | .serve id ok =>
      simp only [progress, found, Advances, handleResult, outcomes_of_other found rfl]
      cases ok <;> exact ⟨rfl, rfl, rfl, .of_eq (by simp)⟩
  | .download (.ok data) event =>
      simp only [progress, found, Advances, handleResult, outcomes_of_other found rfl]
      obtain ⟨uploads, outcomes, pending, log⟩ := (@applyBlob_receives env
        { engine with results := rest } event data applying).progressed
      exact ⟨uploads, outcomes, pending, log⟩
  | .download (.error message) event =>
      simp only [progress, found, Advances, handleResult, outcomes_of_other found rfl]
      exact ⟨rfl, rfl, rfl, .of_append (.notify message) rfl (by simp [emit])⟩

theorem advances_of_step {action : Action} (stepped : engine.step env action = some next) :
    engine.Advances env next (engine.progress action) := by
  cases turn_of_step stepped with
  | connect session accepted now offline =>
      obtain ⟨recentImg, message, same⟩ := connect_shape engine session accepted now
      rw [same]
      by_cases all : engine.pendingUploads.drop accepted = []
      · rw [if_pos all]
        exact ⟨rfl, rfl, all.symm, .of_eq rfl⟩
      · rw [if_neg all]
        exact ⟨rfl, rfl, rfl, .of_append (.error message) rfl rfl⟩
  | connectFailed error offline => exact progressed_emit rfl
  | lost why session connected =>
      exact ⟨rfl, rfl, rfl, .of_append (.error _) rfl
        (by simp only [drop, emit, List.append_nil]; rfl)⟩
  | command cmd session connected => simp [progress, connected, Advances]
  | frame frame session connected => exact handleFrame_progressed frame
  | result delivered applying session result rest connected found => exact result_advances found
  | finish index response worker found => exact finish_advances found

end Engine

end CopySync.Desktop
