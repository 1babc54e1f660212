import CopySync.Desktop.Machine

/-!
# What an encrypting desktop engine lets out

With a group key, everything that leaves the engine is sealed under it, and a clip
that names a blob names exactly the ciphertext that was stored or is held.  Payloads
take six ways out; the invariant follows the ciphertext through all of them.
-/

namespace CopySync.Desktop

open Foundation Client

section Sealing

variable (env : Env) (key : Bytes) (kid : String)

/-- A clip announces a ciphertext by its content address. -/
structure Announces (body : Bytes) (event : ClipEvent) : Prop where
  isSealed : E2e.IsSealed env.prims key body
  enc : event.enc = some (E2e.encMeta kid)
  inlineText : event.inlineText = ""
  html : event.html = ""
  sha256 : event.sha256 = env.prims.sha256Hex body
  blobId : event.blobId = "sha256:" ++ event.sha256

/-- A clip announces a ciphertext that is stored on the server. -/
def Stored (log : List Output) (event : ClipEvent) : Prop :=
  ∃ body, Announces env key kid body event ∧ event.onDemand = false ∧
    .stored event.blobId body ∈ log

/-- What a clip frame handed to the socket shows: the key's id, sealed texts, and
for a blob the address of the ciphertext that is held or was stored before. -/
structure ClipSealed (log : List Output) (event : ClipEvent) (held : Option Hold) : Prop where
  enc : event.enc = some (E2e.encMeta kid)
  inlineText : event.inlineText ≠ "" →
    ∃ body, E2e.IsSealed env.prims key body ∧ event.inlineText = env.prims.encodeBase64 body
  html : event.html ≠ "" →
    ∃ body, E2e.IsSealed env.prims key body ∧ event.html = env.prims.encodeBase64 body
  blob : event.blobId ≠ "" →
    ∃ body, E2e.IsSealed env.prims key body ∧ event.sha256 = env.prims.sha256Hex body ∧
      event.blobId = "sha256:" ++ event.sha256 ∧
      if event.onDemand then held = some (.encrypted body)
      else .stored event.blobId body ∈ log

/-- An output lets out nothing but ciphertext. -/
def Output.Sealed (log : List Output) : Output → Prop
  | .clip event held _ => ClipSealed env key kid log event held
  | .put id body => E2e.IsSealed env.prims key body ∧ id = blobId env.prims body
  | _ => True

/-- A worker that uploads does so for a clip that announces its payload. -/
def Worker.Sealed : Worker → Prop
  | .upload payload report =>
      Announces env key kid payload report.event ∧ report.event.onDemand = false
  | _ => True

/-- A successful upload is reported for a clip whose payload is stored. -/
def BlobResult.Sealed (log : List Output) : BlobResult → Prop
  | .upload (.ok _) report => Stored env key kid log report.event
  | _ => True

/-- A hold is a ciphertext under its own address. -/
def HeldSealed (id : String) (hold : Hold) : Prop :=
  ∃ body, hold = .encrypted body ∧ E2e.IsSealed env.prims key body ∧ id = blobId env.prims body

/-- The engine encrypts with the key, and whatever it sent or will send is sealed. -/
structure Sealing (engine : Engine) : Prop where
  keyed : engine.key = some (key, kid)
  valid : engine.holds.Valid
  holds : ∀ id hold, engine.holds.get? id = some hold → HeldSealed env key id hold
  workers : ∀ worker ∈ engine.workers, worker.Sealed env key kid
  results : ∀ result ∈ engine.results, result.Sealed env key kid engine.log
  pending : ∀ report ∈ engine.pendingUploads, Stored env key kid engine.log report.event
  log : ∀ output ∈ engine.log, output.Sealed env key kid engine.log

end Sealing

variable {env : Env} {key : Bytes} {kid : String} {engine : Engine}
variable {log later : List Output} {event : ClipEvent} {output : Output}

/-! ## Growing logs -/

theorem Stored.mono (stored : Stored env key kid log event) (grows : log ⊆ later) :
    Stored env key kid later event := by
  obtain ⟨body, announces, eager, membership⟩ := stored
  exact ⟨body, announces, eager, grows membership⟩

theorem ClipSealed.mono {held : Option Hold} (clip : ClipSealed env key kid log event held)
    (grows : log ⊆ later) : ClipSealed env key kid later event held := by
  constructor
  · exact clip.enc
  · exact clip.inlineText
  · exact clip.html
  · intro isBlob
    obtain ⟨body, isSealed, sha256, address, backed⟩ := clip.blob isBlob
    refine ⟨body, isSealed, sha256, address, ?_⟩
    split at backed
    next onDemand => rwa [if_pos onDemand]
    next eager =>
      rw [if_neg eager]
      exact grows backed

theorem Output.Sealed.mono (isSealed : output.Sealed env key kid log) (grows : log ⊆ later) :
    output.Sealed env key kid later := by
  cases output with
  | clip event held delivered => exact ClipSealed.mono isSealed grows
  | put id body => exact isSealed
  | _ => trivial

theorem BlobResult.Sealed.mono {result : BlobResult} (isSealed : result.Sealed env key kid log)
    (grows : log ⊆ later) : result.Sealed env key kid later := by
  match result with
  | .upload (.ok _) report => exact Stored.mono isSealed grows
  | .upload (.error _) _ | .serve _ _ | .download _ _ => trivial

/-! ## Payloads -/

theorem protect_isSealed {nonce : Nonce} {data payload : Bytes}
    (produced : protect env.prims (some (key, kid)) nonce data = some payload) :
    E2e.IsSealed env.prims key payload :=
  .of_sealPayload produced

/-- A text clip built under a key carries sealed texts only. -/
theorem newText_sealed {draw : Draw} {seq : Nat} {text : String} {html : Option String}
    {targets : Targets} {held : Option Hold}
    (built :
      ClipEvent.newText env.prims draw seq text html (some (key, kid)) targets = some event) :
    ClipSealed env key kid log event held := by
  simp only [ClipEvent.newText, Option.bind_eq_bind, Option.bind_eq_some_iff] at built
  obtain ⟨raw, sealedText, built⟩ := built
  split at built
  next rich _ =>
    obtain ⟨coded, sealedHtml, same⟩ := Option.bind_eq_some_iff.mp built
    obtain ⟨body, produced, rfl⟩ := Option.map_eq_some_iff.mp sealedHtml
    cases same
    exact ⟨rfl, fun _ => ⟨raw, .of_sealPayload sealedText, rfl⟩,
      fun _ => ⟨body, .of_sealPayload produced, rfl⟩, fun isBlob => absurd rfl isBlob⟩
  next =>
    cases built
    exact ⟨rfl, fun _ => ⟨raw, .of_sealPayload sealedText, rfl⟩, fun carried => absurd rfl carried,
      fun isBlob => absurd rfl isBlob⟩

/-- A clip that announces a ciphertext may be sent while the ciphertext is held, or
once it is stored. -/
theorem Announces.clipSealed {body : Bytes} {held : Option Hold}
    (announces : Announces env key kid body event)
    (backed : if event.onDemand then held = some (.encrypted body)
      else .stored event.blobId body ∈ log) :
    ClipSealed env key kid log event held where
  enc := announces.enc
  inlineText carried := absurd announces.inlineText carried
  html carried := absurd announces.html carried
  blob _ := ⟨body, announces.isSealed, announces.sha256, announces.blobId, backed⟩

theorem Stored.clipSealed {held : Option Hold} (stored : Stored env key kid log event) :
    ClipSealed env key kid log event held := by
  obtain ⟨body, announces, eager, membership⟩ := stored
  exact announces.clipSealed (by rwa [if_neg (by simp [eager])])

/-! ## Single effects -/

/-- The part of the engine its payloads pass through. -/
def Engine.custody (engine : Engine) :
    GroupKey × Holds × List Worker × List BlobResult × List Upload × List Output :=
  (engine.key, engine.holds, engine.workers, engine.results, engine.pendingUploads, engine.log)

theorem Engine.log_subset_record (engine : Engine) (report : Upload) (now : Nat) :
    engine.log ⊆ (engine.record report now).log := by
  rw [Engine.record]
  cases report.echoImgSha <;> simp [Engine.emit]

namespace Sealing

/-- Counters, dedup rings, the token and the session do not matter. -/
theorem congr {next : Engine} (inv : Sealing env key kid engine)
    (same : next.custody = engine.custody) : Sealing env key kid next := by
  simp only [Engine.custody, Prod.mk.injEq] at same
  obtain ⟨sameKey, sameHolds, sameWorkers, sameResults, samePending, sameLog⟩ := same
  constructor
  · exact sameKey ▸ inv.keyed
  · exact sameHolds ▸ inv.valid
  · exact sameHolds ▸ inv.holds
  · exact sameWorkers ▸ inv.workers
  · exact sameResults ▸ sameLog ▸ inv.results
  · exact samePending ▸ sameLog ▸ inv.pending
  · exact sameLog ▸ inv.log

theorem start {config : Config} (keyed : config.e2eKey env.prims = some (key, kid)) :
    Sealing env key kid (.start env config) where
  keyed := keyed
  valid := .empty
  holds _ _ held := by cases held
  workers _ membership := by cases membership
  results _ membership := by cases membership
  pending _ membership := by cases membership
  log _ membership := by cases membership

theorem emit (inv : Sealing env key kid engine)
    (isSealed : output.Sealed env key kid engine.log) :
    Sealing env key kid (engine.emit output) := by
  have grows : engine.log ⊆ engine.log ++ [output] := List.subset_append_left ..
  constructor
  · exact inv.keyed
  · exact inv.valid
  · exact inv.holds
  · exact inv.workers
  · intro result membership
    exact (inv.results result membership).mono grows
  · intro report membership
    exact (inv.pending report membership).mono grows
  · intro other membership
    rcases List.mem_append.mp membership with before | new
    · exact (inv.log other before).mono grows
    · rw [List.mem_singleton.mp new]
      exact isSealed.mono grows

theorem sendClip (inv : Sealing env key kid engine) {delivered : Bool}
    (isSealed : ClipSealed env key kid engine.log event (engine.holds.get? event.blobId)) :
    Sealing env key kid (engine.sendClip event delivered) :=
  inv.emit isSealed

theorem spawnUpload (inv : Sealing env key kid engine) {payload : Bytes} {report : Upload}
    (announces : Announces env key kid payload report.event)
    (eager : report.event.onDemand = false) :
    Sealing env key kid (engine.spawn env (.upload payload report)) := by
  have spawned : Sealing env key kid
      { engine with workers := engine.workers ++ [.upload payload report] } :=
    { inv with
      workers := List.forall_mem_append.mpr ⟨inv.workers,
        List.forall_mem_singleton.mpr ⟨announces, eager⟩⟩ }
  exact spawned.emit ⟨announces.isSealed, rfl⟩

theorem spawnServe (inv : Sealing env key kid engine) {id : String} {bytes : Bytes}
    (isSealed : E2e.IsSealed env.prims key bytes) :
    Sealing env key kid (engine.spawn env (.serve id bytes)) := by
  have spawned : Sealing env key kid
      { engine with workers := engine.workers ++ [.serve id bytes] } :=
    { inv with
      workers := List.forall_mem_append.mpr ⟨inv.workers,
        List.forall_mem_singleton.mpr trivial⟩ }
  exact spawned.emit ⟨isSealed, rfl⟩

theorem spawnDownload (inv : Sealing env key kid engine) (event : ClipEvent) :
    Sealing env key kid (engine.spawn env (.download event)) :=
  { inv with
    workers := List.forall_mem_append.mpr ⟨inv.workers, List.forall_mem_singleton.mpr trivial⟩ }

theorem drop (inv : Sealing env key kid engine) (why : String) :
    Sealing env key kid (engine.drop why) := by
  have left : Sealing env key kid { engine with session := none } := inv.congr rfl
  exact left.emit trivial

theorem metaOf (inv : Sealing env key kid engine) :
    Desktop.metaOf engine.key = some (E2e.encMeta kid) := by
  rw [inv.keyed]
  rfl

theorem settle {why : String} {outcome : Engine × Bool} (inv : Sealing env key kid outcome.1) :
    Sealing env key kid (Engine.settle why outcome) := by
  obtain ⟨engine, live⟩ := outcome
  cases live with
  | true => exact inv
  | false => exact inv.drop why

/-! ## Outbound paths -/

theorem sendTextClip (inv : Sealing env key kid engine) (maxMsg : Int) (text : String)
    (html : Option String) (sending : Sending) :
    Sealing env key kid (engine.sendTextClip env maxMsg text html sending).1 := by
  have counted : Sealing env key kid { engine with seq := engine.seq + 1 } := inv.congr rfl
  rw [Engine.sendTextClip]
  split
  next => exact counted.emit trivial
  next event built =>
    rw [counted.keyed] at built
    have sent : Sealing env key kid
        ({ engine with seq := engine.seq + 1 }.sendClip event sending.delivered) :=
      counted.sendClip (newText_sealed built)
    split
    next => exact counted.emit trivial
    next =>
      split
      next => exact counted.emit trivial
      next =>
        split
        next =>
          refine Sealing.emit (Sealing.emit (sent.congr ?_) trivial) trivial
          rfl
        next => exact sent

theorem spawnImageClip (inv : Sealing env key kid engine) (picture : Picture) (echoSha : String)
    (sending : Sending) :
    Sealing env key kid (engine.spawnImageClip env picture echoSha sending) := by
  rw [Engine.spawnImageClip]
  split
  next => exact inv.emit trivial
  next png _ =>
    split
    next => exact inv.emit trivial
    next payload produced =>
      rw [inv.keyed] at produced
      have counted : Sealing env key kid { engine with seq := engine.seq + 1 } := inv.congr rfl
      exact counted.spawnUpload ⟨protect_isSealed produced, inv.metaOf, rfl, rfl, rfl, rfl⟩ rfl

/-- The advertisement of an encrypted file goes out while its ciphertext is held. -/
theorem advertiseFile (inv : Sealing env key kid engine) (document : Document) (size : Int)
    (sending : Sending) :
    Sealing env key kid (engine.advertiseFile env document size sending).1 := by
  rw [Engine.advertiseFile]
  split
  next => exact inv.emit trivial
  next data _ =>
    split
    next => exact inv.emit trivial
    next payload produced =>
      rw [inv.keyed] at produced
      have isSealed := protect_isSealed produced
      have isSome : engine.key.isSome = true := by rw [inv.keyed]; rfl
      simp only [isSome, if_true]
      have held : Sealing env key kid
          { engine with
            holds := engine.holds.insert ("sha256:" ++ env.prims.sha256Hex payload)
              (.encrypted payload) } :=
        { inv with
          valid := inv.valid.insert _ _
          holds := fun id hold found => by
            rcases inv.valid.get?_insert found with ⟨rfl, rfl⟩ | before
            · exact ⟨payload, rfl, isSealed, rfl⟩
            · exact inv.holds id hold before }
      have sent : ∀ event : ClipEvent, Announces env key kid payload event →
          event.onDemand = true → Sealing env key kid
            ({ engine with
              holds := engine.holds.insert ("sha256:" ++ env.prims.sha256Hex payload)
                (.encrypted payload) }.sendClip event sending.delivered) :=
        fun event announces onDemand => held.sendClip (announces.clipSealed (by
          rw [if_pos onDemand, announces.blobId, announces.sha256]
          exact inv.valid.get?_insert_self _))
      split
      next =>
        exact Sealing.emit (Sealing.emit
          (sent _ ⟨isSealed, inv.metaOf, rfl, rfl, rfl, rfl⟩ rfl) trivial) trivial
      next => exact sent _ ⟨isSealed, inv.metaOf, rfl, rfl, rfl, rfl⟩ rfl

theorem uploadFile (inv : Sealing env key kid engine) (document : Document) (size : Int)
    (sending : Sending) : Sealing env key kid (engine.uploadFile env document size sending) := by
  rw [Engine.uploadFile]
  split
  next => exact inv.emit trivial
  next data _ =>
    split
    next => exact inv.emit trivial
    next payload produced =>
      rw [inv.keyed] at produced
      exact inv.spawnUpload ⟨protect_isSealed produced, inv.metaOf, rfl, rfl, rfl, rfl⟩ rfl

theorem sendFileClip (inv : Sealing env key kid engine) (threshold : Int) (document : Document)
    (sending : Sending) :
    Sealing env key kid (engine.sendFileClip env threshold document sending).1 := by
  rw [Engine.sendFileClip]
  split
  next => exact inv.emit trivial
  next size _ =>
    have counted : Sealing env key kid { engine with seq := engine.seq + 1 } := inv.congr rfl
    split
    · exact counted.advertiseFile document size sending
    · exact counted.uploadFile document size sending

theorem sendFiles (inv : Sealing env key kid engine) (threshold : Int)
    (documents : List (Document × Sending)) :
    Sealing env key kid (engine.sendFiles env threshold documents).1 := by
  induction documents generalizing engine with
  | nil => exact inv
  | cons head rest ih =>
      obtain ⟨document, sending⟩ := head
      have sent := inv.sendFileClip threshold document sending
      rw [Engine.sendFiles]
      split
      next => exact ih inv
      next =>
        split
        next next same =>
          rw [same] at sent
          exact ih sent
        next next same =>
          rw [same] at sent
          exact sent

/-! ## Inbound paths -/

theorem incomingText_sealed {event : ClipEvent} {log : List Output} {output : Output}
    (refused : engine.incomingText env event = .error output) :
    output.Sealed env key kid log := by
  rw [Engine.incomingText] at refused
  repeat' split at refused
  all_goals cases refused <;> trivial

theorem incomingBlob_sealed {event : ClipEvent} {data : Bytes} {log : List Output}
    {output : Output} (refused : engine.incomingBlob env event data = .error output) :
    output.Sealed env key kid log := by
  rw [Engine.incomingBlob] at refused
  repeat' split at refused
  all_goals cases refused <;> trivial

theorem handleIncomingText (inv : Sealing env key kid engine) (event : ClipEvent)
    (applying : Applying) : Sealing env key kid (engine.handleIncomingText env event applying) := by
  rw [Engine.handleIncomingText]
  split
  next output refused => exact inv.emit (incomingText_sealed refused)
  next text _ =>
    refine Sealing.emit (Sealing.emit (Sealing.emit (inv.congr ?_) ?_) trivial) trivial
    · rfl
    · cases applying.outcome <;> trivial

theorem applyBlob (inv : Sealing env key kid engine) (event : ClipEvent) (data : Bytes)
    (applying : Applying) : Sealing env key kid (engine.applyBlob env event data applying) := by
  rw [Engine.applyBlob]
  split
  next output refused => exact inv.emit (incomingBlob_sealed refused)
  next plain _ =>
    have stored : Sealing env key kid (engine.emit (.file (downloadName event) plain)) :=
      inv.emit trivial
    refine Sealing.emit (Sealing.emit ?_ trivial) trivial
    split
    · split
      · refine Sealing.emit (stored.congr ?_) ?_
        · rfl
        · cases applying.outcome <;> trivial
      · exact stored.emit trivial
    · refine Sealing.emit (stored.congr ?_) ?_
      · rfl
      · cases applying.outcome <;> trivial

/-! ## Results and connections -/

theorem record (inv : Sealing env key kid engine) (report : Upload) (now : Nat) :
    Sealing env key kid (engine.record report now) := by
  rw [Engine.record]
  refine Sealing.emit (Sealing.emit (inv.congr ?_) trivial) trivial
  cases report.echoImgSha <;> rfl

/-- Re-advertising sends and keeps only clips whose payload is stored. -/
theorem readvertise (inv : Sealing env key kid engine) (accepted now : Nat) {stash : List Upload}
    (stored : ∀ report ∈ stash, Stored env key kid engine.log report.event) :
    Sealing env key kid (Engine.readvertise now accepted engine stash).1 ∧
      ∀ report ∈ (Engine.readvertise now accepted engine stash).2,
        Stored env key kid (Engine.readvertise now accepted engine stash).1.log report.event := by
  induction stash generalizing accepted engine with
  | nil => cases accepted <;> exact ⟨inv, stored⟩
  | cons report rest ih =>
      obtain ⟨first, others⟩ := List.forall_mem_cons.mp stored
      cases accepted with
      | zero =>
          constructor
          · exact inv.sendClip first.clipSealed
          · intro report membership
            exact (stored report membership).mono (List.subset_append_left ..)
      | succ accepted =>
          refine ih ((inv.sendClip first.clipSealed).record report now) accepted ?_
          intro other membership
          refine (others other membership).mono fun output listed => ?_
          exact Engine.log_subset_record _ report now (List.mem_append_left _ listed)

theorem connect (inv : Sealing env key kid engine) (session : Session) (accepted now : Nat) :
    Sealing env key kid (engine.connect session accepted now) := by
  have taken : Sealing env key kid
      { engine with session := some session, pendingUploads := [] } :=
    { inv with pending := fun _ membership => by cases membership }
  obtain ⟨continued, kept⟩ := taken.readvertise accepted now inv.pending
  rw [Engine.connect]
  split
  next engine same =>
    rw [same] at continued
    exact continued
  next engine rest _ same =>
    rw [same] at continued kept
    have stashed : Sealing env key kid { engine with session := none, pendingUploads := rest } :=
      { continued with pending := kept }
    exact stashed.emit trivial

theorem handleResult {result : BlobResult} (inv : Sealing env key kid engine)
    (reported : result.Sealed env key kid engine.log) (delivered : Bool) (applying : Applying) :
    Sealing env key kid (engine.handleResult env result delivered applying) := by
  match result with
  | .upload (.ok ()) report =>
      have stored : Stored env key kid engine.log report.event := reported
      have sent : Sealing env key kid (engine.sendClip report.event delivered) :=
        inv.sendClip stored.clipSealed
      rw [Engine.handleResult]
      split
      next => exact sent.record report applying.now
      next =>
        have stashed : Sealing env key kid
            { engine.sendClip report.event delivered with
              pendingUploads := engine.pendingUploads ++ [report] } :=
          { sent with
            pending := List.forall_mem_append.mpr ⟨sent.pending,
              List.forall_mem_singleton.mpr (stored.mono (List.subset_append_left ..))⟩ }
        exact stashed.drop _
  | .upload (.error message) report =>
      rw [Engine.handleResult]
      split
      · exact inv.emit trivial
      · exact inv.emit trivial
  | .serve id ok =>
      rw [Engine.handleResult]
      split
      next =>
        exact { inv with
          valid := inv.valid.remove id
          holds := fun query hold found => by
            rw [Holds.get?_remove] at found
            split at found
            · cases found
            · exact inv.holds query hold found }
      next => exact inv
  | .download (.ok data) event => exact inv.applyBlob event data applying
  | .download (.error message) event => exact inv.emit trivial

theorem report (inv : Sealing env key kid engine) {result : BlobResult}
    (reported : result.Sealed env key kid engine.log) :
    Sealing env key kid { engine with results := engine.results ++ [result] } :=
  { inv with
    results := List.forall_mem_append.mpr ⟨inv.results, List.forall_mem_singleton.mpr reported⟩ }

theorem finishWorker {worker : Worker} (inv : Sealing env key kid engine)
    (spawned : worker.Sealed env key kid) (response : Except String Bytes) :
    Sealing env key kid (engine.finishWorker env worker response) := by
  match worker, response with
  | .upload payload upload, .ok _ =>
      obtain ⟨announces, eager⟩ := spawned
      have stored : Sealing env key kid
          (engine.emit (.stored (blobId env.prims payload) payload)) := inv.emit trivial
      refine stored.report ⟨payload, announces, eager, ?_⟩
      rw [announces.blobId, announces.sha256]
      exact List.mem_append_right _ List.mem_cons_self
  | .upload _ upload, .error error => exact inv.report trivial
  | .serve id bytes, .ok _ =>
      have stored : Sealing env key kid (engine.emit (.stored (blobId env.prims bytes) bytes)) :=
        inv.emit trivial
      exact stored.report trivial
  | .serve id _, .error _ => exact inv.report trivial
  | .download event, response => exact inv.report trivial

/-- The hold that answers a request is a ciphertext. -/
theorem serve (inv : Sealing env key kid engine) (id : String) (reread : Except String Bytes) :
    Sealing env key kid (engine.serve env id reread) := by
  simp only [Engine.serve]
  split
  next => exact inv.emit trivial
  next body found =>
    obtain ⟨held, same, isSealed, _⟩ := inv.holds id _ found
    cases same
    exact inv.spawnServe isSealed
  next path found =>
    obtain ⟨held, same, _⟩ := inv.holds id _ found
    cases same

theorem handleFrame (inv : Sealing env key kid engine) (frame : Frame) :
    Sealing env key kid (engine.handleFrame env frame) := by
  cases frame with
  | keepalive | other => exact inv
  | tokenRotate token =>
      rw [Engine.handleFrame]
      split
      next => exact inv
      next =>
        refine Sealing.emit (Sealing.emit (inv.congr ?_) trivial) trivial
        rfl
  | clip event applying =>
      rw [Engine.handleFrame]
      split
      · exact inv.spawnDownload event
      · exact inv.handleIncomingText event applying
  | badClip error => exact inv.emit trivial
  | blobRequest id reread => exact inv.serve id reread

theorem command (inv : Sealing env key kid engine) (session : Session) (cmd : Cmd) :
    Sealing env key kid (engine.command env session cmd) := by
  cases cmd with
  | localText text html exclude sending =>
      rw [Engine.command]
      split
      next => exact inv
      next =>
        split
        next => exact Sealing.emit (Sealing.emit inv trivial) trivial
        next => exact (inv.sendTextClip session.maxMsg text html sending).settle
  | sendText text sending => exact (inv.sendTextClip session.maxMsg text none sending).settle
  | localImage picture sending =>
      rw [Engine.command]
      split
      · exact inv
      · exact inv.spawnImageClip picture _ sending
  | sendFile document sending =>
      exact (inv.sendFileClip session.threshold document sending).settle
  | localFiles documents => exact (inv.sendFiles session.threshold documents).settle
  | setPool name delivered => exact Sealing.settle (inv.emit trivial)

/-- Every turn keeps the invariant. -/
theorem step (inv : Sealing env key kid engine) {action : Action} {next : Engine}
    (stepped : engine.step env action = some next) : Sealing env key kid next := by
  cases Engine.turn_of_step stepped with
  | connect session accepted now offline => exact inv.connect session accepted now
  | connectFailed error offline => exact inv.emit trivial
  | lost why session connected => exact inv.drop why
  | command cmd session connected => exact inv.command session cmd
  | frame frame session connected => exact inv.handleFrame frame
  | result delivered applying session result rest connected found =>
      obtain ⟨first, others⟩ := List.forall_mem_cons.mp (found ▸ inv.results)
      have taken : Sealing env key kid { engine with results := rest } :=
        { inv with results := others }
      exact taken.handleResult first delivered applying
  | finish index response worker found =>
      have ended : Sealing env key kid { engine with workers := engine.workers.eraseIdx index } :=
        { inv with
          workers := fun other membership =>
            inv.workers other (List.mem_of_mem_eraseIdx membership) }
      exact ended.finishWorker (inv.workers worker (List.mem_of_getElem? found)) response

end Sealing

/-- Started with a key, the engine hands to the socket only clips that carry the
key's id and sealed texts, with a blob named by the hash of the ciphertext that is
held or stored, and to the blob channel only ciphertext under its own address. -/
theorem engine_seals {config : Config} (keyed : config.e2eKey env.prims = some (key, kid))
    (reached : Reachable (Engine.step env) (Engine.start env config) engine) :
    kid = E2e.keyId env.prims key ∧
    (∀ event held delivered, .clip event held delivered ∈ engine.log →
      ClipSealed env key kid engine.log event held) ∧
    (∀ id body, .put id body ∈ engine.log →
      E2e.IsSealed env.prims key body ∧ id = blobId env.prims body) ∧
    ∀ id hold, engine.holds.get? id = some hold → HeldSealed env key id hold := by
  have inv : Sealing env key kid engine := by
    apply reached.invariant
    · exact .start keyed
    · intro before after action inv _ stepped
      exact inv.step stepped
  refine ⟨Config.keyId_of_e2eKey keyed, ?_, ?_, inv.holds⟩
  · intro event held delivered membership
    exact inv.log _ membership
  · intro id body membership
    exact inv.log _ membership

/-- A text is sent, an image is uploaded but its frame is lost with the socket and
sent again on the next one, and a file is advertised and served on request. -/
def demoRun : List Action :=
  [.connect ⟨2, 65536⟩ 0 0,
    .command (.sendText "hi" (demoSending Reference.text)),
    .command (.localImage ⟨Reference.image.plain, .ok Reference.image.plain, none⟩
      (demoSending Reference.image)),
    .finish 0 (.ok []),
    .result false demoApplying,
    .connect ⟨2, 65536⟩ 1 0,
    .command (.sendFile ⟨"/home/u/a.bin", .ok 3, .ok Reference.file.plain⟩
      (demoSending Reference.file)),
    .frame (.blobRequest ("sha256:" ++ Reference.file.digest) (.ok [])),
    .finish 0 (.ok []),
    .result true demoApplying]

def Output.clip? : Output → Option ClipEvent
  | .clip event _ _ => some event
  | _ => none

theorem demoRun_sealed :
    ∃ engine, Reachable (Engine.step demoEnv) (Engine.start demoEnv demoConfig) engine ∧
      (engine.log.filterMap Output.clip?).map (·.sha256) =
        [Reference.text.digest, Reference.image.digest, Reference.image.digest,
          Reference.file.digest] ∧
      ∀ event held delivered, .clip event held delivered ∈ engine.log →
        ClipSealed demoEnv Reference.key "7c1378060950bafd" engine.log event held := by
  obtain ⟨engine, reached, sent⟩ := Reachable.exists_of_exec (Engine.step demoEnv)
    (Engine.start demoEnv demoConfig) demoRun
    (fun engine => decide ((engine.log.filterMap Output.clip?).map (·.sha256) =
      [Reference.text.digest, Reference.image.digest, Reference.image.digest,
        Reference.file.digest]))
    (by decide +kernel)
  exact ⟨engine, reached, of_decide_eq_true sent, (engine_seals (by decide +kernel) reached).2.1⟩

end CopySync.Desktop
