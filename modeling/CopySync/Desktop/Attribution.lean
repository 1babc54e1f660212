import CopySync.Desktop.Docket
import CopySync.Desktop.Downloads
import CopySync.Desktop.Inbox

/-!
# Where the content of an engine comes from

Every clip an engine offers to a socket was built from a piece of content a command gave
it, and everything it puts on the clipboard, stores or announces as received was in a clip
frame or in the blob such a frame named.
-/

namespace CopySync.Desktop

open Foundation Client

/-! ## Outbound -/

/-- A clip announces a content by the address of what its sender stores of it. -/
structure Publishes (prims : Primitives) (key : GroupKey) (content : Bytes) (event : ClipEvent) :
    Prop where
  stored : ∃ nonce payload, protect prims key nonce content = some payload ∧
    event.blobId = blobId prims payload
  enc : event.enc = metaOf key

/-- A clip is made of a piece of content. -/
def Parcel.Makes (prims : Primitives) (key : GroupKey) (event : ClipEvent) : Parcel → Prop
  | .text copied html =>
      ∃ draw seq targets, ClipEvent.newText prims draw seq copied html key targets = some event
  | .image picture => ∃ png, picture.png = .ok png ∧ Publishes prims key png event
  | .file document => ∃ data, document.content = .ok data ∧ Publishes prims key data event

/-- Outputs that show what was received. -/
def Output.receipt : Output → Bool
  | .clipboard _ | .file .. | .notice (.inText ..) | .notice (.inBlob ..) => true
  | _ => false

/-- The clip of a frame handed to a socket. -/
def Output.frame? : Output → Option ClipEvent
  | .clip event _ _ => some event
  | _ => none

namespace Engine

/-- The clips an engine has handed to a socket, oldest first. -/
def frames (engine : Engine) : List ClipEvent := engine.log.filterMap Output.frame?

/-- The uploads it works on: running, finished, or stored and still to be advertised. -/
def reports (engine : Engine) : List Upload :=
  engine.uploads ++ engine.outcomes.map (·.2) ++ engine.pendingUploads

/-- A clip was handed to a socket or is kept for one. -/
def Offers (engine : Engine) (event : ClipEvent) : Prop :=
  event ∈ engine.frames ∨ ∃ report ∈ engine.reports, report.event = event

/-- Whatever an engine offers was offered before, or is the clip of one of these pieces
of content. -/
structure OffersFrom (engine next : Engine) (entries : List Entry) : Prop where
  frames : ∀ event ∈ next.frames,
    engine.Offers event ∨ ∃ entry ∈ entries, entry.event? = some event
  reports : ∀ report ∈ next.reports,
    report ∈ engine.reports ∨ ∃ entry ∈ entries, entry.report? = some report

variable {env : Env} {engine next : Engine} {entries : List Entry}

theorem OffersFrom.refl (engine : Engine) (entries : List Entry) :
    engine.OffersFrom engine entries :=
  ⟨fun _ framed => .inl (.inl framed), fun _ kept => .inl kept⟩

/-- New frames and reports have to be those of the content. -/
theorem OffersFrom.grow {later : Engine} (offers : engine.OffersFrom next entries)
    (frames : ∀ event ∈ later.frames,
      event ∈ next.frames ∨ ∃ entry ∈ entries, entry.event? = some event)
    (reports : ∀ report ∈ later.reports,
      report ∈ next.reports ∨ ∃ entry ∈ entries, entry.report? = some report) :
    engine.OffersFrom later entries := by
  constructor
  · intro event framed
    rcases frames event framed with old | new
    · exact offers.frames event old
    · exact .inr new
  · intro report kept
    rcases reports report kept with old | new
    · exact offers.reports report old
    · exact .inr new

theorem OffersFrom.congr {later : Engine} (offers : engine.OffersFrom next entries)
    (frames : later.frames = next.frames) (reports : later.reports = next.reports) :
    engine.OffersFrom later entries :=
  offers.grow (fun _ framed => .inl (frames ▸ framed)) (fun _ kept => .inl (reports ▸ kept))

/-- A clip of a report is the clip of its content. -/
theorem OffersFrom.offers (offers : engine.OffersFrom next entries) {event : ClipEvent}
    (offered : next.Offers event) :
    engine.Offers event ∨ ∃ entry ∈ entries, entry.event? = some event := by
  rcases offered with framed | ⟨report, kept, rfl⟩
  · exact offers.frames event framed
  · rcases offers.reports report kept with old | ⟨entry, listed, reported⟩
    · exact .inl (.inr ⟨report, old, rfl⟩)
    · refine .inr ⟨entry, listed, ?_⟩
      obtain ⟨parcel, plan, sending⟩ := entry
      cases plan with
      | upload payload made =>
          cases reported
          rfl
      | _ => cases reported

theorem OffersFrom.emit {output : Output} (offers : engine.OffersFrom next entries)
    (quiet : output.frame? = none) : engine.OffersFrom (next.emit output) entries :=
  offers.congr (by simp [Engine.frames, Engine.emit, quiet]) rfl

theorem OffersFrom.drop (offers : engine.OffersFrom next entries) (why : String) :
    engine.OffersFrom (next.drop why) entries := by
  have ended : engine.OffersFrom { next with session := none } entries := offers.congr rfl rfl
  exact ended.emit rfl

theorem OffersFrom.settle {outcome : Engine × Bool} (offers : engine.OffersFrom outcome.1 entries)
    (why : String) : engine.OffersFrom (Engine.settle why outcome) entries := by
  obtain ⟨next, delivered⟩ := outcome
  cases delivered with
  | true => exact offers
  | false => exact offers.drop why

/-- Carrying out a plan offers the clip of the plan. -/
theorem OffersFrom.carryOut {entry : Entry} (offers : engine.OffersFrom next entries)
    (listed : entry ∈ entries) (proper : entry.plan.Proper) (numbered : Bool) :
    engine.OffersFrom ((next.number numbered).carryOut env entry.plan entry.sending).1 entries := by
  obtain ⟨seq, counted⟩ := next.number_shape numbered
  have start : engine.OffersFrom { next with seq } entries := offers.congr rfl rfl
  rw [counted]
  obtain ⟨parcel, plan, sending⟩ := entry
  cases plan with
  | refuse output => exact start.emit (by cases output <;> first | rfl | cases proper)
  | upload payload report =>
      refine start.grow ?_ ?_
      · intro event framed
        exact .inl (by simpa [Engine.frames, Engine.carryOut, spawn, Engine.emit, Output.frame?]
          using framed)
      · intro other kept
        simp only [Engine.reports, Engine.carryOut, spawn, Engine.emit, uploads, outcomes,
          List.filterMap_append, List.mem_append, List.filterMap_cons, Worker.upload?,
          List.filterMap_nil, List.mem_singleton] at kept ⊢
        rcases kept with ((old | rfl) | old) | old
        · exact .inl (.inl (.inl old))
        · exact .inr ⟨_, listed, rfl⟩
        · exact .inl (.inl (.inr old))
        · exact .inl (.inr old)
  | post event hold row notice sha =>
      obtain ⟨holds, held, carried⟩ :=
        Engine.carryOut_post { next with seq } env event hold row notice sha sending
      have framed (later : List Output) (same : later.filterMap Output.frame? = [event]) :
          ∀ sent ∈ (next.log ++ later).filterMap Output.frame?,
            sent ∈ next.frames ∨ ∃ entry ∈ entries, entry.event? = some sent := by
        intro sent listed'
        rw [List.filterMap_append, same] at listed'
        rcases List.mem_append.mp listed' with old | new
        · exact .inl old
        · exact .inr ⟨_, listed, congrArg some (List.mem_singleton.mp new).symm⟩
      rw [carried]
      split_ifs
      · exact start.grow (framed _ rfl) fun _ kept => .inl kept
      · exact start.grow (framed _ rfl) fun _ kept => .inl kept

/-- The files of a command. -/
theorem sendFiles_offers {current : Engine} (threshold : Int)
    (documents : List (Document × Sending))
    (listed : ∀ entry ∈ fileEntries env current.key threshold current.recentFiles current.seq
      documents, entry ∈ entries)
    (offers : engine.OffersFrom current entries) :
    engine.OffersFrom (current.sendFiles env threshold documents).1 entries := by
  induction documents generalizing current with
  | nil => exact offers
  | cons pair rest ih =>
      obtain ⟨document, sending⟩ := pair
      rw [fileEntries] at listed
      rw [sendFiles]
      by_cases echo : current.recentFiles.seen document.path sending.now = true
      · rw [if_pos echo] at listed ⊢
        exact ih listed offers
      · rw [if_neg echo] at listed ⊢
        let entry : Entry := ⟨.file document,
          filePlan env current.key (current.seq + 1) threshold document sending, sending⟩
        rw [sendFileClip_eq]
        have carried : engine.OffersFrom ((current.number document.metadata.isOk).carryOut env
            entry.plan entry.sending).1 entries :=
          offers.carryOut (listed entry List.mem_cons_self) (filePlan_proper ..) _
        obtain ⟨-, key, recentFiles, seq⟩ :=
          carryOut_frame env current document.metadata.isOk entry
        split
        next next outcome =>
          have same : next = ((current.number document.metadata.isOk).carryOut env entry.plan
              entry.sending).1 := by rw [outcome]
          rw [← same] at key recentFiles seq carried
          refine ih (fun other later => listed other (List.mem_cons_of_mem _ ?_)) carried
          rwa [key, recentFiles, seq] at later
        next next outcome =>
          have same : next = ((current.number document.metadata.isOk).carryOut env entry.plan
              entry.sending).1 := by rw [outcome]
          exact same ▸ carried

/-- A command offers the clips of its content. -/
theorem command_offers (env : Env) (engine : Engine) (session : Session) (cmd : Cmd) :
    engine.OffersFrom (engine.command env session cmd) (engine.entries env session cmd) := by
  have one (numbered : Bool) (parcel : Parcel) {plan : Plan} (sending : Sending)
      (proper : plan.Proper) :
      engine.OffersFrom ((engine.number numbered).carryOut env plan sending).1
        [⟨parcel, plan, sending⟩] :=
    (OffersFrom.refl engine [(⟨parcel, plan, sending⟩ : Entry)]).carryOut
      (List.mem_singleton_self _) proper numbered
  have texts (text : String) (html : Option String) (sending : Sending) (why : String) :
      engine.OffersFrom
        (settle why (engine.sendTextClip env session.maxMsg text html sending))
        [⟨.text text html,
          textPlan env engine.key (engine.seq + 1) session.maxMsg text html sending, sending⟩] := by
    rw [sendTextClip_eq]
    exact (one true _ sending (textPlan_proper ..)).settle why
  cases cmd with
  | localText text html exclude sending =>
      simp only [command, entries]
      by_cases echo : engine.recentText.seen (env.prims.sha256Hex (bytesOf text)) sending.now = true
      · rw [if_pos echo, if_pos echo]
        exact .refl engine []
      · rw [if_neg echo, if_neg echo]
        cases (if exclude = true then env.classify text else none) with
        | some reason => exact ((OffersFrom.refl engine []).emit rfl).emit rfl
        | none => exact texts _ _ _ _
  | sendText text sending => exact texts _ _ _ _
  | localImage picture sending =>
      simp only [command, entries]
      split_ifs
      · exact .refl engine []
      · obtain ⟨numbered, same⟩ := spawnImageClip_eq env engine picture _ sending
        rw [same]
        exact one numbered _ sending (imagePlan_proper ..)
  | sendFile document sending =>
      simp only [command, entries]
      rw [sendFileClip_eq]
      exact (one _ _ sending (filePlan_proper ..)).settle _
  | localFiles documents =>
      exact (sendFiles_offers session.threshold documents (fun _ listed => listed)
        (.refl engine _)).settle _
  | setPool name delivered => exact ((OffersFrom.refl engine []).emit rfl).settle _

theorem frames_readverts (holds : Holds) (accepted : Nat) (stash : List Upload) :
    ∀ event ∈ (readverts holds accepted stash).filterMap Output.frame?,
      ∃ report ∈ stash, report.event = event := by
  induction stash generalizing accepted with
  | nil => cases accepted <;> simp [readverts]
  | cons report rest ih =>
      cases accepted with
      | zero => simp [readverts, Output.frame?]
      | succ accepted =>
          intro event framed
          rw [readverts, List.filterMap_append, List.mem_append] at framed
          rcases framed with first | later
          · simp only [Upload.posted, List.filterMap_cons, Output.frame?, List.filterMap_nil,
              List.mem_singleton] at first
            exact ⟨report, List.mem_cons_self, first.symm⟩
          · obtain ⟨other, listed, same⟩ := ih accepted event later
            exact ⟨other, List.mem_cons_of_mem _ listed, same⟩

/-- Outputs about outbound content show which frames were added. -/
theorem Logs.frames {outputs : List Output} (logs : engine.Logs next outputs) :
    next.frames = engine.frames ++ outputs.filterMap Output.frame? := by
  obtain ⟨rest, quiet, log⟩ := logs
  have none : rest.filterMap Output.frame? = [] := by
    refine List.filterMap_eq_nil_iff.mpr fun output listed => ?_
    have silent := quiet output listed
    cases output with
    | clip => cases silent
    | _ => rfl
  simp [Engine.frames, log, none]

/-- The content a turn takes from the command channel. -/
def takes (env : Env) (engine : Engine) (action : Action) : List Entry :=
  match engine.progress action with
  | .command session cmd => engine.entries env session cmd
  | _ => []

theorem offers_of_step {action : Action} (stepped : engine.step env action = some next) :
    engine.OffersFrom next (engine.takes env action) := by
  have advances := advances_of_step stepped
  have start := OffersFrom.refl engine (engine.takes env action)
  rw [takes] at start ⊢
  cases progress : engine.progress action with
  | none =>
      obtain ⟨uploads, outcomes, pending, log⟩ : engine.Progressed .. := by
        rwa [progress] at advances
      exact .congr (.refl engine []) (by simpa using log.frames)
        (by rw [reports, uploads, outcomes, pending, reports])
  | command session cmd =>
      rw [progress] at advances
      exact advances ▸ command_offers env engine session cmd
  | finish position report outcome =>
      rw [progress] at advances
      obtain ⟨running, uploads, outcomes, pending, log⟩ := advances
      refine OffersFrom.grow (.refl engine []) (fun event framed => .inl ?_)
        (fun other kept => .inl ?_)
      · simpa [log.frames] using framed
      · rw [reports, uploads, outcomes, pending] at kept
        simp only [List.map_append, List.map_cons, List.map_nil, List.mem_append,
          List.mem_singleton] at kept
        rw [reports, List.mem_append, List.mem_append]
        rcases kept with (old | old | rfl) | old
        · exact .inl (.inl (List.mem_of_mem_eraseIdx old))
        · exact .inl (.inr old)
        · exact .inl (.inl (List.mem_of_getElem? running))
        · exact .inr old
  | settle report outcome delivered =>
      rw [progress] at advances
      obtain ⟨rest, found, advances⟩ := advances
      have known : report ∈ engine.reports := by simp [reports, found]
      have waiting : ∀ other ∈ rest.map (·.2), other ∈ engine.reports := by
        intro other listed
        simp only [reports, found, List.map_cons, List.mem_append, List.mem_cons]
        exact .inl (.inr (.inr listed))
      have others (later : List Upload) (same : ∀ other ∈ later, other ∈ engine.reports) :
          ∀ other ∈ engine.uploads ++ rest.map (·.2) ++ later, other ∈ engine.reports := by
        intro other listed
        rcases List.mem_append.mp listed with held | held
        · rcases List.mem_append.mp held with running | finished
          · simp [reports, running]
          · exact waiting other finished
        · exact same other held
      have pending : ∀ other ∈ engine.pendingUploads, other ∈ engine.reports := fun other listed =>
        List.mem_append_right _ listed
      -- The frames a result adds are those of its own report.
      have settled (later : List Upload) (outputs : List Output)
          (progressed : engine.Progressed next engine.uploads rest later outputs)
          (same : ∀ other ∈ later, other ∈ engine.reports)
          (framed : ∀ event ∈ outputs.filterMap Output.frame?, event = report.event) :
          engine.OffersFrom next [] := by
        constructor
        · intro event sent
          rw [progressed.log.frames] at sent
          rcases List.mem_append.mp sent with old | new
          · exact .inl (.inl old)
          · exact .inl (.inr ⟨report, known, (framed event new).symm⟩)
        · intro other kept
          rw [reports, progressed.uploads, progressed.outcomes, progressed.pending] at kept
          exact .inl (others later same other kept)
      match outcome, delivered with
      | .ok (), true =>
          exact settled _ _ advances pending (by simp [Upload.posted, Output.frame?])
      | .ok (), false =>
          refine settled _ _ advances ?_ (by simp [Output.frame?])
          intro other listed
          rcases List.mem_append.mp listed with old | new
          · exact pending other old
          · exact List.mem_singleton.mp new ▸ known
      | .error message, _ =>
          refine settled _ _ advances pending ?_
          cases report.errViaError <;> simp [Output.frame?]
  | readvertise accepted =>
      rw [progress] at advances
      obtain ⟨uploads, outcomes, pending, log⟩ := advances
      constructor
      · intro event sent
        rw [log.frames] at sent
        rcases List.mem_append.mp sent with old | new
        · exact .inl (.inl old)
        · obtain ⟨report, stashed, rfl⟩ := frames_readverts _ _ _ event new
          exact .inl (.inr ⟨report, List.mem_append_right _ stashed, rfl⟩)
      · intro other kept
        rw [reports, uploads, outcomes, pending] at kept
        rcases List.mem_append.mp kept with old | old
        · exact .inl (List.mem_append_left _ old)
        · exact .inl (List.mem_append_right _ (List.mem_of_mem_drop old))

/-- Frames are only added. -/
theorem frames_of_step {action : Action} (stepped : engine.step env action = some next) :
    engine.frames ⊆ next.frames := by
  have grown {outputs : List Output} (logs : engine.Logs next outputs) :
      engine.frames ⊆ next.frames := by
    rw [logs.frames]
    exact List.subset_append_left ..
  have advances := advances_of_step stepped
  cases progress : engine.progress action with
  | none =>
      rw [progress] at advances
      exact grown advances.log
  | command session cmd =>
      rw [progress] at advances
      obtain ⟨outputs, log, -⟩ := (command_books env engine session cmd).log
      rw [show next = engine.command env session cmd from advances, frames, frames, log,
        List.filterMap_append]
      exact List.subset_append_left ..
  | finish position report outcome =>
      rw [progress] at advances
      exact grown advances.2.log
  | settle report outcome delivered =>
      rw [progress] at advances
      obtain ⟨rest, -, advances⟩ := advances
      match outcome, delivered with
      | .ok (), true => exact grown advances.log
      | .ok (), false => exact grown advances.log
      | .error message, _ => exact grown advances.log
  | readvertise accepted =>
      rw [progress] at advances
      exact grown advances.log

end Engine

/-- The docket lists what the turns took. -/
theorem Docket.step_some {env : Env} {docket after : Docket} {action : Action}
    (stepped : docket.step env action = some after) :
    docket.engine.step env action = some after.engine ∧
      after.taken = docket.taken ++ docket.engine.takes env action := by
  obtain ⟨engine, moved, rfl⟩ := Option.map_eq_some_iff.mp stepped
  refine ⟨moved, ?_⟩
  simp only [Docket.account, Engine.takes]
  cases docket.engine.progress action with
  | none => simp
  | command session cmd => rfl
  | finish position report outcome => simp
  | settle report outcome delivered =>
      cases outcome with
      | ok done => cases delivered <;> simp
      | error message => simp
  | readvertise accepted => simp

/-! ### What the frames are made of -/

/-- An entry has the plan its content calls for. -/
inductive Entry.Built (env : Env) (key : GroupKey) : Entry → Prop where
  | text (seq : Nat) (maxMsg : Int) (text : String) (html : Option String) (sending : Sending) :
      Built env key ⟨.text text html, textPlan env key seq maxMsg text html sending, sending⟩
  | image (seq : Nat) (picture : Picture) (echoSha : String) (sending : Sending) :
      Built env key ⟨.image picture, imagePlan env key seq picture echoSha sending, sending⟩
  | file (seq : Nat) (threshold : Int) (document : Document) (sending : Sending) :
      Built env key ⟨.file document, filePlan env key seq threshold document sending, sending⟩

section Built

variable {env : Env} {key : GroupKey} {entry : Entry}

theorem built_of_fileEntries {threshold : Int} {recent : Dedup} {seq : Nat}
    {documents : List (Document × Sending)}
    (listed : entry ∈ fileEntries env key threshold recent seq documents) :
    entry.Built env key := by
  induction documents generalizing seq with
  | nil => cases listed
  | cons pair rest ih =>
      obtain ⟨document, sending⟩ := pair
      rw [fileEntries] at listed
      split at listed
      · exact ih listed
      · rcases List.mem_cons.mp listed with rfl | later
        · exact .file ..
        · exact ih later

theorem built_of_takes {engine : Engine} {action : Action}
    (listed : entry ∈ engine.takes env action) : entry.Built env engine.key := by
  rw [Engine.takes] at listed
  split at listed
  next session cmd _ =>
    cases cmd with
    | localText text html exclude sending =>
        simp only [Engine.entries] at listed
        split at listed
        · cases listed
        · split at listed
          · cases listed
          · exact List.mem_singleton.mp listed ▸ .text ..
    | sendText text sending => exact List.mem_singleton.mp listed ▸ .text ..
    | localImage picture sending =>
        simp only [Engine.entries] at listed
        split at listed
        · cases listed
        · exact List.mem_singleton.mp listed ▸ .image ..
    | sendFile document sending => exact List.mem_singleton.mp listed ▸ .file ..
    | localFiles documents => exact built_of_fileEntries listed
    | setPool name delivered => cases listed
  next => cases listed

/-- The clip of an entry is made of its content. -/
theorem Entry.Built.makes (built : entry.Built env key) {event : ClipEvent}
    (planned : entry.event? = some event) : entry.parcel.Makes env.prims key event := by
  cases built with
  | text seq maxMsg text html sending =>
      simp only [Entry.event?, textPlan] at planned
      split at planned
      next post _ _ _ _ chosen =>
        repeat' split at chosen
        all_goals cases chosen
        cases planned
        exact ⟨sending.draw, seq, sending.targets, by assumption⟩
      next payload report chosen =>
        repeat' split at chosen
        all_goals cases chosen
      next => cases planned
  | image seq picture echoSha sending =>
      simp only [Entry.event?, imagePlan] at planned
      cases encoded : picture.png with
      | error error => simp [encoded] at planned
      | ok png =>
          cases produced : protect env.prims key sending.draw.nonce png with
          | none => simp [encoded, produced] at planned
          | some payload =>
              simp only [encoded, produced, Option.some.injEq] at planned
              subst planned
              exact ⟨png, encoded, ⟨sending.draw.nonce, payload, produced, rfl⟩, rfl⟩
  | file seq threshold document sending =>
      simp only [Entry.event?, filePlan] at planned
      cases measured : document.metadata with
      | error error => simp [measured] at planned
      | ok size =>
          cases read : document.content with
          | error error => simp [measured, contentPlan, read] at planned
          | ok data =>
              cases produced : protect env.prims key sending.draw.nonce data with
              | none => simp [measured, contentPlan, read, produced] at planned
              | some payload =>
                  simp only [measured, contentPlan, read, produced] at planned
                  by_cases large : 0 < threshold ∧ threshold < size
                  · rw [if_pos large] at planned
                    cases planned
                    exact ⟨data, read, ⟨sending.draw.nonce, payload, produced, rfl⟩, rfl⟩
                  · rw [if_neg large] at planned
                    cases planned
                    exact ⟨data, read, ⟨sending.draw.nonce, payload, produced, rfl⟩, rfl⟩

/-- The report of an entry announces content of this device. -/
theorem Entry.Built.owns (built : entry.Built env key) {report : Upload}
    (planned : entry.report? = some report) : (Output.notice report.notice).receipt = false := by
  cases built with
  | text seq maxMsg text html sending =>
      simp only [Entry.report?, textPlan] at planned
      split at planned
      next payload made chosen =>
        repeat' split at chosen
        all_goals cases chosen
      next => cases planned
  | image seq picture echoSha sending =>
      simp only [Entry.report?, imagePlan] at planned
      cases encoded : picture.png with
      | error error => simp [encoded] at planned
      | ok png =>
          cases produced : protect env.prims key sending.draw.nonce png with
          | none => simp [encoded, produced] at planned
          | some payload =>
              simp only [encoded, produced, Option.some.injEq] at planned
              subst planned
              rfl
  | file seq threshold document sending =>
      simp only [Entry.report?, filePlan] at planned
      cases measured : document.metadata with
      | error error => simp [measured] at planned
      | ok size =>
          cases read : document.content with
          | error error => simp [measured, contentPlan, read] at planned
          | ok data =>
              cases produced : protect env.prims key sending.draw.nonce data with
              | none => simp [measured, contentPlan, read, produced] at planned
              | some payload =>
                  simp only [measured, contentPlan, read, produced] at planned
                  by_cases large : 0 < threshold ∧ threshold < size
                  · rw [if_pos large] at planned
                    cases planned
                  · rw [if_neg large] at planned
                    cases planned
                    rfl

end Built

/-! ## Inbound -/

namespace Engine

variable (env : Env) (engine : Engine)

/-- What the engine has shown as received, oldest first. -/
def receipts : List Output := engine.log.filter Output.receipt

/-- What a text clip shows. -/
def textReceipts (event : ClipEvent) (applying : Applying) : List Output :=
  match engine.incomingText env event with
  | .error _ => []
  | .ok text =>
      (engine.textContent env event applying).toList.map .clipboard ++
        [.notice (.inText text event.originDevice)]

/-- What a downloaded blob shows. -/
def blobReceipts (event : ClipEvent) (data : Bytes) (applying : Applying) : List Output :=
  match engine.incomingBlob env event data with
  | .error _ => []
  | .ok plain =>
      let name := downloadName event
      .file name plain :: (engine.blobContent env event data applying).toList.map .clipboard ++
        [.notice (.inBlob event.kind name plain.length (env.downloads ++ "/" ++ name))]

/-- What a turn shows. -/
def receives : Action → List Output
  | .frame (.clip event applying) =>
      if event.isBlob then [] else engine.textReceipts env event applying
  | .result _ applying =>
      match engine.results with
      | .download (.ok data) event :: _ => engine.blobReceipts env event data applying
      | _ => []
  | _ => []

variable {env engine} {next : Engine}

theorem receipts_emit (output : Output) :
    (engine.emit output).receipts = engine.receipts ++ [output].filter Output.receipt := by
  simp [receipts, emit]

theorem receipts_log {log outputs : List Output} (same : log = engine.log ++ outputs)
    (quiet : outputs.filter Output.receipt = []) :
    log.filter Output.receipt = engine.receipts := by
  rw [same, List.filter_append, quiet, List.append_nil, receipts]

theorem carryOut_receipts (numbered : Bool) {plan : Plan} (sending : Sending)
    (proper : plan.Proper) :
    ((engine.number numbered).carryOut env plan sending).1.receipts = engine.receipts := by
  obtain ⟨seq, counted⟩ := engine.number_shape numbered
  rw [counted]
  cases plan with
  | refuse output =>
      refine receipts_log rfl ?_
      cases output <;> first | rfl | cases proper
  | upload payload report => exact receipts_log rfl rfl
  | post event hold row notice sha =>
      obtain ⟨holds, held, carried⟩ :=
        Engine.carryOut_post { engine with seq } env event hold row notice sha sending
      have silent : [Output.notice notice].filter Output.receipt = [] := by
        rcases proper with ⟨-, -, text, rfl⟩ | ⟨-, -, -, -, kind, name, size, rfl⟩
        · rfl
        · rfl
      rw [carried]
      split_ifs
      · exact receipts_log rfl silent
      · exact receipts_log rfl rfl

theorem command_receipts (session : Session) (cmd : Cmd) :
    (engine.command env session cmd).receipts = engine.receipts := by
  refine command_induction (motive := fun current => current.receipts = engine.receipts) session
    cmd rfl ?_ ?_ ?_ ?_
  · intro current numbered plan sending proper same
    rw [carryOut_receipts numbered sending proper, same]
  · intro current row text reason same _
    rw [receipts_emit, receipts_emit, same]
    simp [Output.receipt]
  · intro current name delivered same
    rw [receipts_emit, same]
    simp [Output.receipt]
  · intro current why same
    rw [drop, receipts_emit]
    exact (List.append_nil _).trans same

theorem handleIncomingText_receipts (event : ClipEvent) (applying : Applying) :
    (engine.handleIncomingText env event applying).receipts =
      engine.receipts ++ engine.textReceipts env event applying := by
  cases content : engine.incomingText env event with
  | error output =>
      have quiet : [output].filter Output.receipt = [] := by
        rw [incomingText] at content
        repeat' split at content
        all_goals cases content <;> rfl
      simp only [handleIncomingText, textReceipts, content, List.append_nil]
      rw [receipts_emit, quiet, List.append_nil]
  | ok text =>
      cases outcome : applying.outcome with
      | ok done =>
          simp only [handleIncomingText, textReceipts, textContent, content, outcome, receipts,
            emit, List.append_assoc, List.filter_append]
          rfl
      | error error =>
          simp only [handleIncomingText, textReceipts, textContent, content, outcome, receipts,
            emit, List.append_assoc, List.filter_append]
          rfl

theorem applyBlob_receipts (event : ClipEvent) (data : Bytes) (applying : Applying) :
    (engine.applyBlob env event data applying).receipts =
      engine.receipts ++ engine.blobReceipts env event data applying := by
  cases content : engine.incomingBlob env event data with
  | error output =>
      have quiet : [output].filter Output.receipt = [] := by
        rw [incomingBlob] at content
        repeat' split at content
        all_goals cases content <;> rfl
      simp only [applyBlob, blobReceipts, content, List.append_nil]
      rw [receipts_emit, quiet, List.append_nil]
  | ok plain =>
      by_cases image : event.isImage = true
      · cases decoded : env.decodeImage plain with
        | error error =>
            cases outcome : applying.outcome with
            | ok done =>
                simp only [applyBlob, blobReceipts, blobContent, content, image, decoded, outcome,
                  receipts, emit, if_true, List.append_assoc, List.filter_append]
                rfl
            | error failure =>
                simp only [applyBlob, blobReceipts, blobContent, content, image, decoded, outcome,
                  receipts, emit, if_true, List.append_assoc, List.filter_append]
                rfl
        | ok rgba =>
            cases outcome : applying.outcome with
            | ok done =>
                simp only [applyBlob, blobReceipts, blobContent, content, image, decoded, outcome,
                  receipts, emit, if_true, List.append_assoc, List.filter_append]
                rfl
            | error failure =>
                simp only [applyBlob, blobReceipts, blobContent, content, image, decoded, outcome,
                  receipts, emit, if_true, List.append_assoc, List.filter_append]
                rfl
      · cases outcome : applying.outcome with
        | ok done =>
            simp only [applyBlob, blobReceipts, blobContent, content, image, outcome, receipts,
              emit, Bool.false_eq_true, if_false, List.append_assoc, List.filter_append]
            rfl
        | error failure =>
            simp only [applyBlob, blobReceipts, blobContent, content, image, outcome, receipts,
              emit, Bool.false_eq_true, if_false, List.append_assoc, List.filter_append]
            rfl

theorem handleFrame_receipts (frame : Frame) :
    (engine.handleFrame env frame).receipts =
      engine.receipts ++ engine.receives env (.frame frame) := by
  have quiet (later : Engine) (outputs : List Output) (log : later.log = engine.log ++ outputs)
      (silent : outputs.filter Output.receipt = []) : later.receipts = engine.receipts ++ [] := by
    rw [List.append_nil]
    exact receipts_log log silent
  cases frame with
  | keepalive | other => exact quiet engine [] (List.append_nil _).symm rfl
  | badClip error => exact quiet _ _ rfl rfl
  | tokenRotate token =>
      simp only [handleFrame, receives]
      split
      · exact quiet engine [] (List.append_nil _).symm rfl
      · exact quiet _ _ (List.append_assoc ..) rfl
  | clip event applying =>
      simp only [handleFrame, receives]
      by_cases blob : event.isBlob = true
      · rw [if_pos blob, if_pos blob]
        exact quiet _ [] (List.append_nil _).symm rfl
      · rw [if_neg blob, if_neg blob]
        exact handleIncomingText_receipts event applying
  | blobRequest id reread =>
      simp only [handleFrame, serve, receives]
      repeat' split
      · exact quiet _ _ rfl rfl
      · exact quiet _ _ rfl rfl
      · exact quiet _ _ rfl rfl
      · exact quiet _ _ rfl rfl

/-- The notice of an upload is about content of this device. -/
def Owns (engine : Engine) : Prop :=
  ∀ report ∈ engine.reports, (Output.notice report.notice).receipt = false

theorem handleResult_receipts {result : BlobResult} {rest : List BlobResult} (owns : engine.Owns)
    (found : engine.results = result :: rest) (delivered : Bool) (applying : Applying) :
    ({ engine with results := rest }.handleResult env result delivered applying).receipts =
      engine.receipts ++ engine.receives env (.result delivered applying) := by
  have quiet (later : Engine) (outputs : List Output) (log : later.log = engine.log ++ outputs)
      (silent : outputs.filter Output.receipt = []) : later.receipts = engine.receipts ++ [] := by
    rw [List.append_nil]
    exact receipts_log log silent
  match result with
  | .upload (.ok ()) report =>
      simp only [receives, found, handleResult]
      cases delivered with
      | true =>
          have own : (Output.notice report.notice).receipt = false := by
            refine owns report ?_
            simp [reports, outcomes, found, BlobResult.upload?]
          obtain ⟨recentImg, same⟩ :=
            posted_shape { engine with results := rest } report applying.now
          simp only [if_true, same]
          refine quiet _ _ rfl ?_
          simp [Upload.posted, Output.receipt] at own ⊢
          exact own
      | false => exact quiet _ _ (List.append_assoc ..) rfl
  | .upload (.error message) report =>
      simp only [receives, found, handleResult]
      cases report.errViaError with
      | true => exact quiet _ _ rfl rfl
      | false => exact quiet _ _ rfl rfl
  | .serve id ok =>
      simp only [receives, found, handleResult]
      cases ok with
      | true => exact quiet _ [] (List.append_nil _).symm rfl
      | false => exact quiet _ [] (List.append_nil _).symm rfl
  | .download (.ok data) event =>
      simp only [receives, found, handleResult]
      exact applyBlob_receipts event data applying
  | .download (.error message) event =>
      simp only [receives, found, handleResult]
      exact quiet _ _ rfl rfl

theorem receipts_readverts (holds : Holds) (accepted : Nat) (stash : List Upload)
    (owns : ∀ report ∈ stash, (Output.notice report.notice).receipt = false) :
    (readverts holds accepted stash).filter Output.receipt = [] := by
  induction stash generalizing accepted with
  | nil => cases accepted <;> rfl
  | cons report rest ih =>
      cases accepted with
      | zero => rfl
      | succ accepted =>
          have own := owns report List.mem_cons_self
          rw [readverts, List.filter_append,
            ih accepted fun other listed => owns other (List.mem_cons_of_mem _ listed)]
          simp [Upload.posted, Output.receipt] at own ⊢
          exact own

/-- What a turn shows as received is what it received. -/
theorem receipts_of_step {action : Action} (owns : engine.Owns)
    (stepped : engine.step env action = some next) :
    next.receipts = engine.receipts ++ engine.receives env action := by
  have quiet (later : Engine) (outputs : List Output) (log : later.log = engine.log ++ outputs)
      (silent : outputs.filter Output.receipt = []) : later.receipts = engine.receipts ++ [] := by
    rw [List.append_nil]
    exact receipts_log log silent
  cases turn_of_step stepped with
  | connect session accepted now offline =>
      have silent := receipts_readverts engine.holds accepted engine.pendingUploads
        fun report listed => owns report (List.mem_append_right _ listed)
      obtain ⟨recentImg, message, same⟩ := connect_shape engine session accepted now
      rw [same]
      split
      · exact quiet _ _ rfl silent
      · refine quiet _ _ (List.append_assoc ..) ?_
        rw [List.filter_append, silent]
        rfl
  | connectFailed error offline => exact quiet _ _ rfl rfl
  | lost why session connected => exact quiet _ _ rfl rfl
  | command cmd session connected =>
      exact (command_receipts session cmd).trans (List.append_nil _).symm
  | frame frame session connected => exact handleFrame_receipts frame
  | result delivered applying session result rest connected found =>
      exact handleResult_receipts owns found delivered applying
  | finish index response worker found =>
      cases worker with
      | upload payload report =>
          cases response with
          | ok body => exact quiet _ _ rfl rfl
          | error error => exact quiet _ [] (List.append_nil _).symm rfl
      | serve id bytes =>
          cases response with
          | ok body => exact quiet _ _ rfl rfl
          | error error => exact quiet _ [] (List.append_nil _).symm rfl
      | download event => exact quiet _ [] (List.append_nil _).symm rfl

/-- The key stays the one `run` derived. -/
theorem key_of_step {action : Action} (stepped : engine.step env action = some next) :
    next.key = engine.key := by
  cases turn_of_step stepped with
  | connect session accepted now offline =>
      obtain ⟨recentImg, message, same⟩ := connect_shape engine session accepted now
      rw [same]
      split <;> rfl
  | connectFailed error offline | lost why session connected => rfl
  | command cmd session connected =>
      refine command_induction (motive := fun current => current.key = engine.key) session cmd rfl
        ?_ ?_ ?_ ?_
      · intro current numbered plan sending _ same
        obtain ⟨-, key, -⟩ := carryOut_frame env current numbered ⟨.text "" none, plan, sending⟩
        exact key.trans same
      · exact fun _ _ _ _ same _ => same
      · exact fun _ _ _ same => same
      · exact fun _ _ same => same
  | frame frame session connected =>
      cases frame with
      | keepalive | other | badClip error => rfl
      | tokenRotate token =>
          simp only [handleFrame]
          split <;> rfl
      | clip event applying =>
          simp only [handleFrame]
          split
          · rfl
          · obtain ⟨_, _, _, _, -, -, same⟩ :=
              @handleIncomingText_receives env engine event applying
            rw [same]
      | blobRequest id reread =>
          simp only [handleFrame, serve]
          repeat' split
          all_goals rfl
  | result delivered applying session result rest connected found =>
      rcases { engine with results := rest }.handleResult_cases env result delivered applying with
        ⟨data, event, same⟩ | ⟨recentImg, session, pendingUploads, holds, log, same⟩
      · obtain ⟨_, _, _, _, -, -, applied⟩ :=
          @applyBlob_receives env { engine with results := rest } event data applying
        rw [same, applied]
      · rw [same]
  | finish index response worker found =>
      cases worker <;> cases response <;> rfl

theorem key_of_reachable {config : Config}
    (reached : Reachable (Engine.step env) (Engine.start env config) engine) :
    engine.key = config.e2eKey env.prims := by
  induction reached with
  | refl => rfl
  | tail _ _ stepped ih => exact (key_of_step stepped).trans ih

theorem Owns.step {action : Action} (owns : engine.Owns)
    (stepped : engine.step env action = some next) : next.Owns := by
  intro report kept
  rcases (offers_of_step stepped).reports report kept with old | ⟨entry, listed, planned⟩
  · exact owns report old
  · exact (built_of_takes listed).owns planned

/-- The blobs being fetched, or fetched and still to be applied. -/
def pulls (engine : Engine) : List ClipEvent := engine.downloads ++ engine.fetched

/-- A blob is fetched for a frame that named it. -/
theorem pulls_of_step {action : Action} (stepped : engine.step env action = some next) :
    ∀ event ∈ next.pulls, event ∈ engine.pulls ∨
      ∃ applying, action = .frame (.clip event applying) ∧ event.isBlob = true := by
  intro event pulled
  have took := takes_of_step stepped
  have kept (downloads fetched : List ClipEvent) (content : Option Clipboard)
      (same : engine.Took next downloads fetched content)
      (running : ∀ other ∈ downloads, other ∈ engine.pulls)
      (waiting : ∀ other ∈ fetched, other ∈ engine.pulls) : event ∈ engine.pulls := by
    rw [pulls, same.downloads, same.fetched] at pulled
    rcases List.mem_append.mp pulled with running' | waiting'
    · exact running event running'
    · exact waiting event waiting'
  have running : ∀ other ∈ engine.downloads, other ∈ engine.pulls := fun _ listed =>
    List.mem_append_left _ listed
  have waiting : ∀ other ∈ engine.fetched, other ∈ engine.pulls := fun _ listed =>
    List.mem_append_right _ listed
  cases arrived : engine.arrival env action with
  | none =>
      rw [arrived] at took
      exact .inl (kept _ _ _ took running waiting)
  | applied event content =>
      rw [arrived] at took
      exact .inl (kept _ _ _ took running waiting)
  | announced announced =>
      rw [arrived] at took
      by_cases same : event = announced
      · subst same
        refine .inr ?_
        cases action with
        | frame frame =>
            cases frame with
            | clip clip applying =>
                simp only [arrival] at arrived
                split at arrived
                next blob =>
                  cases arrived
                  exact ⟨applying, rfl, blob⟩
                next => cases arrived
            | _ => cases arrived
        | result delivered applying =>
            simp only [arrival] at arrived
            repeat' split at arrived
            all_goals cases arrived
        | finish index response =>
            simp only [arrival] at arrived
            repeat' split at arrived
            all_goals cases arrived
        | _ => cases arrived
      · refine .inl ?_
        rw [pulls, took.downloads, took.fetched] at pulled
        simp only [List.mem_append, List.mem_singleton, same, or_false] at pulled
        exact List.mem_append.mpr pulled
  | fetched position =>
      rw [arrived] at took
      obtain ⟨other, found, took⟩ := took
      refine .inl (kept _ _ _ took (fun _ listed => running _ (List.mem_of_mem_eraseIdx listed)) ?_)
      intro listed member
      rcases List.mem_append.mp member with old | new
      · exact waiting listed old
      · exact running listed (List.mem_singleton.mp new ▸ List.mem_of_getElem? found)
  | settled content =>
      rw [arrived] at took
      obtain ⟨other, rest, found, took⟩ := took
      refine .inl (kept _ _ _ took running fun _ listed => waiting _ ?_)
      rw [found]
      exact List.mem_cons_of_mem _ listed

end Engine

end CopySync.Desktop
