import CopySync.Android.Outbound
import CopySync.Foundation.Holdings

/-!
# Where the outbound clips of the Android client are

Every clip that passed the sensitivity filter has a coroutine, waits in the retry queue,
was taken by the socket, was dropped by the cap of the queue, or is lost.  Clips are lost
where the code does not look at the outcome: it goes on after an upload without a blob
channel, ignores what `sendClip` returns for a file, and deletes a source that a queued
clip of the same content still needs.  In runs without such steps none is.
-/

namespace CopySync.Android

open Foundation Client

/-! ## Sources -/

def Captured.source? : Captured → Option Path
  | .text .. => none
  | .binary file .. => some file

/-- A text, or a file whose source is still on the disk. -/
def Service.hasSource (service : Service) (captured : Captured) : Bool :=
  captured.source?.all fun file => (service.files file).isSome

/-- No queue changed, and every file that was there still is. -/
structure Service.Keeps (before after : Service) : Prop where
  launched : after.launched = before.launched
  pending : after.pendingOutbound = before.pendingOutbound
  files : ∀ path, (before.files path).isSome = true → (after.files path).isSome = true

namespace Service.Keeps

variable {env : Env} {service middle after : Service}

theorem refl : service.Keeps service := ⟨rfl, rfl, fun _ present => present⟩

theorem trans (first : service.Keeps middle) (second : middle.Keeps after) :
    service.Keeps after where
  launched := second.launched.trans first.launched
  pending := second.pending.trans first.pending
  files path present := second.files path (first.files path present)

theorem hasSource (keeps : service.Keeps after) {captured : Captured}
    (present : service.hasSource captured = true) : after.hasSource captured = true := by
  cases captured with
  | text text html => rfl
  | binary file mime name size sha => exact keeps.files file present

theorem write (path : Path) (file : CachedFile) : service.Keeps (service.write path file) where
  launched := rfl
  pending := rfl
  files query present := by
    simp only [Service.write, Function.update_apply]
    split
    · rfl
    · exact present

theorem sendClip (event : Nat → ClipEvent) (accepted : Bool) :
    service.Keeps (service.sendClip event accepted).1 := by
  rw [Service.sendClip]
  split <;> exact ⟨rfl, rfl, fun _ present => present⟩

theorem stashThumb (file : Path) (mime blobId : String) (attempt : Attempt) :
    service.Keeps (service.stashThumb env file mime blobId attempt) := by
  rw [Service.stashThumb]
  split
  · split
    · exact .write _ _
    · exact .refl
  · exact .refl

theorem cacheSource (content : Bytes) : service.Keeps (service.cacheSource env content) := by
  rw [Service.cacheSource]
  split
  · exact .refl
  · exact .write _ _

theorem deriveKey : service.Keeps (service.deriveKey env) := by
  rw [Service.deriveKey]
  split
  · exact ⟨rfl, rfl, fun _ present => present⟩
  · exact .refl

theorem ensureKey : service.Keeps (service.ensureKey env) := by
  have checked : service.Keeps { service with keyChecked := true } :=
    ⟨rfl, rfl, fun _ present => present⟩
  rw [Service.ensureKey]
  split
  · exact .refl
  · exact checked.trans .deriveKey

theorem applyInboundFile (data : Bytes) (name : String) (pasted : Bool) :
    service.Keeps (service.applyInboundFile env data name pasted) := by
  rw [Service.applyInboundFile]
  split
  · exact .write _ _
  · exact .refl

theorem receiveBlob (event : ClipEvent) (blobId name : String) (fetched : Option Bytes)
    (written pasted : Bool) :
    service.Keeps (service.receiveBlob env event blobId name fetched written pasted) := by
  rw [Service.receiveBlob]
  split
  next => exact .ensureKey
  next data _ =>
    have cached : (service.ensureKey env).Keeps (if written
        then (service.ensureKey env).write (env.srcFile (hexOf blobId)) ⟨data, .preview⟩
        else service.ensureKey env) := by
      split
      · exact .write _ _
      · exact .refl
    dsimp only
    split
    · exact ensureKey.trans cached
    · exact (ensureKey.trans cached).trans (.applyInboundFile data name pasted)

theorem handleClip (event : ClipEvent) (fetched : Option Bytes) (written pasted : Bool) :
    service.Keeps (service.handleClip env event fetched written pasted) := by
  rw [Service.handleClip]
  split
  · exact .ensureKey
  · exact .refl
  · dsimp only
    split
    · split
      · exact .receiveBlob ..
      · exact .refl
    · split
      · exact .refl
      · exact .receiveBlob ..

theorem endFlush (thrown : Bool) : service.Keeps (service.endFlush thrown) := by
  rw [Service.endFlush]
  split
  · exact ⟨rfl, rfl, fun _ present => present⟩
  · exact .refl

theorem serveBlob (id : String) : service.Keeps (service.serveBlob env id) := by
  rw [Service.serveBlob]
  split
  · split
    · exact ⟨rfl, rfl, fun _ present => present⟩
    · exact .refl
  · exact .refl

theorem flushOutbound : service.Keeps service.flushOutbound := by
  rw [Service.flushOutbound]
  split
  · exact ⟨rfl, rfl, fun _ present => present⟩
  · exact .refl

/-- Frames of the server remove no file and no clip. -/
theorem handle (handler : Handler) : service.Keeps (handler.advance env service).1 := by
  obtain ⟨session, progress⟩ := handler
  cases progress with
  | received frame =>
      cases frame with
      | helloOk threshold =>
          have told : service.Keeps { service with threshold := threshold.getD 0 } :=
            ⟨rfl, rfl, fun _ present => present⟩
          exact told.trans .flushOutbound
      | blobRequest id =>
          rw [Handler.advance]
          dsimp only
          split <;> exact .refl
      | clip event fetched written pasted =>
          rw [Handler.advance]
          dsimp only
          split
          · exact .refl
          · split
            · exact .refl
            · exact ⟨rfl, rfl, fun _ present => present⟩
      | other => exact .refl
  | keying inbound => exact .deriveKey
  | keyed inbound => exact .handleClip ..
  | serving id => exact .serveBlob id

end Service.Keeps

/-- Deleting files changes no queue and no other file. -/
theorem Service.foldl_delete (service : Service) (paths : List Path) :
    (paths.foldl delete service).launched = service.launched ∧
      (paths.foldl delete service).pendingOutbound = service.pendingOutbound ∧
      ∀ path ∉ paths, (paths.foldl delete service).files path = service.files path := by
  induction paths generalizing service with
  | nil => exact ⟨rfl, rfl, fun _ _ => rfl⟩
  | cons deleted rest ih =>
      obtain ⟨launched, pending, files⟩ := ih (service.delete deleted)
      refine ⟨launched, pending, ?_⟩
      intro path other
      obtain ⟨different, others⟩ := List.ne_and_not_mem_of_not_mem_cons other
      rw [List.foldl_cons, files path others]
      exact Function.update_of_ne different none service.files

/-! ## What a coroutine does next -/

namespace Pass

/-- Whether the next step of a coroutine loses nothing: text or source can be read and
sealed, the blob channel is there for an upload, the socket takes a file's frame, a clip
is queued with its source on the disk, and no queued clip needs a source to be
deleted. -/
def careful (env : Env) (service : Service) (attempt : Attempt) (pass : Pass) : Bool :=
  match pass.stage with
  | .ready =>
      match pass.captured with
      | .text text html => (service.wireText env text html attempt).isSome
      | .binary .. => true
  | .preparing source key => (sealSource env service attempt source key).isSome
  | .uploading _ _ => service.blob
  | .sending _ _ => service.ws && attempt.accepted
  | .queueing => service.hasSource pass.captured
  | .clearing file => service.pendingOutbound.all fun captured => captured.source? != some file
  | _ => true

/-- A frame is sent for later requests or after an upload. -/
def Honest (pass : Pass) : Prop :=
  ∀ source offer, pass.stage = .sending source offer →
    offer.onDemand = true ∨ offer.uploaded = true

/-- The steps of a coroutine, by what becomes of its clip. -/
inductive Turn (env : Env) (service : Service) (attempt : Attempt) (pass : Pass) :
    Service × Option Pass × Note → Prop where
  | goes {after : Service} {stage : Stage} (keeps : service.Keeps after)
      (carries : carried { pass with stage } = pass.carried)
      (honest : careful env service attempt pass = true → Honest { pass with stage }) :
      Turn env service attempt pass (after, some { pass with stage }, .silent)
  | ends (carries : pass.carried = []) : Turn env service attempt pass (service, none, .silent)
  | delivers {after : Service} {next : Option Pass} {eager uploaded : Bool}
      (keeps : service.Keeps after) (carries : pass.carried = [pass.captured])
      (releases : next.elim [] carried = []) (closing : ∀ follower ∈ next, Honest follower)
      (backed : Honest pass → eager = true → uploaded = true) :
      Turn env service attempt pass (after, next, .delivered ⟨pass.captured, eager, uploaded⟩)
  | loses {after : Service} {next : Option Pass} {thrown : Bool} (keeps : service.Keeps after)
      (carries : pass.carried = [pass.captured]) (releases : next.elim [] carried = [])
      (careless : careful env service attempt pass = false) :
      Turn env service attempt pass (after, next, .lost pass.captured thrown)
  | queues (stage : pass.stage = .queueing) :
      Turn env service attempt pass
        ({ service with pendingOutbound := service.pendingOutbound ++ [pass.captured] },
          some { pass with stage := .trimming }, .silent)
  | drops {oldest : Captured} {rest : List Captured} (stage : pass.stage = .overflowing)
      (queue : service.pendingOutbound = oldest :: rest) :
      Turn env service attempt pass
        ({ service with pendingOutbound := rest }, some { pass with stage := .trimming },
          .dropped oldest)
  | clears {file : Path} (stage : pass.stage = .clearing file) :
      Turn env service attempt pass (service.delete file, none, .silent)

theorem turn_advance (env : Env) (service : Service) (attempt : Attempt) (pass : Pass) :
    Turn env service attempt pass (advance env service attempt pass) := by
  have plain : ∀ {stage : Stage}, (∀ source offer, stage ≠ .sending source offer) →
      Honest { pass with stage } := fun other source offer same => absurd same (other source offer)
  obtain ⟨captured, fromQueue, stage⟩ := pass
  cases stage with
  | started =>
      rw [advance]
      dsimp only
      split
      · exact .goes .refl rfl fun _ => plain (by simp)
      · exact .goes ⟨rfl, rfl, fun _ present => present⟩ rfl fun _ => plain (by simp)
  | keying => exact .goes .deriveKey rfl fun _ => plain (by simp)
  | ready =>
      rw [advance]
      cases captured with
      | text text html =>
          dsimp only
          split
          next wire =>
            exact .loses .refl rfl rfl (by simp [careful, wire])
          next wire _ =>
            have keeps := @Service.Keeps.sendClip service (textFrame attempt text wire)
              attempt.accepted
            split
            next after outcome =>
              rw [outcome] at keeps
              exact .delivers keeps rfl rfl (by simp) (by simp)
            next after outcome =>
              rw [outcome] at keeps
              exact .goes keeps rfl fun _ => plain (by simp)
      | binary file mime name size sha =>
          dsimp only
          split
          · exact .goes .refl rfl fun _ => plain (by simp)
          · exact .goes .refl rfl fun _ => plain (by simp)
  | preparing source key =>
      rw [advance]
      dsimp only
      split
      next unread => exact .loses .refl rfl rfl (by simp [careful, unread])
      next body _ => exact .goes (.stashThumb ..) rfl fun _ => plain (by simp)
  | branching source body =>
      rw [advance]
      dsimp only
      split
      · cases body with
        | some body => exact .goes .refl rfl fun _ => plain (by simp)
        | none => exact .goes .refl rfl fun _ _ _ same => by cases same; exact .inl rfl
      · exact .goes .refl rfl fun _ => plain (by simp)
  | holding source body =>
      have offers : Honest ⟨captured, fromQueue, .sending source ⟨some body, true, false⟩⟩ :=
        fun _ _ same => by cases same; exact .inl rfl
      rw [advance]
      dsimp only
      split
      · exact .goes (.write _ _) rfl fun _ => offers
      · exact .goes .refl rfl fun _ => offers
  | uploading source body =>
      rw [advance]
      dsimp only
      split
      next channel =>
        split
        · exact .goes .refl rfl fun _ => plain (by simp)
        next id bytes _ =>
          have keeps : service.Keeps (service.upload id bytes) :=
            ⟨rfl, rfl, fun _ present => present⟩
          split
          · exact .goes keeps rfl fun _ => plain (by simp)
          · exact .goes keeps rfl fun _ _ _ same => by cases same; exact .inr rfl
      next channel =>
        exact .goes .refl rfl fun safe => absurd safe channel
  | sending source offer =>
      rw [advance]
      have keeps := @Service.Keeps.sendClip service
        (fileFrame env service attempt source offer) attempt.accepted
      have releases : (if offer.onDemand && offer.body.isNone then none
          else Pass.moved ⟨captured, fromQueue, .sending source offer⟩
            (.clearing source.file)).elim [] carried = [] := by
        split <;> rfl
      dsimp only
      split
      next after outcome =>
        rw [outcome] at keeps
        refine .delivers keeps rfl releases ?_ ?_
        · intro follower next
          split at next <;> cases next
          exact plain (by simp)
        · intro honest eager
          exact (honest source offer rfl).resolve_left (by simpa using eager)
      next after outcome =>
        rw [outcome] at keeps
        refine .loses keeps rfl releases ?_
        rw [Service.sendClip] at outcome
        split at outcome
        next =>
          have refused : attempt.accepted = false := congrArg Prod.snd outcome
          simp [careful, refused]
        next closed => simp [careful, closed]
  | queueing => exact .queues rfl
  | trimming =>
      rw [advance]
      dsimp only
      split
      · exact .goes .refl rfl fun _ => plain (by simp)
      · exact .ends rfl
  | overflowing =>
      rw [advance]
      dsimp only
      split
      next oldest rest queue => exact .drops rfl queue
      next => exact .goes .refl rfl fun _ => plain (by simp)
  | clearing file => exact .clears rfl

end Pass

/-! ## Where the clips are -/

/-- The clip a note takes out of the coroutines and the queue. -/
def Note.released : Note → List Captured
  | .silent => []
  | .delivered delivery => [delivery.captured]
  | .dropped captured => [captured]
  | .lost captured _ => [captured]

theorem Pass.Turn.launched {env : Env} {service : Service} {attempt : Attempt} {pass : Pass}
    {result : Service × Option Pass × Note} (turn : Turn env service attempt pass result) :
    result.1.launched = service.launched := by
  cases turn with
  | goes keeps | delivers keeps | loses keeps => exact keeps.launched
  | ends | queues | drops | clears => rfl

/-- A step moves its clip between the coroutine, the queue and the books. -/
theorem Pass.Turn.balance {env : Env} {service : Service} {attempt : Attempt} {pass : Pass}
    {result : Service × Option Pass × Note} (turn : Turn env service attempt pass result)
    (query : Captured) :
    pass.carried.count query + service.pendingOutbound.count query =
      (result.2.1.elim [] carried).count query + result.1.pendingOutbound.count query +
        result.2.2.released.count query := by
  cases turn with
  | goes keeps carries =>
      rw [keeps.pending, Option.elim_some, carries]
      rfl
  | ends carries => simp [carries, Note.released]
  | delivers keeps carries releases =>
      rw [keeps.pending, carries, releases]
      simp [Note.released, Nat.add_comm]
  | loses keeps carries releases =>
      rw [keeps.pending, carries, releases]
      simp [Note.released, Nat.add_comm]
  | queues stage =>
      have carries : pass.carried = [pass.captured] := by rw [carried, stage]
      have released : carried { pass with stage := .trimming } = [] := rfl
      simp [carries, released, Note.released, List.count_append, Nat.add_comm]
  | drops stage queue =>
      have carries : pass.carried = [] := by rw [carried, stage]
      have released : carried { pass with stage := .trimming } = [] := rfl
      simp only [carries, queue, released, Note.released, Option.elim_some, List.count_nil,
        List.count_cons]
      omega
  | clears stage =>
      have carries : pass.carried = [] := by rw [carried, stage]
      simp [carries, Service.delete, Note.released]

/-- A note that loses nothing: what was sent eagerly was uploaded. -/
def Note.Kept : Note → Prop
  | .delivered delivery => delivery.eager = true → delivery.uploaded = true
  | .lost .. => False
  | _ => True

section Safe

variable {env : Env} {service : Service} {attempt : Attempt} {pass : Pass}
variable {result : Service × Option Pass × Note}

/-- A careful step loses nothing. -/
theorem Pass.Turn.kept (turn : Turn env service attempt pass result)
    (safe : pass.careful env service attempt = true) (honest : pass.Honest) :
    result.2.2.Kept := by
  cases turn with
  | goes | ends | queues | drops | clears => trivial
  | delivers keeps carries releases closing backed => exact backed honest
  | loses keeps carries releases careless => exact absurd safe (by simp [careless])

theorem Pass.Turn.honest (turn : Turn env service attempt pass result)
    (safe : pass.careful env service attempt = true) : ∀ next ∈ result.2.1, next.Honest := by
  intro next membership
  cases turn with
  | goes keeps carries honest =>
      cases membership
      exact honest safe
  | ends | clears => cases membership
  | delivers keeps carries releases closing backed => exact closing next membership
  | loses keeps carries releases careless => exact absurd safe (by simp [careless])
  | queues | drops =>
      cases membership
      intro source offer same
      cases same

/-- A careful step queues a clip with its source, and deletes no source that is needed. -/
theorem Pass.Turn.sourced (turn : Turn env service attempt pass result)
    (safe : pass.careful env service attempt = true)
    (sourced : ∀ captured ∈ service.pendingOutbound, service.hasSource captured = true) :
    ∀ captured ∈ result.1.pendingOutbound, result.1.hasSource captured = true := by
  intro captured membership
  cases turn with
  | goes keeps | delivers keeps | loses keeps =>
      rw [keeps.pending] at membership
      exact keeps.hasSource (sourced captured membership)
  | ends => exact sourced captured membership
  | queues stage =>
      rcases List.mem_append.mp membership with old | new
      · exact sourced captured old
      · cases List.mem_singleton.mp new
        have present : service.hasSource pass.captured = true := by
          simpa only [careful, stage] using safe
        exact present
  | drops stage queue =>
      exact sourced captured (queue ▸ List.mem_cons_of_mem _ membership)
  | @clears file stage =>
      have needed : captured.source? ≠ some file := by
        simp only [careful, stage] at safe
        simpa using List.all_eq_true.mp safe captured membership
      have present := sourced captured membership
      cases captured with
      | text text html => rfl
      | binary source mime name size sha =>
          have other : source ≠ file := fun same => needed (congrArg some same)
          simpa [Service.hasSource, Captured.source?, Service.delete, Function.update_apply, other]
            using present

end Safe

namespace Outbox

/-- Every admitted clip is in one place, as often as it was admitted: its coroutine has not
begun, holds it, or has handed it to the queue, to the socket, to the cap, or it is
lost. -/
def Conserved (outbox : Outbox) : Prop :=
  ∀ captured, outbox.admitted.count captured =
    outbox.service.launched.count captured +
      (outbox.passes.flatMap Pass.carried).count captured +
      outbox.service.pendingOutbound.count captured +
      (outbox.delivered.map (·.captured)).count captured +
      outbox.dropped.count captured + outbox.lost.count captured

/-- No clip that passed the filter is lost: each is being processed, or its frame was
accepted, after the upload of its bytes if it is sent eagerly, or it is queued with its
source on the disk, or the cap dropped it. -/
structure Accounted (outbox : Outbox) : Prop where
  placed : ∀ captured, outbox.admitted.count captured =
    outbox.service.launched.count captured +
      (outbox.passes.flatMap Pass.carried).count captured +
      outbox.service.pendingOutbound.count captured +
      (outbox.delivered.map (·.captured)).count captured + outbox.dropped.count captured
  uploaded : ∀ delivery ∈ outbox.delivered, delivery.eager = true → delivery.uploaded = true
  sourced : ∀ captured ∈ outbox.service.pendingOutbound,
    outbox.service.hasSource captured = true

/-- Whether a step loses nothing: the step of a coroutine is careful, and the source cache
is not pruned of what a queued clip needs. -/
def careful (env : Env) (outbox : Outbox) : Event → Bool
  | .advance index attempt =>
      outbox.passes[index]?.all fun pass => pass.careful env outbox.service attempt
  | .captureUri content _ _ listing _ =>
      let cached := outbox.service.cacheSource env content
      cached.pendingOutbound.all fun captured => captured.source?.all fun file =>
        file ∉ prunedFiles cached (cached.cachedBytes listing) listing
  | _ => true

/-- What holds while nothing was lost. -/
structure Sound (outbox : Outbox) : Prop where
  conserved : outbox.Conserved
  lossless : outbox.lost = []
  uploaded : ∀ delivery ∈ outbox.delivered, delivery.eager = true → delivery.uploaded = true
  honest : ∀ pass ∈ outbox.passes, pass.Honest
  sourced : ∀ captured ∈ outbox.service.pendingOutbound,
    outbox.service.hasSource captured = true

namespace Sound

variable {env : Env} {outbox after : Outbox}

theorem accounted (inv : Sound outbox) : outbox.Accounted where
  placed captured := by
    have balance := inv.conserved captured
    rwa [inv.lossless, List.count_nil, Nat.add_zero] at balance
  uploaded := inv.uploaded
  sourced := inv.sourced

theorem start (service : Service) (launched : service.launched = [])
    (pending : service.pendingOutbound = []) : Sound (Outbox.start service) where
  conserved captured := by simp [Outbox.start, launched, pending]
  lossless := rfl
  uploaded _ membership := by cases membership
  honest _ membership := by cases membership
  sourced captured membership := by simp [Outbox.start, pending] at membership

/-- The service may change as long as the queues and the files stay. -/
theorem keeps (inv : Sound outbox) {service : Service} (kept : outbox.service.Keeps service) :
    Sound { outbox with service } where
  conserved captured := by
    have balance := inv.conserved captured
    simpa only [kept.launched, kept.pending] using balance
  lossless := inv.lossless
  uploaded := inv.uploaded
  honest := inv.honest
  sourced captured membership := by
    rw [kept.pending] at membership
    exact kept.hasSource (inv.sourced captured membership)

/-- No clip depends on the frames that are being handled. -/
theorem attends (inv : Sound outbox) (session : Nat) (handlers : List Handler) :
    Sound { outbox with session, handlers } :=
  ⟨inv.conserved, inv.lossless, inv.uploaded, inv.honest, inv.sourced⟩

/-- An admitted clip gets a coroutine. -/
theorem onCaptured (inv : Sound outbox) (captured : Captured) (exclude : Bool) :
    Sound (outbox.onCaptured env captured exclude) := by
  have admitted : Sound { outbox with
      service := { outbox.service with launched := outbox.service.launched ++ [captured] }
      admitted := outbox.admitted ++ [captured] } := by
    constructor
    · intro query
      have balance := inv.conserved query
      simp only [List.count_append]
      omega
    · exact inv.lossless
    · exact inv.uploaded
    · exact inv.honest
    · exact inv.sourced
  unfold Outbox.onCaptured
  cases captured with
  | text text html =>
      dsimp only
      split
      · exact inv
      · exact admitted
  | binary file mime name size sha => exact admitted

theorem launch (inv : Sound outbox) {index : Nat} {captured : Captured}
    (found : outbox.service.launched[index]? = some captured) :
    Sound { outbox with
      service := { outbox.service with launched := outbox.service.launched.eraseIdx index }
      passes := outbox.passes ++ [⟨captured, false, .started⟩] } where
  conserved query := by
    have balance := inv.conserved query
    have taken := count_held_eraseIdx (fun captured => [captured]) found query
    have fresh : Pass.carried ⟨captured, false, .started⟩ = [captured] := rfl
    simp only [List.flatMap_singleton'] at taken
    simp only [List.flatMap_append, List.count_append, List.flatMap_singleton, fresh]
    omega
  lossless := inv.lossless
  uploaded := inv.uploaded
  honest := List.forall_mem_append.mpr ⟨inv.honest, by simp [Pass.Honest]⟩
  sourced := inv.sourced

/-- The drain takes the first queued clip. -/
theorem flushNext (inv : Sound outbox) {captured : Captured} {rest : List Captured}
    (queue : outbox.service.pendingOutbound = captured :: rest) (flush : Flush) :
    Sound { outbox with
      service := { outbox.service with pendingOutbound := rest, flush }
      passes := outbox.passes ++ [⟨captured, true, .started⟩] } where
  conserved query := by
    have balance := inv.conserved query
    have fresh : Pass.carried ⟨captured, true, .started⟩ = [captured] := rfl
    simp only [queue, List.count_cons] at balance
    simp only [List.flatMap_append, List.count_append, List.flatMap_singleton, fresh,
      List.count_cons, List.count_nil]
    omega
  lossless := inv.lossless
  uploaded := inv.uploaded
  honest := List.forall_mem_append.mpr ⟨inv.honest, by simp [Pass.Honest]⟩
  sourced query membership :=
    inv.sourced query (queue ▸ List.mem_cons_of_mem _ membership)

/-- A step of a coroutine changes the books as its note says, for every clip. -/
theorem conserved_advance {index : Nat} {pass : Pass} {attempt : Attempt}
    (conserved : outbox.Conserved) (found : outbox.passes[index]? = some pass) :
    (outbox.advance env index pass attempt).Conserved := by
  intro query
  have turn := pass.turn_advance env outbox.service attempt
  have before := conserved query
  have launched := turn.launched
  have balance := turn.balance query
  unfold Outbox.advance
  generalize Pass.advance env outbox.service attempt pass = result at launched balance ⊢
  obtain ⟨service, next, note⟩ := result
  dsimp only at launched balance ⊢
  have kept := @Service.Keeps.endFlush service (note.thrown && pass.fromQueue)
  generalize service.endFlush _ = settled at kept ⊢
  have passes : ((next.elim (outbox.passes.eraseIdx index) (outbox.passes.set index)).flatMap
        Pass.carried).count query + pass.carried.count query =
      (outbox.passes.flatMap Pass.carried).count query +
        (next.elim [] Pass.carried).count query := by
    cases next with
    | some next => exact count_held_set Pass.carried found next query
    | none => simpa using count_held_eraseIdx Pass.carried found query
  cases note <;>
    simp only [record, Note.released, kept.launched, kept.pending, launched, List.count_nil,
      List.map_append, List.map_cons, List.map_nil, List.count_append] at balance ⊢ <;>
    omega

/-- A careful step of a coroutine keeps the invariant. -/
theorem advance (inv : Sound outbox) {index : Nat} {pass : Pass} {attempt : Attempt}
    (found : outbox.passes[index]? = some pass)
    (safe : pass.careful env outbox.service attempt = true) :
    Sound (outbox.advance env index pass attempt) := by
  have conserved := @conserved_advance env outbox _ _ attempt inv.conserved found
  have turn := pass.turn_advance env outbox.service attempt
  have kept := turn.kept safe (inv.honest pass (List.mem_of_getElem? found))
  have honest := turn.honest safe
  have sourced := turn.sourced safe inv.sourced
  unfold Outbox.advance at conserved ⊢
  generalize Pass.advance env outbox.service attempt pass = result
    at conserved kept honest sourced ⊢
  obtain ⟨service, next, note⟩ := result
  dsimp only at conserved kept honest sourced ⊢
  have settles := @Service.Keeps.endFlush service (note.thrown && pass.fromQueue)
  generalize service.endFlush _ = settled at settles conserved ⊢
  have passes : ∀ other ∈ next.elim (outbox.passes.eraseIdx index) (outbox.passes.set index),
      other.Honest := by
    intro other membership
    cases next with
    | none => exact inv.honest other (List.mem_of_mem_eraseIdx membership)
    | some next =>
        rcases List.mem_or_eq_of_mem_set membership with old | rfl
        · exact inv.honest other old
        · exact honest other rfl
  have queued : ∀ captured ∈ settled.pendingOutbound, settled.hasSource captured = true := by
    intro captured membership
    rw [settles.pending] at membership
    exact settles.hasSource (sourced captured membership)
  cases note with
  | silent | dropped => exact ⟨conserved, inv.lossless, inv.uploaded, passes, queued⟩
  | delivered delivery =>
      refine ⟨conserved, inv.lossless, ?_, passes, queued⟩
      refine List.forall_mem_append.mpr ⟨inv.uploaded, ?_⟩
      intro sent membership
      cases List.mem_singleton.mp membership
      exact kept
  | lost => exact absurd kept id

/-- The source cache may be pruned of what no queued clip needs. -/
theorem prune (inv : Sound outbox) (listing : List Path)
    (safe : outbox.service.pendingOutbound.all (fun captured => captured.source?.all fun file =>
      file ∉ prunedFiles outbox.service (outbox.service.cachedBytes listing) listing) = true) :
    Sound { outbox with service := outbox.service.pruneCache listing } := by
  obtain ⟨launched, pending, files⟩ := outbox.service.foldl_delete
    (prunedFiles outbox.service (outbox.service.cachedBytes listing) listing)
  constructor
  · intro query
    have balance := inv.conserved query
    simpa only [Service.pruneCache, launched, pending] using balance
  · exact inv.lossless
  · exact inv.uploaded
  · exact inv.honest
  · intro captured membership
    simp only [Service.pruneCache, pending] at membership
    have present := inv.sourced captured membership
    have spared := List.all_eq_true.mp safe captured membership
    cases captured with
    | text text html => rfl
    | binary file mime name size sha =>
        simp only [Captured.source?, Option.all_some, decide_eq_true_eq] at spared
        simpa only [Service.hasSource, Service.pruneCache, Captured.source?, Option.all_some,
          files file spared] using present

theorem step (inv : Sound outbox) {event : Event} (safe : outbox.careful env event = true)
    (stepped : outbox.step env event = some after) : Sound after := by
  cases event with
  | captureText text html exclude suppressed =>
      rw [Outbox.step] at stepped
      split at stepped
      · cases stepped
      · split at stepped <;> cases stepped
        · exact inv
        · exact inv.onCaptured _ exclude
  | captureUri content mime name listing suppressed =>
      have kept : outbox.service.Keeps (outbox.service.cacheSource env content) :=
        .cacheSource content
      have cached := (inv.keeps kept).prune listing safe
      rw [Outbox.step] at stepped
      split at stepped
      · cases stepped
      · dsimp only at stepped
        split at stepped <;> cases stepped
        · exact cached
        · exact cached.onCaptured _ false
  | cacheShared content =>
      rw [Outbox.step] at stepped
      split at stepped <;> cases stepped
      exact inv.keeps (.cacheSource content)
  | share sha name mime size =>
      obtain ⟨-, rfl⟩ := Option.ite_some_none_eq_some.mp stepped
      exact inv.onCaptured _ false
  | launch index =>
      obtain ⟨captured, found, rfl⟩ := Option.map_eq_some_iff.mp stepped
      exact inv.launch found
  | advance index attempt =>
      obtain ⟨pass, found, rfl⟩ := Option.map_eq_some_iff.mp stepped
      rw [careful, found] at safe
      exact inv.advance found safe
  | flushBegin =>
      obtain ⟨-, rfl⟩ := Option.ite_some_none_eq_some.mp stepped
      exact inv.keeps ⟨rfl, rfl, fun _ present => present⟩
  | flushNext =>
      have idle : Sound { outbox with service := { outbox.service with flush := .idle } } :=
        inv.keeps ⟨rfl, rfl, fun _ present => present⟩
      rw [Outbox.step] at stepped
      split at stepped
      · cases stepped
      · split at stepped
        · split at stepped <;> cases stepped
          next queue _ => exact inv.flushNext queue _
          next => exact idle
        · cases stepped
  | openSession | setConnected connected =>
      cases stepped
      exact inv.keeps ⟨rfl, rfl, fun _ present => present⟩
  | closeSession =>
      have closed : outbox.service.Keeps
          { outbox.service with blob := false, connected := false } :=
        ⟨rfl, rfl, fun _ present => present⟩
      cases stepped
      exact (inv.keeps closed).attends _ _
  | frame frame =>
      rw [Outbox.step] at stepped
      split at stepped <;> cases stepped
      exact inv.attends _ _
  | handle index =>
      obtain ⟨handler, found, rfl⟩ := Option.map_eq_some_iff.mp stepped
      exact (inv.keeps (.handle handler)).attends _ _
  | cancel index =>
      obtain ⟨handler, found, stepped⟩ := Option.bind_eq_some_iff.mp stepped
      obtain ⟨-, rfl⟩ := Option.ite_some_none_eq_some.mp stepped
      exact inv.attends _ _

end Sound

/-- No clip that passed the sensitivity filter is lost in a run whose steps are all
careful. -/
theorem accounted_of_careful {env : Env} {disk : Path → Option Bytes} {outbox : Outbox}
    (run : Run (step env) (fun before event => before.careful env event = true)
      (.start (.start disk)) outbox) : outbox.Accounted := by
  have sound : Sound outbox :=
    run.invariant (.start _ rfl rfl) fun inv safe stepped => inv.step safe stepped
  exact sound.accounted

/-! ### A small file -/

/-- A service without end-to-end encryption. -/
def plainEnv : Env where
  prims := Reference.prims
  e2ePass := none
  serverId := none
  cacheDir := ⟨true, [bytesOf "cache"]⟩
  classify _ := false

def plainAttempt (accepted : Bool) : Attempt where
  id := "c"
  nonce := Reference.file.nonce
  htmlNonce := Reference.file.nonce
  targets := .all
  accepted
  transfer := .done
  videoFrame := none
  stashed := false
  written := false

def plainFile : Captured :=
  .binary (plainEnv.srcFile (bytesOf Reference.file.plainDigest)) "application/pdf" "a.pdf" 3
    Reference.file.plainDigest

/-- The file is copied in a session and its coroutine runs up to the upload. -/
def untilUpload : List Event :=
  [.openSession, .setConnected true,
    .captureUri Reference.file.plain "application/pdf" "a.pdf" [] false, .launch 0] ++
    List.replicate 5 (.advance 0 (plainAttempt true))

/-- In a session that lasts, the file is uploaded and sent. -/
theorem plain_file_accounted :
    ∃ outbox, Run (step plainEnv) (fun before event => before.careful plainEnv event = true)
        (.start (.start fun _ => none)) outbox ∧
      outbox.delivered = [⟨plainFile, true, true⟩] ∧ outbox.Accounted := by
  obtain ⟨outbox, run, delivered⟩ := Run.exists_of_execWhen (step plainEnv)
    (fun before event => before.careful plainEnv event) (.start (.start fun _ => none))
    (untilUpload ++ List.replicate 3 (.advance 0 (plainAttempt true)))
    (fun outbox => decide (outbox.delivered = [⟨plainFile, true, true⟩])) (by decide +kernel)
  exact ⟨outbox, run, of_decide_eq_true delivered, accounted_of_careful run⟩

/-- The session ends before the upload: the upload is skipped, the frame is refused, and the
file is neither sent nor queued. -/
theorem plain_file_lost :
    ¬ ∀ (env : Env) (disk : Path → Option Bytes) (outbox : Outbox),
      Reachable (step env) (.start (.start disk)) outbox → outbox.Accounted := by
  intro claim
  obtain ⟨outbox, reached, gone⟩ := Reachable.exists_of_exec (step plainEnv)
    (.start (.start fun _ => none))
    (untilUpload ++ .closeSession :: List.replicate 3 (.advance 0 (plainAttempt false)))
    (fun outbox => decide (outbox.admitted = [plainFile] ∧ outbox.service.launched = [] ∧
      outbox.passes = [] ∧ outbox.service.pendingOutbound = [] ∧ outbox.delivered = [] ∧
      outbox.dropped = [])) (by decide +kernel)
  obtain ⟨admitted, launched, passes, pending, delivered, dropped⟩ := of_decide_eq_true gone
  have placed := (claim plainEnv _ outbox reached).placed plainFile
  rw [admitted, launched, passes, pending, delivered, dropped] at placed
  exact absurd placed (by decide +kernel)

end Outbox

end CopySync.Android
