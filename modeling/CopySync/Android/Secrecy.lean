import CopySync.Android.Outbound

/-!
# What the Android blob channel lets out

With a passphrase stored, `sendCaptured` uploads ciphertext, unless it takes up a file while
another coroutine is deriving the key: the key counts as checked by then, and a file without
a key is uploaded as it is.  A `BLOB_REQUEST` is answered with whatever file its id names in
`clip-src` or, through `..`, anywhere in the sandbox: captured sources and the decrypted
previews of received clips included.

Uploads stay sealed exactly as long as no file is taken up before the key is there and
requests name the holds this device wrote for its own advertisements.
-/

namespace CopySync.Android

open Foundation Client

/-! ## When nothing leaves in the clear -/

/-- The key counts as checked and is not there. -/
def Service.keyPending (service : Service) : Bool := service.keyChecked && service.key.isNone

/-- Whether a coroutine that takes up a file for the blob channel finds the key. -/
def Pass.findsKey (service : Service) (pass : Pass) : Bool :=
  match pass.stage, pass.captured with
  | .ready, .binary .. => !(service.blob && service.ws && service.keyPending)
  | _, _ => true

/-- A request names a hold, or nothing. -/
def Handler.asksHold (env : Env) (service : Service) (handler : Handler) : Bool :=
  match handler.progress with
  | .serving id => (service.heldFile env id).all fun file => file.provenance == .hold
  | _ => true

/-- No step takes up a file before the key is there or serves what is no hold. -/
def Outbox.discreet (env : Env) (outbox : Outbox) : Occurrence → Bool
  | .event (.advance index _) =>
      outbox.passes[index]?.all fun pass => pass.findsKey outbox.service
  | .event (.handle index) =>
      outbox.handlers[index]?.all fun handler => handler.asksHold env outbox.service
  | _ => true

/-- The key is the one of the passphrase, holds are ciphertext, and so is everything
uploaded so far. -/
structure Guarded (env : Env) (key : Bytes) (service : Service) : Prop where
  keyed : ∀ found ∈ service.key, found = key
  holds : ∀ path file, service.files path = some file → file.provenance = .hold →
    E2e.IsSealed env.prims key file.content
  uploads : ∀ upload ∈ service.uploads, E2e.IsSealed env.prims key upload.body

/-- What a coroutine holds: nothing before the key is checked, then the key, then the
ciphertext. -/
def Stage.Secret (env : Env) (key : Bytes) (checked : Bool) : Stage → Prop
  | .keying | .ready => checked = true
  | .preparing _ found => found = some key
  | .branching _ body | .uploading _ body =>
      ∃ bytes, body = some bytes ∧ E2e.IsSealed env.prims key bytes
  | .holding _ body => E2e.IsSealed env.prims key body
  | _ => True

variable {env : Env} {key : Bytes} {service after : Service}

/-! ## Single effects -/

/-- A step keeps the invariant, and a checked key stays checked. -/
structure Guarded.Keeps (env : Env) (key : Bytes) (service after : Service) : Prop where
  guarded : Guarded env key service → Guarded env key after
  checked : service.keyChecked = true → after.keyChecked = true

namespace Guarded.Keeps

variable {middle : Service}

theorem refl : Guarded.Keeps env key service service := ⟨id, id⟩

theorem trans (first : Guarded.Keeps env key service middle)
    (second : Guarded.Keeps env key middle after) : Guarded.Keeps env key service after where
  guarded inv := second.guarded (first.guarded inv)
  checked known := second.checked (first.checked known)

/-- Queues, the session and the frames sent do not matter. -/
theorem of_eq (sameKey : after.key = service.key) (sameFiles : after.files = service.files)
    (sameUploads : after.uploads = service.uploads)
    (checked : service.keyChecked = true → after.keyChecked = true) :
    Guarded.Keeps env key service after where
  guarded inv :=
    ⟨sameKey ▸ inv.keyed, sameFiles ▸ inv.holds, sameUploads ▸ inv.uploads⟩
  checked := checked

theorem write (path : Path) {file : CachedFile}
    (safe : file.provenance = .hold → E2e.IsSealed env.prims key file.content) :
    Guarded.Keeps env key service (service.write path file) where
  guarded inv := by
    constructor
    · exact inv.keyed
    · intro query found present
      simp only [Service.write, Function.update_apply] at present
      split at present
      · cases present
        exact safe
      · exact inv.holds query found present
    · exact inv.uploads
  checked := id

theorem delete (path : Path) : Guarded.Keeps env key service (service.delete path) where
  guarded inv := by
    constructor
    · exact inv.keyed
    · intro query found present
      simp only [Service.delete, Function.update_apply] at present
      split at present
      · cases present
      · exact inv.holds query found present
    · exact inv.uploads
  checked := id

theorem foldl_delete (paths : List Path) :
    Guarded.Keeps env key service (paths.foldl Service.delete service) := by
  induction paths generalizing service with
  | nil => exact .refl
  | cons path rest ih => exact Guarded.Keeps.trans (.delete path) ih

theorem upload (id : String) {body : Bytes} (isSealed : E2e.IsSealed env.prims key body) :
    Guarded.Keeps env key service (service.upload id body) where
  guarded inv :=
    ⟨inv.keyed, inv.holds, List.forall_mem_append.mpr
      ⟨inv.uploads, List.forall_mem_singleton.mpr isSealed⟩⟩
  checked known := known

theorem sendClip (event : Nat → ClipEvent) (accepted : Bool) :
    Guarded.Keeps env key service (service.sendClip event accepted).1 := by
  rw [Service.sendClip]
  split
  · exact .of_eq rfl rfl rfl id
  · exact .refl

theorem cacheSource (content : Bytes) :
    Guarded.Keeps env key service (service.cacheSource env content) := by
  rw [Service.cacheSource]
  split
  · exact .refl
  · exact .write _ nofun

theorem applyInboundFile (data : Bytes) (name : String) (pasted : Bool) :
    Guarded.Keeps env key service (service.applyInboundFile env data name pasted) := by
  rw [Service.applyInboundFile]
  split
  · exact .write _ nofun
  · exact .refl

theorem stashThumb (file : Path) (mime blobId : String) (attempt : Attempt) :
    Guarded.Keeps env key service (service.stashThumb env file mime blobId attempt) := by
  rw [Service.stashThumb]
  split
  · split
    · exact .write _ nofun
    · exact .refl
  · exact .refl

theorem flushOutbound : Guarded.Keeps env key service service.flushOutbound := by
  rw [Service.flushOutbound]
  split
  · exact .of_eq rfl rfl rfl id
  · exact .refl

theorem endFlush (thrown : Bool) : Guarded.Keeps env key service (service.endFlush thrown) := by
  rw [Service.endFlush]
  split
  · exact .of_eq rfl rfl rfl id
  · exact .refl

section Configured

variable (configured : env.e2eKey = some key)
include configured

theorem deriveKey : Guarded.Keeps env key service (service.deriveKey env) := by
  rw [Service.deriveKey, configured]
  constructor
  · intro inv
    exact ⟨fun found same => (Option.some.inj same).symm, inv.holds, inv.uploads⟩
  · exact id

theorem ensureKey : Guarded.Keeps env key service (service.ensureKey env) := by
  have checked : Guarded.Keeps env key service { service with keyChecked := true } :=
    .of_eq rfl rfl rfl fun _ => rfl
  rw [Service.ensureKey]
  split
  · exact .refl
  · exact checked.trans (.deriveKey configured)

theorem receiveBlob (event : ClipEvent) (blobId name : String) (fetched : Option Bytes)
    (written pasted : Bool) : Guarded.Keeps env key service
      (service.receiveBlob env event blobId name fetched written pasted) := by
  have keyed : Guarded.Keeps env key service (service.ensureKey env) := .ensureKey configured
  rw [Service.receiveBlob]
  split
  next => exact keyed
  next data _ =>
    have cached : Guarded.Keeps env key service (if written
        then (service.ensureKey env).write (env.srcFile (hexOf blobId)) ⟨data, .preview⟩
        else service.ensureKey env) := by
      split
      · exact keyed.trans (.write _ nofun)
      · exact keyed
    dsimp only
    split
    · exact cached
    · exact cached.trans (.applyInboundFile data name pasted)

theorem handleClip (event : ClipEvent) (fetched : Option Bytes) (written pasted : Bool) :
    Guarded.Keeps env key service (service.handleClip env event fetched written pasted) := by
  rw [Service.handleClip]
  split
  · exact .ensureKey configured
  · exact .refl
  · dsimp only
    split
    · split
      · exact .receiveBlob configured ..
      · exact .refl
    · split
      · exact .refl
      · exact .receiveBlob configured ..

end Configured

end Guarded.Keeps

namespace Guarded

theorem start (disk : Path → Option Bytes) : Guarded env key (.start disk) where
  keyed _ found := by cases found
  holds path file present isHold := by
    obtain ⟨content, _, rfl⟩ := Option.map_eq_some_iff.mp present
    cases isHold
  uploads _ membership := by cases membership

theorem restart (inv : Guarded env key service) : Guarded env key service.restart where
  keyed _ found := by cases found
  holds := inv.holds
  uploads := inv.uploads

/-- A request that names a hold is answered with ciphertext. -/
theorem serveBlob (inv : Guarded env key service) {id : String}
    (hold : (service.heldFile env id).all (fun file => file.provenance == .hold) = true) :
    Guarded.Keeps env key service (service.serveBlob env id) := by
  rw [Service.serveBlob]
  split
  next file found =>
    rw [found, Option.all_some, beq_iff_eq] at hold
    split
    · exact .upload id (inv.holds _ file found hold)
    · exact .refl
  next => exact .refl

/-! ## Frames -/

/-- A frame keeps the invariant, unless it asks for what is no hold. -/
theorem handle (inv : Guarded env key service) (configured : env.e2eKey = some key)
    {handler : Handler} (asks : handler.asksHold env service = true) :
    Guarded.Keeps env key service (handler.advance env service).1 := by
  obtain ⟨session, progress⟩ := handler
  cases progress with
  | received frame =>
      cases frame with
      | helloOk threshold =>
          have told : Guarded.Keeps env key service
              { service with threshold := threshold.getD 0 } := .of_eq rfl rfl rfl id
          exact told.trans .flushOutbound
      | blobRequest id =>
          rw [Handler.advance]
          dsimp only
          split <;> exact .refl
      | clip event fetched written pasted =>
          rw [Handler.advance]
          dsimp only
          split
          · exact .refl
          · split
            · exact .refl
            · exact .of_eq rfl rfl rfl fun _ => rfl
      | other => exact .refl
  | keying inbound => exact .deriveKey configured
  | keyed inbound => exact .handleClip configured ..
  | serving id => exact inv.serveBlob asks

end Guarded

/-! ## Coroutines -/

theorem Stage.Secret.mono {checked later : Bool} {stage : Stage}
    (secret : stage.Secret env key checked) (stays : checked = true → later = true) :
    stage.Secret env key later := by
  cases stage with
  | keying | ready => exact stays secret
  | started | sending | queueing | trimming | overflowing | clearing => trivial
  | preparing | branching | holding | uploading => exact secret

/-- A step of a coroutine keeps the invariant, and the coroutine holds what it may. -/
structure Pass.Safe (env : Env) (key : Bytes) (service : Service)
    (result : Service × Option Pass × Note) : Prop where
  keeps : Guarded.Keeps env key service result.1
  secret : ∀ next ∈ result.2.1, next.stage.Secret env key result.1.keyChecked

namespace Pass

variable {pass : Pass} {note : Note}

theorem Safe.moves (keeps : Guarded.Keeps env key service after) {stage : Stage}
    (secret : stage.Secret env key after.keyChecked) :
    Safe env key service (after, pass.moved stage, note) where
  keeps := keeps
  secret next moved := by
    cases moved
    exact secret

theorem Safe.ends (keeps : Guarded.Keeps env key service after) :
    Safe env key service (after, none, note) where
  keeps := keeps
  secret _ ended := by cases ended

/-- What is sealed under the key is ciphertext. -/
theorem isSealed_of_sealSource {attempt : Attempt} {source : Source} {body : Option Bytes}
    (sealed : sealSource env service attempt source (some key) = some body) :
    ∃ bytes, body = some bytes ∧ E2e.IsSealed env.prims key bytes := by
  obtain ⟨bytes, produced, rfl⟩ := Option.map_eq_some_iff.mp sealed
  obtain ⟨file, _, produced⟩ := Option.bind_eq_some_iff.mp produced
  exact ⟨bytes, rfl, .of_sealPayload produced⟩

/-- A coroutine that found the key goes on with it. -/
theorem safe_ready (inv : Guarded env key service) (attempt : Attempt) {captured : Captured}
    {fromQueue : Bool} (known : service.keyChecked = true)
    (finds : findsKey service ⟨captured, fromQueue, .ready⟩ = true) :
    Safe env key service (advance env service attempt ⟨captured, fromQueue, .ready⟩) := by
  cases captured with
  | text text html =>
      rw [advance]
      dsimp only
      split
      next => exact .ends .refl
      next wire _ =>
        have keeps := @Guarded.Keeps.sendClip env key service (textFrame attempt text wire)
          attempt.accepted
        split
        next after outcome =>
          rw [outcome] at keeps
          exact .ends keeps
        next after outcome =>
          rw [outcome] at keeps
          exact .moves keeps trivial
  | binary file mime name size sha =>
      rw [advance]
      dsimp only
      split
      next channel =>
        have found : service.key.isSome = true := by
          simpa [findsKey, Service.keyPending, Bool.and_eq_true_iff.mp channel, known] using finds
        obtain ⟨found, there⟩ := Option.isSome_iff_exists.mp found
        refine .moves .refl ?_
        rw [Stage.Secret, there, inv.keyed found there]
      next => exact .moves .refl trivial

/-- The frame of a file goes out or not, and its source is cleared or kept. -/
theorem safe_sending (attempt : Attempt) {captured : Captured} {fromQueue : Bool} {source : Source}
    {offer : Offer} : Safe env key service
      (advance env service attempt ⟨captured, fromQueue, .sending source offer⟩) := by
  have keeps := @Guarded.Keeps.sendClip env key service
    (fileFrame env service attempt source offer) attempt.accepted
  have clears (settled : Service) (note : Note) (kept : Guarded.Keeps env key service settled) :
      Safe env key service (settled, (if offer.onDemand && offer.body.isNone then none
        else moved ⟨captured, fromQueue, .sending source offer⟩ (.clearing source.file)),
        note) := by
    split
    · exact .ends kept
    · exact .moves kept trivial
  rw [advance]
  dsimp only
  split
  next after outcome =>
    rw [outcome] at keeps
    exact clears _ _ keeps
  next after outcome =>
    rw [outcome] at keeps
    exact clears _ _ keeps

/-- A coroutine uploads nothing but ciphertext. -/
theorem safe_advance (configured : env.e2eKey = some key) (inv : Guarded env key service)
    (attempt : Attempt) (secret : pass.stage.Secret env key service.keyChecked)
    (finds : pass.findsKey service = true) :
    Safe env key service (advance env service attempt pass) := by
  obtain ⟨captured, fromQueue, stage⟩ := pass
  cases stage with
  | started =>
      have checks : Guarded.Keeps env key service { service with keyChecked := true } :=
        .of_eq rfl rfl rfl fun _ => rfl
      rw [advance]
      dsimp only
      split
      next checked => exact .moves .refl checked
      next => exact .moves checks rfl
  | keying =>
      have derived : Guarded.Keeps env key service (service.deriveKey env) := .deriveKey configured
      exact .moves derived (derived.checked secret)
  | ready => exact safe_ready inv attempt secret finds
  | preparing source found =>
      obtain rfl : found = some key := secret
      rw [advance]
      dsimp only
      split
      next => exact .ends .refl
      next body sealed => exact .moves (.stashThumb ..) (isSealed_of_sealSource sealed)
  | branching source body =>
      obtain ⟨bytes, rfl, isSealed⟩ := secret
      rw [advance]
      dsimp only
      split
      · exact .moves .refl isSealed
      · exact .moves .refl ⟨bytes, rfl, isSealed⟩
  | holding source body =>
      have isSealed : E2e.IsSealed env.prims key body := secret
      rw [advance]
      dsimp only
      split
      · exact .moves (.write _ fun _ => isSealed) trivial
      · exact .moves .refl trivial
  | uploading source body =>
      obtain ⟨bytes, rfl, isSealed⟩ := secret
      rw [advance]
      dsimp only [payload]
      split
      · split
        · exact .moves (.upload _ isSealed) trivial
        · exact .moves (.upload _ isSealed) trivial
      · exact .moves .refl trivial
  | sending source offer => exact safe_sending attempt
  | queueing =>
      have queued : Guarded.Keeps env key service
          { service with pendingOutbound := service.pendingOutbound ++ [captured] } :=
        .of_eq rfl rfl rfl id
      exact .moves queued trivial
  | trimming =>
      rw [advance]
      dsimp only
      split
      · exact .moves .refl trivial
      · exact .ends .refl
  | overflowing =>
      rw [advance]
      dsimp only
      split
      next oldest rest _ =>
        have dropped : Guarded.Keeps env key service { service with pendingOutbound := rest } :=
          .of_eq rfl rfl rfl id
        exact .moves dropped trivial
      next => exact .moves .refl trivial
  | clearing file => exact .ends (.delete file)

end Pass

/-! ## Runs -/

/-- The service is guarded, and every coroutine holds what it may. -/
structure Outbox.Confined (env : Env) (key : Bytes) (outbox : Outbox) : Prop where
  guarded : Guarded env key outbox.service
  secret : ∀ pass ∈ outbox.passes, pass.stage.Secret env key outbox.service.keyChecked

namespace Outbox.Confined

variable {outbox next : Outbox}

theorem start (disk : Path → Option Bytes) : (Outbox.start (.start disk)).Confined env key where
  guarded := .start disk
  secret _ membership := by cases membership

/-- The service changes, and no coroutine moves. -/
theorem keeps (inv : outbox.Confined env key)
    (kept : Guarded.Keeps env key outbox.service next.service)
    (passes : next.passes = outbox.passes) : next.Confined env key where
  guarded := kept.guarded inv.guarded
  secret pass membership :=
    (inv.secret pass (passes ▸ membership)).mono kept.checked

/-- A coroutine begins. -/
theorem begins (inv : outbox.Confined env key)
    (kept : Guarded.Keeps env key outbox.service next.service) {captured : Captured}
    {fromQueue : Bool} (passes : next.passes = outbox.passes ++ [⟨captured, fromQueue, .started⟩]) :
    next.Confined env key where
  guarded := kept.guarded inv.guarded
  secret pass membership := by
    rw [passes] at membership
    rcases List.mem_append.mp membership with old | new
    · exact (inv.secret pass old).mono kept.checked
    · cases List.mem_singleton.mp new
      trivial

theorem onCaptured (inv : outbox.Confined env key) (captured : Captured) (exclude : Bool) :
    (outbox.onCaptured env captured exclude).Confined env key := by
  have admitted : Outbox.Confined env key { outbox with
      service := { outbox.service with launched := outbox.service.launched ++ [captured] }
      admitted := outbox.admitted ++ [captured] } := inv.keeps (.of_eq rfl rfl rfl id) rfl
  unfold Outbox.onCaptured
  cases captured with
  | text text html =>
      dsimp only
      split
      · exact inv
      · exact admitted
  | binary file mime name size sha => exact admitted

/-- A note is only booked. -/
theorem record (inv : outbox.Confined env key) (note : Note) :
    (outbox.record note).Confined env key := by
  cases note with
  | silent => exact inv
  | delivered | dropped | lost => exact inv.keeps .refl rfl

theorem advance (inv : outbox.Confined env key) (configured : env.e2eKey = some key) {index : Nat}
    {pass : Pass} {attempt : Attempt} (found : outbox.passes[index]? = some pass)
    (finds : pass.findsKey outbox.service = true) :
    (outbox.advance env index pass attempt).Confined env key := by
  have safe := Pass.safe_advance configured inv.guarded attempt
    (inv.secret pass (List.mem_of_getElem? found)) finds
  unfold Outbox.advance
  generalize Pass.advance env outbox.service attempt pass = result at safe ⊢
  obtain ⟨service, next, note⟩ := result
  have ended : Guarded.Keeps env key service (service.endFlush (note.thrown && pass.fromQueue)) :=
    .endFlush _
  apply Confined.record
  constructor
  · exact ended.guarded (safe.keeps.guarded inv.guarded)
  · intro other membership
    have known : outbox.service.keyChecked = true → _ := (safe.keeps.trans ended).checked
    cases next with
    | none => exact (inv.secret other (List.mem_of_mem_eraseIdx membership)).mono known
    | some next =>
        rcases List.mem_or_eq_of_mem_set membership with old | rfl
        · exact (inv.secret other old).mono known
        · exact (safe.secret other rfl).mono ended.checked

theorem step (inv : outbox.Confined env key) (configured : env.e2eKey = some key) {event : Event}
    (discreet : outbox.discreet env (.event event) = true)
    (stepped : outbox.step env event = some next) : next.Confined env key := by
  cases event with
  | captureText text html exclude suppressed =>
      rw [Outbox.step] at stepped
      split at stepped
      · cases stepped
      · split at stepped <;> cases stepped
        · exact inv
        · exact inv.onCaptured _ exclude
  | captureUri content mime name listing suppressed =>
      have cached : Outbox.Confined env key { outbox with
          service := (outbox.service.cacheSource env content).pruneCache listing } :=
        inv.keeps (Guarded.Keeps.trans (.cacheSource content) (.foldl_delete _)) rfl
      rw [Outbox.step] at stepped
      split at stepped
      · cases stepped
      · dsimp only at stepped
        split at stepped <;> cases stepped
        · exact cached
        · exact cached.onCaptured _ false
  | cacheShared content =>
      rw [Outbox.step] at stepped
      split at stepped <;> cases stepped
      exact inv.keeps (.cacheSource content) rfl
  | share sha name mime size =>
      obtain ⟨-, rfl⟩ := Option.ite_some_none_eq_some.mp stepped
      exact inv.onCaptured _ false
  | launch index =>
      obtain ⟨captured, found, rfl⟩ := Option.map_eq_some_iff.mp stepped
      exact inv.begins (.of_eq rfl rfl rfl id) rfl
  | advance index attempt =>
      obtain ⟨pass, found, rfl⟩ := Option.map_eq_some_iff.mp stepped
      rw [Outbox.discreet, found] at discreet
      exact inv.advance configured found discreet
  | flushBegin =>
      obtain ⟨-, rfl⟩ := Option.ite_some_none_eq_some.mp stepped
      exact inv.keeps (.of_eq rfl rfl rfl id) rfl
  | flushNext =>
      rw [Outbox.step] at stepped
      split at stepped
      · cases stepped
      · split at stepped
        · split at stepped <;> cases stepped
          next => exact inv.begins (.of_eq rfl rfl rfl id) rfl
          next => exact inv.keeps (.of_eq rfl rfl rfl id) rfl
        · cases stepped
  | openSession | setConnected | closeSession =>
      cases stepped
      exact inv.keeps (.of_eq rfl rfl rfl id) rfl
  | frame frame =>
      rw [Outbox.step] at stepped
      split at stepped <;> cases stepped
      exact inv.keeps .refl rfl
  | handle index =>
      obtain ⟨handler, found, rfl⟩ := Option.map_eq_some_iff.mp stepped
      rw [Outbox.discreet, found] at discreet
      exact inv.keeps (inv.guarded.handle configured discreet) rfl
  | cancel index =>
      obtain ⟨handler, found, stepped⟩ := Option.bind_eq_some_iff.mp stepped
      obtain ⟨-, rfl⟩ := Option.ite_some_none_eq_some.mp stepped
      exact inv.keeps .refl rfl

/-- Every step that takes up no file before the key is there and serves nothing but holds
keeps the invariant. -/
theorem life (inv : outbox.Confined env key) (configured : env.e2eKey = some key)
    {occurrence : Occurrence} (discreet : outbox.discreet env occurrence = true)
    (stepped : outbox.life env occurrence = some next) : next.Confined env key := by
  cases occurrence with
  | event event => exact inv.step configured discreet stepped
  | restart =>
      cases stepped
      exact ⟨inv.guarded.restart, fun _ membership => by cases membership⟩
  | removeFile path =>
      cases stepped
      exact inv.keeps (.delete path) rfl
  | writeFile path content =>
      cases stepped
      exact inv.keeps (.write path nofun) rfl

end Outbox.Confined

/-- With a passphrase stored, every body handed to the blob channel is sealed, in every run
in which no file is taken up while the key is being derived and requests name holds of this
device or nothing. -/
theorem uploads_sealed {disk : Path → Option Bytes} {outbox : Outbox}
    (configured : env.e2eKey = some key)
    (run : Run (Outbox.life env) (fun before occurrence => before.discreet env occurrence = true)
      (.start (.start disk)) outbox) :
    ∀ upload ∈ outbox.service.uploads, E2e.IsSealed env.prims key upload.body := by
  have confined : outbox.Confined env key := by
    apply run.invariant
    · exact .start disk
    · intro before after occurrence inv discreet stepped
      exact inv.life configured discreet stepped
  exact confined.guarded.uploads

/-- A phone with a passphrase, over the reference values. -/
def demoEnv : Env where
  prims := Reference.prims
  e2ePass := some "p"
  serverId := some "srv"
  cacheDir := Path.join ⟨true, []⟩ (bytesOf "data/user/0/com.copysync.android/cache")
  classify _ := false

def demoAttempt : Attempt where
  id := "a1"
  nonce := Reference.file.nonce
  htmlNonce := Reference.file.nonce
  targets := .all
  accepted := true
  transfer := .done
  videoFrame := none
  stashed := true
  written := true

/-- A frame is received and handled in so many steps. -/
def handled (frame : Frame) (steps : Nat) : List Occurrence :=
  .event (.frame frame) :: List.replicate steps (.event (.handle 0))

/-- The first coroutine is taken so many steps on. -/
def advanced (index steps : Nat) : List Occurrence :=
  List.replicate steps (.event (.advance index demoAttempt))

def copied : Occurrence :=
  .event (.captureUri Reference.file.plain "application/octet-stream" "a.bin" [] false)

/-- A file above the threshold is advertised; the server asks for it. -/
theorem requested_hold_sealed :
    ∃ outbox, Run (Outbox.life demoEnv)
        (fun before occurrence => before.discreet demoEnv occurrence = true)
        (.start (.start fun _ => none)) outbox ∧
      outbox.service.uploads = [⟨"sha256:" ++ Reference.file.digest, Reference.file.sealed⟩] ∧
      ∀ upload ∈ outbox.service.uploads,
        E2e.IsSealed demoEnv.prims Reference.key upload.body := by
  obtain ⟨outbox, run, served⟩ := Run.exists_of_execWhen (Outbox.life demoEnv)
    (fun before occurrence => before.discreet demoEnv occurrence) (.start (.start fun _ => none))
    (.event .openSession :: handled (.helloOk (some 2)) 1 ++
      copied :: .event (.launch 0) :: advanced 0 8 ++
      handled (.blobRequest ("sha256:" ++ Reference.file.digest)) 2)
    (fun outbox => decide (outbox.service.uploads =
      [⟨"sha256:" ++ Reference.file.digest, Reference.file.sealed⟩]))
    (by decide +kernel)
  exact ⟨outbox, run, of_decide_eq_true served,
    uploads_sealed (by decide +kernel) run⟩

/-- An encrypted image is received and its decrypted preview cached; asked for the
same id, the phone uploads the preview. -/
theorem preview_uploaded :
    ¬∀ (env : Env) (key : Bytes) (outbox : Outbox), env.e2eKey = some key →
      Reachable (Outbox.life env) (.start (.start fun _ => none)) outbox →
      ∀ upload ∈ outbox.service.uploads, E2e.IsSealed env.prims key upload.body := by
  intro claim
  obtain ⟨outbox, reached, served⟩ := Reachable.exists_of_exec (Outbox.life demoEnv)
    (.start (.start fun _ => none))
    (.event .openSession :: handled (.helloOk (some 5242880)) 1 ++
      handled (.clip
        { id := "c1"
          mime := ["image/png"]
          blobId := some ("sha256:" ++ Reference.image.digest)
          name := some "photo.png"
          size := 2
          sha256 := Reference.image.digest
          enc := some (E2e.encMeta "7c1378060950bafd") }
        (some Reference.image.sealed) true true) 3 ++
      handled (.blobRequest ("sha256:" ++ Reference.image.digest)) 2)
    (fun outbox => decide (⟨"sha256:" ++ Reference.image.digest, Reference.image.plain⟩ ∈
      outbox.service.uploads))
    (by decide +kernel)
  have isSealed := claim demoEnv Reference.key outbox (by decide +kernel) reached _
    (of_decide_eq_true served)
  exact absurd isSealed.length (by decide)

def Occurrence.fromServer : Occurrence → Bool
  | .event (.frame _) => true
  | _ => false

/-- No frame is needed.  Two files are copied after a start: while the coroutine of the first
derives the key, the second is uploaded as it is. -/
theorem hasty_file_uploaded :
    ¬∀ (env : Env) (key : Bytes) (outbox : Outbox), env.e2eKey = some key →
      Run (Outbox.life env) (fun _ occurrence => occurrence.fromServer = false)
        (.start (.start fun _ => none)) outbox →
      ∀ upload ∈ outbox.service.uploads, E2e.IsSealed env.prims key upload.body := by
  intro claim
  obtain ⟨outbox, run, uploaded⟩ := Run.exists_of_execWhen (Outbox.life demoEnv)
    (fun _ occurrence => !occurrence.fromServer) (.start (.start fun _ => none))
    ([.event .openSession,
      .event (.captureUri Reference.image.plain "image/png" "photo.png" [] false), copied,
      .event (.launch 0), .event (.launch 0)] ++ advanced 0 1 ++ advanced 1 5)
    (fun outbox => decide (⟨"sha256:" ++ Reference.file.plainDigest, Reference.file.plain⟩ ∈
      outbox.service.uploads))
    (by decide +kernel)
  have isSealed := claim demoEnv Reference.key outbox (by decide +kernel)
    (run.mono fun silent => by simpa using silent) _ (of_decide_eq_true uploaded)
  exact absurd isSealed.length (by decide)

end CopySync.Android
