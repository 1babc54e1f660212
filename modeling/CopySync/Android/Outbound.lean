import CopySync.Android.SyncService

/-!
# The Android client, coroutine by coroutine

Every capture is sent by a coroutine of its own, the retry queue is drained by one, and each
session has one that handles the frames it receives, one after another.  They run at once,
and sessions begin and end meanwhile: the coroutine of a clip derives the key, looks for
the blob channel, reads and seals its source, uploads, sends the frame and deletes the
source in separate steps, and other coroutines and the session run in between.

A coroutine holds its clip until the frame was taken by the socket or the clip was put
in the queue; behind that it only trims the queue or deletes the source.
-/

namespace CopySync.Android

open Foundation Client

/-! ## Coroutines -/

/-- A captured file. -/
structure Source where
  file : Path
  mime : String
  name : String
  size : Int
  sha : String
  deriving DecidableEq, Repr

/-- What a file clip is offered with: the ciphertext, if it is sealed, whether the
recipients pull it on demand, and whether the blob channel took the bytes. -/
structure Offer where
  body : Option Bytes
  onDemand : Bool
  uploaded : Bool
  deriving DecidableEq, Repr

/-- Where the coroutine of a clip stands.  `keying` to `queueing` hold the clip: the
key is being derived, it is derived, a file is read and sealed, the threshold is looked
up, the ciphertext is kept for later requests, the body is uploaded, the frame is sent,
or the clip is to be queued.  In the last three the clip has left the coroutine. -/
inductive Stage where
  | started
  | keying
  | ready
  | preparing (source : Source) (key : Option Bytes)
  | branching (source : Source) (body : Option Bytes)
  | holding (source : Source) (body : Bytes)
  | uploading (source : Source) (body : Option Bytes)
  | sending (source : Source) (offer : Offer)
  | queueing
  | trimming
  | overflowing
  | clearing (file : Path)
  deriving DecidableEq, Repr

structure Pass where
  captured : Captured
  fromQueue : Bool
  stage : Stage
  deriving DecidableEq, Repr

/-- A clip whose frame the socket took. -/
structure Delivery where
  captured : Captured
  eager : Bool
  uploaded : Bool
  deriving DecidableEq, Repr

/-- What a step means for a clip: nothing, its frame was taken, it was dropped because the
queue is full, or it is gone otherwise, with whether an exception ended the coroutine. -/
inductive Note where
  | silent
  | delivered (delivery : Delivery)
  | dropped (captured : Captured)
  | lost (captured : Captured) (thrown : Bool)
  deriving DecidableEq, Repr

def Note.thrown : Note → Bool
  | .lost _ thrown => thrown
  | _ => false

/-- The number of clips the retry queue keeps. -/
def outboundQueueCap : Nat := 50

namespace Pass

/-- The clip, while the coroutine holds it. -/
def carried (pass : Pass) : List Captured :=
  match pass.stage with
  | .trimming | .overflowing | .clearing _ => []
  | _ => [pass.captured]

def moved (pass : Pass) (stage : Stage) : Option Pass := some { pass with stage }

section Advance

variable (env : Env) (service : Service) (attempt : Attempt)

/-- The frame of a text. -/
def textFrame (text : String) (wire : String × String × Option EncMeta × Option String)
    (seq : Nat) : ClipEvent :=
  { id := attempt.id
    seq
    mime := if wire.2.2.2.isSome then ["text/html", "text/plain"] else ["text/plain"]
    inlineText := some wire.1
    html := wire.2.2.2
    size := (bytesOf text).length
    sha256 := wire.2.1
    enc := wire.2.2.1
    targets := attempt.targets }

/-- The frame of an offered file. -/
def fileFrame (source : Source) (offer : Offer) : Nat → ClipEvent :=
  let digest := offer.body.elim source.sha env.prims.sha256Hex
  Service.fileEvent attempt source.mime source.name ("sha256:" ++ digest) offer.onDemand
    source.size digest (offer.body.map fun _ => E2e.encMeta service.kid)

/-- The source read and sealed under a key; without a key nothing is read. -/
def sealSource (source : Source) (key : Option Bytes) : Option (Option Bytes) :=
  match key with
  | some key =>
      ((service.files source.file).bind fun file =>
        E2e.sealPayload env.prims key attempt.nonce file.content).map some
  | none => some none

/-- The id and the bytes to upload: the ciphertext, or the source as it is on the
disk. -/
def payload (source : Source) (body : Option Bytes) : Option (String × Bytes) :=
  match body with
  | some body => some ("sha256:" ++ env.prims.sha256Hex body, body)
  | none => (service.files source.file).map fun file => ("sha256:" ++ source.sha, file.content)

/-- The next step of a coroutine: the service after it, where the coroutine stands unless
it ended, and what the step means for a clip. -/
def advance (pass : Pass) : Service × Option Pass × Note :=
  match pass.stage with
  | .started =>
      if service.keyChecked then (service, pass.moved .ready, .silent)
      else ({ service with keyChecked := true }, pass.moved .keying, .silent)
  | .keying => (service.deriveKey env, pass.moved .ready, .silent)
  | .ready =>
      match pass.captured with
      | .text text html =>
          match service.wireText env text html attempt with
          | none => (service, none, .lost pass.captured true)
          | some wire =>
              match service.sendClip (textFrame attempt text wire) attempt.accepted with
              | (service, true) => (service, none, .delivered ⟨pass.captured, false, false⟩)
              | (service, false) => (service, pass.moved .queueing, .silent)
      | .binary file mime name size sha =>
          if service.blob && service.ws then
            (service, pass.moved (.preparing ⟨file, mime, name, size, sha⟩ service.key), .silent)
          else (service, pass.moved .queueing, .silent)
  | .preparing source key =>
      match sealSource env service attempt source key with
      | none => (service, none, .lost pass.captured true)
      | some body =>
          let digest := body.elim source.sha env.prims.sha256Hex
          (service.stashThumb env source.file source.mime ("sha256:" ++ digest) attempt,
            pass.moved (.branching source body), .silent)
  | .branching source body =>
      if 0 < service.threshold ∧ service.threshold < source.size then
        match body with
        | some body => (service, pass.moved (.holding source body), .silent)
        | none => (service, pass.moved (.sending source ⟨none, true, false⟩), .silent)
      else (service, pass.moved (.uploading source body), .silent)
  | .holding source body =>
      let offered := pass.moved (.sending source ⟨some body, true, false⟩)
      if attempt.written then
        (service.write (env.srcFile (bytesOf (env.prims.sha256Hex body))) ⟨body, .hold⟩, offered,
          .silent)
      else (service, offered, .silent)
  | .uploading source body =>
      -- `blob?.put` without a blob channel is no failure.
      if service.blob then
        match payload env service source body with
        | none => (service, pass.moved .queueing, .silent)
        | some (id, bytes) =>
            if attempt.transfer = .failed then
              (service.upload id bytes, pass.moved .queueing, .silent)
            else
              (service.upload id bytes, pass.moved (.sending source ⟨body, false, true⟩), .silent)
      else (service, pass.moved (.sending source ⟨body, false, false⟩), .silent)
  | .sending source offer =>
      let next :=
        if offer.onDemand && offer.body.isNone then none else pass.moved (.clearing source.file)
      -- What `sendClip` returns is not looked at.
      match service.sendClip (fileFrame env service attempt source offer) attempt.accepted with
      | (service, true) =>
          (service, next, .delivered ⟨pass.captured, !offer.onDemand, offer.uploaded⟩)
      | (service, false) => (service, next, .lost pass.captured false)
  | .queueing =>
      ({ service with pendingOutbound := service.pendingOutbound ++ [pass.captured] },
        pass.moved .trimming, .silent)
  | .trimming =>
      if outboundQueueCap < service.pendingOutbound.length then
        (service, pass.moved .overflowing, .silent)
      else (service, none, .silent)
  | .overflowing =>
      match service.pendingOutbound with
      | oldest :: rest =>
          ({ service with pendingOutbound := rest }, pass.moved .trimming, .dropped oldest)
      | [] => (service, pass.moved .trimming, .silent)
  | .clearing file => (service.delete file, none, .silent)

end Advance

end Pass

/-! ## Frames -/

/-- A clip frame with what comes back for its blob. -/
structure Inbound where
  event : ClipEvent
  fetched : Option Bytes
  written : Bool
  pasted : Bool
  deriving DecidableEq, Repr

/-- Where `handle` stands: it has the frame, the key for a clip is being derived or
derived, or the file of a request is about to be read. -/
inductive Progress where
  | received (frame : Frame)
  | keying (inbound : Inbound)
  | keyed (inbound : Inbound)
  | serving (id : String)
  deriving DecidableEq, Repr

/-- The frame a session handles; sessions are numbered. -/
structure Handler where
  session : Nat
  progress : Progress
  deriving DecidableEq, Repr

namespace Handler

def moved (handler : Handler) (progress : Progress) : Option Handler :=
  some { handler with progress }

/-- The next step of a frame: the service after it, and what is left to do. -/
def advance (env : Env) (service : Service) (handler : Handler) : Service × Option Handler :=
  match handler.progress with
  | .received (.helloOk onDemandThreshold) =>
      ({ service with threshold := onDemandThreshold.getD 0 }.flushOutbound, none)
  | .received (.blobRequest id) =>
      if (service.heldFile env id).isSome then (service, handler.moved (.serving id))
      else (service, none)
  | .received (.clip event fetched written pasted) =>
      let inbound : Inbound := ⟨event, fetched, written, pasted⟩
      if !event.needsKey then (service, none)
      else if service.keyChecked then (service, handler.moved (.keyed inbound))
      else ({ service with keyChecked := true }, handler.moved (.keying inbound))
  | .received .other => (service, none)
  | .keying inbound => (service.deriveKey env, handler.moved (.keyed inbound))
  | .keyed inbound =>
      -- The key was checked: `ensureKey` returns at once.
      (service.handleClip env inbound.event inbound.fetched inbound.written inbound.pasted, none)
  | .serving id => (service.serveBlob env id, none)

end Handler

/-! ## The machine -/

/-- The service with its coroutines.  `admitted` are the clips that passed the
sensitivity filter. -/
structure Outbox where
  service : Service
  session : Nat
  handlers : List Handler
  passes : List Pass
  admitted : List Captured
  delivered : List Delivery
  dropped : List Captured
  lost : List Captured

/-- A step of a coroutine, the start of one, or an event of the service: a capture, a
share, the drain of the queue, the session, or a frame, its next step, or its end when its
session is over. -/
inductive Event where
  | captureText (text : String) (html : Option String) (exclude suppressed : Bool)
  | captureUri (content : Bytes) (mime name : String) (listing : List Path) (suppressed : Bool)
  | cacheShared (content : Bytes)
  | share (sha name mime : String) (size : Int)
  | launch (index : Nat)
  | advance (index : Nat) (attempt : Attempt)
  | flushBegin
  | flushNext
  | openSession
  | setConnected (connected : Bool)
  | closeSession
  | frame (frame : Frame)
  | handle (index : Nat)
  | cancel (index : Nat)
  deriving DecidableEq, Repr

/-- `SRC_CACHE_CAP_BYTES`. -/
def srcCacheCapBytes : Nat := 512 * 1024 * 1024

/-- The files `pruneCache` deletes, of the directory listed by last modification. -/
def prunedFiles (service : Service) : Nat → List Path → List Path
  | _, [] => []
  | total, path :: rest =>
      if total ≤ srcCacheCapBytes then []
      else path :: prunedFiles service
        (total - ((service.files path).elim 0 fun file => file.content.length)) rest

/-- The bytes of the listed files. -/
def Service.cachedBytes (service : Service) (listing : List Path) : Nat :=
  listing.foldl (fun total path =>
    total + (service.files path).elim 0 fun file => file.content.length) 0

def Service.pruneCache (service : Service) (listing : List Path) : Service :=
  (prunedFiles service (service.cachedBytes listing) listing).foldl Service.delete service

/-- An exception in a pass of the drain ends the drain. -/
def Service.endFlush (service : Service) (thrown : Bool) : Service :=
  if thrown then { service with flush := .idle } else service

namespace Outbox

def start (service : Service) : Outbox where
  service
  session := 0
  handlers := []
  passes := []
  admitted := []
  delivered := []
  dropped := []
  lost := []

variable (env : Env) (outbox : Outbox)

/-- `onCaptured`: a sensitive text is dropped, anything else gets a coroutine. -/
def onCaptured (captured : Captured) (exclude : Bool) : Outbox :=
  let filtered :=
    match captured with
    | .text text _ => exclude && env.classify text
    | .binary .. => false
  if filtered then outbox
  else
    { outbox with
      service := { outbox.service with launched := outbox.service.launched ++ [captured] }
      admitted := outbox.admitted ++ [captured] }

def record (outbox : Outbox) : Note → Outbox
  | .silent => outbox
  | .delivered delivery => { outbox with delivered := outbox.delivered ++ [delivery] }
  | .dropped captured => { outbox with dropped := outbox.dropped ++ [captured] }
  | .lost captured _ => { outbox with lost := outbox.lost ++ [captured] }

/-- One step of the coroutine at an index. -/
def advance (index : Nat) (pass : Pass) (attempt : Attempt) : Outbox :=
  let (service, next, note) := Pass.advance env outbox.service attempt pass
  { outbox with
    service := service.endFlush (note.thrown && pass.fromQueue)
    passes := next.elim (outbox.passes.eraseIdx index) (outbox.passes.set index) }.record note

/-- One step of the frame at an index. -/
def handle (index : Nat) (handler : Handler) : Outbox :=
  let (service, next) := Handler.advance env outbox.service handler
  { outbox with
    service
    handlers := next.elim (outbox.handlers.eraseIdx index) (outbox.handlers.set index) }

def step : Event → Option Outbox
  | .captureText text html exclude suppressed =>
      if text = "" then none
      else if suppressed then some outbox
      else some (outbox.onCaptured env (.text text html) exclude)
  | .captureUri content mime name listing suppressed =>
      if content = [] then none
      else
        let sha := env.prims.sha256Hex content
        let cached :=
          { outbox with
            service := (outbox.service.cacheSource env content).pruneCache listing }
        if suppressed then some cached
        else
          some (cached.onCaptured env
            (.binary (env.srcFile (bytesOf sha)) mime name content.length sha) false)
  | .cacheShared content =>
      if content = [] then none
      else some { outbox with service := outbox.service.cacheSource env content }
  | .share sha name mime size =>
      let file := env.srcFile (bytesOf sha)
      if (outbox.service.files file).isSome then
        some (outbox.onCaptured env (.binary file mime name size sha) false)
      else none
  | .launch index =>
      outbox.service.launched[index]?.map fun captured =>
        { outbox with
          service := { outbox.service with launched := outbox.service.launched.eraseIdx index }
          passes := outbox.passes ++ [⟨captured, false, .started⟩] }
  | .advance index attempt =>
      outbox.passes[index]?.map fun pass => outbox.advance env index pass attempt
  | .flushBegin =>
      if outbox.service.flush = .launched then
        some { outbox with
          service := { outbox.service with
            flush := .draining outbox.service.pendingOutbound.length } }
      else none
  | .flushNext =>
      -- The drain waits for the clip it sends.
      if outbox.passes.any (·.fromQueue) then none
      else
        match outbox.service.flush with
        | .draining remaining =>
            match remaining, outbox.service.connected, outbox.service.pendingOutbound with
            | remaining + 1, true, captured :: rest =>
                some { outbox with
                  service := { outbox.service with
                    pendingOutbound := rest, flush := .draining remaining }
                  passes := outbox.passes ++ [⟨captured, true, .started⟩] }
            | _, _, _ => some { outbox with service := { outbox.service with flush := .idle } }
        | _ => none
  | .openSession => some { outbox with service := { outbox.service with ws := true, blob := true } }
  | .setConnected connected =>
      some { outbox with service := { outbox.service with connected } }
  | .closeSession =>
      some { outbox with
        service := { outbox.service with blob := false, connected := false }
        session := outbox.session + 1 }
  | .frame frame =>
      -- A session collects its frames one at a time.
      if outbox.handlers.any (·.session == outbox.session) then none
      else
        some { outbox with handlers := outbox.handlers ++ [⟨outbox.session, .received frame⟩] }
  | .handle index =>
      outbox.handlers[index]?.map fun handler => outbox.handle env index handler
  | .cancel index =>
      outbox.handlers[index]?.bind fun handler =>
        if handler.session < outbox.session then
          some { outbox with handlers := outbox.handlers.eraseIdx index }
        else none

/-- The process dies with its coroutines and starts again. -/
def restart (outbox : Outbox) : Outbox :=
  { outbox with
    service := outbox.service.restart
    session := outbox.session + 1
    handlers := []
    passes := [] }

end Outbox

/-- An event of the client, a restart, or a file that something else on the device removes or
writes. -/
inductive Occurrence where
  | event (event : Event)
  | restart
  | removeFile (path : Path)
  | writeFile (path : Path) (content : Bytes)
  deriving DecidableEq, Repr

/-- The client over restarts. -/
def Outbox.life (env : Env) (outbox : Outbox) : Occurrence → Option Outbox
  | .event event => outbox.step env event
  | .restart => some outbox.restart
  | .removeFile path => some { outbox with service := outbox.service.delete path }
  | .writeFile path content =>
      some { outbox with service := outbox.service.write path ⟨content, .foreign⟩ }

end CopySync.Android
