import CopySync.Desktop.Engine

/-!
# Desktop client: the loop

The turns of `run`: connecting and re-advertising, commands, frames, worker results,
and losing the socket.  The key is derived once, before the first turn.
-/

namespace CopySync.Desktop

open Foundation Client

/-- A command of the host with what its handling meets. -/
inductive Cmd where
  | localText (text : String) (html : Option String) (exclude : Bool) (sending : Sending)
  | localImage (picture : Picture) (sending : Sending)
  | sendText (text : String) (sending : Sending)
  | sendFile (document : Document) (sending : Sending)
  | localFiles (documents : List (Document × Sending))
  | setPool (name : String) (delivered : Bool)
  deriving DecidableEq, Repr

/-- A frame of the server.  A request for a held path comes with what reading the
file again gives. -/
inductive Frame where
  | keepalive
  | tokenRotate (token : String)
  | clip (event : ClipEvent) (applying : Applying)
  | badClip (error : String)
  | blobRequest (id : String) (reread : Except String Bytes)
  | other
  deriving DecidableEq, Repr

/-- One turn.  `connect` says how many re-advertised frames the new socket takes
before the first failing one; `finish` lets a worker end with the server's
response. -/
inductive Action where
  | connect (session : Session) (accepted now : Nat)
  | connectFailed (error : String)
  | lost (why : String)
  | command (cmd : Cmd)
  | frame (frame : Frame)
  | result (delivered : Bool) (applying : Applying)
  | finish (index : Nat) (response : Except String Bytes)
  deriving DecidableEq, Repr

/-- The error text of a failed upload. -/
def Upload.failure (report : Upload) (error : String) : String :=
  if report.errViaError then
    "이미지 blob 업로드 실패(" ++ classifyBlobErr error ++ ") — 전송 안 함: " ++ error
  else "업로드 실패(" ++ classifyBlobErr error ++ "): " ++ error

namespace Engine

/-- Leave the connection. -/
def drop (engine : Engine) (why : String) : Engine :=
  { engine with session := none }.emit (.error ("연결 종료 — " ++ why ++ " · 자동 재연결 시도"))

/-- Leave the connection when a handler met a control channel failure. -/
def settle (why : String) : Engine × Bool → Engine
  | (engine, true) => engine
  | (engine, false) => engine.drop why

/-- The bookkeeping of an uploaded clip whose frame went out. -/
def record (engine : Engine) (report : Upload) (now : Nat) : Engine :=
  let engine :=
    match report.echoImgSha with
    | some sha => { engine with recentImg := engine.recentImg.remember sha now }
    | none => engine
  (engine.emit (.history ⟨report.event.ts, report.histKind, "me", "out", report.histPreview,
    report.histMime, report.histSize, report.event.blobId, report.histName⟩)).emit
    (.notice report.notice)

/-- Re-advertise stashed uploads on a fresh socket, keeping everything from the first
failing send on. -/
def readvertise (now : Nat) : Nat → Engine → List Upload → Engine × List Upload
  | _, engine, [] => (engine, [])
  | 0, engine, report :: rest => (engine.sendClip report.event false, report :: rest)
  | accepted + 1, engine, report :: rest =>
      readvertise now accepted ((engine.sendClip report.event true).record report now) rest

/-- A completed handshake. -/
def connect (engine : Engine) (session : Session) (accepted now : Nat) : Engine :=
  let stash := engine.pendingUploads
  match readvertise now accepted { engine with session := some session, pendingUploads := [] }
      stash with
  | (engine, []) => engine
  | (engine, kept) =>
      { engine with session := none, pendingUploads := kept }.emit
        (.error "재연결 직후 제어 채널이 다시 끊겨 보류 중인 클립을 다음 연결에서 다시 시도합니다")

/-- The command arm. -/
def command (env : Env) (engine : Engine) (session : Session) : Cmd → Engine
  | .localText text html exclude sending =>
      if engine.recentText.seen (env.prims.sha256Hex (bytesOf text)) sending.now then engine
      else
        match if exclude then env.classify text else none with
        | some reason =>
            (engine.emit (.history ⟨sending.draw.ts, "text", "me", "out", text, "text/plain",
              (bytesOf text).length, "", ""⟩)).emit (.notice (.outText text (some reason)))
        | none =>
            settle "텍스트 전송 실패 — 제어 채널 끊김"
              (engine.sendTextClip env session.maxMsg text html sending)
  | .sendText text sending =>
      settle "텍스트 전송 실패 — 제어 채널 끊김"
        (engine.sendTextClip env session.maxMsg text none sending)
  | .localImage picture sending =>
      let sha := env.prims.sha256Hex picture.rgba
      if engine.recentImg.seen sha sending.now then engine
      else engine.spawnImageClip env picture sha sending
  | .sendFile document sending =>
      settle "파일 전송 실패 — 제어 채널 끊김"
        (engine.sendFileClip env session.threshold document sending)
  | .localFiles documents =>
      settle "파일 전송 실패 — 제어 채널 끊김" (engine.sendFiles env session.threshold documents)
  | .setPool name delivered =>
      settle "풀 설정 전송 실패" (engine.emit (.setPool name delivered), delivered)

/-- Answer a `blob_request` from the holds; the upload runs off the loop. -/
def serve (env : Env) (engine : Engine) (id : String) (reread : Except String Bytes) : Engine :=
  match engine.holds.get? id with
  | none =>
      engine.emit (.error ("요청받은 파일을 더 이상 보관하고 있지 않습니다 (대기 중 제거됨) — " ++
        "다시 복사해 주세요 (id=" ++ id ++ ")"))
  | some (.encrypted body) => engine.spawn env (.serve id body)
  | some (.plain _) =>
      match reread with
      | .ok bytes => engine.spawn env (.serve id bytes)
      | .error error => engine.emit (.error ("요청받은 파일 읽기 실패: " ++ error))

/-- The receive arm. -/
def handleFrame (env : Env) (engine : Engine) : Frame → Engine
  | .keepalive | .other => engine
  | .tokenRotate token =>
      if token = "" then engine
      else
        ({ engine with token }.emit (.saveToken token)).emit
          (.error "토큰 회전 — 새 인증 토큰 저장됨")
  | .clip event applying =>
      if event.isBlob then engine.spawn env (.download event)
      else engine.handleIncomingText env event applying
  | .badClip error => engine.emit (.error ("받은 클립 디코딩 실패: " ++ error))
  | .blobRequest id reread => engine.serve env id reread

/-- The result arm: the oldest result of a worker. -/
def handleResult (env : Env) (engine : Engine) (result : BlobResult) (delivered : Bool)
    (applying : Applying) : Engine :=
  match result with
  | .upload (.ok ()) report =>
      let engine := engine.sendClip report.event delivered
      if delivered then engine.record report applying.now
      else
        -- The bytes are on the server: the frame is kept for the next connection.
        { engine with pendingUploads := engine.pendingUploads ++ [report] }.drop
          "클립 전송 실패 — 제어 채널 끊김(보류 후 재연결 시 재전송)"
  | .upload (.error message) report =>
      engine.emit (if report.errViaError then .error message else .notify message)
  | .serve id ok => if ok then { engine with holds := engine.holds.remove id } else engine
  | .download (.ok data) event => engine.applyBlob env event data applying
  | .download (.error message) _ => engine.emit (.notify message)

/-- A worker ends and reports. -/
def finishWorker (env : Env) (engine : Engine) (worker : Worker)
    (response : Except String Bytes) : Engine :=
  let report (engine : Engine) (result : BlobResult) : Engine :=
    { engine with results := engine.results ++ [result] }
  match worker, response with
  | .upload payload upload, .ok _ =>
      report (engine.emit (.stored (blobId env.prims payload) payload)) (.upload (.ok ()) upload)
  | .upload _ upload, .error error => report engine (.upload (.error (upload.failure error)) upload)
  | .serve id bytes, .ok _ =>
      report (engine.emit (.stored (blobId env.prims bytes) bytes)) (.serve id true)
  | .serve id _, .error _ => report engine (.serve id false)
  | .download event, response =>
      report engine (.download
        ((getBlob env.prims event.blobId response).mapError fun error =>
          "파일 받기 실패(" ++ classifyBlobErr error ++ "): " ++ error) event)

/-- One turn of the engine; commands, frames and results are handled while a
connection lasts. -/
def step (env : Env) (engine : Engine) : Action → Option Engine
  | .connect session accepted now =>
      if engine.session.isNone then some (engine.connect session accepted now) else none
  | .connectFailed error =>
      if engine.session.isNone then
        some (engine.emit (.error ("연결 실패 — 재시도 중: " ++ error)))
      else none
  | .lost why => engine.session.map fun _ => engine.drop why
  | .command cmd => engine.session.map fun session => engine.command env session cmd
  | .frame frame => engine.session.map fun _ => engine.handleFrame env frame
  | .result delivered applying =>
      match engine.session, engine.results with
      | some _, result :: rest =>
          some ({ engine with results := rest }.handleResult env result delivered applying)
      | _, _ => none
  | .finish index response =>
      engine.workers[index]?.map fun worker =>
        { engine with workers := engine.workers.eraseIdx index }.finishWorker env worker response

/-- The turns, each with what it needs. -/
inductive Turn (env : Env) (engine : Engine) : Action → Engine → Prop where
  | connect (session : Session) (accepted now : Nat) (offline : engine.session = none) :
      Turn env engine (.connect session accepted now) (engine.connect session accepted now)
  | connectFailed (error : String) (offline : engine.session = none) :
      Turn env engine (.connectFailed error)
        (engine.emit (.error ("연결 실패 — 재시도 중: " ++ error)))
  | lost (why : String) (session : Session) (connected : engine.session = some session) :
      Turn env engine (.lost why) (engine.drop why)
  | command (cmd : Cmd) (session : Session) (connected : engine.session = some session) :
      Turn env engine (.command cmd) (engine.command env session cmd)
  | frame (frame : Frame) (session : Session) (connected : engine.session = some session) :
      Turn env engine (.frame frame) (engine.handleFrame env frame)
  | result (delivered : Bool) (applying : Applying) (session : Session) (result : BlobResult)
      (rest : List BlobResult) (connected : engine.session = some session)
      (found : engine.results = result :: rest) :
      Turn env engine (.result delivered applying)
        ({ engine with results := rest }.handleResult env result delivered applying)
  | finish (index : Nat) (response : Except String Bytes) (worker : Worker)
      (found : engine.workers[index]? = some worker) :
      Turn env engine (.finish index response)
        ({ engine with workers := engine.workers.eraseIdx index }.finishWorker env worker response)

/-- One case analysis over all actions, for every invariant of the engine. -/
theorem turn_of_step {env : Env} {engine next : Engine} {action : Action}
    (stepped : engine.step env action = some next) : engine.Turn env action next := by
  cases action with
  | connect session accepted now =>
      obtain ⟨offline, rfl⟩ := Option.ite_some_none_eq_some.mp stepped
      exact .connect session accepted now (Option.isNone_iff_eq_none.mp offline)
  | connectFailed error =>
      obtain ⟨offline, rfl⟩ := Option.ite_some_none_eq_some.mp stepped
      exact .connectFailed error (Option.isNone_iff_eq_none.mp offline)
  | lost why =>
      obtain ⟨session, connected, rfl⟩ := Option.map_eq_some_iff.mp stepped
      exact .lost why session connected
  | command cmd =>
      obtain ⟨session, connected, rfl⟩ := Option.map_eq_some_iff.mp stepped
      exact .command cmd session connected
  | frame frame =>
      obtain ⟨session, connected, rfl⟩ := Option.map_eq_some_iff.mp stepped
      exact .frame frame session connected
  | result delivered applying =>
      rw [step] at stepped
      split at stepped
      next session result rest connected found =>
        cases stepped
        exact .result delivered applying session result rest connected found
      next => cases stepped
  | finish index response =>
      obtain ⟨worker, found, rfl⟩ := Option.map_eq_some_iff.mp stepped
      exact .finish index response worker found

end Engine

/-! ## Collaborators for concrete runs -/

/-- An engine over the reference values; frames have the length of a text clip. -/
def demoEnv : Env where
  prims := Reference.prims
  frameSize _ := .ok 329
  classify _ := none
  decodeImage _ := .error "unsupported"
  downloads := "/home/u/Downloads"

def demoConfig : Config := ⟨"srv", "p", "token"⟩

def demoSending (sample : Reference.Sample) : Sending :=
  ⟨⟨"a1", "2024-01-01T00:00:00Z", sample.nonce, sample.nonce⟩, .all, true, 0, 0⟩

def demoApplying : Applying := ⟨false, .ok (), 0⟩

/-- A received file of three bytes. -/
def demoFile : ClipEvent where
  mime := ["application/octet-stream"]
  name := "a.bin"
  blobId := "sha256:" ++ Reference.file.digest
  enc := some (E2e.encMeta "7c1378060950bafd")

/-- The received text `hi`. -/
def demoText : ClipEvent where
  mime := ["text/plain"]
  inlineText := Reference.text.base64
  enc := some (E2e.encMeta "7c1378060950bafd")

end CopySync.Desktop
