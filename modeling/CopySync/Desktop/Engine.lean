import CopySync.Desktop.Protocol
import CopySync.Desktop.Ring
import CopySync.Foundation.Transition
import CopySync.Foundation.Utf8
import Mathlib.Data.List.Infix

/-!
# Desktop client: the sync engine

The actor of `engine.rs`.  One action is one turn of its loop: a connection attempt,
a command from the host, a frame from the server, a result of an off-loop blob
worker, or the loss of the socket.  Workers run on their own and only append to the
result channel, which outlives connections.  What the host, the disk and the network
answer is part of the action.

`log` lists what the engine does outside itself, oldest first: frames handed to the
socket (whether or not the send reports success), bodies handed to the blob channel,
history rows, clipboard and file writes, and what it shows to the user.
-/

namespace CopySync.Desktop

open Foundation Client

/-! ## Names and errors -/

/-- `Path::file_name`: the last component when it names something.  Empty components
and `.` behind the first are skipped. -/
def fileName? (path : String) : Option String :=
  let parts := splitPath (bytesOf path)
  match (parts.filter fun part => part != [] && part != [46]).getLast? with
  | some part => if part = [46, 46] then none else String.fromUTF8? ⟨part.toArray⟩
  | none => none

def fileName (path : String) : String := (fileName? path).getD "file"

/-- `Path::extension` of a file name: what follows the last dot, unless the name has
no other dot than a leading one. -/
def extension (name : String) : String :=
  match name.toList.reverse.span (· != '.') with
  | (_, []) | (_, [_]) => ""
  | (tail, _ :: _) => String.ofList tail.reverse

def mimeOf (path : String) : String :=
  match ((fileName? path).elim "" extension).map Char.toLower with
  | "png" => "image/png"
  | "jpg" | "jpeg" => "image/jpeg"
  | "gif" => "image/gif"
  | "webp" => "image/webp"
  | "bmp" => "image/bmp"
  | "pdf" => "application/pdf"
  | "txt" | "md" | "log" => "text/plain"
  | "zip" => "application/zip"
  | _ => "application/octet-stream"

/-- `str::contains`. -/
def containsText (text part : String) : Bool := decide (part.toList <:+: text.toList)

/-- A client error is permanent; everything else is assumed to be worth a retry. -/
def classifyBlobErr (error : String) : String :=
  let text := error.map Char.toLower
  if ["400", "401", "403", "404", "413", "422"].any (containsText text) then "permanent"
  else "transient"

/-- The only failure of `seal`. -/
def sealError : String := "aes-gcm encrypt: aead::Error"

/-- `get_blob`: the content must have the address it was asked for. -/
def getBlob (prims : Primitives) (id : String) (response : Except String Bytes) :
    Except String Bytes := do
  let bytes ← response
  let got := blobId prims bytes
  if got = id then .ok bytes
  else .error ("blob hash mismatch: requested " ++ id ++ ", got " ++ got)

/-! ## State -/

/-- A row of the local history. -/
structure HistoryRow where
  ts : String
  kind : String
  origin : String
  direction : String
  preview : String
  mime : String
  size : Int
  blobId : String
  name : String
  deriving DecidableEq, Repr

/-- The clip events shown in the UI. -/
inductive Notice where
  | outText (text : String) (sensitive : Option String)
  | outImage (name : String) (size : Int)
  | outFile (kind name : String) (size : Int) (onDemand : Bool)
  | inText (text origin : String)
  | inBlob (kind name : String) (size : Int) (path : String)
  deriving DecidableEq, Repr

/-- Content put on the OS clipboard. -/
inductive Clipboard where
  | text (text : String)
  | sensitive (text : String)
  | html (html text : String)
  | image (rgba : Bytes)
  | files (paths : List String)
  deriving DecidableEq, Repr

/-- An effect outside the engine.  A clip frame is listed with the hold kept under
its blob id when it is handed to the socket. -/
inductive Output where
  | clip (event : ClipEvent) (held : Option Hold) (delivered : Bool)
  | setPool (pool : String) (delivered : Bool)
  | put (id : String) (body : Bytes)
  | stored (id : String) (body : Bytes)
  | history (row : HistoryRow)
  | notice (notice : Notice)
  | error (message : String)
  | notify (message : String)
  | clipboard (content : Clipboard)
  | file (name : String) (content : Bytes)
  | saveToken (token : String)
  deriving DecidableEq, Repr

/-- The already-built frame of an upload with its bookkeeping, done once the frame
went out.  Images report errors with `error` and carry the hash to remember. -/
structure Upload where
  event : ClipEvent
  histKind : String
  histPreview : String
  histMime : String
  histSize : Int
  histName : String
  notice : Notice
  errViaError : Bool
  echoImgSha : Option String
  deriving DecidableEq, Repr

/-- What a finished worker reports. -/
inductive BlobResult where
  | upload (outcome : Except String Unit) (report : Upload)
  | serve (id : String) (ok : Bool)
  | download (outcome : Except String Bytes) (event : ClipEvent)
  deriving DecidableEq, Repr

/-- A spawned worker that has not finished. -/
inductive Worker where
  | upload (payload : Bytes) (report : Upload)
  | serve (id : String) (bytes : Bytes)
  | download (event : ClipEvent)
  deriving DecidableEq, Repr

/-- What the engine keeps of `hello_ok` while a connection lasts. -/
structure Session where
  threshold : Int
  maxMsg : Int
  deriving DecidableEq, Repr

structure Engine where
  key : GroupKey
  token : String
  seq : Nat
  recentText : Dedup
  recentImg : Dedup
  recentFiles : Dedup
  holds : Holds
  pendingUploads : List Upload
  session : Option Session
  workers : List Worker
  results : List BlobResult
  log : List Output

/-- Collaborators of the engine: cryptography, the length of an encoded clip frame,
the privacy filter with the user's patterns, the image codec and the downloads
directory. -/
structure Env where
  prims : Primitives
  frameSize : ClipEvent → Except String Nat
  classify : String → Option String
  decodeImage : Bytes → Except String Bytes
  downloads : String

namespace Engine

/-- `run` before its first connection. -/
def start (env : Env) (config : Config) : Engine where
  key := config.e2eKey env.prims
  token := config.token
  seq := 0
  recentText := []
  recentImg := []
  recentFiles := []
  holds := .empty
  pendingUploads := []
  session := none
  workers := []
  results := []
  log := []

def emit (engine : Engine) (output : Output) : Engine :=
  { engine with log := engine.log ++ [output] }

/-- `ws::send` of a clip frame. -/
def sendClip (engine : Engine) (event : ClipEvent) (delivered : Bool) : Engine :=
  engine.emit (.clip event (engine.holds.get? event.blobId) delivered)

/-- Spawn a worker; an upload hands its body to `put_blob`. -/
def spawn (env : Env) (engine : Engine) (worker : Worker) : Engine :=
  let engine := { engine with workers := engine.workers ++ [worker] }
  match worker with
  | .upload payload _ => engine.emit (.put (blobId env.prims payload) payload)
  | .serve _ bytes => engine.emit (.put (blobId env.prims bytes) bytes)
  | .download _ => engine

end Engine

/-! ## Outbound clips -/

/-- What the surroundings contribute to one outbound clip: drawn values, the
recipients selected in the UI, whether `ws::send` succeeds, the time at which the
content is taken, and the time at which the send returns. -/
structure Sending where
  draw : Draw
  targets : Targets
  delivered : Bool
  now : Nat
  sentAt : Nat
  deriving DecidableEq, Repr

/-- A clipboard image: its pixels, the outcome of encoding them, and the path of the
cached thumbnail. -/
structure Picture where
  rgba : Bytes
  png : Except String Bytes
  cached : Option String
  deriving DecidableEq, Repr

/-- A file to send with what the disk answers: its size and its content. -/
structure Document where
  path : String
  metadata : Except String Nat
  content : Except String Bytes
  deriving DecidableEq, Repr

/-- Encrypt a payload when a key is set. -/
def protect (prims : Primitives) (key : GroupKey) (nonce : Nonce) (data : Bytes) :
    Option Bytes :=
  match key with
  | some (key, _) => E2e.sealPayload prims key nonce data
  | none => some data

/-- The metadata of an encrypted payload when a key is set. -/
def metaOf (key : GroupKey) : Option EncMeta := key.map fun entry => E2e.encMeta entry.2

def kilobytes (size : Int) : String := toString (max (size / 1024) 1)

namespace Engine

/-- Send a text clip on the loop.  `false` means that the control channel failed. -/
def sendTextClip (env : Env) (engine : Engine) (maxMsg : Int) (text : String)
    (html : Option String) (sending : Sending) : Engine × Bool :=
  let engine := { engine with seq := engine.seq + 1 }
  match ClipEvent.newText env.prims sending.draw engine.seq text html engine.key
      sending.targets with
  | none =>
      (engine.emit (.error ("텍스트 클립 생성 실패(E2E 암호화?) — 전송 안 함: " ++ sealError)), true)
  | some event =>
      match env.frameSize event with
      | .error error =>
          (engine.emit (.error ("텍스트 클립 인코딩 실패 — 전송 안 함: " ++ error)), true)
      | .ok size =>
          -- The server's read limit would drop the connection with the frame.
          if 0 < maxMsg ∧ maxMsg < size then
            (engine.emit (.error ("텍스트가 서버 전송 한도(" ++ kilobytes maxMsg ++
              "KB)를 초과하여 동기화하지 않았습니다 (" ++ kilobytes size ++ "KB)")), true)
          else
            let engine := engine.sendClip event sending.delivered
            if sending.delivered then
              let engine :=
                { engine with
                  recentText := engine.recentText.remember
                    (env.prims.sha256Hex (bytesOf text)) sending.sentAt }
              ((engine.emit (.history ⟨event.ts, "text", "me", "out", text, "text/plain",
                (bytesOf text).length, "", ""⟩)).emit (.notice (.outText text none)), true)
            else (engine, false)

/-- Build an image clip and upload it off the loop; the frame follows the upload. -/
def spawnImageClip (env : Env) (engine : Engine) (picture : Picture) (echoSha : String)
    (sending : Sending) : Engine :=
  match picture.png with
  | .error error => engine.emit (.error ("이미지 PNG 인코딩 실패 — 전송 안 함: " ++ error))
  | .ok png =>
      match protect env.prims engine.key sending.draw.nonce png with
      | none => engine.emit (.error ("이미지 E2E 암호화 실패 — 전송 안 함: " ++ sealError))
      | some payload =>
          let engine := { engine with seq := engine.seq + 1 }
          let event : ClipEvent :=
            { id := sending.draw.id
              seq := engine.seq
              ts := sending.draw.ts
              mime := ["image/png"]
              name := "clipboard.png"
              blobId := blobId env.prims payload
              size := png.length
              sha256 := env.prims.sha256Hex payload
              targets := sending.targets
              enc := metaOf engine.key }
          engine.spawn env (.upload payload
            { event
              histKind := "image"
              histPreview := picture.cached.getD "(클립보드 이미지)"
              histMime := "image/png"
              histSize := png.length
              histName := "clipboard.png"
              notice := .outImage "clipboard.png" png.length
              errViaError := true
              echoImgSha := some echoSha })

/-- Advertise a file that is uploaded when the server asks.  With a key the exact
ciphertext is held, without one the path. -/
def advertiseFile (env : Env) (engine : Engine) (document : Document) (size : Int)
    (sending : Sending) : Engine × Bool :=
  let name := fileName document.path
  let mime := mimeOf document.path
  let kind := if mime.startsWith "image/" then "image" else "file"
  match document.content with
  | .error error => (engine.emit (.notify ("읽기 실패: " ++ error)), true)
  | .ok data =>
      match protect env.prims engine.key sending.draw.nonce data with
      | none =>
          (engine.emit (.error ("파일 E2E 암호화 실패 — 전송 안 함: " ++ sealError)), true)
      | some payload =>
          let sha := env.prims.sha256Hex payload
          let hold :=
            if engine.key.isSome then Hold.encrypted payload else Hold.plain document.path
          let engine := { engine with holds := engine.holds.insert ("sha256:" ++ sha) hold }
          let event : ClipEvent :=
            { id := sending.draw.id
              seq := engine.seq
              ts := sending.draw.ts
              mime := [mime]
              name
              blobId := "sha256:" ++ sha
              size
              sha256 := sha
              onDemand := true
              targets := sending.targets
              enc := metaOf engine.key }
          let engine := engine.sendClip event sending.delivered
          if sending.delivered then
            ((engine.emit (.history ⟨event.ts, kind, "me", "out", name, mime, size, event.blobId,
              name⟩)).emit (.notice (.outFile kind name size true)), true)
          else (engine, false)

/-- Upload a file off the loop; the frame follows the upload. -/
def uploadFile (env : Env) (engine : Engine) (document : Document) (size : Int)
    (sending : Sending) : Engine :=
  let name := fileName document.path
  let mime := mimeOf document.path
  let kind := if mime.startsWith "image/" then "image" else "file"
  match document.content with
  | .error error => engine.emit (.notify ("읽기 실패: " ++ error))
  | .ok data =>
      match protect env.prims engine.key sending.draw.nonce data with
      | none => engine.emit (.error ("파일 E2E 암호화 실패 — 전송 안 함: " ++ sealError))
      | some payload =>
          let event : ClipEvent :=
            { id := sending.draw.id
              seq := engine.seq
              ts := sending.draw.ts
              mime := [mime]
              name
              blobId := blobId env.prims payload
              size
              sha256 := env.prims.sha256Hex payload
              targets := sending.targets
              enc := metaOf engine.key }
          engine.spawn env (.upload payload
            { event
              histKind := kind
              histPreview := name
              histMime := mime
              histSize := size
              histName := name
              notice := .outFile kind name size false
              errViaError := false
              echoImgSha := none })

/-- Send a file: above the server's threshold on demand, else eagerly. -/
def sendFileClip (env : Env) (engine : Engine) (threshold : Int) (document : Document)
    (sending : Sending) : Engine × Bool :=
  match document.metadata with
  | .error error => (engine.emit (.notify ("파일을 열 수 없습니다: " ++ error)), true)
  | .ok size =>
      let engine := { engine with seq := engine.seq + 1 }
      if 0 < threshold ∧ threshold < size then engine.advertiseFile env document size sending
      else (engine.uploadFile env document size sending, true)

/-- Send copied files in order, skipping those this client just received; a control
channel failure ends the loop. -/
def sendFiles (env : Env) (threshold : Int) : Engine → List (Document × Sending) → Engine × Bool
  | engine, [] => (engine, true)
  | engine, (document, sending) :: rest =>
      if engine.recentFiles.seen document.path sending.now then sendFiles env threshold engine rest
      else
        match engine.sendFileClip env threshold document sending with
        | (engine, true) => sendFiles env threshold engine rest
        | (engine, false) => (engine, false)

end Engine

/-! ## Inbound clips -/

/-- What the surroundings contribute to applying a clip: the mark-as-sensitive flag,
the outcome of the clipboard write, and the time. -/
structure Applying where
  mark : Bool
  outcome : Except String Unit
  now : Nat
  deriving DecidableEq, Repr

/-- `String::from_utf8_lossy`. -/
def textOf (bytes : Bytes) : String := String.ofList (decodeLossy bytes)

/-- The bytes of a text decode to it. -/
@[simp] theorem textOf_bytesOf (text : String) : textOf (bytesOf text) = text := by
  rw [textOf, bytesOf, decodeLossy_utf8, String.ofList_toList]

/-- `trim_start_matches`: drop the prefix as often as it stands in front. -/
def trimStartMatches (front : List Char) : Nat → List Char → List Char
  | 0, text => text
  | fuel + 1, text =>
      if front.isPrefixOf text then trimStartMatches front fuel (text.drop front.length) else text

/-- The name a received blob is stored under: the last component of the announced
name, or the blob id without its scheme. -/
def downloadName (event : ClipEvent) : String :=
  match (fileName? event.name).filter fun name => name != "" && name != "." && name != ".." with
  | some name => name
  | none =>
      String.ofList (trimStartMatches "sha256:".toList event.blobId.length event.blobId.toList)

/-- The sender names a key other than ours. -/
def foreignKey (enc : EncMeta) (kid : String) : Bool := enc.keyId != "" && enc.keyId != kid

namespace Engine

/-- The readable content of a text clip, or the output that reports why there is
none. -/
def incomingText (env : Env) (engine : Engine) (event : ClipEvent) : Except Output String :=
  match event.enc, engine.key with
  | some enc, some (key, kid) =>
      if foreignKey enc kid then
        .error (.notify ("다른 암호로 암호화된 클립을 받았습니다 (keyId=" ++ enc.keyId ++ ")"))
      else
        match env.prims.decodeBase64 event.inlineText with
        | .error error => .error (.error ("받은 텍스트 base64 디코딩 실패: " ++ error))
        | .ok raw =>
            match E2e.openPayload env.prims key raw with
            | some plain => .ok (textOf plain)
            | none => .error (.notify "받은 텍스트를 복호화할 수 없습니다 (암호문?)")
  | some _, none => .error (.notify "암호화된 텍스트를 받았지만 암호문이 설정되지 않았습니다")
  | none, _ => .ok event.inlineText

/-- The rich-text variant of a text clip; one that cannot be decrypted is dropped. -/
def incomingHtml (env : Env) (engine : Engine) (event : ClipEvent) : Option String :=
  if event.html = "" then none
  else
    match event.enc, engine.key with
    | some _, some (key, _) =>
        match env.prims.decodeBase64 event.html with
        | .ok raw => (E2e.openPayload env.prims key raw).map textOf
        | .error _ => none
    | some _, none => none
    | none, _ => some event.html

/-- Apply an inbound text clip on the loop. -/
def handleIncomingText (env : Env) (engine : Engine) (event : ClipEvent)
    (applying : Applying) : Engine :=
  match engine.incomingText env event with
  | .error output => engine.emit output
  | .ok text =>
      let content :=
        match engine.incomingHtml env event with
        | some html => Clipboard.html html text
        | none => if applying.mark then .sensitive text else .text text
      let engine :=
        { engine with
          recentText := engine.recentText.remember (env.prims.sha256Hex (bytesOf text))
            applying.now }
      let engine := engine.emit
        (match applying.outcome with
        | .ok () => .clipboard content
        | .error error => .error ("받은 텍스트 클립보드 적용 실패(RDP 경합?): " ++ error))
      (engine.emit (.history ⟨event.ts, "text", event.originDevice, "in", text, "text/plain",
        (bytesOf text).length, "", ""⟩)).emit (.notice (.inText text event.originDevice))

/-- The readable content of a downloaded blob, or the output that reports why there
is none. -/
def incomingBlob (env : Env) (engine : Engine) (event : ClipEvent) (data : Bytes) :
    Except Output Bytes :=
  match event.enc, engine.key with
  | some enc, some (key, kid) =>
      if foreignKey enc kid then
        .error (.notify ("다른 암호로 암호화된 파일을 받았습니다 (keyId=" ++ enc.keyId ++ ")"))
      else
        match E2e.openPayload env.prims key data with
        | some plain => .ok plain
        | none => .error (.notify "받은 파일을 복호화할 수 없습니다 (암호문?)")
  | some _, none => .error (.notify "암호화된 파일을 받았지만 암호문이 설정되지 않았습니다")
  | none, _ => .ok data

/-- Apply a downloaded blob: decrypt, store, put on the clipboard. -/
def applyBlob (env : Env) (engine : Engine) (event : ClipEvent) (data : Bytes)
    (applying : Applying) : Engine :=
  match engine.incomingBlob env event data with
  | .error output => engine.emit output
  | .ok plain =>
      let name := downloadName event
      let path := env.downloads ++ "/" ++ name
      let engine := engine.emit (.file name plain)
      let engine :=
        if event.isImage then
          match env.decodeImage plain with
          | .ok rgba =>
              { engine with
                recentImg := engine.recentImg.remember (env.prims.sha256Hex rgba)
                  applying.now }.emit
                (match applying.outcome with
                | .ok () => .clipboard (.image rgba)
                | .error error => .error ("받은 이미지 클립보드 적용 실패(RDP 경합?): " ++ error))
          | .error error => engine.emit (.error ("받은 이미지 디코딩 실패: " ++ error))
        else
          { engine with recentFiles := engine.recentFiles.remember path applying.now }.emit
            (match applying.outcome with
            | .ok () => .clipboard (.files [path])
            | .error error => .error ("받은 파일 클립보드 적용 실패(RDP 경합?): " ++ error))
      (engine.emit (.history ⟨event.ts, event.kind, event.originDevice, "in", path,
        event.mime.headD "", plain.length, event.blobId, name⟩)).emit
        (.notice (.inBlob event.kind name plain.length path))

end Engine

end CopySync.Desktop
