import CopySync.Desktop.Machine

/-!
# Desktop client: what becomes of outbound content

Every piece of outbound content is decided about before anything happens: it is
refused with a message, its frame is handed to the socket at once, or its bytes are
uploaded first and the frame follows.  The functions of the engine carry out such a
plan, so that what they do to the engine is said once.
-/

namespace CopySync.Desktop

open Foundation Client

/-- What handling one piece of content comes to.  A posted frame may need a hold under
its blob id and may leave a hash to remember. -/
inductive Plan where
  | refuse (output : Output)
  | post (event : ClipEvent) (hold : Option Hold) (row : HistoryRow) (notice : Notice)
      (sha : Option String)
  | upload (payload : Bytes) (report : Upload)

def textPlan (env : Env) (key : GroupKey) (seq : Nat) (maxMsg : Int) (text : String)
    (html : Option String) (sending : Sending) : Plan :=
  match ClipEvent.newText env.prims sending.draw seq text html key sending.targets with
  | none => .refuse (.error ("텍스트 클립 생성 실패(E2E 암호화?) — 전송 안 함: " ++ sealError))
  | some event =>
      match env.frameSize event with
      | .error error => .refuse (.error ("텍스트 클립 인코딩 실패 — 전송 안 함: " ++ error))
      | .ok size =>
          if 0 < maxMsg ∧ maxMsg < size then
            .refuse (.error ("텍스트가 서버 전송 한도(" ++ kilobytes maxMsg ++
              "KB)를 초과하여 동기화하지 않았습니다 (" ++ kilobytes size ++ "KB)"))
          else
            .post event none
              ⟨event.ts, "text", "me", "out", text, "text/plain", (bytesOf text).length, "", ""⟩
              (.outText text none) (some (env.prims.sha256Hex (bytesOf text)))

def imagePlan (env : Env) (key : GroupKey) (seq : Nat) (picture : Picture) (echoSha : String)
    (sending : Sending) : Plan :=
  match picture.png with
  | .error error => .refuse (.error ("이미지 PNG 인코딩 실패 — 전송 안 함: " ++ error))
  | .ok png =>
      match protect env.prims key sending.draw.nonce png with
      | none => .refuse (.error ("이미지 E2E 암호화 실패 — 전송 안 함: " ++ sealError))
      | some payload =>
          .upload payload
            { event :=
                { id := sending.draw.id
                  seq
                  ts := sending.draw.ts
                  mime := ["image/png"]
                  name := "clipboard.png"
                  blobId := blobId env.prims payload
                  size := png.length
                  sha256 := env.prims.sha256Hex payload
                  targets := sending.targets
                  enc := metaOf key }
              histKind := "image"
              histPreview := picture.cached.getD "(클립보드 이미지)"
              histMime := "image/png"
              histSize := png.length
              histName := "clipboard.png"
              notice := .outImage "clipboard.png" png.length
              errViaError := true
              echoImgSha := some echoSha }

/-- A file whose size is known: above the server's threshold on demand, else
eagerly. -/
def contentPlan (env : Env) (key : GroupKey) (seq : Nat) (threshold : Int) (document : Document)
    (size : Nat) (sending : Sending) : Plan :=
  let name := fileName document.path
  let mime := mimeOf document.path
  let kind := if mime.startsWith "image/" then "image" else "file"
  match document.content with
  | .error error => .refuse (.notify ("읽기 실패: " ++ error))
  | .ok data =>
      match protect env.prims key sending.draw.nonce data with
      | none => .refuse (.error ("파일 E2E 암호화 실패 — 전송 안 함: " ++ sealError))
      | some payload =>
          let sha := env.prims.sha256Hex payload
          let event : ClipEvent :=
            { id := sending.draw.id
              seq
              ts := sending.draw.ts
              mime := [mime]
              name
              blobId := "sha256:" ++ sha
              size
              sha256 := sha
              targets := sending.targets
              enc := metaOf key }
          if 0 < threshold ∧ threshold < size then
            .post { event with onDemand := true }
              (some (if key.isSome then .encrypted payload else .plain document.path))
              ⟨event.ts, kind, "me", "out", name, mime, size, event.blobId, name⟩
              (.outFile kind name size true) none
          else
            .upload payload
              { event
                histKind := kind
                histPreview := name
                histMime := mime
                histSize := size
                histName := name
                notice := .outFile kind name size false
                errViaError := false
                echoImgSha := none }

def filePlan (env : Env) (key : GroupKey) (seq : Nat) (threshold : Int) (document : Document)
    (sending : Sending) : Plan :=
  match document.metadata with
  | .error error => .refuse (.notify ("파일을 열 수 없습니다: " ++ error))
  | .ok size => contentPlan env key seq threshold document size sending

/-- The plans there are. -/
inductive Plan.Made (env : Env) : Plan → Prop where
  | text (key : GroupKey) (seq : Nat) (maxMsg : Int) (text : String) (html : Option String)
      (sending : Sending) : Made env (textPlan env key seq maxMsg text html sending)
  | image (key : GroupKey) (seq : Nat) (picture : Picture) (echoSha : String)
      (sending : Sending) : Made env (imagePlan env key seq picture echoSha sending)
  | file (key : GroupKey) (seq : Nat) (threshold : Int) (document : Document)
      (sending : Sending) : Made env (filePlan env key seq threshold document sending)

/-- Clips whose bytes are uploaded before their frame is sent. -/
def Upload.Eager (report : Upload) : Prop :=
  report.event.isBlob = true ∧ report.event.onDemand = false

/-- What shows a refusal to the user. -/
def Output.refusal : Output → Bool
  | .error _ | .notify _ => true
  | _ => false

/-- What plans look like: a frame is posted at once for a text or for a file on
demand. -/
def Plan.Proper : Plan → Prop
  | .refuse output => output.refusal = true
  | .post event _ row notice _ =>
      event.isBlob = false ∧ row.blobId = "" ∧ (∃ text, notice = .outText text none) ∨
        event.isBlob = true ∧ event.onDemand = true ∧ row.blobId = event.blobId ∧
          ∃ kind name size, notice = .outFile kind name size true
  | .upload _ report => report.Eager

theorem isBlob_of_digest {event : ClipEvent} {sha : String}
    (named : event.blobId = "sha256:" ++ sha) :
    event.isBlob = true := by
  rw [ClipEvent.isBlob, named, bne_iff_ne]
  intro empty
  have length := congrArg String.length empty
  simp [String.length_append] at length

theorem newText_isBlob {prims : Primitives} {draw : Draw} {seq : Nat} {text : String}
    {html : Option String} {key : GroupKey} {targets : Targets} {event : ClipEvent}
    (built : ClipEvent.newText prims draw seq text html key targets = some event) :
    event.isBlob = false := by
  cases key with
  | none =>
      cases built
      rfl
  | some pair =>
      simp only [ClipEvent.newText, Option.bind_eq_bind, Option.bind_eq_some_iff] at built
      obtain ⟨raw, -, built⟩ := built
      split at built
      next =>
        obtain ⟨coded, -, same⟩ := Option.bind_eq_some_iff.mp built
        cases same
        rfl
      next =>
        cases built
        rfl

theorem textPlan_proper (env : Env) (key : GroupKey) (seq : Nat) (maxMsg : Int) (text : String)
    (html : Option String) (sending : Sending) :
    (textPlan env key seq maxMsg text html sending).Proper := by
  rw [textPlan]
  split
  · rfl
  next event built =>
    split
    · rfl
    · split_ifs
      · rfl
      · exact .inl ⟨newText_isBlob built, rfl, text, rfl⟩

theorem imagePlan_proper (env : Env) (key : GroupKey) (seq : Nat) (picture : Picture)
    (echoSha : String) (sending : Sending) :
    (imagePlan env key seq picture echoSha sending).Proper := by
  rw [imagePlan]
  split
  · rfl
  · split
    · rfl
    · exact ⟨isBlob_of_digest rfl, rfl⟩

theorem filePlan_proper (env : Env) (key : GroupKey) (seq : Nat) (threshold : Int)
    (document : Document) (sending : Sending) :
    (filePlan env key seq threshold document sending).Proper := by
  rw [filePlan]
  split
  · rfl
  next size _ =>
    simp only [contentPlan]
    split
    · rfl
    · split
      · rfl
      · by_cases large : 0 < threshold ∧ threshold < size
        · rw [if_pos large]
          exact .inr ⟨isBlob_of_digest rfl, rfl, rfl, _, _, _, rfl⟩
        · rw [if_neg large]
          exact ⟨isBlob_of_digest rfl, rfl⟩

theorem Plan.Made.proper {env : Env} {plan : Plan} (made : plan.Made env) : plan.Proper := by
  cases made with
  | text => exact textPlan_proper ..
  | image => exact imagePlan_proper ..
  | file => exact filePlan_proper ..

namespace Engine

variable (env : Env) (engine : Engine)

/-- Carry out a plan; `false` means that the control channel failed. -/
def carryOut (plan : Plan) (sending : Sending) : Engine × Bool :=
  match plan with
  | .refuse output => (engine.emit output, true)
  | .post event hold row notice sha =>
      let engine :=
        match hold with
        | some hold => { engine with holds := engine.holds.insert event.blobId hold }
        | none => engine
      let engine := engine.sendClip event sending.delivered
      if sending.delivered then
        let engine :=
          match sha with
          | some sha =>
              { engine with recentText := engine.recentText.remember sha sending.sentAt }
          | none => engine
        ((engine.emit (.history row)).emit (.notice notice), true)
      else (engine, false)
  | .upload payload report => (engine.spawn env (.upload payload report), true)

/-- The engine with the sequence number its next clip gets. -/
def number (numbered : Bool) : Engine :=
  if numbered then { engine with seq := engine.seq + 1 } else engine

theorem number_shape (numbered : Bool) : ∃ seq, engine.number numbered = { engine with seq } := by
  cases numbered with
  | true => exact ⟨engine.seq + 1, rfl⟩
  | false => exact ⟨engine.seq, rfl⟩

theorem sendTextClip_eq (maxMsg : Int) (text : String) (html : Option String)
    (sending : Sending) :
    engine.sendTextClip env maxMsg text html sending =
      (engine.number true).carryOut env
        (textPlan env engine.key (engine.seq + 1) maxMsg text html sending) sending := by
  cases built : ClipEvent.newText env.prims sending.draw (engine.seq + 1) text html engine.key
      sending.targets with
  | none => simp [sendTextClip, textPlan, number, built, carryOut]
  | some event =>
      cases sized : env.frameSize event with
      | error error => simp [sendTextClip, textPlan, number, built, sized, carryOut]
      | ok size =>
          by_cases large : 0 < maxMsg ∧ maxMsg < size
          · simp [sendTextClip, textPlan, number, built, sized, large, carryOut]
          · simp only [sendTextClip, textPlan, number, built, sized, large, carryOut, if_true,
              if_false]

/-- An image is numbered when it is uploaded. -/
theorem spawnImageClip_eq (picture : Picture) (echoSha : String) (sending : Sending) :
    ∃ numbered, engine.spawnImageClip env picture echoSha sending =
      ((engine.number numbered).carryOut env
        (imagePlan env engine.key (engine.seq + 1) picture echoSha sending) sending).1 := by
  cases encoded : picture.png with
  | error error => exact ⟨false, by simp [spawnImageClip, imagePlan, number, encoded, carryOut]⟩
  | ok png =>
      cases produced : protect env.prims engine.key sending.draw.nonce png with
      | none =>
          exact ⟨false, by simp [spawnImageClip, imagePlan, number, encoded, produced, carryOut]⟩
      | some payload =>
          exact ⟨true, by simp [spawnImageClip, imagePlan, number, encoded, produced, carryOut]⟩

/-- A file is numbered when its size is known. -/
theorem sendFileClip_eq (threshold : Int) (document : Document) (sending : Sending) :
    engine.sendFileClip env threshold document sending =
      (engine.number document.metadata.isOk).carryOut env
        (filePlan env engine.key (engine.seq + 1) threshold document sending) sending := by
  cases measured : document.metadata with
  | error error => simp [sendFileClip, filePlan, number, measured, carryOut, Except.isOk,
      Except.toBool]
  | ok size =>
      have numbered : (Except.ok size : Except String Nat).isOk = true := rfl
      simp only [sendFileClip, filePlan, contentPlan, number, measured, numbered, if_true]
      cases read : document.content with
      | error error => simp [advertiseFile, uploadFile, read, carryOut]
      | ok data =>
          cases produced : protect env.prims engine.key sending.draw.nonce data with
          | none => simp [advertiseFile, uploadFile, read, produced, carryOut]
          | some payload =>
              by_cases large : 0 < threshold ∧ threshold < size
              · simp only [advertiseFile, read, produced, large, carryOut, if_true, and_self]
              · simp only [uploadFile, read, produced, large, carryOut, if_false, blobId]

variable {env engine}

/-- A command is a series of plans, the record of withheld text or a pool change,
and perhaps the end of the connection. -/
theorem command_made {motive : Engine → Prop} (session : Session) (cmd : Cmd)
    (initial : motive engine)
    (carried : ∀ current numbered plan sending, plan.Made env → motive current →
      motive ((current.number numbered).carryOut env plan sending).1)
    (withheld : ∀ current row text reason, motive current → row.blobId = "" →
      motive ((current.emit (.history row)).emit (.notice (.outText text (some reason)))))
    (pooled : ∀ current name delivered, motive current →
      motive (current.emit (.setPool name delivered)))
    (dropped : ∀ current why, motive current → motive (current.drop why)) :
    motive (engine.command env session cmd) := by
  have settled : ∀ (outcome : Engine × Bool) why, motive outcome.1 →
      motive (settle why outcome) := by
    rintro ⟨current, delivered⟩ why held
    cases delivered with
    | true => exact held
    | false => exact dropped current why held
  have texts : ∀ maxMsg text html sending,
      motive (engine.sendTextClip env maxMsg text html sending).1 := by
    intro maxMsg text html sending
    rw [sendTextClip_eq]
    exact carried _ _ _ _ (.text ..) initial
  have file : ∀ current threshold document sending, motive current →
      motive (sendFileClip env current threshold document sending).1 := by
    intro current threshold document sending held
    rw [sendFileClip_eq]
    exact carried _ _ _ _ (.file ..) held
  have files : ∀ documents current threshold, motive current →
      motive (sendFiles env threshold current documents).1 := by
    intro documents
    induction documents with
    | nil => exact fun _ _ held => held
    | cons entry rest ih =>
        intro current threshold held
        obtain ⟨document, sending⟩ := entry
        have sent := file current threshold document sending held
        rw [sendFiles]
        split_ifs
        · exact ih current threshold held
        · split
          next next equal => exact ih next threshold (by rwa [equal] at sent)
          next next equal => rwa [equal] at sent
  cases cmd with
  | localText text html exclude sending =>
      simp only [command]
      split_ifs
      · exact initial
      · split
        · exact withheld _ _ _ _ initial rfl
        · exact settled _ _ (texts _ _ _ _)
      · exact settled _ _ (texts _ _ _ _)
  | sendText text sending => exact settled _ _ (texts _ _ _ _)
  | localImage picture sending =>
      simp only [command]
      split_ifs
      · exact initial
      · obtain ⟨numbered, same⟩ := spawnImageClip_eq env engine picture _ sending
        rw [same]
        exact carried _ _ _ _ (.image ..) initial
  | sendFile document sending => exact settled _ _ (file _ _ _ _ initial)
  | localFiles documents => exact settled _ _ (files _ _ _ initial)
  | setPool name delivered => exact settled _ _ (pooled _ _ _ initial)

theorem command_induction {motive : Engine → Prop} (session : Session) (cmd : Cmd)
    (initial : motive engine)
    (carried : ∀ current numbered plan sending, plan.Proper → motive current →
      motive ((current.number numbered).carryOut env plan sending).1)
    (withheld : ∀ current row text reason, motive current → row.blobId = "" →
      motive ((current.emit (.history row)).emit (.notice (.outText text (some reason)))))
    (pooled : ∀ current name delivered, motive current →
      motive (current.emit (.setPool name delivered)))
    (dropped : ∀ current why, motive current → motive (current.drop why)) :
    motive (engine.command env session cmd) :=
  command_made session cmd initial
    (fun current numbered plan sending made => carried current numbered plan sending made.proper)
    withheld pooled dropped

end Engine

end CopySync.Desktop
