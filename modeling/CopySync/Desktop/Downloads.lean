import CopySync.Desktop.Turn
import CopySync.Foundation.FileName
import CopySync.Foundation.PlatformPath

/-!
# Desktop client: files of received blobs

The bytes a download brings to `apply_blob` were compared with the blob id when they came,
in the worker that fetched them; they wait in the result channel with their event.  The
file they are written to is named by the last component of the announced name, as the
platform reads it, or by the digest in the blob id.
-/

namespace CopySync.Desktop

open Foundation Client

/-! ## Results of downloads -/

/-- The bytes of every finished download have the address their event asked for. -/
def Engine.Intact (env : Env) (engine : Engine) : Prop :=
  ∀ data event, .download (.ok data) event ∈ engine.results → blobId env.prims data = event.blobId

namespace Engine

variable {env : Env} {engine next : Engine}

theorem getBlob_eq_ok {prims : Primitives} {id : String} {response : Except String Bytes}
    {data : Bytes} (fetched : getBlob prims id response = .ok data) : blobId prims data = id := by
  cases response with
  | error error => cases fetched
  | ok bytes =>
      rw [getBlob] at fetched
      change (if blobId prims bytes = id then .ok bytes else _) = Except.ok data at fetched
      split at fetched
      next same =>
        cases fetched
        exact same
      · cases fetched

theorem carryOut_results (plan : Plan) (sending : Sending) :
    (engine.carryOut env plan sending).1.results = engine.results := by
  cases plan with
  | refuse output => rfl
  | upload payload report => rfl
  | post event hold row notice sha =>
      obtain ⟨holds, held, carried⟩ := engine.carryOut_post env event hold row notice sha sending
      rw [carried]
      split_ifs <;> rfl

/-- Commands add no result. -/
theorem command_results (session : Session) (cmd : Cmd) :
    (engine.command env session cmd).results = engine.results := by
  refine command_induction (motive := fun current => current.results = engine.results) session cmd
    rfl ?_ ?_ ?_ ?_
  · intro current numbered plan sending proper same
    obtain ⟨seq, counted⟩ := current.number_shape numbered
    rw [carryOut_results, counted]
    exact same
  · intro current row text reason same blobless
    exact same
  · intro current name delivered same
    exact same
  · intro current why same
    exact same

theorem connect_results (session : Session) (accepted now : Nat) :
    (engine.connect session accepted now).results = engine.results := by
  obtain ⟨recentImg, message, same⟩ := connect_shape engine session accepted now
  rw [same]
  split_ifs <;> rfl

theorem Receives.results {content : Option Clipboard} (receives : engine.Receives content next) :
    next.results = engine.results := by
  obtain ⟨recentText, recentImg, recentFiles, outputs, -, -, rfl⟩ := receives
  rfl

theorem handleFrame_results (frame : Frame) :
    (engine.handleFrame env frame).results = engine.results := by
  cases frame with
  | keepalive | other | badClip => rfl
  | tokenRotate token =>
      rw [handleFrame]
      split_ifs <;> rfl
  | clip event applying =>
      rw [handleFrame]
      split_ifs
      · rfl
      · exact (handleIncomingText_receives event applying).results
  | blobRequest id reread =>
      simp only [handleFrame, serve]
      repeat' split
      all_goals rfl

theorem handleResult_results (result : BlobResult) (delivered : Bool) (applying : Applying) :
    (engine.handleResult env result delivered applying).results = engine.results := by
  rcases handleResult_cases env result delivered applying with
    ⟨data, event, same⟩ | ⟨_, _, _, _, _, same⟩
  · rw [same]
    exact (applyBlob_receives event data applying).results
  · rw [same]

/-- A download reports its bytes only when they have the address. -/
theorem finishWorker_results (worker : Worker) (response : Except String Bytes) :
    ∃ result, (engine.finishWorker env worker response).results = engine.results ++ [result] ∧
      ∀ data event, result = .download (.ok data) event → blobId env.prims data = event.blobId := by
  cases worker with
  | upload payload report =>
      cases response with
      | ok body => exact ⟨_, rfl, fun _ _ same => by cases same⟩
      | error error => exact ⟨_, rfl, fun _ _ same => by cases same⟩
  | serve id bytes =>
      cases response with
      | ok body => exact ⟨_, rfl, fun _ _ same => by cases same⟩
      | error error => exact ⟨_, rfl, fun _ _ same => by cases same⟩
  | download event =>
      refine ⟨_, rfl, ?_⟩
      intro data other same
      obtain ⟨outcome, rfl⟩ := BlobResult.download.inj same
      cases fetched : getBlob env.prims event.blobId response with
      | ok bytes =>
          rw [fetched] at outcome
          cases outcome
          exact getBlob_eq_ok fetched
      | error error =>
          rw [fetched] at outcome
          cases outcome

theorem Intact.of_results (inv : engine.Intact env) (same : next.results = engine.results) :
    next.Intact env := by
  intro data event among
  exact inv data event (same ▸ among)

theorem Intact.step (inv : engine.Intact env) {action : Action}
    (stepped : engine.step env action = some next) : next.Intact env := by
  cases turn_of_step stepped with
  | connect session accepted now offline => exact inv.of_results (connect_results ..)
  | connectFailed error offline => exact inv.of_results rfl
  | lost why session connected => exact inv.of_results rfl
  | command cmd session connected => exact inv.of_results (command_results ..)
  | frame frame session connected => exact inv.of_results (handleFrame_results frame)
  | result delivered applying session result rest connected found =>
      intro data event among
      rw [handleResult_results] at among
      exact inv data event (found ▸ List.mem_cons_of_mem _ among)
  | finish index response worker found =>
      obtain ⟨result, added, addressed⟩ := @finishWorker_results env
        { engine with workers := engine.workers.eraseIdx index } worker response
      intro data event among
      rw [added] at among
      rcases List.mem_append.mp among with earlier | new
      · exact inv data event earlier
      · exact addressed data event (List.mem_singleton.mp new).symm

/-- What `apply_blob` is handed has the address its event asked for. -/
theorem intact {config : Config} (run : Reachable (Engine.step env) (.start env config) engine) :
    engine.Intact env := by
  apply run.invariant
  · intro data event among
    cases among
  · intro before after action inv _ stepped
    exact inv.step stepped

end Engine

/-! ## Names of received files -/

/-- The name `apply_blob` joins to the downloads directory. -/
def storedName (platform : Platform) (event : ClipEvent) : List Char :=
  let named := (PlatformPath.fileName? platform event.name.toList).filter fun name =>
    name ≠ [] ∧ name ≠ ['.'] ∧ name ≠ ['.', '.']
  named.getD (trimStartMatches "sha256:".toList event.blobId.length event.blobId.toList)

/-- The path `apply_blob` writes. -/
def storedPath (platform : Platform) (downloads : List PlatformPath.Component)
    (event : ClipEvent) : List PlatformPath.Component :=
  PlatformPath.join platform downloads (storedName platform event)

/-- The path is the downloads directory with one component, and the component is the name as
it stands. -/
def Contained (platform : Platform) (downloads : List PlatformPath.Component)
    (event : ClipEvent) : Prop :=
  PlatformPath.IsName platform (storedName platform event) ∧
    storedPath platform downloads event = downloads ++ [.normal (storedName platform event)]

theorem contained_iff {platform : Platform} {downloads : List PlatformPath.Component}
    {event : ClipEvent} :
    Contained platform downloads event ↔
      PlatformPath.IsName platform (storedName platform event) :=
  and_iff_left_of_imp fun single => PlatformPath.join_isName downloads single

theorem storedName_of_fileName {platform : Platform} {event : ClipEvent} {name : List Char}
    (found : PlatformPath.fileName? platform event.name.toList = some name) :
    storedName platform event = name := by
  obtain ⟨empty, dot, dots, -⟩ := PlatformPath.fileName?_eq_some found
  simp [storedName, found, Option.filter_some, empty, dot, dots]

/-! ### The blob id -/

theorem trimStartMatches_once {front rest : List Char} {fuel : Nat}
    (clear : ¬front.isPrefixOf rest) :
    trimStartMatches front (fuel + 2) (front ++ rest) = rest := by
  rw [trimStartMatches, if_pos (List.isPrefixOf_iff_prefix.mpr (List.prefix_append ..)),
    List.drop_left, trimStartMatches, if_neg clear]

/-- The characters of a digest are hexadecimal digits. -/
theorem not_mem_digest {digest : String} (hex : isDigest (bytesOf digest) = true) {char : Char}
    (small : char.toNat < 128) (other : isHexByte char.toUInt8 = false) :
    char ∉ digest.toList := by
  intro among
  have byte := (toUInt8_mem_bytesOf small digest).mpr among
  have digits : ∀ byte ∈ bytesOf digest, isHexByte byte = true := by
    simpa using (Bool.and_eq_true_iff.mp hex).2
  exact absurd (digits _ byte) (by simp [other])

theorem isName_digest (platform : Platform) {digest : String}
    (hex : isDigest (bytesOf digest) = true) :
    PlatformPath.IsName platform digest.toList := by
  have dotless : '.' ∉ digest.toList := not_mem_digest hex (by decide) (by decide)
  have slashless : '/' ∉ digest.toList := not_mem_digest hex (by decide) (by decide)
  have backslashless : '\\' ∉ digest.toList := not_mem_digest hex (by decide) (by decide)
  have colonless : ':' ∉ digest.toList := not_mem_digest hex (by decide) (by decide)
  have empty : digest.toList ≠ [] := by
    intro empty
    rw [bytesOf, empty] at hex
    cases hex
  have dot : digest.toList ≠ ['.'] := fun same => dotless (same ▸ List.mem_cons_self)
  have dots : digest.toList ≠ ['.', '.'] := fun same => dotless (same ▸ List.mem_cons_self)
  have driveless := PlatformPath.parseDrive_of_colonless colonless
  cases platform with
  | unix => exact PlatformPath.isName_unix.mpr ⟨empty, dot, dots, slashless⟩
  | windows =>
      exact PlatformPath.isName_windows.mpr
        ⟨empty, dot, dots, driveless, slashless, backslashless⟩

/-- Without a file name in it, the announced name is replaced by the digest of the id. -/
theorem storedName_of_none {prims : Primitives} {platform : Platform} {event : ClipEvent}
    {data : Bytes} (hex : isDigest (bytesOf (prims.sha256Hex data)) = true)
    (addressed : blobId prims data = event.blobId)
    (unnamed : PlatformPath.fileName? platform event.name.toList = none) :
    storedName platform event = (prims.sha256Hex data).toList := by
  have letter : 's' ∉ (prims.sha256Hex data).toList := not_mem_digest hex (by decide) (by decide)
  have clear : ¬"sha256:".toList.isPrefixOf (prims.sha256Hex data).toList := by
    intro front
    obtain ⟨rest, spelled⟩ := List.isPrefixOf_iff_prefix.mp front
    exact letter (spelled ▸ by simp)
  have fuel : event.blobId.length = (prims.sha256Hex data).length + 5 + 2 := by
    rw [← addressed, blobId, String.length_append, Nat.add_comm]
    rfl
  have spelled : event.blobId.toList = "sha256:".toList ++ (prims.sha256Hex data).toList := by
    rw [← addressed, blobId, String.toList_append]
  rw [storedName, unnamed, fuel, spelled]
  exact trimStartMatches_once clear

/-! ### Unix -/

theorem splitPath_ne_nil (bytes : List UInt8) : splitPath bytes ≠ [] := by
  cases bytes with
  | nil => simp [splitPath]
  | cons byte rest =>
      rw [splitPath]
      split
      · simp
      · split <;> simp

/-- Bytes without a slash come before the first component. -/
theorem splitPath_append {front : List UInt8} (slashless : (47 : UInt8) ∉ front)
    (rest : List UInt8) : splitPath (front ++ rest) = (splitPath rest).modifyHead (front ++ ·) := by
  induction front with
  | nil =>
      rw [List.nil_append]
      cases splitPath rest <;> rfl
  | cons byte front ih =>
      obtain ⟨other, later⟩ := List.ne_and_not_mem_of_not_mem_cons slashless
      obtain ⟨head, parts, split⟩ := List.exists_cons_of_ne_nil (splitPath_ne_nil rest)
      rw [List.cons_append, splitPath, if_neg other.symm, ih later, split]
      rfl

theorem splitPath_utf8 (text : List Char) :
    splitPath (text.flatMap String.utf8EncodeChar) =
      (text.splitOnP (· == '/')).map (List.flatMap String.utf8EncodeChar) := by
  induction text with
  | nil => rfl
  | cons first rest ih =>
      obtain ⟨head, pieces, split⟩ := List.exists_cons_of_ne_nil
        (List.splitOnP_ne_nil (· == '/') rest)
      rw [List.flatMap_cons, List.splitOnP_cons_eq_if_modifyHead]
      by_cases slash : first = '/'
      · subst slash
        rw [if_pos (by decide), List.map_cons, ← ih]
        rfl
      · have slashless : (47 : UInt8) ∉ String.utf8EncodeChar first := by
          intro among
          have spelled : (47 : UInt8) ∈ bytesOf (String.ofList [first]) := by
            simpa [bytesOf] using among
          have mem : '/' ∈ (String.ofList [first]).toList :=
            (toUInt8_mem_bytesOf (by decide) _).mp spelled
          rw [String.toList_ofList, List.mem_singleton] at mem
          exact slash mem.symm
        rw [splitPath_append slashless, ih, split, if_neg (by simpa using slash)]
        rfl

theorem fromUTF8?_utf8 (text : List Char) :
    String.fromUTF8? ⟨(text.flatMap String.utf8EncodeChar).toArray⟩ =
      some (String.ofList text) := by
  have spelled : (⟨(text.flatMap String.utf8EncodeChar).toArray⟩ : ByteArray) = text.utf8Encode :=
    ByteArray.ext (List.data_toByteArray ..).symm
  rw [spelled, String.fromUTF8?, dif_pos ByteArray.isValidUTF8_utf8Encode]
  rfl

theorem utf8_injective : Function.Injective (List.flatMap String.utf8EncodeChar) := by
  intro first second same
  have decoded := congrArg decodeLossy same
  simpa only [decodeLossy_utf8] using decoded

theorem fileName?_eq (path : String) :
    fileName? path = (PlatformPath.fileName? .unix path.toList).map String.ofList := by
  have pieces : (splitPath (bytesOf path)).filter (fun part => part != [] && part != [46]) =
      ((path.toList.splitOnP (· == '/')).filter fun piece => piece ≠ [] ∧ piece ≠ ['.']).map
        (List.flatMap String.utf8EncodeChar) := by
    have empty : ∀ piece : List Char,
        piece.flatMap String.utf8EncodeChar = [] ↔ piece = [] := fun piece =>
      utf8_injective.eq_iff' rfl
    have dot : ∀ piece : List Char,
        piece.flatMap String.utf8EncodeChar = [46] ↔ piece = ['.'] := fun piece =>
      utf8_injective.eq_iff' (by decide)
    rw [bytesOf, splitPath_utf8, List.filter_map]
    congr 1
    apply List.filter_congr
    intro piece among
    rw [Bool.eq_iff_iff]
    simp [empty, dot]
  rw [PlatformPath.fileName?_unix, fileName?, pieces, List.getLast?_map]
  generalize (List.filter _ _).getLast? = last
  cases last with
  | none => rfl
  | some piece =>
      have dots : piece.flatMap String.utf8EncodeChar = [46, 46] ↔ piece = ['.', '.'] :=
        utf8_injective.eq_iff' (by decide)
      simp only [Option.map_some, Option.bind_some, dots, fromUTF8?_utf8]
      split_ifs <;> rfl

/-- The downloads of the engine are named as on Unix. -/
theorem storedName_unix (event : ClipEvent) :
    storedName .unix event = (downloadName event).toList := by
  rw [storedName, downloadName, fileName?_eq]
  cases found : PlatformPath.fileName? .unix event.name.toList with
  | none => simp
  | some name =>
      obtain ⟨empty, dot, dots, -⟩ := PlatformPath.fileName?_eq_some found
      have kept : ∀ text : String, String.ofList name = text → name = text.toList := by
        rintro _ rfl
        exact (String.toList_ofList ..).symm
      have notEmpty : String.ofList name ≠ "" := fun same => empty (kept _ same)
      have notDot : String.ofList name ≠ "." := fun same => dot (kept _ same)
      have notDots : String.ofList name ≠ ".." := fun same => dots (kept _ same)
      simp [Option.filter_some, empty, dot, dots, notEmpty, notDot, notDots]

/-! ## Downloads in runs -/

def Output.file? : Output → Option (String × Bytes)
  | .file name content => some (name, content)
  | _ => none

/-- `apply_blob` writes one file, under the stored name, or none when it cannot open the
blob. -/
theorem applyBlob_files {env : Env} (engine : Engine) (event : ClipEvent) (data : Bytes)
    (applying : Applying) :
    (engine.applyBlob env event data applying).log.filterMap Output.file? =
      engine.log.filterMap Output.file? ++
        match engine.incomingBlob env event data with
        | .ok plain => [(String.ofList (storedName .unix event), plain)]
        | .error _ => [] := by
  rw [storedName_unix, String.ofList_toList]
  cases content : engine.incomingBlob env event data with
  | error output =>
      have silent : Output.file? output = none := by
        rw [Engine.incomingBlob] at content
        repeat' split at content
        all_goals cases content <;> rfl
      simp [Engine.applyBlob, content, Engine.emit, silent]
  | ok plain =>
      by_cases image : event.isImage = true
      · cases decoded : env.decodeImage plain <;> cases outcome : applying.outcome <;>
          simp [Engine.applyBlob, content, image, decoded, outcome, Engine.emit, Output.file?]
      · cases outcome : applying.outcome <;>
          simp [Engine.applyBlob, content, image, outcome, Engine.emit, Output.file?]

/-- A download that is applied has the bytes its event asked for, and stays in the downloads
directory: always on Unix, and on Windows when the file name in the announced name begins
with no drive and has no slash. -/
theorem downloads_contained_iff {env : Env} {config : Config} {engine : Engine}
    {platform : Platform} {downloads : List PlatformPath.Component} {event : ClipEvent}
    {data : Bytes} (digests : ∀ data, isDigest (bytesOf (env.prims.sha256Hex data)) = true)
    (run : Reachable (Engine.step env) (.start env config) engine)
    (arrived : .download (.ok data) event ∈ engine.results) :
    blobId env.prims data = event.blobId ∧ Contained platform downloads event ↔
      (platform = .windows →
        ∀ name, PlatformPath.fileName? platform event.name.toList = some name →
          PlatformPath.parseDrive name = none ∧ '/' ∉ name) := by
  have addressed := Engine.intact run data event arrived
  rw [contained_iff, and_iff_right addressed]
  cases found : PlatformPath.fileName? platform event.name.toList with
  | none =>
      rw [storedName_of_none (digests data) addressed found]
      exact iff_of_true (isName_digest platform (digests data)) fun _ name same => by cases same
  | some name =>
      rw [storedName_of_fileName found, PlatformPath.isName_fileName found]
      simp

/-! ### Two names -/

def downloadEnv : Env :=
  { demoEnv with prims := { Reference.prims with sha256Hex := Reference.digestOf } }

theorem downloadEnv_digests (data : Bytes) :
    isDigest (bytesOf (downloadEnv.prims.sha256Hex data)) = true :=
  Reference.isDigest_digestOf data

/-- A clip of a file of three bytes. -/
def namedClip (name : String) : ClipEvent :=
  { mime := ["application/octet-stream"]
    name
    blobId := blobId downloadEnv.prims Reference.file.plain }

/-- The clip is announced in a session and its blob is fetched. -/
def downloading (name : String) : List Action :=
  [.connect ⟨0, 0⟩ 0 0, .frame (.clip (namedClip name) demoApplying),
    .finish 0 (.ok Reference.file.plain)]

/-- A folder in the announced name is dropped. -/
theorem foldered_name_contained :
    ∃ engine, Reachable (Engine.step downloadEnv) (.start downloadEnv ⟨"srv", "", "token"⟩)
        engine ∧
      .download (.ok Reference.file.plain) (namedClip "..\\a.txt") ∈ engine.results ∧
      Contained .windows [.pre (.disk 'C'), .rootDir, .normal "downloads".toList]
        (namedClip "..\\a.txt") := by
  obtain ⟨engine, reached, fetched⟩ := Reachable.exists_of_exec (Engine.step downloadEnv)
    (.start downloadEnv ⟨"srv", "", "token"⟩) (downloading "..\\a.txt")
    (fun engine => decide (.download (.ok Reference.file.plain) (namedClip "..\\a.txt") ∈
      engine.results)) (by decide +kernel)
  have arrived := of_decide_eq_true fetched
  have found : PlatformPath.fileName? .windows (namedClip "..\\a.txt").name.toList =
      some "a.txt".toList := by decide +kernel
  refine ⟨engine, reached, arrived,
    ((downloads_contained_iff downloadEnv_digests reached arrived).mpr ?_).2⟩
  rintro - name same
  cases found.symm.trans same
  decide

/-- On Windows a file name that begins with a drive replaces the downloads directory. -/
theorem drive_name_escapes :
    ¬ ∀ (env : Env) (config : Config) (engine : Engine) (platform : Platform)
      (downloads : List PlatformPath.Component) (event : ClipEvent) (data : Bytes),
      (∀ data, isDigest (bytesOf (env.prims.sha256Hex data)) = true) →
      Reachable (Engine.step env) (.start env config) engine →
      .download (.ok data) event ∈ engine.results →
      blobId env.prims data = event.blobId ∧ Contained platform downloads event := by
  intro claim
  obtain ⟨engine, reached, fetched⟩ := Reachable.exists_of_exec (Engine.step downloadEnv)
    (.start downloadEnv ⟨"srv", "", "token"⟩) (downloading "x/C:evil.exe")
    (fun engine => decide (.download (.ok Reference.file.plain) (namedClip "x/C:evil.exe") ∈
      engine.results)) (by decide +kernel)
  have contained := (claim downloadEnv _ engine .windows
    [.pre (.disk 'C'), .rootDir, .normal "downloads".toList] _ _ downloadEnv_digests reached
    (of_decide_eq_true fetched)).2
  have written : storedPath .windows [.pre (.disk 'C'), .rootDir, .normal "downloads".toList]
      (namedClip "x/C:evil.exe") = [.pre (.disk 'C'), .normal "evil.exe".toList] := by
    decide +kernel
  have path := contained.2
  rw [written] at path
  exact absurd (congrArg List.length path) (by simp)

end CopySync.Desktop
