import CopySync.Android.SyncService
import CopySync.Foundation.FileName
import CopySync.Server.WebUI

/-!
# Files of inbound clips on Android

What a clip frame writes, one write after another.  The name of a received file is reduced
to a base name before it is joined to `clip-out`; the blob id is joined to `clip-src` as
the peer chose it, and the bytes that come back for it are not compared with it.
-/

namespace CopySync.Android

open Foundation Client

/-! ## Writes of a clip -/

/-- How the GET of a blob ends: the URL or the call fails, or the server replies. -/
inductive Response where
  | failed
  | answered (reply : Server.Reply)
  deriving DecidableEq, Repr

/-- `BlobClient.get` under `runCatching`: any body of a successful reply. -/
def Response.fetched : Response → Option Bytes
  | .failed => none
  | .answered reply => if 200 ≤ reply.code ∧ reply.code ≤ 299 then some reply.body else none

structure Written where
  path : Path
  file : CachedFile
  deriving DecidableEq, Repr

namespace Service

def pasteWrites (env : Env) (data : Bytes) (name : String) (pasted : Bool) : List Written :=
  let dir := env.directory "clip-out"
  let file := dir.join (bytesOf (safeName name))
  if pasted && dir.components.isPrefixOf file.components &&
      decide (dir.components.length < file.components.length) then
    [⟨file, ⟨data, .paste⟩⟩]
  else []

/-- The writes of a received blob: the preview cache, then the clipboard hand-over. -/
def blobWrites (env : Env) (event : ClipEvent) (blobId name : String) (data : Bytes)
    (written pasted : Bool) : List Written :=
  (if written then [⟨env.srcFile (hexOf blobId), ⟨data, .preview⟩⟩] else []) ++
    if event.onDemand then [] else pasteWrites env data name pasted

def clipWrites (env : Env) (service : Service) (event : ClipEvent) (fetched : Option Bytes)
    (written pasted : Bool) : List Written :=
  match event.blobId, event.fetchName with
  | some blobId, some name =>
      ((service.ensureKey env).opened env event fetched).elim [] fun data =>
        blobWrites env event blobId name data written pasted
  | _, _ => []

def writeAll (service : Service) (writes : List Written) : Service :=
  writes.foldl (fun service written => service.write written.path written.file) service

variable {env : Env} {service : Service} {event : ClipEvent} {fetched : Option Bytes}
variable {written pasted : Bool}

theorem applyInboundFile_eq (data : Bytes) (name : String) :
    service.applyInboundFile env data name pasted =
      service.writeAll (pasteWrites env data name pasted) := by
  rw [applyInboundFile, pasteWrites]
  generalize env.directory "clip-out" = dir
  generalize dir.join (bytesOf (safeName name)) = file
  split <;> rfl

theorem receiveBlob_eq (blobId name : String) :
    service.receiveBlob env event blobId name fetched written pasted =
      (service.ensureKey env).writeAll
        (((service.ensureKey env).opened env event fetched).elim [] fun data =>
          blobWrites env event blobId name data written pasted) := by
  rw [receiveBlob]
  generalize service.ensureKey env = service
  cases service.opened env event fetched with
  | none => rfl
  | some data =>
      dsimp only [Option.elim]
      rw [writeAll, blobWrites, List.foldl_append]
      cases event.onDemand <;> cases written <;>
        first | rfl | exact applyInboundFile_eq _ _

theorem deriveKey_files : (service.deriveKey env).files = service.files := by
  rw [deriveKey]
  split <;> rfl

theorem ensureKey_files : (service.ensureKey env).files = service.files := by
  rw [ensureKey]
  split
  · rfl
  · exact deriveKey_files

theorem writeAll_files {other : Service} (same : service.files = other.files)
    (writes : List Written) : (service.writeAll writes).files = (other.writeAll writes).files := by
  induction writes generalizing service other with
  | nil => exact same
  | cons first rest ih =>
      apply ih
      simp only [write, same]

/-- A clip that is fetched is received under its name, and any other leaves the files. -/
theorem handleClip_cases :
    (∃ blobId name, event.blobId = some blobId ∧ event.fetchName = some name ∧
      service.handleClip env event fetched written pasted =
        service.receiveBlob env event blobId name fetched written pasted) ∨
    event.fetchName = none ∧
      (service.handleClip env event fetched written pasted).files = service.files := by
  rw [handleClip, ClipEvent.fetchName]
  cases event.inlineText with
  | some text => exact .inr ⟨rfl, ensureKey_files⟩
  | none =>
      cases event.blobId with
      | none => exact .inr ⟨rfl, rfl⟩
      | some blobId =>
          dsimp only
          cases event.mime.find? fun mime => mime.startsWith "image/" with
          | some mime =>
              dsimp only
              split
              · exact .inl ⟨blobId, _, rfl, rfl, rfl⟩
              · exact .inr ⟨rfl, rfl⟩
          | none =>
              dsimp only
              split
              · exact .inr ⟨rfl, rfl⟩
              · exact .inl ⟨blobId, _, rfl, rfl, rfl⟩

/-- A clip changes the files by its writes and nothing else. -/
theorem handleClip_files :
    (service.handleClip env event fetched written pasted).files =
      (service.writeAll (service.clipWrites env event fetched written pasted)).files := by
  rw [clipWrites]
  obtain ⟨blobId, name, id, fetches, handled⟩ | ⟨fetches, handled⟩ :=
    @handleClip_cases env service event fetched written pasted
  · rw [handled, receiveBlob_eq, id, fetches]
    exact writeAll_files ensureKey_files _
  · rw [handled, fetches]
    cases event.blobId <;> rfl

end Service

/-! ## Where the writes go -/

theorem not_mem_substringAfterLast (mark : Char) (text : String) :
    mark ∉ (substringAfterLast mark text).toList := by
  intro among
  rw [substringAfterLast, String.toList_ofList, List.mem_reverse] at among
  have kept := List.mem_takeWhile_imp among
  simp at kept

/-- Without a mark a text is returned whole; either way the characters are the text's. -/
theorem mem_of_mem_substringAfterLast {mark char : Char} {text : String}
    (among : char ∈ (substringAfterLast mark text).toList) : char ∈ text.toList := by
  rw [substringAfterLast, String.toList_ofList, List.mem_reverse] at among
  exact List.mem_reverse.mp ((List.takeWhile_sublist _).subset among)

/-- The name a received file is pasted under names an entry of a directory. -/
theorem isFileName_safeName (name : String) : IsFileName (bytesOf (safeName name)) := by
  rw [safeName]
  generalize shape : substringAfterLast '\\' (substringAfterLast '/' name) = base
  have slashless : '/' ∉ base.toList := by
    intro slash
    rw [← shape] at slash
    exact not_mem_substringAfterLast '/' name (mem_of_mem_substringAfterLast slash)
  have file : IsFileName (bytesOf "file") := by decide
  by_cases blank : base.toList.all isWhitespace = true
  · simpa [blank] using file
  · simp only [blank, Bool.false_eq_true, ↓reduceIte]
    split
    · exact file
    next named =>
      obtain ⟨notDot, notDots⟩ := not_or.mp named
      refine isFileName_bytesOf ?_ notDot notDots slashless
      rintro rfl
      exact blank rfl

/-- The file name of a content address is its digest. -/
theorem hexOf_blobId {prims : Primitives} (data : Bytes) :
    hexOf (blobId prims data) = bytesOf (prims.sha256Hex data) := by
  have spelled : bytesOf (blobId prims data) =
      bytesOf "sha256:" ++ bytesOf (prims.sha256Hex data) := by
    rw [blobId, bytesOf, String.toList_append, List.flatMap_append]
    rfl
  rw [hexOf, spelled, if_pos (List.isPrefixOf_iff_prefix.mpr (List.prefix_append ..))]
  exact List.drop_left' (by decide)

/-- A file directly in `clip-src` or `clip-out`. -/
def Env.Contains (env : Env) (path : Path) : Prop :=
  ∃ dir ∈ ["clip-src", "clip-out"], ∃ name, IsFileName name ∧
    path = (env.directory dir).child name

/-- Every file a clip writes is contained, and comes of bytes whose address is the clip's
blob id. -/
def Service.SafelyReceives (env : Env) (service : Service) (event : ClipEvent)
    (response : Response) (written pasted : Bool) : Prop :=
  ∀ write ∈ service.clipWrites env event response.fetched written pasted,
    env.Contains write.path ∧
      ∃ data, response.fetched = some data ∧ event.blobId = some (blobId env.prims data)

section Safe

variable {env : Env} {service : Service} {event : ClipEvent} {response : Response}
variable {written pasted : Bool}

/-- A digest names an entry of the source cache. -/
theorem Env.contains_digest {digest : List UInt8} (hex : isDigest digest = true) :
    env.Contains (env.srcFile digest) := by
  obtain ⟨length, digits⟩ : digest.length = 64 ∧ ∀ byte ∈ digest, isHexByte byte = true := by
    simpa [isDigest] using hex
  have named : IsFileName digest := by
    refine ⟨?_, ?_, ?_, ?_⟩
    · rintro rfl
      cases length
    · rintro rfl
      cases length
    · rintro rfl
      cases length
    · intro slash
      exact (isHexByte_plain (digits _ slash)).1 rfl
  exact ⟨"clip-src", by simp, digest, named, Path.join_digest _ hex⟩

/-- A paste stays in its directory, so the check behind the join never fires. -/
theorem pasteWrites_eq (data : Bytes) (name : String) :
    Service.pasteWrites env data name pasted =
      if pasted then [⟨(env.directory "clip-out").child (bytesOf (safeName name)),
        ⟨data, .paste⟩⟩] else [] := by
  rw [Service.pasteWrites, Path.join_fileName _ (isFileName_safeName name)]
  simp [Path.child]

theorem Env.contains_paste (name : String) :
    env.Contains ((env.directory "clip-out").child (bytesOf (safeName name))) :=
  ⟨"clip-out", by simp, _, isFileName_safeName name, rfl⟩

theorem ClipEvent.blobId_of_fetchName {name : String} (fetches : event.fetchName = some name) :
    ∃ blobId, event.blobId = some blobId := by
  rw [fetchName] at fetches
  split at fetches
  next blobId _ stated => exact ⟨blobId, stated⟩
  · cases fetches

theorem clipWrites_eq_nil {fetched : Option Bytes} :
    service.clipWrites env event fetched written pasted = [] ↔
      event.fetchName = none ∨ (service.ensureKey env).opened env event fetched = none ∨
      written = false ∧ (event.onDemand = true ∨ pasted = false) := by
  rw [Service.clipWrites]
  cases fetches : event.fetchName with
  | none => cases event.blobId <;> simp
  | some name =>
      obtain ⟨blobId, stated⟩ := ClipEvent.blobId_of_fetchName fetches
      rw [stated]
      cases (service.ensureKey env).opened env event fetched with
      | none => simp
      | some data =>
          simp only [Option.elim_some, Service.blobWrites, pasteWrites_eq, List.append_eq_nil_iff]
          cases written <;> cases event.onDemand <;> cases pasted <;> simp

/-- A write is the preview of the clip, or its paste. -/
theorem clipWrites_path {fetched : Option Bytes} {write : Written}
    (among : write ∈ service.clipWrites env event fetched written pasted) :
    (∃ blobId, event.blobId = some blobId ∧ write.path = env.srcFile (hexOf blobId)) ∨
      ∃ name, write.path = (env.directory "clip-out").child (bytesOf (safeName name)) := by
  rw [Service.clipWrites] at among
  split at among
  next blobId name stated fetches =>
    cases opens : (service.ensureKey env).opened env event fetched with
    | none =>
        rw [opens] at among
        cases among
    | some data =>
        rw [opens, Option.elim_some, Service.blobWrites, pasteWrites_eq] at among
        rcases List.mem_append.mp among with preview | paste
        · split at preview
          · cases List.mem_singleton.mp preview
            exact .inl ⟨blobId, stated, rfl⟩
          · cases preview
        · split at paste
          · cases paste
          · split at paste
            · cases List.mem_singleton.mp paste
              exact .inr ⟨name, rfl⟩
            · cases paste
  · cases among

/-- A clip is received safely exactly when nothing is fetched for it at once, nothing that
can be opened comes back, nothing can be written, or the bytes have the address the clip
asked for. -/
theorem safelyReceives_iff
    (digests : ∀ data, isDigest (bytesOf (env.prims.sha256Hex data)) = true) :
    service.SafelyReceives env event response written pasted ↔
      event.fetchName = none ∨
      (service.ensureKey env).opened env event response.fetched = none ∨
      written = false ∧ (event.onDemand = true ∨ pasted = false) ∨
      ∃ data, response.fetched = some data ∧ event.blobId = some (blobId env.prims data) := by
  have idle := @clipWrites_eq_nil env service event written pasted response.fetched
  constructor
  · intro safe
    cases writes : service.clipWrites env event response.fetched written pasted with
    | nil =>
        obtain unfetched | unopened | unwritten := idle.mp writes
        · exact .inl unfetched
        · exact .inr (.inl unopened)
        · exact .inr (.inr (.inl unwritten))
    | cons write rest =>
        have among : write ∈ service.clipWrites env event response.fetched written pasted :=
          writes ▸ List.mem_cons_self
        exact .inr (.inr (.inr (safe write among).2))
  · rintro (unfetched | unopened | unwritten | ⟨data, fetched, addressed⟩) write among
    · rw [idle.mpr (.inl unfetched)] at among
      cases among
    · rw [idle.mpr (.inr (.inl unopened))] at among
      cases among
    · rw [idle.mpr (.inr (.inr unwritten))] at among
      cases among
    · refine ⟨?_, data, fetched, addressed⟩
      obtain ⟨id, stated, path⟩ | ⟨name, path⟩ := clipWrites_path among
      · cases stated.symm.trans addressed
        rw [path, hexOf_blobId]
        exact env.contains_digest (digests data)
      · exact path ▸ env.contains_paste name

end Safe

/-! ### Two clips -/

/-- A phone without a passphrase. -/
def inboundEnv : Env where
  prims := { Reference.prims with sha256Hex := Reference.digestOf }
  e2ePass := none
  serverId := none
  cacheDir := ⟨true, [bytesOf "com.copysync.android", bytesOf "cache"]⟩
  classify _ := false

def inboundService : Service := { Service.start (fun _ => none) with ws := true, blob := true }

/-- An eager clip of a file. -/
def inboundClip (blobId : String) : ClipEvent :=
  { id := "c1"
    mime := ["application/pdf"]
    blobId := some blobId
    name := some "a.pdf"
    size := 3 }

/-- A file with the address the clip names is cached and pasted. -/
theorem addressed_clip_safe :
    (inboundService.clipWrites inboundEnv (inboundClip (blobId inboundEnv.prims [1, 2, 3]))
      (some [1, 2, 3]) true true).length = 2 ∧
    inboundService.SafelyReceives inboundEnv (inboundClip (blobId inboundEnv.prims [1, 2, 3]))
      (.answered ⟨200, [1, 2, 3]⟩) true true := by
  have digests : ∀ data, isDigest (bytesOf (inboundEnv.prims.sha256Hex data)) = true :=
    Reference.isDigest_digestOf
  have fetched : (Response.answered ⟨200, [1, 2, 3]⟩).fetched = some [1, 2, 3] := by decide
  refine ⟨by decide +kernel, (safelyReceives_iff digests).mpr (.inr (.inr (.inr ?_)))⟩
  exact ⟨[1, 2, 3], fetched, rfl⟩

/-- A blob id that leaves `/blob/` in the URL is answered with the page of the web UI, and
leaves `clip-src` on the disk. -/
theorem page_escapes_cache :
    ¬ ∀ (env : Env) (service : Service) (event : ClipEvent) (response : Response)
      (written pasted : Bool),
      (∀ data, isDigest (bytesOf (env.prims.sha256Hex data)) = true) →
      service.SafelyReceives env event response written pasted := by
  intro claim
  let dist : Server.Dist := { serve := fun _ => none, index := some Reference.text.plain }
  have digests : ∀ data, isDigest (bytesOf (inboundEnv.prims.sha256Hex data)) = true :=
    Reference.isDigest_digestOf
  have safe := claim inboundEnv inboundService (inboundClip "../../shared_prefs/x")
    (.answered (Server.Webui.handler dist "/shared_prefs/x")) true true digests
  have writes : (⟨⟨true, [bytesOf "com.copysync.android", bytesOf "shared_prefs", bytesOf "x"]⟩,
      ⟨Reference.text.plain, .preview⟩⟩ : Written) ∈
      inboundService.clipWrites inboundEnv (inboundClip "../../shared_prefs/x")
        (Response.answered (Server.Webui.handler dist "/shared_prefs/x")).fetched true true := by
    decide +kernel
  have depth : ∀ dir ∈ ["clip-src", "clip-out"],
      (inboundEnv.directory dir).components.length = 3 := by decide +kernel
  obtain ⟨dir, among, name, -, path⟩ := (safe _ writes).1
  have length := congrArg (fun path => path.components.length) path
  simp only [Path.child, List.length_append, depth dir among, List.length_cons,
    List.length_nil] at length
  omega

end CopySync.Android
