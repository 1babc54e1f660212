import CopySync.Foundation.Transition
import CopySync.Server.Blob.Disk

/-!
# Uploads into the blob store

`Put` copies a body into the temporary area and renames the file to its address once the
bytes hash to it.  Every operation on the disk may fail on the way; `Delete` takes any id.
Whatever their order, what is stored under a content address has that hash.

Only regular files are modelled: a directory that is missing or in the way makes an
operation fail.  Whether a blob is there is asked without failure, and a rename is atomic.
-/

namespace CopySync.Server

open Foundation

/-- What goes wrong during an upload.  The copy fails after some bytes, by the body or by the
file; `cleanup` is the removal of the temporary file. -/
structure PutFaults where
  create : Bool
  copy : Option Nat
  sync : Bool
  close : Bool
  mkdir : Bool
  rename : Bool
  cleanup : Bool
  deriving DecidableEq, Repr

/-- No operation fails. -/
def PutFaults.none : PutFaults := ⟨false, .none, false, false, false, false, false⟩

/-- The errors of `Put`: its own two, and those of the operating system. -/
inductive PutError where
  | hashMismatch
  | tooLarge
  | system
  deriving DecidableEq, Repr

/-- What `os.CreateTemp` names a file, given the random part. -/
def tempFile (root : Path) (suffix : List UInt8) : Path :=
  { root with components := root.components ++ [bytesOf "tmp", bytesOf "blob-" ++ suffix] }

/-- What is read through `io.LimitReader`. -/
def limitReader (body : List UInt8) (limit : Int) : List UInt8 := body.take limit.toNat

section Store

variable (digest : List UInt8 → List UInt8) (root : Path) (files : Files Path)

/-- An exit with an error: the deferred `os.Remove` takes the temporary file away. -/
def giveUp (faults : PutFaults) (tmp : Path) (content : List UInt8) (error : PutError) :
    Files Path × Except PutError Int :=
  let written := files.insert tmp content
  (if faults.cleanup then written else written.erase tmp, .error error)

/-- Copy the body next to the blobs, check it, and move it to its place.  A temporary file is
never one that exists. -/
def receive (id : BlobID) (dst : Path) (body : List UInt8) (maxBytes : Int)
    (suffix : List UInt8) (faults : PutFaults) : Files Path × Except PutError Int :=
  let tmp := tempFile root suffix
  if faults.create ∨ tmp ∈ files then (files, .error .system)
  else
    let read := limitReader body (wrapInt64 (maxBytes + 1))
    match faults.copy with
    | some count => giveUp files faults tmp (read.take count) .system
    | none =>
        if (read.length : Int) > maxBytes then giveUp files faults tmp read .tooLarge
        else if faults.sync ∨ faults.close then giveUp files faults tmp read .system
        else if digest read ≠ hexOf id then giveUp files faults tmp read .hashMismatch
        else if faults.mkdir ∨ faults.rename then giveUp files faults tmp read .system
        else (((files.insert tmp read).erase tmp).insert dst read, .ok read.length)

/-- `FsBlobStore.Put`; none is a panic. -/
def put (id : BlobID) (body : List UInt8) (maxBytes : Int) (suffix : List UInt8)
    (faults : PutFaults) : Option (Files Path × Except PutError Int) :=
  if validID id then
    (pathFor root id).map fun dst =>
      match files.stat dst with
      | some size => (files, .ok size)
      | none => receive digest root files id dst body maxBytes suffix faults
  else some (files, .error .hashMismatch)

/-- `FsBlobStore.Open`: the bytes of a blob, if there is a file to read. -/
def openBlob (id : BlobID) : Option (List UInt8) :=
  (pathFor root id).bind fun path => files.lookup path

/-- `FsBlobStore.Delete`, and whether it returns an error; none is a panic. -/
def deleteBlob (id : BlobID) (fails : Bool) : Option (Files Path × Bool) :=
  (pathFor root id).map fun path =>
    if fails then (files, true) else (files.erase path, false)

end Store

/-! ## What an upload does -/

section Put

variable {digest : List UInt8 → List UInt8} {root : Path} {files after : Files Path}
variable {id : BlobID} {dst : Path} {body suffix : List UInt8} {maxBytes : Int}
variable {faults : PutFaults} {result : Except PutError Int}

theorem openBlob_of_validID (valid : validID id = true) :
    openBlob root files id = files.lookup (blobFile root id) := by
  rw [openBlob, pathFor_eq root (addressed_of_validID valid), Option.bind_some]

/-- No blob lies in the temporary area. -/
theorem blobFile_ne_tempFile (valid : validID id = true) (suffix : List UInt8) :
    blobFile root id ≠ tempFile root suffix := by
  intro same
  obtain ⟨length, -⟩ := hexOf_digits (addressed_of_validID valid)
  simp only [blobFile, tempFile, Foundation.Path.mk.injEq, true_and, List.append_cancel_left_eq,
    List.cons.injEq] at same
  have := congrArg List.length same.1
  rw [List.length_take, length] at this
  cases this

/-- Each exit that is an error leaves all but the temporary file; the last one moves what was
read, which is within the limit and has the right hash. -/
theorem receive_cases
    (received : receive digest root files id dst body maxBytes suffix faults = (after, result)) :
    (∃ error, result = .error error ∧
      ∀ path ≠ tempFile root suffix, after.lookup path = files.lookup path) ∨
    ∃ read, result = .ok read.length ∧ (read.length : Int) ≤ maxBytes ∧
      read = limitReader body (wrapInt64 (maxBytes + 1)) ∧ digest read = hexOf id ∧
      after.lookup dst = some read ∧
      ∀ path ≠ tempFile root suffix, path ≠ dst → after.lookup path = files.lookup path := by
  have erased : ∀ content, ∀ path ≠ tempFile root suffix,
      ((files.insert (tempFile root suffix) content).erase (tempFile root suffix)).lookup path =
        files.lookup path :=
    fun content path other => (AList.lookup_erase_ne other).trans (AList.lookup_insert_ne other)
  have failed : ∀ {content error},
      giveUp files faults (tempFile root suffix) content error = (after, result) →
      ∃ error, result = .error error ∧
        ∀ path ≠ tempFile root suffix, after.lookup path = files.lookup path := by
    intro content error exit
    cases exit
    refine ⟨error, rfl, ?_⟩
    intro path other
    split_ifs
    · exact AList.lookup_insert_ne other
    · exact erased content path other
  simp only [receive] at received
  split at received
  next =>
    cases received
    exact .inl ⟨.system, rfl, fun _ _ => rfl⟩
  next =>
    split at received
    next => exact .inl (failed received)
    next =>
      split_ifs at received with above unsynced wrong unmoved
      · exact .inl (failed received)
      · exact .inl (failed received)
      · exact .inl (failed received)
      · exact .inl (failed received)
      · cases received
        refine .inr ⟨_, rfl, not_lt.mp above, rfl, not_ne_iff.mp wrong, AList.lookup_insert _, ?_⟩
        intro path notTemp notDst
        rw [AList.lookup_insert_ne notDst]
        exact erased _ path notTemp

/-- `Put` finds the blob, fails, or stores what hashes to the id. -/
theorem put_cases (taken : put digest root files id body maxBytes suffix faults =
    some (after, result)) :
    (∃ bytes, validID id = true ∧ openBlob root files id = some bytes ∧
      result = .ok bytes.length ∧ after = files) ∨
    (∃ error, result = .error error ∧
      (validID id = true ∧ openBlob root files id = none ∨ validID id = false ∧ after = files) ∧
      ∀ path ≠ tempFile root suffix, after.lookup path = files.lookup path) ∨
    validID id = true ∧ openBlob root files id = none ∧
      ∃ read, result = .ok read.length ∧ (read.length : Int) ≤ maxBytes ∧
        digest read = hexOf id ∧ after.lookup (blobFile root id) = some read ∧
        ∀ path ≠ tempFile root suffix, path ≠ blobFile root id →
          after.lookup path = files.lookup path := by
  rw [put] at taken
  split_ifs at taken with valid
  · rw [openBlob_of_validID valid, pathFor_eq root (addressed_of_validID valid),
      Option.map_some, Option.some.injEq] at *
    cases found : files.lookup (blobFile root id) with
    | some bytes =>
        simp only [Files.stat, found, Option.map_some] at taken
        cases taken
        exact .inl ⟨bytes, valid, rfl, rfl, rfl⟩
    | none =>
        simp only [Files.stat, found, Option.map_none] at taken
        rcases receive_cases taken with ⟨error, failed, kept⟩ |
          ⟨read, stored, small, -, hashed, here, kept⟩
        · exact .inr (.inl ⟨error, failed, .inl ⟨valid, rfl⟩, kept⟩)
        · exact .inr (.inr ⟨valid, rfl, read, stored, small, hashed, here, kept⟩)
  · cases taken
    exact .inr (.inl ⟨.hashMismatch, rfl, .inr ⟨Bool.eq_false_of_not_eq_true valid, rfl⟩,
      fun _ _ => rfl⟩)

/-- `Put` never takes a blob away. -/
theorem put_keeps (taken : put digest root files id body maxBytes suffix faults =
    some (after, result)) {other : BlobID} (valid : validID other = true) {bytes : List UInt8}
    (found : openBlob root files other = some bytes) : openBlob root after other = some bytes := by
  rw [openBlob_of_validID valid] at found ⊢
  have apart := @blobFile_ne_tempFile root other valid suffix
  rcases put_cases taken with ⟨-, -, -, -, rfl⟩ | ⟨-, -, -, kept⟩ |
    ⟨putValid, absent, -, -, -, -, -, kept⟩
  · exact found
  · exact (kept _ apart).trans found
  · refine (kept _ apart ?_).trans found
    intro shared
    rw [openBlob_of_validID putValid, ← shared] at absent
    cases absent.symm.trans found

/-- After a `Put` without an error the blob is there. -/
theorem put_ok_stored {size : Int} (taken : put digest root files id body maxBytes suffix faults =
    some (after, .ok size)) : (openBlob root after id).isSome = true := by
  rcases put_cases taken with ⟨bytes, -, found, -, rfl⟩ | ⟨error, failed, -, -⟩ |
    ⟨valid, -, read, -, -, -, here, -⟩
  · exact Option.isSome_of_eq_some found
  · cases failed
  · exact Option.isSome_of_eq_some ((openBlob_of_validID valid).trans here)

/-- A body within the limit that hashes to the id is stored, if no operation fails and the
limit does not wrap. -/
theorem put_stores (valid : validID id = true) (hashed : digest body = hexOf id)
    (small : (body.length : Int) ≤ maxBytes) (exact : wrapInt64 (maxBytes + 1) = maxBytes + 1)
    (absent : openBlob root files id = none) (fresh : tempFile root suffix ∉ files) :
    ∃ after, put digest root files id body maxBytes suffix .none =
        some (after, .ok body.length) ∧ openBlob root after id = some body := by
  have read : limitReader body (wrapInt64 (maxBytes + 1)) = body := by
    rw [exact, limitReader]
    exact List.take_of_length_le (by omega)
  have within : ¬maxBytes < (body.length : Int) := not_lt.mpr small
  have received : receive digest root files id (blobFile root id) body maxBytes suffix .none =
      (((files.insert (tempFile root suffix) body).erase (tempFile root suffix)).insert
        (blobFile root id) body, .ok body.length) := by
    simp [receive, PutFaults.none, read, fresh, hashed, within]
  rw [openBlob_of_validID valid] at absent
  have taken : put digest root files id body maxBytes suffix .none =
      some (receive digest root files id (blobFile root id) body maxBytes suffix .none) := by
    rw [put, if_pos valid, pathFor_eq root (addressed_of_validID valid), Option.map_some,
      Files.stat_eq_none.mpr absent]
  exact ⟨_, taken.trans (congrArg some received),
    (openBlob_of_validID valid).trans (AList.lookup_insert _)⟩

/-- `Put` returns. -/
theorem put_returns : ∃ after result,
    put digest root files id body maxBytes suffix faults = some (after, result) := by
  rw [put]
  split_ifs with valid
  · rw [pathFor_eq root (addressed_of_validID valid), Option.map_some]
    exact ⟨_, _, rfl⟩
  · exact ⟨_, _, rfl⟩

end Put

/-! ## Runs -/

/-- A call on the store. -/
inductive StoreCall where
  | put (id : BlobID) (body : List UInt8) (maxBytes : Int) (suffix : List UInt8)
      (faults : PutFaults)
  | delete (id : BlobID) (fails : Bool)

/-- The files after a call; one that panics leaves them. -/
def call (digest : List UInt8 → List UInt8) (root : Path) (files : Files Path) :
    StoreCall → Option (Files Path)
  | .put id body maxBytes suffix faults =>
      (put digest root files id body maxBytes suffix faults).map (·.1)
  | .delete id fails => some ((deleteBlob root files id fails).elim files (·.1))

/-- What is stored under a content address has that hash. -/
def Hashed (digest : List UInt8 → List UInt8) (root : Path) (files : Files Path) : Prop :=
  ∀ id bytes, validID id = true → openBlob root files id = some bytes → digest bytes = hexOf id

section Runs

variable {digest : List UInt8 → List UInt8} {root : Path} {files after : Files Path}

/-- Calls that leave a blob or remove it keep it hashed. -/
theorem Hashed.of_kept (hashed : Hashed digest root files)
    (kept : ∀ id, validID id = true → openBlob root after id = openBlob root files id ∨
      ∀ bytes, openBlob root after id = some bytes → digest bytes = hexOf id) :
    Hashed digest root after := by
  intro id bytes valid found
  rcases kept id valid with same | stored
  · exact hashed id bytes valid (same ▸ found)
  · exact stored bytes found

theorem Hashed.step (hashed : Hashed digest root files) {action : StoreCall}
    (called : call digest root files action = some after) : Hashed digest root after := by
  cases action with
  | delete id fails =>
      cases called
      cases deleted : deleteBlob root files id fails with
      | none => exact hashed
      | some result =>
          obtain ⟨path, -, rfl⟩ := Option.map_eq_some_iff.mp deleted
          simp only [Option.elim_some]
          cases fails with
          | true => exact hashed
          | false =>
              intro other bytes valid found
              rw [openBlob_of_validID valid] at found
              refine hashed other bytes valid ?_
              rw [openBlob_of_validID valid]
              rw [if_neg Bool.false_ne_true, Files.lookup_erase_eq] at found
              split_ifs at found
              exact found
  | put id body maxBytes suffix faults =>
      obtain ⟨⟨stored, result⟩, taken, rfl⟩ := Option.map_eq_some_iff.mp called
      apply hashed.of_kept
      intro other valid
      rw [openBlob_of_validID valid, openBlob_of_validID valid]
      have apart := @blobFile_ne_tempFile root other valid suffix
      rcases put_cases taken with ⟨bytes, -, -, -, rfl⟩ | ⟨error, -, -, kept⟩ |
        ⟨putValid, -, read, -, -, hash, here, kept⟩
      · exact .inl rfl
      · exact .inl (kept _ apart)
      · by_cases same : other = id
        · refine .inr ?_
          intro bytes found
          rw [same, here] at found
          cases found
          exact same ▸ hash
        · refine .inl (kept _ apart ?_)
          exact fun shared => same (blobFile_injective root valid putValid shared)

/-- After any calls every blob has the hash it is stored under, and whatever `Put` is called
with next, it returns: an error leaves the blobs, a new blob is within the limit and is the
only change, and a present one is reported without a change. -/
theorem content_addressed (reached : Reachable (call digest root) ∅ files) :
    Hashed digest root files ∧
    ∀ id body maxBytes suffix faults, ∃ after result,
      put digest root files id body maxBytes suffix faults = some (after, result) ∧
      (∀ error, result = .error error → ∀ other, validID other = true →
        openBlob root after other = openBlob root files other) ∧
      (∀ bytes, openBlob root files id = none → openBlob root after id = some bytes →
        (bytes.length : Int) ≤ maxBytes ∧ result = .ok bytes.length) ∧
      (∀ other, validID other = true → other ≠ id →
        openBlob root after other = openBlob root files other) ∧
      (∀ bytes, validID id = true → openBlob root files id = some bytes →
        result = .ok bytes.length ∧ after = files) := by
  have hashed : Hashed digest root files := by
    refine reached.invariant ?_ fun inv _ called => inv.step called
    intro id bytes valid found
    rw [openBlob_of_validID valid, AList.lookup_empty] at found
    cases found
  refine ⟨hashed, ?_⟩
  intro id body maxBytes suffix faults
  obtain ⟨after, result, taken⟩ := @put_returns digest root files id body suffix maxBytes faults
  refine ⟨after, result, taken, ?_⟩
  rcases put_cases taken with ⟨bytes, valid, found, rfl, rfl⟩ | ⟨error, rfl, state, kept⟩ |
    ⟨valid, absent, read, rfl, small, -, here, kept⟩
  · refine ⟨fun _ _ _ _ => rfl, ?_, fun _ _ _ => rfl, ?_⟩
    · intro other none
      cases none.symm.trans found
    · intro other _ present
      cases found.symm.trans present
      exact ⟨rfl, rfl⟩
  · have same : ∀ other, validID other = true →
        openBlob root after other = openBlob root files other := by
      intro other valid
      rw [openBlob_of_validID valid, openBlob_of_validID valid]
      exact kept _ (blobFile_ne_tempFile valid suffix)
    refine ⟨fun _ _ => same, ?_, fun other valid _ => same other valid, ?_⟩
    · intro bytes none found
      rcases state with ⟨valid, -⟩ | ⟨-, unchanged⟩
      · cases none.symm.trans ((same id valid).symm.trans found)
      · cases none.symm.trans (unchanged ▸ found)
    · intro bytes valid present
      rcases state with ⟨-, absent⟩ | ⟨invalid, -⟩
      · cases absent.symm.trans present
      · cases invalid.symm.trans valid
  · have stored : openBlob root after id = some read := (openBlob_of_validID valid).trans here
    refine ⟨?_, ?_, ?_, ?_⟩
    · intro error failed
      cases failed
    · intro bytes _ found
      cases stored.symm.trans found
      exact ⟨small, rfl⟩
    · intro other otherValid different
      rw [openBlob_of_validID otherValid, openBlob_of_validID otherValid]
      refine kept _ (blobFile_ne_tempFile otherValid suffix) ?_
      exact fun shared => different (blobFile_injective root otherValid valid shared)
    · intro bytes _ present
      cases absent.symm.trans present

/-- The digest of the empty text, in hexadecimal. -/
def emptyDigest : List UInt8 :=
  bytesOf "e3b0c44298fc1c149afbf4c8996fb92427ae41e4649b934ca495991b7852b855"

/-- The address of the empty text. -/
def emptyBlob : BlobID := "sha256:e3b0c44298fc1c149afbf4c8996fb92427ae41e4649b934ca495991b7852b855"

/-- SHA-256 as far as the two texts go, in hexadecimal. -/
def abcDigest (bytes : List UInt8) : List UInt8 :=
  if bytes = bytesOf "abc" then
    bytesOf "ba7816bf8f01cfea414140de5dae2223b00361a396177a9cb410ff61f20015ad"
  else emptyDigest

/-- The address of the text `abc`. -/
def abcBlob : BlobID := "sha256:ba7816bf8f01cfea414140de5dae2223b00361a396177a9cb410ff61f20015ad"

/-- The text `abc` is too long for a limit of two bytes and does not have the address of the
empty text; within its limit it is stored. -/
theorem abc_blob_addressed :
    ∃ files, Reachable (call abcDigest ⟨true, []⟩) ∅ files ∧
      openBlob ⟨true, []⟩ files abcBlob = some (bytesOf "abc") ∧
      openBlob ⟨true, []⟩ files emptyBlob = none ∧ Hashed abcDigest ⟨true, []⟩ files := by
  obtain ⟨files, reached, checked⟩ := Reachable.exists_of_exec
    (call abcDigest ⟨true, []⟩) ∅
    [.put abcBlob (bytesOf "abc") 2 [49] .none, .put emptyBlob (bytesOf "abc") 3 [50] .none,
      .put abcBlob (bytesOf "abc") 3 [51] .none]
    (fun files => decide (openBlob ⟨true, []⟩ files abcBlob = some (bytesOf "abc") ∧
      openBlob ⟨true, []⟩ files emptyBlob = none))
    (by decide +kernel)
  obtain ⟨stored, absent⟩ := of_decide_eq_true checked
  exact ⟨files, reached, stored, absent, (content_addressed reached).1⟩

end Runs

end CopySync.Server
