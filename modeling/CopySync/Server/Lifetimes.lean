import CopySync.Server.Blob.Upload
import CopySync.Server.Relay.Machine
import CopySync.Server.Rotation.Machine
import CopySync.Server.Store.Queue

/-!
# Limits and lifetimes

The settings hold sizes in bytes and times in seconds or days.  What is computed from them is
64-bit: the reading limit of an upload is one more than the largest blob, and a time is a
duration in nanoseconds.  `Normalize` sets floors and no ceilings.
-/

namespace CopySync.Server

open Foundation

/-- An admin session. -/
structure AdminSession where
  idHash : String
  username : String
  createdAt : Time
  expiresAt : Time
  deriving DecidableEq, Repr

/-- `currentSession` refuses a session that is over. -/
def AdminSession.expired (session : AdminSession) (now : Time) : Bool :=
  decide (session.expiresAt < now)

/-- The session `issueSession` stores. -/
def issueSession (settings : RuntimeSettings) (idHash username : String) (now : Time) :
    AdminSession where
  idHash
  username
  createdAt := now
  expiresAt := now + Duration.ofSeconds settings.sessionTTLSeconds

/-- The code `handleCreatePairing` stores. -/
def createPairing (settings : RuntimeSettings) (code : String) (now : Time) : PairingCode where
  code
  createdAt := now
  expiresAt := now + Duration.ofSeconds settings.pairingCodeTTLSeconds
  consumedAt := none

/-- The time to live of a queued item, as housekeeping computes it. -/
def queueTTL (settings : RuntimeSettings) : Duration :=
  Duration.ofSeconds settings.queueItemTTLSeconds

/-- The time to live of a blob, as housekeeping computes it. -/
def blobTTL (settings : RuntimeSettings) : Duration := Duration.ofSeconds settings.blobTTLSeconds

/-! ## Exact arithmetic -/

theorem wrapInt64_eq_iff (value : Int) :
    wrapInt64 value = value ↔ -2 ^ 63 ≤ value ∧ value < 2 ^ 63 := by
  rw [wrapInt64]
  omega

/-- A number of seconds is a duration when it is below three centuries. -/
theorem ofSeconds_eq_iff (seconds : Int) :
    Duration.ofSeconds seconds = seconds * 10 ^ 9 ↔
      -9223372036 ≤ seconds ∧ seconds ≤ 9223372036 := by
  rw [Duration.ofSeconds, wrapInt64_eq_iff]
  omega

theorem rotateAge_eq_iff (settings : RuntimeSettings) :
    rotateAge settings = settings.tokenRotateDays * (24 * 3600 * 10 ^ 9) ↔
      -106751 ≤ settings.tokenRotateDays ∧ settings.tokenRotateDays ≤ 106751 := by
  have product : settings.tokenRotateDays * 24 * 3600 * 10 ^ 9 =
      settings.tokenRotateDays * (24 * 3600 * 10 ^ 9) := by ring
  rw [rotateAge, product, wrapInt64_eq_iff]
  omega

/-- What is computed from the settings is exact, and serves its purpose: bodies within the
limit are stored, queued items are purged for their age only, and a session or a code is good
when it is issued. -/
structure ExactSettings (settings : RuntimeSettings) : Prop where
  limit : wrapInt64 (settings.blobMaxBytes + 1) = settings.blobMaxBytes + 1
  queueTTL : queueTTL settings = settings.queueItemTTLSeconds * 10 ^ 9
  blobTTL : blobTTL settings = settings.blobTTLSeconds * 10 ^ 9
  sessionTTL : Duration.ofSeconds settings.sessionTTLSeconds =
    settings.sessionTTLSeconds * 10 ^ 9
  pairingTTL : Duration.ofSeconds settings.pairingCodeTTLSeconds =
    settings.pairingCodeTTLSeconds * 10 ^ 9
  rotation : rotateAge settings = settings.tokenRotateDays * (24 * 3600 * 10 ^ 9)
  stores : ∀ (digest : List UInt8 → List UInt8) root files id body suffix, validID id = true →
    digest body = hexOf id → (body.length : Int) ≤ settings.blobMaxBytes →
    openBlob root files id = none → tempFile root suffix ∉ files →
    ∃ after, put digest root files id body settings.blobMaxBytes suffix .none =
      some (after, .ok body.length) ∧ openBlob root after id = some body
  purges : ∀ (store : Store) now device, ∀ item ∈ store.queueOf device,
    item ∉ (store.purgeExpiredQueueItems now (Server.queueTTL settings)).1.queueOf device →
      settings.queueItemTTLSeconds * 10 ^ 9 < now - item.enqueuedAt
  session : ∀ idHash username now,
    (issueSession settings idHash username now).expired now = false
  code : ∀ text now, (createPairing settings text now).expired now = false

/-- Sizes below the largest 64-bit number, and times below the longest duration. -/
structure Moderate (settings : RuntimeSettings) : Prop where
  blobMaxBytes : settings.blobMaxBytes < 2 ^ 63 - 1
  queueItemTTLSeconds : -9223372036 ≤ settings.queueItemTTLSeconds ∧
    settings.queueItemTTLSeconds ≤ 9223372036
  blobTTLSeconds : -9223372036 ≤ settings.blobTTLSeconds ∧ settings.blobTTLSeconds ≤ 9223372036
  sessionTTLSeconds : settings.sessionTTLSeconds ≤ 9223372036
  pairingCodeTTLSeconds : settings.pairingCodeTTLSeconds ≤ 9223372036
  tokenRotateDays : settings.tokenRotateDays ≤ 106751

section Effects

variable {settings : RuntimeSettings}

/-- An item is purged when it is older than the time to live. -/
theorem older_of_purged {store : Store} {now : Time} {ttl : Duration} {device : DeviceID}
    {item : QueueItem} (queued : item ∈ store.queueOf device)
    (gone : item ∉ (store.purgeExpiredQueueItems now ttl).1.queueOf device) :
    ttl < now - item.enqueuedAt := by
  rw [Store.queueOf_purge, List.mem_filter] at gone
  have removed := Bool.eq_false_of_not_eq_true fun kept => gone ⟨queued, kept⟩
  obtain ⟨positive, expired⟩ := Bool.or_eq_false_iff.mp removed
  have older : ttl < now.sub item.enqueuedAt := by simpa [Store.expiredItem] using expired
  rcases lt_max_iff.mp older with negative | below
  · exact absurd (negative.trans (by decide)).le (of_decide_eq_false positive)
  · exact (lt_min_iff.mp below).2

/-- A time that lies ahead has not passed. -/
theorem not_expired_of_ahead {now : Time} {lifetime : Duration} (ahead : 0 ≤ lifetime) :
    decide (now + lifetime < now) = false :=
  decide_eq_false (not_lt.mpr (le_add_of_nonneg_right ahead))

theorem Moderate.exact (moderate : Moderate settings) (normal : settings.normalize = settings) :
    ExactSettings settings := by
  have floors : 1024 ≤ settings.blobMaxBytes ∧ 60 ≤ settings.sessionTTLSeconds ∧
      30 ≤ settings.pairingCodeTTLSeconds ∧ 0 ≤ settings.tokenRotateDays := by
    rw [← normal]
    exact ⟨le_max_right .., le_max_right .., le_max_right .., le_max_right ..⟩
  obtain ⟨blob, session, pairing, rotate⟩ := floors
  have limit := (wrapInt64_eq_iff (settings.blobMaxBytes + 1)).mpr
    ⟨by omega, by have := moderate.blobMaxBytes; omega⟩
  have queueTTL := (ofSeconds_eq_iff _).mpr moderate.queueItemTTLSeconds
  have sessionTTL := (ofSeconds_eq_iff _).mpr ⟨by omega, moderate.sessionTTLSeconds⟩
  have pairingTTL := (ofSeconds_eq_iff _).mpr ⟨by omega, moderate.pairingCodeTTLSeconds⟩
  constructor
  · exact limit
  · exact queueTTL
  · exact (ofSeconds_eq_iff _).mpr moderate.blobTTLSeconds
  · exact sessionTTL
  · exact pairingTTL
  · exact (rotateAge_eq_iff settings).mpr ⟨by omega, moderate.tokenRotateDays⟩
  · intro digest root files id body suffix valid hashed small absent fresh
    exact put_stores valid hashed small limit absent fresh
  · intro store now device item queued gone
    rw [← queueTTL]
    exact older_of_purged queued gone
  · intro idHash username now
    refine not_expired_of_ahead ?_
    rw [sessionTTL]
    exact Int.mul_nonneg (by omega) (by decide)
  · intro text now
    refine not_expired_of_ahead ?_
    rw [pairingTTL]
    exact Int.mul_nonneg (by omega) (by decide)

/-- Settings that `Normalize` leaves alone are computed with exactly when they are
moderate. -/
theorem exactSettings_iff (normal : settings.normalize = settings) :
    ExactSettings settings ↔ Moderate settings := by
  refine ⟨fun exact => ?_, fun moderate => moderate.exact normal⟩
  constructor
  · have := ((wrapInt64_eq_iff _).mp exact.limit).2
    omega
  · exact (ofSeconds_eq_iff _).mp exact.queueTTL
  · exact (ofSeconds_eq_iff _).mp exact.blobTTL
  · exact ((ofSeconds_eq_iff _).mp exact.sessionTTL).2
  · exact ((ofSeconds_eq_iff _).mp exact.pairingTTL).2
  · exact ((rotateAge_eq_iff settings).mp exact.rotation).2

end Effects

/-- With the defaults nothing wraps. -/
theorem default_exact : Moderate .default ∧ ExactSettings .default := by
  have moderate : Moderate .default :=
    ⟨by decide, by decide, by decide, by decide, by decide, by decide⟩
  exact ⟨moderate, (exactSettings_iff (by decide)).mpr moderate⟩

/-- Settings above every floor, each value a 64-bit one. -/
def excessive : RuntimeSettings :=
  { RuntimeSettings.default with
    blobMaxBytes := 2 ^ 63 - 1
    queueItemTTLSeconds := 20211507185753197
    sessionTTLSeconds := 9223372037
    pairingCodeTTLSeconds := 9223372037 }

/-- A clip that waits for a microsecond. -/
def waitingStore : Store := (Store.empty.enqueue "dev_b" ⟨.text "c1" "hi", 0⟩ 200).1

/-- The digests of a zero byte and of the empty text. -/
def sampleDigests (bytes : List UInt8) : List UInt8 :=
  if bytes = [0] then
    bytesOf "6e340b9cffb37a989ca544e6bb780a2c78901d3fb33738768511a30617afa01d"
  else emptyDigest

/-- `Normalize` keeps the excessive settings.  The largest limit refuses a body of one byte
that hashes to its id; with a time to live of 20 quadrillion seconds an item that waits for a
microsecond is purged; sessions and pairing codes for three centuries have expired when they
are issued. -/
theorem excessive_wraps :
    RuntimeSettings.normalize excessive = excessive ∧ ¬ExactSettings excessive ∧
    (put sampleDigests ⟨true, []⟩ ∅
      "sha256:6e340b9cffb37a989ca544e6bb780a2c78901d3fb33738768511a30617afa01d" [0]
      excessive.blobMaxBytes [49] .none).map (·.2) = some (.error .hashMismatch) ∧
    (waitingStore.queueOf "dev_b").length = 1 ∧
    (waitingStore.purgeExpiredQueueItems 1000 (queueTTL excessive)).1.queueOf "dev_b" = [] ∧
    (issueSession excessive "h" "admin" 5).expired 5 = true ∧
    (createPairing excessive "12345678" 5).expired 5 = true := by
  have expired : (issueSession excessive "h" "admin" 5).expired 5 = true := by decide +kernel
  refine ⟨by decide +kernel, ?_, ?_, by decide +kernel, by decide +kernel, expired,
    by decide +kernel⟩
  · intro exact
    cases expired.symm.trans (exact.session "h" "admin" 5)
  · decide +kernel

end CopySync.Server
