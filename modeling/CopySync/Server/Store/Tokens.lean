import CopySync.Server.Store.Basic
import Mathlib.Data.List.Perm.Subperm

/-!
# Token records, the token index and token validation

A device's token record and the hash-to-device index live in two buckets.  Five
transactions move them: pairing, rotation, re-issue of a pending rotation,
retirement of the previous token, and deletion of the device.  The agreement
theorem says the two buckets never drift apart, so that the blob channel, which
authenticates by hash alone, and the control channel accept the same tokens.
-/

namespace CopySync.Server

open Foundation

/-- `auth.HashToken` under the server's secret.  Its result is the base64 form of
a MAC, hence never the empty string that stands for "no previous token". -/
structure TokenHasher where
  hashToken : String → String
  hashToken_ne : ∀ token, hashToken token ≠ ""

/-- The hashes a record accepts: its current one and, during a rotation, the
previous one. -/
def TokenRecord.Holds (record : TokenRecord) (hash : String) : Prop :=
  record.tokenHash = hash ∨ record.prevHash ≠ "" ∧ record.prevHash = hash

instance (record : TokenRecord) (hash : String) : Decidable (record.Holds hash) :=
  inferInstanceAs (Decidable (_ ∨ _))

namespace Store

/-- No token record holds the hash. -/
def Unheld (store : Store) (hash : String) : Prop :=
  ∀ record ∈ store.tokens.values, ¬record.Holds hash

instance (store : Store) (hash : String) : Decidable (store.Unheld hash) :=
  inferInstanceAs (Decidable (∀ record ∈ _, _))

theorem Unheld.not_holds {store : Store} {hash : String} (unheld : store.Unheld hash)
    {id : DeviceID} {record : TokenRecord} (lookup : store.tokens.get? id = some record) :
    ¬record.Holds hash :=
  unheld record ((OrderedMap.mem_values_iff _).mpr ⟨id, lookup⟩)

def getToken (store : Store) (id : DeviceID) : Option TokenRecord := store.tokens.get? id

def deviceIDByTokenHash (store : Store) (hash : String) : Option DeviceID :=
  store.tokenIndex.get? hash

/-- Issue a new hash and keep the previous one valid.  No-op while a rotation is
pending or when the hash is unchanged. -/
def rotateToken (store : Store) (id : DeviceID) (newHash : String) (now : Time) : Store :=
  match store.tokens.get? id with
  | none => store
  | some record =>
      if record.prevHash ≠ "" ∨ record.tokenHash = newHash then store
      else
        { store with
          tokens := store.tokens.put id
            { record with prevHash := record.tokenHash, tokenHash := newHash, issuedAt := now }
          tokenIndex := store.tokenIndex.put newHash id }

/-- Replace the pending hash of a rotation whose delivery was lost, while the
device still presents the previous token.  Reports whether it did. -/
def reissuePendingToken (store : Store) (id : DeviceID) (prevHash newHash : String)
    (now : Time) : Store × Bool :=
  match store.tokens.get? id with
  | none => (store, false)
  | some record =>
      if record.prevHash = "" ∨ record.prevHash ≠ prevHash ∨ record.tokenHash = newHash then
        (store, false)
      else
        let index :=
          if record.tokenHash ≠ "" ∧ record.tokenHash ≠ record.prevHash then
            store.tokenIndex.erase record.tokenHash
          else store.tokenIndex
        ({ store with
            tokens := store.tokens.put id { record with tokenHash := newHash, issuedAt := now }
            tokenIndex := index.put newHash id }, true)

/-- Invalidate the previous token.  No-op when no rotation is pending. -/
def retireOldToken (store : Store) (id : DeviceID) : Store :=
  match store.tokens.get? id with
  | none => store
  | some record =>
      if record.prevHash = "" then store
      else
        { store with
          tokens := store.tokens.put id { record with prevHash := "" }
          tokenIndex := store.tokenIndex.erase record.prevHash }

end Store

/-! ## Validation -/

/-- Control-channel validation of a device id and token. -/
def validate (hasher : TokenHasher) (store : Store) (id : DeviceID) (token : String) :
    Option Device :=
  match store.getDevice id with
  | none => none
  | some device =>
      if device.revoked then none
      else
        match store.getToken id with
        | none => none
        | some record =>
            let presented := hasher.hashToken token
            if record.revoked then none
            else if record.tokenHash ≠ presented ∧ record.prevHash ≠ presented then none
            else some device

/-- Blob-channel validation: resolve the device by token hash, then validate. -/
def validateBlobToken (hasher : TokenHasher) (store : Store) (token : String) :
    Option Device :=
  match store.deviceIDByTokenHash (hasher.hashToken token) with
  | none => none
  | some id => validate hasher store id token

/-- Acceptance reads the device's own record, which must hold the presented
hash. -/
theorem validate_eq_some {hasher : TokenHasher} {store : Store} {id : DeviceID}
    {token : String} {device : Device}
    (accepted : validate hasher store id token = some device) :
    store.devices.get? id = some device ∧
      ∃ record, store.tokens.get? id = some record ∧
        record.Holds (hasher.hashToken token) := by
  rw [validate, Store.getDevice, Store.getToken] at accepted
  split at accepted
  next => cases accepted
  next found lookup =>
    split_ifs at accepted
    split at accepted
    next => cases accepted
    next record recordLookup =>
      simp only at accepted
      split_ifs at accepted with revoked rejected
      cases accepted
      refine ⟨lookup, record, recordLookup, ?_⟩
      rw [not_and_or, not_not, not_not] at rejected
      rcases rejected with current | previous
      · exact .inl current
      · exact .inr ⟨previous ▸ hasher.hashToken_ne token, previous⟩

/-! ## Operations on the two buckets -/

/-- Transactions that touch token records, with the pairing-code housekeeping
that makes a claim possible. -/
inductive TokenOp where
  | putPairing (code : PairingCode)
  | purgePairing (now : Time)
  | claimPairing (code : String) (now : Time) (device : Device) (tokenHash : String)
  | rotateToken (id : DeviceID) (newHash : String) (now : Time)
  | reissuePendingToken (id : DeviceID) (prevHash newHash : String) (now : Time)
  | retireOldToken (id : DeviceID)
  | deleteDevice (id : DeviceID)

namespace TokenOp

/-- The token hash an operation introduces. -/
def newHash? : TokenOp → Option String
  | .claimPairing _ _ _ hash => some hash
  | .rotateToken _ hash _ => some hash
  | .reissuePendingToken _ _ hash _ => some hash
  | _ => none

/-- The device id an operation introduces. -/
def newDevice? : TokenOp → Option DeviceID
  | .claimPairing _ _ device _ => some device.id
  | _ => none

/-- Run one operation.  A refused claim leaves the store as it was; the token
record of a claim is the one `handlePairClaim` builds. -/
def apply (lib : Library) (store : Store) : TokenOp → Store
  | .putPairing code => store.putPairing code
  | .purgePairing now => store.purgePairing now
  | .claimPairing code now device hash =>
      match store.claimPairing lib code now device ⟨device.id, hash, "", now, false⟩ with
      | .ok after => after
      | .error _ => store
  | .rotateToken id hash now => store.rotateToken id hash now
  | .reissuePendingToken id prevHash hash now =>
      (store.reissuePendingToken id prevHash hash now).1
  | .retireOldToken id => store.retireOldToken id
  | .deleteDevice id => store.deleteDevice lib id

/-- An operation brings in a device id without a token record, and a non-empty token hash that
no record holds.  A hash that an operation was given and did not write is still fresh. -/
def Fresh (store : Store) (op : TokenOp) : Prop :=
  (∀ hash ∈ op.newHash?, hash ≠ "" ∧ store.Unheld hash) ∧
    ∀ id ∈ op.newDevice?, store.tokens.get? id = none

instance (store : Store) (op : TokenOp) : Decidable (op.Fresh store) :=
  inferInstanceAs (Decidable (_ ∧ _))

def FreshFrom (lib : Library) (store : Store) : List TokenOp → Prop
  | [] => True
  | op :: rest => op.Fresh store ∧ FreshFrom lib (op.apply lib store) rest

instance decidableFreshFrom (lib : Library) :
    (store : Store) → (ops : List TokenOp) → Decidable (FreshFrom lib store ops)
  | _, [] => isTrue trivial
  | store, op :: rest =>
      have := decidableFreshFrom lib (op.apply lib store) rest
      inferInstanceAs (Decidable (_ ∧ _))

end TokenOp

/-- The buckets agree.  `distinct` keeps a rotation from putting one hash in both places of a
record. -/
structure TokenInv (store : Store) : Prop where
  agrees : ∀ hash id, store.tokenIndex.get? hash = some id ↔
    ∃ record, store.tokens.get? id = some record ∧ record.Holds hash
  named : ∀ id device, store.devices.get? id = some device → device.id = id
  distinct : ∀ id record, store.tokens.get? id = some record →
    record.tokenHash ≠ "" ∧ record.tokenHash ≠ record.prevHash

namespace TokenInv

variable {lib : Library} {store : Store}

theorem empty : TokenInv Store.empty where
  agrees := by simp [Store.empty]
  named := by simp [Store.empty]
  distinct := by simp [Store.empty]

/-- A hash held by two records belongs to one device. -/
theorem holder_unique (inv : TokenInv store) {left right : DeviceID}
    {leftRecord rightRecord : TokenRecord} {hash : String}
    (leftLookup : store.tokens.get? left = some leftRecord) (leftHolds : leftRecord.Holds hash)
    (rightLookup : store.tokens.get? right = some rightRecord)
    (rightHolds : rightRecord.Holds hash) : left = right := by
  have leftIndex := (inv.agrees hash left).mpr ⟨leftRecord, leftLookup, leftHolds⟩
  have rightIndex := (inv.agrees hash right).mpr ⟨rightRecord, rightLookup, rightHolds⟩
  exact Option.some.inj (leftIndex.symm.trans rightIndex)

/-- Replacing one device's record keeps the agreement when the index gains the
hashes the new record holds, loses those only the old one held, and every
hash the device gains is one no record held before. -/
theorem agrees_replace (inv : TokenInv store) {after : Store} (id : DeviceID)
    (new : Option TokenRecord)
    (tokens : ∀ query, after.tokens.get? query =
      if query = id then new else store.tokens.get? query)
    (gained : ∀ record ∈ new, ∀ hash, record.Holds hash →
      after.tokenIndex.get? hash = some id ∧
        (store.Unheld hash ∨ ∃ old, store.tokens.get? id = some old ∧ old.Holds hash))
    (lost : ∀ hash, (∀ record ∈ new, ¬record.Holds hash) →
      after.tokenIndex.get? hash =
        if ∃ old, store.tokens.get? id = some old ∧ old.Holds hash then none
        else store.tokenIndex.get? hash) :
    ∀ hash query, after.tokenIndex.get? hash = some query ↔
      ∃ record, after.tokens.get? query = some record ∧ record.Holds hash := by
  intro hash query
  rw [tokens query]
  by_cases holds : ∃ record ∈ new, record.Holds hash
  · obtain ⟨record, isNew, newHolds⟩ := holds
    obtain ⟨indexed, wasHeld⟩ := gained record isNew hash newHolds
    rw [indexed]
    split
    next same =>
      subst same
      exact ⟨fun _ => ⟨record, isNew, newHolds⟩, fun _ => rfl⟩
    next different =>
      -- Another device holding the hash would share it with the old record.
      refine ⟨fun equal => absurd (Option.some.inj equal).symm different, ?_⟩
      rintro ⟨other, otherLookup, otherHolds⟩
      cases wasHeld with
      | inl unheld => exact absurd otherHolds (unheld.not_holds otherLookup)
      | inr held =>
          obtain ⟨old, oldLookup, oldHolds⟩ := held
          exact absurd (inv.holder_unique otherLookup otherHolds oldLookup oldHolds) different
  · have unheld : ∀ record ∈ new, ¬record.Holds hash :=
      fun record isNew newHolds => holds ⟨record, isNew, newHolds⟩
    rw [lost hash unheld]
    split
    next wasHeld =>
      obtain ⟨old, oldLookup, oldHolds⟩ := wasHeld
      refine ⟨nofun, ?_⟩
      rintro ⟨other, otherLookup, otherHolds⟩
      split at otherLookup
      next => exact absurd otherHolds (unheld other otherLookup)
      next different =>
        exact absurd (inv.holder_unique otherLookup otherHolds oldLookup oldHolds) different
    next notHeld =>
      rw [inv.agrees hash query]
      split
      next same =>
        subst same
        exact ⟨fun held => absurd held notHeld,
          fun ⟨other, isNew, otherHolds⟩ => absurd otherHolds (unheld other isNew)⟩
      next => rfl

/-- What an operation must establish about the one record it replaces. -/
theorem replace (inv : TokenInv store) {after : Store} (id : DeviceID)
    (new : Option TokenRecord)
    (tokens : ∀ query, after.tokens.get? query =
      if query = id then new else store.tokens.get? query)
    (named : ∀ query device, after.devices.get? query = some device → device.id = query)
    (gained : ∀ record ∈ new, ∀ hash, record.Holds hash →
      after.tokenIndex.get? hash = some id ∧
        (store.Unheld hash ∨ ∃ old, store.tokens.get? id = some old ∧ old.Holds hash))
    (lost : ∀ hash, (∀ record ∈ new, ¬record.Holds hash) →
      after.tokenIndex.get? hash =
        if ∃ old, store.tokens.get? id = some old ∧ old.Holds hash then none
        else store.tokenIndex.get? hash)
    (distinct : ∀ record ∈ new, record.tokenHash ≠ "" ∧ record.tokenHash ≠ record.prevHash) :
    TokenInv after where
  agrees := inv.agrees_replace id new tokens gained lost
  named := named
  distinct := by
    intro query record lookup
    rw [tokens] at lookup
    split at lookup
    next => exact distinct record lookup
    next => exact inv.distinct query record lookup

theorem claimPairing (inv : TokenInv store) {code hash : String} {now : Time}
    {device : Device} (fresh : hash ≠ "" ∧ store.Unheld hash)
    (unpaired : store.tokens.get? device.id = none) :
    TokenInv (TokenOp.apply lib store (.claimPairing code now device hash)) := by
  simp only [TokenOp.apply]
  split
  next after claimed =>
    obtain ⟨entry, -, -, -, -, rfl⟩ := Store.claimPairing_ok claimed
    apply inv.replace device.id (some ⟨device.id, hash, "", now, false⟩)
    case tokens => exact fun query => OrderedMap.get?_put ..
    case named =>
      intro id found lookup
      rw [OrderedMap.get?_put] at lookup
      split at lookup
      next same => cases lookup; exact same.symm
      next => exact inv.named id found lookup
    case gained =>
      rintro record ⟨⟩ query (rfl | ⟨absent, -⟩)
      · exact ⟨OrderedMap.get?_put_self .., .inl fresh.2⟩
      · exact (absent rfl).elim
    case lost =>
      intro query unheld
      have different : query ≠ hash := fun same => unheld _ rfl (.inl same.symm)
      simp [unpaired, different]
    case distinct =>
      rintro record ⟨⟩
      exact ⟨fresh.1, fresh.1⟩
  next => exact inv

theorem rotateToken (inv : TokenInv store) (id : DeviceID) {hash : String}
    (now : Time) (fresh : hash ≠ "" ∧ store.Unheld hash) :
    TokenInv (store.rotateToken id hash now) := by
  rw [Store.rotateToken]
  split
  next => exact inv
  next record lookup =>
    split_ifs with skipped
    · exact inv
    · simp only [not_or, ne_eq, not_not] at skipped
      have nonempty := (inv.distinct id record lookup).1
      have current := (inv.agrees record.tokenHash id).mpr ⟨record, lookup, .inl rfl⟩
      apply inv.replace id (some { record with
        prevHash := record.tokenHash, tokenHash := hash, issuedAt := now })
      case tokens => exact fun query => OrderedMap.get?_put ..
      case named => exact inv.named
      case gained =>
        rintro _ ⟨⟩ query (rfl | ⟨-, rfl⟩)
        · exact ⟨OrderedMap.get?_put_self .., .inl fresh.2⟩
        · have different : record.tokenHash ≠ hash := skipped.2
          simp only [OrderedMap.get?_put_of_ne _ _ different, current, true_and]
          exact .inr ⟨record, lookup, .inl rfl⟩
      case lost =>
        intro query unheld
        have different : query ≠ hash := fun same => unheld _ rfl (.inl same.symm)
        have notOld : ¬∃ old, store.tokens.get? id = some old ∧ old.Holds query := by
          rintro ⟨old, oldLookup, current | ⟨pending, -⟩⟩
          · cases lookup.symm.trans oldLookup
            exact unheld _ rfl (.inr ⟨nonempty, current⟩)
          · cases lookup.symm.trans oldLookup
            exact pending skipped.1
        simp [different, notOld]
      case distinct =>
        rintro _ ⟨⟩
        exact ⟨fresh.1, fun same => skipped.2 same.symm⟩

theorem reissuePendingToken (inv : TokenInv store) (id : DeviceID)
    (prevHash : String) {hash : String} (now : Time)
    (fresh : hash ≠ "" ∧ store.Unheld hash) :
    TokenInv (store.reissuePendingToken id prevHash hash now).1 := by
  rw [Store.reissuePendingToken]
  split
  next => exact inv
  next record lookup =>
    split_ifs with skipped orphan
    · exact inv
    · simp only [not_or, not_not] at skipped
      have previous := (inv.agrees record.prevHash id).mpr
        ⟨record, lookup, .inr ⟨skipped.1, rfl⟩⟩
      have notFresh : record.prevHash ≠ hash := fun same =>
        fresh.2.not_holds lookup (.inr ⟨skipped.1, same⟩)
      apply inv.replace id (some { record with tokenHash := hash, issuedAt := now })
      case tokens => exact fun query => OrderedMap.get?_put ..
      case named => exact inv.named
      case gained =>
        rintro _ ⟨⟩ query (rfl | ⟨-, rfl⟩)
        · exact ⟨OrderedMap.get?_put_self .., .inl fresh.2⟩
        · simp only [OrderedMap.get?_put_of_ne _ _ notFresh,
            OrderedMap.get?_erase_of_ne _ (Ne.symm orphan.2), previous, true_and]
          exact .inr ⟨record, lookup, .inr ⟨skipped.1, rfl⟩⟩
      case lost =>
        intro query unheld
        have different : query ≠ hash := fun same => unheld _ rfl (.inl same.symm)
        have notPrevious : record.prevHash ≠ query := fun same =>
          unheld _ rfl (.inr ⟨skipped.1, same⟩)
        simp only [OrderedMap.get?_put_of_ne _ _ different, OrderedMap.get?_erase]
        by_cases current : query = record.tokenHash
        · simp [current, lookup, TokenRecord.Holds]
        · simp [current, lookup, TokenRecord.Holds, notPrevious, Ne.symm current]
      case distinct =>
        rintro _ ⟨⟩
        exact ⟨fresh.1, Ne.symm notFresh⟩
    · exact absurd (inv.distinct id record lookup) orphan

theorem retireOldToken (inv : TokenInv store) (id : DeviceID) :
    TokenInv (store.retireOldToken id) := by
  rw [Store.retireOldToken]
  split
  next => exact inv
  next record lookup =>
    split_ifs with idle
    · exact inv
    · have distinct := inv.distinct id record lookup
      have current := (inv.agrees record.tokenHash id).mpr ⟨record, lookup, .inl rfl⟩
      apply inv.replace id (some { record with prevHash := "" })
      case tokens => exact fun query => OrderedMap.get?_put ..
      case named => exact inv.named
      case gained =>
        rintro _ ⟨⟩ query (rfl | ⟨absent, -⟩)
        · simp only [OrderedMap.get?_erase_of_ne _ distinct.2, current, true_and]
          exact .inr ⟨record, lookup, .inl rfl⟩
        · exact (absent rfl).elim
      case lost =>
        intro query unheld
        have notCurrent : record.tokenHash ≠ query := fun same => unheld _ rfl (.inl same)
        simp only [OrderedMap.get?_erase]
        by_cases previous : query = record.prevHash
        · simp [previous, lookup, TokenRecord.Holds, idle]
        · simp [previous, lookup, TokenRecord.Holds, notCurrent, Ne.symm previous]
      case distinct =>
        rintro _ ⟨⟩
        exact ⟨distinct.1, distinct.1⟩

theorem deleteDevice (inv : TokenInv store) (id : DeviceID) :
    TokenInv (store.deleteDevice lib id) := by
  apply inv.replace id none
  case tokens => exact fun query => OrderedMap.get?_erase ..
  case named =>
    intro query device lookup
    rw [Store.deleteDevice, OrderedMap.get?_erase] at lookup
    split at lookup
    next => cases lookup
    next => exact inv.named query device lookup
  case lost =>
    intro query unheld
    simp only [Store.deleteDevice]
    cases lookup : store.tokens.get? id with
    | none => simp
    | some record =>
        simp only [Option.some.injEq, exists_eq_left', TokenRecord.Holds]
        by_cases current : query = record.tokenHash <;>
          by_cases idle : record.prevHash = "" <;>
          grind
  all_goals simp

/-- One operation with fresh names preserves the invariant. -/
theorem step (inv : TokenInv store) (op : TokenOp) (fresh : op.Fresh store) :
    TokenInv (op.apply lib store) := by
  cases op with
  | putPairing | purgePairing => exact ⟨inv.agrees, inv.named, inv.distinct⟩
  | claimPairing code now device hash =>
      exact inv.claimPairing (fresh.1 hash rfl) (fresh.2 device.id rfl)
  | rotateToken id hash now => exact inv.rotateToken id now (fresh.1 hash rfl)
  | reissuePendingToken id prevHash hash now =>
      exact inv.reissuePendingToken id prevHash now (fresh.1 hash rfl)
  | retireOldToken id => exact inv.retireOldToken id
  | deleteDevice id => exact inv.deleteDevice id

/-- The invariant holds after every sequence of fresh operations. -/
theorem run (inv : TokenInv store) (ops : List TokenOp)
    (fresh : TokenOp.FreshFrom lib store ops) :
    TokenInv (ops.foldl (TokenOp.apply lib) store) := by
  induction ops generalizing store with
  | nil => exact inv
  | cons op rest ih => exact ih (inv.step op fresh.1) fresh.2

theorem validate_named (inv : TokenInv store) {hasher : TokenHasher}
    {id : DeviceID} {token : String} {device : Device}
    (accepted : validate hasher store id token = some device) : device.id = id :=
  inv.named id device (validate_eq_some accepted).1

/-- The index resolves an accepted token to the device that accepts it. -/
theorem validateBlobToken_iff (inv : TokenInv store) {hasher : TokenHasher}
    (token : String) (device : Device) :
    validateBlobToken hasher store token = some device ↔
      ∃ id, validate hasher store id token = some device := by
  rw [validateBlobToken, Store.deviceIDByTokenHash]
  constructor
  · intro accepted
    split at accepted
    next => cases accepted
    next id _ => exact ⟨id, accepted⟩
  · rintro ⟨id, accepted⟩
    obtain ⟨-, record, lookup, holds⟩ := validate_eq_some accepted
    rw [(inv.agrees (hasher.hashToken token) id).mpr ⟨record, lookup, holds⟩]
    exact accepted

end TokenInv

/-- A record accepts at most two of any tokens with pairwise different hashes. -/
theorem validate_filter_length_le (hasher : TokenHasher) (store : Store) (id : DeviceID)
    {tokens : List String} (distinct : (tokens.map hasher.hashToken).Nodup) :
    (tokens.filter fun token => (validate hasher store id token).isSome).length ≤ 2 := by
  cases lookup : store.tokens.get? id with
  | none =>
      have rejected : ∀ token, (validate hasher store id token).isSome = false := by
        intro token
        cases accepted : validate hasher store id token with
        | none => rfl
        | some device =>
            obtain ⟨-, record, found, -⟩ := validate_eq_some accepted
            cases lookup.symm.trans found
      simp [rejected]
  | some record =>
      have nodup := distinct.sublist
        ((List.filter_sublist (p := fun token => (validate hasher store id token).isSome)).map
          hasher.hashToken)
      have subset : (tokens.filter fun token =>
          (validate hasher store id token).isSome).map hasher.hashToken ⊆
            [record.tokenHash, record.prevHash] := by
        intro hash membership
        obtain ⟨token, filtered, rfl⟩ := List.mem_map.mp membership
        obtain ⟨device, accepted⟩ :=
          Option.isSome_iff_exists.mp (List.mem_filter.mp filtered).2
        obtain ⟨-, found, foundLookup, holds⟩ := validate_eq_some accepted
        cases lookup.symm.trans foundLookup
        rcases holds with current | ⟨-, previous⟩
        · simp [current]
        · simp [previous]
      simpa using (List.subperm_of_subset nodup subset).length_le

/-- Token index agreement: after any sequence of fresh operations on an empty
store the index is exactly the relation of held hashes; hence both channels
accept the same tokens for the same device, and a device has at most two valid
tokens. -/
theorem tokenIndex_agrees (lib : Library) (hasher : TokenHasher) (ops : List TokenOp)
    (fresh : TokenOp.FreshFrom lib Store.empty ops) :
    let store := ops.foldl (TokenOp.apply lib) Store.empty
    (∀ hash id, store.tokenIndex.get? hash = some id ↔
      ∃ record, store.tokens.get? id = some record ∧ record.Holds hash) ∧
    (∀ token device, validateBlobToken hasher store token = some device ↔
      ∃ id, validate hasher store id token = some device) ∧
    (∀ token id device, validate hasher store id token = some device → device.id = id) ∧
    (∀ id (tokens : List String), (tokens.map hasher.hashToken).Nodup →
      (tokens.filter fun token => (validate hasher store id token).isSome).length ≤ 2) := by
  have inv := TokenInv.empty.run ops fresh
  exact ⟨inv.agrees, inv.validateBlobToken_iff, fun _ _ _ => inv.validate_named,
    fun id _ => validate_filter_length_le hasher _ id⟩

section Witness

/-- Trivial library functions for evaluation. -/
def plainLibrary : Library where
  toLower text := text
  dayKey _ := ""
  formatRFC3339 _ := ""
  sha256Hex text := text

/-- A toy hasher for evaluation. -/
def tagHasher : TokenHasher where
  hashToken token := "h:" ++ token
  hashToken_ne token := by simp [← String.toList_inj]

/-- Two devices pair; the first rotates, has the rotation re-issued and confirms it.  A second
re-issue comes too late, and its token is committed as a rotation instead; the second device is
deleted. -/
def tokenHistory : List TokenOp :=
  [.putPairing ⟨"AAAA", 0, 100, none⟩, .putPairing ⟨"BBBB", 0, 100, none⟩,
    .claimPairing "AAAA" 1 ⟨"dev_a", "laptop", "linux", "", 1, 1, false⟩ "h:t0",
    .claimPairing "BBBB" 2 ⟨"dev_b", "phone", "android", "", 2, 2, false⟩ "h:t1",
    .rotateToken "dev_a" "h:t2" 3, .reissuePendingToken "dev_a" "h:t0" "h:t3" 4,
    .retireOldToken "dev_a", .reissuePendingToken "dev_a" "h:t0" "h:t4" 5,
    .rotateToken "dev_a" "h:t4" 5, .purgePairing 6,
    .deleteDevice "dev_b"]

theorem tokenHistory_agrees :
    let store := tokenHistory.foldl (TokenOp.apply plainLibrary) Store.empty
    (validateBlobToken tagHasher store "t3").map (·.id) = some "dev_a" ∧
    (validateBlobToken tagHasher store "t4").map (·.id) = some "dev_a" ∧
    validateBlobToken tagHasher store "t1" = none ∧
    ∀ hash id, store.tokenIndex.get? hash = some id ↔
      ∃ record, store.tokens.get? id = some record ∧ record.Holds hash :=
  ⟨by decide, by decide, by decide,
    (tokenIndex_agrees plainLibrary tagHasher tokenHistory (by decide)).1⟩

end Witness

end CopySync.Server
