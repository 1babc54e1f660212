import CopySync.Server.Store.Tokens

/-!
# Pairing codes as transactions

`ClaimPairing` reads two buckets and writes five in one `db.Update`.  Here its
body is a program over the store whose writes happen one after the other and
survive a later error; only `update`, which models the commit or rollback of
bbolt, takes them back.  A history is what any number of claimants, the admin
who issues codes and the housekeeping purge do to one store, in the order in
which their transactions commit.
-/

namespace CopySync.Server

open Foundation

/-- What makes a transaction return an error: a refusal of its own, or a bucket
that does not take a key. -/
inductive TxError where
  | pairing (reason : PairingError)
  | keyRequired
  | keyTooLarge
  deriving DecidableEq, Repr

/-- `bbolt.MaxKeySize`. -/
def maxKeySize : Nat := 32768

/-- Statements of a transaction body.  The store is threaded below the error, so
that the writes made before a failing statement are still there after it. -/
abbrev Tx := ExceptT TxError (StateM Store)

namespace Tx

/-- Whether a bucket refuses to store anything under this key. -/
def keyError (key : String) : Option TxError :=
  if key = "" then some .keyRequired
  else if maxKeySize < key.utf8ByteSize then some .keyTooLarge
  else none

/-- `Bucket.Put`: the write happens unless the key is refused. -/
def put (key : String) (write : Store → Store) : Tx Unit :=
  match keyError key with
  | some refusal => throw refusal
  | none => modify write

/-- `db.Update`: commit the body's writes, or roll all of them back when it
returns an error. -/
def update (body : Tx Unit) (store : Store) : Except TxError Unit × Store :=
  match body.run.run store with
  | (.ok (), after) => (.ok (), after)
  | (.error reason, _) => (.error reason, store)

/-- A transaction that returns an error leaves every bucket as it was. -/
theorem update_error {body : Tx Unit} {store : Store} {reason : TxError}
    (failed : (update body store).1 = .error reason) : (update body store).2 = store := by
  rw [update] at failed ⊢
  split
  next committed => simp [committed] at failed
  next => rfl

end Tx

/-! ## The three transactions -/

namespace Store

/-- The body of `PutPairing`. -/
def putPairingTx (code : PairingCode) : Tx Unit :=
  Tx.put code.code fun store => store.putPairing code

/-- The writes of `ClaimPairing`, in their order: the device, its name index, its
token record, the token's index entry and the consumption mark. -/
def claimWrites (lib : Library) (code : String) (now : Time) (device : Device)
    (token : TokenRecord) (entry : PairingCode) : Tx Unit := do
  Tx.put device.id fun store =>
    { store with devices := store.devices.put device.id device }
  Tx.put (lib.toLower device.name) fun store =>
    { store with deviceNames := store.deviceNames.put (lib.toLower device.name) device.id }
  Tx.put token.deviceID fun store =>
    { store with tokens := store.tokens.put token.deviceID token }
  Tx.put token.tokenHash fun store =>
    { store with tokenIndex := store.tokenIndex.put token.tokenHash token.deviceID }
  Tx.put code fun store =>
    { store with pairing := store.pairing.put code { entry with consumedAt := some now } }

/-- The body of `ClaimPairing`: both refusals come before the first write. -/
def claimPairingTx (lib : Library) (code : String) (now : Time) (device : Device)
    (token : TokenRecord) : Tx Unit := do
  let store ← get
  match store.pairing.get? code with
  | none => throw (.pairing .invalid)
  | some entry =>
      if entry.consumed || entry.expired now then throw (.pairing .invalid)
      else if (store.deviceNames.get? (lib.toLower device.name)).any (· ≠ device.id) then
        throw (.pairing .nameTaken)
      else claimWrites lib code now device token entry

/-- The body of `PurgePairing`: deleting a key of a bucket never fails. -/
def purgePairingTx (now : Time) : Tx Unit := modify fun store => store.purgePairing now

end Store

/-- One transaction on the pairing bucket, with its arguments. -/
inductive PairingOp where
  | putPairing (code : PairingCode)
  | claimPairing (code : String) (now : Time) (device : Device) (token : TokenRecord)
  | purgePairing (now : Time)

namespace PairingOp

def body (lib : Library) : PairingOp → Tx Unit
  | .putPairing code => Store.putPairingTx code
  | .claimPairing code now device token => Store.claimPairingTx lib code now device token
  | .purgePairing now => Store.purgePairingTx now

/-- The code string an operation puts. -/
def putCode? : PairingOp → Option String
  | .putPairing code => some code.code
  | _ => none

end PairingOp

/-- One committed or rolled back transaction of a history. -/
structure PairingEntry where
  before : Store
  op : PairingOp
  result : Except TxError Unit
  after : Store

namespace PairingEntry

/-- The entry is a successful claim of a code. -/
def redeems (code : String) (entry : PairingEntry) : Bool :=
  match entry.op, entry.result with
  | .claimPairing claimed _ _ _, .ok () => claimed = code
  | _, _ => false

end PairingEntry

/-- Run transactions one after the other and keep what each of them did. -/
def pairingHistory (lib : Library) : Store → List PairingOp → List PairingEntry
  | _, [] => []
  | store, op :: rest =>
      let (result, after) := (op.body lib).update store
      ⟨store, op, result, after⟩ :: pairingHistory lib after rest

/-! ## What one transaction does -/

namespace Tx

variable {key : String} {write : Store → Store} {store after : Store}

/-- A sequence that succeeds ran its first put, and then the rest on the written
store. -/
theorem put_bind_ok {rest : Tx Unit}
    (committed : ((put key write >>= fun _ => rest).run.run store) = (.ok (), after)) :
    rest.run.run (write store) = (.ok (), after) := by
  rw [put] at committed
  split at committed
  next => cases committed
  next => exact committed

theorem put_ok (committed : (put key write).run.run store = (.ok (), after)) :
    after = write store := by
  rw [put] at committed
  split at committed
  next => cases committed
  next =>
    cases committed
    rfl

/-- A transaction that returns no error committed the store its body reached. -/
theorem update_ok {body : Tx Unit} (committed : (update body store).1 = .ok ()) :
    body.run.run store = (.ok (), (update body store).2) := by
  rw [update] at committed ⊢
  split
  next ran => exact ran
  next ran => simp [ran] at committed

end Tx

namespace Store

variable {lib : Library} {store after : Store} {code : String} {now : Time}
variable {device : Device} {token : TokenRecord}

theorem claimWrites_ok {entry : PairingCode}
    (committed : (claimWrites lib code now device token entry).run.run store = (.ok (), after)) :
    after = { store with
      devices := store.devices.put device.id device
      deviceNames := store.deviceNames.put (lib.toLower device.name) device.id
      tokens := store.tokens.put token.deviceID token
      tokenIndex := store.tokenIndex.put token.tokenHash token.deviceID
      pairing := store.pairing.put code { entry with consumedAt := some now } } := by
  have named := Tx.put_bind_ok committed
  have recorded := Tx.put_bind_ok named
  have indexed := Tx.put_bind_ok recorded
  have marked := Tx.put_bind_ok indexed
  exact Tx.put_ok marked

/-- The statements of a claim that reaches its end do what the claim in one step
does. -/
theorem claimPairingTx_ok
    (committed : (claimPairingTx lib code now device token).run.run store = (.ok (), after)) :
    store.claimPairing lib code now device token = .ok after := by
  change (match store.pairing.get? code with
    | none => throw (TxError.pairing .invalid)
    | some entry => _ : Tx Unit).run.run store = _ at committed
  rw [claimPairing]
  cases lookup : store.pairing.get? code with
  | none =>
      rw [lookup] at committed
      cases committed
  | some entry =>
      simp only [lookup] at committed ⊢
      split_ifs at committed ⊢ with refused taken
      · cases committed
      · cases committed
      · rw [claimWrites_ok committed]

end Store

/-- What a transaction may do to the bucket entry of one code. -/
inductive CodeStep (store : Store) (op : PairingOp) (code : String) (after : Store) : Prop where
  | keep (same : after.pairing.get? code = store.pairing.get? code)
  | drop (gone : after.pairing.get? code = none)
  | put (issued : PairingCode) (isPut : op = .putPairing issued) (named : issued.code = code)
      (stored : after.pairing.get? code = some issued)
  | consume (entry : PairingCode) (now : Time) (found : store.pairing.get? code = some entry)
      (stored : after.pairing.get? code = some { entry with consumedAt := some now })

namespace PairingOp

variable {lib : Library} {store : Store} {op : PairingOp} {code : String}

theorem codeStep (lib : Library) (store : Store) (op : PairingOp) (code : String) :
    CodeStep store op code ((op.body lib).update store).2 := by
  cases outcome : ((op.body lib).update store).1 with
  | error reason =>
      rw [Tx.update_error outcome]
      exact .keep rfl
  | ok done =>
      have ran := Tx.update_ok outcome
      generalize ((op.body lib).update store).2 = after at ran
      cases op with
      | putPairing issued =>
          rw [Tx.put_ok ran]
          by_cases same : code = issued.code
          · exact .put issued rfl same.symm (by simp [Store.putPairing, same])
          · exact .keep (by simp [Store.putPairing, same])
      | claimPairing claimed now device token =>
          obtain ⟨entry, found, -, -, -, rfl⟩ :=
            Store.claimPairing_ok (Store.claimPairingTx_ok ran)
          by_cases same : code = claimed
          · subst same
            exact .consume entry now found (by simp)
          · exact .keep (by simp [same])
      | purgePairing now =>
          cases ran
          cases lookup : (store.purgePairing now).pairing.get? code with
          | none => exact .drop lookup
          | some entry =>
              refine .keep (lookup.trans ?_)
              rw [Store.purgePairing, OrderedMap.get?_filter] at lookup
              exact (Option.filter_eq_some_iff.mp lookup).1.symm

end PairingOp

/-- What a successful claim wrote, all of it in one commit. -/
structure Redeemed (lib : Library) (store : Store) (code : String) (now : Time)
    (device : Device) (token : TokenRecord) (after : Store) (entry : PairingCode) : Prop where
  found : store.pairing.get? code = some entry
  unused : entry.consumed = false
  inTime : now ≤ entry.expiresAt
  wrote : after = { store with
    devices := store.devices.put device.id device
    deviceNames := store.deviceNames.put (lib.toLower device.name) device.id
    tokens := store.tokens.put token.deviceID token
    tokenIndex := store.tokenIndex.put token.tokenHash token.deviceID
    pairing := store.pairing.put code { entry with consumedAt := some now } }

theorem redeemed_of_ok {lib : Library} {store : Store} {code : String} {now : Time}
    {device : Device} {token : TokenRecord}
    (claimed : (Tx.update (Store.claimPairingTx lib code now device token) store).1 = .ok ()) :
    ∃ entry, Redeemed lib store code now device token
      (Tx.update (Store.claimPairingTx lib code now device token) store).2 entry := by
  obtain ⟨entry, found, unused, alive, -, wrote⟩ :=
    Store.claimPairing_ok (Store.claimPairingTx_ok (Tx.update_ok claimed))
  exact ⟨entry, found, unused, by simpa [PairingCode.expired] using alive, wrote⟩

/-! ## Histories -/

/-- No live entry of this code is left. -/
def Spent (code : String) (store : Store) : Prop :=
  ∀ entry, store.pairing.get? code = some entry → entry.consumed = true

section History

variable (lib : Library) {store : Store} {op : PairingOp} {ops : List PairingOp}
variable {code : String}

/-- The entry a history records for its first transaction. -/
abbrev firstEntry (lib : Library) (store : Store) (op : PairingOp) : PairingEntry :=
  ⟨store, op, ((op.body lib).update store).1, ((op.body lib).update store).2⟩

theorem pairingHistory_cons : pairingHistory lib store (op :: ops) =
    firstEntry lib store op :: pairingHistory lib ((op.body lib).update store).2 ops := rfl

/-- The first entry redeems a code only as the claim of a live entry of it. -/
theorem redeems_first (redeemed : (firstEntry lib store op).redeems code = true) :
    ¬Spent code store ∧ Spent code ((op.body lib).update store).2 := by
  cases op with
  | claimPairing claimed now device token =>
      cases outcome : (Tx.update (Store.claimPairingTx lib claimed now device token) store).1 with
      | error reason => simp [PairingEntry.redeems, PairingOp.body, outcome] at redeemed
      | ok done =>
          have same : claimed = code := by
            simpa [PairingEntry.redeems, PairingOp.body, outcome] using redeemed
          subst same
          obtain ⟨entry, found, unused, -, wrote⟩ := redeemed_of_ok outcome
          constructor
          · intro spent
            simpa [unused] using spent entry found
          · intro after lookup
            rw [PairingOp.body, wrote] at lookup
            cases (OrderedMap.get?_put_self ..).symm.trans lookup
            rfl
  | putPairing issued => simp [PairingEntry.redeems] at redeemed
  | purgePairing now => simp [PairingEntry.redeems] at redeemed

/-- A code that is used up stays so unless it is put again. -/
theorem spent_step (spent : Spent code store) (unput : op.putCode? ≠ some code) :
    Spent code ((op.body lib).update store).2 := by
  intro entry lookup
  cases op.codeStep lib store code with
  | keep same => exact spent entry (same ▸ lookup)
  | drop gone => simp [gone] at lookup
  | put issued isPut named stored => simp [isPut, PairingOp.putCode?, named] at unput
  | consume old now found stored =>
      cases stored.symm.trans lookup
      rfl

theorem unput_cons (unput : code ∉ (op :: ops).filterMap PairingOp.putCode?) :
    op.putCode? ≠ some code ∧ code ∉ ops.filterMap PairingOp.putCode? := by
  rw [List.mem_filterMap] at unput ⊢
  simp_all [eq_comm]

/-- A code that is used up is never redeemed again. -/
theorem not_redeemed_of_spent (spent : Spent code store)
    (unput : code ∉ ops.filterMap PairingOp.putCode?) :
    (pairingHistory lib store ops).countP (·.redeems code) = 0 := by
  induction ops generalizing store with
  | nil => rfl
  | cons op rest ih =>
      obtain ⟨notHere, notLater⟩ := unput_cons unput
      have refused : ¬(firstEntry lib store op).redeems code = true :=
        fun redeemed => (redeems_first lib redeemed).1 spent
      rw [pairingHistory_cons, List.countP_cons_of_neg refused]
      exact ih (spent_step lib spent notHere) notLater

/-- Without another put, the first success is the only one. -/
theorem redeemed_once (unput : code ∉ ops.filterMap PairingOp.putCode?) :
    (pairingHistory lib store ops).countP (·.redeems code) ≤ 1 := by
  induction ops generalizing store with
  | nil => simp [pairingHistory]
  | cons op rest ih =>
      have notLater := (unput_cons unput).2
      rw [pairingHistory_cons, List.countP_cons]
      split
      next redeemed =>
        have spent := not_redeemed_of_spent lib (redeems_first lib redeemed).2 notLater
        omega
      next => simpa using ih notLater

/-- A code that is put at most once, into a bucket without it, is redeemed at
most once. -/
theorem redeemed_once_of_nodup (absent : code ∈ ops.filterMap PairingOp.putCode? →
      store.pairing.get? code = none)
    (once : (ops.filterMap PairingOp.putCode?).Nodup) :
    (pairingHistory lib store ops).countP (·.redeems code) ≤ 1 := by
  by_cases put : code ∈ ops.filterMap PairingOp.putCode?
  case neg => exact redeemed_once lib put
  have absent := absent put
  induction ops generalizing store with
  | nil => simp at put
  | cons op rest ih =>
      have refused : ¬(firstEntry lib store op).redeems code = true :=
        fun redeemed => (redeems_first lib redeemed).1 (by simp [Spent, absent])
      rw [pairingHistory_cons, List.countP_cons_of_neg refused]
      by_cases now : op.putCode? = some code
      · rw [List.filterMap_cons, now, List.nodup_cons] at once
        exact redeemed_once lib once.1
      · have still : ((op.body lib).update store).2.pairing.get? code = none := by
          cases op.codeStep lib store code with
          | keep same => exact same.trans absent
          | drop gone => exact gone
          | put issued isPut named stored => simp [isPut, PairingOp.putCode?, named] at now
          | consume entry time found stored => simp [absent] at found
        have later : code ∈ rest.filterMap PairingOp.putCode? := by
          obtain ⟨putter, among, puts⟩ := List.mem_filterMap.mp put
          rcases List.mem_cons.mp among with rfl | among
          · exact absurd puts now
          · exact List.mem_filterMap.mpr ⟨putter, among, puts⟩
        have onceLater := once.sublist ((List.sublist_cons_self op rest).filterMap _)
        exact ih (fun _ => still) onceLater later still

/-- Where the entries of the pairing bucket come from: the store the history
started with, or a put of it, with the expiry they had there. -/
def Sourced (start : Store) (ops : List PairingOp) (store : Store) : Prop :=
  ∀ code entry, store.pairing.get? code = some entry → ∃ issued,
    issued.expiresAt = entry.expiresAt ∧
      (start.pairing.get? code = some issued ∨
        issued.code = code ∧ PairingOp.putPairing issued ∈ ops)

theorem sourced_step {start : Store} (sourced : Sourced start ops store)
    (member : op ∈ ops) : Sourced start ops ((op.body lib).update store).2 := by
  intro code entry lookup
  cases op.codeStep lib store code with
  | keep same => exact sourced code entry (same ▸ lookup)
  | drop gone => simp [gone] at lookup
  | put issued isPut named stored =>
      cases stored.symm.trans lookup
      exact ⟨entry, rfl, .inr ⟨named, isPut ▸ member⟩⟩
  | consume old now found stored =>
      cases stored.symm.trans lookup
      exact sourced code old found

/-- Every entry of a history is one transaction, on a store whose codes have a
known origin. -/
theorem mem_pairingHistory {start : Store} {all : List PairingOp} {entry : PairingEntry}
    (sourced : Sourced start all store) (within : ops ⊆ all)
    (member : entry ∈ pairingHistory lib store ops) :
    entry = firstEntry lib entry.before entry.op ∧ Sourced start all entry.before := by
  induction ops generalizing store with
  | nil => cases member
  | cons op rest ih =>
      rw [pairingHistory_cons] at member
      obtain ⟨here, later⟩ := List.cons_subset.mp within
      rcases List.mem_cons.mp member with rfl | member
      · exact ⟨rfl, sourced⟩
      · exact ih (sourced_step lib sourced here) later member

end History

/-- Pairing codes are single use and claims are atomic.  However the transactions
of any number of claimants, of the admin and of the purge follow each other, a
code that is put once is redeemed at most once and not after its expiry; a
successful claim writes the device, its name, its token record, the token's index
entry and the consumption mark in one commit, and a failing one nothing. -/
theorem pairing_codes_single_use (lib : Library) (start : Store) (ops : List PairingOp)
    (once : (ops.filterMap PairingOp.putCode?).Nodup)
    (unput : ∀ code ∈ ops.filterMap PairingOp.putCode?, start.pairing.get? code = none) :
    (∀ code, (pairingHistory lib start ops).countP (·.redeems code) ≤ 1) ∧
    ∀ entry ∈ pairingHistory lib start ops, ∀ code now device token,
      entry.op = .claimPairing code now device token →
      (entry.result = .ok () →
        (∃ live, Redeemed lib entry.before code now device token entry.after live) ∧
        ∃ issued : PairingCode, now ≤ issued.expiresAt ∧
          (start.pairing.get? code = some issued ∨
            issued.code = code ∧ PairingOp.putPairing issued ∈ ops)) ∧
      (∀ reason, entry.result = .error reason → entry.after = entry.before) := by
  constructor
  · intro code
    exact redeemed_once_of_nodup lib (unput code) once
  · intro entry member code now device token isClaim
    have initial : Sourced start ops start :=
      fun code entry lookup => ⟨entry, rfl, .inl lookup⟩
    obtain ⟨isFirst, sourced⟩ := mem_pairingHistory lib initial (List.Subset.refl ops) member
    rw [isFirst, isClaim]
    constructor
    · intro succeeded
      obtain ⟨live, redeemed⟩ := redeemed_of_ok succeeded
      obtain ⟨issued, sameExpiry, origin⟩ := sourced code live redeemed.found
      exact ⟨⟨live, redeemed⟩, issued, sameExpiry ▸ redeemed.inTime, origin⟩
    · intro reason failed
      exact Tx.update_error failed

section Witness

private def phone : Device := ⟨"d1", "phone", "android", "", 0, 0, false⟩

private def phoneToken : TokenRecord := ⟨"d1", "h1", "", 5, false⟩

/-- An admin issues a code, a phone claims it, and two late claimants fail. -/
private def sampleOps : List PairingOp :=
  [.putPairing ⟨"123456", 0, 10, none⟩,
    .claimPairing "123456" 5 phone phoneToken,
    .claimPairing "123456" 6 { phone with id := "d2", name := "laptop" } phoneToken,
    .purgePairing 7,
    .claimPairing "123456" 8 phone phoneToken]

/-- The code is redeemed exactly once in that history. -/
theorem pairing_codes_single_use_sample :
    (pairingHistory plainLibrary .empty sampleOps).countP (·.redeems "123456") = 1 ∧
      ∀ code, (pairingHistory plainLibrary .empty sampleOps).countP (·.redeems code) ≤ 1 :=
  ⟨by decide, (pairing_codes_single_use plainLibrary .empty sampleOps (by decide)
    fun _ _ => rfl).1⟩

end Witness

end CopySync.Server
