import CopySync.Server.Relay.Access

/-!
# Soundness and completeness of blob authorization

A fetch passes by one of four permissions: the access list in memory, the pool of an
on-demand holder, the origin on the record and the recipients on the record.  Each
comes from a clip that was routed, so nobody else can fetch.

The converse needs a condition.  A claim on a blob that a connected device already
holds is refused although its clip is delivered, and an accepted claim replaces the
recipients of the one before.  Recipients of the last accepted claim can fetch until
the record is collected.
-/

namespace CopySync.Server.Relay

open Foundation

/-! ## Devices have ids -/

/-- Stored devices, and the one a pool change is about to store, have an id. -/
structure Identified (relay : Relay) : Prop where
  stored : ∀ key device, relay.daemon.store.devices.get? key = some device → device.id ≠ ""
  task : ∀ device pool, relay.task = .repooling device pool → device.id ≠ ""

section Steps

variable {env : Env} {relay after : Relay} {action : Action}

theorem Identified.boot : (Relay.boot .empty).Identified where
  stored := by simp [Relay.boot, Daemon.boot, Store.empty]
  task := by simp [Relay.boot]

theorem Identified.step (inv : relay.Identified)
    (stepped : relay.step env action = some after) : after.Identified := by
  have effect := effect_of_step stepped
  constructor
  · intro key device found
    rcases effect.devices key device found with
      ⟨old, present, same⟩ | ⟨read, pool, task, same⟩ | ⟨suffix, minted⟩
    · exact same ▸ inv.stored key old present
    · exact same ▸ inv.task read pool task
    · rw [minted]
      intro empty
      have length := congrArg String.length empty
      simp [String.length_append] at length
  · intro device pool repooling
    have change := effect.task
    rw [repooling] at change
    generalize result : Task.repooling device pool = task at change
    cases change with
    | keep => exact inv.task device pool result.symm
    | finish | register | ingest | prepare | deliver => cases result
    | repool _ stored =>
        cases result
        exact inv.stored _ _ stored

theorem Identified.life (inv : relay.Identified) {action : Option Action}
    (stepped : relay.life env action = some after) : after.Identified := by
  cases action with
  | none =>
      cases stepped
      exact ⟨inv.stored, by simp [Relay.restart, Relay.boot]⟩
  | some action => exact inv.step stepped

end Steps

/-! ## Soundness -/

/-- The device was the origin or a resolved target of a clip with this blob. -/
def Recipient (relay : Relay) (blob : BlobID) (dev : DeviceID) : Prop :=
  ∃ event targets claimed, .routed event targets claimed ∈ relay.log ∧ event.blobID = blob ∧
    (dev = event.originDevice ∨ dev ∈ targets.map (·.id))

/-- The device is now in the pool of a device that routed an on-demand clip with this
blob. -/
def PoolPeer (relay : Relay) (blob : BlobID) (dev : DeviceID) : Prop :=
  ∃ event targets claimed, .routed event targets claimed ∈ relay.log ∧ event.blobID = blob ∧
    event.onDemand = true ∧
    poolOf relay.daemon.store event.originDevice = poolOf relay.daemon.store dev

section Sound

variable {relay : Relay} {blob : BlobID} {dev : DeviceID}

theorem Traced.hub_sound (traced : relay.Traced)
    (passes : relay.daemon.handleBlobAuth blob dev .fetch = true) :
    relay.Recipient blob dev ∨ relay.PoolPeer blob dev := by
  simp only [Daemon.handleBlobAuth] at passes
  split at passes
  next acl found =>
    obtain ⟨event, targets, recorded, same, rfl⟩ := traced.access blob acl found
    exact .inl ⟨event, targets, true, recorded, same,
      mem_allowedList.mp (of_decide_eq_true passes)⟩
  next =>
    split at passes
    next => cases passes
    next origin held =>
      obtain ⟨event, targets, recorded, same, onDemand, rfl⟩ := traced.holders blob origin held
      exact .inr ⟨event, targets, true, recorded, same, onDemand, of_decide_eq_true passes⟩

/-- A record names nobody but the origin and the recipients of an accepted claim, and
the empty id when there was none. -/
theorem Traced.record_sound (traced : relay.Traced) (named : dev ≠ "")
    (passes : relay.daemon.persistedAuth blob dev = true) : relay.Recipient blob dev := by
  have records := traced.records blob
  simp only [Daemon.persistedAuth, Store.getBlobEntry] at passes
  split at passes
  next entry found =>
    have listed : dev = entry.origin ∨ dev ∈ entry.allowed := of_decide_eq_true passes
    simp only [Store.accessOf, found, Option.map_some, Option.getD_some] at records
    cases grant : granted blob relay.log with
    | none =>
        rw [grant] at records
        obtain ⟨noOrigin, nobody⟩ := Prod.mk.inj records
        rcases listed with same | among
        · exact absurd (same.trans noOrigin) named
        · simp [nobody] at among
    | some access =>
        obtain ⟨event, targets, recorded, same, origin, allowed⟩ := routed_of_granted grant
        rw [grant, Option.getD_some] at records
        have sameOrigin : entry.origin = event.originDevice := origin ▸ congrArg Prod.fst records
        have sameAllowed : entry.allowed = allowedList event targets :=
          allowed ▸ congrArg Prod.snd records
        refine ⟨event, targets, true, recorded, same, ?_⟩
        rcases listed with isOrigin | among
        · exact .inl (isOrigin.trans sameOrigin)
        · exact mem_allowedList.mp (sameAllowed ▸ among)
  next => cases passes

end Sound

/-- A device that authenticated on the blob channel and whose fetch is then authorized
was a recipient of a clip with this blob, or is a pool peer of its holder. -/
theorem fetch_sound {env : Env} {earlier relay : Relay}
    (reached : Reachable (Relay.life env) (Relay.boot .empty) earlier)
    (continued : Reachable (Relay.life env) earlier relay) {token : String} {device : Device}
    (authenticated : validateBlobToken env.hasher earlier.daemon.store token = some device)
    {blob : BlobID} (authorized : relay.daemon.authorizedFetch blob device.id = true) :
    relay.Recipient blob device.id ∨ relay.PoolPeer blob device.id := by
  have traced : relay.Traced := (reached.trans continued).invariant Traced.boot
    fun traced _ stepped => traced.life stepped
  have identified : earlier.Identified := reached.invariant Identified.boot
    fun identified _ stepped => identified.life stepped
  have named : device.id ≠ "" := by
    rw [validateBlobToken] at authenticated
    split at authenticated
    next => cases authenticated
    next id _ => exact identified.stored id device (validate_eq_some authenticated).1
  rcases Bool.or_eq_true_iff.mp authorized with inMemory | onRecord
  · exact traced.hub_sound inMemory
  · exact .inl (traced.record_sound named onRecord)

/-- The first device shares a blob with the second, and the process restarts: the
second fetches by the record. -/
theorem fetch_after_restart :
    ∃ relay device, Reachable (Relay.life demoEnv) (Relay.boot .empty) relay ∧
      validateBlobToken demoEnv.hasher relay.daemon.store "b" = some device ∧
      relay.daemon.authorizedFetch "sha256:00" device.id = true ∧
      (relay.Recipient "sha256:00" device.id ∨ relay.PoolPeer "sha256:00" device.id) := by
  obtain ⟨relay, reached, checked⟩ := Reachable.exists_of_exec
    (Relay.life demoEnv) (Relay.boot .empty)
    ((Action.pair "a" "laptop" ++ Action.pair "b" "phone" ++ Action.bringUp "a" 0 ++
      Action.sendClip 0 (.sharing "c1" "sha256:00" ["dev_b"]) 1).map some ++ [none])
    (fun relay => (validateBlobToken demoEnv.hasher relay.daemon.store "b").any fun device =>
      relay.daemon.authorizedFetch "sha256:00" device.id)
    (by decide +kernel)
  obtain ⟨device, authenticated, authorized⟩ := (Option.any_eq_true _ _).mp checked
  exact ⟨relay, device, reached, authenticated, authorized,
    fetch_sound reached .refl authenticated authorized⟩

/-! ## Completeness -/

/-- A route in progress still serves resolved targets of its clip, and whatever was
accepted for a device was a clip routed to it. -/
structure Delivering (relay : Relay) : Prop where
  keyed : relay.Keyed
  task : ∀ source event settings rest progress,
    relay.task = .routing source event settings rest progress →
    ∃ targets claimed, .routed event targets claimed ∈ relay.log ∧
      ∀ target ∈ rest, target ∈ targets
  accepted : ∀ id clip, .clip .accepted id clip ∈ relay.log →
    ∃ event targets claimed, .routed event targets claimed ∈ relay.log ∧ event.wire = clip ∧
      id ∈ targets.map (·.id)

section Steps

variable {env : Env} {relay after : Relay} {action : Action}

theorem Delivering.boot : (Relay.boot .empty).Delivering where
  keyed := Keyed.boot .empty
  task := by simp [Relay.boot]
  accepted := by simp [Relay.boot]

theorem Delivering.restart (inv : relay.Delivering) : relay.restart.Delivering where
  keyed := Keyed.boot _
  task := by simp [Relay.restart, Relay.boot]
  accepted := inv.accepted

theorem Delivering.task_step (inv : relay.Delivering) (effect : Effect relay action after) :
    ∀ source event settings rest progress,
      after.task = .routing source event settings rest progress →
      ∃ targets claimed, .routed event targets claimed ∈ after.log ∧
        ∀ target ∈ rest, target ∈ targets := by
  intro source event settings rest progress routing
  have old : ∀ {source event settings rest progress},
      relay.task = .routing source event settings rest progress →
      ∃ targets claimed, .routed event targets claimed ∈ after.log ∧
        ∀ target ∈ rest, target ∈ targets := by
    intro source event settings rest progress task
    obtain ⟨targets, claimed, recorded, among⟩ := inv.task _ _ _ _ _ task
    exact ⟨targets, claimed, effect.fact_kept recorded, among⟩
  have change := effect.task
  rw [routing] at change
  generalize result : Task.routing source event settings rest progress = task at change
  cases change with
  | keep => exact old result.symm
  | finish | register | ingest | repool => cases result
  | prepare _ recorded =>
      cases result
      exact ⟨rest, _, recorded, fun _ among => among⟩
  | deliver task =>
      cases result
      obtain ⟨targets, claimed, recorded, among⟩ := old task
      exact ⟨targets, claimed, recorded, fun target later =>
        among target (List.mem_cons_of_mem _ later)⟩

theorem Delivering.step (inv : relay.Delivering) (stepped : relay.step env action = some after) :
    after.Delivering := by
  have effect := effect_of_step stepped
  constructor
  · exact inv.keyed.step stepped
  · exact inv.task_step effect
  · intro id clip recorded
    have accepted : clip ∈ (after.mailbox id).accepted := mem_history.mpr recorded
    rw [(mailbox_step inv.keyed stepped).accepted_eq, List.mem_append] at accepted
    rcases accepted with old | new
    · obtain ⟨event, targets, claimed, routed, rest⟩ := inv.accepted id clip (mem_history.mp old)
      exact ⟨event, targets, claimed, effect.fact_kept routed, rest⟩
    · obtain ⟨source, event, settings, target, rest, progress, task, rfl, rfl⟩ :=
        routing_of_accepts new
      obtain ⟨targets, claimed, routed, among⟩ := inv.task _ _ _ _ _ task
      exact ⟨event, targets, claimed, effect.fact_kept routed, rfl,
        List.mem_map_of_mem (among target List.mem_cons_self)⟩

theorem Delivering.life (inv : relay.Delivering) {action : Option Action}
    (stepped : relay.life env action = some after) : after.Delivering := by
  cases action with
  | none =>
      cases stepped
      exact inv.restart
  | some action => exact inv.step stepped

end Steps

/-- Whoever the log grants access can fetch. -/
theorem Traced.admits {relay : Relay} (traced : relay.Traced) {blob : BlobID} {dev : DeviceID}
    (listed : ∃ origin allowed, granted blob relay.log = some (origin, allowed) ∧
      dev ∈ allowed) :
    relay.daemon.authorizedFetch blob dev = true := by
  obtain ⟨origin, allowed, grant, among⟩ := listed
  have records := traced.records blob
  rw [grant, Option.getD_some, Store.accessOf] at records
  cases found : relay.daemon.store.blobs.get? blob with
  | none =>
      rw [found] at records
      have nobody : [] = allowed := congrArg Prod.snd records
      rw [← nobody] at among
      cases among
  | some entry =>
      rw [found] at records
      have sameAllowed : entry.allowed = allowed := congrArg Prod.snd records
      have onRecord : relay.daemon.persistedAuth blob dev = true := by
        simp [Daemon.persistedAuth, Store.getBlobEntry, found, sameAllowed, among]
      simp [Daemon.authorizedFetch, onRecord]

/-- Every clip with a blob that was accepted for a device had been routed to it; and a
device to which a clip was routed can fetch its blob if the claim of the clip was
accepted, no later accepted claim leaves the device out, and the record was not
collected since. -/
theorem recipient_admitted {env : Env} {relay : Relay}
    (reached : Reachable (Relay.life env) (Relay.boot .empty) relay) :
    (∀ dev clip, .clip .accepted dev clip ∈ relay.log →
      ∃ event targets claimed, .routed event targets claimed ∈ relay.log ∧ event.wire = clip ∧
        dev ∈ targets.map (·.id)) ∧
    ∀ before event targets later dev,
      relay.log = before ++ .routed event targets true :: later →
      dev ∈ targets.map (·.id) →
      (∀ claim recipients, .routed claim recipients true ∈ later →
        claim.blobID = event.blobID →
        dev = claim.originDevice ∨ dev ∈ recipients.map (·.id)) →
      .collected event.blobID ∉ later →
      relay.daemon.authorizedFetch event.blobID dev = true := by
  have traced : relay.Traced := reached.invariant Traced.boot
    fun traced _ stepped => traced.life stepped
  have delivering : relay.Delivering := reached.invariant Delivering.boot
    fun delivering _ stepped => delivering.life stepped
  constructor
  · exact delivering.accepted
  · intro before event targets later dev log target claims kept
    apply traced.admits
    rw [log, granted, List.foldl_append, List.foldl_cons]
    refine foldl_grant_keeps ⟨event.originDevice, allowedList event targets, ?_, ?_⟩ ?_ kept
    · simp [Fact.grant]
    · exact mem_allowedList.mpr (.inr target)
    · intro claim recipients recorded same
      exact mem_allowedList.mpr (claims claim recipients recorded same)

/-- A device can fetch the blob of every clip accepted for it, unless the record was
collected. -/
def Complete (relay : Relay) (dev : DeviceID) : Prop :=
  ∀ clip, .clip .accepted dev clip ∈ relay.log → clip.blobID ≠ "" →
    .collected clip.blobID ∉ relay.log →
    relay.daemon.authorizedFetch clip.blobID dev = true

/-- Whether a device was sent a clip with a blob it cannot fetch. -/
def denied (relay : Relay) (dev : DeviceID) : Bool :=
  (history .accepted dev relay.log).any fun clip =>
    decide (clip.blobID ≠ "" ∧ .collected clip.blobID ∉ relay.log) &&
      !relay.daemon.authorizedFetch clip.blobID dev

theorem not_complete_of_denied {relay : Relay} {dev : DeviceID}
    (checked : relay.denied dev = true) : ¬relay.Complete dev := by
  intro complete
  obtain ⟨clip, accepted, refused⟩ := List.any_eq_true.mp checked
  simp only [Bool.and_eq_true, decide_eq_true_eq, Bool.not_eq_true'] at refused
  have admitted := complete clip (mem_history.mp accepted) refused.1.1 refused.1.2
  rw [refused.2] at admitted
  cases admitted

/-- Four devices, the first two connected. -/
def fourDevices : List Action :=
  Action.pair "a" "laptop" ++ Action.pair "b" "phone" ++ Action.pair "c" "tablet" ++
    Action.pair "d" "desktop" ++ Action.bringUp "a" 0 ++ Action.bringUp "b" 1

/-- The first device shares a blob with the second and then, replacing the claim, with
the third; the second forwards it to the fourth, and its claim is refused.  Neither
the second nor the fourth can fetch what they were sent. -/
theorem recipient_denied :
    ∃ relay, Reachable (Relay.life demoEnv) (Relay.boot .empty) relay ∧
      ¬relay.Complete "dev_b" ∧ ¬relay.Complete "dev_d" := by
  obtain ⟨relay, reached, checked⟩ := Reachable.exists_of_exec
    (Relay.life demoEnv) (Relay.boot .empty)
    ((fourDevices ++ Action.sendClip 0 (.sharing "c1" "sha256:00" ["dev_b"]) 1 ++
      Action.sendClip 0 (.sharing "c2" "sha256:00" ["dev_c"]) 1 ++
      Action.sendClip 1 (.sharing "c3" "sha256:00" ["dev_d"]) 1).map some)
    (fun relay => relay.denied "dev_b" && relay.denied "dev_d")
    (by decide +kernel)
  obtain ⟨second, fourth⟩ := Bool.and_eq_true_iff.mp checked
  exact ⟨relay, reached, not_complete_of_denied second, not_complete_of_denied fourth⟩

/-- The clip with which the first device shares a blob, as the hub routes it. -/
def sharedClip : ClipEvent :=
  { ClipEvent.sharing "c1" "sha256:00" ["dev_b"] with originDevice := "dev_a" }

/-- A blob is shared once, for an absent device, and its origin disconnects: the
access list in memory is gone, the record admits the recipient. -/
theorem recipient_admitted_offline :
    ∃ relay, Reachable (Relay.life demoEnv) (Relay.boot .empty) relay ∧
      relay.daemon.handleBlobAuth sharedClip.blobID "dev_b" .fetch = false ∧
      relay.daemon.authorizedFetch sharedClip.blobID "dev_b" = true := by
  obtain ⟨relay, reached, checked⟩ := Reachable.exists_of_exec
    (Relay.life demoEnv) (Relay.boot .empty)
    ((Action.pair "a" "laptop" ++ Action.pair "b" "phone" ++ Action.bringUp "a" 0 ++
      Action.sendClip 0 (.sharing "c1" "sha256:00" ["dev_b"]) 1 ++
      [Action.unregister 0 3]).map some)
    (fun relay => !relay.daemon.handleBlobAuth sharedClip.blobID "dev_b" .fetch &&
      decide (relay.log = [.routed sharedClip [.paired "b" "phone" "linux" 1] true,
        .clip .accepted "dev_b" sharedClip.wire, .clip .stored "dev_b" sharedClip.wire]))
    (by decide +kernel)
  obtain ⟨pruned, log⟩ := Bool.and_eq_true_iff.mp checked
  refine ⟨relay, reached, by simpa using pruned, ?_⟩
  exact (recipient_admitted reached).2 [] sharedClip _ _ "dev_b" (of_decide_eq_true log)
    (by decide) (by simp) (by simp)

end CopySync.Server.Relay
