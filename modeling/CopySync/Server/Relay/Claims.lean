import CopySync.Server.Relay.Access

/-!
# Whose blob claims the hub keeps

The registry, the on-demand holders and the access lists move together: a device
that leaves the registry takes its holdings and access lists with it, and a claim is
refused while another registered device holds the blob.  A claim by a device that has
already left is the one way an entry gets an origin that is not registered; nothing
prunes it until that device registers and leaves again.
-/

namespace CopySync.Server

open Foundation

/-- The three maps of the hub that claims depend on. -/
structure Books where
  clients : OrderedMap DeviceID ConnID
  onDemand : OrderedMap BlobID DeviceID
  blobACL : OrderedMap BlobID BlobACL

namespace Books

/-- A device enters the registry, or moves to a newer connection. -/
def register (books : Books) (id : DeviceID) (conn : ConnID) : Books :=
  { books with clients := books.clients.put id conn }

/-- A device leaves the registry and its holdings are pruned. -/
def depart (books : Books) (id : DeviceID) : Books where
  clients := books.clients.erase id
  onDemand := books.onDemand.filter fun _ holder => decide (holder ≠ id)
  blobACL := books.blobACL.filter fun blob acl =>
    decide (books.onDemand.get? blob ≠ some id ∧ acl.origin ≠ id)

/-- A clip's claim on its blob is accepted. -/
def claim (books : Books) (event : ClipEvent) (allowed : List DeviceID) : Books :=
  { books with
    blobACL := books.blobACL.put event.blobID ⟨event.originDevice, allowed⟩
    onDemand :=
      if event.onDemand then books.onDemand.put event.blobID event.originDevice
      else books.onDemand }

/-- Every access list and every on-demand holding belongs to a registered device. -/
structure Live (books : Books) : Prop where
  access : ∀ blob acl, books.blobACL.get? blob = some acl → books.clients.contains acl.origin
  holders : ∀ blob holder, books.onDemand.get? blob = some holder →
    books.clients.contains holder

/-- The holder of an on-demand blob is the origin of its access list. -/
def Agrees (books : Books) : Prop :=
  ∀ blob holder, books.onDemand.get? blob = some holder →
    ∃ allowed, books.blobACL.get? blob = some ⟨holder, allowed⟩

/-- What claims rely on. -/
structure Sound (books : Books) : Prop where
  live : books.Live
  agrees : books.Agrees

section Changes

variable {books : Books} {id device : DeviceID} {blob : BlobID} {acl : BlobACL}

theorem contains_register (conn : ConnID) (known : books.clients.contains device) :
    (books.register id conn).clients.contains device := by
  rw [register, OrderedMap.contains, OrderedMap.get?_put]
  split_ifs
  · rfl
  · exact known

theorem contains_depart (known : books.clients.contains device) (other : device ≠ id) :
    (books.depart id).clients.contains device := by
  rwa [depart, OrderedMap.contains, OrderedMap.get?_erase, if_neg other]

/-- An access list survives the departure of another device, unless that device held
the blob. -/
theorem access_depart : (books.depart id).blobACL.get? blob = some acl ↔
    books.blobACL.get? blob = some acl ∧ books.onDemand.get? blob ≠ some id ∧
      acl.origin ≠ id := by
  rw [depart, OrderedMap.get?_filter, Option.filter_eq_some_iff, decide_eq_true_eq]

theorem holders_depart {holder : DeviceID} :
    (books.depart id).onDemand.get? blob = some holder ↔
      books.onDemand.get? blob = some holder ∧ holder ≠ id := by
  rw [depart, OrderedMap.get?_filter, Option.filter_eq_some_iff, decide_eq_true_eq]

theorem Live.register (live : books.Live) (id : DeviceID) (conn : ConnID) :
    (books.register id conn).Live where
  access blob acl found := contains_register conn (live.access blob acl found)
  holders blob holder found := contains_register conn (live.holders blob holder found)

theorem Live.depart (live : books.Live) (id : DeviceID) : (books.depart id).Live where
  access blob acl found := by
    obtain ⟨kept, -, other⟩ := access_depart.mp found
    exact contains_depart (live.access blob acl kept) other
  holders blob holder found := by
    obtain ⟨kept, other⟩ := holders_depart.mp found
    exact contains_depart (live.holders blob holder kept) other

/-- A claim keeps the books live exactly when its origin is registered. -/
theorem Live.claim_iff (live : books.Live) (event : ClipEvent) (allowed : List DeviceID) :
    (books.claim event allowed).Live ↔ books.clients.contains event.originDevice := by
  constructor
  · intro claimed
    exact claimed.access event.blobID ⟨event.originDevice, allowed⟩ (OrderedMap.get?_put_self ..)
  · intro registered
    refine ⟨fun blob acl found => ?_, fun blob holder found => ?_⟩
    · rw [claim, OrderedMap.get?_put] at found
      split_ifs at found
      · cases found
        exact registered
      · exact live.access blob acl found
    · simp only [claim] at found
      split_ifs at found
      · rw [OrderedMap.get?_put] at found
        split_ifs at found
        · cases found
          exact registered
        · exact live.holders blob holder found
      · exact live.holders blob holder found

theorem Agrees.depart (agrees : books.Agrees) (id : DeviceID) : (books.depart id).Agrees := by
  intro blob holder found
  obtain ⟨held, other⟩ := holders_depart.mp found
  obtain ⟨allowed, listed⟩ := agrees blob holder held
  have notHeld : books.onDemand.get? blob ≠ some id := by
    rintro heldById
    cases held.symm.trans heldById
    exact other rfl
  exact ⟨allowed, access_depart.mpr ⟨listed, notHeld, other⟩⟩

/-- An accepted claim takes a blob from nobody who is registered. -/
theorem Agrees.claim (agrees : books.Agrees) (live : books.Live) {event : ClipEvent}
    (allowed : List DeviceID)
    (accepted : ∀ current, books.blobACL.get? event.blobID = some current →
      current.origin = event.originDevice ∨ books.clients.contains current.origin = false) :
    (books.claim event allowed).Agrees := by
  intro blob holder found
  have kept : books.onDemand.get? blob = some holder →
      ∃ allowed', (books.claim event allowed).blobACL.get? blob = some ⟨holder, allowed'⟩ := by
    intro held
    obtain ⟨listed, access⟩ := agrees blob holder held
    rw [Books.claim, OrderedMap.get?_put]
    split_ifs with same
    · -- The holder is registered, so the claim can only be its own.
      rcases accepted _ (same ▸ access) with own | gone
      · exact ⟨allowed, by rw [← own]⟩
      · cases gone.symm.trans (live.holders blob holder held)
    · exact ⟨listed, access⟩
  simp only [Books.claim] at found
  split_ifs at found
  · rw [OrderedMap.get?_put] at found
    split_ifs at found with same
    · cases found
      exact ⟨allowed, by rw [Books.claim, same, OrderedMap.get?_put_self]⟩
    · exact kept found
  · exact kept found

end Changes

end Books

/-- The books of a hub. -/
def Hub.books (hub : Hub) : Books := ⟨hub.clients, hub.onDemand, hub.blobACL⟩

namespace Relay

abbrev books (relay : Relay) : Books := relay.daemon.hub.books

/-- What a step does to the books. -/
inductive BooksChange (relay : Relay) : Action → Books → Prop where
  | keep {action : Action} : BooksChange relay action relay.books
  | enter {conn : ConnID} {now : Time} {id : DeviceID} :
      BooksChange relay (.registerStart conn now) (relay.books.register id conn)
  | leave {action : Action} {id : DeviceID} : BooksChange relay action (relay.books.depart id)
  | claim {now : Time} {source : Option ConnID} {event : ClipEvent} {settings : RuntimeSettings}
      {targets : List Device} (task : relay.task = .admitted source event settings)
      (accepted : relay.claims event = true) :
      BooksChange relay (.routePrepare now)
        (relay.books.claim event (allowedList event targets))

section Steps

variable {env : Env} {relay after : Relay} {action : Action}

theorem BooksChange.of_hub (same : after.daemon.hub = relay.daemon.hub) :
    BooksChange relay action after.books := by
  rw [books, same]
  exact .keep

theorem claimBlob_books (daemon : Daemon) (event : ClipEvent) (targets : List Device) :
    (daemon.claimBlob event targets).hub.books =
      if event.blobID ≠ "" ∧ daemon.hub.claimOK event = true then
        daemon.hub.books.claim event (allowedList event targets)
      else daemon.hub.books := by
  by_cases accepted : event.blobID ≠ "" ∧ daemon.hub.claimOK event = true
  · rw [Daemon.claimBlob, if_pos accepted, if_pos accepted]
    rfl
  · rw [Daemon.claimBlob, if_neg accepted, if_neg accepted]

theorem claimBlob_blobs (daemon : Daemon) (event : ClipEvent) (targets : List Device) :
    (daemon.claimBlob event targets).store.blobs =
      if event.blobID ≠ "" ∧ daemon.hub.claimOK event = true then
        (daemon.store.setBlobACL event.blobID event.originDevice
          (allowedList event targets)).blobs
      else daemon.store.blobs := by
  by_cases accepted : event.blobID ≠ "" ∧ daemon.hub.claimOK event = true
  · rw [Daemon.claimBlob, if_pos accepted, if_pos accepted]
  · rw [Daemon.claimBlob, if_neg accepted, if_neg accepted]

/-- The monitor record and the activity counter do not matter to the books. -/
theorem prepareRoute_books (env : Env) (daemon : Daemon) (event : ClipEvent)
    (settings : RuntimeSettings) (now : Time) :
    (daemon.prepareRoute env event settings now).1.hub.books =
      if event.blobID ≠ "" ∧ daemon.hub.claimOK event = true then
        daemon.hub.books.claim event
          (allowedList event (daemon.prepareRoute env event settings now).2)
      else daemon.hub.books :=
  claimBlob_books _ event _

theorem routePrepare_books {now : Time} (stepped : relay.routePrepare env now = some after) :
    BooksChange relay (.routePrepare now) after.books := by
  obtain ⟨source, event, settings, task, rfl⟩ := routePrepare_some stepped
  rw [books, record, prepareRoute_books]
  split_ifs with decision
  · exact .claim task (by simp [claims, decision.1, decision.2])
  · exact .keep

theorem routeDeliver_books {now : Time} (stepped : relay.routeDeliver now = some after) :
    BooksChange relay (.routeDeliver now) after.books := by
  obtain ⟨source, event, settings, target, rest, progress, task, served, delivery,
    delivered, rfl⟩ := routeDeliver_some stepped
  rcases Daemon.deliverTo_cases _ _ delivered with
    ⟨-, -, rfl⟩ | ⟨-, conn, connection, -, -, -, -, rfl⟩ |
      ⟨-, base, ⟨-, rfl⟩ | ⟨conn, -, -, rfl⟩, -, rfl⟩
  · exact .of_hub rfl
  · exact .of_hub rfl
  · exact .of_hub rfl
  · rw [books, record, Daemon.evictSlow_hub]
    exact .leave

/-- One case analysis over all actions. -/
theorem books_of_step (stepped : relay.step env action = some after) :
    BooksChange relay action after.books := by
  cases action with
  | routePrepare now => exact routePrepare_books stepped
  | routeDeliver now => exact routeDeliver_books stepped
  | registerStart conn now =>
      obtain ⟨connection, settings, items, -, -, -, rfl⟩ := registerStart_some stepped
      rw [books, Daemon.enroll_hub]
      exact .enter
  | unregister conn now =>
      obtain ⟨connection, -, -, -, rfl⟩ := unregister_some stepped
      rw [books, Daemon.handleUnregister_hub]
      split_ifs
      · exact .leave
      · exact .keep
  | evict id =>
      obtain ⟨-, -, rfl⟩ := evict_some stepped
      rcases relay.daemon.handleEvict_hub id with hub | hub
      · exact .of_hub hub
      · rw [books, hub]
        exact .leave
  | connect id token =>
      obtain ⟨device, -, rfl⟩ := connect_some stepped
      exact .of_hub rfl
  | readSettings conn =>
      obtain ⟨connection, -, -, rfl⟩ := readSettings_some stepped
      exact .of_hub rfl
  | drain conn =>
      obtain ⟨connection, settings, -, -, rfl⟩ := drain_some stepped
      exact .of_hub rfl
  | requeue conn =>
      obtain ⟨connection, depth, item, rest, -, -, rfl⟩ := requeue_some stepped
      exact .of_hub rfl
  | registerReturn conn =>
      obtain ⟨connection, depth, -, -, rfl⟩ := registerReturn_some stepped
      exact .of_hub rfl
  | sendToken conn token =>
      obtain ⟨connection, -, -, rfl⟩ := sendToken_some stepped
      exact .of_hub (Daemon.push_hub ..)
  | ack conn =>
      obtain ⟨connection, payload, -, -, rfl⟩ := ack_some stepped
      exact .of_hub (Daemon.push_hub ..)
  | registerDeliver =>
      obtain ⟨conn, connection, settings, item, rest, -, -, -, ⟨-, rfl⟩ | ⟨-, rfl⟩⟩ :=
        registerDeliver_some stepped
      · exact .of_hub rfl
      · exact .of_hub rfl
  | registerFinish =>
      obtain ⟨conn, connection, settings, rest, full, -, -, -, -, rfl⟩ :=
        registerFinish_some stepped
      exact .of_hub (Daemon.broadcastPresence_hub ..)
  | receiveClip conn event now =>
      obtain ⟨connection, -, -, -, ⟨payload, rfl⟩ | ⟨-, rfl⟩⟩ := receiveClip_some stepped
      · exact .of_hub rfl
      · exact .of_hub rfl
  | routeBroadcast index =>
      obtain ⟨event, -, -, rfl | ⟨-, rfl⟩⟩ := routeBroadcast_some stepped
      · exact .of_hub rfl
      · exact .of_hub rfl
  | routeFinish =>
      obtain ⟨source, event, settings, progress, -, rfl | ⟨conn, connection, payload, -, -, -,
        rfl⟩⟩ := routeFinish_some stepped
      · exact .of_hub rfl
      · exact .of_hub rfl
  | setPool conn pool =>
      obtain ⟨-, rfl | ⟨connection, device, -, -, rfl⟩⟩ := setPool_some stepped
      · exact .of_hub rfl
      · exact .of_hub rfl
  | storePool =>
      obtain ⟨device, pool, -, rfl⟩ := storePool_some stepped
      exact .of_hub (Daemon.storePool_hub ..)
  | requestBlob blob =>
      rw [requestBlob_some stepped]
      exact .of_hub (Daemon.handleBlobRequest_hub ..)
  | takeFrame conn =>
      obtain ⟨connection, frame, rest, -, -, -, rfl⟩ := takeFrame_some stepped
      exact .of_hub rfl
  | wroteFrame conn =>
      obtain ⟨connection, frame, -, -, rfl⟩ := wroteFrame_some stepped
      exact .of_hub rfl
  | writeError conn =>
      obtain ⟨connection, frame, -, -, rfl⟩ := writeError_some stepped
      exact .of_hub rfl
  | stopPump conn =>
      obtain ⟨connection, -, -, rfl⟩ := stopPump_some stepped
      exact .of_hub rfl
  | refreshSettings index =>
      obtain ⟨settings, -, rfl⟩ := refreshSettings_some stepped
      exact .keep
  | broadcast id text now =>
      rw [broadcast_some stepped]
      exact .of_hub rfl
  | claimPairing code suffix name platform token now =>
      rw [claimPairing_some stepped]
      exact .of_hub rfl
  | rotateToken op =>
      obtain ⟨store, rfl, -⟩ := rotateToken_some stepped
      exact .of_hub rfl
  | touchBlob blob now size mime =>
      obtain ⟨-, rfl⟩ := touchBlob_some stepped
      exact .of_hub rfl
  | deleteDevice | putSettings | loadSettings | putPairing | purgePairing | purgeQueues
  | collectBlob =>
      cases stepped
      exact .of_hub rfl

end Steps

/-! ## Live origins -/

/-- The clip whose claim a step decides. -/
def claimant? (relay : Relay) : Option Action → Option ClipEvent
  | some (.routePrepare _) =>
      match relay.task with
      | .admitted _ event _ => some event
      | _ => none
  | _ => none

theorem claimant?_routePrepare {relay : Relay} {source : Option ConnID} {event : ClipEvent}
    {settings : RuntimeSettings} (now : Time)
    (task : relay.task = .admitted source event settings) :
    relay.claimant? (some (.routePrepare now)) = some event := by
  simp only [claimant?, task]

theorem of_claimant? {relay : Relay} {action : Option Action} {event : ClipEvent}
    (decided : relay.claimant? action = some event) :
    ∃ now source settings, action = some (.routePrepare now) ∧
      relay.task = .admitted source event settings := by
  simp only [claimant?] at decided
  split at decided
  next now =>
    split at decided
    next source clip settings task =>
      cases decided
      exact ⟨now, source, settings, rfl, task⟩
    next => cases decided
  next => cases decided

/-- A claim that the hub is about to accept is made by a registered device. -/
def LiveClaims (relay : Relay) (action : Option Action) : Prop :=
  ∀ event ∈ relay.claimant? action, relay.claims event = true →
    relay.clients.contains event.originDevice

instance (relay : Relay) (action : Option Action) : Decidable (relay.LiveClaims action) :=
  inferInstanceAs (Decidable (∀ event ∈ relay.claimant? action, _))

section Invariants

variable {env : Env} {relay after : Relay} {action : Option Action}

theorem sound_boot (store : Store) : (Relay.boot store).books.Sound where
  live := by constructor <;> simp [Relay.boot, Daemon.boot, Hub.books]
  agrees := by simp [Books.Agrees, Relay.boot, Daemon.boot, Hub.books]

/-- An accepted claim finds the blob unclaimed, its own, or that of a device that is
not registered. -/
theorem accepted_of_claims {event : ClipEvent} (accepted : relay.claims event = true)
    (current : BlobACL) (found : relay.books.blobACL.get? event.blobID = some current) :
    current.origin = event.originDevice ∨
      relay.books.clients.contains current.origin = false := by
  have permitted : relay.daemon.hub.claimOK event = true := (Bool.and_eq_true_iff.mp accepted).2
  have present : relay.daemon.hub.blobACL.get? event.blobID = some current := found
  simp only [Hub.claimOK, present, Bool.not_eq_true', Bool.and_eq_false_iff,
    decide_eq_false_iff_not, not_not] at permitted
  exact permitted

theorem sound_life (sound : relay.books.Sound) (admitted : relay.LiveClaims action)
    (stepped : relay.life env action = some after) : after.books.Sound := by
  cases action with
  | none =>
      cases stepped
      exact sound_boot relay.daemon.store
  | some action =>
      have change := books_of_step stepped
      generalize after.books = books at change ⊢
      cases change with
      | keep => exact sound
      | enter => exact ⟨sound.live.register _ _, sound.agrees⟩
      | leave => exact ⟨sound.live.depart _, sound.agrees.depart _⟩
      | claim task accepted =>
          have registered := admitted _ (claimant?_routePrepare _ task) accepted
          exact ⟨(sound.live.claim_iff _ _).mpr registered,
            sound.agrees.claim sound.live _ (accepted_of_claims accepted)⟩

/-- A step that is not such a claim breaks the property at once. -/
theorem not_live_of_dead_claim (live : relay.books.Live) (dead : ¬relay.LiveClaims action)
    (stepped : relay.life env action = some after) : ¬after.books.Live := by
  simp only [LiveClaims, not_forall] at dead
  obtain ⟨event, decided, accepted, gone⟩ := dead
  obtain ⟨now, source, settings, rfl, task⟩ := of_claimant? decided
  obtain ⟨source', event', settings', task', rfl⟩ := routePrepare_some stepped
  cases task.symm.trans task'
  have decision : event.blobID ≠ "" ∧ relay.daemon.hub.claimOK event = true := by
    simpa [claims] using accepted
  rw [books, record, prepareRoute_books, if_pos decision, live.claim_iff]
  exact gone

end Invariants

/-- In every run, over restarts too, whose accepted claims are all made by registered
devices, every access list and every on-demand holding belongs to a registered
device; a claim of a device that has left breaks this. -/
theorem origins_live_iff {env : Env} (store : Store) :
    (∀ relay : Relay, Run (Relay.life env) LiveClaims (Relay.boot store) relay →
      relay.books.Live) ∧
    ∀ (relay after : Relay) (action : Option Action), relay.books.Live →
      ¬relay.LiveClaims action → relay.life env action = some after → ¬after.books.Live := by
  constructor
  · intro relay run
    have sound : relay.books.Sound :=
      run.invariant (sound_boot store) fun sound admitted stepped =>
        sound_life sound admitted stepped
    exact sound.live
  · intro relay after action live dead stepped
    exact not_live_of_dead_claim live dead stepped

/-- A deleted device is evicted, and its read pump still hands over a clip with a
blob; the entry outlives the connection. -/
theorem evicted_claim_stays :
    ¬∀ (env : Env) (store : Store) (relay : Relay),
      Reachable (Relay.life env) (Relay.boot store) relay → relay.books.Live := by
  intro claim
  obtain ⟨relay, reached, checked⟩ := Reachable.exists_of_exec (Relay.life demoEnv)
    (Relay.boot .empty)
    ((Action.bothUp ++ [Action.deleteDevice "dev_a", Action.evict "dev_a"] ++
      Action.sendClip 0 (.sharing "c1" "blob" ["dev_b"]) 1 ++
      [Action.unregister 0 3]).map some)
    (fun relay => decide ((relay.books.blobACL.get? "blob").map (·.origin) = some "dev_a") &&
      !relay.books.clients.contains "dev_a") (by decide +kernel)
  obtain ⟨listed, gone⟩ := Bool.and_eq_true_iff.mp checked
  obtain ⟨acl, found, origin⟩ := Option.map_eq_some_iff.mp (of_decide_eq_true listed)
  have registered := (claim demoEnv .empty relay reached).access "blob" acl found
  rw [origin] at registered
  simp [registered] at gone

/-- A blob shared by a registered device. -/
theorem origins_live_shared :
    ∃ relay : Relay, Run (Relay.life demoEnv) LiveClaims (Relay.boot .empty) relay ∧
      (relay.books.blobACL.get? "blob").isSome = true ∧ relay.books.Live := by
  obtain ⟨relay, run, checked⟩ := Run.exists_of_execWhen (Relay.life demoEnv)
    (fun relay action => decide (relay.LiveClaims action)) (Relay.boot .empty)
    ((Action.bothUp ++ Action.sendClip 0 (.sharing "c1" "blob" ["dev_b"]) 1).map some)
    (fun relay => (relay.books.blobACL.get? "blob").isSome) (by decide +kernel)
  have live : Run (Relay.life demoEnv) LiveClaims (Relay.boot .empty) relay :=
    run.mono of_decide_eq_true
  exact ⟨relay, live, checked, (origins_live_iff .empty).1 relay live⟩

/-! ## Claims that stay -/

/-- Steps that keep origins live, after which the device is still registered, and that
are not its own claims on the blob. -/
structure Undisturbed (env : Env) (device : DeviceID) (blob : BlobID) (relay : Relay)
    (action : Option Action) : Prop where
  live : relay.LiveClaims action
  stays : ∀ next ∈ relay.life env action, next.clients.contains device = true
  foreign : ∀ event ∈ relay.claimant? action, event.originDevice = device → event.blobID ≠ blob

instance (env : Env) (device : DeviceID) (blob : BlobID) (relay : Relay)
    (action : Option Action) : Decidable (Undisturbed env device blob relay action) :=
  decidable_of_iff (relay.LiveClaims action ∧
      (∀ next ∈ relay.life env action, next.clients.contains device = true) ∧
      ∀ event ∈ relay.claimant? action, event.originDevice = device → event.blobID ≠ blob)
    ⟨fun all => ⟨all.1, all.2.1, all.2.2⟩, fun calm => ⟨calm.live, calm.stays, calm.foreign⟩⟩

/-- What one claim of a device established, and still holds since. -/
structure Established (since : Relay) (device : DeviceID) (blob : BlobID)
    (allowed : List DeviceID) (relay : Relay) : Prop where
  sound : relay.books.Sound
  registered : relay.clients.contains device = true
  access : relay.books.blobACL.get? blob = some ⟨device, allowed⟩
  holder : relay.books.onDemand.get? blob = since.books.onDemand.get? blob
  grown : since.log <+: relay.log
  persisted : .collected blob ∉ relay.log.drop since.log.length →
    relay.daemon.store.accessOf blob = some (device, allowed)

section Established

variable {env : Env} {since relay after : Relay} {action : Option Action} {device : DeviceID}
variable {blob : BlobID} {allowed : List DeviceID}

/-- No clip of another device is accepted as a claim on the blob. -/
theorem Established.refuses (held : Established since device blob allowed relay)
    {event : ClipEvent} (accepted : relay.claims event = true) (same : event.blobID = blob) :
    event.originDevice = device := by
  rcases accepted_of_claims accepted _ (same ▸ held.access) with own | gone
  · exact own.symm
  · cases gone.symm.trans held.registered

theorem Established.books_step (held : Established since device blob allowed relay)
    {action : Action} (calm : Undisturbed env device blob relay (some action))
    (stepped : relay.step env action = some after) :
    after.books.blobACL.get? blob = some ⟨device, allowed⟩ ∧
      after.books.onDemand.get? blob = since.books.onDemand.get? blob := by
  have registered : after.books.clients.contains device = true := calm.stays after stepped
  have change := books_of_step stepped
  generalize after.books = books at change registered ⊢
  rw [← held.holder]
  cases change with
  | keep => exact ⟨held.access, rfl⟩
  | enter => exact ⟨held.access, rfl⟩
  | @leave _ id =>
      have other : device ≠ id := by
        rintro rfl
        simp [Books.depart, OrderedMap.contains] at registered
      -- Whoever holds the blob is the origin of its access list.
      have notHeld : relay.books.onDemand.get? blob ≠ some id := by
        intro heldById
        obtain ⟨listed, access⟩ := held.sound.agrees blob id heldById
        cases held.access.symm.trans access
        exact other rfl
      refine ⟨Books.access_depart.mpr ⟨held.access, notHeld, other⟩, ?_⟩
      cases holder : relay.books.onDemand.get? blob with
      | none =>
          cases left : (relay.books.depart id).onDemand.get? blob with
          | none => rfl
          | some rest => cases holder.symm.trans (Books.holders_depart.mp left).1
      | some current =>
          refine Books.holders_depart.mpr ⟨holder, ?_⟩
          rintro rfl
          exact notHeld holder
  | @claim now source event settings targets task accepted =>
      have other : blob ≠ event.blobID := fun same =>
        calm.foreign event (claimant?_routePrepare now task) (held.refuses accepted same.symm)
          same.symm
      constructor
      · rw [Books.claim, OrderedMap.get?_put_of_ne _ _ other]
        exact held.access
      · simp only [Books.claim]
        split_ifs
        · rw [OrderedMap.get?_put_of_ne _ _ other]
        · rfl

theorem Established.persisted_step (held : Established since device blob allowed relay)
    {action : Action} (calm : Undisturbed env device blob relay (some action))
    (stepped : relay.step env action = some after) :
    since.log <+: after.log ∧ (.collected blob ∉ after.log.drop since.log.length →
      after.daemon.store.accessOf blob = some (device, allowed)) := by
  obtain ⟨facts, log, change⟩ := (effect_of_step stepped).ledger
  rw [log, List.drop_append_of_le_length held.grown.length_le]
  refine ⟨held.grown.trans (List.prefix_append ..), fun uncollected => ?_⟩
  rw [List.mem_append, not_or] at uncollected
  have before := held.persisted uncollected.1
  cases change with
  | keep _ _ blobs => rwa [Store.accessOf_congr blob blobs]
  | @route now source event settings targets task _ blobs =>
      rw [claimBlob_blobs] at blobs
      split_ifs at blobs with accepted
      · have other : blob ≠ event.blobID := fun same =>
          calm.foreign event (claimant?_routePrepare now task)
            (held.refuses (by simp [claims, accepted.1, accepted.2]) same.symm) same.symm
        rwa [Store.accessOf_congr blob blobs, Store.accessOf_setBlobACL, if_neg other]
      · rwa [Store.accessOf_congr blob blobs]
  | @touch id now size mime _ _ blobs =>
      rw [Store.accessOf_congr blob blobs, Store.accessOf_touchBlob]
      split_ifs with same
      · rw [← same, before]
        rfl
      · exact before
  | @collect id _ blobs =>
      have other : blob ≠ id := fun same =>
        uncollected.2 (same ▸ List.mem_singleton_self _)
      rwa [Store.accessOf_congr blob blobs, Store.accessOf_deleteBlobEntry, if_neg other]

theorem Established.life (held : Established since device blob allowed relay)
    (calm : Undisturbed env device blob relay action)
    (stepped : relay.life env action = some after) :
    Established since device blob allowed after := by
  have registered := calm.stays after stepped
  cases action with
  | none =>
      -- Nobody is registered after a restart.
      cases stepped
      cases registered
  | some action =>
      obtain ⟨access, holder⟩ := held.books_step calm stepped
      obtain ⟨grown, persisted⟩ := held.persisted_step calm stepped
      exact ⟨sound_life held.sound calm.live stepped, registered, access, holder, grown,
        persisted⟩

end Established

/-- The claim of a routed clip, and the state it leaves. -/
theorem established_of_claim {env : Env} {relay claimed : Relay} {now : Time}
    {source : Option ConnID} {event : ClipEvent} {settings : RuntimeSettings}
    (sound : relay.books.Sound) (live : relay.LiveClaims (some (.routePrepare now)))
    (task : relay.task = .admitted source event settings) (accepted : relay.claims event = true)
    (routed : relay.step env (.routePrepare now) = some claimed) :
    Established claimed event.originDevice event.blobID
        (allowedList event (relay.daemon.prepareRoute env event settings now).2) claimed ∧
      (event.onDemand = true →
        claimed.books.onDemand.get? event.blobID = some event.originDevice) := by
  have registered := live event (claimant?_routePrepare now task) accepted
  have after := sound_life sound live routed
  obtain ⟨source', event', settings', task', result⟩ := routePrepare_some routed
  cases task.symm.trans task'
  have decision : event.blobID ≠ "" ∧ relay.daemon.hub.claimOK event = true := by
    simpa [claims] using accepted
  have books : claimed.books = relay.books.claim event
      (allowedList event (relay.daemon.prepareRoute env event settings now).2) := by
    rw [result, Relay.books, record, prepareRoute_books, if_pos decision]
  have blobs : claimed.daemon.store.blobs = (relay.daemon.store.setBlobACL event.blobID
      event.originDevice
      (allowedList event (relay.daemon.prepareRoute env event settings now).2)).blobs := by
    rw [result, record, (prepareRoute_claims env relay.daemon event settings now).2,
      claimBlob_blobs, if_pos decision]
  refine ⟨⟨after, ?_, ?_, rfl, List.prefix_rfl, fun _ => ?_⟩, fun onDemand => ?_⟩
  · have same : claimed.clients = relay.clients := congrArg Books.clients books
    rw [same]
    exact registered
  · rw [books, Books.claim, OrderedMap.get?_put_self]
  · rw [Store.accessOf_congr _ blobs, Store.accessOf_setBlobACL, if_pos rfl]
  · rw [books, Books.claim]
    simp [onDemand]

/-- While routed claims are made by registered devices only, an accepted claim of a
device holds as long as the device stays registered: until its own next claim on the
blob, no step of anybody changes the access list, the on-demand holder, or (until the
record is collected) the access list on record, and only the device may supply a blob
it claimed on demand. -/
theorem claims_not_hijacked {env : Env} {store : Store} {relay claimed later : Relay}
    {now : Time} {source : Option ConnID} {event : ClipEvent} {settings : RuntimeSettings}
    (earlier : Run (Relay.life env) LiveClaims (Relay.boot store) relay)
    (live : relay.LiveClaims (some (.routePrepare now)))
    (task : relay.task = .admitted source event settings) (accepted : relay.claims event = true)
    (routed : relay.step env (.routePrepare now) = some claimed)
    (rest : Run (Relay.life env) (Undisturbed env event.originDevice event.blobID)
      claimed later) :
    ∃ allowed, claimed.books.blobACL.get? event.blobID = some ⟨event.originDevice, allowed⟩ ∧
      later.books.blobACL.get? event.blobID = some ⟨event.originDevice, allowed⟩ ∧
      later.books.onDemand.get? event.blobID = claimed.books.onDemand.get? event.blobID ∧
      (.collected event.blobID ∉ later.log.drop claimed.log.length →
        later.daemon.store.accessOf event.blobID = some (event.originDevice, allowed)) ∧
      (event.onDemand = true → ∀ dev,
        later.daemon.handleBlobAuth event.blobID dev .supply = true ↔
          dev = event.originDevice) := by
  have sound : relay.books.Sound :=
    earlier.invariant (sound_boot store) fun sound admitted stepped =>
      sound_life sound admitted stepped
  obtain ⟨established, onDemand⟩ := established_of_claim sound live task accepted routed
  have held := rest.invariant established fun held calm stepped => held.life calm stepped
  refine ⟨_, established.access, held.access, held.holder, held.persisted, fun demanded dev => ?_⟩
  have holder : later.daemon.hub.onDemand.get? event.blobID = some event.originDevice :=
    held.holder.trans (onDemand demanded)
  simp [Daemon.handleBlobAuth, holder, eq_comm]

/-- A clip of `dev_a` that offers a blob on demand. -/
def offer : ClipEvent := { ClipEvent.sharing "c1" "blob" ["dev_b"] with onDemand := true }

/-- Actions, the preparation of a route, and further actions. -/
def claimRun (env : Env) (device : DeviceID) (blob : BlobID) (first : List Action) (now : Time)
    (second : List Action) : Option (Relay × Relay × Relay) := do
  let relay ← execWhen (Relay.life env) (fun relay action => decide (relay.LiveClaims action))
    (Relay.boot .empty) (first.map some)
  let claimed ← relay.step env (.routePrepare now)
  let later ← execWhen (Relay.life env)
    (fun relay action => decide (Undisturbed env device blob relay action)) claimed
    (second.map some)
  return (relay, claimed, later)

/-- Device `a` offers a blob on demand; device `b` claims the same blob and leaves. -/
theorem claims_not_hijacked_offer :
    ∃ later : Relay, Reachable (Relay.life demoEnv) (Relay.boot .empty) later ∧
      later.clients.contains "dev_b" = false ∧
      ∀ dev, later.daemon.handleBlobAuth "blob" dev .supply = true ↔ dev = "dev_a" := by
  obtain ⟨⟨relay, claimed, later⟩, ran, checked⟩ := (Option.any_eq_true _ _).mp
    (show (claimRun demoEnv "dev_a" "blob" (Action.bothUp ++ [.receiveClip 0 offer 2]) 2
        ([.routeDeliver 2, .routeFinish, .ack 0] ++
          Action.sendClip 1 (.sharing "c2" "blob" ["dev_a"]) 1 ++ [.unregister 1 3])).any
        (fun relays => !relays.2.2.clients.contains "dev_b" &&
          decide (relays.1.LiveClaims (some (.routePrepare 2))) &&
          (relays.1.claimant? (some (.routePrepare 2))).any fun event =>
            relays.1.claims event && decide (event.originDevice = "dev_a") &&
              decide (event.blobID = "blob") && event.onDemand) = true by decide +kernel)
  simp only [claimRun, Option.bind_eq_bind, Option.bind_eq_some_iff, Option.pure_def,
    Option.some.injEq] at ran
  obtain ⟨_, earlier, _, routed, _, rest, same⟩ := ran
  cases same
  simp only [Bool.and_eq_true, Bool.not_eq_true', decide_eq_true_eq, Option.any_eq_true]
    at checked
  obtain ⟨⟨gone, live⟩, event, decided, ⟨⟨accepted, origin⟩, blob⟩, demanded⟩ := checked
  obtain ⟨_, source, settings, -, task⟩ := of_claimant? decided
  have before : Run (Relay.life demoEnv) LiveClaims (Relay.boot .empty) relay :=
    Run.of_execWhen (fun _ _ admitted => of_decide_eq_true admitted) earlier
  have after : Run (Relay.life demoEnv)
      (Undisturbed demoEnv event.originDevice event.blobID) claimed later := by
    rw [origin, blob]
    exact Run.of_execWhen (fun _ _ admitted => of_decide_eq_true admitted) rest
  obtain ⟨allowed, -, -, -, -, supply⟩ :=
    claims_not_hijacked before live task accepted routed after
  rw [origin, blob] at supply
  have taken : Relay.life demoEnv relay (some (.routePrepare 2)) = some claimed := routed
  have once : Reachable (Relay.life demoEnv) relay claimed := .tail .refl trivial taken
  exact ⟨later, (before.mono fun _ => trivial).trans
    (once.trans (after.mono fun _ => trivial)), gone, supply demanded⟩

end Relay

end CopySync.Server
