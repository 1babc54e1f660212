import CopySync.Server.Blob.Pass
import CopySync.Server.Relay.Collect

/-!
# Pins and a pass under way

Blobs that a queued clip refers to are pinned "and must never be collected".  The pin
set is read when a pass begins, the records right after it, and both are worked off
while clips go on being routed and blobs uploaded.  A blob that is queued again in the
meantime is not pinned for this pass: if its record was listed as idle, its file goes.

What a pass may still remove is known from the moment it has listed the records.  As
long as no clip that enters a queue from then on refers to one of those files, and none
that is queued when they are listed does, no removal hits a queued blob.
-/

namespace CopySync.Server

open Foundation

/-- The file operations with the one uploads add. -/
structure BlobDirectory (σ : Type) extends Filesystem σ where
  write : σ → Path → Int → σ

/-- The relay with its blob directory and the collector pass under way. -/
structure Depot (σ : Type) where
  relay : Relay
  disk : σ
  pass : Option Pass

/-- One step of one goroutine: of the relay (or a restart), of an upload, or of the
housekeeping that runs the collector. -/
inductive Work where
  | serve (action : Option Action)
  | put (id : BlobID) (size : Int)
  | begin (cfg : GCConfig)
  | collect (measured : Int)

namespace Depot

def boot {σ : Type} (disk : σ) : Depot σ := ⟨.boot .empty, disk, none⟩

section Machine

variable {σ : Type} (env : Env) (dir : BlobDirectory σ) (root : Path) (sorter : AccessSorter)
variable (depot : Depot σ)

/-- The relay's own steps.  Records are deleted by the pass only, and a restart ends the
pass. -/
def serve : Option Action → Option (Depot σ)
  | some (.collectBlob _) => none
  | some action => (depot.relay.step env action).map fun relay => { depot with relay }
  | none => some { depot with relay := depot.relay.restart, pass := none }

/-- `FsBlobStore.Put` of bytes that hash to the id: a present file stays as it is.  The
upload touches the record in a step of the relay. -/
def put (id : BlobID) (size : Int) : Option (Depot σ) :=
  if validID id then
    (pathFor root id).map fun path =>
      if (dir.stat depot.disk path).isSome then depot
      else { depot with disk := dir.write depot.disk path size }
  else none

/-- Housekeeping runs one pass after the other. -/
def begin (cfg : GCConfig) : Option (Depot σ) :=
  match depot.pass with
  | none => some { depot with pass := some (.start cfg depot.relay.daemon.store) }
  | some _ => none

/-- The step the pass under way takes next. -/
def passStep (measured : Int) : Option PassStep :=
  depot.pass.map fun pass =>
    pass.next dir.toFilesystem root sorter depot.relay.daemon.store depot.disk measured

/-- A panic of the pass ends the process. -/
def collect (measured : Int) : Option (Depot σ) :=
  (depot.passStep dir root sorter measured).map fun
    | .goes pass => { depot with pass := some pass }
    | .removes path pass =>
        { depot with disk := dir.remove depot.disk path, pass := some pass }
    | .forgets id pass => { depot with relay := depot.relay.collectBlob id, pass := some pass }
    | .returns _ => { depot with pass := none }
    | .panics => { depot with relay := depot.relay.restart, pass := none }

def step : Work → Option (Depot σ)
  | .serve action => depot.serve env action
  | .put id size => depot.put dir root id size
  | .begin cfg => depot.begin cfg
  | .collect measured => depot.collect dir root sorter measured

/-- The file a step deletes, if there is one. -/
def deletes : Work → Option Path
  | .collect measured =>
      match depot.passStep dir root sorter measured with
      | some (.removes path _) =>
          if (dir.stat depot.disk path).isSome then some path else none
      | _ => none
  | _ => none

/-- No step deletes the file of a blob that some offline queue refers to. -/
def SparesQueued : Prop :=
  ∀ (work : Work) (path : Path), depot.deletes dir root sorter work = some path →
    ∀ id ∈ depot.relay.daemon.store.allQueuedBlobIDs, pathFor root id ≠ some path

end Machine

end Depot

namespace Relay

/-- The clips an action puts into an offline queue. -/
def enqueues (relay : Relay) : Action → List ClipEvent
  | .requeue conn =>
      match relay.connection? conn with
      | some connection =>
          match connection.session with
          | .requeueing _ (item :: _) => [item.event]
          | _ => []
      | none => []
  | .routeDeliver now =>
      match relay.task with
      | .routing _ event settings (target :: _) _ =>
          match (relay.daemon.deliverTo event settings.queueDepthPerDevice now target).2 with
          | .queued _ => [event.wire]
          | _ => []
      | _ => []
  | _ => []

end Relay

namespace Depot

variable {σ : Type}

/-- A clip enters a queue only if the pass under way can no longer remove its blob's
file, and the pass lists the records only if it could not remove the file of a blob that
is queued by then. -/
def keepsPins (root : Path) (depot : Depot σ) : Work → Bool
  | .serve (some action) =>
      depot.pass.all fun pass =>
        (depot.relay.enqueues action).all fun event => !pass.reaches root event.blobID
  | .collect _ =>
      depot.pass.all fun pass =>
        decide (pass.stage ≠ .listing) ||
          depot.relay.daemon.store.allQueuedBlobIDs.all fun id =>
            !(pass.moved (.looping (.expiring
              depot.relay.daemon.store.listBlobEntries))).reaches root id
  | _ => true

end Depot

/-! ## What enters the queues -/

namespace Relay

variable {env : Env} {relay after : Relay} {action : Action}

theorem enqueues_of_store {id : DeviceID} {event : ClipEvent}
    (moves : relay.move id action = .store event) : event ∈ relay.enqueues action := by
  cases action with
  | routeDeliver now =>
      simp only [move] at moves
      split at moves
      next source routed settings target rest progress task =>
        split_ifs at moves
        split at moves
        next => cases moves
        next => cases moves
        next trimmed queued =>
          cases moves
          simp [enqueues, task, queued]
      next => cases moves
  | drain conn | requeue conn | takeFrame conn | wroteFrame conn | writeError conn =>
      simp only [move] at moves
      split_ifs at moves
  | registerDeliver =>
      simp only [move] at moves
      repeat' split at moves
      all_goals cases moves
  | _ => cases moves

theorem requeue_of_restore {id : DeviceID} {conn : ConnID}
    (moves : relay.move id action = .restore conn) :
    action = .requeue conn ∧ relay.owns conn id = true := by
  cases action with
  | requeue restored =>
      simp only [move] at moves
      split_ifs at moves with mine
      cases moves
      exact ⟨rfl, mine⟩
  | drain conn | takeFrame conn | wroteFrame conn | writeError conn =>
      simp only [move] at moves
      split_ifs at moves
  | registerDeliver | routeDeliver now =>
      simp only [move] at moves
      repeat' split at moves
      all_goals cases moves
  | _ => cases moves

/-- A step adds to the pin set only the blobs of the clips it puts into a queue. -/
theorem queued_of_step (keyed : relay.Keyed) (stepped : relay.step env action = some after)
    {blob : BlobID} (queued : blob ∈ after.daemon.store.allQueuedBlobIDs) :
    blob ∈ relay.daemon.store.allQueuedBlobIDs ∨
      ∃ event ∈ relay.enqueues action, event.blobID = blob := by
  obtain ⟨named, id, item, membership, refers⟩ := Store.mem_allQueuedBlobIDs _ |>.mp queued
  have inMailbox : item.event ∈ (after.mailbox id).queue :=
    List.mem_map_of_mem (f := QueueItem.event) membership
  have moved : (relay.mailbox id).Step (relay.move id action) (after.mailbox id) :=
    mailbox_step keyed stepped
  rcases moved.queue_origin inMailbox with
    old | stores | ⟨conn, link, rest, restores, found, next⟩
  · obtain ⟨older, there, same⟩ := List.mem_map.mp old
    exact .inl (Store.mem_allQueuedBlobIDs _ |>.mpr ⟨named, id, older, there, same ▸ refers⟩)
  · exact .inr ⟨item.event, enqueues_of_store stores, refers⟩
  · obtain ⟨rfl, mine⟩ := requeue_of_restore restores
    obtain ⟨connection, depth, first, others, there, session, -⟩ := requeue_some stepped
    rw [link_of_owner there ((owns_iff there).mp mine)] at found
    cases found
    have tail : first.event :: others.map (·.event) = item.event :: rest := by
      simpa [Connection.link, session, Session.tail] using next
    refine .inr ⟨item.event, ?_, refers⟩
    simp [enqueues, there, session, (List.cons.inj tail).1]

end Relay

namespace Depot

/-- No queued blob's file is ahead of the pass under way. -/
structure Clear (root : Path) (depot : Depot σ) : Prop where
  keyed : depot.relay.Keyed
  spared : ∀ pass, depot.pass = some pass →
    ∀ id ∈ depot.relay.daemon.store.allQueuedBlobIDs, pass.reaches root id = false

section Steps

variable {env : Env} {dir : BlobDirectory σ} {root : Path} {sorter : AccessSorter}
variable {depot after : Depot σ}

theorem Clear.boot (disk : σ) : (boot disk).Clear root where
  keyed := Relay.Keyed.boot .empty
  spared _ running := by cases running

/-- Without a pass nothing is ahead. -/
theorem Clear.of_idle (keyed : depot.relay.Keyed) (idle : depot.pass = none) :
    depot.Clear root where
  keyed
  spared pass running := by
    rw [idle] at running
    cases running

theorem serve_some {action : Action} (served : depot.serve env (some action) = some after) :
    ∃ relay, depot.relay.step env action = some relay ∧ after = { depot with relay } := by
  cases action with
  | collectBlob id => cases served
  | _ =>
      simp only [serve, Option.map_eq_some_iff] at served
      obtain ⟨relay, stepped, rfl⟩ := served
      exact ⟨relay, stepped, rfl⟩

theorem Clear.serve {action : Option Action} (clear : depot.Clear root)
    (keeps : depot.keepsPins root (.serve action) = true)
    (served : depot.serve env action = some after) : after.Clear root := by
  cases action with
  | none =>
      cases served
      exact .of_idle (Relay.Keyed.boot _) rfl
  | some action =>
      obtain ⟨relay, stepped, rfl⟩ := serve_some served
      refine ⟨clear.keyed.step stepped, fun pass running id queued => ?_⟩
      rcases Relay.queued_of_step clear.keyed stepped queued with old | ⟨event, enters, rfl⟩
      · exact clear.spared pass running id old
      · have still : depot.pass = some pass := running
        simp only [keepsPins, still, Option.all_some, List.all_eq_true] at keeps
        simpa using keeps event enters

theorem Clear.put {id : BlobID} {size : Int} (clear : depot.Clear root)
    (stored : depot.put dir root id size = some after) : after.Clear root := by
  rw [Depot.put] at stored
  split_ifs at stored
  obtain ⟨path, -, rfl⟩ := Option.map_eq_some_iff.mp stored
  split_ifs
  · exact clear
  · exact ⟨clear.keyed, clear.spared⟩

theorem Clear.begin {cfg : GCConfig} (clear : depot.Clear root)
    (begun : depot.begin cfg = some after) : after.Clear root := by
  rw [Depot.begin] at begun
  split at begun
  next =>
    cases begun
    refine ⟨clear.keyed, fun pass running id _ => ?_⟩
    cases running
    rfl
  next => cases begun

/-- A pass that goes on has nothing new ahead, unless it has just listed the records. -/
theorem Clear.continues {pass later : Pass} (clear : depot.Clear root)
    (keeps : depot.keepsPins root (.collect 0) = true) (running : depot.pass = some pass)
    (continues : Pass.Continues depot.relay.daemon.store pass later) {id : BlobID}
    (queued : id ∈ depot.relay.daemon.store.allQueuedBlobIDs) :
    later.reaches root id = false := by
  rcases continues with ⟨listing, rfl⟩ | shrinks
  · simp only [keepsPins, running, Option.all_some, listing, ne_eq, not_true_eq_false,
      decide_false, Bool.false_or, List.all_eq_true] at keeps
    simpa using keeps id queued
  · by_contra reached
    rw [Bool.not_eq_false] at reached
    have before := Pass.reaches_mono shrinks reached
    rw [clear.spared pass running id queued] at before
    cases before

theorem Clear.collect {measured : Int} (clear : depot.Clear root)
    (keeps : depot.keepsPins root (.collect measured) = true)
    (collected : depot.collect dir root sorter measured = some after) : after.Clear root := by
  obtain ⟨taken, stepped, rfl⟩ := Option.map_eq_some_iff.mp collected
  obtain ⟨pass, running, rfl⟩ := Option.map_eq_some_iff.mp stepped
  have goesOn : ∀ {later : Pass}, (pass.next dir.toFilesystem root sorter
      depot.relay.daemon.store depot.disk measured).pass? = some later →
      ∀ id ∈ depot.relay.daemon.store.allQueuedBlobIDs, later.reaches root id = false :=
    fun continues id queued => clear.continues keeps running (Pass.next_continues continues) queued
  split
  next later outcome =>
    refine ⟨clear.keyed, fun pass' now id queued => ?_⟩
    cases now
    exact goesOn (by rw [outcome]; rfl) id queued
  next path later outcome =>
    refine ⟨clear.keyed, fun pass' now id queued => ?_⟩
    cases now
    exact goesOn (by rw [outcome]; rfl) id queued
  next id later outcome =>
    have collects : Relay.step demoEnv depot.relay (.collectBlob id) =
        some (depot.relay.collectBlob id) := rfl
    refine ⟨clear.keyed.step collects, fun pass' now id queued => ?_⟩
    cases now
    exact goesOn (by rw [outcome]; rfl) id queued
  next => exact .of_idle clear.keyed rfl
  next => exact .of_idle (Relay.Keyed.boot _) rfl

theorem Clear.step {work : Work} (clear : depot.Clear root)
    (keeps : depot.keepsPins root work = true)
    (stepped : depot.step env dir root sorter work = some after) : after.Clear root := by
  cases work with
  | serve action => exact clear.serve keeps stepped
  | put id size => exact clear.put stepped
  | begin cfg => exact clear.begin stepped
  | collect measured => exact clear.collect keeps stepped

/-- What is removed was ahead. -/
theorem Clear.spares (clear : depot.Clear root) : depot.SparesQueued dir root sorter := by
  intro work path deleted id queued same
  cases work with
  | collect measured =>
      simp only [deletes] at deleted
      split at deleted
      next removed later taken =>
        split_ifs at deleted
        cases deleted
        obtain ⟨pass, running, stepped⟩ := Option.map_eq_some_iff.mp taken
        obtain ⟨candidate, ahead, found⟩ := Pass.next_removes stepped
        have reached := Pass.reaches_of_ahead ahead found same
        rw [clear.spared pass running id queued] at reached
        cases reached
      next => cases deleted
  | _ => cases deleted

end Steps

/-! ## A pass that nothing interrupts -/

section Alone

variable {env : Env} {dir : BlobDirectory σ} {root : Path} {sorter : AccessSorter}
variable {cfg : GCConfig} {pinned : List BlobID}

/-- The daemon during a pass. -/
def during (relay : Relay) (disk : σ) (cfg : GCConfig) (pinned : List BlobID)
    (survivors : List BlobEntry) (deleted : Nat) (stage : PassStage) : Depot σ :=
  ⟨relay, disk, some ⟨cfg, pinned, survivors, deleted, stage⟩⟩

theorem reachable_collect {depot after target : Depot σ} {measured : Int}
    (stepped : depot.collect dir root sorter measured = some after)
    (rest : Reachable (step env dir root sorter) after target) :
    Reachable (step env dir root sorter) depot target := by
  have taken : step env dir root sorter depot (.collect measured) = some after := stepped
  have first : Reachable (step env dir root sorter) depot after := .tail .refl trivial taken
  exact first.trans rest

section Steps

variable {relay : Relay} {disk : σ} {survivors : List BlobEntry} {deleted : Nat}
variable {target : Depot σ}

theorem reachable_goes {stage : PassStage} {later : Pass} (measured : Int)
    (goes : Pass.next dir.toFilesystem root sorter ⟨cfg, pinned, survivors, deleted, stage⟩
      relay.daemon.store disk measured = .goes later)
    (rest : Reachable (step env dir root sorter) ⟨relay, disk, some later⟩ target) :
    Reachable (step env dir root sorter)
      (during relay disk cfg pinned survivors deleted stage) target := by
  have stepped : (during relay disk cfg pinned survivors deleted stage).collect
      dir root sorter measured = some ⟨relay, disk, some later⟩ := by
    simp [Depot.collect, passStep, during, goes]
  exact reachable_collect stepped rest

/-- Deleting a record takes one step. -/
theorem reachable_forget {id : BlobID} {counted : Bool} {loop : PassLoop}
    (rest : Reachable (step env dir root sorter)
      (during (relay.collectBlob id) disk cfg pinned survivors
        (if counted then deleted + 1 else deleted) (.looping loop)) target) :
    Reachable (step env dir root sorter)
      (during relay disk cfg pinned survivors deleted (.forgetting id counted loop)) target := by
  have stepped : (during relay disk cfg pinned survivors deleted
      (.forgetting id counted loop)).collect dir root sorter 0 =
        some (during (relay.collectBlob id) disk cfg pinned survivors
          (if counted then deleted + 1 else deleted) (.looping loop)) := rfl
  exact reachable_collect stepped rest

/-- Dropping a blob takes two: its file, then its record. -/
theorem reachable_drop {id : BlobID} {path : Path} {loop : PassLoop}
    (found : pathFor root id = some path)
    (rest : Reachable (step env dir root sorter)
      (during (relay.collectBlob id) (dir.remove disk path) cfg pinned survivors (deleted + 1)
        (.looping loop)) target) :
    Reachable (step env dir root sorter)
      (during relay disk cfg pinned survivors deleted (.removing id loop)) target := by
  have stepped : (during relay disk cfg pinned survivors deleted (.removing id loop)).collect
      dir root sorter 0 = some (during relay (dir.remove disk path) cfg pinned survivors deleted
        (.forgetting id true loop)) := by
    simp [Depot.collect, passStep, during, Pass.next, Pass.moved, found]
  exact reachable_collect stepped (reachable_forget rest)

end Steps

theorem expireBlobs_alone (env : Env) (sorter : AccessSorter) {entries survivors : List BlobEntry}
    {state final : GCState σ}
    (passed : expireBlobs dir.toFilesystem root cfg pinned entries state =
      some (final, survivors)) {relay : Relay} (kept : List BlobEntry)
    (same : relay.daemon.store = state.store) :
    ∃ ended : Relay, ended.daemon.store = final.store ∧
      Reachable (step env dir root sorter)
        (during relay state.disk cfg pinned kept state.deleted (.looping (.expiring entries)))
        (during ended final.disk cfg pinned (kept ++ survivors) final.deleted
          (.looping (.expiring []))) := by
  induction entries generalizing state survivors relay kept with
  | nil =>
      cases passed
      exact ⟨relay, same, by simpa using Run.refl⟩
  | cons entry rest ih =>
      -- A kept entry costs one step of the pass and leaves the rest of the list.
      have survives :
          Pass.next dir.toFilesystem root sorter
            ⟨cfg, pinned, kept, state.deleted, .looping (.expiring (entry :: rest))⟩
            relay.daemon.store state.disk 0 =
              .goes ⟨cfg, pinned, kept ++ [entry], state.deleted, .looping (.expiring rest)⟩ →
          (expireBlobs dir.toFilesystem root cfg pinned rest state).bind
            (fun result => some (result.1, entry :: result.2)) = some (final, survivors) →
          ∃ ended : Relay, ended.daemon.store = final.store ∧
            Reachable (step env dir root sorter)
              (during relay state.disk cfg pinned kept state.deleted
                (.looping (.expiring (entry :: rest))))
              (during ended final.disk cfg pinned (kept ++ survivors) final.deleted
                (.looping (.expiring []))) := by
        intro goes continued
        obtain ⟨⟨later, others⟩, remaining, result⟩ := Option.bind_eq_some_iff.mp continued
        cases result
        obtain ⟨ended, store, reached⟩ := ih remaining (kept ++ [entry]) same
        refine ⟨ended, store, reachable_goes 0 goes ?_⟩
        simpa [during] using reached
      have forgotten : (relay.collectBlob entry.id).daemon.store =
          state.store.deleteBlobEntry entry.id := congrArg (·.deleteBlobEntry entry.id) same
      rw [expireBlobs] at passed
      split at passed
      next isPinned =>
        exact survives (by simp [Pass.next, isPinned, Pass.keep]) passed
      next unpinned =>
        obtain ⟨path, found, passed⟩ := Option.bind_eq_some_iff.mp passed
        split at passed
        next vanished =>
          obtain ⟨ended, store, reached⟩ := ih passed kept forgotten
          exact ⟨ended, store, reachable_goes 0
            (by simp only [Pass.next, unpinned, found, vanished, if_true, if_false]; rfl)
            (reachable_forget reached)⟩
        next present =>
          split at passed
          next idle =>
            obtain ⟨ended, store, reached⟩ := ih passed kept forgotten
            have expires : cfg.expires entry = true := decide_eq_true idle
            exact ⟨ended, store, reachable_goes 0
              (by simp only [Pass.next, unpinned, found, present, expires, if_true, if_false]; rfl)
              (reachable_drop found reached)⟩
          next fresh =>
            have lives : cfg.expires entry = false := decide_eq_false fresh
            exact survives (by simp [Pass.next, unpinned, found, present, lives, Pass.keep]) passed

theorem evictBlobs_alone (env : Env) (sorter : AccessSorter) (pinned : List BlobID)
    {entries : List BlobEntry} {usage : Int} {state final : GCState σ}
    (passed : evictBlobs dir.toFilesystem root cfg entries usage state = some final)
    {relay : Relay} (survivors : List BlobEntry) (same : relay.daemon.store = state.store) :
    ∃ ended : Relay, ended.daemon.store = final.store ∧
      Reachable (step env dir root sorter)
        (during relay state.disk cfg pinned survivors state.deleted
          (.looping (.evicting entries usage)))
        ⟨ended, final.disk, none⟩ := by
  induction entries generalizing state usage relay with
  | nil =>
      cases passed
      have returned : (during relay final.disk cfg pinned survivors final.deleted
          (.looping (.evicting [] usage))).collect dir root sorter 0 =
            some ⟨relay, final.disk, none⟩ := rfl
      exact ⟨relay, same, reachable_collect returned .refl⟩
  | cons entry rest ih =>
      rw [evictBlobs] at passed
      split at passed
      next under =>
        cases passed
        have returned : (during relay final.disk cfg pinned survivors final.deleted
            (.looping (.evicting (entry :: rest) usage))).collect dir root sorter 0 =
              some ⟨relay, final.disk, none⟩ := by
          simp [Depot.collect, passStep, during, Pass.next, under]
        exact ⟨relay, same, reachable_collect returned .refl⟩
      next exceeded =>
        obtain ⟨path, found, passed⟩ := Option.bind_eq_some_iff.mp passed
        have forgotten : (relay.collectBlob entry.id).daemon.store =
            (state.drop dir.toFilesystem entry.id path).store :=
          congrArg (·.deleteBlobEntry entry.id) same
        obtain ⟨ended, store, reached⟩ := ih passed forgotten
        refine ⟨ended, store, reachable_goes 0 ?_ (reachable_drop found reached)⟩
        simp only [Pass.next, exceeded, found, if_false]
        split_ifs <;> simp [Pass.moved]

/-- With nothing in between, a pass is `runGC`. -/
theorem runGC_alone (env : Env) {relay : Relay} {disk : σ} {final : GCState σ}
    (passed : runGC dir.toFilesystem root cfg sorter relay.daemon.store disk = some final) :
    ∃ ended : Relay, ended.daemon.store = final.store ∧
      Reachable (step env dir root sorter) ⟨relay, disk, none⟩ ⟨ended, final.disk, none⟩ := by
  obtain ⟨⟨state, survivors⟩, expired, passed⟩ := Option.bind_eq_some_iff.mp passed
  obtain ⟨halfway, store, reached⟩ := expireBlobs_alone env sorter expired [] rfl
  have begun : Reachable (step env dir root sorter) ⟨relay, disk, none⟩
      ⟨relay, disk, some (.start cfg relay.daemon.store)⟩ := by
    have took : step env dir root sorter ⟨relay, disk, none⟩ (.begin cfg) =
        some ⟨relay, disk, some (.start cfg relay.daemon.store)⟩ := rfl
    exact .tail .refl trivial took
  have expiring : ∀ {target : Depot σ}, Reachable (step env dir root sorter)
      (during halfway state.disk cfg relay.daemon.store.allQueuedBlobIDs ([] ++ survivors)
        state.deleted (.looping (.expiring []))) target →
      Reachable (step env dir root sorter) ⟨relay, disk, none⟩ target :=
    fun rest => begun.trans (reachable_goes 0 rfl (reached.trans rest))
  simp only at passed
  split_ifs at passed with exceeded
  · obtain ⟨ended, final, evicted⟩ := evictBlobs_alone env sorter
      relay.daemon.store.allQueuedBlobIDs passed survivors store
    refine ⟨ended, final, expiring (reachable_goes (dir.usage state.disk) ?_ evicted)⟩
    simp [Pass.next, Pass.moved, Pass.evictable, exceeded]
  · cases passed
    have returned : (during halfway final.disk cfg relay.daemon.store.allQueuedBlobIDs
        ([] ++ survivors) final.deleted (.looping (.expiring []))).collect dir root sorter
          (dir.usage final.disk) = some ⟨halfway, final.disk, none⟩ := by
      simp only [Depot.collect, passStep, during, Pass.next, exceeded, Option.map_some, if_false]
    exact ⟨halfway, store, expiring (reachable_collect returned .refl)⟩

end Alone

/-- In every run in which what enters the queues keeps clear of the pass under way, no
file of a queued blob is ever deleted. -/
theorem queued_blobs_spared {env : Env} {dir : BlobDirectory σ} {root : Path}
    {sorter : AccessSorter} {disk : σ} {depot : Depot σ}
    (run : Run (step env dir root sorter)
      (fun before work => before.keepsPins root work = true) (boot disk) depot) :
    depot.SparesQueued dir root sorter := by
  have clear : depot.Clear root := run.invariant (Clear.boot disk) fun inv keeps stepped =>
    inv.step keeps stepped
  exact clear.spares

/-! ## Concrete runs -/

open Relay (fileList blobRoot strictGC accessSorter)

/-- `fileList` with uploads. -/
def uploadList : BlobDirectory (List Path) where
  toFilesystem := fileList
  write files path _ := path :: files

/-- The digests `aa…` and `bb…`. -/
def sampleBlob (digit : Char) : BlobID := "sha256:" ++ String.ofList (List.replicate 64 digit)

/-- A client shares a blob with the second device and uploads it, if the server does not
have it. -/
def shareAndUpload (clip : String) (blob : BlobID) (now : Time) : List Work :=
  [.put blob 1, .serve (some (.touchBlob blob now 1 ""))] ++
    (Action.sendClip 0 (.sharing clip blob ["dev_b"]) 1).map fun action => .serve (some action)

/-- The second device leaves after a blob was shared with it, and a pass that finds the
blob idle is about to remove its file. -/
def idleBlobListed : List Work :=
  (Action.bothUp.map fun action => .serve (some action)) ++
    shareAndUpload "c1" (sampleBlob 'a') 2 ++
    [.serve (some (.unregister 1 3)), .begin strictGC, .collect 0, .collect 0]

/-- A client uploads the same content again while the pass is under way, which leaves the
file as it is, and shares it with the device that is now offline.  The pass removes the
file: for it the blob is idle and not pinned. -/
theorem pinned_blob_deleted :
    ¬∀ (env : Env) (dir : BlobDirectory (List Path)) (root : Path) (sorter : AccessSorter)
      (disk : List Path) (depot : Depot (List Path)),
      Reachable (step env dir root sorter) (boot disk) depot →
      depot.SparesQueued dir root sorter := by
  intro claim
  obtain ⟨depot, reached, checked⟩ := Reachable.exists_of_exec
    (step demoEnv uploadList blobRoot accessSorter) (boot [])
    (idleBlobListed ++ shareAndUpload "c2" (sampleBlob 'a') 100)
    (fun depot =>
      decide (depot.deletes uploadList blobRoot accessSorter (.collect 0) =
        pathFor blobRoot (sampleBlob 'a') ∧
      sampleBlob 'a' ∈ depot.relay.daemon.store.allQueuedBlobIDs))
    (by decide +kernel)
  obtain ⟨deleted, queued⟩ := of_decide_eq_true checked
  have spares := claim demoEnv uploadList blobRoot accessSorter [] depot reached
  obtain ⟨path, found⟩ : ∃ path, pathFor blobRoot (sampleBlob 'a') = some path :=
    Option.isSome_iff_exists.mp (by decide +kernel)
  exact spares (.collect 0) path (deleted.trans found) _ queued found

/-- With another blob the same pass is harmless: it deletes the idle file while the new
blob is queued. -/
theorem queued_blobs_spared_other :
    ∃ depot : Depot (List Path),
      (depot.deletes uploadList blobRoot accessSorter (.collect 0)).isSome = true ∧
      sampleBlob 'b' ∈ depot.relay.daemon.store.allQueuedBlobIDs ∧
      depot.SparesQueued uploadList blobRoot accessSorter := by
  obtain ⟨depot, run, checked⟩ := Run.exists_of_execWhen
    (step demoEnv uploadList blobRoot accessSorter) (keepsPins blobRoot) (boot [])
    (idleBlobListed ++ shareAndUpload "c2" (sampleBlob 'b') 100)
    (fun depot =>
      decide ((depot.deletes uploadList blobRoot accessSorter (.collect 0)).isSome = true ∧
        sampleBlob 'b' ∈ depot.relay.daemon.store.allQueuedBlobIDs))
    (by decide +kernel)
  obtain ⟨deletes, queued⟩ := of_decide_eq_true checked
  exact ⟨depot, deletes, queued, queued_blobs_spared run⟩

end Depot

end CopySync.Server
