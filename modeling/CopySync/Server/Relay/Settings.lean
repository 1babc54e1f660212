import CopySync.Server.Relay.Effect
import Mathlib.Data.List.Nodup

/-!
# The settings snapshot of the hub

`PUT /admin/settings` reads the settings, decodes the body over them, saves the
result, reads the settings again and puts what it read into the hub's atomic cache.
Any number of such requests overlap.  The read and the publication are two steps, so
a request can publish a snapshot that a later save has made outdated.

The requests drive the relay: saving, reading and publishing are its steps.
-/

namespace CopySync.Server

open Foundation

/-- Steps of the relay that only a settings request takes. -/
def Action.onSettings : Action → Bool
  | .putSettings _ | .loadSettings | .refreshSettings _ => true
  | _ => false

namespace Relay

section Steps

variable {env : Env} {relay after : Relay} {action : Action}

/-- The saved settings and the snapshots on their way to the cache. -/
abbrev saved (relay : Relay) : Option RuntimeSettings × List RuntimeSettings :=
  (relay.daemon.store.settings, relay.refreshing)

theorem saved_of_store {store : Store} (daemon : after.daemon.store = store)
    (same : store.settings = relay.daemon.store.settings)
    (refreshing : after.refreshing = relay.refreshing) :
    after.saved = relay.saved := by
  rw [saved, daemon, same, refreshing]

theorem updateLastSeen_settings (store : Store) (id : DeviceID) (now : Time) :
    (store.updateLastSeen id now).settings = store.settings := by
  rw [Store.updateLastSeen]
  split <;> rfl

theorem prepareRoute_settings (daemon : Daemon) (event : ClipEvent) (settings : RuntimeSettings)
    (now : Time) :
    (daemon.prepareRoute env event settings now).1.store.settings = daemon.store.settings := by
  simp only [Daemon.prepareRoute, Daemon.claimBlob]
  split_ifs <;> rfl

/-- One case analysis over all actions. -/
theorem saved_of_step (other : action.onSettings = false)
    (stepped : relay.step env action = some after) : after.saved = relay.saved := by
  cases action with
  | putSettings | loadSettings | refreshSettings => cases other
  | connect id token =>
      obtain ⟨device, -, rfl⟩ := connect_some stepped
      rfl
  | readSettings conn =>
      obtain ⟨connection, -, -, rfl⟩ := readSettings_some stepped
      rfl
  | drain conn =>
      obtain ⟨connection, settings, -, -, rfl⟩ := drain_some stepped
      refine saved_of_store rfl ?_ rfl
      rw [Store.drainQueue]
      split <;> rfl
  | requeue conn =>
      obtain ⟨connection, depth, item, rest, -, -, rfl⟩ := requeue_some stepped
      rfl
  | registerReturn conn =>
      obtain ⟨connection, depth, -, -, rfl⟩ := registerReturn_some stepped
      rfl
  | sendToken conn token =>
      obtain ⟨connection, -, -, rfl⟩ := sendToken_some stepped
      exact saved_of_store (Daemon.push_store ..) rfl rfl
  | ack conn =>
      obtain ⟨connection, payload, -, -, rfl⟩ := ack_some stepped
      exact saved_of_store (Daemon.push_store ..) rfl rfl
  | registerStart conn now =>
      obtain ⟨connection, settings, items, -, -, -, rfl⟩ := registerStart_some stepped
      exact saved_of_store (Daemon.enroll_store ..) (updateLastSeen_settings ..) rfl
  | registerDeliver =>
      obtain ⟨conn, connection, settings, item, rest, -, -, -, ⟨-, rfl⟩ | ⟨-, rfl⟩⟩ :=
        registerDeliver_some stepped
      · rfl
      · rfl
  | registerFinish =>
      obtain ⟨conn, connection, settings, rest, full, -, -, -, -, rfl⟩ :=
        registerFinish_some stepped
      exact saved_of_store (Daemon.broadcastPresence_store ..) rfl rfl
  | unregister conn now =>
      obtain ⟨connection, -, -, -, rfl⟩ := unregister_some stepped
      rcases Daemon.handleUnregister_store (relay.setSession conn connection .left).daemon conn
        connection.client.device now with same | seen
      · exact saved_of_store same rfl rfl
      · exact saved_of_store seen (updateLastSeen_settings ..) rfl
  | receiveClip conn event now =>
      obtain ⟨connection, -, -, -, ⟨payload, rfl⟩ | ⟨-, rfl⟩⟩ := receiveClip_some stepped
      · rfl
      · rfl
  | routeBroadcast index =>
      obtain ⟨event, -, -, rfl | ⟨-, rfl⟩⟩ := routeBroadcast_some stepped
      · rfl
      · rfl
  | routePrepare now =>
      obtain ⟨source, event, settings, -, rfl⟩ := routePrepare_some stepped
      exact saved_of_store rfl (prepareRoute_settings ..) rfl
  | routeDeliver now =>
      obtain ⟨source, event, settings, target, rest, progress, -, served, delivery, delivered,
        rfl⟩ := routeDeliver_some stepped
      rcases Daemon.deliverTo_cases _ _ delivered with
        ⟨-, -, rfl⟩ | ⟨-, conn, connection, -, -, -, -, rfl⟩ | ⟨-, base, -, -, rfl⟩
      · rfl
      · rfl
      · rfl
  | routeFinish =>
      obtain ⟨source, event, settings, progress, -, rfl | ⟨conn, connection, payload, -, -, -,
        rfl⟩⟩ := routeFinish_some stepped
      · rfl
      · rfl
  | setPool conn pool =>
      obtain ⟨-, rfl | ⟨connection, device, -, -, rfl⟩⟩ := setPool_some stepped
      · rfl
      · rfl
  | storePool =>
      obtain ⟨device, pool, -, rfl⟩ := storePool_some stepped
      exact saved_of_store (Daemon.storePool_store ..) rfl rfl
  | requestBlob blob =>
      rw [requestBlob_some stepped]
      exact saved_of_store (Daemon.handleBlobRequest_store ..) rfl rfl
  | evict id =>
      obtain ⟨-, -, rfl⟩ := evict_some stepped
      exact saved_of_store (Daemon.handleEvict_store ..) rfl rfl
  | takeFrame conn =>
      obtain ⟨connection, frame, rest, -, -, -, rfl⟩ := takeFrame_some stepped
      rfl
  | wroteFrame conn =>
      obtain ⟨connection, frame, -, -, rfl⟩ := wroteFrame_some stepped
      rfl
  | writeError conn =>
      obtain ⟨connection, frame, -, -, rfl⟩ := writeError_some stepped
      rfl
  | stopPump conn =>
      obtain ⟨connection, -, -, rfl⟩ := stopPump_some stepped
      rfl
  | broadcast id text now =>
      rw [broadcast_some stepped]
  | claimPairing code suffix name platform token now =>
      rw [claimPairing_some stepped]
      simp only [TokenOp.apply]
      split
      next store claimed =>
        obtain ⟨entry, -, -, -, -, rfl⟩ := Store.claimPairing_ok claimed
        rfl
      next => rfl
  | rotateToken op =>
      obtain ⟨tokens, tokenIndex, rfl⟩ := rotateToken_store stepped
      rfl
  | purgeQueues now =>
      cases stepped
      refine saved_of_store rfl ?_ rfl
      simp only [purgeQueues, record, withStore, Store.purgeExpiredQueueItems]
      split_ifs <;> rfl
  | touchBlob blob now size mime =>
      obtain ⟨-, rfl⟩ := touchBlob_some stepped
      rfl
  | deleteDevice | putPairing | purgePairing | collectBlob =>
      cases stepped
      rfl

end Steps

end Relay

/-! ## Requests -/

/-- Where a `PUT /admin/settings` request stands: before its first read, with the settings
it decodes the body over, saved, with its snapshot read, and answered. -/
inductive PutStage where
  | arrived
  | decoding (current : RuntimeSettings)
  | saved
  | holding
  | returned
  deriving DecidableEq, Repr

/-- A request whose body is what decoding it over given settings yields, or fails with. -/
structure PutRequest where
  body : RuntimeSettings → Option RuntimeSettings
  stage : PutStage

/-- The relay with the settings requests of its process.  `holders` lists, for each
snapshot on its way to the cache, the request that read it. -/
structure Admin where
  relay : Relay
  requests : List PutRequest
  holders : List Nat

inductive AdminAction where
  | arrive (body : RuntimeSettings → Option RuntimeSettings)
  | getSettings (request : Nat)
  | putSettings (request : Nat)
  | load (request : Nat)
  | publish (request : Nat)
  | server (action : Action)
  | restart

namespace Admin

def start (store : Store) : Admin := ⟨.boot store, [], []⟩

/-- The settings on disk. -/
abbrev stored (admin : Admin) : RuntimeSettings := admin.relay.daemon.store.getSettings

/-- The snapshot that `Hub.Settings` returns. -/
abbrev cached (admin : Admin) : RuntimeSettings := admin.relay.daemon.hub.settings

def setStage (admin : Admin) (request : Nat) (stage : PutStage) : Admin :=
  { admin with requests := admin.requests.modify request fun found => { found with stage } }

def stage? (admin : Admin) (request : Nat) : Option PutStage :=
  admin.requests[request]?.map (·.stage)

/-- One step of a request, or of anything else in the process. -/
def step (env : Env) (admin : Admin) : AdminAction → Option Admin
  | .arrive body => some { admin with requests := admin.requests ++ [⟨body, .arrived⟩] }
  | .getSettings request =>
      match admin.stage? request with
      | some .arrived => some (admin.setStage request (.decoding admin.stored))
      | _ => none
  | .putSettings request =>
      match admin.requests[request]? with
      | some ⟨body, .decoding current⟩ =>
          match body current with
          | none => some (admin.setStage request .returned)
          | some settings =>
              (admin.relay.step env (.putSettings settings)).map fun relay =>
                { admin.setStage request .saved with relay }
      | _ => none
  | .load request =>
      match admin.stage? request with
      | some .saved =>
          (admin.relay.step env .loadSettings).map fun relay =>
            { admin.setStage request .holding with
              relay
              holders := admin.holders ++ [request] }
      | _ => none
  | .publish request =>
      match admin.stage? request, admin.holders.idxOf? request with
      | some .holding, some index =>
          (admin.relay.step env (.refreshSettings index)).map fun relay =>
            { admin.setStage request .returned with
              relay
              holders := admin.holders.eraseIdx index }
      | _, _ => none
  | .server action =>
      if action.onSettings then none
      else (admin.relay.step env action).map fun relay => { admin with relay }
  | .restart => some ⟨admin.relay.restart, [], []⟩

/-- Every request has been answered. -/
def Quiescent (admin : Admin) : Prop := ∀ request ∈ admin.requests, request.stage = .returned

/-- Some request saved and has still to read what is stored. -/
def Unread (admin : Admin) : Prop := ∃ request, admin.stage? request = some .saved

/-- The current settings will still be published: a request has to read them, or holds
them. -/
def Underway (admin : Admin) : Prop := admin.Unread ∨ admin.stored ∈ admin.relay.refreshing

/-! ### What a step does -/

/-- A step as the snapshots see it. -/
inductive Change (admin after : Admin) : AdminAction → Prop where
  | move {action : AdminAction} {request : Nat} {stage : PutStage}
      (quiet : ∀ other, action ≠ .publish other)
      (from_ : admin.stage? request ≠ some .saved ∧ admin.stage? request ≠ some .holding)
      (to_ : stage ≠ .saved ∧ stage ≠ .holding)
      (same : after = admin.setStage request stage) : Change admin after action
  | arrive {body : RuntimeSettings → Option RuntimeSettings}
      (same : after = { admin with requests := admin.requests ++ [⟨body, .arrived⟩] }) :
      Change admin after (.arrive body)
  | save {request : Nat} {current : RuntimeSettings}
      (stage : admin.stage? request = some (.decoding current))
      (moved : after.requests = (admin.setStage request .saved).requests)
      (holders : after.holders = admin.holders)
      (refreshing : after.relay.refreshing = admin.relay.refreshing) :
      Change admin after (.putSettings request)
  | load {request : Nat} (stage : admin.stage? request = some .saved)
      (moved : after.requests = (admin.setStage request .holding).requests)
      (holders : after.holders = admin.holders ++ [request]) (stored : after.stored = admin.stored)
      (cached : after.cached = admin.cached)
      (refreshing : after.relay.refreshing = admin.relay.refreshing ++ [admin.stored]) :
      Change admin after (.load request)
  | publish {request index : Nat} {snapshot : RuntimeSettings}
      (stage : admin.stage? request = some .holding)
      (position : admin.holders.idxOf? request = some index)
      (snapshot_ : admin.relay.refreshing[index]? = some snapshot)
      (moved : after.requests = (admin.setStage request .returned).requests)
      (holders : after.holders = admin.holders.eraseIdx index)
      (stored : after.stored = admin.stored) (cached : after.cached = snapshot)
      (refreshing : after.relay.refreshing = admin.relay.refreshing.eraseIdx index) :
      Change admin after (.publish request)
  | server {action : Action} (requests : after.requests = admin.requests)
      (holders : after.holders = admin.holders) (stored : after.stored = admin.stored)
      (cached : after.cached = admin.cached)
      (refreshing : after.relay.refreshing = admin.relay.refreshing) :
      Change admin after (.server action)
  | restart (same : after = ⟨admin.relay.restart, [], []⟩) : Change admin after .restart

section Steps

variable {env : Env} {admin after : Admin}

theorem server_change {action : Action}
    (stepped : admin.step env (.server action) = some after) :
    Change admin after (.server action) := by
  simp only [step] at stepped
  split_ifs at stepped with settings
  obtain ⟨relay, taken, rfl⟩ := Option.map_eq_some_iff.mp stepped
  have other : action.onSettings = false := Bool.eq_false_of_not_eq_true settings
  obtain ⟨store, refreshing⟩ := Prod.mk.inj (Relay.saved_of_step other taken)
  refine .server rfl rfl (by rw [stored, Store.getSettings, store]; rfl) ?_ refreshing
  rcases (Relay.effect_of_step taken).settings with same | ⟨index, rfl, -⟩
  · exact same
  · cases other

/-- One case analysis over all actions. -/
theorem change_of_step {action : AdminAction} (stepped : admin.step env action = some after) :
    Change admin after action := by
  cases action with
  | server action => exact server_change stepped
  | arrive body =>
      cases stepped
      exact .arrive rfl
  | restart =>
      cases stepped
      exact .restart rfl
  | getSettings request =>
      simp only [step] at stepped
      split at stepped
      next stage =>
        cases stepped
        exact .move (by simp) (by simp [stage]) (by simp) rfl
      next => cases stepped
  | putSettings request =>
      simp only [step] at stepped
      split at stepped
      next body current found =>
        have stage : admin.stage? request = some (.decoding current) := by
          simp [stage?, found]
        split at stepped
        next =>
          cases stepped
          exact .move (by simp) (by simp [stage]) (by simp) rfl
        next settings decoded =>
          obtain ⟨relay, taken, rfl⟩ := Option.map_eq_some_iff.mp stepped
          cases taken
          exact .save stage rfl rfl rfl
      next => cases stepped
  | load request =>
      simp only [step] at stepped
      split at stepped
      next stage =>
        obtain ⟨relay, taken, rfl⟩ := Option.map_eq_some_iff.mp stepped
        cases taken
        exact .load stage rfl rfl rfl rfl rfl
      next => cases stepped
  | publish request =>
      simp only [step] at stepped
      split at stepped
      next index stage position =>
        obtain ⟨relay, taken, rfl⟩ := Option.map_eq_some_iff.mp stepped
        obtain ⟨snapshot, found, rfl⟩ := Relay.refreshSettings_some taken
        exact .publish stage position found rfl rfl rfl rfl rfl
      next => cases stepped

end Steps

/-! ### Runs -/

/-- Each snapshot on its way is held by one request that is at that stage. -/
structure Matched (admin : Admin) : Prop where
  held : ∀ request ∈ admin.holders, admin.stage? request = some .holding
  distinct : admin.holders.Nodup
  paired : admin.holders.length = admin.relay.refreshing.length

/-- The cache is current, or the current settings will still be published. -/
def Current (admin : Admin) : Prop := admin.cached = admin.stored ∨ admin.Underway

/-- The request about to publish is not the last that could make the cache current while
its own snapshot is outdated. -/
def Timely (admin : Admin) (action : AdminAction) : Prop :=
  ∀ request, action = .publish request → admin.Underway

section Runs

variable {env : Env} {admin after : Admin} {action : AdminAction}

theorem stage?_setStage (admin : Admin) (request query : Nat) (stage : PutStage) :
    (admin.setStage request stage).stage? query =
      if request = query then (admin.stage? query).map fun _ => stage
      else admin.stage? query := by
  rw [stage?, setStage, List.getElem?_modify, stage?]
  split_ifs <;> cases admin.requests[query]? <;> rfl

theorem stage?_of_requests (requests : after.requests = admin.requests) (query : Nat) :
    after.stage? query = admin.stage? query := by
  rw [stage?, stage?, requests]

/-- A stage of another request does not matter. -/
theorem stage?_kept {request query : Nat} {stage found : PutStage}
    (moved : after.requests = (admin.setStage request stage).requests)
    (at_ : admin.stage? query = some found) (other : admin.stage? request ≠ some found) :
    after.stage? query = some found := by
  rw [stage?_of_requests moved, stage?_setStage, if_neg, at_]
  rintro rfl
  exact other at_

theorem Matched.start (store : Store) : (Admin.start store).Matched where
  held := by simp [Admin.start]
  distinct := List.nodup_nil
  paired := rfl

theorem Matched.step (inv : admin.Matched) (stepped : admin.step env action = some after) :
    after.Matched := by
  have change := change_of_step stepped
  cases change with
  | move _ from_ to_ same =>
      subst same
      exact ⟨fun holder member => stage?_kept rfl (inv.held holder member) from_.2, inv.distinct,
        inv.paired⟩
  | arrive same =>
      subst same
      refine ⟨fun holder member => ?_, inv.distinct, inv.paired⟩
      have stage := inv.held holder member
      rw [stage?, Option.map_eq_some_iff] at stage ⊢
      obtain ⟨request, found, holds⟩ := stage
      exact ⟨request, List.getElem?_append_left (List.getElem?_eq_some_iff.mp found).1 ▸ found,
        holds⟩
  | save stage moved holders refreshing =>
      refine ⟨fun holder member => ?_, holders ▸ inv.distinct, ?_⟩
      · exact stage?_kept moved (inv.held holder (holders ▸ member)) (by simp [stage])
      · rw [holders, refreshing, inv.paired]
  | @load request stage moved holders _ _ refreshing =>
      have fresh : request ∉ admin.holders := by
        intro member
        cases stage.symm.trans (inv.held request member)
      refine ⟨fun holder member => ?_, ?_, ?_⟩
      · rw [holders, List.mem_append, List.mem_singleton] at member
        rcases member with old | rfl
        · exact stage?_kept moved (inv.held holder old) (by simp [stage])
        · rw [stage?_of_requests moved, stage?_setStage, if_pos rfl, stage]
          rfl
      · rw [holders, List.nodup_append]
        exact ⟨inv.distinct, List.pairwise_singleton _ _, fun holder old other new => by
          rintro rfl
          exact fresh (List.mem_singleton.mp new ▸ old)⟩
      · simp [holders, refreshing, inv.paired]
  | @publish request index snapshot stage position _ moved holders _ _ refreshing =>
      obtain ⟨inside, at_, -⟩ := List.idxOf?_eq_some_iff.mp position
      refine ⟨fun holder member => ?_, holders ▸ inv.distinct.eraseIdx _, ?_⟩
      · rw [holders, List.mem_eraseIdx_iff_getElem?] at member
        obtain ⟨place, elsewhere, found⟩ := member
        have other : request ≠ holder := by
          rintro rfl
          have bound := (List.getElem?_eq_some_iff.mp found).1
          have same := (List.getElem?_eq_some_iff.mp found).2
          exact elsewhere ((List.Nodup.getElem_inj_iff inv.distinct).mp (same.trans at_.symm))
        rw [stage?_of_requests moved, stage?_setStage, if_neg other]
        exact inv.held holder (List.mem_of_getElem? found)
      · have room : index < admin.relay.refreshing.length := inv.paired ▸ inside
        rw [holders, refreshing, List.length_eraseIdx_of_lt inside,
          List.length_eraseIdx_of_lt room, inv.paired]
  | server requests holders _ _ refreshing =>
      refine ⟨fun holder member => ?_, holders ▸ inv.distinct, ?_⟩
      · rw [stage?_of_requests requests]
        exact inv.held holder (holders ▸ member)
      · rw [holders, refreshing, inv.paired]
  | restart same =>
      subst same
      exact ⟨by simp, List.nodup_nil, rfl⟩

/-- A timely step keeps the cache current, or on its way to it. -/
theorem Current.step (current : admin.Current) (timely : admin.Timely action)
    (stepped : admin.step env action = some after) : after.Current := by
  have change := change_of_step stepped
  cases change with
  | move _ from_ to_ same =>
      subst same
      rcases current with agreed | ⟨request, unread⟩ | underway
      · exact .inl agreed
      · exact .inr (.inl ⟨request, stage?_kept rfl unread from_.1⟩)
      · exact .inr (.inr underway)
  | arrive same =>
      subst same
      rcases current with agreed | ⟨request, unread⟩ | underway
      · exact .inl agreed
      · rw [stage?, Option.map_eq_some_iff] at unread
        obtain ⟨body, found, saved⟩ := unread
        refine .inr (.inl ⟨request, ?_⟩)
        rw [stage?, List.getElem?_append_left (List.getElem?_eq_some_iff.mp found).1, found,
          Option.map_some, saved]
      · exact .inr (.inr underway)
  | @save request read stage moved _ _ =>
      refine .inr (.inl ⟨request, ?_⟩)
      rw [stage?_of_requests moved, stage?_setStage, if_pos rfl, stage]
      rfl
  | load _ _ _ stored _ refreshing =>
      right
      right
      simp [stored, refreshing]
  | @publish request index snapshot stage _ held moved _ stored cached refreshing =>
      rcases timely request rfl with ⟨waiting, unread⟩ | underway
      · exact .inr (.inl ⟨waiting, stage?_kept moved unread (by simp [stage])⟩)
      · by_cases fresh : snapshot = admin.stored
        · exact .inl (by rw [cached, stored, fresh])
        · right
          right
          rw [stored, refreshing, List.mem_eraseIdx_iff_getElem?]
          obtain ⟨place, found⟩ := List.mem_iff_getElem?.mp underway
          refine ⟨place, ?_, found⟩
          rintro rfl
          cases held.symm.trans found
          exact fresh rfl
  | server requests _ stored cached refreshing =>
      rcases current with agreed | ⟨request, unread⟩ | underway
      · exact .inl (by rw [cached, stored, agreed])
      · exact .inr (.inl ⟨request, by rwa [stage?_of_requests requests]⟩)
      · exact .inr (.inr (by rwa [stored, refreshing]))
  | restart same =>
      subst same
      exact .inl rfl

/-- Nothing is underway once every request has been answered. -/
theorem Matched.settled (inv : admin.Matched) (quiescent : admin.Quiescent) :
    ¬admin.Underway := by
  have stages : ∀ request stage, admin.stage? request = some stage → stage = .returned := by
    intro request stage at_
    rw [stage?, Option.map_eq_some_iff] at at_
    obtain ⟨found, member, rfl⟩ := at_
    exact quiescent found (List.mem_of_getElem? member)
  rintro (⟨request, unread⟩ | underway)
  · cases stages request .saved unread
  · have nobody : admin.holders = [] := by
      by_contra some_
      obtain ⟨holder, member⟩ := List.exists_mem_of_ne_nil _ some_
      cases stages holder .holding (inv.held holder member)
    have empty := inv.paired
    rw [nobody, List.length_nil] at empty
    rw [List.length_eq_zero_iff.mp empty.symm] at underway
    cases underway

/-- The cache is outdated and nothing on its way will change that. -/
def Stuck (admin : Admin) : Prop := admin.cached ≠ admin.stored ∧ ¬admin.Underway

/-- An untimely publication gets the cache stuck. -/
theorem stuck_of_untimely {request : Nat} (untimely : ¬admin.Underway)
    (stepped : admin.step env (.publish request) = some after) : after.Stuck := by
  have change := change_of_step stepped
  cases change with
  | move quiet => exact absurd rfl (quiet request)
  | @publish _ index snapshot stage _ held moved _ stored cached refreshing =>
      have outdated : snapshot ≠ admin.stored := by
        rintro rfl
        exact untimely (.inr (List.mem_of_getElem? held))
      refine ⟨by rw [cached, stored]; exact outdated, ?_⟩
      rintro (⟨waiting, unread⟩ | underway)
      · rw [stage?_of_requests moved, stage?_setStage] at unread
        split_ifs at unread
        · obtain ⟨_, -, same⟩ := Option.map_eq_some_iff.mp unread
          cases same
        · exact untimely (.inl ⟨waiting, unread⟩)
      · rw [stored, refreshing] at underway
        exact untimely (.inr (List.mem_of_mem_eraseIdx underway))

/-- Steps that save nothing, in the same process. -/
def SavesNothing (_ : Admin) : AdminAction → Prop
  | .putSettings _ | .restart => False
  | _ => True

/-- Only another save helps. -/
theorem Stuck.step (stuck : admin.Stuck) (nothing : admin.SavesNothing action)
    (stepped : admin.step env action = some after) : after.Stuck := by
  obtain ⟨outdated, idle⟩ := stuck
  have change := change_of_step stepped
  cases change with
  | @move _ request stage _ _ to_ same =>
      subst same
      refine ⟨outdated, ?_⟩
      rintro (⟨waiting, unread⟩ | underway)
      · rw [stage?_setStage] at unread
        split_ifs at unread
        · obtain ⟨_, -, saved⟩ := Option.map_eq_some_iff.mp unread
          exact to_.1 saved
        · exact idle (.inl ⟨waiting, unread⟩)
      · exact idle (.inr underway)
  | arrive same =>
      subst same
      refine ⟨outdated, ?_⟩
      rintro (⟨waiting, unread⟩ | underway)
      · rw [stage?, Option.map_eq_some_iff] at unread
        obtain ⟨request, found, saved⟩ := unread
        rcases List.mem_append.mp (List.mem_of_getElem? found) with old | new
        · obtain ⟨place, at_⟩ := List.mem_iff_getElem?.mp old
          exact idle (.inl ⟨place, by rw [stage?, at_, Option.map_some, saved]⟩)
        · cases List.mem_singleton.mp new
          cases saved
      · exact idle (.inr underway)
  | save => cases nothing
  | load stage => exact absurd (.inl ⟨_, stage⟩) idle
  | publish => exact stuck_of_untimely idle stepped
  | server requests _ stored cached refreshing =>
      refine ⟨by rwa [cached, stored], ?_⟩
      rintro (⟨waiting, unread⟩ | underway)
      · exact idle (.inl ⟨waiting, by rwa [stage?_of_requests requests] at unread⟩)
      · exact idle (.inr (by rwa [stored, refreshing] at underway))
  | restart => cases nothing

end Runs

/-- Whatever runs besides and over restarts: while no request publishes when neither a
request has still to read the saved settings nor a snapshot on its way equals them, the
hub's snapshot is what is stored as soon as all requests have been answered.  A
publication at another moment leaves an outdated snapshot until the next save. -/
theorem settings_agree_iff (env : Env) (store : Store) :
    (∀ admin : Admin, Run (Admin.step env) Timely (Admin.start store) admin →
      admin.Quiescent → admin.cached = admin.stored) ∧
    ∀ (admin after later : Admin) (request : Nat), ¬admin.Underway →
      admin.step env (.publish request) = some after →
      Run (Admin.step env) SavesNothing after later → later.cached ≠ later.stored := by
  constructor
  · intro admin run quiescent
    have matched : admin.Matched :=
      run.invariant (Matched.start store) fun inv _ stepped => inv.step stepped
    have current : admin.Current :=
      run.invariant (.inl rfl) fun current timely stepped => current.step timely stepped
    exact current.resolve_right (matched.settled quiescent)
  · intro admin after later request untimely stepped rest
    have stuck : later.Stuck :=
      rest.invariant (stuck_of_untimely untimely stepped) fun stuck nothing stepped =>
        stuck.step nothing stepped
    exact stuck.1

instance (admin : Admin) : Decidable admin.Quiescent :=
  inferInstanceAs (Decidable (∀ request ∈ admin.requests, request.stage = .returned))

/-- Two overlapping requests: the first changes the queue depth, the second switches
end-to-end encryption on. -/
def overlapping (last : List AdminAction) : List AdminAction :=
  [.arrive fun settings => some { settings with queueDepthPerDevice := 50 },
    .arrive fun settings => some { settings with e2eEnabled := true },
    .getSettings 0, .putSettings 0, .load 0, .getSettings 1, .putSettings 1, .load 1] ++ last

/-- The first request publishes its snapshot after the second one: the hub does not
enforce the encryption that is switched on. -/
theorem outdated_publication :
    ¬∀ (env : Env) (store : Store) (admin : Admin),
      Reachable (Admin.step env) (Admin.start store) admin → admin.Quiescent →
      admin.cached = admin.stored := by
  intro claim
  obtain ⟨admin, reached, checked⟩ := Reachable.exists_of_exec (Admin.step demoEnv)
    (Admin.start .empty) (overlapping [.publish 1, .publish 0])
    (fun admin => decide admin.Quiescent && admin.stored.e2eEnabled &&
      !admin.cached.e2eEnabled) (by decide +kernel)
  simp only [Bool.and_eq_true, decide_eq_true_eq, Bool.not_eq_true'] at checked
  obtain ⟨⟨quiescent, on⟩, off⟩ := checked
  rw [claim demoEnv .empty admin reached quiescent, on] at off
  cases off

/-- `Timely` as a check. -/
def timely (admin : Admin) : AdminAction → Bool
  | .publish _ => admin.requests.any (fun request => decide (request.stage = .saved)) ||
      decide (admin.stored ∈ admin.relay.refreshing)
  | _ => true

theorem timely_sound {admin : Admin} {action : AdminAction}
    (checked : admin.timely action = true) : admin.Timely action := by
  rintro request rfl
  rcases Bool.or_eq_true_iff.mp checked with unread | underway
  · obtain ⟨found, member, saved⟩ := List.any_eq_true.mp unread
    obtain ⟨place, at_⟩ := List.mem_iff_getElem?.mp member
    exact .inl ⟨place, by rw [stage?, at_, Option.map_some, of_decide_eq_true saved]⟩
  · exact .inr (of_decide_eq_true underway)

/-- The same two requests publish in the order in which they read. -/
theorem settings_agree_in_order :
    ∃ admin : Admin, admin.Quiescent ∧ admin.stored.e2eEnabled = true ∧
      admin.cached = admin.stored := by
  obtain ⟨admin, run, checked⟩ := Run.exists_of_execWhen (Admin.step demoEnv) timely
    (Admin.start .empty) (overlapping [.publish 0, .publish 1])
    (fun admin => decide admin.Quiescent && admin.stored.e2eEnabled) (by decide +kernel)
  obtain ⟨quiescent, on⟩ := Bool.and_eq_true_iff.mp checked
  exact ⟨admin, of_decide_eq_true quiescent, on,
    (settings_agree_iff demoEnv .empty).1 admin (run.mono fun admitted => timely_sound admitted)
      (of_decide_eq_true quiescent)⟩

end Admin

end CopySync.Server
