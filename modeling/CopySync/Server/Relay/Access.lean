import CopySync.Server.Relay.Effect
import Mathlib.Data.List.Induction

/-!
# Who may fetch a blob

Access to a blob is granted by the claim of a routed clip: the origin and the
resolved targets are written to the hub's access list and to the blob's record.
The in-memory list is pruned when its origin disconnects and lost with the process;
the record keeps the last accepted claim until the blob is collected.

The log says what the last accepted claim was, so the record can be read off it.
-/

namespace CopySync.Server

open Foundation

/-! ## The access a log grants -/

/-- Origin and recipients of the last accepted claim, updated by one fact. -/
def Fact.grant (blob : BlobID) (current : Option (DeviceID × List DeviceID)) :
    Fact → Option (DeviceID × List DeviceID)
  | .routed event targets true =>
      if event.blobID = blob then some (event.originDevice, allowedList event targets)
      else current
  | .collected id => if id = blob then none else current
  | _ => current

/-- Origin and recipients of the last accepted claim of a blob since its record was
last collected. -/
def granted (blob : BlobID) (log : List Fact) : Option (DeviceID × List DeviceID) :=
  log.foldl (Fact.grant blob) none

section Granted

variable {blob : BlobID} {log facts : List Fact}

theorem foldl_grant_of_quiet (quiet : ∀ fact ∈ facts, fact.onBlobs = false)
    (current : Option (DeviceID × List DeviceID)) :
    facts.foldl (Fact.grant blob) current = current := by
  induction facts with
  | nil => rfl
  | cons fact rest ih =>
      obtain ⟨head, others⟩ := List.forall_mem_cons.mp quiet
      have same : Fact.grant blob current fact = current := by
        cases fact with
        | routed | collected => cases head
        | clip | deleted => rfl
      rw [List.foldl_cons, same, ih others]

theorem granted_append_of_quiet (quiet : ∀ fact ∈ facts, fact.onBlobs = false) :
    granted blob (log ++ facts) = granted blob log := by
  rw [granted, List.foldl_append, foldl_grant_of_quiet quiet]
  rfl

theorem granted_concat (fact : Fact) :
    granted blob (log ++ [fact]) = Fact.grant blob (granted blob log) fact := by
  simp [granted]

/-- What is granted was claimed by a routed clip. -/
theorem routed_of_granted {origin : DeviceID} {allowed : List DeviceID}
    (grant : granted blob log = some (origin, allowed)) :
    ∃ event targets, .routed event targets true ∈ log ∧ event.blobID = blob ∧
      origin = event.originDevice ∧ allowed = allowedList event targets := by
  induction log using List.reverseRecOn with
  | nil => cases grant
  | append_singleton log fact ih =>
      have inherit : granted blob log = some (origin, allowed) →
          ∃ event targets, .routed event targets true ∈ log ++ [fact] ∧ event.blobID = blob ∧
            origin = event.originDevice ∧ allowed = allowedList event targets := by
        intro old
        obtain ⟨event, targets, recorded, rest⟩ := ih old
        exact ⟨event, targets, List.mem_append_left _ recorded, rest⟩
      rw [granted_concat] at grant
      cases fact with
      | routed event targets claimed =>
          cases claimed with
          | false => exact inherit grant
          | true =>
              simp only [Fact.grant] at grant
              split_ifs at grant with same
              · cases grant
                exact ⟨event, targets, by simp, same, rfl, rfl⟩
              · exact inherit grant
      | collected id =>
          simp only [Fact.grant] at grant
          split_ifs at grant
          exact inherit grant
      | clip | deleted => exact inherit grant

/-- A recipient stays one as long as every accepted claim names it and the record is
not collected. -/
theorem foldl_grant_keeps {dev : DeviceID} {current : Option (DeviceID × List DeviceID)}
    (listed : ∃ origin allowed, current = some (origin, allowed) ∧ dev ∈ allowed)
    (claims : ∀ event targets, .routed event targets true ∈ facts → event.blobID = blob →
      dev ∈ allowedList event targets)
    (kept : .collected blob ∉ facts) :
    ∃ origin allowed, facts.foldl (Fact.grant blob) current = some (origin, allowed) ∧
      dev ∈ allowed := by
  induction facts generalizing current with
  | nil => exact listed
  | cons fact rest ih =>
      have laterClaims : ∀ event targets, .routed event targets true ∈ rest →
          event.blobID = blob → dev ∈ allowedList event targets := fun event targets recorded =>
        claims event targets (List.mem_cons_of_mem _ recorded)
      refine ih ?_ laterClaims (fun collected => kept (List.mem_cons_of_mem _ collected))
      cases fact with
      | routed event targets claimed =>
          cases claimed with
          | false => exact listed
          | true =>
              simp only [Fact.grant]
              split_ifs with same
              · exact ⟨_, _, rfl, claims event targets List.mem_cons_self same⟩
              · exact listed
      | collected id =>
          have other : id ≠ blob := fun same => kept (same ▸ List.mem_cons_self)
          simpa [Fact.grant, other] using listed
      | clip | deleted => exact listed

end Granted

/-! ## Recipients -/

theorem mem_addAllowed {allowed : List DeviceID} {id dev : DeviceID} :
    dev ∈ addAllowed allowed id ↔ dev ∈ allowed ∨ dev = id := by
  rw [addAllowed]
  split_ifs with present
  · exact ⟨.inl, fun either => either.elim (fun old => old) (fun same => same ▸ present)⟩
  · simp

theorem mem_foldl_addAllowed {ids allowed : List DeviceID} {dev : DeviceID} :
    dev ∈ ids.foldl addAllowed allowed ↔ dev ∈ allowed ∨ dev ∈ ids := by
  induction ids generalizing allowed with
  | nil => simp
  | cons id rest ih => simp [ih, mem_addAllowed, or_assoc]

/-- A claim allows the origin and the targets of the clip. -/
theorem mem_allowedList {event : ClipEvent} {targets : List Device} {dev : DeviceID} :
    dev ∈ allowedList event targets ↔
      dev = event.originDevice ∨ dev ∈ targets.map (·.id) := by
  simp [allowedList, mem_foldl_addAllowed, mem_addAllowed]

namespace Relay

/-! ## Bookkeeping and log -/

/-- Access lists and holders in memory come from accepted claims; the records hold
what the log grants, and a record without a claim names nobody. -/
structure Traced (relay : Relay) : Prop where
  access : ∀ blob acl, relay.daemon.hub.blobACL.get? blob = some acl →
    ∃ event targets, .routed event targets true ∈ relay.log ∧ event.blobID = blob ∧
      acl = ⟨event.originDevice, allowedList event targets⟩
  holders : ∀ blob id, relay.daemon.hub.onDemand.get? blob = some id →
    ∃ event targets, .routed event targets true ∈ relay.log ∧ event.blobID = blob ∧
      event.onDemand = true ∧ event.originDevice = id
  records : ∀ blob, (relay.daemon.store.accessOf blob).getD ("", []) =
    (granted blob relay.log).getD ("", [])

section Steps

variable {env : Env} {relay after : Relay} {action : Action}

theorem Traced.boot : (Relay.boot .empty).Traced where
  access := by simp [Relay.boot, Daemon.boot]
  holders := by simp [Relay.boot, Daemon.boot]
  records _ := rfl

/-- A restart forgets the hub's maps and keeps records and log. -/
theorem Traced.restart (traced : relay.Traced) : relay.restart.Traced where
  access := by simp [Relay.restart, Relay.boot, Daemon.boot]
  holders := by simp [Relay.restart, Relay.boot, Daemon.boot]
  records := traced.records

/-- A refused claim changes nothing. -/
theorem Traced.refused (traced : relay.Traced) {event : ClipEvent} {targets : List Device}
    (log : after.log = relay.log ++ [.routed event targets false])
    (access : after.daemon.hub.blobACL = relay.daemon.hub.blobACL)
    (holders : after.daemon.hub.onDemand = relay.daemon.hub.onDemand)
    (blobs : after.daemon.store.blobs = relay.daemon.store.blobs) : after.Traced where
  access := by
    intro blob acl found
    rw [access] at found
    obtain ⟨claim, recipients, recorded, rest⟩ := traced.access blob acl found
    exact ⟨claim, recipients, by simp [log, recorded], rest⟩
  holders := by
    intro blob id found
    rw [holders] at found
    obtain ⟨claim, recipients, recorded, rest⟩ := traced.holders blob id found
    exact ⟨claim, recipients, by simp [log, recorded], rest⟩
  records := by
    intro blob
    rw [log, granted_concat, Store.accessOf_congr blob blobs]
    exact traced.records blob

/-- An accepted claim is written to both access lists, and to the holders when the
clip is on demand. -/
theorem Traced.claimed (traced : relay.Traced) {event : ClipEvent} {targets : List Device}
    (log : after.log = relay.log ++ [.routed event targets true])
    (access : after.daemon.hub.blobACL = relay.daemon.hub.blobACL.put event.blobID
      ⟨event.originDevice, allowedList event targets⟩)
    (holders : after.daemon.hub.onDemand =
      if event.onDemand then relay.daemon.hub.onDemand.put event.blobID event.originDevice
      else relay.daemon.hub.onDemand)
    (blobs : after.daemon.store.blobs = (relay.daemon.store.setBlobACL event.blobID
      event.originDevice (allowedList event targets)).blobs) : after.Traced where
  access := by
    intro blob acl found
    rw [access, OrderedMap.get?_put] at found
    split_ifs at found with same
    · cases found
      exact ⟨event, targets, by simp [log], same.symm, rfl⟩
    · obtain ⟨claim, recipients, recorded, rest⟩ := traced.access blob acl found
      exact ⟨claim, recipients, by simp [log, recorded], rest⟩
  holders := by
    intro blob id found
    have old : relay.daemon.hub.onDemand.get? blob = some id →
        ∃ claim recipients, .routed claim recipients true ∈ after.log ∧ claim.blobID = blob ∧
          claim.onDemand = true ∧ claim.originDevice = id := by
      intro held
      obtain ⟨claim, recipients, recorded, rest⟩ := traced.holders blob id held
      exact ⟨claim, recipients, by simp [log, recorded], rest⟩
    rw [holders] at found
    split_ifs at found with onDemand
    · rw [OrderedMap.get?_put] at found
      split_ifs at found with same
      · cases found
        exact ⟨event, targets, by simp [log], same.symm, onDemand, rfl⟩
      · exact old found
    · exact old found
  records := by
    intro blob
    rw [log, granted_concat, Store.accessOf_congr blob blobs, Store.accessOf_setBlobACL]
    by_cases same : blob = event.blobID
    · simp [Fact.grant, same]
    · simpa [Fact.grant, same, Ne.symm same] using traced.records blob

theorem Traced.step (traced : relay.Traced) (stepped : relay.step env action = some after) :
    after.Traced := by
  obtain ⟨facts, log, change⟩ := (effect_of_step stepped).ledger
  cases change with
  | keep access holders blobs quiet =>
      constructor
      · intro blob acl found
        obtain ⟨event, targets, recorded, rest⟩ := traced.access blob acl (access blob acl found)
        exact ⟨event, targets, by simp [log, recorded], rest⟩
      · intro blob id found
        obtain ⟨event, targets, recorded, rest⟩ := traced.holders blob id (holders blob id found)
        exact ⟨event, targets, by simp [log, recorded], rest⟩
      · intro blob
        rw [log, granted_append_of_quiet quiet, Store.accessOf_congr blob blobs]
        exact traced.records blob
  | @route now source event settings targets task hub blobs =>
      by_cases claimed : relay.claims event = true
      · have decision : event.blobID ≠ "" ∧ relay.daemon.hub.claimOK event = true := by
          simpa [claims] using claimed
        simp only [Daemon.claimBlob, if_pos decision] at hub blobs
        rw [claimed] at log
        exact traced.claimed log hub.1 hub.2 blobs
      · have decision : ¬(event.blobID ≠ "" ∧ relay.daemon.hub.claimOK event = true) := by
          simpa [claims] using claimed
        simp only [Daemon.claimBlob, if_neg decision] at hub blobs
        rw [Bool.eq_false_of_not_eq_true claimed] at log
        exact traced.refused log hub.1 hub.2 blobs
  | @touch id now size mime valid hub blobs =>
      rw [List.append_nil] at log
      constructor
      · rw [hub, log]
        exact traced.access
      · rw [hub, log]
        exact traced.holders
      · intro blob
        rw [log, Store.accessOf_congr blob blobs, Store.accessOf_touchBlob, ← traced.records blob]
        split_ifs with same
        · rw [same]
          rfl
        · rfl
  | @collect id hub blobs =>
      constructor
      · intro blob acl found
        obtain ⟨event, targets, recorded, rest⟩ := traced.access blob acl (hub ▸ found)
        exact ⟨event, targets, by simp [log, recorded], rest⟩
      · intro blob holder found
        obtain ⟨event, targets, recorded, rest⟩ := traced.holders blob holder (hub ▸ found)
        exact ⟨event, targets, by simp [log, recorded], rest⟩
      · intro blob
        rw [log, granted_concat, Store.accessOf_congr blob blobs, Store.accessOf_deleteBlobEntry]
        by_cases same : blob = id
        · simp [Fact.grant, same]
        · simpa [Fact.grant, same, Ne.symm same] using traced.records blob

theorem Traced.life (traced : relay.Traced) {action : Option Action}
    (stepped : relay.life env action = some after) : after.Traced := by
  cases action with
  | none =>
      cases stepped
      exact traced.restart
  | some action => exact traced.step stepped

end Steps

end Relay

end CopySync.Server
