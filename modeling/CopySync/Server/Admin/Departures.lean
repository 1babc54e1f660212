import CopySync.Server.Admin.Enrollment
import CopySync.Server.Relay.Names

/-!
# Devices that are gone

In every run, a device that was paired is known to the server until an authorized request of
the administration deletes it.
-/

namespace CopySync.Server

open Foundation

/-- What an event makes of a device. -/
def AdminEvent.places (id : DeviceID) : AdminEvent → Option (Option Unit)
  | .paired _ other _ => if other = id then some (some ()) else none
  | .acted _ (.deleteDevice other) => if other = id then some none else none
  | _ => none

namespace Console

variable {env : AdminEnv} {seed : AdminUser} {console after : Console} {move : AdminMove}

/-- A device stays until it is deleted. -/
theorem device_stays {server : Env} {relay next : Relay} {action : Action} {id : DeviceID}
    (stepped : relay.step server action = some next)
    (known : relay.daemon.store.devices.get? id ≠ none) :
    next.daemon.store.devices.get? id ≠ none ∨ action = .deleteDevice id := by
  have put {key : DeviceID} {device : Device}
      (devices : next.daemon.store.devices = relay.daemon.store.devices.put key device) :
      next.daemon.store.devices.get? id ≠ none := by
    rw [devices, OrderedMap.get?_put]
    split_ifs
    · exact Option.some_ne_none _
    · exact known
  cases Relay.table_of_step stepped with
  | keep devices => exact .inl (devices ▸ known)
  | seen found devices => exact .inl (put devices)
  | paired free devices => exact .inl (put devices)
  | repooled task finished devices => exact .inl (put devices)
  | @deleted other recorded devices =>
      by_cases same : other = id
      · exact .inr (same ▸ rfl)
      · rw [devices, OrderedMap.get?_erase, if_neg (Ne.symm same)]
        exact .inl known

/-- Who was paired and not deleted since is known. -/
def Housed (console : Console) : Prop :=
  ∀ id, lastWritten (AdminEvent.places id) console.history = some () →
    console.relay.daemon.store.devices.get? id ≠ none

theorem Housed.congr (housed : console.Housed)
    (devices : after.relay.daemon.store.devices = console.relay.daemon.store.devices)
    (same : ∀ id, lastWritten (AdminEvent.places id) after.history =
      lastWritten (AdminEvent.places id) console.history) : after.Housed := by
  intro id placed
  rw [devices]
  exact housed id (same id ▸ placed)

theorem Housed.relay (housed : console.Housed) {action : Action} {relay : Relay}
    (plain : action.administers = false)
    (stepped : console.relay.step env.server action = some relay) :
    ({ console with relay }.record (console.relay.pairs env.server action)).Housed := by
  intro id placed
  have stays (known : console.relay.daemon.store.devices.get? id ≠ none) :
      relay.daemon.store.devices.get? id ≠ none := by
    rcases device_stays stepped known with kept | rfl
    · exact kept
    · cases plain
  have pairs := pairs_of_step env.server console.relay action
  generalize console.relay.pairs env.server action = events at pairs placed
  cases pairs with
  | none =>
      rw [record, List.append_nil] at placed
      exact stays (housed id placed)
  | @claimed code suffix name platform token now store claimed =>
      by_cases same : "dev_" ++ suffix = id
      · obtain ⟨entry, -, -, -, -, written⟩ := Store.claimPairing_ok claimed
        have moved := Relay.claimPairing_some stepped
        simp only [TokenOp.apply, Device.paired] at moved claimed written
        rw [claimed] at moved
        simp [record, moved, Relay.withStore, written, same]
      · have silent : AdminEvent.places id (.paired code ("dev_" ++ suffix) now) = none :=
          if_neg same
        rw [record, lastWritten_concat_of_none silent] at placed
        exact stays (housed id placed)

/-- A step of the relay that a handler takes. -/
theorem Housed.act (housed : console.Housed) {admission : Admission} {action : Action}
    {relay : Relay} (does : Does admission.request admission.route.handler action)
    (stepped : console.relay.step env.server action = some relay) :
    ({ console with relay }.record [.acted admission action]).Housed := by
  intro id placed
  by_cases deletes : action = .deleteDevice id
  · subst deletes
    rw [record, lastWritten_concat, AdminEvent.places, if_pos rfl] at placed
    cases placed
  · have silent : AdminEvent.places id (.acted admission action) = none := by
      generalize admission.route.handler = handler at does
      cases does with
      | deleteDevice => exact if_neg fun same => deletes (by rw [same])
      | _ => rfl
    rw [record, lastWritten_concat_of_none silent] at placed
    exact (device_stays stepped (housed id placed)).resolve_right deletes

theorem Housed.step (housed : console.Housed) (mediated : Mediated env seed console)
    (stepped : console.step env move = some after) : after.Housed := by
  cases takes_of_step stepped with
  | relay action relay plain moved => exact housed.relay plain moved
  | restart | purge | sweep | refuse | reap | login | answer | verify | plan =>
      exact housed.congr rfl fun _ => rfl
  | enter | gate | logout | issue | save =>
      exact housed.congr rfl fun _ => lastWritten_concat_of_none rfl
  | announce index draw admission action relay found does moved =>
      exact (housed.act does moved).congr rfl fun _ => rfl
  | act index draw admission action rest relay found moved =>
      have does := (mediated.jobs _ (List.mem_of_getElem? found)).2 action List.mem_cons_self
      exact (housed.act does moved).congr rfl fun _ => rfl

theorem Housed.start (seed : AdminUser) : (Console.start seed).Housed := by
  intro id placed
  cases placed

theorem housed_of_reachable
    (reached : Reachable (Console.step env) (Console.start seed) console) : console.Housed := by
  have kept {before after : Console} {move : AdminMove}
      (both : Mediated env seed before ∧ before.Housed) (_ : True)
      (stepped : before.step env move = some after) : Mediated env seed after ∧ after.Housed :=
    ⟨both.1.step stepped, both.2.step both.1 stepped⟩
  exact (reached.invariant ⟨.start env seed, .start seed⟩ kept).2

/-- In every run, a device that was paired and is gone was deleted since, by an authorized
request. -/
theorem gone_was_deleted {salt : List UInt8} {now : Time}
    (seeded : env.seedAdmin salt now = some seed)
    (reached : Reachable (Console.step env) (Console.start seed) console)
    {before later : List AdminEvent} {code : String} {id : DeviceID} {time : Time}
    (paired : console.history = before ++ [.paired code id time] ++ later)
    (gone : console.relay.daemon.store.devices.get? id = none) :
    ∃ first admission rest earlier between meanwhile,
      later = first ++ [.acted admission (.deleteDevice id)] ++ rest ∧
        Authorized env seed earlier between meanwhile admission (.deleteDevice id)
          (before ++ [.paired code id time] ++ first) := by
  have deleted : ∃ admission, .acted admission (.deleteDevice id) ∈ later := by
    by_contra never
    refine housed_of_reachable reached id ?_ gone
    have placed : AdminEvent.places id (.paired code id time) = some (some ()) := if_pos rfl
    refine Option.eq_some_iff_get_eq.mpr ⟨?_, rfl⟩
    rw [paired]
    refine lastWritten_isSome placed fun event among cleared => never ?_
    cases event with
    | acted admission action =>
        cases action with
        | deleteDevice other =>
            simp only [AdminEvent.places] at cleared
            split_ifs at cleared with same
            exact ⟨admission, same ▸ among⟩
        | _ => cases cleared
    | paired other =>
        simp only [AdminEvent.places] at cleared
        split_ifs at cleared
        cases cleared
    | _ => cases cleared
  obtain ⟨admission, acted⟩ := deleted
  obtain ⟨first, rest, rfl⟩ := List.append_of_mem acted
  have each : EachAfter (Warrant env seed)
      (before ++ [.paired code id time] ++ first ++ [.acted admission (.deleteDevice id)]) :=
    (mediated_of_reachable reached).events.of_prefix ⟨rest, by simp [paired]⟩
  obtain ⟨earlier, between, meanwhile, authorized⟩ :=
    authorized_of_each (mustChangePW_of_seedAdmin seeded) each
  exact ⟨first, admission, rest, earlier, between, meanwhile, by simp, authorized⟩

/-- The administrator deletes the device. -/
def demoDeletion : List AdminMove :=
  demoPairing ++
  [.serve (demoRequest .delete ["admin", "devices", "dev_a"] none) 5,
   .proceed 0 (demoDraw 5 ""), .proceed 0 (demoDraw 5 ""), .proceed 0 (demoDraw 5 ""),
   .proceed 0 (demoDraw 5 "")]

/-- The events of a history that pair a device. -/
def AdminEvent.pairsDevice (id : DeviceID) : AdminEvent → Bool
  | .paired _ other _ => decide (other = id)
  | _ => false

theorem demoDeletion_deleted :
    ∃ console before later code time,
      Reachable (Console.step demoAdminEnv) (Console.start demoSeed) console ∧
      console.history = before ++ [.paired code "dev_a" time] ++ later ∧
      ∃ first admission rest earlier between meanwhile,
        later = first ++ [.acted admission (.deleteDevice "dev_a")] ++ rest ∧
          Authorized demoAdminEnv demoSeed earlier between meanwhile admission
            (.deleteDevice "dev_a") (before ++ [.paired code "dev_a" time] ++ first) := by
  obtain ⟨console, reached, holds⟩ := Reachable.exists_of_exec (Console.step demoAdminEnv)
    (Console.start demoSeed) demoDeletion (fun console =>
      console.history.any (AdminEvent.pairsDevice "dev_a") &&
        decide (console.relay.daemon.store.devices.get? "dev_a" = none)) (by decide +kernel)
  simp only [Bool.and_eq_true, decide_eq_true_eq] at holds
  obtain ⟨paired, gone⟩ := holds
  obtain ⟨event, among, pairs⟩ := List.any_eq_true.mp paired
  obtain ⟨before, later, split⟩ := List.append_of_mem among
  cases event with
  | paired code other time =>
      cases of_decide_eq_true pairs
      have found : console.history = before ++ [.paired code "dev_a" time] ++ later := by
        simp [split]
      exact ⟨console, before, later, code, time, reached, found,
        gone_was_deleted demoSeed_seeded reached found gone⟩
  | _ => cases pairs

end Console

end CopySync.Server
