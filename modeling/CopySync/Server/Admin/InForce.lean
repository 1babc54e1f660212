import CopySync.Server.Admin.Mediation
import CopySync.Server.Relay.Settings

/-!
# Settings in force

In every run, the settings the server saves and uses are the defaults or what authorized
requests of the administration put, and the store has those that were put last.
-/

namespace CopySync.Server

open Foundation

/-- The settings an event saves. -/
def AdminEvent.saves : AdminEvent → Option (Option RuntimeSettings)
  | .acted _ (.putSettings settings) => some (some settings)
  | _ => none

/-- A list that was deduplicated is left as it is. -/
theorem dedupePools_dedupePools (seen names : List String) :
    dedupePools seen (dedupePools seen names) = dedupePools seen names := by
  induction names generalizing seen with
  | nil => rfl
  | cons first rest ih =>
      rw [dedupePools]
      split_ifs with fresh
      · rw [dedupePools, if_pos fresh, ih]
      · exact ih seen

theorem RuntimeSettings.normalize_normalize (settings : RuntimeSettings) :
    settings.normalize.normalize = settings.normalize := by
  have pools : dedupePools [] ("default" :: dedupePools [] ("default" :: settings.pools)) =
      dedupePools [] ("default" :: settings.pools) := by
    have first (names : List String) :
        dedupePools [] ("default" :: names) = "default" :: dedupePools ["default"] names := by
      simp [dedupePools]
    rw [first, first, dedupePools, if_neg (by simp), dedupePools_dedupePools]
  simp only [normalize, pools, Bool.and_assoc, Bool.and_self, max_assoc, max_self]

theorem saves_of_pairs {server : Env} {relay : Relay} {action : Action} {event : AdminEvent}
    (among : event ∈ relay.pairs server action) : event.saves = none := by
  have pairs := pairs_of_step server relay action
  generalize relay.pairs server action = events at pairs among
  cases pairs with
  | none => cases among
  | claimed =>
      rw [List.mem_singleton.mp among]
      rfl

theorem saves_of_other {action : Action} (other : action.onSettings = false)
    (admission : Admission) : AdminEvent.saves (.acted admission action) = none := by
  cases action with
  | putSettings settings => cases other
  | _ => rfl

namespace Console

variable {env : AdminEnv} {seed : AdminUser} {console after : Console} {move : AdminMove}

/-- Settings that were in force at some time: the defaults, or what a request put. -/
def Put (history : List AdminEvent) (settings : RuntimeSettings) : Prop :=
  settings = RuntimeSettings.default.normalize ∨
    ∃ admission asked, .acted admission (.putSettings asked) ∈ history ∧
      settings = asked.normalize

theorem Put.mono {history later : List AdminEvent} {settings : RuntimeSettings}
    (put : Put history settings) (start : history <+: later) : Put later settings := by
  rcases put with same | ⟨admission, asked, acted, same⟩
  · exact .inl same
  · exact .inr ⟨admission, asked, start.subset acted, same⟩

/-- The store has the settings put last, and the hub some that were put. -/
structure Governed (console : Console) : Prop where
  stored : console.relay.daemon.store.settings =
    (lastWritten AdminEvent.saves console.history).map RuntimeSettings.normalize
  refreshing : ∀ settings ∈ console.relay.refreshing, Put console.history settings
  cached : Put console.history console.relay.daemon.hub.settings

theorem Governed.put (governed : console.Governed) :
    Put console.history console.relay.daemon.store.getSettings := by
  rw [Store.getSettings, governed.stored]
  cases saved : lastWritten AdminEvent.saves console.history with
  | none => exact .inl rfl
  | some asked =>
      obtain ⟨event, among, wrote⟩ := exists_of_lastWritten saved
      cases event with
      | acted admission action =>
          cases action with
          | putSettings settings =>
              cases wrote
              refine .inr ⟨admission, asked, among, ?_⟩
              exact RuntimeSettings.normalize_normalize asked
          | _ => cases wrote
      | _ => cases wrote

theorem Governed.keep (governed : console.Governed) {action : Action}
    (other : action.onSettings = false)
    (stepped : console.relay.step env.server action = some after.relay)
    (start : console.history <+: after.history)
    (same : lastWritten AdminEvent.saves after.history =
      lastWritten AdminEvent.saves console.history) : after.Governed := by
  obtain ⟨stored, refreshing⟩ := Prod.mk.inj (Relay.saved_of_step other stepped)
  refine ⟨?_, fun settings listed => ?_, ?_⟩
  · rw [stored, same]
    exact governed.stored
  · exact (governed.refreshing settings (refreshing ▸ listed)).mono start
  · rcases (Relay.effect_of_step stepped).settings with cached | ⟨index, rfl, -⟩
    · rw [cached]
      exact governed.cached.mono start
    · cases other

theorem Governed.congr (governed : console.Governed) (relay : after.relay = console.relay)
    (start : console.history <+: after.history)
    (same : lastWritten AdminEvent.saves after.history =
      lastWritten AdminEvent.saves console.history) : after.Governed where
  stored := by rw [relay, same, governed.stored]
  refreshing settings listed := (governed.refreshing settings (relay ▸ listed)).mono start
  cached := relay ▸ governed.cached.mono start

/-- A step of the relay that a handler takes. -/
theorem Governed.act (governed : console.Governed) {admission : Admission} {action : Action}
    {relay : Relay} (does : Does admission.request admission.route.handler action)
    (stepped : console.relay.step env.server action = some relay) :
    ({ console with relay }.record [.acted admission action]).Governed := by
  have start : console.history <+: console.history ++ [.acted admission action] :=
    List.prefix_append _ _
  by_cases other : action.onSettings = false
  · exact governed.keep other stepped start (lastWritten_concat_of_none (saves_of_other other _))
  · cases action with
    | putSettings settings =>
        cases stepped
        refine ⟨?_, fun old listed => (governed.refreshing old listed).mono start,
          governed.cached.mono start⟩
        rw [record, lastWritten_concat]
        rfl
    | loadSettings =>
        cases stepped
        have same :
            lastWritten AdminEvent.saves (console.history ++ [.acted admission .loadSettings]) =
              lastWritten AdminEvent.saves console.history := lastWritten_concat_of_none rfl
        refine ⟨?_, fun settings listed => ?_, governed.cached.mono start⟩
        · rw [record, same]
          exact governed.stored
        · rcases List.mem_append.mp listed with old | new
          · exact (governed.refreshing settings old).mono start
          · rw [List.mem_singleton.mp new]
            exact governed.put.mono start
    | refreshSettings =>
        generalize admission.route.handler = handler at does
        cases does
    | _ => exact absurd rfl other

theorem Governed.refresh (governed : console.Governed) {index : Nat} {relay : Relay}
    (stepped : console.relay.step env.server (.refreshSettings index) = some relay) :
    { console with relay }.Governed := by
  obtain ⟨settings, found, rfl⟩ := Relay.refreshSettings_some stepped
  exact ⟨governed.stored,
    fun other listed => governed.refreshing other (List.mem_of_mem_eraseIdx listed),
    governed.refreshing settings (List.mem_of_getElem? found)⟩

theorem Governed.step (governed : console.Governed) (mediated : Mediated env seed console)
    (stepped : console.step env move = some after) : after.Governed := by
  have start := (mediated.accounts stepped).start
  cases takes_of_step stepped with
  | relay action relay plain moved =>
      have same : lastWritten AdminEvent.saves
          (console.history ++ console.relay.pairs env.server action) =
            lastWritten AdminEvent.saves console.history :=
        lastWritten_append_of_none fun event among => saves_of_pairs among
      by_cases other : action.onSettings = false
      · exact governed.keep other moved start same
      · cases action with
        | putSettings | loadSettings => cases plain
        | refreshSettings index => exact (governed.refresh moved).congr rfl start same
        | _ => exact absurd rfl other
  | restart =>
      exact ⟨governed.stored, fun settings listed => (by cases listed), governed.put⟩
  | purge | sweep | refuse | reap | login | answer | verify | plan =>
      exact governed.congr rfl start rfl
  | enter | gate | logout | issue | save =>
      exact governed.congr rfl start (lastWritten_concat_of_none rfl)
  | announce index draw admission action relay found does moved =>
      exact (governed.act does moved).congr rfl List.prefix_rfl rfl
  | act index draw admission action rest relay found moved =>
      have does := (mediated.jobs _ (List.mem_of_getElem? found)).2 action List.mem_cons_self
      exact (governed.act does moved).congr rfl List.prefix_rfl rfl

theorem Governed.start (seed : AdminUser) : (Console.start seed).Governed where
  stored := rfl
  refreshing _ listed := by cases listed
  cached := .inl rfl

theorem governed_of_reachable
    (reached : Reachable (Console.step env) (Console.start seed) console) :
    console.Governed := by
  have kept {before after : Console} {move : AdminMove}
      (both : Mediated env seed before ∧ before.Governed) (_ : True)
      (stepped : before.step env move = some after) : Mediated env seed after ∧ after.Governed :=
    ⟨both.1.step stepped, both.2.step both.1 stepped⟩
  exact (reached.invariant ⟨.start env seed, .start seed⟩ kept).2

/-- In every run, the settings of the store are those that were put last, and the store and the
hub have no others than the defaults and what authorized requests put. -/
theorem settings_in_force {salt : List UInt8} {now : Time}
    (seeded : env.seedAdmin salt now = some seed)
    (reached : Reachable (Console.step env) (Console.start seed) console) :
    console.relay.daemon.store.getSettings =
      ((lastWritten AdminEvent.saves console.history).getD .default).normalize ∧
    ∀ settings ∈ [console.relay.daemon.store.getSettings, console.relay.daemon.hub.settings],
      settings = RuntimeSettings.default.normalize ∨
        ∃ asked, settings = asked.normalize ∧
          Ordered env seed console.history (.putSettings asked) := by
  have governed := governed_of_reachable reached
  have mediated := mediated_of_reachable reached
  have ordered {settings : RuntimeSettings} (put : Put console.history settings) :
      settings = RuntimeSettings.default.normalize ∨ ∃ asked, settings = asked.normalize ∧
        Ordered env seed console.history (.putSettings asked) := by
    rcases put with same | ⟨admission, asked, acted, same⟩
    · exact .inl same
    · exact .inr ⟨asked, same, mediated.ordered (mustChangePW_of_seedAdmin seeded) acted⟩
  constructor
  · rw [Store.getSettings, governed.stored]
    cases lastWritten AdminEvent.saves console.history with
    | none => rfl
    | some asked => exact RuntimeSettings.normalize_normalize asked
  · intro settings listed
    rcases List.mem_pair.mp listed with rfl | rfl
    · exact ordered governed.put
    · exact ordered governed.cached

/-- The administrator turns encryption on. -/
def demoSettings : List AdminMove :=
  demoInvitation ++
  [.serve (demoRequest .put ["admin", "settings"]
      (some (.object [("e2eEnabled", .bool true)]))) 4,
   .proceed 0 (demoDraw 4 ""), .proceed 0 (demoDraw 4 ""), .proceed 0 (demoDraw 4 ""),
   .proceed 0 (demoDraw 4 ""), .relay (.refreshSettings 0)]

theorem demoSettings_ordered :
    ∃ console, Reachable (Console.step demoAdminEnv) (Console.start demoSeed) console ∧
      console.relay.daemon.hub.settings.e2eEnabled = true ∧
      console.relay.daemon.store.getSettings =
        ((lastWritten AdminEvent.saves console.history).getD .default).normalize ∧
      ∀ settings ∈ [console.relay.daemon.store.getSettings, console.relay.daemon.hub.settings],
        settings = RuntimeSettings.default.normalize ∨
          ∃ asked, settings = asked.normalize ∧
            Ordered demoAdminEnv demoSeed console.history (.putSettings asked) := by
  obtain ⟨console, reached, enabled⟩ := Reachable.exists_of_exec (Console.step demoAdminEnv)
    (Console.start demoSeed) demoSettings (·.relay.daemon.hub.settings.e2eEnabled)
    (by decide +kernel)
  exact ⟨console, reached, enabled, settings_in_force demoSeed_seeded reached⟩

end Console

end CopySync.Server
