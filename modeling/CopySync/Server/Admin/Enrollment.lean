import CopySync.Server.Admin.Mediation

/-!
# Nobody gets in without the administrator

In every run, a device that has a credential or a connection was paired, with a code that an
authorized request of the administration had put and that was neither over nor claimed before.
-/

namespace CopySync.Server.Console

open Foundation

variable {env : AdminEnv} {seed : AdminUser} {console after : Console} {move : AdminMove}

/-- A device that can talk to the server, or already does. -/
def Knows (relay : Relay) (id : DeviceID) : Prop :=
  relay.daemon.store.tokens.get? id ≠ none ∨ id ∈ relay.owners

/-- Who the server knows was paired. -/
structure Enrolled (console : Console) : Prop where
  filed : console.relay.Filed
  keyed : console.relay.Keyed
  paired : ∀ id, Knows console.relay id →
    ∃ code suffix now, id = "dev_" ++ suffix ∧ .paired code id now ∈ console.history

/-- A step of the relay lets in who it pairs. -/
theorem knows_of_step {server : Env} {relay next : Relay} {action : Action} {id : DeviceID}
    (filed : relay.Filed) (keyed : relay.Keyed)
    (stepped : relay.step server action = some next) (knows : Knows next id) :
    Knows relay id ∨ ∃ code suffix now, id = "dev_" ++ suffix ∧
      .paired code id now ∈ relay.pairs server action := by
  rcases knows with known | owns
  · cases old : relay.daemon.store.tokens.get? id with
    | some record => exact .inl (.inl (by simp [old]))
    | none =>
        rcases (Relay.intake_of_step stepped).tokens id old with absent |
          ⟨code, suffix, name, platform, token, now, rfl, rfl⟩
        · exact absurd absent known
        · rcases claimPairing_pairs stepped with ⟨-, rfl⟩ | ⟨entry, -, -, -, pairs, -⟩
          · exact absurd old known
          · exact .inr ⟨code, suffix, now, rfl, by simp [pairs]⟩
  · by_cases connects : ∃ device token, action = .connect device token
    · obtain ⟨device, token, rfl⟩ := connects
      rw [Relay.owners_of_connect filed stepped] at owns
      rcases List.mem_append.mp owns with old | new
      · exact .inl (.inr old)
      · obtain ⟨client, accepted, -⟩ := Relay.connect_some stepped
        obtain ⟨-, record, stored, -⟩ := validate_eq_some accepted
        rw [List.mem_singleton.mp new]
        exact .inl (.inl (by simp [stored]))
    · simp only [not_exists] at connects
      rw [Relay.owners_of_step keyed connects stepped] at owns
      exact .inl (.inr owns)

/-- A step of the relay keeps the devices enrolled, if the pairing it completes is recorded. -/
theorem Enrolled.relay (enrolled : console.Enrolled) {action : Action}
    (stepped : console.relay.step env.server action = some after.relay)
    (start : console.history <+: after.history)
    (recorded : ∀ event ∈ console.relay.pairs env.server action, event ∈ after.history) :
    after.Enrolled := by
  refine ⟨enrolled.filed.step stepped, enrolled.keyed.step stepped, fun id knows => ?_⟩
  rcases knows_of_step enrolled.filed enrolled.keyed stepped knows with old |
    ⟨code, suffix, now, minted, new⟩
  · obtain ⟨code, suffix, now, minted, paired⟩ := enrolled.paired id old
    exact ⟨code, suffix, now, minted, start.subset paired⟩
  · exact ⟨code, suffix, now, minted, recorded _ new⟩

theorem Enrolled.congr (enrolled : console.Enrolled) (relay : after.relay = console.relay)
    (start : console.history <+: after.history) : after.Enrolled := by
  refine ⟨relay ▸ enrolled.filed, relay ▸ enrolled.keyed, fun id knows => ?_⟩
  obtain ⟨code, suffix, now, minted, paired⟩ := enrolled.paired id (relay ▸ knows)
  exact ⟨code, suffix, now, minted, start.subset paired⟩

theorem pairs_of_does {request : Request} {handler : Handler} {action : Action}
    (does : Does request handler action) (server : Env) (relay : Relay) :
    relay.pairs server action = [] := by
  cases does <;> rfl

theorem Enrolled.step (enrolled : console.Enrolled) (mediated : Mediated env seed console)
    (stepped : console.step env move = some after) : after.Enrolled := by
  have start := (mediated.accounts stepped).start
  cases takes_of_step stepped with
  | relay action relay plain moved =>
      exact enrolled.relay moved start fun event among => List.mem_append_right _ among
  | restart =>
      refine ⟨enrolled.filed, .boot _, fun id knows => ?_⟩
      exact enrolled.paired id (knows.imp_right fun owns => by cases owns)
  | announce index draw admission action relay found does moved =>
      refine enrolled.relay moved start fun event among => ?_
      rw [pairs_of_does does] at among
      cases among
  | act index draw admission action rest relay found moved =>
      have does := (mediated.jobs _ (List.mem_of_getElem? found)).2 action List.mem_cons_self
      refine enrolled.relay moved start fun event among => ?_
      rw [pairs_of_does does] at among
      cases among
  | _ => exact enrolled.congr rfl start

theorem Enrolled.start (seed : AdminUser) : (Console.start seed).Enrolled where
  filed := .boot
  keyed := .boot _
  paired id knows := by
    rcases knows with known | owns
    · exact absurd rfl known
    · cases owns

theorem enrolled_of_reachable
    (reached : Reachable (Console.step env) (Console.start seed) console) :
    console.Enrolled := by
  have kept {before after : Console} {move : AdminMove}
      (both : Mediated env seed before ∧ before.Enrolled) (_ : True)
      (stepped : before.step env move = some after) : Mediated env seed after ∧ after.Enrolled :=
    ⟨both.1.step stepped, both.2.step both.1 stepped⟩
  exact (reached.invariant ⟨.start env seed, .start seed⟩ kept).2

/-- What came before a device was paired: a request of the administration put the code, and
nobody claimed or replaced it before the device did. -/
structure Invited (env : AdminEnv) (seed : AdminUser) (before : List AdminEvent) (code : String)
    (now : Time) (admission : Admission) (pairing : PairingCode)
    (past waiting : List AdminEvent) : Prop where
  order : before = past ++ [.acted admission (.putPairing pairing)] ++ waiting
  named : pairing.code = code
  live : pairing.expired now = false
  unclaimed : ∀ event ∈ waiting, event.offers code = none
  authorized : ∃ earlier between meanwhile,
    Authorized env seed earlier between meanwhile admission (.putPairing pairing) past

theorem invited_of_each (fresh : seed.mustChangePW = true) {before : List AdminEvent}
    {code : String} {id : DeviceID} {now : Time}
    (each : EachAfter (Warrant env seed) (before ++ [.paired code id now])) :
    ∃ admission pairing past waiting,
      Invited env seed before code now admission pairing past waiting := by
  obtain ⟨earlier, warrant⟩ := eachAfter_concat.mp each
  cases warrant with
  | paired _ _ _ pairing opened live =>
      obtain ⟨past, event, waiting, order, offered, unclaimed⟩ := lastWritten_eq_some_iff.mp opened
      cases event with
      | acted admission action =>
          cases action with
          | putPairing put =>
              simp only [AdminEvent.offers] at offered
              split_ifs at offered with same
              cases offered
              have asked : EachAfter (Warrant env seed)
                  (past ++ [.acted admission (.putPairing pairing)]) :=
                earlier.of_prefix ⟨waiting, by simp [order]⟩
              exact ⟨admission, pairing, past, waiting, by simp [order], same, live, unclaimed,
                authorized_of_each fresh asked⟩
          | _ => cases offered
      | paired other =>
          simp only [AdminEvent.offers] at offered
          split_ifs at offered
          cases offered
      | _ => cases offered

/-- In every run, who has a credential or a connection was invited. -/
theorem known_was_invited {salt : List UInt8} {seeding : Time}
    (seeded : env.seedAdmin salt seeding = some seed)
    (reached : Reachable (Console.step env) (Console.start seed) console) {id : DeviceID}
    (knows : Knows console.relay id) :
    ∃ before code now later admission pairing past waiting,
      console.history = before ++ [.paired code id now] ++ later ∧
        Invited env seed before code now admission pairing past waiting := by
  obtain ⟨code, -, now, -, paired⟩ := (enrolled_of_reachable reached).paired id knows
  have each := (mediated_of_reachable reached).events
  obtain ⟨before, later, split⟩ := List.append_of_mem paired
  have asked : EachAfter (Warrant env seed) (before ++ [.paired code id now]) :=
    each.of_prefix ⟨later, by simp [split]⟩
  obtain ⟨admission, pairing, past, waiting, invited⟩ :=
    invited_of_each (mustChangePW_of_seedAdmin seeded) asked
  exact ⟨before, code, now, later, admission, pairing, past, waiting, by simp [split], invited⟩

/-- A device claims the code. -/
def demoPairing : List AdminMove :=
  demoInvitation ++ [.relay (.claimPairing "123456" "a" "laptop" "linux" "token" 4)]

theorem demoPairing_invited :
    ∃ console, Reachable (Console.step demoAdminEnv) (Console.start demoSeed) console ∧
      Knows console.relay "dev_a" ∧ ∃ before code now later admission pairing past waiting,
        console.history = before ++ [.paired code "dev_a" now] ++ later ∧
          Invited demoAdminEnv demoSeed before code now admission pairing past waiting := by
  obtain ⟨console, reached, known⟩ := Reachable.exists_of_exec (Console.step demoAdminEnv)
    (Console.start demoSeed) demoPairing
    (fun console => decide (console.relay.daemon.store.tokens.get? "dev_a" ≠ none))
    (by decide +kernel)
  have knows : Knows console.relay "dev_a" := .inl (of_decide_eq_true known)
  exact ⟨console, reached, knows, known_was_invited demoSeed_seeded reached knows⟩

end CopySync.Server.Console
