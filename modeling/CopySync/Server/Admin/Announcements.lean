import CopySync.Server.Admin.Enrollment

/-!
# Clips of the server

Nobody but the administrator speaks for the server: a clip that claims to come from it is a
broadcast that an authorized request asked for.
-/

namespace CopySync.Server.Console

open Foundation

variable {env : AdminEnv} {seed : AdminUser} {console after : Console} {move : AdminMove}

/-- A clip that claims to come from the server is a broadcast that was asked for. -/
def Spoken (env : AdminEnv) (history : List AdminEvent) (event : ClipEvent) : Prop :=
  event.originDevice = "server" → ∃ admission id text now,
    .acted admission (.broadcast id text now) ∈ history ∧
      event = (ClipEvent.broadcastOf env.server.lib id text now).wire

theorem Spoken.mono {history later : List AdminEvent} {event : ClipEvent}
    (spoken : Spoken env history event) (start : history <+: later) : Spoken env later event := by
  intro server
  obtain ⟨admission, id, text, now, acted, same⟩ := spoken server
  exact ⟨admission, id, text, now, start.subset acted, same⟩

/-- What a client sends comes from its device. -/
theorem spoken_of_receive (enrolled : console.Enrolled) {history : List AdminEvent}
    {conn : ConnID} {sent event : ClipEvent} {now : Time}
    (taken : event ∈ console.relay.ingests env.server (.receiveClip conn sent now)) :
    Spoken env history event.wire := by
  obtain ⟨connection, found, rfl⟩ := Option.map_eq_some_iff.mp taken
  have owns : connection.owner ∈ console.relay.owners :=
    List.mem_map_of_mem (List.mem_of_getElem? found)
  obtain ⟨code, suffix, now, minted, -⟩ := enrolled.paired connection.owner (.inr owns)
  intro server
  have named : connection.owner = "server" := server
  rw [minted] at named
  exact absurd (congrArg String.toList named) (by simp)

theorem ingests_of_does {request : Request} {handler : Handler} {action : Action} {server : Env}
    {relay : Relay} {event : ClipEvent} (does : Does request handler action)
    (taken : event ∈ relay.ingests server action) :
    ∃ id text now, action = .broadcast id text now ∧
      event = ClipEvent.broadcastOf server.lib id text now := by
  cases does with
  | broadcast id text now => exact ⟨id, text, now, rfl, (Option.some.inj taken).symm⟩
  | _ => cases taken

/-- Nobody but the server speaks for it. -/
def Honest (env : AdminEnv) (console : Console) : Prop :=
  console.relay.Carries (Spoken env console.history)

theorem Honest.congr (honest : console.Honest env) (relay : after.relay = console.relay)
    (start : console.history <+: after.history) : after.Honest env := by
  rw [Honest, relay]
  exact honest.mono fun event spoken => spoken.mono start

/-- A step of the relay that a handler takes. -/
theorem Honest.act (honest : console.Honest env) (enrolled : console.Enrolled)
    {admission : Admission} {action : Action} {relay : Relay}
    (does : Does admission.request admission.route.handler action)
    (stepped : console.relay.step env.server action = some relay) :
    ({ console with relay }.record [.acted admission action]).Honest env := by
  have start : console.history <+: console.history ++ [.acted admission action] :=
    List.prefix_append _ _
  have carried :
      console.relay.Carries (Spoken env (console.history ++ [.acted admission action])) :=
    honest.mono fun event spoken => spoken.mono start
  refine carried.step enrolled.keyed (fun event taken _ => ?_) stepped
  obtain ⟨id, text, now, rfl, rfl⟩ := ingests_of_does does taken
  exact ⟨admission, id, text, now, List.mem_append_right _ List.mem_cons_self, rfl⟩

theorem Honest.step (honest : console.Honest env) (mediated : Mediated env seed console)
    (enrolled : console.Enrolled) (stepped : console.step env move = some after) :
    after.Honest env := by
  have start := (mediated.accounts stepped).start
  cases takes_of_step stepped with
  | relay action relay plain moved =>
      have carried : console.relay.Carries
          (Spoken env (console.history ++ console.relay.pairs env.server action)) :=
        honest.mono fun event spoken => spoken.mono start
      refine carried.step enrolled.keyed (fun event taken => ?_) moved
      cases action with
      | receiveClip conn sent now => exact spoken_of_receive enrolled taken
      | broadcast => cases plain
      | _ => cases taken
  | restart => exact Relay.Carries.restart honest
  | announce index draw admission action relay found does moved =>
      exact (honest.act enrolled does moved).congr rfl List.prefix_rfl
  | act index draw admission action rest relay found moved =>
      have does := (mediated.jobs _ (List.mem_of_getElem? found)).2 action List.mem_cons_self
      exact (honest.act enrolled does moved).congr rfl List.prefix_rfl
  | _ => exact honest.congr rfl start

theorem Honest.start (env : AdminEnv) (seed : AdminUser) : (Console.start seed).Honest env :=
  .boot fun _ _ queued => by cases queued

theorem honest_of_reachable
    (reached : Reachable (Console.step env) (Console.start seed) console) :
    console.Honest env := by
  have kept {before after : Console} {move : AdminMove}
      (all : Mediated env seed before ∧ before.Enrolled ∧ before.Honest env) (_ : True)
      (stepped : before.step env move = some after) :
      Mediated env seed after ∧ after.Enrolled ∧ after.Honest env :=
    ⟨all.1.step stepped, all.2.1.step all.1 stepped, all.2.2.step all.1 all.2.1 stepped⟩
  exact (reached.invariant ⟨.start env seed, .start seed, .start env seed⟩ kept).2.2

/-- In every run, a clip that is on its way to a device and claims to come from the server is a
broadcast that an authorized request asked for. -/
theorem server_clip_was_ordered {salt : List UInt8} {now : Time}
    (seeded : env.seedAdmin salt now = some seed)
    (reached : Reachable (Console.step env) (Console.start seed) console) {id : DeviceID}
    {event : ClipEvent} (held : event ∈ (console.relay.mailbox id).contents)
    (server : event.originDevice = "server") :
    ∃ clip text time, event = (ClipEvent.broadcastOf env.server.lib clip text time).wire ∧
      Ordered env seed console.history (.broadcast clip text time) := by
  obtain ⟨admission, clip, text, time, acted, same⟩ :=
    (honest_of_reachable reached).held id event held server
  exact ⟨clip, text, time, same,
    (mediated_of_reachable reached).ordered (mustChangePW_of_seedAdmin seeded) acted⟩

/-- The administrator sends a text to a device that is not connected. -/
def demoBroadcast : List AdminMove :=
  demoPairing ++
  [.serve (demoRequest .post ["admin", "broadcast"] (some (.object [("text", .string "hi")]))) 5,
   .proceed 0 (demoDraw 5 ""), .proceed 0 (demoDraw 5 "bcast_1"), .relay (.routeBroadcast 0),
   .relay (.routePrepare 5), .relay (.routeDeliver 5), .relay .routeFinish]

theorem demoBroadcast_ordered :
    ∃ console, Reachable (Console.step demoAdminEnv) (Console.start demoSeed) console ∧
      ∃ event ∈ (console.relay.mailbox "dev_a").contents, event.originDevice = "server" ∧
        ∃ clip text time,
          event = (ClipEvent.broadcastOf demoAdminEnv.server.lib clip text time).wire ∧
            Ordered demoAdminEnv demoSeed console.history (.broadcast clip text time) := by
  obtain ⟨console, reached, found⟩ := Reachable.exists_of_exec (Console.step demoAdminEnv)
    (Console.start demoSeed) demoBroadcast (fun console =>
      (console.relay.mailbox "dev_a").contents.any fun event => event.originDevice == "server")
    (by decide +kernel)
  obtain ⟨event, held, server⟩ := List.any_eq_true.mp found
  have named := eq_of_beq server
  exact ⟨console, reached, event, held, named,
    server_clip_was_ordered demoSeed_seeded reached held named⟩

end CopySync.Server.Console
