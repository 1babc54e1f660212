import CopySync.Interop.Origins

/-!
# What a client shows as received was sent

No party makes content up.  A text that a client puts on the clipboard was taken from the
clipboard or the window of another device, whose id is shown as its origin, or announced
by the administrator; a file that it stores has the digest of what the sending device
stored for one of its files or images.
-/

namespace CopySync.Interop

open Foundation GoJson Client

namespace Network

section Clients

variable {lib : Server.Library} {network later : Network} {prims : Primitives}
variable {setups : List Setup}

/-- Installations that use the same libraries, which lose nothing, and in which a key can
be told by its name. -/
structure Fleet (prims : Primitives) (setups : List Setup) : Prop where
  lossless : Lossless prims
  shared : ∀ setup ∈ setups, setup.env.prims = prims
  visible : ∀ setup ∈ setups, ∀ key kid, setup.config.e2eKey prims = some (key, kid) → kid ≠ ""
  named : ∀ left ∈ setups, ∀ right ∈ setups, ∀ key other kid,
    left.config.e2eKey prims = some (key, kid) → right.config.e2eKey prims = some (other, kid) →
      other = key

/-- The clients of a network whose content is accounted for. -/
structure Trusted (lib : Server.Library) (prims : Primitives) (network : Network) : Prop where
  traced : network.Traced lib
  agreed : network.Agreed prims
  sound : ∀ host ∈ network.hosts, host.Sound lib network

namespace Trusted

theorem start (fleet : Fleet prims setups) : (Network.start setups).Trusted lib prims := by
  have key (setup : Setup) (listed : setup ∈ setups) :
      (Desktop.Engine.start setup.env setup.config).key = setup.config.e2eKey prims := by
    rw [Desktop.Engine.start, fleet.shared setup listed]
  constructor
  · exact .start setups
  · constructor
    · exact fleet.lossless
    · intro host among
      obtain ⟨setup, listed, rfl⟩ := List.mem_map.mp among
      exact fleet.shared setup listed
    · intro receiver here sender there bytes kid keyed
      obtain ⟨left, listed, rfl⟩ := List.mem_map.mp here
      obtain ⟨right, listed', rfl⟩ := List.mem_map.mp there
      have keyed : right.config.e2eKey prims = some (bytes, kid) :=
        (key right listed').symm.trans keyed
      refine ⟨fleet.visible right listed' bytes kid keyed, fun other own => ?_⟩
      have own : left.config.e2eKey prims = some (other, kid) := (key left listed).symm.trans own
      exact fleet.named right listed' left listed bytes other kid keyed own
  · intro host among
    obtain ⟨setup, listed, rfl⟩ := List.mem_map.mp among
    exact .start setup.device setup.env setup.config

theorem step (trusted : network.Trusted lib prims) {env : Server.Env} (same : env.lib = lib)
    {move : Move} (stepped : network.step env move = some later) : later.Trusted lib prims := by
  have advances := advances_of_step stepped
  constructor
  · exact trusted.traced.step same stepped
  · exact trusted.agreed.advance advances
  · exact Host.Sound.advance trusted.sound trusted.agreed trusted.traced advances

end Trusted

/-- In every run, whatever any client has put on the clipboard, stored or announced as
received was sent. -/
theorem received_was_sent {env : Server.Env} (fleet : Fleet prims setups)
    (reached : Reachable (Network.step env) (Network.start setups) network) :
    ∀ host ∈ network.hosts, ∀ output ∈ host.engine.receipts, network.Accounted host output := by
  have trusted : network.Trusted env.lib prims := reached.invariant (.start fleet)
    fun trusted _ stepped => trusted.step rfl stepped
  exact fun host among => (trusted.sound host among).shown

end Clients

end Network

/-! ## A concrete run -/

/-- Two devices with the same passphrase. -/
def demoSetups : List Network.Setup :=
  [⟨"dev_a", Desktop.demoEnv, Desktop.demoConfig⟩, ⟨"dev_b", Desktop.demoEnv, Desktop.demoConfig⟩]

namespace Move

/-- A host dials, and the server lets it in. -/
def bringUp (conn : Server.ConnID) (token : String) : List Move :=
  [.dial conn token] ++
    [Server.Action.readSettings conn, .drain conn, .registerStart conn 1, .registerFinish,
      .registerReturn conn].map .server ++ [.greet conn ⟨2, 65536⟩ 0 0]

/-- The write pump of a connection takes and writes two frames. -/
def pump (conn : Server.ConnID) : List Move :=
  [.server (.takeFrame conn), .write conn, .server (.takeFrame conn), .write conn]

/-- Both devices connect, and the first one sends the text `hi` to the second one. -/
def sent : List Move :=
  (Server.Action.pair "a" "laptop" ++ Server.Action.pair "b" "phone").map .server ++
    bringUp 0 "a" ++ bringUp 1 "b" ++
    [.client 0 (.command (.sendText "hi" (Desktop.demoSending Reference.text))), .read 0 2] ++
    [Server.Action.routePrepare 2, .routeDeliver 2, .routeDeliver 2, .routeFinish,
      .ack 0].map .server

/-- The second one receives it. -/
def received : List Move := sent ++ pump 1 ++ [.receive 1 Desktop.demoApplying ""]

end Move

theorem demoConfig_key :
    Desktop.demoConfig.e2eKey Reference.prims = some (Reference.key, "7c1378060950bafd") := by
  decide +kernel

theorem demoSetups_config {setup : Network.Setup} (listed : setup ∈ demoSetups) :
    setup.env = Desktop.demoEnv ∧ setup.config = Desktop.demoConfig := by
  simp only [demoSetups, List.mem_cons, List.not_mem_nil, or_false] at listed
  rcases listed with rfl | rfl
  · exact ⟨rfl, rfl⟩
  · exact ⟨rfl, rfl⟩

theorem demoSetups_fleet : Network.Fleet Reference.prims demoSetups where
  lossless := lossless_reference
  shared setup listed := by
    rw [(demoSetups_config listed).1]
    rfl
  visible setup listed key kid keyed := by
    rw [(demoSetups_config listed).2, demoConfig_key] at keyed
    cases keyed
    decide
  named left listed right listed' key other kid keyed keyed' := by
    rw [(demoSetups_config listed).2, demoConfig_key] at keyed
    rw [(demoSetups_config listed').2, demoConfig_key] at keyed'
    cases keyed
    cases keyed'
    rfl

/-- The second device shows the text and its origin. -/
theorem received_was_sent_hi : ∃ network receiver,
    Reachable (Network.step Server.demoEnv) (Network.start demoSetups) network ∧
      network.hosts[1]? = some receiver ∧
      .notice (.inText "hi" "dev_a") ∈ receiver.engine.receipts ∧
      ∀ output ∈ receiver.engine.receipts, network.Accounted receiver output := by
  obtain ⟨network, reached, checked⟩ := Reachable.exists_of_exec (Network.step Server.demoEnv)
    (Network.start demoSetups) Move.received
    (fun network => network.hosts[1]?.any fun host : Host =>
      decide (Desktop.Output.notice (.inText "hi" "dev_a") ∈ host.engine.receipts))
    (by decide +kernel)
  obtain ⟨receiver, found, shown⟩ := (Option.any_eq_true _ _).mp checked
  exact ⟨network, receiver, reached, found, of_decide_eq_true shown,
    Network.received_was_sent demoSetups_fleet reached receiver (List.mem_of_getElem? found)⟩

end CopySync.Interop
