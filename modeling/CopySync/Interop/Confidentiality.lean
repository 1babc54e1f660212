import CopySync.Desktop.Secrecy
import CopySync.Interop.Integrity

/-!
# What a server sees of encrypting clients

A run of the network is a run of the server and one of each client.  So everything on its
way through the server that stems from a client with a group key is sealed, as long as the
client keeps its configuration; only announcements of the administrator are readable.
-/

namespace CopySync.Interop

open Foundation GoJson Client

namespace Network

section Projections

variable {env : Server.Env} {setups : List Setup} {network later : Network}

/-- What a host was installed with, and a run of its client. -/
structure Installed (setup : Setup) (host : Host) : Prop where
  device : host.device = setup.device
  env : host.env = setup.env
  docket : Reachable (Desktop.Docket.step setup.env) (.start setup.env setup.config) host.docket

theorem Installed.moves {setup : Setup} {wires : List Wire} {host kept : Host}
    (installed : Installed setup host) (moved : host.Moves wires kept) : Installed setup kept := by
  cases moved with
  | rest conn => exact ⟨installed.device, installed.env, installed.docket⟩
  | turn docket conn action stepped carried =>
      rw [installed.env] at stepped
      exact ⟨installed.device, installed.env, .tail installed.docket trivial stepped⟩

/-- A run of the network takes every client through a run of its own. -/
theorem installed_of_reachable
    (reached : Reachable (Network.step env) (Network.start setups) network) :
    List.Forall₂ Installed setups network.hosts := by
  have moved : List.Forall₂
      (Relation.ReflTransGen fun host kept => ∃ wires, Host.Moves wires host kept)
      (Network.start setups).hosts network.hosts :=
    Run.parties Network.hosts reached fun _ stepped =>
      (advances_of_step stepped).hosts.imp fun _ _ moved => ⟨_, moved⟩
  refine (List.forall₂_map_left_iff.mp moved).imp fun setup host moved => ?_
  induction moved with
  | refl => exact ⟨rfl, rfl, .refl⟩
  | tail _ one ih =>
      obtain ⟨wires, one⟩ := one
      exact ih.moves one

/-- The engine of a client runs on its own, too. -/
theorem Installed.engine {setup : Setup} {host : Host} (installed : Installed setup host) :
    Reachable (Desktop.Engine.step setup.env) (.start setup.env setup.config) host.engine :=
  Run.project Desktop.Docket.engine installed.docket fun _ stepped =>
    .inr ⟨_, (Desktop.Docket.step_some stepped).1⟩

end Projections

/-! ## Ciphertext -/

/-- A clip in which nothing but its name, its size and its types can be read without the
key. -/
structure Ciphered (prims : Primitives) (key : Bytes) (kid : String) (event : Server.ClipEvent) :
    Prop where
  enc : event.enc = some (EncMeta.onServer (E2e.encMeta kid))
  inlineText : event.inlineText ≠ "" →
    ∃ body, E2e.IsSealed prims key body ∧ event.inlineText = prims.encodeBase64 body
  html : event.html ≠ "" →
    ∃ body, E2e.IsSealed prims key body ∧ event.html = prims.encodeBase64 body
  blob : event.blobID ≠ "" →
    ∃ body, E2e.IsSealed prims key body ∧ event.sha256 = prims.sha256Hex body ∧
      event.blobID = "sha256:" ++ event.sha256

/-- A clip was announced, or a host made it and sealed it if it has a key. -/
inductive Guarded (lib : Server.Library) (network : Network) : Server.ClipEvent → Prop where
  | announced (id text : String) (now : Server.Time) (listed : text ∈ network.announced) :
      Guarded lib network (Server.ClipEvent.broadcastOf lib id text now).wire
  | made (host : Host) (event : Server.ClipEvent) (listed : host ∈ network.hosts)
      (origin : event.originDevice = host.device)
      (ciphered : ∀ key kid, host.engine.key = some (key, kid) →
        Ciphered host.env.prims key kid event) :
      Guarded lib network event

/-- What is uploaded for a host with a key is sealed. -/
def Uploads (host : Host) : Prop :=
  ∀ key kid, host.engine.key = some (key, kid) → ∀ id body, .put id body ∈ host.engine.log →
    E2e.IsSealed host.env.prims key body ∧ id = blobId host.env.prims body

section Guarding

variable {env : Server.Env} {setups : List Setup} {network : Network} {host : Host}

/-- A client that has a key has had it from its start. -/
theorem Installed.sealing {setup : Setup} (installed : Installed setup host) {key : Bytes}
    {kid : String} (keyed : host.engine.key = some (key, kid)) :
    Desktop.Sealing host.env key kid host.engine := by
  have reached := installed.engine
  rw [← installed.env] at reached
  have started := (Desktop.Engine.key_of_reachable reached).symm.trans keyed
  exact reached.invariant (.start started) fun inv _ stepped => inv.step stepped

/-- The frames of a client that has a key. -/
theorem Installed.ciphered {setup : Setup} (installed : Installed setup host)
    {clip : Desktop.ClipEvent} (framed : clip ∈ host.engine.frames) {key : Bytes} {kid : String}
    (keyed : host.engine.key = some (key, kid)) :
    Ciphered host.env.prims key kid (onServer clip) := by
  obtain ⟨output, logged, frame⟩ := List.mem_filterMap.mp framed
  cases output with
  | clip event held delivered =>
      cases frame
      have isSealed : Desktop.ClipSealed host.env key kid host.engine.log clip held :=
        (installed.sealing keyed).log _ logged
      constructor
      · exact congrArg (Option.map EncMeta.onServer) isSealed.enc
      · exact isSealed.inlineText
      · exact isSealed.html
      · intro named
        obtain ⟨body, sealedBody, digest, address, -⟩ := isSealed.blob named
        exact ⟨body, sealedBody, digest, address⟩
  | _ => cases frame

theorem guarded_of_stems {lib : Server.Library} {event : Server.ClipEvent}
    (installed : ∀ host ∈ network.hosts, ∃ setup, Installed setup host)
    (stems : network.Stems lib event) : network.Guarded lib event := by
  cases stems with
  | announced id text now listed => exact .announced id text now listed
  | sent host clip now listed framed =>
      refine .made host _ listed rfl fun key kid keyed => ?_
      obtain ⟨setup, installed⟩ := installed host listed
      have ciphered := installed.ciphered framed keyed
      exact ⟨ciphered.enc, ciphered.inlineText, ciphered.html, ciphered.blob⟩

/-- In every run, whatever the server routes, queues, holds or writes, and whatever is on a
wire to it, was announced or is sealed if the host that made it has a key; and so is
whatever such a host uploads. -/
theorem server_sees_ciphertext
    (reached : Reachable (Network.step env) (Network.start setups) network) :
    network.relay.Carries (network.Guarded env.lib) ∧
    (∀ wire ∈ network.wires, ∀ payload ∈ wire.down,
      ∃ event, network.Guarded env.lib event ∧ payload = Server.encodeClip event) ∧
    (∀ wire ∈ network.wires, ∀ payload ∈ wire.up, ∀ event,
      Server.decodeClip (.object payload) = some event → ∃ host ∈ network.hosts,
        network.hosts[wire.host]? = some host ∧ ∀ key kid, host.engine.key = some (key, kid) →
          Ciphered host.env.prims key kid event) ∧
    ∀ host ∈ network.hosts, Uploads host := by
  have traced := traced_of_reachable reached
  have installed (host : Host) (listed : host ∈ network.hosts) :
      ∃ setup, Installed setup host := by
    obtain ⟨setup, -, mine⟩ := Parties.mem_earlier (installed_of_reachable reached) listed
    exact ⟨setup, mine⟩
  refine ⟨?_, ?_, ?_, ?_⟩
  · exact traced.carries.mono fun event stems => guarded_of_stems installed stems
  · intro wire among payload carried
    obtain ⟨event, stems, same⟩ := traced.down wire among payload carried
    exact ⟨event, guarded_of_stems installed stems, same⟩
  · intro wire among payload carried event decoded
    obtain ⟨host, found, clip, framed, rfl⟩ := traced.up wire among payload carried
    have listed := List.mem_of_getElem? found
    refine ⟨host, listed, found, fun key kid keyed => ?_⟩
    obtain ⟨setup, installed⟩ := installed host listed
    exact onServer_of_decodeClip decoded ▸ installed.ciphered framed keyed
  · intro host listed key kid keyed id body put
    obtain ⟨setup, installed⟩ := installed host listed
    exact (installed.sealing keyed).log _ put

end Guarding

end Network

/-! ## A concrete run -/

/-- The text waits for the second device, and the server cannot read it. -/
theorem server_sees_ciphertext_hi : ∃ network,
    Reachable (Network.step Server.demoEnv) (Network.start demoSetups) network ∧
      ((network.relay.mailbox "dev_b").contents.map (·.inlineText)) = [Reference.text.base64] ∧
      network.relay.Carries (network.Guarded Server.plainLibrary) := by
  obtain ⟨network, reached, checked⟩ := Reachable.exists_of_exec (Network.step Server.demoEnv)
    (Network.start demoSetups) Move.sent
    (fun network => decide
      ((network.relay.mailbox "dev_b").contents.map (·.inlineText) = [Reference.text.base64]))
    (by decide +kernel)
  exact ⟨network, reached, of_decide_eq_true checked, (Network.server_sees_ciphertext reached).1⟩

end CopySync.Interop
