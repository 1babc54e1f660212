import CopySync.Foundation.Parties
import CopySync.Interop.Frames
import CopySync.Interop.Network

/-!
# What travels between the clients and the server

A step of the network is a turn of at most one client.  Whatever clip the server carries
stems from a frame of the device it names as its origin or from a broadcast, and a client
receives nothing else.  None of this depends on what the clients are configured with.
-/

namespace CopySync.Interop

open Foundation GoJson Client

/-! ## Clients -/

namespace Host

def engine (host : Host) : Desktop.Engine := host.docket.engine

/-- The parts of a host that no step changes. -/
def fixed (host : Host) : Server.DeviceID × Desktop.Env × Desktop.GroupKey :=
  (host.device, host.env, host.engine.key)

/-- A host after more turns. -/
structure Grows (host later : Host) : Prop where
  fixed : later.fixed = host.fixed
  frames : host.engine.frames ⊆ later.engine.frames
  taken : host.docket.taken ⊆ later.docket.taken

theorem Grows.refl (host : Host) : host.Grows host := ⟨rfl, List.Subset.refl _, List.Subset.refl _⟩

theorem Grows.device {host later : Host} (grows : host.Grows later) :
    later.device = host.device := congrArg (·.1) grows.fixed

end Host

/-- What a step of the network makes of a host: it rests, but for its connection, or it takes
one turn, and a clip frame that it takes was on a wire. -/
inductive Host.Moves (wires : List Wire) (host : Host) : Host → Prop where
  | rest (conn : Option Server.ConnID) : host.Moves wires { host with conn }
  | turn (docket : Desktop.Docket) (conn : Option Server.ConnID) (action : Desktop.Action)
      (stepped : host.docket.step host.env action = some docket)
      (carried : ∀ clip applying, action = .frame (.clip clip applying) →
        ∃ wire ∈ wires, ∃ payload ∈ wire.down, Desktop.decodeClip payload = some clip) :
      host.Moves wires { host with docket, conn }

theorem Host.Moves.refl (wires : List Wire) (host : Host) : host.Moves wires host :=
  .rest host.conn

theorem Host.grows_of_step {host : Host} {docket : Desktop.Docket} {action : Desktop.Action}
    (stepped : host.docket.step host.env action = some docket) (conn : Option Server.ConnID) :
    host.Grows { host with docket, conn } := by
  obtain ⟨moved, taken⟩ := Desktop.Docket.step_some stepped
  exact ⟨congrArg (fun key => (host.device, host.env, key)) (Desktop.Engine.key_of_step moved),
    Desktop.Engine.frames_of_step moved, taken ▸ List.subset_append_left ..⟩

theorem Host.Moves.grows {wires : List Wire} {host later : Host} (moves : host.Moves wires later) :
    host.Grows later := by
  cases moves with
  | rest conn => exact ⟨rfl, List.Subset.refl _, List.Subset.refl _⟩
  | turn docket conn action stepped carried => exact grows_of_step stepped conn

namespace Network

/-! ## Where clips come from -/

structure Grows (network later : Network) : Prop where
  hosts : ∀ (index : Nat) (host : Host), network.hosts[index]? = some host →
    ∃ kept, later.hosts[index]? = some kept ∧ host.Grows kept
  announced : network.announced ⊆ later.announced

section Sources

variable (lib : Server.Library) (network : Network)

/-- The clips the server may carry. -/
inductive Stems : Server.ClipEvent → Prop where
  | sent (host : Host) (clip : Desktop.ClipEvent) (now : Server.Time)
      (listed : host ∈ network.hosts) (framed : clip ∈ host.engine.frames) :
      Stems ((onServer clip).received lib host.device now).wire
  | announced (id text : String) (now : Server.Time) (listed : text ∈ network.announced) :
      Stems (Server.ClipEvent.broadcastOf lib id text now).wire

/-- The clips a client may receive. -/
inductive Conveyed : Desktop.ClipEvent → Prop where
  | sent (host : Host) (clip : Desktop.ClipEvent) (now : Server.Time)
      (listed : host ∈ network.hosts) (framed : clip ∈ host.engine.frames) :
      Conveyed (stamped lib clip host.device now)
  | announced (id text : String) (now : Server.Time) (listed : text ∈ network.announced) :
      Conveyed (onDesktop (Server.ClipEvent.broadcastOf lib id text now).wire ["text/plain"])

end Sources

section Growing

variable {lib : Server.Library} {network later : Network}

theorem Grows.refl (network : Network) : network.Grows network :=
  ⟨fun _ host found => ⟨host, found, .refl host⟩, List.Subset.refl _⟩

theorem Grows.host (grows : network.Grows later) {host : Host} (listed : host ∈ network.hosts) :
    ∃ kept ∈ later.hosts, host.Grows kept := by
  obtain ⟨index, found⟩ := List.mem_iff_getElem?.mp listed
  obtain ⟨kept, present, grown⟩ := grows.hosts index host found
  exact ⟨kept, List.mem_of_getElem? present, grown⟩

theorem Stems.mono {event : Server.ClipEvent} (stems : network.Stems lib event)
    (grows : network.Grows later) : later.Stems lib event := by
  cases stems with
  | sent host clip now listed framed =>
      obtain ⟨kept, present, grown⟩ := grows.host listed
      exact grown.device ▸ .sent kept clip now present (grown.frames framed)
  | announced id text now listed => exact .announced id text now (grows.announced listed)

theorem Conveyed.mono {clip : Desktop.ClipEvent} (conveyed : network.Conveyed lib clip)
    (grows : network.Grows later) : later.Conveyed lib clip := by
  cases conveyed with
  | sent host clip now listed framed =>
      obtain ⟨kept, present, grown⟩ := grows.host listed
      exact grown.device ▸ .sent kept clip now present (grown.frames framed)
  | announced id text now listed => exact .announced id text now (grows.announced listed)

/-- A client reads from the server what the server carries. -/
theorem conveyed_of_decodeClip {event : Server.ClipEvent} {clip : Desktop.ClipEvent}
    (stems : network.Stems lib event)
    (decoded : Desktop.decodeClip (Server.encodeClip event) = some clip) :
    network.Conveyed lib clip := by
  obtain ⟨mime, types, rfl⟩ := onDesktop_of_decodeClip decoded
  cases stems with
  | sent host clip now listed framed =>
      have same : onDesktop ((onServer clip).received lib host.device now).wire clip.mime =
          stamped lib clip host.device now := by
        simp only [onDesktop, stamped, onServer, Server.ClipEvent.received, Server.ClipEvent.wire,
          onClient_onServer]
        cases clip.targets <;> rfl
      cases types
      exact same ▸ .sent host clip now listed framed
  | announced id text now listed =>
      cases types
      exact .announced id text now listed

end Growing

/-! ## Wires -/

section Wires

variable {wires : List Wire} {conn : Server.ConnID} {wire new : Wire}

theorem map_host_set (found : wires[conn]? = some wire) (same : new.host = wire.host) :
    (wires.set conn new).map Wire.host = wires.map Wire.host := by
  refine List.ext_getElem? fun index => ?_
  simp only [List.getElem?_map, List.getElem?_set]
  split_ifs with here inside
  · rw [← here, found, Option.map_some, Option.map_some, same]
  · rw [← here, List.getElem?_eq_none (by omega)]
  · rfl

theorem map_host_modify (change : Wire → Wire) (same : ∀ wire, (change wire).host = wire.host) :
    (wires.modify conn change).map Wire.host = wires.map Wire.host := by
  refine List.ext_getElem? fun index => ?_
  simp only [List.getElem?_map, List.getElem?_modify]
  cases wires[index]? with
  | none => rfl
  | some wire =>
      split
      · exact congrArg some (same wire)
      · rfl

theorem mem_modify {change : Wire → Wire} (listed : wire ∈ wires.modify conn change) :
    wire ∈ wires ∨ ∃ old, wires[conn]? = some old ∧ wire = change old := by
  obtain ⟨index, found⟩ := List.mem_iff_getElem?.mp listed
  rw [List.getElem?_modify] at found
  obtain ⟨old, present, changed⟩ := Option.map_eq_some_iff.mp found
  split at changed
  next here => exact .inr ⟨old, here ▸ present, changed.symm⟩
  next => exact .inl (changed ▸ List.mem_of_getElem? present)

end Wires

/-! ## Steps -/

section Tracing

variable {lib : Server.Library} {network later : Network} {host : Host}

/-- What a turn of a client changes. -/
structure Turned (network : Network) (index : Nat) (conn : Option Server.ConnID)
    (action : Desktop.Action) (host : Host) (docket : Desktop.Docket) (later : Network) : Prop where
  found : network.hosts[index]? = some host
  stepped : host.docket.step host.env action = some docket
  relay : later.relay = network.relay
  announced : later.announced = network.announced
  hosts : later.hosts = network.hosts.set index { host with docket, conn }
  wires : later.wires = post network.wires conn
    ((docket.engine.frames.drop host.docket.engine.frames.length).map Desktop.encodeClip)

theorem turned_of_turn {index : Nat} {conn : Option Server.ConnID} {action : Desktop.Action}
    (turned : network.turn index conn action = some later) :
    ∃ host docket, network.Turned index conn action host docket later := by
  rw [Network.turn] at turned
  split at turned
  next => cases turned
  next host found =>
    obtain ⟨docket, stepped, rfl⟩ := Option.map_eq_some_iff.mp turned
    exact ⟨host, docket, found, stepped, rfl, rfl, rfl, rfl⟩

namespace Turned

variable {index : Nat} {conn : Option Server.ConnID} {action : Desktop.Action}
variable {docket : Desktop.Docket}

theorem present (turned : network.Turned index conn action host docket later) (other : Nat) :
    later.hosts[other]? =
      if index = other then some { host with docket, conn } else network.hosts[other]? := by
  have inside : index < network.hosts.length := (List.getElem?_eq_some_iff.mp turned.found).1
  rw [turned.hosts, List.getElem?_set, if_pos inside]

theorem grown (turned : network.Turned index conn action host docket later) :
    host.Grows { host with docket, conn } := Host.grows_of_step turned.stepped conn

theorem grows (turned : network.Turned index conn action host docket later) :
    network.Grows later := by
  refine ⟨fun other kept before => ?_, turned.announced ▸ List.Subset.refl _⟩
  rw [turned.present other]
  split_ifs with same
  · cases (same ▸ turned.found).symm.trans before
    exact ⟨_, rfl, turned.grown⟩
  · exact ⟨kept, before, .refl kept⟩

theorem fixed (turned : network.Turned index conn action host docket later) (other : Nat) :
    later.hosts[other]?.map Host.fixed = network.hosts[other]?.map Host.fixed := by
  rw [turned.present other]
  split_ifs with same
  · rw [← same, turned.found, Option.map_some, Option.map_some, turned.grown.fixed]
  · rfl

theorem wire_hosts (turned : network.Turned index conn action host docket later) :
    later.wires.map Wire.host = network.wires.map Wire.host := by
  rw [turned.wires]
  cases conn with
  | none => rfl
  | some id => exact map_host_modify _ fun _ => rfl

/-- A wire is as before, or it carries the new frames of the client. -/
theorem wire_cases (turned : network.Turned index conn action host docket later) {wire : Wire}
    (among : wire ∈ later.wires) :
    wire ∈ network.wires ∨ ∃ id old, conn = some id ∧ network.wires[id]? = some old ∧
      wire = { old with
        up := old.up ++ (docket.engine.frames.drop host.docket.engine.frames.length).map
          Desktop.encodeClip } := by
  rw [turned.wires] at among
  cases conn with
  | none => exact .inl among
  | some id =>
      rcases mem_modify among with same | ⟨old, before, rfl⟩
      · exact .inl same
      · exact .inr ⟨id, old, rfl, before, rfl⟩

end Turned

/-- What any step does to the clients and to the record of announcements. -/
structure Advances (network later : Network) : Prop where
  hosts : List.Forall₂ (Host.Moves network.wires) network.hosts later.hosts
  announced : network.announced ⊆ later.announced

theorem Advances.grows (advances : network.Advances later) : network.Grows later := by
  refine ⟨fun index host found => ?_, advances.announced⟩
  obtain ⟨kept, present, moved⟩ := Parties.later advances.hosts found
  exact ⟨kept, present, moved.grows⟩

theorem Advances.rest (hosts : later.hosts = network.hosts)
    (announced : network.announced ⊆ later.announced) : network.Advances later :=
  ⟨hosts ▸ List.forall₂_same.mpr fun host _ => .refl _ host, announced⟩

/-- One client takes a turn, possibly after a frame was taken from its wire. -/
theorem Advances.turn {wires : List Wire} {index : Nat} {conn : Option Server.ConnID}
    {action : Desktop.Action} (turned : { network with wires }.turn index conn action = some later)
    (carried : ∀ clip applying, action = .frame (.clip clip applying) →
      ∃ wire ∈ network.wires, ∃ payload ∈ wire.down, Desktop.decodeClip payload = some clip) :
    network.Advances later := by
  obtain ⟨host, docket, turned⟩ := turned_of_turn turned
  constructor
  · rw [turned.hosts]
    exact Parties.set (Host.Moves.refl _) turned.found
      (.turn docket conn action turned.stepped carried)
  · rw [turned.announced]
    exact List.Subset.refl _

theorem advances_of_step {env : Server.Env} {move : Move}
    (stepped : network.step env move = some later) : network.Advances later := by
  cases move with
  | server action =>
      simp only [Network.step] at stepped
      split at stepped
      next => cases stepped
      next =>
        obtain ⟨relay, -, rfl⟩ := Option.map_eq_some_iff.mp stepped
        exact .rest rfl (List.subset_append_left ..)
  | restart =>
      cases stepped
      exact ⟨List.forall₂_map_right_iff.mpr (List.forall₂_same.mpr fun host _ => .rest none),
        List.Subset.refl _⟩
  | dial index token =>
      simp only [Network.step] at stepped
      split at stepped
      next => cases stepped
      next =>
        obtain ⟨relay, -, rfl⟩ := Option.map_eq_some_iff.mp stepped
        exact .rest rfl (List.Subset.refl _)
  | greet conn session accepted now =>
      simp only [Network.step] at stepped
      split at stepped
      next index up down found => exact .turn stepped fun clip applying frame => by cases frame
      next => cases stepped
  | client index action =>
      simp only [Network.step] at stepped
      split at stepped
      next => cases stepped
      next unwired =>
        split at stepped
        next => cases stepped
        next host found =>
          refine .turn stepped ?_
          rintro clip applying rfl
          exact absurd rfl unwired
  | read conn now =>
      simp only [Network.step, read] at stepped
      split at stepped
      next host greeted payload rest down found =>
        split at stepped
        next =>
          cases stepped
          exact .rest rfl (List.Subset.refl _)
        next =>
          obtain ⟨relay, -, rfl⟩ := Option.map_eq_some_iff.mp stepped
          exact .rest rfl (List.Subset.refl _)
      next => cases stepped
  | write conn =>
      simp only [Network.step, write] at stepped
      split at stepped
      next => cases stepped
      next connection opened =>
        split at stepped
        next =>
          obtain ⟨relay, -, rfl⟩ := Option.map_eq_some_iff.mp stepped
          exact .rest rfl (List.Subset.refl _)
        next => cases stepped
  | receive index applying error =>
      simp only [Network.step, receive] at stepped
      split at stepped
      next => cases stepped
      next host found =>
        split at stepped
        next => cases stepped
        next conn connected =>
          split at stepped
          next owner greeted up payload rest wired =>
            refine .turn stepped fun clip applied frame => ?_
            refine ⟨_, List.mem_of_getElem? wired, payload, List.mem_cons_self, ?_⟩
            split at frame
            next decoded =>
              cases frame
              exact decoded
            next => cases frame
          next => cases stepped

/-- Everything on its way has its origin: the connections belong to the devices that dialed
them, and every payload is a clip of its device. -/
structure Traced (lib : Server.Library) (network : Network) : Prop where
  keyed : network.relay.Keyed
  filed : network.relay.Filed
  owners : network.relay.owners.map some =
    (network.wires.map Wire.host).map fun index => network.hosts[index]?.map Host.device
  carries : network.relay.Carries (network.Stems lib)
  lines : ∀ (index : Nat) (host : Host) (conn : Server.ConnID),
    network.hosts[index]? = some host → host.conn = some conn →
      (network.wires.map Wire.host)[conn]? = some index
  up : ∀ wire ∈ network.wires, ∀ payload ∈ wire.up, ∃ host,
    network.hosts[wire.host]? = some host ∧
      ∃ clip ∈ host.engine.frames, payload = Desktop.encodeClip clip
  down : ∀ wire ∈ network.wires, ∀ payload ∈ wire.down,
    ∃ event, network.Stems lib event ∧ payload = Server.encodeClip event

namespace Traced

/-- Frames taken from or put into wires. -/
theorem rewire (traced : network.Traced lib) {wires : List Wire}
    (same : wires.map Wire.host = network.wires.map Wire.host)
    (up : ∀ wire ∈ wires, ∀ payload ∈ wire.up, ∃ host, network.hosts[wire.host]? = some host ∧
      ∃ clip ∈ host.engine.frames, payload = Desktop.encodeClip clip)
    (down : ∀ wire ∈ wires, ∀ payload ∈ wire.down,
      ∃ event, network.Stems lib event ∧ payload = Server.encodeClip event) :
    { network with wires }.Traced lib where
  keyed := traced.keyed
  filed := traced.filed
  owners := same ▸ traced.owners
  carries := traced.carries.mono fun event stems =>
    stems.mono ⟨fun _ host found => ⟨host, found, .refl host⟩, List.Subset.refl _⟩
  lines index host conn found line := same ▸ traced.lines index host conn found line
  up := up
  down wire listed payload carried := by
    obtain ⟨event, stems, same⟩ := down wire listed payload carried
    exact ⟨event, stems.mono ⟨fun _ host found => ⟨host, found, .refl host⟩,
      List.Subset.refl _⟩, same⟩

/-- A step of the server that takes in only what it may carry. -/
theorem relay (traced : network.Traced lib) {env : Server.Env} {action : Server.Action}
    {relay : Server.Relay} (other : ∀ device token, action ≠ .connect device token)
    (stepped : network.relay.step env action = some relay) (announced : List String)
    (fresh : ∀ event ∈ network.relay.ingests env action,
      { network with relay, announced := network.announced ++ announced }.Stems lib event.wire) :
    { network with relay, announced := network.announced ++ announced }.Traced lib := by
  have grows : network.Grows
      { network with relay, announced := network.announced ++ announced } :=
    ⟨fun _ host found => ⟨host, found, .refl host⟩, List.subset_append_left ..⟩
  constructor
  · exact traced.keyed.step stepped
  · exact traced.filed.step stepped
  · rw [Server.Relay.owners_of_step traced.keyed other stepped]
    exact traced.owners
  · exact (traced.carries.mono fun event stems => stems.mono grows).step traced.keyed fresh
      stepped
  · exact traced.lines
  · exact traced.up
  · intro wire listed payload carried
    obtain ⟨event, stems, same⟩ := traced.down wire listed payload carried
    exact ⟨event, stems.mono grows, same⟩

theorem turn (traced : network.Traced lib) {index : Nat} {conn : Option Server.ConnID}
    {action : Desktop.Action}
    (line : ∀ id, conn = some id → (network.wires.map Wire.host)[id]? = some index)
    (turned : network.turn index conn action = some later) : later.Traced lib := by
  obtain ⟨host, docket, turned⟩ := turned_of_turn turned
  have grows := turned.grows
  have hosts := turned.wire_hosts
  have devices : (fun other : Nat => later.hosts[other]?.map Host.device) =
      fun other : Nat => network.hosts[other]?.map Host.device := by
    funext other
    have same := congrArg (Option.map (·.1)) (turned.fixed other)
    rwa [Option.map_map, Option.map_map] at same
  have sent (wire : Wire) (among : wire ∈ network.wires) (payload : Members)
      (carried : payload ∈ wire.up) : ∃ kept, later.hosts[wire.host]? = some kept ∧
        ∃ clip ∈ kept.engine.frames, payload = Desktop.encodeClip clip := by
    obtain ⟨sender, before, clip, framed, same⟩ := traced.up wire among payload carried
    obtain ⟨kept, after, grown⟩ := grows.hosts wire.host sender before
    exact ⟨kept, after, clip, grown.frames framed, same⟩
  have written (wire : Wire) (among : wire ∈ network.wires) (payload : Members)
      (carried : payload ∈ wire.down) :
      ∃ event, later.Stems lib event ∧ payload = Server.encodeClip event := by
    obtain ⟨event, stems, same⟩ := traced.down wire among payload carried
    exact ⟨event, stems.mono grows, same⟩
  constructor
  · exact turned.relay ▸ traced.keyed
  · exact turned.relay ▸ traced.filed
  · rw [turned.relay, hosts, devices]
    exact traced.owners
  · rw [turned.relay]
    exact traced.carries.mono fun event stems => stems.mono grows
  · intro other kept id before connected
    rw [hosts]
    rw [turned.present other] at before
    split_ifs at before with same
    · cases before
      exact same ▸ line id connected
    · exact traced.lines other kept id before connected
  · intro wire among payload carried
    rcases turned.wire_cases among with old | ⟨id, old, rfl, before, rfl⟩
    · exact sent wire old payload carried
    · rcases List.mem_append.mp carried with queued | posted
      · exact sent old (List.mem_of_getElem? before) payload queued
      · obtain ⟨clip, fresh, rfl⟩ := List.mem_map.mp posted
        have mine : old.host = index := by
          have here := line id rfl
          rw [List.getElem?_map, before] at here
          exact Option.some.inj here
        refine ⟨{ host with docket, conn := some id }, ?_, clip,
          List.mem_of_mem_drop fresh, rfl⟩
        rw [turned.present, if_pos mine.symm]
  · intro wire among payload carried
    rcases turned.wire_cases among with old | ⟨id, old, rfl, before, rfl⟩
    · exact written wire old payload carried
    · exact written old (List.mem_of_getElem? before) payload carried

/-- The owner of a connection of the server is the host that dialed it. -/
theorem owner (traced : network.Traced lib) {conn : Server.ConnID} {wire : Wire}
    {connection : Server.Connection} (found : network.wires[conn]? = some wire)
    (opened : network.relay.connection? conn = some connection)
    {sender : Host} (dialed : network.hosts[wire.host]? = some sender) :
    connection.owner = sender.device := by
  have owners := congrArg (fun list => list[conn]?) traced.owners
  simp only [List.getElem?_map, Server.Relay.owner_of_connection opened, found, dialed,
    Option.map_some] at owners
  exact Option.some.inj (Option.some.inj owners)

theorem read (traced : network.Traced lib) {env : Server.Env} (same : env.lib = lib)
    {conn : Server.ConnID} {now : Server.Time} (stepped : network.read env conn now = some later) :
    later.Traced lib := by
  rw [Network.read] at stepped
  split at stepped
  next host greeted payload rest down found =>
    have among : (⟨host, greeted, payload :: rest, down⟩ : Wire) ∈ network.wires :=
      List.mem_of_getElem? found
    have hosts : (network.wires.set conn ⟨host, greeted, rest, down⟩).map Wire.host =
        network.wires.map Wire.host := map_host_set found rfl
    have taken : { network with
        wires := network.wires.set conn ⟨host, greeted, rest, down⟩ }.Traced lib := by
      apply traced.rewire hosts
      · intro wire listed other carried
        rcases List.mem_or_eq_of_mem_set listed with old | rfl
        · exact traced.up wire old other carried
        · exact traced.up _ among other (List.mem_cons_of_mem _ carried)
      · intro wire listed other carried
        rcases List.mem_or_eq_of_mem_set listed with old | rfl
        · exact traced.down wire old other carried
        · exact traced.down _ among other carried
    split at stepped
    next =>
      cases stepped
      exact taken
    next event decoded =>
      obtain ⟨relay, moved, rfl⟩ := Option.map_eq_some_iff.mp stepped
      obtain ⟨sender, dialed, clip, framed, rfl⟩ := traced.up _ among payload (by simp)
      have fresh : ∀ event' ∈ network.relay.ingests env (.receiveClip conn event now),
          network.Stems lib event'.wire := by
        intro event' ingested
        obtain ⟨connection, opened, rfl⟩ := Option.map_eq_some_iff.mp ingested
        rw [onServer_of_decodeClip decoded, traced.owner found opened dialed, same]
        exact .sent sender clip now (List.mem_of_getElem? dialed) framed
      have stepped := taken.relay (by simp) moved [] fun event' ingested =>
        (fresh event' ingested).mono
          ⟨fun _ host found => ⟨host, found, .refl host⟩, List.subset_append_left ..⟩
      simpa using stepped
  next => cases stepped

theorem write (traced : network.Traced lib) {env : Server.Env}
    {conn : Server.ConnID} (stepped : network.write env conn = some later) :
    later.Traced lib := by
  rw [Network.write] at stepped
  split at stepped
  next => cases stepped
  next connection opened =>
    split at stepped
    next frame writing =>
      obtain ⟨relay, moved, rfl⟩ := Option.map_eq_some_iff.mp stepped
      have carried : ∀ payload ∈ payloads frame,
          ∃ event, network.Stems lib event ∧ payload = Server.encodeClip event := by
        intro payload listed
        cases frame with
        | clip event =>
            exact ⟨event, traced.carries.writing opened writing, List.mem_singleton.mp listed⟩
        | _ => cases listed
      have hosts : (network.wires.modify conn fun wire =>
          { wire with down := wire.down ++ payloads frame }).map Wire.host =
            network.wires.map Wire.host := map_host_modify _ fun _ => rfl
      have rewired : { network with
          wires := network.wires.modify conn fun wire =>
            { wire with down := wire.down ++ payloads frame } }.Traced lib := by
        apply traced.rewire hosts
        · intro wire listed payload sent
          rcases mem_modify listed with old | ⟨old, before, rfl⟩
          · exact traced.up wire old payload sent
          · exact traced.up old (List.mem_of_getElem? before) payload sent
        · intro wire listed payload sent
          rcases mem_modify listed with old | ⟨old, before, rfl⟩
          · exact traced.down wire old payload sent
          · rcases List.mem_append.mp sent with queued | written
            · exact traced.down old (List.mem_of_getElem? before) payload queued
            · exact carried payload written
      have stepped := rewired.relay (by simp) moved [] fun event ingested => by cases ingested
      simpa using stepped
    next => cases stepped

theorem receive (traced : network.Traced lib) {index : Nat}
    {applying : Desktop.Applying} {error : String}
    (stepped : network.receive index applying error = some later) :
    later.Traced lib := by
  rw [Network.receive] at stepped
  split at stepped
  next => cases stepped
  next host found =>
    split at stepped
    next => cases stepped
    next conn connected =>
      split at stepped
      next owner greeted up payload rest wired =>
        have among : (⟨owner, greeted, up, payload :: rest⟩ : Wire) ∈ network.wires :=
          List.mem_of_getElem? wired
        have hosts : (network.wires.set conn ⟨owner, greeted, up, rest⟩).map Wire.host =
            network.wires.map Wire.host := map_host_set wired rfl
        have taken : { network with
            wires := network.wires.set conn ⟨owner, greeted, up, rest⟩ }.Traced lib := by
          apply traced.rewire hosts
          · intro wire listed other carried
            rcases List.mem_or_eq_of_mem_set listed with old | rfl
            · exact traced.up wire old other carried
            · exact traced.up _ among other carried
          · intro wire listed other carried
            rcases List.mem_or_eq_of_mem_set listed with old | rfl
            · exact traced.down wire old other carried
            · exact traced.down _ among other (List.mem_cons_of_mem _ carried)
        refine taken.turn ?_ stepped
        rintro id ⟨rfl⟩
        exact taken.lines index host conn found connected
      next => cases stepped

theorem restart (traced : network.Traced lib) :
    ({ network with
        relay := network.relay.restart
        hosts := network.hosts.map fun host => { host with conn := none }
        wires := [] } : Network).Traced lib := by
  have unplugged (index : Nat) (host : Host) (found : network.hosts[index]? = some host) :
      (network.hosts.map fun host => ({ host with conn := none } : Host))[index]? =
        some { host with conn := none } := by
    rw [List.getElem?_map, found, Option.map_some]
  have grows : network.Grows
      { network with
        relay := network.relay.restart
        hosts := network.hosts.map fun host => { host with conn := none }
        wires := [] } :=
    ⟨fun index host found => ⟨_, unplugged index host found, ⟨rfl, List.Subset.refl _,
      List.Subset.refl _⟩⟩, List.Subset.refl _⟩
  constructor
  · exact Server.Relay.Keyed.boot _
  · exact traced.filed
  · rfl
  · exact traced.carries.restart.mono fun event stems => stems.mono grows
  · intro index host conn found connected
    rw [List.getElem?_map] at found
    obtain ⟨kept, -, rfl⟩ := Option.map_eq_some_iff.mp found
    cases connected
  · intro wire among
    cases among
  · intro wire among
    cases among

theorem dial (traced : network.Traced lib) {env : Server.Env} {index : Nat} {host : Host}
    {token : String} {relay : Server.Relay} (found : network.hosts[index]? = some host)
    (stepped : network.relay.step env (.connect host.device token) = some relay) :
    { network with
      relay
      wires := network.wires ++ [(⟨index, false, [], []⟩ : Wire)] }.Traced lib := by
  have grows : network.Grows { network with
      relay
      wires := network.wires ++ [(⟨index, false, [], []⟩ : Wire)] } :=
    ⟨fun _ host found => ⟨host, found, .refl host⟩, List.Subset.refl _⟩
  constructor
  · exact traced.keyed.step stepped
  · exact traced.filed.step stepped
  · rw [Server.Relay.owners_of_connect traced.filed stepped]
    simp only [List.map_append, List.map_cons, List.map_nil, traced.owners, found,
      Option.map_some]
  · exact (traced.carries.mono fun event stems => stems.mono grows).step traced.keyed
      (fun event ingested => by cases ingested) stepped
  · intro other kept conn before connected
    have known := traced.lines other kept conn before connected
    rw [List.map_append, List.getElem?_append_left (List.getElem?_eq_some_iff.mp known).1]
    exact known
  · intro wire among payload carried
    rcases List.mem_append.mp among with old | new
    · exact traced.up wire old payload carried
    · cases List.mem_singleton.mp new
      cases carried
  · intro wire among payload carried
    rcases List.mem_append.mp among with old | new
    · obtain ⟨event, stems, same⟩ := traced.down wire old payload carried
      exact ⟨event, stems.mono grows, same⟩
    · cases List.mem_singleton.mp new
      cases carried

theorem greet (traced : network.Traced lib) {index : Nat} {conn : Server.ConnID}
    {up down : List Members} {session : Desktop.Session} {accepted now : Nat}
    (found : network.wires[conn]? = some ⟨index, false, up, down⟩)
    (stepped : { network with wires := network.wires.set conn ⟨index, true, up, down⟩ }.turn index
      (some conn) (.connect session accepted now) = some later) : later.Traced lib := by
  have among : (⟨index, false, up, down⟩ : Wire) ∈ network.wires := List.mem_of_getElem? found
  have hosts : (network.wires.set conn ⟨index, true, up, down⟩).map Wire.host =
      network.wires.map Wire.host := map_host_set found rfl
  have marked : { network with
      wires := network.wires.set conn ⟨index, true, up, down⟩ }.Traced lib := by
    apply traced.rewire hosts
    · intro wire listed payload carried
      rcases List.mem_or_eq_of_mem_set listed with old | rfl
      · exact traced.up wire old payload carried
      · exact traced.up _ among payload carried
    · intro wire listed payload carried
      rcases List.mem_or_eq_of_mem_set listed with old | rfl
      · exact traced.down wire old payload carried
      · exact traced.down _ among payload carried
  refine marked.turn ?_ stepped
  rintro id ⟨rfl⟩
  rw [hosts, List.getElem?_map, found]
  rfl

theorem start (setups : List Setup) : (Network.start setups).Traced lib := by
  constructor
  · exact Server.Relay.Keyed.boot .empty
  · exact Server.Relay.Filed.boot
  · rfl
  · exact .boot fun id item queued => by simp [Server.Store.queueOf, Server.Store.empty] at queued
  · intro index host conn found connected
    obtain ⟨setup, -, rfl⟩ := List.mem_map.mp (List.mem_of_getElem? found)
    cases connected
  · intro wire among
    cases among
  · intro wire among
    cases among

/-- One case for each kind of move. -/
theorem step (traced : network.Traced lib) {env : Server.Env} (same : env.lib = lib)
    {move : Move} (stepped : network.step env move = some later) : later.Traced lib := by
  cases move with
  | server action =>
      simp only [Network.step] at stepped
      split at stepped
      next => cases stepped
      next unwired =>
        obtain ⟨relay, moved, rfl⟩ := Option.map_eq_some_iff.mp stepped
        refine traced.relay (fun device token connects => ?_) moved _ fun event ingested => ?_
        · exact unwired (by rw [connects]; rfl)
        · cases action with
          | receiveClip conn clip now => exact absurd rfl unwired
          | broadcast id text now =>
              cases ingested
              exact same ▸ .announced id text now (by simp [announces])
          | _ => cases ingested
  | restart =>
      cases stepped
      exact traced.restart
  | dial index token =>
      simp only [Network.step] at stepped
      split at stepped
      next => cases stepped
      next host found =>
        obtain ⟨relay, moved, rfl⟩ := Option.map_eq_some_iff.mp stepped
        exact traced.dial found moved
  | greet conn session accepted now =>
      simp only [Network.step] at stepped
      split at stepped
      next index up down found => exact traced.greet found stepped
      next => cases stepped
  | client index action =>
      simp only [Network.step] at stepped
      split at stepped
      next => cases stepped
      next unwired =>
        split at stepped
        next => cases stepped
        next host found =>
          refine traced.turn ?_ stepped
          intro id connected
          exact traced.lines index host id found connected
  | read conn now => exact traced.read same stepped
  | write conn => exact traced.write stepped
  | receive index applying error => exact traced.receive stepped

/-- A clip on a wire to a client was conveyed. -/
theorem conveyed (traced : network.Traced lib) {wire : Wire} (among : wire ∈ network.wires)
    {payload : Members} (carried : payload ∈ wire.down) {clip : Desktop.ClipEvent}
    (decoded : Desktop.decodeClip payload = some clip) : network.Conveyed lib clip := by
  obtain ⟨event, stems, rfl⟩ := traced.down wire among payload carried
  exact conveyed_of_decodeClip stems decoded

end Traced

/-- In every run everything on its way has its origin. -/
theorem traced_of_reachable {env : Server.Env} {setups : List Setup}
    (reached : Reachable (Network.step env) (Network.start setups) network) :
    network.Traced env.lib :=
  reached.invariant (.start setups) fun traced _ stepped => traced.step rfl stepped

end Tracing

end Network

end CopySync.Interop
