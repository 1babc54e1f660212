import CopySync.Desktop.Attribution
import CopySync.Interop.TextDelivery
import CopySync.Server.Relay.Provenance

/-!
# Desktop clients around one server

The engines of several devices, the server, and the connections between them.  A client
hands clip frames to its connection and the server's read pump takes them from it, one
after the other; the other way the write pump of the connection and the client do the same.
Each party takes its own steps in between, so runs are all interleavings.  A frame that is
never read was lost with its connection.

Handshakes carry nothing the clips depend on but who is on the other end.  Blobs travel
over another channel: what a client gets for a blob is up to its surroundings.
-/

namespace CopySync.Interop

open Foundation GoJson Client

/-- A device with its client, and the connection of the client's session. -/
structure Host where
  device : Server.DeviceID
  env : Desktop.Env
  docket : Desktop.Docket
  conn : Option Server.ConnID

/-- A connection of a host: the clip payloads on their way to the server and back. -/
structure Wire where
  host : Nat
  greeted : Bool
  up : List Members
  down : List Members

/-- `announced` lists the texts the administrator has broadcast. -/
structure Network where
  relay : Server.Relay
  hosts : List Host
  wires : List Wire
  announced : List String

/-- A step of one party.  `greet` is the handshake's answer reaching the client, `read`
and `write` are the pumps of a connection of the server, and `receive` is the client
taking the next clip, with what it reports when it cannot decode it. -/
inductive Move where
  | server (action : Server.Action)
  | restart
  | dial (host : Nat) (token : String)
  | greet (conn : Server.ConnID) (session : Desktop.Session) (accepted now : Nat)
  | client (host : Nat) (action : Desktop.Action)
  | read (conn : Server.ConnID) (now : Server.Time)
  | write (conn : Server.ConnID)
  | receive (host : Nat) (applying : Desktop.Applying) (error : String)

/-- Server steps that are steps of a connection. -/
def serverWired : Server.Action → Bool
  | .connect .. | .receiveClip .. | .wroteFrame .. => true
  | _ => false

/-- Client steps that are steps of a connection. -/
def clientWired : Desktop.Action → Bool
  | .connect .. | .frame (.clip ..) | .frame (.badClip ..) => true
  | _ => false

namespace Network

/-- A device whose client is installed with a configuration. -/
structure Setup where
  device : Server.DeviceID
  env : Desktop.Env
  config : Desktop.Config

/-- A new server, and clients that have not connected yet. -/
def start (setups : List Setup) : Network where
  relay := .boot .empty
  hosts := setups.map fun setup => ⟨setup.device, setup.env, .start setup.env setup.config, none⟩
  wires := []
  announced := []

/-- Frames a client has handed to the socket of its connection. -/
def post (wires : List Wire) (conn : Option Server.ConnID) (payloads : List Members) :
    List Wire :=
  match conn with
  | none => wires
  | some conn => wires.modify conn fun wire => { wire with up := wire.up ++ payloads }

/-- A turn of a client whose session runs over a connection. -/
def turn (network : Network) (index : Nat) (conn : Option Server.ConnID)
    (action : Desktop.Action) : Option Network :=
  match network.hosts[index]? with
  | none => none
  | some host =>
      (host.docket.step host.env action).map fun docket =>
        let sent := docket.engine.frames.drop host.docket.engine.frames.length
        { network with
          hosts := network.hosts.set index { host with docket, conn }
          wires := post network.wires conn (sent.map Desktop.encodeClip) }

/-- The texts a step of the server announces. -/
def announces : Server.Action → List String
  | .broadcast _ text _ => [text]
  | _ => []

/-- The server's read pump takes the next payload; one it cannot decode is dropped. -/
def read (env : Server.Env) (network : Network) (conn : Server.ConnID) (now : Server.Time) :
    Option Network :=
  match network.wires[conn]? with
  | some ⟨host, greeted, payload :: rest, down⟩ =>
      let taken := { network with wires := network.wires.set conn ⟨host, greeted, rest, down⟩ }
      match Server.decodeClip (.object payload) with
      | none => some taken
      | some event =>
          (network.relay.step env (.receiveClip conn event now)).map fun relay =>
            { taken with relay }
  | _ => none

/-- The payload of a clip frame. -/
def payloads : Server.Frame → List Members
  | .clip event => [Server.encodeClip event]
  | _ => []

/-- The write pump has written a frame. -/
def write (env : Server.Env) (network : Network) (conn : Server.ConnID) : Option Network :=
  match network.relay.connection? conn with
  | none => none
  | some connection =>
      match connection.pump with
      | .writing frame =>
          (network.relay.step env (.wroteFrame conn)).map fun relay =>
            { network with
              relay
              wires := network.wires.modify conn fun wire =>
                { wire with down := wire.down ++ payloads frame } }
      | _ => none

/-- The client takes the next payload from its connection. -/
def receive (network : Network) (index : Nat) (applying : Desktop.Applying) (error : String) :
    Option Network :=
  match network.hosts[index]? with
  | none => none
  | some host =>
      match host.conn with
      | none => none
      | some conn =>
          match network.wires[conn]? with
          | some ⟨owner, greeted, up, payload :: rest⟩ =>
              let taken := { network with
                wires := network.wires.set conn ⟨owner, greeted, up, rest⟩ }
              let frame : Desktop.Frame :=
                match Desktop.decodeClip payload with
                | some event => .clip event applying
                | none => .badClip error
              taken.turn index (some conn) (.frame frame)
          | _ => none

def step (env : Server.Env) (network : Network) : Move → Option Network
  | .server action =>
      if serverWired action then none
      else
        (network.relay.step env action).map fun relay =>
          { network with relay, announced := network.announced ++ announces action }
  | .restart =>
      some { network with
        relay := network.relay.restart
        hosts := network.hosts.map fun host => { host with conn := none }
        wires := [] }
  | .dial index token =>
      match network.hosts[index]? with
      | none => none
      | some host =>
          (network.relay.step env (.connect host.device token)).map fun relay =>
            { network with relay, wires := network.wires ++ [⟨index, false, [], []⟩] }
  | .greet conn session accepted now =>
      match network.wires[conn]? with
      | some ⟨host, false, up, down⟩ =>
          { network with wires := network.wires.set conn ⟨host, true, up, down⟩ }.turn host
            (some conn) (.connect session accepted now)
      | _ => none
  | .client index action =>
      if clientWired action then none
      else
        match network.hosts[index]? with
        | none => none
        | some host => network.turn index host.conn action
  | .read conn now => network.read env conn now
  | .write conn => network.write env conn
  | .receive index applying error => network.receive index applying error

end Network

end CopySync.Interop
