import CopySync.Foundation.Transition
import CopySync.Server.Store.Tokens

/-!
# Token rotation over overlapping connections

After authentication a connection may re-issue its device's token.  Reading the
record and deciding, queueing the `token_rotate` frame and committing are separate
steps, and the commit of a re-issue is a second transaction when the first finds
the grace state gone.  The frame travels on its own: it is delivered or lost at any
time after it was queued.

The machine follows one device and any number of its connections.  `minted` is not
part of the program; it lists the tokens that exist, so that freshness of a new
token can be said.
-/

namespace CopySync.Server

open Foundation

/-- Outcome of `MaybeRotateToken` that leads to a delivery. -/
structure RotateDecision where
  token : String
  reissue : Bool
  prevHash : String
  deriving DecidableEq, Repr

/-- What `maybeRotate` goes on to do. -/
inductive RotateChoice where
  | nothing
  | retire
  | deliver (decision : RotateDecision)
  deriving DecidableEq, Repr

/-- Age from which a token is re-issued. -/
def rotateAge (settings : RuntimeSettings) : Duration :=
  wrapInt64 (settings.tokenRotateDays * 24 * 3600 * 10 ^ 9)

/-- `maybeRotate` on the record it read: retire the old token when the new one is in
use, re-mint a pending token for a device still on the previous one, and re-issue a
token that is old enough. -/
def maybeRotate (hasher : TokenHasher) (record : Option TokenRecord)
    (settings : RuntimeSettings) (token generated : String) (now : Time) : RotateChoice :=
  match record with
  | none => .nothing
  | some record =>
      let presented := hasher.hashToken token
      let curMatch := record.tokenHash = presented
      if curMatch ∧ record.prevHash ≠ "" then .retire
      else if settings.tokenRotateDays ≤ 0 then .nothing
      else if ¬curMatch ∧ record.prevHash ≠ "" ∧ record.prevHash = presented then
        .deliver ⟨generated, true, record.prevHash⟩
      else if record.prevHash ≠ "" ∨ ¬curMatch then .nothing
      else if now.sub record.issuedAt < rotateAge settings then .nothing
      else .deliver ⟨generated, false, ""⟩

section Choices

variable {hasher : TokenHasher} {record : TokenRecord} {settings : RuntimeSettings}
variable {token generated : String} {now : Time}

theorem maybeRotate_retire
    (choice : maybeRotate hasher (some record) settings token generated now = .retire) :
    record.tokenHash = hasher.hashToken token := by
  unfold maybeRotate at choice
  simp only at choice
  split_ifs at choice with current
  exact current.1

/-- A delivery is a re-issue for the previous token or a rotation of the current
one. -/
theorem maybeRotate_deliver {decision : RotateDecision}
    (choice : maybeRotate hasher (some record) settings token generated now =
      .deliver decision) :
    (decision = ⟨generated, true, record.prevHash⟩ ∧ record.prevHash ≠ "" ∧
        record.prevHash = hasher.hashToken token) ∨
      (decision = ⟨generated, false, ""⟩ ∧ record.prevHash = "" ∧
        record.tokenHash = hasher.hashToken token) := by
  unfold maybeRotate at choice
  simp only at choice
  split_ifs at choice with current off grace pending young
  · cases choice
    exact .inl ⟨rfl, grace.2⟩
  · cases choice
    simp only [not_or, not_not] at pending
    exact .inr ⟨rfl, pending⟩

end Choices

/-- Where the serving goroutine of a connection stands. -/
inductive RotationStage where
  | dialled
  | authenticated
  | retiring
  | decided (decision : RotateDecision)
  | queued (decision : RotateDecision)
  | fallingBack (decision : RotateDecision)
  | finished
  deriving DecidableEq, Repr

/-- The token a connection presented, and its `token_rotate` frame while that is
queued or on the wire. -/
structure RotationSession where
  presented : String
  stage : RotationStage
  frame : Option String
  deriving DecidableEq, Repr

/-- The store, the token the client has stored, and the device's connections. -/
structure Rotation where
  store : Store
  client : String
  sessions : List RotationSession
  minted : List String

inductive RotationAction where
  | dial
  | authenticate (conn : Nat)
  | decide (conn : Nat) (settings : RuntimeSettings) (generated : String) (now : Time)
  | retire (conn : Nat)
  | enqueue (conn : Nat) (fits : Bool)
  | commit (conn : Nat) (now : Time)
  | rotate (conn : Nat) (now : Time)
  | deliver (conn : Nat)
  | lose (conn : Nat)

namespace Rotation

/-- A client that holds the token it was paired with. -/
def start (store : Store) (token : String) : Rotation := ⟨store, token, [], [token]⟩

def setSession (state : Rotation) (conn : Nat) (session : RotationSession) : Rotation :=
  { state with sessions := state.sessions.set conn session }

/-- Put a session into another stage. -/
def setStage (state : Rotation) (conn : Nat) (session : RotationSession) (stage : RotationStage) :
    Rotation :=
  state.setSession conn { session with stage }

section Steps

variable (hasher : TokenHasher) (id : DeviceID) (state : Rotation)

def authenticate (conn : Nat) (session : RotationSession) : Option Rotation :=
  match session.stage with
  | .dialled =>
      match validate hasher state.store id session.presented with
      | some _ => some (state.setStage conn session .authenticated)
      | none => some (state.setStage conn session .finished)
  | _ => none

/-- The generated token is new. -/
def decideRotation (conn : Nat) (session : RotationSession) (settings : RuntimeSettings)
    (generated : String) (now : Time) : Option Rotation :=
  match session.stage with
  | .authenticated =>
      if generated = "" ∨ generated ∈ state.minted then none
      else
        let next : RotationStage :=
          match maybeRotate hasher (state.store.getToken id) settings session.presented
            generated now with
          | .nothing => .finished
          | .retire => .retiring
          | .deliver decision => .decided decision
        some { state.setStage conn session next with minted := generated :: state.minted }
  | _ => none

def retireToken (conn : Nat) (session : RotationSession) : Option Rotation :=
  match session.stage with
  | .retiring =>
      some { state.setStage conn session .finished with
        store := state.store.retireOldToken id }
  | _ => none

/-- Queue the frame; a full send buffer drops it and skips the commit. -/
def enqueueFrame (conn : Nat) (session : RotationSession) (fits : Bool) : Option Rotation :=
  match session.stage with
  | .decided decision =>
      if fits then
        some (state.setSession conn
          { session with stage := .queued decision, frame := some decision.token })
      else some (state.setStage conn session .finished)
  | _ => none

/-- The first transaction of `commitRotation`. -/
def commitRotation (conn : Nat) (session : RotationSession) (now : Time) : Option Rotation :=
  match session.stage with
  | .queued decision =>
      let newHash := hasher.hashToken decision.token
      if decision.reissue then
        let (store, done) := state.store.reissuePendingToken id decision.prevHash newHash now
        let next : RotationStage := if done then .finished else .fallingBack decision
        some { state.setStage conn session next with store }
      else
        some { state.setStage conn session .finished with
          store := state.store.rotateToken id newHash now }
  | _ => none

/-- The fall-through of `commitRotation` after a re-issue that did nothing. -/
def fallBack (conn : Nat) (session : RotationSession) (now : Time) : Option Rotation :=
  match session.stage with
  | .fallingBack decision =>
      some { state.setStage conn session .finished with
        store := state.store.rotateToken id (hasher.hashToken decision.token) now }
  | _ => none

/-- The client stores the token of a frame it receives. -/
def deliverFrame (conn : Nat) (session : RotationSession) : Option Rotation :=
  session.frame.map fun token =>
    { state.setSession conn { session with frame := none } with client := token }

def loseFrame (conn : Nat) (session : RotationSession) : Option Rotation :=
  session.frame.map fun _ => state.setSession conn { session with frame := none }

def step : RotationAction → Option Rotation
  | .dial =>
      some { state with sessions := state.sessions ++ [⟨state.client, .dialled, none⟩] }
  | .authenticate conn =>
      state.sessions[conn]?.bind fun session => state.authenticate hasher id conn session
  | .decide conn settings generated now =>
      state.sessions[conn]?.bind fun session =>
        state.decideRotation hasher id conn session settings generated now
  | .retire conn =>
      state.sessions[conn]?.bind fun session => state.retireToken id conn session
  | .enqueue conn fits =>
      state.sessions[conn]?.bind fun session => state.enqueueFrame conn session fits
  | .commit conn now =>
      state.sessions[conn]?.bind fun session => state.commitRotation hasher id conn session now
  | .rotate conn now =>
      state.sessions[conn]?.bind fun session => state.fallBack hasher id conn session now
  | .deliver conn =>
      state.sessions[conn]?.bind fun session => state.deliverFrame conn session
  | .lose conn =>
      state.sessions[conn]?.bind fun session => state.loseFrame conn session

end Steps

end Rotation

/-! ## The condition -/

namespace RotationStage

/-- Between the decision and the end of the commit or the retirement. -/
def busy : RotationStage → Bool
  | .retiring | .decided _ | .queued _ | .fallingBack _ => true
  | _ => false

/-- The token of the decision in progress. -/
def token? : RotationStage → Option String
  | .decided decision | .queued decision | .fallingBack decision => some decision.token
  | _ => none

/-- A frame was queued and its commit is not complete. -/
def uncommitted : RotationStage → Bool
  | .queued _ | .fallingBack _ => true
  | _ => false

end RotationStage

namespace Rotation

/-- `MaybeRotateToken` runs only when no connection is between its decision and the
end of its commit, no `token_rotate` frame is on its way, and the presented token is
the one the client holds. -/
def exclusive (state : Rotation) : RotationAction → Bool
  | .decide conn _ _ _ =>
      state.sessions.all (fun session => !session.stage.busy && session.frame.isNone) &&
        state.sessions[conn]?.all fun session => decide (session.presented = state.client)
  | _ => true

/-- Every queued frame has been committed. -/
def Settled (state : Rotation) : Prop :=
  ∀ session ∈ state.sessions, session.stage.uncommitted = false

instance (state : Rotation) : Decidable state.Settled :=
  inferInstanceAs (Decidable (∀ session ∈ state.sessions, _))

/-- The device's record accepts the token the client holds. -/
def Recorded (hasher : TokenHasher) (id : DeviceID) (state : Rotation) : Prop :=
  ∃ record, state.store.tokens.get? id = some record ∧
    record.Holds (hasher.hashToken state.client)

end Rotation

end CopySync.Server
