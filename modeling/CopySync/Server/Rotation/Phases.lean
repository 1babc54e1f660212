import CopySync.Foundation.Window
import CopySync.Server.Rotation.Machine

/-!
# Phases of a rotation

When decisions do not overlap, the machine alternates between two phases.  In the
quiet one no connection is between its decision and the end of its commit, and the
record accepts the client's token and whatever frame is on its way.  In the other,
exactly one connection is there, and what it is about to write accepts both the
token it sends and the one the client held.
-/

namespace CopySync.Server.Rotation

section Phases

variable (hasher : TokenHasher) (record : TokenRecord) (client : String)

/-- Committing the decision will make the record accept the new token and the one
the client held when it was taken. -/
def Ready (decision : RotateDecision) (old : String) : Prop :=
  record.tokenHash ≠ hasher.hashToken decision.token ∧
    if decision.reissue then
      record.prevHash = decision.prevHash ∧ record.prevHash ≠ "" ∧
        record.prevHash = hasher.hashToken old
    else record.prevHash = "" ∧ record.tokenHash = hasher.hashToken old

/-- What holds of the one connection that is between decision and commit.  Its frame
may arrive before the commit. -/
def Fits (session : RotationSession) : Prop :=
  match session.stage with
  | .retiring => session.frame = none ∧ record.tokenHash = hasher.hashToken client
  | .decided decision => session.frame = none ∧ Ready hasher record decision client
  | .queued decision =>
      (∀ token ∈ session.frame, token = decision.token) ∧
        ∃ old, Ready hasher record decision old ∧ (client = old ∨ client = decision.token)
  | _ => False

/-- No connection is between decision and commit; the record accepts the client's
token and whatever is on its way. -/
structure Quiet (sessions : List RotationSession) : Prop where
  idle : ∀ session ∈ sessions, session.stage.busy = false
  frames : ∀ session ∈ sessions, ∀ token ∈ session.frame,
    record.Holds (hasher.hashToken token)
  client : record.Holds (hasher.hashToken client)

/-- One connection is between decision and commit, and only its frame can be on its
way. -/
structure ActiveAt (sessions : List RotationSession) (conn : Nat) (session : RotationSession) :
    Prop where
  found : sessions[conn]? = some session
  alone : ∀ other another, sessions[other]? = some another → other ≠ conn →
    another.stage.busy = false ∧ another.frame = none
  fits : Fits hasher record client session

end Phases

section PhaseSteps

variable {hasher : TokenHasher} {record after : TokenRecord} {client next : String}
variable {sessions : List RotationSession} {conn other : Nat} {session new : RotationSession}

/-- After a commit the record accepts both tokens; before it, the old one. -/
theorem Ready.holds_old {decision : RotateDecision} {old : String}
    (ready : Ready hasher record decision old) : record.Holds (hasher.hashToken old) := by
  obtain ⟨-, state⟩ := ready
  split_ifs at state
  · exact .inr ⟨state.2.1, state.2.2⟩
  · exact .inl state.2

/-- A rotation keeps the token the client held as the previous one. -/
theorem Ready.rotated {decision : RotateDecision} {old : String}
    (ready : Ready hasher record decision old) (fresh : decision.reissue = false) (now : Time) :
    let rotated := { record with
      prevHash := record.tokenHash
      tokenHash := hasher.hashToken decision.token
      issuedAt := now }
    rotated.Holds (hasher.hashToken decision.token) ∧ rotated.Holds (hasher.hashToken old) := by
  obtain ⟨-, state⟩ := ready
  rw [fresh, if_neg Bool.false_ne_true] at state
  refine ⟨.inl rfl, .inr ⟨?_, state.2⟩⟩
  change record.tokenHash ≠ ""
  rw [state.2]
  exact hasher.hashToken_ne old

/-- A re-issue keeps the previous token. -/
theorem Ready.reissued {decision : RotateDecision} {old : String}
    (ready : Ready hasher record decision old) (again : decision.reissue = true) (now : Time) :
    let reissued := { record with
      tokenHash := hasher.hashToken decision.token
      issuedAt := now }
    reissued.Holds (hasher.hashToken decision.token) ∧
      reissued.Holds (hasher.hashToken old) := by
  obtain ⟨-, state⟩ := ready
  rw [again, if_pos rfl] at state
  exact ⟨.inl rfl, .inr state.2⟩

theorem Fits.busy (fits : Fits hasher record client session) : session.stage.busy = true := by
  rw [Fits] at fits
  split at fits
  · simp [RotationStage.busy, *]
  · simp [RotationStage.busy, *]
  · simp [RotationStage.busy, *]
  · exact fits.elim

theorem Quiet.set (quiet : Quiet hasher record client sessions)
    (idle : new.stage.busy = false)
    (frame : ∀ token ∈ new.frame, record.Holds (hasher.hashToken token))
    (held : record.Holds (hasher.hashToken next)) :
    Quiet hasher record next (sessions.set conn new) where
  idle := by
    intro session membership
    rcases List.mem_or_eq_of_mem_set membership with old | rfl
    · exact quiet.idle session old
    · exact idle
  frames := by
    intro session membership
    rcases List.mem_or_eq_of_mem_set membership with old | rfl
    · exact quiet.frames session old
    · exact frame
  client := held

/-- Only the active connection is busy. -/
theorem ActiveAt.eq_of_busy (active : ActiveAt hasher record client sessions conn session)
    (found : sessions[other]? = some new) (busy : new.stage.busy = true) :
    other = conn ∧ new = session := by
  by_contra different
  by_cases same : other = conn
  · rw [same, active.found] at found
    cases found
    exact different ⟨same, rfl⟩
  · rw [(active.alone other new found same).1] at busy
    cases busy

/-- Only the active connection has a frame on its way. -/
theorem ActiveAt.eq_of_frame (active : ActiveAt hasher record client sessions conn session)
    (found : sessions[other]? = some new) {token : String} (frame : new.frame = some token) :
    other = conn ∧ new = session := by
  by_contra different
  by_cases same : other = conn
  · rw [same, active.found] at found
    cases found
    exact different ⟨same, rfl⟩
  · rw [(active.alone other new found same).2] at frame
    cases frame

/-- The active connection moves on. -/
theorem ActiveAt.advance (active : ActiveAt hasher record client sessions conn session)
    (fits : Fits hasher record next new) :
    ActiveAt hasher record next (sessions.set conn new) conn new where
  found := by
    rw [List.getElem?_set_self (List.getElem?_eq_some_iff.mp active.found).1]
  alone := by
    intro other another found different
    rw [List.getElem?_set_ne (Ne.symm different)] at found
    exact active.alone other another found different
  fits := fits

/-- The active connection is done. -/
theorem ActiveAt.close (active : ActiveAt hasher record client sessions conn session)
    (idle : new.stage.busy = false)
    (frame : ∀ token ∈ new.frame, after.Holds (hasher.hashToken token))
    (held : after.Holds (hasher.hashToken next)) :
    Quiet hasher after next (sessions.set conn new) := by
  have others : ∀ session ∈ sessions.set conn new,
      session = new ∨ session.stage.busy = false ∧ session.frame = none := by
    intro session membership
    obtain ⟨index, found⟩ := List.mem_iff_getElem?.mp membership
    rw [List.getElem?_set] at found
    split_ifs at found with same inside
    · cases found
      exact .inl rfl
    · exact .inr (active.alone index session found (Ne.symm same))
  constructor
  · intro session membership
    rcases others session membership with rfl | ⟨quiet, -⟩
    · exact idle
    · exact quiet
  · intro session membership
    rcases others session membership with rfl | ⟨-, none⟩
    · exact frame
    · simp [none]
  · exact held

/-- A connection enters the critical section while nothing else is going on. -/
theorem ActiveAt.enter (found : sessions[conn]? = some session)
    (nothing : ∀ session ∈ sessions, session.stage.busy = false ∧ session.frame = none)
    (fits : Fits hasher record client new) :
    ActiveAt hasher record client (sessions.set conn new) conn new where
  found := by
    rw [List.getElem?_set_self (List.getElem?_eq_some_iff.mp found).1]
  alone := by
    intro other another lookup different
    rw [List.getElem?_set_ne (Ne.symm different)] at lookup
    exact nothing another (List.mem_of_getElem? lookup)
  fits := fits

/-- Another connection changes its stage outside the critical section. -/
theorem ActiveAt.set_other (active : ActiveAt hasher record client sessions conn session)
    (different : other ≠ conn) (idle : new.stage.busy = false) (frame : new.frame = none) :
    ActiveAt hasher record client (sessions.set other new) conn session where
  found := by rw [List.getElem?_set_ne different, active.found]
  alone := by
    intro index another found apart
    rw [List.getElem?_set] at found
    split_ifs at found with same inside
    · cases found
      exact ⟨idle, frame⟩
    · exact active.alone index another found apart
  fits := active.fits

theorem ActiveAt.concat (active : ActiveAt hasher record client sessions conn session)
    (idle : new.stage.busy = false) (frame : new.frame = none) :
    ActiveAt hasher record client (sessions ++ [new]) conn session where
  found := by
    rw [List.getElem?_append_left (List.getElem?_eq_some_iff.mp active.found).1, active.found]
  alone := by
    intro index another found apart
    rcases Foundation.getElem?_concat_cases found with earlier | ⟨-, rfl⟩
    · exact active.alone index another earlier apart
    · exact ⟨idle, frame⟩
  fits := active.fits

end PhaseSteps

/-! ## What the transactions do to the record -/

section Records

variable {store : Store} {id : DeviceID} {record : TokenRecord} {hash prevHash : String}

theorem rotateToken_record (found : store.tokens.get? id = some record)
    (free : record.prevHash = "") (new : record.tokenHash ≠ hash) (now : Time) :
    (store.rotateToken id hash now).tokens.get? id =
      some { record with prevHash := record.tokenHash, tokenHash := hash, issuedAt := now } := by
  simp [Store.rotateToken, found, free, new]

theorem reissuePendingToken_record (found : store.tokens.get? id = some record)
    (pending : record.prevHash ≠ "") (same : record.prevHash = prevHash)
    (new : record.tokenHash ≠ hash) (now : Time) :
    (store.reissuePendingToken id prevHash hash now).2 = true ∧
      (store.reissuePendingToken id prevHash hash now).1.tokens.get? id =
        some { record with tokenHash := hash, issuedAt := now } := by
  subst same
  simp [Store.reissuePendingToken, found, pending, new]

theorem retireOldToken_record (found : store.tokens.get? id = some record) :
    (store.retireOldToken id).tokens.get? id = some { record with prevHash := "" } := by
  simp only [Store.retireOldToken, found]
  split_ifs with none
  · rw [found, ← none]
  · simp

end Records

end CopySync.Server.Rotation
