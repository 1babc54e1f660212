import CopySync.Server.Rotation.Phases
import Mathlib.Data.Set.Function

/-!
# Rotation and lockout

Under the condition that decisions do not overlap with other rotations of the device,
the two phases are an invariant, and the client's token stays on record.  Without it
two connections can decide on the same record; the second commit then does nothing
although its token is already on the way.
-/

namespace CopySync.Server.Rotation

open Foundation

/-! ## Runs of the machine -/

/-- The invariant: the device has a record, its current hash and the decisions in
progress are of tokens that exist, and the machine is in one of the two phases. -/
structure Guarded (hasher : TokenHasher) (id : DeviceID) (state : Rotation)
    (record : TokenRecord) : Prop where
  found : state.store.tokens.get? id = some record
  known : ∃ token ∈ state.minted, record.tokenHash = hasher.hashToken token
  decisions : ∀ session ∈ state.sessions, ∀ token ∈ session.stage.token?, token ∈ state.minted
  phase : Quiet hasher record state.client state.sessions ∨
    ∃ conn session, ActiveAt hasher record state.client state.sessions conn session

section Runs

variable {hasher : TokenHasher} {id : DeviceID} {state after : Rotation} {record : TokenRecord}
variable {conn : Nat} {session : RotationSession}

/-- Replacing a session keeps what holds of all. -/
theorem forall_mem_setSession {holds : RotationSession → Prop} {sessions : List RotationSession}
    {new : RotationSession} (all : ∀ session ∈ sessions, holds session) (fine : holds new) :
    ∀ session ∈ sessions.set conn new, holds session := by
  intro session membership
  rcases List.mem_or_eq_of_mem_set membership with old | rfl
  · exact all session old
  · exact fine

namespace Guarded

theorem busy_active (guarded : Guarded hasher id state record)
    (found : state.sessions[conn]? = some session) (busy : session.stage.busy = true) :
    ActiveAt hasher record state.client state.sessions conn session := by
  rcases guarded.phase with quiet | ⟨active, running, inside⟩
  · rw [quiet.idle session (List.mem_of_getElem? found)] at busy
    cases busy
  · obtain ⟨rfl, rfl⟩ := inside.eq_of_busy found busy
    exact inside

theorem dial (guarded : Guarded hasher id state record) :
    Guarded hasher id
      { state with sessions := state.sessions ++ [⟨state.client, .dialled, none⟩] } record where
  found := guarded.found
  known := guarded.known
  decisions := by
    intro session membership
    rcases List.mem_append.mp membership with old | new
    · exact guarded.decisions session old
    · simp [List.mem_singleton.mp new, RotationStage.token?]
  phase := by
    rcases guarded.phase with quiet | ⟨conn, session, active⟩
    · refine .inl ⟨?_, ?_, quiet.client⟩
      · intro session membership
        rcases List.mem_append.mp membership with old | new
        · exact quiet.idle session old
        · rw [List.mem_singleton.mp new]
          rfl
      · intro session membership
        rcases List.mem_append.mp membership with old | new
        · exact quiet.frames session old
        · simp [List.mem_singleton.mp new]
    · exact .inr ⟨conn, session, active.concat rfl rfl⟩

/-- A connection outside the critical section moves to another such stage. -/
theorem setStage (guarded : Guarded hasher id state record)
    (found : state.sessions[conn]? = some session) (idle : session.stage.busy = false)
    {stage : RotationStage} (stays : stage.busy = false) (none : stage.token? = none) :
    Guarded hasher id (state.setStage conn session stage) record where
  found := guarded.found
  known := guarded.known
  decisions := forall_mem_setSession guarded.decisions (by simp [none])
  phase := by
    rcases guarded.phase with quiet | ⟨running, active, inside⟩
    · exact .inl (quiet.set stays (quiet.frames session (List.mem_of_getElem? found))
        quiet.client)
    · have different : conn ≠ running := by
        rintro rfl
        rw [inside.found] at found
        cases found
        rw [inside.fits.busy] at idle
        cases idle
      exact .inr ⟨running, active,
        inside.set_other different stays (inside.alone conn session found different).2⟩

theorem authenticate (guarded : Guarded hasher id state record)
    (found : state.sessions[conn]? = some session)
    (stepped : state.authenticate hasher id conn session = some after) :
    Guarded hasher id after record := by
  rw [Rotation.authenticate] at stepped
  split at stepped
  next stage =>
    have idle : session.stage.busy = false := by rw [stage]; rfl
    split at stepped
    · cases stepped
      exact guarded.setStage found idle rfl rfl
    · cases stepped
      exact guarded.setStage found idle rfl rfl
  next => cases stepped

theorem retireToken (guarded : Guarded hasher id state record)
    (found : state.sessions[conn]? = some session)
    (stepped : state.retireToken id conn session = some after) :
    Guarded hasher id after { record with prevHash := "" } := by
  rw [Rotation.retireToken] at stepped
  split at stepped
  next stage =>
    cases stepped
    have active := guarded.busy_active found (by rw [stage]; rfl)
    obtain ⟨frame, current⟩ : session.frame = none ∧
        record.tokenHash = hasher.hashToken state.client := by
      simpa [Fits, stage] using active.fits
    exact {
      found := retireOldToken_record guarded.found
      known := guarded.known
      decisions := forall_mem_setSession guarded.decisions (by simp [RotationStage.token?])
      phase := .inl (active.close rfl (by simp [frame]) (.inl current)) }
  next => cases stepped

theorem enqueueFrame (guarded : Guarded hasher id state record)
    (found : state.sessions[conn]? = some session) {fits : Bool}
    (stepped : state.enqueueFrame conn session fits = some after) :
    Guarded hasher id after record := by
  rw [Rotation.enqueueFrame] at stepped
  split at stepped
  next decision stage =>
    have active := guarded.busy_active found (by rw [stage]; rfl)
    have minted : decision.token ∈ state.minted :=
      guarded.decisions session (List.mem_of_getElem? found) _ (by rw [stage]; rfl)
    obtain ⟨frame, ready⟩ : session.frame = none ∧
        Ready hasher record decision state.client := by
      simpa [Fits, stage] using active.fits
    split_ifs at stepped
    · cases stepped
      exact {
        found := guarded.found
        known := guarded.known
        decisions := forall_mem_setSession guarded.decisions (by
          intro token same
          cases same
          exact minted)
        phase := .inr ⟨conn, _, active.advance (by
          simp only [Fits, Option.mem_some_iff, forall_eq']
          exact ⟨trivial, state.client, ready, .inl rfl⟩)⟩ }
    · cases stepped
      exact {
        found := guarded.found
        known := guarded.known
        decisions := forall_mem_setSession guarded.decisions (by simp [RotationStage.token?])
        phase := .inl (active.close rfl (by simp [frame]) ready.holds_old) }
  next => cases stepped

theorem commitRotation (guarded : Guarded hasher id state record)
    (found : state.sessions[conn]? = some session) {now : Time}
    (stepped : state.commitRotation hasher id conn session now = some after) :
    ∃ committed, Guarded hasher id after committed := by
  rw [Rotation.commitRotation] at stepped
  split at stepped
  next decision stage =>
    have active := guarded.busy_active found (by rw [stage]; rfl)
    have minted : decision.token ∈ state.minted :=
      guarded.decisions session (List.mem_of_getElem? found) _ (by rw [stage]; rfl)
    obtain ⟨frames, old, ready, holder⟩ : (∀ token ∈ session.frame, token = decision.token) ∧
        ∃ old, Ready hasher record decision old ∧
          (state.client = old ∨ state.client = decision.token) := by
      simpa only [Fits, stage] using active.fits
    -- Whatever the commit writes, it accepts the new and the old token.
    have finish : ∀ {store : Store} {committed : TokenRecord},
        store.tokens.get? id = some committed →
        committed.tokenHash = hasher.hashToken decision.token →
        committed.Holds (hasher.hashToken decision.token) ∧
          committed.Holds (hasher.hashToken old) →
        Guarded hasher id { state.setStage conn session .finished with store } committed := by
      intro store committed written current holds
      exact {
        found := written
        known := ⟨decision.token, minted, current⟩
        decisions := forall_mem_setSession guarded.decisions (by simp [RotationStage.token?])
        phase := .inl (active.close rfl (fun token frame => frames token frame ▸ holds.1)
          (holder.elim (fun same => same ▸ holds.2) (fun same => same ▸ holds.1))) }
    have fresh := ready.1
    split_ifs at stepped with reissue
    · obtain ⟨prevHash, pending, -⟩ := (if_pos reissue ▸ ready.2 :)
      obtain ⟨done, written⟩ :=
        reissuePendingToken_record guarded.found pending prevHash fresh now
      simp only [done, if_true, Option.some.injEq] at stepped
      subst stepped
      exact ⟨_, finish written rfl (ready.reissued reissue now)⟩
    · cases stepped
      have normal : decision.reissue = false := by simpa using reissue
      have free : record.prevHash = "" := (if_neg reissue ▸ ready.2 :).1
      exact ⟨_, finish (rotateToken_record guarded.found free fresh now) rfl
        (ready.rotated normal now)⟩
  next => cases stepped

/-- Under the condition a re-issue never finds the grace state gone. -/
theorem fallBack (guarded : Guarded hasher id state record)
    (found : state.sessions[conn]? = some session) {now : Time}
    (stepped : state.fallBack hasher id conn session now = some after) : False := by
  rw [Rotation.fallBack] at stepped
  split at stepped
  next decision stage =>
    have active := guarded.busy_active found (by rw [stage]; rfl)
    simpa [Fits, stage] using active.fits
  next => cases stepped

/-- The frame of the active connection carries the token of its decision. -/
theorem frame_fits {token : String} {running : Nat}
    (active : ActiveAt hasher record state.client state.sessions running session)
    (frame : session.frame = some token) {client : String}
    (holder : client = state.client ∨ client = token) :
    Fits hasher record client { session with frame := none } := by
  have fits := active.fits
  rw [Fits] at fits ⊢
  split at fits
  next stage => simp [frame] at fits
  next stage => simp [frame] at fits
  next decision stage =>
    obtain ⟨frames, old, ready, held⟩ := fits
    have same := frames token (by simp [frame])
    simp only [stage]
    refine ⟨by simp, old, ready, ?_⟩
    rcases holder with rfl | rfl
    · exact held
    · exact .inr same
  next => exact fits.elim

/-- A frame leaves the wire; the client holds what it held or the frame's token. -/
theorem frame_gone (guarded : Guarded hasher id state record)
    (found : state.sessions[conn]? = some session) {token client : String}
    (frame : session.frame = some token) (holder : client = state.client ∨ client = token) :
    Guarded hasher id
      { state.setSession conn { session with frame := none } with client } record where
  found := guarded.found
  known := guarded.known
  decisions := forall_mem_setSession guarded.decisions
    (guarded.decisions session (List.mem_of_getElem? found))
  phase := by
    rcases guarded.phase with quiet | ⟨running, active, inside⟩
    · have member := List.mem_of_getElem? found
      have held : record.Holds (hasher.hashToken client) := by
        rcases holder with rfl | rfl
        · exact quiet.client
        · exact quiet.frames session member _ frame
      exact .inl (quiet.set (quiet.idle session member) (by simp) held)
    · obtain ⟨rfl, rfl⟩ := inside.eq_of_frame found frame
      exact .inr ⟨conn, _, inside.advance (frame_fits inside frame holder)⟩

/-- New tokens have new hashes. -/
theorem fresh_hash (guarded : Guarded hasher id state record) {generated : String}
    (new : generated ∉ state.minted)
    (injective : Set.InjOn hasher.hashToken {token | token ∈ generated :: state.minted}) :
    record.tokenHash ≠ hasher.hashToken generated := by
  obtain ⟨token, minted, current⟩ := guarded.known
  rw [current]
  intro same
  have equal := injective (List.mem_cons_of_mem _ minted) List.mem_cons_self same
  exact new (equal ▸ minted)

theorem decideRotation (guarded : Guarded hasher id state record)
    (found : state.sessions[conn]? = some session) {settings : RuntimeSettings}
    {generated : String} {now : Time}
    (alone : state.exclusive (.decide conn settings generated now) = true)
    (stepped : state.decideRotation hasher id conn session settings generated now = some after)
    (injective : Set.InjOn hasher.hashToken {token | token ∈ after.minted}) :
    Guarded hasher id after record := by
  simp only [exclusive, found, Option.all_some, Bool.and_eq_true, List.all_eq_true,
    Bool.not_eq_true', Option.isNone_iff_eq_none, decide_eq_true_eq] at alone
  obtain ⟨nothing, presented⟩ := alone
  have quiet : Quiet hasher record state.client state.sessions := by
    rcases guarded.phase with quiet | ⟨running, active, inside⟩
    · exact quiet
    · have idle := (nothing active (List.mem_of_getElem? inside.found)).1
      rw [inside.fits.busy] at idle
      cases idle
  rw [Rotation.decideRotation] at stepped
  split at stepped
  next stage =>
    split_ifs at stepped with stale
    obtain ⟨-, new⟩ := not_or.mp stale
    cases stepped
    have fresh := guarded.fresh_hash new injective
    have older : ∀ other ∈ state.sessions, ∀ token ∈ other.stage.token?,
        token ∈ generated :: state.minted := fun other membership token shown =>
      List.mem_cons_of_mem _ (guarded.decisions other membership token shown)
    obtain ⟨token, minted, current⟩ := guarded.known
    have member := List.mem_of_getElem? found
    have frame := (nothing session member).2
    refine ⟨guarded.found, ⟨token, List.mem_cons_of_mem _ minted, current⟩, ?_, ?_⟩
    all_goals
      simp only [Store.getToken, guarded.found]
      cases choice : maybeRotate hasher (some record) settings session.presented generated now
    case refine_1.nothing | refine_1.retire =>
      exact forall_mem_setSession older (by simp [RotationStage.token?])
    case refine_1.deliver decision =>
      have carries : decision.token = generated := by
        rcases maybeRotate_deliver choice with ⟨rfl, -⟩ | ⟨rfl, -⟩ <;> rfl
      exact forall_mem_setSession older (by simp [RotationStage.token?, carries])
    case refine_2.nothing =>
      exact .inl (quiet.set rfl (quiet.frames session member) quiet.client)
    case refine_2.retire =>
      have matching := maybeRotate_retire choice
      rw [presented] at matching
      exact .inr ⟨conn, _, .enter found nothing ⟨frame, matching⟩⟩
    case refine_2.deliver decision =>
      refine .inr ⟨conn, _, .enter found nothing ⟨frame, ?_⟩⟩
      rcases maybeRotate_deliver choice with
        ⟨rfl, pending, grace⟩ | ⟨rfl, free, matching⟩
      · exact ⟨fresh, rfl, pending, presented ▸ grace⟩
      · exact ⟨fresh, free, presented ▸ matching⟩
  next => cases stepped

theorem step {action : RotationAction} (guarded : Guarded hasher id state record)
    (alone : state.exclusive action = true)
    (stepped : state.step hasher id action = some after)
    (injective : Set.InjOn hasher.hashToken {token | token ∈ after.minted}) :
    ∃ committed, Guarded hasher id after committed := by
  cases action with
  | dial =>
      cases stepped
      exact ⟨record, guarded.dial⟩
  | authenticate conn =>
      obtain ⟨session, found, stepped⟩ := Option.bind_eq_some_iff.mp stepped
      exact ⟨record, guarded.authenticate found stepped⟩
  | decide conn settings generated now =>
      obtain ⟨session, found, stepped⟩ := Option.bind_eq_some_iff.mp stepped
      exact ⟨record, guarded.decideRotation found alone stepped injective⟩
  | retire conn =>
      obtain ⟨session, found, stepped⟩ := Option.bind_eq_some_iff.mp stepped
      exact ⟨_, guarded.retireToken found stepped⟩
  | enqueue conn fits =>
      obtain ⟨session, found, stepped⟩ := Option.bind_eq_some_iff.mp stepped
      exact ⟨record, guarded.enqueueFrame found stepped⟩
  | commit conn now =>
      obtain ⟨session, found, stepped⟩ := Option.bind_eq_some_iff.mp stepped
      exact guarded.commitRotation found stepped
  | rotate conn now =>
      obtain ⟨session, found, stepped⟩ := Option.bind_eq_some_iff.mp stepped
      exact (guarded.fallBack found stepped).elim
  | deliver conn =>
      obtain ⟨session, found, stepped⟩ := Option.bind_eq_some_iff.mp stepped
      obtain ⟨token, frame, rfl⟩ := Option.map_eq_some_iff.mp stepped
      exact ⟨record, guarded.frame_gone found frame (.inr rfl)⟩
  | lose conn =>
      obtain ⟨session, found, stepped⟩ := Option.bind_eq_some_iff.mp stepped
      obtain ⟨token, frame, rfl⟩ := Option.map_eq_some_iff.mp stepped
      exact ⟨record, guarded.frame_gone found frame (.inl rfl)⟩

/-- Outside uncommitted deliveries the record accepts the client's token. -/
theorem recorded (guarded : Guarded hasher id state record) (settled : state.Settled) :
    state.Recorded hasher id := by
  refine ⟨record, guarded.found, ?_⟩
  rcases guarded.phase with quiet | ⟨conn, session, inside⟩
  · exact quiet.client
  · have committed := settled session (List.mem_of_getElem? inside.found)
    have fits := inside.fits
    rw [Fits] at fits
    split at fits
    next => exact .inl fits.2
    next => exact fits.2.holds_old
    next decision stage =>
      rw [stage] at committed
      cases committed
    next => exact fits.elim

end Guarded

/-- Tokens are never forgotten. -/
theorem minted_of_step {action : RotationAction}
    (stepped : state.step hasher id action = some after) :
    ∀ token ∈ state.minted, token ∈ after.minted := by
  intro token minted
  cases action with
  | dial =>
      cases stepped
      exact minted
  | deliver conn | lose conn =>
      obtain ⟨session, -, stepped⟩ := Option.bind_eq_some_iff.mp stepped
      obtain ⟨-, -, rfl⟩ := Option.map_eq_some_iff.mp stepped
      exact minted
  | authenticate conn =>
      obtain ⟨session, -, stepped⟩ := Option.bind_eq_some_iff.mp stepped
      rw [Rotation.authenticate] at stepped
      repeat' split at stepped
      all_goals
        cases stepped
        try exact minted
  | decide conn settings generated now =>
      obtain ⟨session, -, stepped⟩ := Option.bind_eq_some_iff.mp stepped
      rw [Rotation.decideRotation] at stepped
      split at stepped
      next =>
        split_ifs at stepped
        cases stepped
        exact List.mem_cons_of_mem _ minted
      next => cases stepped
  | retire conn =>
      obtain ⟨session, -, stepped⟩ := Option.bind_eq_some_iff.mp stepped
      rw [Rotation.retireToken] at stepped
      split at stepped <;> cases stepped
      exact minted
  | enqueue conn fits =>
      obtain ⟨session, -, stepped⟩ := Option.bind_eq_some_iff.mp stepped
      rw [Rotation.enqueueFrame] at stepped
      split at stepped
      next => split_ifs at stepped <;> cases stepped <;> exact minted
      next => cases stepped
  | commit conn now =>
      obtain ⟨session, -, stepped⟩ := Option.bind_eq_some_iff.mp stepped
      rw [Rotation.commitRotation] at stepped
      split at stepped
      next => split_ifs at stepped <;> cases stepped <;> exact minted
      next => cases stepped
  | rotate conn now =>
      obtain ⟨session, -, stepped⟩ := Option.bind_eq_some_iff.mp stepped
      rw [Rotation.fallBack] at stepped
      split at stepped <;> cases stepped
      exact minted

end Runs

/-- In every run in which decisions do not overlap with other rotations of the device,
the record accepts the token the client holds whenever every queued frame has been
committed. -/
theorem never_locked_out {hasher : TokenHasher} {id : DeviceID} {store : Store}
    {token : String} {record : TokenRecord} (found : store.tokens.get? id = some record)
    (paired : record.tokenHash = hasher.hashToken token) {state : Rotation}
    (run : Run (Rotation.step hasher id)
      (fun before action => before.exclusive action = true) (start store token) state)
    (injective : Set.InjOn hasher.hashToken {token | token ∈ state.minted})
    (settled : state.Settled) : state.Recorded hasher id := by
  have inv : Set.InjOn hasher.hashToken {token | token ∈ state.minted} →
      ∃ record, Guarded hasher id state record := by
    apply run.invariant
    · intro _
      exact ⟨record, found, ⟨token, List.mem_singleton_self token, paired⟩, by simp [start],
        .inl ⟨by simp [start], by simp [start], .inl paired⟩⟩
    · intro before after action inv alone stepped distinct
      obtain ⟨current, guarded⟩ := inv (Set.InjOn.mono (minted_of_step stepped) distinct)
      exact guarded.step alone stepped distinct
  obtain ⟨current, guarded⟩ := inv injective
  exact guarded.recorded settled

/-! ## Concrete runs -/

/-- A store with one device, paired with the token `t0`. -/
def pairedStore : Store :=
  [TokenOp.putPairing ⟨"AAAA", 0, 100, none⟩,
    .claimPairing "AAAA" 1 ⟨"dev_a", "laptop", "linux", "", 1, 1, false⟩ "h:t0"].foldl
      (TokenOp.apply plainLibrary) Store.empty

/-- Tokens are re-issued after a day. -/
def daily : RuntimeSettings := { RuntimeSettings.default with tokenRotateDays := 1 }

theorem tagHasher_injective : Function.Injective tagHasher.hashToken := by
  intro left right same
  simpa [tagHasher, ← String.toList_inj] using same

/-- Whether the record accepts the client's token. -/
def recorded (hasher : TokenHasher) (id : DeviceID) (state : Rotation) : Bool :=
  (state.store.tokens.get? id).any fun record =>
    decide (record.Holds (hasher.hashToken state.client))

theorem recorded_of_Recorded {hasher : TokenHasher} {id : DeviceID} {state : Rotation}
    (holds : state.Recorded hasher id) : state.recorded hasher id = true := by
  obtain ⟨record, found, accepts⟩ := holds
  simp [recorded, found, accepts]

/-- Two connections decide on the same record.  The second commit does nothing, and
the client ends with a token no record knows. -/
theorem overlapping_rotation_locks_out :
    ¬∀ (hasher : TokenHasher) (id : DeviceID) (store : Store) (token : String)
      (record : TokenRecord) (state : Rotation), store.tokens.get? id = some record →
      record.tokenHash = hasher.hashToken token →
      Reachable (Rotation.step hasher id) (start store token) state →
      Set.InjOn hasher.hashToken {token | token ∈ state.minted} → state.Settled →
      state.Recorded hasher id := by
  intro claim
  obtain ⟨state, reached, checked⟩ := Reachable.exists_of_exec
    (Rotation.step tagHasher "dev_a") (start pairedStore "t0")
    [.dial, .dial, .authenticate 0, .authenticate 1, .decide 0 daily "t1" (10 ^ 15),
      .decide 1 daily "t2" (10 ^ 15), .enqueue 0 true, .commit 0 (10 ^ 15), .enqueue 1 true,
      .commit 1 (10 ^ 15), .deliver 0, .deliver 1]
    (fun state => decide state.Settled && !state.recorded tagHasher "dev_a")
    (by decide +kernel)
  simp only [Bool.and_eq_true, decide_eq_true_eq, Bool.not_eq_true'] at checked
  have accepted := claim tagHasher "dev_a" pairedStore "t0" ⟨"dev_a", "h:t0", "", 1, false⟩ state
    (by decide) (by decide) reached (tagHasher_injective.injOn) checked.1
  rw [recorded_of_Recorded accepted] at checked
  cases checked.2

/-- A rotation that is delivered and then confirmed on the next connection. -/
theorem confirmed_rotation_recorded :
    ∃ state, Run (Rotation.step tagHasher "dev_a")
      (fun before action => before.exclusive action = true) (start pairedStore "t0") state ∧
      state.client = "t1" ∧ state.Settled ∧ state.Recorded tagHasher "dev_a" := by
  obtain ⟨state, run, checked⟩ := Run.exists_of_execWhen
    (Rotation.step tagHasher "dev_a") Rotation.exclusive (start pairedStore "t0")
    [.dial, .dial, .authenticate 0, .decide 0 daily "t1" (10 ^ 15), .enqueue 0 true,
      .commit 0 (10 ^ 15), .deliver 0, .dial, .authenticate 2, .decide 2 daily "t2" (10 ^ 15),
      .retire 2]
    (fun state => decide (state.client = "t1" ∧ state.Settled))
    (by decide +kernel)
  obtain ⟨client, settled⟩ := of_decide_eq_true checked
  have paired : pairedStore.tokens.get? "dev_a" = some ⟨"dev_a", "h:t0", "", 1, false⟩ := by
    decide
  exact ⟨state, run, client, settled,
    never_locked_out paired (by decide) run tagHasher_injective.injOn settled⟩

end CopySync.Server.Rotation
