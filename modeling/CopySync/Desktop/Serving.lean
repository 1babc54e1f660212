import CopySync.Desktop.Turn

/-!
# Desktop client: holds and what is served for them

A hold of a ciphertext is uploaded under the id it was advertised by.  A hold of a path is
read again when the server asks, and uploaded under the digest of what is there by then; the
result says that the upload succeeded, and not under which id.
-/

namespace CopySync.Desktop

open Foundation Client

/-! ## Ciphertexts under their ids -/

/-- A ciphertext a plan holds has the id of its clip. -/
def Plan.Addressed (env : Env) : Plan → Prop
  | .post event (some (.encrypted body)) _ _ _ => blobId env.prims body = event.blobId
  | _ => True

theorem Plan.Made.addressed {env : Env} {plan : Plan} (made : plan.Made env) :
    plan.Addressed env := by
  cases made with
  | text key seq maxMsg text html sending =>
      rw [textPlan]
      repeat' split
      all_goals trivial
  | image key seq picture echoSha sending =>
      rw [imagePlan]
      repeat' split
      all_goals trivial
  | file key seq threshold document sending =>
      rw [filePlan]
      split
      · trivial
      next size _ =>
        simp only [contentPlan]
        split
        · trivial
        · split
          · trivial
          · by_cases large : 0 < threshold ∧ threshold < size
            · rw [if_pos large]
              cases key with
              | none => trivial
              | some pair => rfl
            · rw [if_neg large]
              trivial

/-- Ciphertexts are held and served under their ids, and a served blob was stored. -/
structure Serving (env : Env) (engine : Engine) : Prop where
  valid : engine.holds.Valid
  held : ∀ {id : String} {body : Bytes}, engine.holds.get? id = some (.encrypted body) →
    blobId env.prims body = id
  working : ∀ {id : String} {bytes : Bytes}, .serve id bytes ∈ engine.workers →
    blobId env.prims bytes = id
  done : ∀ {id : String}, .serve id true ∈ engine.results →
    ∃ body, .stored id body ∈ engine.log ∧ blobId env.prims body = id

def Output.stored? : Output → Option (String × Bytes)
  | .stored id body => some (id, body)
  | _ => none

/-- A request for a path finds the file as it was advertised. -/
def careful (env : Env) (engine : Engine) : Action → Bool
  | .frame (.blobRequest id (.ok bytes)) =>
      match engine.holds.get? id with
      | some (.plain _) => decide (blobId env.prims bytes = id)
      | _ => true
  | _ => true

namespace Serving

variable {env : Env} {engine next : Engine}

theorem start (env : Env) (config : Config) : Serving env (.start env config) where
  valid := .empty
  held := fun absent => by cases absent
  working := fun absent => by cases absent
  done := fun absent => by cases absent

/-- Nothing was held, and nobody serves or has served, who did not before. -/
theorem frame (inv : Serving env engine) (holds : next.holds = engine.holds)
    (workers : ∀ {id bytes}, Worker.serve id bytes ∈ next.workers →
      Worker.serve id bytes ∈ engine.workers)
    (results : ∀ {id}, BlobResult.serve id true ∈ next.results →
      BlobResult.serve id true ∈ engine.results)
    (log : engine.log ⊆ next.log) : Serving env next where
  valid := holds ▸ inv.valid
  held := fun found => inv.held (holds ▸ found)
  working := fun among => inv.working (workers among)
  done := by
    intro id among
    obtain ⟨body, stored, address⟩ := inv.done (results among)
    exact ⟨body, log stored, address⟩

theorem emit (inv : Serving env engine) (output : Output) : Serving env (engine.emit output) :=
  inv.frame rfl (fun among => among) (fun among => among) (List.subset_append_left _ _)

theorem drop (inv : Serving env engine) (why : String) : Serving env (engine.drop why) :=
  inv.frame rfl (fun among => among) (fun among => among) (List.subset_append_left _ _)

theorem insert (inv : Serving env engine) {id : String} {hold : Hold}
    (addressed : ∀ body, hold = .encrypted body → blobId env.prims body = id) :
    Serving env { engine with holds := engine.holds.insert id hold } where
  valid := inv.valid.insert id hold
  held := by
    intro query body found
    rcases inv.valid.get?_insert found with ⟨rfl, same⟩ | before
    · exact addressed body same.symm
    · exact inv.held before
  working := inv.working
  done := inv.done

theorem carryOut (inv : Serving env engine) {plan : Plan} (made : plan.Made env)
    (sending : Sending) : Serving env (engine.carryOut env plan sending).1 := by
  have addressed := made.addressed
  cases plan with
  | refuse output => exact inv.emit output
  | upload payload report =>
      refine inv.frame rfl ?_ (fun among => among) (List.subset_append_left _ _)
      intro id bytes among
      simpa [Engine.carryOut, Engine.spawn, Engine.emit] using among
  | post event hold row notice sha =>
      have inserted : Serving env { engine with
          holds := hold.elim engine.holds (engine.holds.insert event.blobId ·) } := by
        cases hold with
        | none => exact inv
        | some hold =>
            apply inv.insert
            rintro body rfl
            exact addressed
      refine inserted.frame ?_ ?_ ?_ ?_
      · cases hold <;> cases sha <;> cases delivered : sending.delivered <;>
          simp [Engine.carryOut, delivered, Engine.sendClip, Engine.emit]
      · intro id bytes among
        cases hold <;> cases sha <;> cases delivered : sending.delivered <;>
          simpa [Engine.carryOut, delivered, Engine.sendClip, Engine.emit] using among
      · intro id among
        cases hold <;> cases sha <;> cases delivered : sending.delivered <;>
          simpa [Engine.carryOut, delivered, Engine.sendClip, Engine.emit] using among
      · cases hold <;> cases sha <;> cases delivered : sending.delivered <;>
          simp [Engine.carryOut, delivered, Engine.sendClip, Engine.emit]

theorem command (inv : Serving env engine) (session : Session) (cmd : Cmd) :
    Serving env (engine.command env session cmd) := by
  refine Engine.command_made (motive := Serving env) session cmd inv ?_ ?_ ?_ ?_
  · intro current numbered plan sending made held
    obtain ⟨seq, counted⟩ := current.number_shape numbered
    rw [counted]
    have same : Serving env { current with seq } :=
      held.frame rfl (fun among => among) (fun among => among) (List.Subset.refl _)
    exact same.carryOut made sending
  · intro current row text reason held _
    exact (held.emit _).emit _
  · intro current name delivered held
    exact held.emit _
  · intro current why held
    exact held.drop why

theorem connect (inv : Serving env engine) (session : Session) (accepted now : Nat) :
    Serving env (engine.connect session accepted now) := by
  obtain ⟨recentImg, message, same⟩ := Engine.connect_shape engine session accepted now
  rw [same]
  split_ifs
  · exact inv.frame rfl (fun among => among) (fun among => among) (List.subset_append_left _ _)
  · refine inv.frame rfl (fun among => among) (fun among => among) ?_
    rw [List.append_assoc]
    exact List.subset_append_left _ _

theorem receives {content : Option Clipboard} (inv : Serving env engine)
    (receives : engine.Receives content next) : Serving env next := by
  obtain ⟨recentText, recentImg, recentFiles, outputs, -, -, rfl⟩ := receives
  exact inv.frame rfl (fun among => among) (fun among => among) (List.subset_append_left _ _)

theorem spawnServe (inv : Serving env engine) {id : String} {bytes : Bytes}
    (addressed : blobId env.prims bytes = id) :
    Serving env (engine.spawn env (.serve id bytes)) where
  valid := inv.valid
  held := inv.held
  working := by
    intro other body among
    rcases List.mem_append.mp among with old | new
    · exact inv.working old
    · cases List.mem_singleton.mp new
      exact addressed
  done := by
    intro other among
    obtain ⟨body, stored, address⟩ := inv.done among
    exact ⟨body, List.mem_append_left _ stored, address⟩

theorem handleFrame (inv : Serving env engine) {frame : Frame}
    (admitted : careful env engine (.frame frame) = true) :
    Serving env (engine.handleFrame env frame) := by
  cases frame with
  | keepalive => exact inv
  | other => exact inv
  | badClip error => exact inv.emit _
  | tokenRotate token =>
      rw [Engine.handleFrame]
      split_ifs
      · exact inv
      · have kept : Serving env { engine with token } :=
          inv.frame rfl (fun among => among) (fun among => among) (List.Subset.refl _)
        exact (kept.emit _).emit _
  | clip event applying =>
      rw [Engine.handleFrame]
      split_ifs
      · refine inv.frame rfl ?_ (fun among => among) (List.Subset.refl _)
        intro id bytes among
        simpa [Engine.spawn] using among
      · exact inv.receives (Engine.handleIncomingText_receives event applying)
  | blobRequest id reread =>
      simp only [Engine.handleFrame, Engine.serve]
      cases found : engine.holds.get? id with
      | none => exact inv.emit _
      | some hold =>
          cases hold with
          | encrypted body => exact inv.spawnServe (inv.held found)
          | plain path =>
              cases reread with
              | error error => exact inv.emit _
              | ok bytes =>
                  rw [careful, found] at admitted
                  exact inv.spawnServe (of_decide_eq_true admitted)

/-- A result is taken off the channel. -/
theorem handleResult {result : BlobResult} {rest : List BlobResult}
    (inv : Serving env engine) (found : engine.results = result :: rest) (delivered : Bool)
    (applying : Applying) :
    Serving env
      ({ engine with results := rest }.handleResult env result delivered applying) := by
  have taken : Serving env { engine with results := rest } := by
    refine inv.frame rfl (fun among => among) ?_ (List.Subset.refl _)
    intro id among
    exact found ▸ List.mem_cons_of_mem _ among
  cases result with
  | upload outcome report =>
      cases outcome with
      | error message => exact taken.emit _
      | ok done =>
          rw [Engine.handleResult]
          cases delivered with
          | true =>
              obtain ⟨recentImg, posted⟩ :=
                Engine.posted_shape { engine with results := rest } report applying.now
              simp only [if_true, posted]
              exact taken.frame rfl (fun among => among) (fun among => among)
                (List.subset_append_left _ _)
          | false =>
              simp only [Bool.false_eq_true, if_false]
              apply drop
              exact taken.frame rfl (fun among => among) (fun among => among)
                (List.subset_append_left _ _)
  | serve id ok =>
      cases ok with
      | false => exact taken
      | true =>
          exact {
            valid := taken.valid.remove id
            held := by
              intro other body held
              simp only [Engine.handleResult, if_true, Holds.get?_remove] at held
              split_ifs at held
              exact inv.held held
            working := taken.working
            done := taken.done }
  | download outcome event =>
      cases outcome with
      | ok data => exact taken.receives (Engine.applyBlob_receives event data applying)
      | error message => exact taken.emit _

theorem report (inv : Serving env engine) {result : BlobResult}
    (backed : ∀ id, result = .serve id true →
      ∃ body, .stored id body ∈ engine.log ∧ blobId env.prims body = id) :
    Serving env { engine with results := engine.results ++ [result] } where
  valid := inv.valid
  held := inv.held
  working := inv.working
  done := by
    intro id among
    rcases List.mem_append.mp among with old | new
    · exact inv.done old
    · exact backed id (List.mem_singleton.mp new).symm

/-- A worker that served reports success after its bytes were stored under their digest. -/
theorem finishWorker {index : Nat} {worker : Worker} (inv : Serving env engine)
    (found : engine.workers[index]? = some worker) (response : Except String Bytes) :
    Serving env ({ engine with workers := engine.workers.eraseIdx index }.finishWorker env worker
      response) := by
  have left : Serving env { engine with workers := engine.workers.eraseIdx index } :=
    inv.frame rfl List.mem_of_mem_eraseIdx (fun among => among) (List.Subset.refl _)
  cases worker with
  | upload payload upload =>
      cases response with
      | ok body => exact (left.emit _).report (fun id same => by cases same)
      | error error => exact left.report (fun id same => by cases same)
  | download event => exact left.report (fun id same => by cases same)
  | serve id bytes =>
      cases response with
      | error error => exact left.report (fun id same => by cases same)
      | ok body =>
          have address := inv.working (List.mem_of_getElem? found)
          apply (left.emit _).report
          intro other same
          cases same
          refine ⟨bytes, ?_, address⟩
          rw [address]
          exact List.mem_append_right _ (List.mem_singleton_self _)

theorem step (inv : Serving env engine) {action : Action}
    (admitted : careful env engine action = true)
    (stepped : engine.step env action = some next) : Serving env next := by
  cases Engine.turn_of_step stepped with
  | connect session accepted now offline => exact inv.connect session accepted now
  | connectFailed error offline => exact inv.emit _
  | lost why session connected => exact inv.drop why
  | command cmd session connected => exact inv.command session cmd
  | frame frame session connected => exact inv.handleFrame admitted
  | result delivered applying session result rest connected found =>
      exact inv.handleResult found delivered applying
  | finish index response worker found => exact inv.finishWorker found response

end Serving

/-- In runs in which every requested path still has the advertised content, a hold is removed
for a successful upload only after a blob of its id was stored. -/
theorem served_hold_stored {env : Env} {config : Config} {engine : Engine}
    (run : Run (Engine.step env) (fun engine action => careful env engine action = true)
      (.start env config) engine) (delivered : Bool) (applying : Applying) {next : Engine}
    {id : String} {rest : List BlobResult} (waits : engine.results = .serve id true :: rest)
    (stepped : engine.step env (.result delivered applying) = some next) :
    next.holds = engine.holds.remove id ∧
      ∃ body, .stored id body ∈ engine.log ∧ blobId env.prims body = id := by
  have serving : Serving env engine :=
    run.invariant (Serving.start env config) fun inv admitted stepped => inv.step admitted stepped
  refine ⟨?_, serving.done (waits ▸ List.mem_cons_self)⟩
  cases Engine.turn_of_step stepped with
  | result delivered applying session result rest connected found =>
      cases waits.symm.trans found
      rfl

/-! ### A file that changes -/

def plainConfig : Config := ⟨"srv", "", "token"⟩

/-- The id of a file of three bytes. -/
def requestedId : String := "sha256:" ++ Reference.file.plainDigest

/-- The file is advertised on demand, requested, uploaded, and the upload reported. -/
def requested (reread : Bytes) : List Action :=
  [.connect ⟨2, 0⟩ 0 0,
    .command (.sendFile ⟨"/a.bin", .ok 3, .ok Reference.file.plain⟩ (demoSending Reference.file)),
    .frame (.blobRequest requestedId (.ok reread)), .finish 0 (.ok [])]

/-- The file is as it was. -/
theorem kept_file_stored :
    ∃ engine next : Engine, engine.holds.get? requestedId = some (.plain "/a.bin") ∧
      engine.step demoEnv (.result true demoApplying) = some next ∧
      next.holds = engine.holds.remove requestedId ∧
      ∃ body, .stored requestedId body ∈ engine.log := by
  obtain ⟨engine, run, checked⟩ := Run.exists_of_execWhen (Engine.step demoEnv)
    (careful demoEnv) (.start demoEnv plainConfig) (requested Reference.file.plain)
    (fun engine => decide (engine.holds.get? requestedId = some (.plain "/a.bin") ∧
      engine.results = [.serve requestedId true]) &&
      (engine.step demoEnv (.result true demoApplying)).isSome) (by decide +kernel)
  obtain ⟨state, able⟩ := Bool.and_eq_true_iff.mp checked
  obtain ⟨held, waits⟩ := of_decide_eq_true state
  obtain ⟨next, stepped⟩ := Option.isSome_iff_exists.mp able
  obtain ⟨removed, body, stored, -⟩ := served_hold_stored run true demoApplying waits stepped
  exact ⟨engine, next, held, stepped, removed, body, stored⟩

/-- Another content is uploaded under its own digest, and the hold is removed. -/
theorem changed_file_not_stored :
    ∃ engine next : Engine,
      Reachable (Engine.step demoEnv) (.start demoEnv plainConfig) engine ∧
      engine.holds.get? requestedId = some (.plain "/a.bin") ∧
      engine.results = [.serve requestedId true] ∧
      engine.step demoEnv (.result true demoApplying) = some next ∧
      next.holds.get? requestedId = none ∧
      ∀ body, .stored requestedId body ∉ engine.log := by
  obtain ⟨engine, reached, checked⟩ := Reachable.exists_of_exec (Engine.step demoEnv)
    (.start demoEnv plainConfig) (requested Reference.text.plain)
    (fun engine => decide (engine.holds.get? requestedId = some (.plain "/a.bin") ∧
      engine.results = [.serve requestedId true] ∧
      ∀ output ∈ engine.log, ∀ entry ∈ output.stored?, entry.1 ≠ requestedId) &&
      (engine.step demoEnv (.result true demoApplying)).any fun (next : Engine) =>
        decide (next.holds.get? requestedId = none)) (by decide +kernel)
  obtain ⟨state, able⟩ := Bool.and_eq_true_iff.mp checked
  obtain ⟨held, waits, other⟩ := of_decide_eq_true state
  obtain ⟨next, stepped, gone⟩ := (Option.any_eq_true _ _).mp able
  refine ⟨engine, next, reached, held, waits, stepped, of_decide_eq_true gone, ?_⟩
  intro body stored
  exact other _ stored (requestedId, body) rfl rfl

end CopySync.Desktop
