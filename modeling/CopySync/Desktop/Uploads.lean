import CopySync.Desktop.Turn
import CopySync.Foundation.Custody

/-!
# Desktop client: completed uploads

A completed upload waits in the result channel until a connection takes it off.  Its
frame is then sent, or the report is put into the stash, which the next handshake
empties from the front until a send fails.

The dispatch ledger numbers uploads in the order of their completion and books each
of them in the place where the engine has it.
-/

namespace CopySync.Desktop

open Foundation Client

/-- The places of a completed upload. -/
inductive Station where
  | results
  | pending
  | advertised
  deriving DecidableEq, Repr

/-- `stashed` lists the uploads put into the stash, oldest first. -/
structure Dispatch where
  engine : Engine
  completed : List Upload
  custody : Custody Station Upload
  stashed : List Nat

namespace Dispatch

def start (env : Env) (config : Config) : Dispatch where
  engine := .start env config
  completed := []
  custody _ := []
  stashed := []

/-- Book what a turn does. -/
def account (dispatch : Dispatch) : Progress → Dispatch
  | .finish _ report (.ok ()) =>
      { dispatch with
        completed := dispatch.completed ++ [report]
        custody := dispatch.custody.receive .results dispatch.completed.length report }
  | .settle _ (.ok ()) true =>
      { dispatch with
        custody := dispatch.custody.move .results .advertised
          ((dispatch.custody .results).drop 1) ((dispatch.custody .results).take 1) }
  | .settle _ (.ok ()) false =>
      { dispatch with
        custody := dispatch.custody.move .results .pending
          ((dispatch.custody .results).drop 1) ((dispatch.custody .results).take 1)
        stashed := dispatch.stashed ++ (dispatch.custody.tags .results).take 1 }
  | .readvertise accepted =>
      { dispatch with
        custody := dispatch.custody.move .pending .advertised
          ((dispatch.custody .pending).drop accepted) ((dispatch.custody .pending).take accepted) }
  | _ => dispatch

def step (env : Env) (dispatch : Dispatch) (action : Action) : Option Dispatch :=
  (dispatch.engine.step env action).map fun engine =>
    { dispatch.account (dispatch.engine.progress action) with engine }

end Dispatch

/-! ## What the log records -/

/-- Outputs that neither advertise a blob nor record that one was advertised. -/
def Output.quiet : Output → Bool
  | .clip event _ delivered => !(delivered && event.isBlob)
  | .history row => row.direction == "in" || row.blobId == ""
  | .notice (.outImage ..) | .notice (.outFile ..) => false
  | _ => true

/-- Logs in which the advertised uploads are the given ones: each stands there as its
frame, its history row and its UI event, one right after the other.  Files on demand
are advertised without an upload. -/
inductive Booked : List Output → List Upload → Prop where
  | start : Booked [] []
  | quiet {log : List Output} {reports : List Upload} {output : Output} :
      Booked log reports → output.quiet = true → Booked (log ++ [output]) reports
  | offer {log : List Output} {reports : List Upload} {event : ClipEvent} {held : Option Hold}
      {row : HistoryRow} {kind name : String} {size : Int} :
      Booked log reports → event.onDemand = true → row.blobId = event.blobId →
      Booked (log ++ [.clip event held true, .history row, .notice (.outFile kind name size true)])
        reports
  | post {log : List Output} {reports : List Upload} {report : Upload} {holds : Holds} :
      Booked log reports → report.Eager → Booked (log ++ report.posted holds) (reports ++ [report])

theorem Output.quiet_of_not_outgoing {output : Output} (other : output.outgoing = false) :
    output.quiet = true := by
  cases output with
  | clip => cases other
  | history row =>
      have received : row.direction = "in" := by simpa [outgoing] using other
      simp [quiet, received]
  | notice notice => cases notice <;> first | rfl | cases other
  | _ => rfl

namespace Booked

variable {log : List Output} {reports : List Upload}

theorem append (booked : Booked log reports) {outputs : List Output}
    (all : ∀ output ∈ outputs, output.quiet = true) : Booked (log ++ outputs) reports := by
  induction outputs generalizing log with
  | nil => rwa [List.append_nil]
  | cons output rest ih =>
      have first := booked.quiet (all output (by simp))
      have longer := ih first fun other listed => all other (List.mem_cons_of_mem _ listed)
      rwa [List.append_assoc] at longer

/-- Re-advertising books what went out; the frame that failed is quiet. -/
theorem readverts (booked : Booked log reports) (holds : Holds) {stash : List Upload}
    (eager : ∀ report ∈ stash, report.Eager) (accepted : Nat) :
    Booked (log ++ Desktop.readverts holds accepted stash) (reports ++ stash.take accepted) := by
  induction stash generalizing log reports accepted with
  | nil =>
      cases accepted <;> simpa [Desktop.readverts] using booked
  | cons report rest ih =>
      cases accepted with
      | zero =>
          have failed : Booked
              (log ++ [.clip report.event (holds.get? report.event.blobId) false]) reports :=
            booked.quiet rfl
          simpa [Desktop.readverts] using failed
      | succ accepted =>
          have posted : Booked (log ++ report.posted holds) (reports ++ [report]) :=
            booked.post (eager report (by simp))
          have later := ih posted (fun other listed => eager other (List.mem_cons_of_mem _ listed))
            accepted
          simpa [Desktop.readverts] using later

end Booked

/-! ## The order of the stash -/

/-- What was stashed has since been advertised, in the order of the stash, or waits
there. -/
def InOrder (stashed advertised pending : List Nat) : Prop :=
  advertised.filter (· ∈ stashed) ++ pending = stashed

namespace InOrder

variable {stashed advertised pending : List Nat}

/-- Uploads advertised without the stash. -/
theorem direct (ordered : InOrder stashed advertised pending) {tags : List Nat}
    (fresh : ∀ tag ∈ tags, tag ∉ stashed) : InOrder stashed (advertised ++ tags) pending := by
  have skipped : tags.filter (· ∈ stashed) = [] :=
    List.filter_eq_nil_iff.mpr fun tag listed => by simpa using fresh tag listed
  rw [InOrder, List.filter_append, skipped, List.append_nil]
  exact ordered

theorem stash (ordered : InOrder stashed advertised pending) {tags : List Nat}
    (unsent : ∀ tag ∈ tags, tag ∉ advertised) :
    InOrder (stashed ++ tags) advertised (pending ++ tags) := by
  have unmoved : advertised.filter (· ∈ stashed ++ tags) = advertised.filter (· ∈ stashed) := by
    refine List.filter_congr fun tag listed => ?_
    have absent : tag ∉ tags := fun also => unsent tag also listed
    simp [absent]
  rw [InOrder, unmoved, ← List.append_assoc, ordered]

theorem readvertise {front back : List Nat} (ordered : InOrder stashed advertised (front ++ back)) :
    InOrder stashed (advertised ++ front) back := by
  have waiting : front.filter (· ∈ stashed) = front := by
    refine List.filter_eq_self.mpr fun tag listed => ?_
    have member : tag ∈ stashed := by
      rw [← ordered]
      exact List.mem_append_right _ (List.mem_append_left _ listed)
    simpa using member
  rw [InOrder, List.filter_append, waiting, List.append_assoc]
  exact ordered

end InOrder

/-! ## The ledger follows the engine -/

def BlobResult.completed? : BlobResult → Option Upload
  | .upload (.ok ()) report => some report
  | _ => none

/-- Uploads of an outcome. -/
def completed? : Except String Unit × Upload → Option Upload
  | (.ok (), report) => some report
  | _ => none

theorem Engine.completed_results (engine : Engine) :
    engine.results.filterMap BlobResult.completed? = engine.outcomes.filterMap completed? := by
  rw [outcomes, List.filterMap_filterMap]
  refine List.filterMap_congr fun result _ => ?_
  cases result with
  | upload outcome report => cases outcome <;> rfl
  | serve id ok => rfl
  | download outcome event => rfl

/-- Every report in the engine is one of an upload made before its frame. -/
structure Engine.AllEager (engine : Engine) : Prop where
  uploads : ∀ report ∈ engine.uploads, report.Eager
  outcomes : ∀ entry ∈ engine.outcomes, entry.2.Eager
  pending : ∀ report ∈ engine.pendingUploads, report.Eager

namespace Dispatch

/-- The ledger has the uploads where the engine has them. -/
structure Faithful (dispatch : Dispatch) : Prop where
  results : dispatch.custody.items .results =
    dispatch.engine.results.filterMap BlobResult.completed?
  pending : dispatch.custody.items .pending = dispatch.engine.pendingUploads
  advertised : Booked dispatch.engine.log (dispatch.custody.items .advertised)

/-- Every completed upload is in one place, and listed there once; what was stashed
and advertised since was advertised in the order of the stash. -/
structure Accurate (dispatch : Dispatch) : Prop where
  unique : ∀ tag report, dispatch.completed[tag]? = some report →
    ∃! place, (tag, report) ∈ dispatch.custody place
  once : ∀ place, (dispatch.custody.tags place).Nodup
  order : InOrder dispatch.stashed (dispatch.custody.tags .advertised)
    (dispatch.custody.tags .pending)

end Dispatch

namespace Engine

variable {env : Env} {engine : Engine} {reports : List Upload}

/-- What a command leaves to be advertised, and in the log. -/
structure Commanded (engine : Engine) (reports : List Upload) (next : Engine) : Prop where
  outcomes : next.outcomes = engine.outcomes
  pending : next.pendingUploads = engine.pendingUploads
  log : Booked next.log reports
  eager : ∀ report ∈ next.uploads, report.Eager

theorem Commanded.emit {next : Engine} (commanded : engine.Commanded reports next)
    {output : Output} (quiet : output.quiet = true) :
    engine.Commanded reports (next.emit output) :=
  ⟨commanded.outcomes, commanded.pending, commanded.log.quiet quiet, commanded.eager⟩

theorem Commanded.carryOut {next : Engine} (commanded : engine.Commanded reports next)
    (numbered : Bool) {plan : Plan} (sending : Sending) (proper : plan.Proper) :
    engine.Commanded reports ((next.number numbered).carryOut env plan sending).1 := by
  obtain ⟨outcomes, pending, log, eager⟩ := commanded
  obtain ⟨seq, counted⟩ := next.number_shape numbered
  rw [counted]
  cases plan with
  | refuse output =>
      refine ⟨outcomes, pending, log.quiet ?_, eager⟩
      cases output <;> first | rfl | cases proper
  | upload payload report =>
      refine ⟨outcomes, pending, log.quiet rfl, fun other listed => ?_⟩
      have split : other ∈ next.uploads ++ [report] := by
        simpa [Engine.carryOut, spawn, Engine.emit, uploads, Worker.upload?] using listed
      rcases List.mem_append.mp split with old | new
      · exact eager other old
      · exact List.mem_singleton.mp new ▸ proper
  | post event hold row notice sha =>
      obtain ⟨holds, held, carried⟩ :=
        Engine.carryOut_post { next with seq } env event hold row notice sha sending
      rw [carried]
      split_ifs
      · refine ⟨outcomes, pending, ?_, eager⟩
        obtain ⟨text, unnamed, shown, rfl⟩ | ⟨-, onDemand, named, kind, name, size, rfl⟩ := proper
        · exact log.append (by simp [Output.quiet, text, unnamed])
        · exact log.offer onDemand named
      · exact ⟨outcomes, pending, log.quiet rfl, eager⟩

theorem command_commanded (session : Session) (cmd : Cmd) (booked : Booked engine.log reports)
    (eager : ∀ report ∈ engine.uploads, report.Eager) :
    engine.Commanded reports (engine.command env session cmd) := by
  refine command_induction (motive := engine.Commanded reports) session cmd
    ⟨rfl, rfl, booked, eager⟩ ?_ ?_ ?_ ?_
  · intro current numbered plan sending proper commanded
    exact commanded.carryOut numbered sending proper
  · intro current row text reason commanded unnamed
    exact (commanded.emit (by simp [Output.quiet, unnamed])).emit rfl
  · intro current name delivered commanded
    exact commanded.emit rfl
  · rintro current why ⟨outcomes, pending, log, eager⟩
    exact ⟨outcomes, pending, log.quiet rfl, eager⟩

theorem AllEager.first (eager : engine.AllEager) {outcome : Except String Unit} {report : Upload}
    {rest : List (Except String Unit × Upload)}
    (first : engine.outcomes = (outcome, report) :: rest) :
    report.Eager ∧ ∀ entry ∈ rest, entry.2.Eager :=
  List.forall_mem_cons.mp (first ▸ eager.outcomes)

/-- Reports are made by commands and only move on from there. -/
theorem AllEager.advance (eager : engine.AllEager) (booked : Booked engine.log reports)
    {next : Engine} {progress : Progress} (advances : engine.Advances env next progress) :
    next.AllEager := by
  match progress with
  | .none =>
      obtain ⟨uploads, outcomes, pending, -⟩ := advances
      exact ⟨uploads ▸ eager.uploads, outcomes ▸ eager.outcomes, pending ▸ eager.pending⟩
  | .command session cmd =>
      cases advances
      obtain ⟨outcomes, pending, -, uploads⟩ : engine.Commanded _
          (engine.command env session cmd) :=
        command_commanded session cmd booked eager.uploads
      exact ⟨uploads, outcomes ▸ eager.outcomes, pending ▸ eager.pending⟩
  | .finish position report outcome =>
      obtain ⟨found, uploads, outcomes, pending, -⟩ := advances
      have own : report.Eager := eager.uploads report (List.mem_of_getElem? found)
      refine ⟨?_, ?_, pending ▸ eager.pending⟩
      · intro other listed
        rw [uploads] at listed
        exact eager.uploads other (List.mem_of_mem_eraseIdx listed)
      · rw [outcomes]
        exact List.forall_mem_append.mpr ⟨eager.outcomes, by simpa using own⟩
  | .settle report (.ok ()) true =>
      obtain ⟨rest, first, uploads, outcomes, pending, -⟩ := advances
      exact ⟨uploads ▸ eager.uploads, outcomes ▸ (eager.first first).2, pending ▸ eager.pending⟩
  | .settle report (.ok ()) false =>
      obtain ⟨rest, first, uploads, outcomes, pending, -⟩ := advances
      obtain ⟨own, others⟩ := eager.first first
      refine ⟨uploads ▸ eager.uploads, outcomes ▸ others, ?_⟩
      rw [pending]
      exact List.forall_mem_append.mpr ⟨eager.pending, by simpa using own⟩
  | .settle report (.error message) delivered =>
      obtain ⟨rest, first, uploads, outcomes, pending, -⟩ := advances
      exact ⟨uploads ▸ eager.uploads, outcomes ▸ (eager.first first).2, pending ▸ eager.pending⟩
  | .readvertise accepted =>
      obtain ⟨uploads, outcomes, pending, -⟩ := advances
      refine ⟨uploads ▸ eager.uploads, outcomes ▸ eager.outcomes, ?_⟩
      intro other listed
      rw [pending] at listed
      exact eager.pending other (List.mem_of_mem_drop listed)

end Engine

theorem Booked.logs {engine next : Engine} {outputs : List Output} {reports : List Upload}
    (booked : Booked (engine.log ++ outputs) reports) (logs : engine.Logs next outputs) :
    Booked next.log reports := by
  obtain ⟨rest, quiet, same⟩ := logs
  rw [same]
  exact booked.append fun output listed => Output.quiet_of_not_outgoing (quiet output listed)

namespace Dispatch

/-- What every turn keeps. -/
structure Sound (dispatch : Dispatch) : Prop where
  faithful : dispatch.Faithful
  eager : dispatch.engine.AllEager
  exact : dispatch.custody.Exact dispatch.completed
  order : InOrder dispatch.stashed (dispatch.custody.tags .advertised)
    (dispatch.custody.tags .pending)

namespace Sound

variable {env : Env} {dispatch : Dispatch} {next : Engine}

/-- Turns that leave the ledger as it is. -/
theorem same (sound : dispatch.Sound) (eager : next.AllEager)
    (outcomes : next.outcomes.filterMap completed? =
      dispatch.engine.outcomes.filterMap completed?)
    (pending : next.pendingUploads = dispatch.engine.pendingUploads)
    (log : Booked next.log (dispatch.custody.items .advertised)) :
    Sound { dispatch with engine := next } where
  faithful :=
    { results := by
        rw [Engine.completed_results, outcomes, ← Engine.completed_results]
        exact sound.faithful.results
      pending := sound.faithful.pending.trans pending.symm
      advertised := log }
  eager := eager
  exact := sound.exact
  order := sound.order

/-- The first completed result in the channel is the ledger's. -/
theorem head (sound : dispatch.Sound) {report : Upload}
    {rest : List (Except String Unit × Upload)}
    (first : dispatch.engine.outcomes = (.ok (), report) :: rest) :
    ((dispatch.custody .results).take 1).map (·.2) = [report] ∧
      ((dispatch.custody .results).drop 1).map (·.2) = rest.filterMap completed? := by
  have items : (dispatch.custody .results).map (·.2) = report :: rest.filterMap completed? := by
    rw [← Custody.items, sound.faithful.results, Engine.completed_results, first]
    rfl
  rw [List.map_take, List.map_drop, items]
  exact ⟨rfl, rfl⟩

/-- An upload in the channel was never stashed. -/
theorem fresh (sound : dispatch.Sound) {tag : Nat} (listed : tag ∈ dispatch.custody.tags .results) :
    tag ∉ dispatch.stashed := by
  intro stashed
  rw [← sound.order] at stashed
  rcases List.mem_append.mp stashed with advertised | pending
  · have same := sound.exact.apart _ _ tag listed (List.mem_filter.mp advertised).1
    cases same
  · have same := sound.exact.apart _ _ tag listed pending
    cases same

theorem finish (sound : dispatch.Sound) (eager : next.AllEager) {report : Upload} {position : Nat}
    (progressed : dispatch.engine.Progressed next (dispatch.engine.uploads.eraseIdx position)
      (dispatch.engine.outcomes ++ [(.ok (), report)]) dispatch.engine.pendingUploads []) :
    Sound { dispatch.account (.finish position report (.ok ())) with engine := next } := by
  obtain ⟨-, outcomes, pending, log⟩ := progressed
  refine ⟨⟨?_, ?_, ?_⟩, eager, sound.exact.receive .results report, ?_⟩
  · simp [account, Engine.completed_results, outcomes, sound.faithful.results, completed?]
  · simp [account, pending, sound.faithful.pending]
  · simp only [account]
    rw [Custody.items_receive_of_ne (by simp)]
    exact Booked.logs (by simpa using sound.faithful.advertised) log
  · have advertised : Station.advertised ≠ .results := by decide
    have stash : Station.pending ≠ .results := by decide
    simp only [account, Custody.tags, Custody.receive_of_ne advertised,
      Custody.receive_of_ne stash]
    exact sound.order

theorem advertise (sound : dispatch.Sound) (eager : next.AllEager) {report : Upload}
    {rest : List (Except String Unit × Upload)}
    (first : dispatch.engine.outcomes = (.ok (), report) :: rest)
    (progressed : dispatch.engine.Progressed next dispatch.engine.uploads rest
      dispatch.engine.pendingUploads (report.posted dispatch.engine.holds)) :
    Sound { dispatch.account (.settle report (.ok ()) true) with engine := next } := by
  obtain ⟨-, outcomes, pending, log⟩ := progressed
  obtain ⟨taken, left⟩ := sound.head first
  have apart : Station.results ≠ .advertised := by decide
  refine ⟨⟨?_, ?_, ?_⟩, eager, sound.exact.move apart (Custody.perm_drop_take _ 1), ?_⟩
  · simp only [account]
    rw [Custody.items_move_source apart, left, Engine.completed_results, outcomes]
  · simp [account, pending, sound.faithful.pending]
  · simp only [account, Custody.items_move_target, taken]
    exact Booked.logs (sound.faithful.advertised.post (sound.eager.first first).1) log
  · have notSource : Station.pending ≠ .results := by decide
    have notTarget : Station.pending ≠ .advertised := by decide
    have ordered := sound.order.direct fun tag listed =>
      sound.fresh (List.mem_of_mem_take (i := 1) listed)
    simpa only [account, Custody.tags, Custody.move_target, Custody.move_of_ne notSource notTarget,
      List.map_append, List.map_take] using ordered

theorem stash (sound : dispatch.Sound) (eager : next.AllEager) {report : Upload}
    {rest : List (Except String Unit × Upload)}
    (first : dispatch.engine.outcomes = (.ok (), report) :: rest)
    (progressed : dispatch.engine.Progressed next dispatch.engine.uploads rest
      (dispatch.engine.pendingUploads ++ [report])
      [.clip report.event (dispatch.engine.holds.get? report.event.blobId) false]) :
    Sound { dispatch.account (.settle report (.ok ()) false) with engine := next } := by
  obtain ⟨-, outcomes, pending, log⟩ := progressed
  obtain ⟨taken, left⟩ := sound.head first
  have apart : Station.results ≠ .pending := by decide
  have notSource : Station.advertised ≠ .results := by decide
  have notTarget : Station.advertised ≠ .pending := by decide
  refine ⟨⟨?_, ?_, ?_⟩, eager, sound.exact.move apart (Custody.perm_drop_take _ 1), ?_⟩
  · simp only [account]
    rw [Custody.items_move_source apart, left, Engine.completed_results, outcomes]
  · simp only [account, Custody.items_move_target, taken, pending, sound.faithful.pending]
  · simp only [account]
    rw [Custody.items_move_of_ne notSource notTarget]
    exact Booked.logs (sound.faithful.advertised.quiet rfl) log
  · -- The newly stashed upload is in the channel, so it was never advertised.
    have unsent : ∀ tag ∈ (dispatch.custody.tags .results).take 1,
        tag ∉ dispatch.custody.tags .advertised := by
      intro tag listed sent
      cases sound.exact.apart _ _ tag (List.mem_of_mem_take listed) sent
    have ordered := sound.order.stash unsent
    simpa only [account, Custody.tags, Custody.move_target, Custody.move_of_ne notSource notTarget,
      List.map_append, List.map_take] using ordered

theorem readvertise (sound : dispatch.Sound) (eager : next.AllEager) {accepted : Nat}
    (progressed : dispatch.engine.Progressed next dispatch.engine.uploads dispatch.engine.outcomes
      (dispatch.engine.pendingUploads.drop accepted)
      (readverts dispatch.engine.holds accepted dispatch.engine.pendingUploads)) :
    Sound { dispatch.account (.readvertise accepted) with engine := next } := by
  obtain ⟨-, outcomes, pending, log⟩ := progressed
  have apart : Station.pending ≠ .advertised := by decide
  have items : (dispatch.custody .pending).map (·.2) = dispatch.engine.pendingUploads :=
    sound.faithful.pending
  refine ⟨⟨?_, ?_, ?_⟩, eager, sound.exact.move apart (Custody.perm_drop_take _ accepted), ?_⟩
  · simp [account, Engine.completed_results, outcomes, sound.faithful.results]
  · simp only [account]
    rw [Custody.items_move_source apart, List.map_drop, items, pending]
  · simp only [account, Custody.items_move_target, List.map_take, items]
    exact Booked.logs (sound.faithful.advertised.readverts _ sound.eager.pending accepted) log
  · have split : dispatch.custody.tags .pending =
        ((dispatch.custody .pending).take accepted).map (·.1) ++
          ((dispatch.custody .pending).drop accepted).map (·.1) := by
      rw [← List.map_append, List.take_append_drop, Custody.tags]
    have ordered := (split ▸ sound.order).readvertise
    simpa only [account, Custody.tags, Custody.move_target, Custody.move_source apart,
      List.map_append] using ordered

/-- One case analysis over what a turn means for uploads. -/
theorem advance (sound : dispatch.Sound) {progress : Progress}
    (advances : dispatch.engine.Advances env next progress) :
    Sound { dispatch.account progress with engine := next } := by
  have booked := sound.faithful.advertised
  have eager : next.AllEager := sound.eager.advance booked advances
  match progress with
  | .none =>
      obtain ⟨-, outcomes, pending, log⟩ := advances
      exact sound.same eager (by rw [outcomes]) pending (Booked.logs (by simpa using booked) log)
  | .command session cmd =>
      cases advances
      obtain ⟨outcomes, pending, log, -⟩ : dispatch.engine.Commanded _
          (dispatch.engine.command env session cmd) :=
        Engine.command_commanded session cmd booked sound.eager.uploads
      exact sound.same eager (by rw [outcomes]) pending log
  | .finish position report (.ok ()) => exact sound.finish eager advances.2
  | .finish position report (.error message) =>
      obtain ⟨-, -, outcomes, pending, log⟩ := advances
      exact sound.same eager (by simp [outcomes, completed?]) pending
        (Booked.logs (by simpa using booked) log)
  | .settle report (.ok ()) true =>
      obtain ⟨rest, first, progressed⟩ := advances
      exact sound.advertise eager first progressed
  | .settle report (.ok ()) false =>
      obtain ⟨rest, first, progressed⟩ := advances
      exact sound.stash eager first progressed
  | .settle report (.error message) delivered =>
      obtain ⟨rest, first, -, outcomes, pending, log⟩ := advances
      refine sound.same eager (by rw [outcomes, first]; rfl) pending
        (Booked.logs (booked.quiet ?_) log)
      cases report.errViaError <;> rfl
  | .readvertise accepted => exact sound.readvertise eager advances

theorem start (env : Env) (config : Config) : (Dispatch.start env config).Sound where
  faithful := ⟨rfl, rfl, .start⟩
  eager := by
    refine ⟨?_, ?_, ?_⟩
    · intro report listed
      cases listed
    · intro entry listed
      cases listed
    · intro report listed
      cases listed
  exact := .empty
  order := rfl

end Sound

/-- In every run, every completed upload is in the result channel, in the stash, or
advertised by one successful send together with its records, and the stash is
advertised in order. -/
theorem uploads_advertised_once {env : Env} {config : Config} {dispatch : Dispatch}
    (run : Reachable (Dispatch.step env) (Dispatch.start env config) dispatch) :
    dispatch.Faithful ∧ dispatch.Accurate := by
  have sound : dispatch.Sound := by
    refine run.invariant (Sound.start env config) ?_
    intro before after action sound _ stepped
    obtain ⟨engine, moved, rfl⟩ := Option.map_eq_some_iff.mp stepped
    exact sound.advance (Engine.advances_of_step moved)
  exact ⟨sound.faithful, fun tag report known => sound.exact.unique known, sound.exact.once,
    sound.order⟩

/-- Three copies of a file are uploaded.  The frame of the first meets a dead socket,
fails again right after the next handshake and goes out after the one that follows;
then the frame of the second fails. -/
theorem stash_partly_advertised :
    ∃ dispatch, Reachable (Dispatch.step demoEnv) (Dispatch.start demoEnv demoConfig) dispatch ∧
      dispatch.completed.length = 3 ∧ dispatch.custody.tags .advertised = [0] ∧
      dispatch.custody.tags .pending = [1] ∧ dispatch.custody.tags .results = [2] ∧
      dispatch.Faithful ∧ dispatch.Accurate := by
  obtain ⟨dispatch, reached, checked⟩ := Reachable.exists_of_exec (Dispatch.step demoEnv)
    (Dispatch.start demoEnv demoConfig)
    ([.connect ⟨0, 0⟩ 0 0] ++
      List.replicate 3 (.command (.sendFile ⟨"/home/u/a.bin", .ok 3, .ok Reference.file.plain⟩
        (demoSending Reference.file))) ++
      List.replicate 3 (.finish 0 (.ok [])) ++
      [.result false demoApplying, .connect ⟨0, 0⟩ 0 0, .connect ⟨0, 0⟩ 1 0,
        .result false demoApplying])
    (fun dispatch => decide (dispatch.completed.length = 3 ∧
      dispatch.custody.tags .advertised = [0] ∧ dispatch.custody.tags .pending = [1] ∧
      dispatch.custody.tags .results = [2]))
    (by decide +kernel)
  obtain ⟨completed, advertised, pending, results⟩ := of_decide_eq_true checked
  obtain ⟨faithful, accurate⟩ := uploads_advertised_once reached
  exact ⟨dispatch, reached, completed, advertised, pending, results, faithful, accurate⟩

end Dispatch

end CopySync.Desktop
