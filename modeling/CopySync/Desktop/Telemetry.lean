import CopySync.Desktop.Agent
import CopySync.Foundation.Transition
import CopySync.Foundation.Window
import Mathlib.Data.List.Perm.Basic

/-!
# The telemetry buffer

The agent notes what happens to it in a bounded buffer.  A background task takes the oldest
lines out of it, uploads them, and puts them back at the front when the upload fails.  What
matters is the order: a line makes room only for newer ones, and no line is sent twice.
-/

namespace CopySync.Desktop

open Foundation

/-! ## The buffer -/

/-- The most lines the buffer holds. -/
def telemetryBufCap : Nat := 500

/-- The most lines of one upload. -/
def telemetryBatch : Nat := 200

structure Line where
  level : String
  ts : String
  msg : String
  deriving DecidableEq, Repr

/-- Note a line, in place of the oldest one when the buffer is full. -/
def tlog (buffer : List Line) (line : Line) : List Line :=
  (if telemetryBufCap ≤ buffer.length then buffer.drop 1 else buffer) ++ [line]

/-- The lines of the next upload and those that stay. -/
def drainBatch (buffer : List Line) : List Line × List Line :=
  let count := min buffer.length telemetryBatch
  (buffer.take count, buffer.drop count)

/-- Put the lines of a failed upload back, the last one first.  A line over the bound is taken
from the back. -/
def rebuffer (batch buffer : List Line) : List Line :=
  batch.reverse.foldl (fun buffer line =>
    let pushed := line :: buffer
    if telemetryBufCap < pushed.length then pushed.dropLast else pushed) buffer

/-- A cycle of the uploader goes on when the client is paired, has not opted out, and has a pin
it can read. -/
def mayUpload (decodePin : String → Option (List UInt8)) (config : Option StoredConfig) : Bool :=
  config.any fun config =>
    config.telemetry && config.serverUrl != "" && config.token != "" &&
      (decodePin config.pin).isSome

/-! ## The agent and its uploader -/

/-- The buffer and the lines being uploaded.  The other lists record what became of the lines:
all that were noted, those uploaded, and those a newer line took the place of. -/
structure Telemetry where
  buffer : List Line
  batch : Option (List Line)
  logged : List Line
  uploaded : List Line
  displaced : List Line
  deriving DecidableEq, Repr

namespace Telemetry

def start : Telemetry := ⟨[], none, [], [], []⟩

/-- The lines being uploaded. -/
def inFlight (state : Telemetry) : List Line := state.batch.getD []

/-- The uploader waits for the upload of one cycle before the next. -/
inductive Action where
  | tlog (level ts msg : String)
  | cycle (config : Option StoredConfig)
  | finish (success : Bool)
  deriving DecidableEq, Repr

def log (state : Telemetry) (line : Line) : Telemetry :=
  { state with
    buffer := Desktop.tlog state.buffer line
    logged := state.logged ++ [line]
    displaced := state.displaced ++
      if telemetryBufCap ≤ state.buffer.length then state.buffer.take 1 else [] }

def drain (state : Telemetry) : Telemetry :=
  let (batch, rest) := drainBatch state.buffer
  { state with
    buffer := rest
    batch := if batch.isEmpty then none else some batch }

def succeed (state : Telemetry) : Telemetry :=
  { state with batch := none, uploaded := state.uploaded ++ state.inFlight }

def fail (state : Telemetry) : Telemetry :=
  { state with batch := none, buffer := rebuffer state.inFlight state.buffer }

def step (decodePin : String → Option (List UInt8)) (state : Telemetry) :
    Action → Option Telemetry
  | .tlog level ts msg => some (state.log ⟨level, ts, msg⟩)
  | .cycle config =>
      if state.batch.isSome then none
      else if mayUpload decodePin config then some state.drain
      else some state
  | .finish success =>
      if state.batch.isNone then none
      else if success then some state.succeed
      else some state.fail

end Telemetry

/-! ## The buffer as a list -/

section Buffer

variable {buffer batch : List Line} {line : Line}

/-- A line noted makes room by giving up the oldest one. -/
theorem tlog_eq_latest (bounded : buffer.length ≤ telemetryBufCap) (line : Line) :
    tlog buffer line = latest telemetryBufCap (buffer ++ [line]) := by
  rw [tlog, latest, List.length_append, List.length_singleton]
  split
  next full =>
    have held : buffer.length = telemetryBufCap := Nat.le_antisymm bounded full
    rw [held, Nat.add_sub_cancel_left, List.drop_append_of_le_length (full.trans' (by decide))]
  next room =>
    have fits : buffer.length + 1 ≤ telemetryBufCap := Nat.lt_of_not_le room
    rw [Nat.sub_eq_zero_of_le fits, List.drop_zero]

theorem length_tlog_le (bounded : buffer.length ≤ telemetryBufCap) (line : Line) :
    (tlog buffer line).length ≤ telemetryBufCap := by
  rw [tlog_eq_latest bounded, length_latest]
  exact Nat.min_le_left _ _

theorem drainBatch_append (buffer : List Line) :
    (drainBatch buffer).1 ++ (drainBatch buffer).2 = buffer :=
  List.take_append_drop _ buffer

theorem take_cons_take {α : Type*} (count : Nat) (first : α) (list : List α) :
    (first :: list.take count).take count = (first :: list).take count := by
  cases count with
  | zero => rfl
  | succ count =>
      rw [List.take_succ_cons, List.take_succ_cons, List.take_take,
        Nat.min_eq_left (Nat.le_succ count)]

/-- A batch put back stands before the buffer, as far as the bound goes. -/
theorem rebuffer_eq (bounded : buffer.length ≤ telemetryBufCap) (batch : List Line) :
    rebuffer batch buffer = (batch ++ buffer).take telemetryBufCap := by
  rw [rebuffer, List.foldl_reverse]
  induction batch with
  | nil => exact (List.take_of_length_le bounded).symm
  | cons line rest ih =>
      rw [List.foldr_cons, ih, List.cons_append, ← take_cons_take]
      dsimp only
      split
      next beyond =>
        have short : (line :: (rest ++ buffer).take telemetryBufCap).length - 1 =
            telemetryBufCap := by
          have most := List.length_take_le telemetryBufCap (rest ++ buffer)
          rw [List.length_cons] at beyond ⊢
          omega
        rw [List.dropLast_eq_take, short]
      next within => exact (List.take_of_length_le (Nat.not_lt.mp within)).symm

theorem rebuffer_of_fits (fits : batch.length + buffer.length ≤ telemetryBufCap) :
    rebuffer batch buffer = batch ++ buffer := by
  rw [rebuffer_eq (Nat.le_of_add_left_le fits), List.take_of_length_le]
  rwa [List.length_append]

end Buffer

namespace Telemetry

variable {decodePin : String → Option (List UInt8)} {state before after : Telemetry}
variable {action : Action}

/-- What a step can do. -/
theorem step_cases (stepped : step decodePin before action = some after) :
    (∃ line, after = before.log line) ∨
      (before.batch = none ∧ after = before.drain) ∨
      after = before ∨
      (action = .finish true ∧ after = before.succeed) ∨
      (action = .finish false ∧ (∃ batch, before.batch = some batch) ∧ after = before.fail) := by
  cases action with
  | tlog level ts msg =>
      cases stepped
      exact .inl ⟨⟨level, ts, msg⟩, rfl⟩
  | cycle config =>
      rw [step] at stepped
      split at stepped
      next => cases stepped
      next idle =>
        split at stepped <;> cases stepped
        · exact .inr (.inl ⟨Option.not_isSome_iff_eq_none.mp idle, rfl⟩)
        · exact .inr (.inr (.inl rfl))
  | finish success =>
      rw [step] at stepped
      split at stepped
      next => cases stepped
      next pending =>
        have pending : ∃ batch, before.batch = some batch :=
          Option.ne_none_iff_exists'.mp (mt Option.isNone_iff_eq_none.mpr pending)
        cases success with
        | false =>
            cases stepped
            exact .inr (.inr (.inr (.inr ⟨rfl, pending, rfl⟩)))
        | true =>
            cases stepped
            exact .inr (.inr (.inr (.inl ⟨rfl, rfl⟩)))

@[simp] theorem inFlight_drain (state : Telemetry) :
    state.drain.inFlight = (drainBatch state.buffer).1 := by
  cases taken : (drainBatch state.buffer).1 with
  | nil => simp only [drain, inFlight, taken, List.isEmpty_nil, if_true, Option.getD_none]
  | cons line rest =>
      simp only [drain, inFlight, taken, List.isEmpty_cons]
      rfl

theorem inFlight_of_idle (idle : state.batch = none) : state.inFlight = [] := by
  rw [inFlight, idle, Option.getD_none]

/-! ## Every run -/

/-- The buffer is bounded, and no line is uploaded twice or out of order. -/
structure Ordered (state : Telemetry) : Prop where
  bounded : state.buffer.length ≤ telemetryBufCap
  order : (state.uploaded ++ (state.inFlight ++ state.buffer)).Sublist state.logged

theorem Ordered.log (ordered : before.Ordered) (line : Line) : (before.log line).Ordered where
  bounded := length_tlog_le ordered.bounded line
  order := by
    have kept : (if telemetryBufCap ≤ before.buffer.length then before.buffer.drop 1
        else before.buffer).Sublist before.buffer := by
      split
      next => exact List.drop_sublist 1 _
      next => exact List.Sublist.refl _
    have earlier := ((kept.append_left before.inFlight).append_left before.uploaded).trans
      ordered.order
    have noted := earlier.append (List.Sublist.refl [line])
    rwa [List.append_assoc, List.append_assoc] at noted

theorem Ordered.drain (ordered : before.Ordered) (idle : before.batch = none) :
    before.drain.Ordered where
  bounded := (List.drop_sublist ..).length_le.trans ordered.bounded
  order := by
    rw [inFlight_drain]
    have order := ordered.order
    rwa [inFlight_of_idle idle, List.nil_append, ← drainBatch_append before.buffer] at order

theorem Ordered.succeed (ordered : before.Ordered) : before.succeed.Ordered where
  bounded := ordered.bounded
  order := by
    have order := ordered.order
    rwa [← List.append_assoc] at order

theorem Ordered.fail (ordered : before.Ordered) : before.fail.Ordered := by
  have kept := rebuffer_eq ordered.bounded before.inFlight
  constructor
  · change (rebuffer before.inFlight before.buffer).length ≤ telemetryBufCap
    rw [kept]
    exact List.length_take_le ..
  · change (before.uploaded ++ rebuffer before.inFlight before.buffer).Sublist before.logged
    rw [kept]
    exact ((List.take_sublist ..).append_left _).trans ordered.order

theorem Ordered.step (ordered : before.Ordered)
    (stepped : step decodePin before action = some after) : after.Ordered := by
  rcases step_cases stepped with
    ⟨line, rfl⟩ | ⟨idle, rfl⟩ | rfl | ⟨rfl, rfl⟩ | ⟨rfl, -, rfl⟩
  · exact ordered.log line
  · exact ordered.drain idle
  · exact ordered
  · exact ordered.succeed
  · exact ordered.fail

/-- Whatever is logged and however uploads end, no line is uploaded twice or out of order. -/
theorem reachable_ordered (run : Reachable (step decodePin) start state) : state.Ordered :=
  run.invariant ⟨Nat.zero_le _, List.Sublist.refl _⟩ fun ordered _ stepped =>
    ordered.step stepped

/-! ## Runs whose failed uploads fit back -/

/-- The lines of a failed upload fit back into the buffer. -/
def Fits (state : Telemetry) (action : Action) : Prop :=
  action = .finish false → state.inFlight.length + state.buffer.length ≤ telemetryBufCap

instance (state : Telemetry) (action : Action) : Decidable (Fits state action) :=
  inferInstanceAs (Decidable (action = .finish false → _))

/-- What became of the lines that are not in the buffer. -/
def gone (state : Telemetry) : List Line :=
  state.uploaded ++ state.inFlight ++ state.displaced

/-- The buffer is the last part of the log, every line before it is accounted for, and a line
was displaced only once the buffer was full of newer ones.  While nothing was displaced during
an upload, its lines stand before the buffer. -/
structure Filed (state : Telemetry) : Prop where
  bounded : state.buffer.length ≤ telemetryBufCap
  suffix : ∃ past : List Line, state.logged = past ++ state.buffer ∧ past.Perm state.gone
  displaced : state.displaced.Sublist
    (state.logged.take (state.logged.length - telemetryBufCap))
  ready : ∀ batch, state.batch = some batch → batch ≠ [] ∧
    (state.buffer.length = telemetryBufCap ∨
      ∃ past, state.logged = past ++ (batch ++ state.buffer))

theorem Filed.start : start.Filed where
  bounded := Nat.zero_le _
  suffix := ⟨[], rfl, List.Perm.nil⟩
  displaced := List.Sublist.refl _
  ready := fun batch pending => by cases pending

/-- There is room for a line, or the oldest one makes room. -/
theorem log_cases (bounded : state.buffer.length ≤ telemetryBufCap) (line : Line) :
    (state.buffer.length < telemetryBufCap ∧ (state.log line).buffer = state.buffer ++ [line] ∧
        (state.log line).displaced = state.displaced) ∨
      ∃ oldest rest, state.buffer = oldest :: rest ∧ state.buffer.length = telemetryBufCap ∧
        (state.log line).buffer = rest ++ [line] ∧
        (state.log line).displaced = state.displaced ++ [oldest] := by
  by_cases full : telemetryBufCap ≤ state.buffer.length
  · have held := Nat.le_antisymm bounded full
    cases shape : state.buffer with
    | nil =>
        rw [shape] at held
        cases held
    | cons oldest rest =>
        rw [shape] at full held
        refine .inr ⟨oldest, rest, rfl, held, ?_, ?_⟩
        · simp only [log, Desktop.tlog, shape, if_pos full]
          rfl
        · simp only [log, shape, if_pos full]
          rfl
  · refine .inl ⟨Nat.lt_of_not_le full, ?_, ?_⟩
    · simp only [log, Desktop.tlog, if_neg full]
    · simp only [log, if_neg full, List.append_nil]

/-- The lines with so many newer ones stay so when a line is added. -/
theorem take_before_concat (count : Nat) (list : List Line) (line : Line) :
    (list.take (list.length - count)).Sublist
      ((list ++ [line]).take ((list ++ [line]).length - count)) := by
  have unchanged : (list ++ [line]).take (list.length - count) =
      list.take (list.length - count) :=
    List.take_append_of_le_length (Nat.sub_le list.length count)
  rw [← unchanged]
  apply List.take_sublist_take_left
  rw [List.length_append]
  omega

theorem take_before_suffix {past rest : List Line} {count : Nat} (held : rest.length = count) :
    (past ++ rest).take ((past ++ rest).length - count) = past := by
  rw [List.length_append, held, Nat.add_sub_cancel_right, List.take_left]

theorem Filed.log (filed : before.Filed) (line : Line) : (before.log line).Filed := by
  obtain ⟨past, shape, accounted⟩ := filed.suffix
  have logged : (before.log line).logged = before.logged ++ [line] := rfl
  rcases log_cases filed.bounded line with
    ⟨room, buffer, displaced⟩ | ⟨oldest, rest, full, held, buffer, displaced⟩
  · constructor
    · rw [buffer, List.length_append]
      exact room
    · refine ⟨past, ?_, ?_⟩
      · rw [logged, buffer, ← List.append_assoc, ← shape]
      · rw [gone, displaced]
        exact accounted
    · rw [displaced, logged]
      exact filed.displaced.trans (take_before_concat _ _ _)
    · intro batch pending
      obtain ⟨nonempty, full | ⟨earlier, placed⟩⟩ := filed.ready batch pending
      · exact absurd full room.ne
      · refine ⟨nonempty, .inr ⟨earlier, ?_⟩⟩
        rw [logged, buffer, placed, List.append_assoc, List.append_assoc]
  · have moved : before.logged ++ [line] = (past ++ [oldest]) ++ (rest ++ [line]) := by
      rw [shape, full]
      simp only [List.append_assoc, List.cons_append, List.nil_append]
    have length : (rest ++ [line]).length = telemetryBufCap := by
      rw [full] at held
      rwa [List.length_append]
    constructor
    · rw [buffer]
      exact length.le
    · refine ⟨past ++ [oldest], ?_, ?_⟩
      · rw [logged, buffer, moved]
      · rw [gone, displaced, ← List.append_assoc]
        exact accounted.append_right [oldest]
    · have earlier := filed.displaced
      rw [shape, take_before_suffix held] at earlier
      rw [displaced, logged, moved, take_before_suffix length]
      exact earlier.append (List.Sublist.refl _)
    · intro batch pending
      refine ⟨(filed.ready batch pending).1, .inl ?_⟩
      rw [buffer, length]

theorem perm_append_swap (first second third : List Line) :
    (first ++ second ++ third).Perm (first ++ third ++ second) := by
  rw [List.append_assoc, List.append_assoc]
  exact List.perm_append_comm.append_left first

theorem drain_batch {batch : List Line} (pending : state.drain.batch = some batch) :
    batch ≠ [] ∧ (drainBatch state.buffer).1 = batch := by
  have taken : (if (drainBatch state.buffer).1.isEmpty then none
      else some (drainBatch state.buffer).1) = some batch := pending
  split at taken
  next => cases taken
  next some =>
    cases taken
    exact ⟨mt List.isEmpty_iff.mpr some, rfl⟩

theorem Filed.drain (filed : before.Filed) (idle : before.batch = none) :
    before.drain.Filed := by
  obtain ⟨past, shape, accounted⟩ := filed.suffix
  have split := drainBatch_append before.buffer
  have placed : before.logged = past ++ ((drainBatch before.buffer).1 ++ before.drain.buffer) :=
    shape.trans (congrArg (past ++ ·) split.symm)
  constructor
  · exact (List.drop_sublist ..).length_le.trans filed.bounded
  · refine ⟨past ++ (drainBatch before.buffer).1, ?_, ?_⟩
    · rw [List.append_assoc]
      exact placed
    · rw [gone, inFlight_of_idle idle, List.append_nil] at accounted
      rw [gone, inFlight_drain]
      exact (accounted.append_right _).trans (perm_append_swap _ _ _)
  · exact filed.displaced
  · intro batch pending
    obtain ⟨nonempty, rfl⟩ := drain_batch pending
    exact ⟨nonempty, .inr ⟨past, placed⟩⟩

theorem Filed.succeed (filed : before.Filed) : before.succeed.Filed := by
  obtain ⟨past, shape, accounted⟩ := filed.suffix
  refine ⟨filed.bounded, ⟨past, shape, ?_⟩, filed.displaced, fun batch pending => by cases pending⟩
  have emptied : before.succeed.gone = before.gone := by
    change before.uploaded ++ before.inFlight ++ [] ++ before.displaced = before.gone
    rw [List.append_nil, gone]
  rwa [emptied]

theorem Filed.fail (filed : before.Filed) {batch : List Line}
    (pending : before.batch = some batch)
    (fits : before.inFlight.length + before.buffer.length ≤ telemetryBufCap) :
    before.fail.Filed := by
  obtain ⟨past, shape, accounted⟩ := filed.suffix
  have flying : before.inFlight = batch := by rw [inFlight, pending, Option.getD_some]
  have buffer : before.fail.buffer = batch ++ before.buffer := by
    rw [← flying]
    exact rebuffer_of_fits fits
  rw [flying] at fits
  obtain ⟨nonempty, full | ⟨earlier, placed⟩⟩ := filed.ready batch pending
  · have some := List.length_pos_iff.mpr nonempty
    omega
  · constructor
    · rwa [buffer, List.length_append]
    · refine ⟨earlier, ?_, ?_⟩
      · rw [buffer]
        exact placed
      · rw [placed, ← List.append_assoc] at shape
        rw [← List.append_cancel_right shape, gone, flying] at accounted
        have counted := accounted.trans (perm_append_swap _ _ _)
        change earlier.Perm (before.uploaded ++ [] ++ before.displaced)
        rw [List.append_nil]
        exact (List.perm_append_right_iff batch).mp counted
    · exact filed.displaced
    · intro other pending
      cases pending

theorem Filed.step (filed : before.Filed) (fits : Fits before action)
    (stepped : step decodePin before action = some after) : after.Filed := by
  rcases step_cases stepped with
    ⟨line, rfl⟩ | ⟨idle, rfl⟩ | rfl | ⟨rfl, rfl⟩ | ⟨rfl, ⟨batch, pending⟩, rfl⟩
  · exact filed.log line
  · exact filed.drain idle
  · exact filed
  · exact filed.succeed
  · exact filed.fail pending (fits rfl)

theorem diff_of_perm {past left : List Line} (rest : List Line) (same : past.Perm left) :
    (past ++ rest).diff left = rest := by
  rw [← same.diff_left]
  induction past generalizing left with
  | nil => rfl
  | cons line past ih =>
      rw [List.cons_append, List.diff_cons, List.erase_cons_head]
      exact ih (List.Perm.refl _)

/-- The buffer is the last part of the log, and what remains of it without the lines uploaded,
in flight or displaced.  A line is displaced only by newer ones that fill the buffer. -/
structure OldestFirst (state : Telemetry) : Prop where
  newest : state.buffer =
    latest telemetryBufCap (state.logged.diff
      (state.uploaded ++ state.inFlight ++ state.displaced))
  suffix : state.buffer.IsSuffix state.logged
  displaced : state.displaced.Sublist
    (state.logged.take (state.logged.length - telemetryBufCap))

theorem Filed.oldestFirst (filed : state.Filed) : state.OldestFirst := by
  obtain ⟨past, shape, accounted⟩ := filed.suffix
  refine ⟨?_, ⟨past, shape.symm⟩, filed.displaced⟩
  have remaining : state.logged.diff (state.uploaded ++ state.inFlight ++ state.displaced) =
      state.buffer := by
    rw [shape]
    exact diff_of_perm state.buffer accounted
  rw [remaining, latest, Nat.sub_eq_zero_of_le filed.bounded, List.drop_zero]

/-- The buffer drops the oldest lines first: in every run it is in log order, and as long as
failed uploads fit back it holds the newest of the lines that are neither uploaded nor in
flight nor displaced by newer ones. -/
theorem drops_oldest_first (run : Reachable (step decodePin) start state) :
    state.Ordered ∧ (Run (step decodePin) Fits start state → state.OldestFirst) := by
  refine ⟨reachable_ordered run, fun fitting => ?_⟩
  have filed : state.Filed := fitting.invariant Filed.start fun filed fits stepped =>
    filed.step fits stepped
  exact filed.oldestFirst

/-- A paired client that uploads. -/
def sampleConfig : StoredConfig where
  serverId := "s"
  e2ePass := ""
  token := "t"
  excludeSensitive := true
  autoClearSecs := 0
  markReceivedSensitive := true
  telemetry := true
  serverUrl := "https://relay"
  serverName := "relay"
  deviceId := "d"
  deviceName := "desk"
  pin := "p"
  sensitiveTtlSecs := 0
  customPatterns := []
  quickPanelShortcut := ""

/-- A line logged during an upload that fails, and the next upload. -/
theorem retried_upload :
    ∃ state : Telemetry, state.Ordered ∧ state.OldestFirst ∧
      state.logged.length = 3 ∧ state.uploaded = state.logged := by
  let actions : List Action :=
    [.tlog "info" "1" "start", .tlog "warn" "2" "reconnect", .cycle (some sampleConfig),
      .tlog "error" "3" "lost", .finish false, .cycle (some sampleConfig), .finish true]
  obtain ⟨state, run, found⟩ := Run.exists_of_execWhen (step fun _ => some [])
    (fun state action => decide (Fits state action)) start actions
    (fun state => decide (state.logged.length = 3 ∧ state.uploaded = state.logged))
    (by decide +kernel)
  have fitting : Run (step fun _ => some []) Fits start state :=
    run.mono fun admitted => of_decide_eq_true admitted
  have reached : Reachable (step fun _ => some []) start state := run.mono fun _ => trivial
  obtain ⟨ordered, newest⟩ := drops_oldest_first reached
  obtain ⟨logged, uploaded⟩ := of_decide_eq_true found
  exact ⟨state, ordered, newest fitting, logged, uploaded⟩

/-- A line displaced by newer ones does not come back when the buffer has room again. -/
theorem displaced_line_missing :
    ¬∀ (decodePin : String → Option (List UInt8)) (state : Telemetry),
      Reachable (step decodePin) start state →
        state.buffer = latest telemetryBufCap (state.logged.diff state.uploaded) := by
  intro always
  let actions : List Action :=
    .tlog "info" "1" "start" :: List.replicate 500 (.tlog "warn" "2" "reconnect") ++
      [.cycle (some sampleConfig), .finish true]
  obtain ⟨state, run, found⟩ := Reachable.exists_of_exec (step fun _ => some []) start actions
    (fun state =>
      state.buffer != latest telemetryBufCap (state.logged.diff state.uploaded))
    (by decide +kernel)
  exact bne_iff_ne.mp found (always _ state run)

end Telemetry

end CopySync.Desktop
