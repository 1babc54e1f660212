import CopySync.Desktop.Turn

/-!
# Desktop agent: settings and credentials

The agent keeps one configuration in three places: the file, the copy its supervisor
captured when it was started, and the copy of the engine it launched from that.  A
settings request loads the file, changes one field and writes the record back; a
rotated token changes the engine's copy, which is then written as a whole; and a
relaunch after a panic starts from the captured copy.

So a token arriving after a settings request takes the setting back, two overlapping
requests undo one another, and an engine relaunched after a rotation dials with the
token the server is about to retire.  Each is exactly what goes wrong: when every
write is made from a copy that is up to date, the file keeps what it was told, and
when nothing was rotated before a relaunch, every dial uses the newest token.
-/

namespace CopySync.Desktop

open Foundation Client

/-! ## Configuration -/

/-- The settings that have a request of their own. -/
structure Preferences where
  excludeSensitive : Bool
  autoClearSecs : Nat
  markReceivedSensitive : Bool
  telemetry : Bool
  deriving DecidableEq, Repr

/-- The record of `config.rs`. -/
structure StoredConfig extends Config, Preferences where
  serverUrl : String
  serverName : String
  deviceId : String
  deviceName : String
  pin : String
  sensitiveTtlSecs : Nat
  customPatterns : List String
  quickPanelShortcut : String
  deriving DecidableEq, Repr

inductive Setting where
  | privacyFilter (on : Bool)
  | autoClear (secs : Nat)
  | markSensitive (on : Bool)
  | telemetry (on : Bool)
  deriving DecidableEq, Repr

def Setting.set (preferences : Preferences) : Setting → Preferences
  | .privacyFilter on => { preferences with excludeSensitive := on }
  | .autoClear secs => { preferences with autoClearSecs := secs }
  | .markSensitive on => { preferences with markReceivedSensitive := on }
  | .telemetry on => { preferences with telemetry := on }

/-! ## The agent -/

/-- What the supervisor is doing. -/
inductive Launch where
  | running (engine : Engine)
  | backoff
  | stopped

/-- `file` is `none` when loading it fails.  `flags` are the atomics the engine and
the host read, `requests` the settings requests between their load and their save,
with the copy each has loaded. -/
structure Agent where
  file : Option StoredConfig
  captured : StoredConfig
  launch : Launch
  flags : Preferences
  requests : List (Setting × StoredConfig)

inductive AgentAction where
  | request (setting : Setting)
  | save (index : Nat)
  | turn (action : Action)
  | exit
  | panic
  | relaunch

namespace Agent

/-- `Engine::start` with the configuration the file holds. -/
def start (env : Env) (config : StoredConfig) : Agent where
  file := some config
  captured := config
  launch := .running (.start env config.toConfig)
  flags := config.toPreferences
  requests := []

/-- A settings request until its save: it ends here when the file cannot be
loaded. -/
def request (agent : Agent) (setting : Setting) : Agent :=
  let agent := { agent with flags := setting.set agent.flags }
  match agent.file with
  | some config => { agent with requests := agent.requests ++ [(setting, config)] }
  | none => agent

/-- The record a request writes. -/
def changed (setting : Setting) (config : StoredConfig) : StoredConfig :=
  { config with toPreferences := setting.set config.toPreferences }

def save (agent : Agent) (index : Nat) : Option Agent :=
  agent.requests[index]?.map fun entry =>
    { agent with
      file := some (changed entry.1 entry.2)
      requests := agent.requests.eraseIdx index }

/-- The record the engine writes. -/
def rotated (captured : StoredConfig) (token : String) : StoredConfig := { captured with token }

/-- The new token of a turn that rotates. -/
def newToken : Action → Option String
  | .frame (.tokenRotate token) => if token = "" then none else some token
  | _ => none

/-- A turn of the running engine; the engine's copy is the captured one but for the
token. -/
def turn (env : Env) (agent : Agent) (action : Action) : Option Agent :=
  match agent.launch with
  | .running engine =>
      (engine.step env action).map fun next =>
        { agent with
          launch := .running next
          file := match newToken action with
            | some token => some (rotated agent.captured token)
            | none => agent.file }
  | _ => none

def step (env : Env) (agent : Agent) : AgentAction → Option Agent
  | .request setting => some (agent.request setting)
  | .save index => agent.save index
  | .turn action => agent.turn env action
  | .exit =>
      match agent.launch with
      | .running _ => some { agent with launch := .stopped }
      | _ => none
  | .panic =>
      match agent.launch with
      | .running _ => some { agent with launch := .backoff }
      | _ => none
  | .relaunch =>
      match agent.launch with
      | .backoff =>
          some { agent with launch := .running (.start env agent.captured.toConfig) }
      | _ => none

end Agent

/-! ## What it was told -/

/-- A connection attempt: the token it uses, and the newest one received before. -/
structure Dial where
  token : String
  newest : Option String
  deriving DecidableEq, Repr

/-- The agent with the settings last requested, the tokens received and the
connection attempts made. -/
structure Audit where
  agent : Agent
  chosen : Preferences
  received : List String
  dials : List Dial

namespace Audit

def start (env : Env) (config : StoredConfig) : Audit where
  agent := .start env config
  chosen := config.toPreferences
  received := []
  dials := []

/-- The token a turn dials with. -/
def dialed (agent : Agent) : Action → Option String
  | .connect .. | .connectFailed _ =>
      match agent.launch with
      | .running engine => some engine.token
      | _ => none
  | _ => none

def observe (audit : Audit) (action : AgentAction) (agent : Agent) : Audit :=
  match action with
  | .save index =>
      match audit.agent.requests[index]? with
      | some entry => { audit with agent, chosen := entry.1.set audit.chosen }
      | none => { audit with agent }
  | .turn action =>
      { audit with
        agent
        received := audit.received ++ (Agent.newToken action).toList
        dials := audit.dials ++
          ((dialed audit.agent action).map fun token => ⟨token, audit.received.getLast?⟩).toList }
  | _ => { audit with agent }

def step (env : Env) (audit : Audit) (action : AgentAction) : Option Audit :=
  (audit.agent.step env action).map (audit.observe action)

/-- The file holds for each setting the value of the last request that set it, and
the last token received. -/
def Kept (config : StoredConfig) (audit : Audit) : Prop :=
  ∃ file, audit.agent.file = some file ∧ file.toPreferences = audit.chosen ∧
    file.token = audit.received.getLastD config.token

/-- Every connection attempt used the newest token received before it. -/
def DialsNewest (audit : Audit) : Prop :=
  ∀ dial ∈ audit.dials, ∀ token, dial.newest = some token → dial.token = token

end Audit

/-! ## The token of the engine -/

namespace Engine

variable {env : Env} {engine next : Engine}

theorem carryOut_token (numbered : Bool) (plan : Plan) (sending : Sending) :
    ((engine.number numbered).carryOut env plan sending).1.token = engine.token := by
  have counted : (engine.number numbered).token = engine.token := by
    cases numbered <;> rfl
  cases plan with
  | refuse output => exact counted
  | upload payload report => exact counted
  | post event hold row notice sha =>
      obtain ⟨holds, held, same⟩ :=
        carryOut_post (engine.number numbered) env event hold row notice sha sending
      rw [same]
      split_ifs <;> exact counted

theorem command_token (session : Session) (cmd : Cmd) :
    (engine.command env session cmd).token = engine.token := by
  refine command_induction (motive := fun current => current.token = engine.token) session cmd rfl
    ?_ ?_ ?_ ?_
  · intro current numbered plan sending _ held
    rw [carryOut_token, held]
  · exact fun _ _ _ _ held _ => held
  · exact fun _ _ _ held => held
  · exact fun _ _ held => held

theorem Receives.token {content : Option Clipboard} (receives : engine.Receives content next) :
    next.token = engine.token := by
  obtain ⟨recentText, recentImg, recentFiles, outputs, -, -, rfl⟩ := receives
  rfl

theorem handleResult_token (result : BlobResult) (delivered : Bool) (applying : Applying) :
    (engine.handleResult env result delivered applying).token = engine.token := by
  rcases handleResult_cases env result delivered applying with
    ⟨data, event, same⟩ | ⟨_, _, _, _, _, same⟩
  · rw [same]
    exact (applyBlob_receives event data applying).token
  · rw [same]

theorem finishWorker_token (worker : Worker) (response : Except String Bytes) :
    (engine.finishWorker env worker response).token = engine.token := by
  cases worker <;> cases response <;> rfl

theorem serve_token (id : String) (reread : Except String Bytes) :
    (engine.serve env id reread).token = engine.token := by
  simp only [serve]
  repeat' split
  all_goals rfl

/-- Only a token frame changes the token. -/
theorem step_token {action : Action} (stepped : engine.step env action = some next) :
    next.token = (Agent.newToken action).getD engine.token := by
  cases turn_of_step stepped with
  | connect session accepted now offline =>
      obtain ⟨recentImg, message, same⟩ := connect_shape engine session accepted now
      rw [same]
      split_ifs <;> rfl
  | connectFailed error offline => rfl
  | lost why session connected => rfl
  | command cmd session connected => exact command_token session cmd
  | frame frame session connected =>
      cases frame with
      | keepalive | other | badClip => rfl
      | tokenRotate token =>
          simp only [handleFrame, Agent.newToken]
          split_ifs <;> rfl
      | clip event applying =>
          simp only [handleFrame]
          split_ifs
          · rfl
          · exact (handleIncomingText_receives event applying).token
      | blobRequest id reread => exact serve_token id reread
  | result delivered applying session result rest connected found =>
      exact handleResult_token result delivered applying
  | finish index response worker found => exact finishWorker_token worker response

end Engine

namespace Audit

variable {env : Env} {config : StoredConfig} {audit later : Audit} {action : AgentAction}

/-! ## Settings and tokens in the file -/

/-- Every write is made from a copy that is up to date: a request has loaded what the
file holds now, but for the field it sets, and the captured settings are the ones in
the file when a token arrives. -/
def upToDate (audit : Audit) : AgentAction → Bool
  | .save index =>
      audit.agent.requests[index]?.all fun entry =>
        audit.agent.file.all fun file =>
          decide (entry.1.set entry.2.toPreferences = entry.1.set file.toPreferences ∧
            entry.2.token = file.token)
  | .turn action =>
      (Agent.newToken action).isNone ||
        audit.agent.file.all fun file =>
          decide (audit.agent.captured.toPreferences = file.toPreferences)
  | _ => true

theorem Kept.step (kept : audit.Kept config) (careful : audit.upToDate action = true)
    (stepped : audit.step env action = some later) : later.Kept config := by
  obtain ⟨file, found, preferences, token⟩ := kept
  obtain ⟨agent, moved, rfl⟩ := Option.map_eq_some_iff.mp stepped
  cases action with
  | request setting =>
      cases moved
      refine ⟨file, ?_, preferences, token⟩
      simp [observe, Agent.request, found]
  | save index =>
      obtain ⟨⟨setting, loaded⟩, listed, rfl⟩ := Option.map_eq_some_iff.mp moved
      simp only [upToDate, listed, found, Option.all_some, decide_eq_true_eq] at careful
      simp only [observe, listed]
      refine ⟨_, rfl, ?_, careful.2.trans token⟩
      rw [← preferences]
      exact careful.1
  | turn action =>
      simp only [Agent.step, Agent.turn] at moved
      split at moved
      next engine _ =>
        obtain ⟨next, -, rfl⟩ := Option.map_eq_some_iff.mp moved
        cases rotates : Agent.newToken action with
        | none =>
            refine ⟨file, ?_, preferences, ?_⟩
            · simp [observe, rotates, found]
            · simpa [observe, rotates] using token
        | some fresh =>
            simp only [upToDate, rotates, found, Option.isNone_some, Option.all_some,
              Bool.false_or, decide_eq_true_eq] at careful
            refine ⟨Agent.rotated audit.agent.captured fresh, ?_, careful.trans preferences, ?_⟩
            · simp [observe, rotates]
            · simp [observe, rotates, Agent.rotated]
      next => cases moved
  | exit | panic | relaunch =>
      simp only [Agent.step] at moved
      split at moved
      · cases moved
        exact ⟨file, found, preferences, token⟩
      · cases moved

/-- In every run whose writes are all made from up-to-date copies, the file holds the
settings last requested and the last token received. -/
theorem settings_kept
    (run : Run (Audit.step env) (fun audit action => audit.upToDate action = true)
      (Audit.start env config) audit) : audit.Kept config :=
  run.invariant ⟨config, rfl, rfl, rfl⟩ fun kept careful stepped => kept.step careful stepped

/-- A paired agent. -/
def demoStored : StoredConfig where
  toConfig := demoConfig
  toPreferences := ⟨true, 0, false, true⟩
  serverUrl := "https://copysync.local:8443"
  serverName := "home"
  deviceId := "dev_a"
  deviceName := "laptop"
  pin := ""
  sensitiveTtlSecs := 45
  customPatterns := []
  quickPanelShortcut := "CommandOrControl+Shift+KeyV"

/-- The privacy filter is switched off, and then a token arrives: the engine writes
its copy, in which the filter is on. -/
theorem token_reverts_setting :
    ¬∀ (env : Env) (config : StoredConfig) (audit : Audit),
      Reachable (Audit.step env) (Audit.start env config) audit → audit.Kept config := by
  intro claim
  obtain ⟨audit, reached, checked⟩ := Reachable.exists_of_exec (Audit.step demoEnv)
    (Audit.start demoEnv demoStored)
    [.request (.privacyFilter false), .save 0, .turn (.connect ⟨0, 0⟩ 0 0),
      .turn (.frame (.tokenRotate "t2"))]
    (fun audit => decide (audit.chosen.excludeSensitive = false ∧
      audit.agent.file.map (·.excludeSensitive) = some true))
    (by decide +kernel)
  obtain ⟨chosen, stored⟩ := of_decide_eq_true checked
  obtain ⟨file, found, preferences, -⟩ := claim demoEnv demoStored audit reached
  rw [found, Option.map_some, preferences, chosen] at stored
  cases stored

/-- A token arrives, and then two settings are changed one after the other. -/
theorem settings_after_token :
    ∃ audit, Run (Audit.step demoEnv) (fun audit action => audit.upToDate action = true)
        (Audit.start demoEnv demoStored) audit ∧
      audit.chosen = ⟨false, 30, false, true⟩ ∧ audit.received = ["t2"] ∧
      audit.Kept demoStored := by
  obtain ⟨audit, reached, checked⟩ := Run.exists_of_execWhen (Audit.step demoEnv) Audit.upToDate
    (Audit.start demoEnv demoStored)
    [.turn (.connect ⟨0, 0⟩ 0 0), .turn (.frame (.tokenRotate "t2")),
      .request (.privacyFilter false), .save 0, .request (.autoClear 30), .save 0]
    (fun audit => decide (audit.chosen = ⟨false, 30, false, true⟩ ∧ audit.received = ["t2"]))
    (by decide +kernel)
  obtain ⟨chosen, received⟩ := of_decide_eq_true checked
  exact ⟨audit, reached, chosen, received, settings_kept reached⟩

/-! ## Tokens of relaunched engines -/

/-- A relaunch happens only when the captured token is the newest one. -/
def relaunchesNewest (audit : Audit) : AgentAction → Bool
  | .relaunch =>
      audit.received.getLast?.all fun token => decide (token = audit.agent.captured.token)
  | _ => true

/-- The running engine has the newest token, and so had every dial. -/
structure Newest (audit : Audit) : Prop where
  engine : ∀ engine, audit.agent.launch = .running engine →
    engine.token = audit.received.getLastD audit.agent.captured.token
  dials : audit.DialsNewest

theorem getLastD_of_getLast? {tokens : List String} {token other : String}
    (last : tokens.getLast? = some token) : tokens.getLastD other = token := by
  rw [List.getLastD_eq_getLast?, last]
  rfl

theorem Newest.turn (newest : audit.Newest) {turn : Action} {agent : Agent}
    (moved : audit.agent.turn env turn = some agent) :
    (audit.observe (.turn turn) agent).Newest := by
  simp only [Agent.turn] at moved
  split at moved
  next engine running =>
    obtain ⟨next, stepped, rfl⟩ := Option.map_eq_some_iff.mp moved
    have token := newest.engine engine running
    constructor
    · intro current running
      cases running
      rw [Engine.step_token stepped, token]
      cases rotates : Agent.newToken turn <;> simp [observe, rotates]
    · intro dial listed latest received
      rcases List.mem_append.mp listed with old | new
      · exact newest.dials dial old latest received
      · obtain ⟨used, dialed, rfl⟩ := Option.map_eq_some_iff.mp (Option.mem_toList.mp new)
        have own : used = engine.token := by
          cases turn with
          | connect | connectFailed => simpa [dialed, Audit.dialed, running] using dialed.symm
          | _ => cases dialed
        rw [own, token]
        exact getLastD_of_getLast? received
  next => cases moved

theorem Newest.step (newest : audit.Newest) (careful : audit.relaunchesNewest action = true)
    (stepped : audit.step env action = some later) : later.Newest := by
  obtain ⟨agent, moved, rfl⟩ := Option.map_eq_some_iff.mp stepped
  cases action with
  | turn turn => exact newest.turn moved
  | request setting =>
      cases moved
      refine ⟨fun engine running => ?_, newest.dials⟩
      have same : audit.agent.launch = .running engine := by
        simp only [observe, Agent.request] at running
        split at running <;> exact running
      rw [newest.engine engine same]
      simp only [observe, Agent.request]
      split <;> rfl
  | save index =>
      obtain ⟨entry, listed, rfl⟩ := Option.map_eq_some_iff.mp moved
      simp only [observe, listed]
      exact ⟨newest.engine, newest.dials⟩
  | exit | panic =>
      simp only [Agent.step] at moved
      split at moved
      · cases moved
        exact ⟨nofun, newest.dials⟩
      · cases moved
  | relaunch =>
      simp only [Agent.step] at moved
      split at moved
      · cases moved
        refine ⟨fun engine running => ?_, newest.dials⟩
        cases running
        cases last : audit.received.getLast? with
        | none => simp [observe, List.getLastD_eq_getLast?, last, Engine.start]
        | some token =>
            simp only [relaunchesNewest, last, Option.all_some, decide_eq_true_eq] at careful
            simp [observe, List.getLastD_eq_getLast?, last, careful, Engine.start]
      · cases moved

/-- In every run that relaunches only while the captured token is the newest one,
every dial uses the newest token received before it. -/
theorem dials_newest
    (run : Run (Audit.step env) (fun audit action => audit.relaunchesNewest action = true)
      (Audit.start env config) audit) : audit.DialsNewest := by
  have started : (Audit.start env config).Newest :=
    ⟨fun engine running => by cases running; rfl, fun _ listed => by cases listed⟩
  have newest : audit.Newest := run.invariant started
    fun newest careful stepped => newest.step careful stepped
  exact newest.dials

/-- A token is rotated, the engine panics and is relaunched: it dials with the token
it was first started with. -/
theorem relaunch_dials_retired :
    ¬∀ (env : Env) (config : StoredConfig) (audit : Audit),
      Reachable (Audit.step env) (Audit.start env config) audit → audit.DialsNewest := by
  intro claim
  obtain ⟨audit, reached, checked⟩ := Reachable.exists_of_exec (Audit.step demoEnv)
    (Audit.start demoEnv demoStored)
    [.turn (.connect ⟨0, 0⟩ 0 0), .turn (.frame (.tokenRotate "t2")), .panic, .relaunch,
      .turn (.connectFailed "401")]
    (fun audit => decide (⟨"token", some "t2"⟩ ∈ audit.dials)) (by decide +kernel)
  have used := claim demoEnv demoStored audit reached _ (of_decide_eq_true checked) "t2" rfl
  exact absurd used (by decide)

/-- An engine panics before any rotation, its successor receives two tokens and dials
again. -/
theorem dials_after_rotation :
    ∃ audit, Run (Audit.step demoEnv) (fun audit action => audit.relaunchesNewest action = true)
        (Audit.start demoEnv demoStored) audit ∧
      audit.dials.map (·.token) = ["token", "token", "t3"] ∧ audit.DialsNewest := by
  obtain ⟨audit, reached, checked⟩ := Run.exists_of_execWhen (Audit.step demoEnv)
    Audit.relaunchesNewest (Audit.start demoEnv demoStored)
    [.turn (.connect ⟨0, 0⟩ 0 0), .panic, .relaunch, .turn (.connect ⟨0, 0⟩ 0 0),
      .turn (.frame (.tokenRotate "t2")), .turn (.frame (.tokenRotate "t3")),
      .turn (.lost "수신 오류"), .turn (.connect ⟨0, 0⟩ 0 0)]
    (fun audit => decide (audit.dials.map (·.token) = ["token", "token", "t3"]))
    (by decide +kernel)
  exact ⟨audit, reached, of_decide_eq_true checked, dials_newest reached⟩

end Audit

end CopySync.Desktop
