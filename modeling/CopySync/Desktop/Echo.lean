import CopySync.Desktop.Inbox
import CopySync.Desktop.Watcher

/-!
# Desktop client: echoes

A received text is put on the OS clipboard, where the watcher reads it and hands it
to the engine like a copy of the user.  The engine skips it because it has remembered
the hash, for three seconds and in a ring of 64 entries.

The three seconds run until the command is taken from the channel, which is not read
while the engine reconnects; and the ring pushes out the entry that was added first,
not the one that was used longest ago.  An echo that waits longer, or whose hash was
pushed out, is sent as a clip of this device.
-/

namespace CopySync.Desktop

open Foundation Client

/-! ## What a turn remembers -/

def Plan.sha? : Plan → Option String
  | .post _ _ _ _ sha => sha
  | _ => none

namespace Engine

variable (env : Env) (engine : Engine)

/-- The hash of a text whose frame went out. -/
def sentText (session : Session) (text : String) (html : Option String) (sending : Sending) :
    Option (String × Nat) :=
  if sending.delivered then
    (textPlan env engine.key (engine.seq + 1) session.maxMsg text html sending).sha?.map
      (·, sending.sentAt)
  else none

/-- The hash of a text that a turn records, with the time. -/
def remembers : Action → Option (String × Nat)
  | .command cmd =>
      engine.session.bind fun session =>
        match cmd with
        | .localText text html exclude sending =>
            if engine.recentText.seen (env.prims.sha256Hex (bytesOf text)) sending.now then none
            else
              match if exclude then env.classify text else none with
              | some _ => none
              | none => engine.sentText env session text html sending
        | .sendText text sending => engine.sentText env session text none sending
        | _ => none
  | .frame (.clip event applying) =>
      if event.isBlob then none
      else
        match engine.incomingText env event with
        | .ok text => some (env.prims.sha256Hex (bytesOf text), applying.now)
        | .error _ => none
  | _ => none

variable {env engine} {next : Engine}

/-- The ring of texts after a turn. -/
def Records (engine next : Engine) (entry : Option (String × Nat)) : Prop :=
  next.recentText =
    entry.elim engine.recentText fun entry => engine.recentText.remember entry.1 entry.2

theorem carryOut_recentText (numbered : Bool) (plan : Plan) (sending : Sending) :
    ((engine.number numbered).carryOut env plan sending).1.recentText =
      ((if sending.delivered then plan.sha? else none).elim engine.recentText
        (engine.recentText.remember · sending.sentAt)) := by
  obtain ⟨seq, counted⟩ := engine.number_shape numbered
  rw [counted]
  cases plan with
  | refuse output => cases sending.delivered <;> rfl
  | upload payload report => cases sending.delivered <;> rfl
  | post event hold row notice sha =>
      obtain ⟨holds, held, carried⟩ :=
        Engine.carryOut_post { engine with seq } env event hold row notice sha sending
      rw [carried]
      cases sending.delivered <;> rfl

theorem imagePlan_sha? (key : GroupKey) (seq : Nat) (picture : Picture) (echoSha : String)
    (sending : Sending) : (imagePlan env key seq picture echoSha sending).sha? = none := by
  rw [imagePlan]
  repeat' split
  all_goals rfl

theorem filePlan_sha? (key : GroupKey) (seq : Nat) (threshold : Int) (document : Document)
    (sending : Sending) : (filePlan env key seq threshold document sending).sha? = none := by
  rw [filePlan]
  split
  · rfl
  next size _ =>
    rw [contentPlan]
    split
    · rfl
    · split
      · rfl
      · by_cases large : 0 < threshold ∧ threshold < size
        · simp only [if_pos large]
          rfl
        · simp only [if_neg large]
          rfl

theorem sendTextClip_records (session : Session) (text : String) (html : Option String)
    (sending : Sending) :
    engine.Records (engine.sendTextClip env session.maxMsg text html sending).1
      (engine.sentText env session text html sending) := by
  rw [Records, sendTextClip_eq, carryOut_recentText, sentText]
  cases sending.delivered with
  | false => rfl
  | true =>
      generalize (textPlan env engine.key (engine.seq + 1) session.maxMsg text html sending).sha? =
        sha
      cases sha <;> rfl

theorem sendFileClip_recentText (threshold : Int) (document : Document) (sending : Sending) :
    (engine.sendFileClip env threshold document sending).1.recentText = engine.recentText := by
  rw [sendFileClip_eq, carryOut_recentText, filePlan_sha?]
  cases sending.delivered <;> rfl

theorem sendFiles_recentText (threshold : Int) (documents : List (Document × Sending)) :
    (engine.sendFiles env threshold documents).1.recentText = engine.recentText := by
  induction documents generalizing engine with
  | nil => rfl
  | cons pair rest ih =>
      obtain ⟨document, sending⟩ := pair
      have first := @sendFileClip_recentText env engine threshold document sending
      rw [sendFiles]
      split_ifs
      · exact ih
      · split
        next next outcome =>
          rw [outcome] at first
          exact ih.trans first
        next next outcome =>
          rw [outcome] at first
          exact first

theorem settle_recentText (why : String) (outcome : Engine × Bool) :
    (settle why outcome).recentText = outcome.1.recentText := by
  obtain ⟨next, delivered⟩ := outcome
  cases delivered <;> rfl

theorem command_records (session : Session) (connected : engine.session = some session)
    (cmd : Cmd) :
    engine.Records (engine.command env session cmd) (engine.remembers env (.command cmd)) := by
  have texts : ∀ text html sending why,
      engine.Records (settle why (engine.sendTextClip env session.maxMsg text html sending))
        (engine.sentText env session text html sending) := by
    intro text html sending why
    rw [Records, settle_recentText]
    exact sendTextClip_records session text html sending
  cases cmd with
  | localText text html exclude sending =>
      simp only [command, remembers, connected, Option.bind_some]
      by_cases echo : engine.recentText.seen (env.prims.sha256Hex (bytesOf text)) sending.now = true
      · rw [if_pos echo, if_pos echo]
        rfl
      · rw [if_neg echo, if_neg echo]
        cases (if exclude = true then env.classify text else none) with
        | some reason => rfl
        | none => exact texts _ _ _ _
  | sendText text sending =>
      simp only [command, remembers, connected, Option.bind_some]
      exact texts _ _ _ _
  | localImage picture sending =>
      simp only [command, remembers, connected, Option.bind_some]
      split_ifs
      · rfl
      · obtain ⟨numbered, same⟩ := spawnImageClip_eq env engine picture _ sending
        rw [Records, same, carryOut_recentText, imagePlan_sha?]
        cases sending.delivered <;> rfl
  | sendFile document sending =>
      simp only [command, remembers, connected, Option.bind_some]
      rw [Records, settle_recentText]
      exact sendFileClip_recentText ..
  | localFiles documents =>
      simp only [command, remembers, connected, Option.bind_some]
      rw [Records, settle_recentText]
      exact sendFiles_recentText ..
  | setPool name delivered =>
      simp only [command, remembers, connected, Option.bind_some]
      rw [Records, settle_recentText]
      rfl

theorem applyBlob_recentText (event : ClipEvent) (data : Bytes) (applying : Applying) :
    (engine.applyBlob env event data applying).recentText = engine.recentText := by
  rw [applyBlob]
  split
  · rfl
  · simp only
    split_ifs
    · split <;> rfl
    · rfl

theorem handleFrame_records (frame : Frame) :
    engine.Records (engine.handleFrame env frame) (engine.remembers env (.frame frame)) := by
  cases frame with
  | keepalive | other | badClip => rfl
  | tokenRotate token =>
      simp only [handleFrame]
      split_ifs <;> rfl
  | clip event applying =>
      simp only [handleFrame, remembers]
      split_ifs
      · rfl
      · rw [handleIncomingText]
        cases engine.incomingText env event <;> rfl
  | blobRequest id reread =>
      simp only [handleFrame, serve]
      repeat' split
      all_goals rfl

theorem handleResult_recentText (result : BlobResult) (delivered : Bool) (applying : Applying) :
    (engine.handleResult env result delivered applying).recentText = engine.recentText := by
  rcases handleResult_cases env result delivered applying with
    ⟨data, event, same⟩ | ⟨_, _, _, _, _, same⟩
  · rw [same]
    exact applyBlob_recentText event data applying
  · rw [same]

theorem records_of_step {action : Action} (stepped : engine.step env action = some next) :
    engine.Records next (engine.remembers env action) := by
  cases turn_of_step stepped with
  | connect session accepted now offline =>
      obtain ⟨recentImg, message, same⟩ := connect_shape engine session accepted now
      rw [same]
      split_ifs <;> rfl
  | connectFailed error offline => rfl
  | lost why session connected => rfl
  | command cmd session connected => exact command_records session connected cmd
  | frame frame session connected => exact handleFrame_records frame
  | result delivered applying session result rest connected found =>
      exact handleResult_recentText result delivered applying
  | finish index response worker found => cases worker <;> cases response <;> rfl

end Engine

/-! ## The host -/

/-- The text on the OS clipboard, and whether the engine has put it there as a received
text. -/
structure Screen where
  text : Option String
  echo : Bool
  deriving DecidableEq, Repr

/-- The clipboard after a write of the engine.  Files are only put there on Windows. -/
def Screen.write (windows : Bool) (screen : Screen) : Clipboard → Screen
  | .text text | .sensitive text | .html _ text => ⟨some text, true⟩
  | .image _ => ⟨none, false⟩
  | .files _ => if windows then ⟨none, false⟩ else screen

/-- The times a turn reads that matter to the ring of texts, in order. -/
def Action.instants : Action → List Nat
  | .command (.localText _ _ _ sending) | .command (.sendText _ sending) =>
      [sending.now, sending.sentAt]
  | .frame (.clip _ applying) => [applying.now]
  | _ => []

/-- The engine with the OS clipboard, the watcher, and the command channel, in which
echoes are marked.  `remembered` lists the texts that were remembered, and `echoed` the
frames of echoes handed to the socket. -/
structure Host where
  windows : Bool
  engine : Engine
  screen : Screen
  watcher : ClipState
  queue : List (Request × Bool)
  clock : Nat
  remembered : List (String × Nat)
  echoed : List Output

/-- Something is copied or the clipboard is cleared; the watcher reads the clipboard,
with what the OS answers about formats other than text; a command of the user is put
into the channel; or the engine takes a turn. -/
inductive HostAction where
  | copy (text : Option String)
  | poll (reading : Reading) (readable : Bool)
  | request (request : Request)
  | turn (action : Action)

def Output.isClip : Output → Bool
  | .clip .. => true
  | _ => false

namespace Host

def start (env : Env) (config : Config) (windows : Bool) : Host where
  windows
  engine := .start env config
  screen := ⟨none, false⟩
  watcher := .new
  queue := []
  clock := 0
  remembered := []
  echoed := []

def poll (env : Env) (host : Host) (reading : Reading) (readable : Bool) : Host :=
  match pollOnce env.prims host.watcher
      { reading with text := if readable then host.screen.text else none } with
  | (watcher, some (.localText text html)) =>
      { host with watcher, queue := host.queue ++ [(.localText text html, host.screen.echo)] }
  | (watcher, some request) => { host with watcher, queue := host.queue ++ [(request, false)] }
  | (watcher, none) => { host with watcher }

/-- What is left in the channel, and whether the command taken is an echo. -/
def taken (host : Host) : Action → Option (List (Request × Bool) × Bool)
  | .command cmd =>
      match host.queue with
      | (request, echo) :: rest => if request = cmd.request then some (rest, echo) else none
      | [] => none
  | _ => some (host.queue, false)

def turn (env : Env) (host : Host) (action : Action) : Option Host :=
  (host.taken action).bind fun (queue, echo) =>
    if (host.clock :: action.instants).Pairwise (· ≤ ·) then
      (host.engine.step env action).map fun engine =>
        { host with
          engine
          screen := (engine.writes.drop host.engine.writes.length).foldl
            (Screen.write host.windows) host.screen
          queue
          clock := action.instants.getLastD host.clock
          remembered := host.remembered ++ (host.engine.remembers env action).toList
          echoed := host.echoed ++
            if echo then (engine.log.drop host.engine.log.length).filter Output.isClip else [] }
    else none

def step (env : Env) (host : Host) : HostAction → Option Host
  | .copy text => some { host with screen := ⟨text, false⟩ }
  | .poll reading readable => some (host.poll env reading readable)
  | .request request => some { host with queue := host.queue ++ [(request, false)] }
  | .turn action => host.turn env action

/-- No echo was sent as a clip. -/
def NoEcho (host : Host) : Prop := host.echoed = []

/-- When a hash was last remembered. -/
def lastRemembered (host : Host) (sha : String) : Option Nat :=
  ((host.remembered.filter fun entry => entry.1 == sha).getLast?).map (·.2)

/-- An echo is taken from the channel less than three seconds after its text was last
remembered. -/
def inTime (env : Env) (host : Host) (action : Action) : Bool :=
  match action, host.queue with
  | .command (.localText text _ _ sending), (_, true) :: _ =>
      (host.lastRemembered (env.prims.sha256Hex (bytesOf text))).all fun instant =>
        decide (sending.now - instant < Dedup.echoTTL)
  | _, _ => true

/-- No hash is pushed out of the ring less than three seconds after it was remembered. -/
def keepsYoung (env : Env) (host : Host) (action : Action) : Bool :=
  (host.engine.remembers env action).all fun entry =>
    (host.engine.recentText.evicted entry.1).all fun oldest =>
      decide (Dedup.echoTTL ≤ entry.2 - oldest.2)

def prompt (env : Env) (host : Host) : HostAction → Bool
  | .turn action => host.inTime env action && host.keepsYoung env action
  | _ => true

/-- Every text remembered less than three seconds ago is in the ring, and every echo was
remembered. -/
structure Alert (env : Env) (host : Host) : Prop where
  fresh : ∀ sha instant, host.lastRemembered sha = some instant →
    (sha, instant) ∈ host.engine.recentText ∨ instant + Dedup.echoTTL ≤ host.clock
  screen : ∀ text, host.screen = ⟨some text, true⟩ →
    (host.lastRemembered (env.prims.sha256Hex (bytesOf text))).isSome = true
  queue : ∀ request, (request, true) ∈ host.queue → ∃ text html, request = .localText text html ∧
    (host.lastRemembered (env.prims.sha256Hex (bytesOf text))).isSome = true
  quiet : host.NoEcho

variable {env : Env} {config : Config} {host after : Host} {next : Engine} {action : Action}

/-- The new writes of a turn. -/
theorem writes_of_took {engine : Engine} {downloads fetched : List ClipEvent}
    {content : Option Clipboard} (took : engine.Took next downloads fetched content) :
    next.writes.drop engine.writes.length = content.toList := by
  rw [took.writes, List.drop_left]

/-- What a received text puts on the clipboard. -/
theorem write_textContent {engine : Engine} {event : ClipEvent} {applying : Applying}
    {content : Clipboard} (applied : engine.textContent env event applying = some content)
    (windows : Bool) (screen : Screen) :
    ∃ text, engine.incomingText env event = .ok text ∧
      screen.write windows content = ⟨some text, true⟩ := by
  rw [Engine.textContent] at applied
  split at applied
  next text read _ =>
    refine ⟨text, read, ?_⟩
    cases applied
    split
    · rfl
    · split_ifs <;> rfl
  next => cases applied

/-- A blob puts no text there. -/
theorem write_blobContent {engine : Engine} {event : ClipEvent} {data : Bytes}
    {applying : Applying} {content : Clipboard}
    (applied : engine.blobContent env event data applying = some content)
    (windows : Bool) (screen : Screen) :
    screen.write windows content = screen ∨ (screen.write windows content).echo = false := by
  rw [Engine.blobContent] at applied
  split at applied
  · split_ifs at applied
    · split at applied
      · cases applied
        exact .inr rfl
      · cases applied
    · cases applied
      cases windows
      · exact .inl rfl
      · exact .inr rfl
  · cases applied

/-- A text the engine puts on the clipboard is remembered in the same turn. -/
theorem screen_of_step (stepped : host.engine.step env action = some next) {text : String}
    (shown : (next.writes.drop host.engine.writes.length).foldl (Screen.write host.windows)
      host.screen = ⟨some text, true⟩) :
    host.screen = ⟨some text, true⟩ ∨
      ∃ instant, host.engine.remembers env action =
        some (env.prims.sha256Hex (bytesOf text), instant) := by
  have takes := Engine.takes_of_step stepped
  have unwritten : ∀ downloads fetched,
      host.engine.Took next downloads fetched none → host.screen = ⟨some text, true⟩ := by
    intro downloads fetched took
    rw [writes_of_took took] at shown
    exact shown
  have written : ∀ downloads fetched content,
      host.engine.Took next downloads fetched (some content) →
      host.screen.write host.windows content = ⟨some text, true⟩ := by
    intro downloads fetched content took
    rw [writes_of_took took] at shown
    exact shown
  cases action with
  | frame frame =>
      cases frame with
      | clip event applying =>
          simp only [Engine.arrival] at takes
          split at takes
          · exact .inl (unwritten _ _ takes)
          next text_clip =>
            cases content : host.engine.textContent env event applying with
            | none => exact .inl (unwritten _ _ (content ▸ takes))
            | some put =>
                obtain ⟨own, read, visible⟩ := write_textContent content host.windows host.screen
                have same := visible.symm.trans (written _ _ _ (content ▸ takes))
                cases same
                exact .inr ⟨applying.now, by simp [Engine.remembers, text_clip, read]⟩
      | _ => exact .inl (unwritten _ _ takes)
  | result delivered applying =>
      simp only [Engine.arrival] at takes
      split at takes
      next data event _ _ =>
        obtain ⟨_, _, -, took⟩ := takes
        cases content : host.engine.blobContent env event data applying with
        | none => exact .inl (unwritten _ _ (content ▸ took))
        | some put =>
            have visible := written _ _ _ (content ▸ took)
            rcases write_blobContent content host.windows host.screen with same | other
            · exact .inl (same ▸ visible)
            · rw [visible] at other
              cases other
      next =>
        obtain ⟨_, _, -, took⟩ := takes
        exact .inl (unwritten _ _ took)
      next => exact .inl (unwritten _ _ takes)
  | finish index response =>
      simp only [Engine.arrival] at takes
      split at takes
      · obtain ⟨event, -, took⟩ := takes
        exact .inl (unwritten _ _ took)
      · exact .inl (unwritten _ _ takes)
  | _ => exact .inl (unwritten _ _ takes)

theorem lastRemembered_of_append {entry : Option (String × Nat)}
    (grown : after.remembered = host.remembered ++ entry.toList) (sha : String) :
    after.lastRemembered sha = entry.elim (host.lastRemembered sha) fun recorded =>
      if recorded.1 = sha then some recorded.2 else host.lastRemembered sha := by
  rw [lastRemembered, grown]
  rcases entry with _ | ⟨hash, instant⟩
  · simp [lastRemembered]
  · by_cases same : hash = sha
    · simp [same]
    · simp [same, lastRemembered]

/-- The time of a turn that records a hash. -/
theorem instants_of_remembers {sha : String} {instant : Nat}
    (recorded : host.engine.remembers env action = some (sha, instant)) :
    action.instants.getLastD host.clock = instant := by
  have sent : ∀ session text html sending,
      host.engine.sentText env session text html sending = some (sha, instant) →
      sending.sentAt = instant := by
    intro session text html sending found
    simp only [Engine.sentText, Option.ite_none_right_eq_some, Option.map_eq_some_iff] at found
    obtain ⟨-, hash, -, same⟩ := found
    exact (Prod.mk.inj same).2
  cases action with
  | command cmd =>
      obtain ⟨session, -, found⟩ := Option.bind_eq_some_iff.mp recorded
      cases cmd with
      | localText text html exclude sending =>
          simp only at found
          split at found
          · cases found
          · split at found
            · cases found
            · exact sent _ _ _ _ found
      | sendText text sending => exact sent _ _ _ _ found
      | _ => cases found
  | frame frame =>
      cases frame with
      | clip event applying =>
          simp only [Engine.remembers] at recorded
          split at recorded
          · cases recorded
          · split at recorded
            · cases recorded
              rfl
            · cases recorded
      | _ => cases recorded
  | _ => cases recorded

theorem Alert.poll (alert : host.Alert env) (reading : Reading) (readable : Bool) :
    (host.poll env reading readable).Alert env := by
  obtain ⟨fresh, screen, queue, quiet⟩ := alert
  rw [Host.poll]
  split
  next watcher text html polled =>
    refine ⟨fresh, screen, fun request listed => ?_, quiet⟩
    rcases List.mem_append.mp listed with old | new
    · exact queue request old
    · obtain ⟨rfl, echo⟩ := Prod.mk.inj (List.mem_singleton.mp new)
      refine ⟨text, html, rfl, screen text ?_⟩
      have read := text_of_pollOnce polled
      cases readable with
      | true =>
          have shown : host.screen.text = some text := read
          rw [← shown, echo]
      | false => cases read
  next watcher request _ polled =>
    refine ⟨fresh, screen, fun request listed => ?_, quiet⟩
    rcases List.mem_append.mp listed with old | new
    · exact queue request old
    · cases List.mem_singleton.mp new
  next watcher polled => exact ⟨fresh, screen, queue, quiet⟩

/-- What is known about a turn that is taken. -/
theorem turn_some (turned : host.turn env action = some after) :
    ∃ queue echo next, host.taken action = some (queue, echo) ∧
      (host.clock :: action.instants).Pairwise (· ≤ ·) ∧
      host.engine.step env action = some next ∧
      after = { host with
        engine := next
        screen := (next.writes.drop host.engine.writes.length).foldl (Screen.write host.windows)
          host.screen
        queue
        clock := action.instants.getLastD host.clock
        remembered := host.remembered ++ (host.engine.remembers env action).toList
        echoed := host.echoed ++
          if echo then (next.log.drop host.engine.log.length).filter Output.isClip else [] } := by
  obtain ⟨⟨queue, echo⟩, taken, turned⟩ := Option.bind_eq_some_iff.mp turned
  simp only [Option.ite_none_right_eq_some] at turned
  obtain ⟨next, stepped, same⟩ := Option.map_eq_some_iff.mp turned.2
  exact ⟨queue, echo, next, taken, turned.1, stepped, same.symm⟩

theorem clock_le (ordered : (host.clock :: action.instants).Pairwise (· ≤ ·)) :
    host.clock ≤ action.instants.getLastD host.clock := by
  rw [List.getLastD_eq_getLast?]
  cases last : action.instants.getLast? with
  | none => exact Nat.le_refl _
  | some instant =>
      exact (List.pairwise_cons.mp ordered).1 instant (List.mem_of_getLast? last)

/-- An echo taken in time is skipped. -/
theorem Alert.skips (alert : host.Alert env) {queue : List (Request × Bool)}
    (taken : host.taken action = some (queue, true))
    (ordered : (host.clock :: action.instants).Pairwise (· ≤ ·))
    (inTime : host.inTime env action = true) (stepped : host.engine.step env action = some next) :
    next = host.engine := by
  cases action with
  | command cmd =>
      simp only [Host.taken] at taken
      split at taken
      next request echo rest channel =>
        simp only [Option.ite_none_right_eq_some, Option.some.injEq, Prod.mk.injEq] at taken
        obtain ⟨rfl, -, rfl⟩ := taken
        obtain ⟨text, html, own, remembered⟩ := alert.queue cmd.request (by simp [channel])
        cases cmd with
        | localText content rich exclude sending =>
            cases own
            obtain ⟨instant, last⟩ := Option.isSome_iff_exists.mp remembered
            simp only [Host.inTime, channel, last, Option.all_some, decide_eq_true_eq] at inTime
            have reached : host.clock ≤ sending.now :=
              (List.pairwise_cons.mp ordered).1 sending.now (by simp [Action.instants])
            have recorded : (env.prims.sha256Hex (bytesOf text), instant) ∈
                host.engine.recentText := by
              rcases alert.fresh _ instant last with listed | old
              · exact listed
              · omega
            have echo := Dedup.seen_of_mem recorded inTime
            obtain ⟨session, -, rfl⟩ := Option.map_eq_some_iff.mp stepped
            rw [Engine.command, if_pos echo]
        | _ => cases own
      next => cases taken
  | _ => cases taken

/-- The ring keeps what was remembered less than three seconds ago. -/
theorem Alert.fresh_turn (alert : host.Alert env)
    (ordered : (host.clock :: action.instants).Pairwise (· ≤ ·))
    (young : host.keepsYoung env action = true) (stepped : host.engine.step env action = some next)
    (grown : after.remembered = host.remembered ++ (host.engine.remembers env action).toList)
    {sha : String} {instant : Nat} (last : after.lastRemembered sha = some instant) :
    (sha, instant) ∈ next.recentText ∨
      instant + Dedup.echoTTL ≤ action.instants.getLastD host.clock := by
  have later := clock_le ordered
  have records : next.recentText = _ := Engine.records_of_step stepped
  rw [lastRemembered_of_append grown] at last
  cases entry : host.engine.remembers env action with
  | none =>
      rw [entry] at records last
      rw [records]
      exact (alert.fresh sha instant last).imp_right fun old => old.trans later
  | some recorded =>
      obtain ⟨hash, time⟩ := recorded
      have now := instants_of_remembers entry
      rw [entry] at records last
      rw [records]
      by_cases same : hash = sha
      · simp only [Option.elim_some, same, if_true, Option.some.injEq] at last
        rw [← last, ← same]
        exact .inl (Dedup.mem_remember_self _ hash time)
      · simp only [Option.elim_some, same, if_false] at last
        rcases alert.fresh sha instant last with listed | old
        · rcases Dedup.mem_remember_of_ne listed (Ne.symm same) with kept | out
          · exact .inl kept
          · simp only [keepsYoung, entry, Option.all_some, out, decide_eq_true_eq] at young
            have positive : 0 < Dedup.echoTTL := by decide
            exact .inr (by omega)
        · exact .inr (old.trans later)

/-- A turn of the engine. -/
theorem Alert.turn (alert : host.Alert env) (inTime : host.inTime env action = true)
    (young : host.keepsYoung env action = true) (turned : host.turn env action = some after) :
    after.Alert env := by
  obtain ⟨queue, echo, next, taken, ordered, stepped, same⟩ := turn_some turned
  have grown : after.remembered =
      host.remembered ++ (host.engine.remembers env action).toList := by
    rw [same]
  have kept : ∀ sha, (host.lastRemembered sha).isSome = true →
      (after.lastRemembered sha).isSome = true := by
    intro sha known
    rw [lastRemembered_of_append grown]
    cases host.engine.remembers env action with
    | none => exact known
    | some recorded =>
        simp only [Option.elim_some]
        split_ifs
        · rfl
        · exact known
  subst same
  constructor
  · intro sha instant last
    exact alert.fresh_turn ordered young stepped grown last
  · intro text shown
    rcases screen_of_step stepped shown with same | ⟨instant, recorded⟩
    · exact kept _ (alert.screen text same)
    · rw [lastRemembered_of_append grown, recorded]
      simp
  · intro request listed
    have before : (request, true) ∈ host.queue := by
      cases action with
      | command cmd =>
          simp only [Host.taken] at taken
          split at taken
          next channel =>
            simp only [Option.ite_none_right_eq_some, Option.some.injEq, Prod.mk.injEq] at taken
            obtain ⟨-, rfl, -⟩ := taken
            rw [channel]
            exact List.mem_cons_of_mem _ listed
          next => cases taken
      | _ =>
          cases taken
          exact listed
    obtain ⟨text, html, own, remembered⟩ := alert.queue request before
    exact ⟨text, html, own, kept _ remembered⟩
  · cases echo with
    | false =>
        have quiet : host.echoed = [] := alert.quiet
        simp [NoEcho, quiet]
    | true =>
        have quiet : host.echoed = [] := alert.quiet
        rw [alert.skips taken ordered inTime stepped]
        simp [NoEcho, quiet]

theorem Alert.step (alert : host.Alert env) {action : HostAction}
    (prompt : host.prompt env action = true) (stepped : host.step env action = some after) :
    after.Alert env := by
  cases action with
  | copy text =>
      cases stepped
      exact ⟨alert.fresh, nofun, alert.queue, alert.quiet⟩
  | poll reading readable =>
      cases stepped
      exact alert.poll reading readable
  | request request =>
      cases stepped
      refine ⟨alert.fresh, alert.screen, fun other listed => ?_, alert.quiet⟩
      rcases List.mem_append.mp listed with old | new
      · exact alert.queue other old
      · cases List.mem_singleton.mp new
  | turn action =>
      obtain ⟨inTime, young⟩ := Bool.and_eq_true_iff.mp prompt
      exact alert.turn inTime young stepped

theorem Alert.start (env : Env) (config : Config) (windows : Bool) :
    (Host.start env config windows).Alert env where
  fresh _ _ last := by cases last
  screen _ shown := by cases shown
  queue _ listed := by cases listed
  quiet := rfl

/-- In every run in which echoes are taken from the channel within three seconds and no
hash is pushed out of the ring earlier than that, no echo is sent. -/
theorem no_echo_sent {windows : Bool}
    (run : Run (Host.step env) (fun host action => host.prompt env action = true)
      (Host.start env config windows) host) : host.NoEcho := by
  have alert : host.Alert env := run.invariant (Alert.start env config windows)
    fun alert prompt stepped => alert.step prompt stepped
  exact alert.quiet

/-- A text is received and read by the watcher, and the link is lost; `wait` passes until
the engine is connected again and takes the text from the channel. -/
def echoRun (wait : Nat) : List HostAction :=
  [.turn (.connect ⟨0, 0⟩ 0 0), .turn (.frame (.clip demoText demoApplying)),
    .poll ⟨none, none, none, none, none⟩ true, .turn (.lost "수신 오류"),
    .turn (.connect ⟨0, 0⟩ 0 0),
    .turn (.command (.localText "hi" none false
      { demoSending Reference.text with now := wait, sentAt := wait }))]

/-- After four seconds the received text is sent as a clip of this device. -/
theorem late_echo_sent :
    ¬∀ (env : Env) (config : Config) (windows : Bool) (host : Host),
      Reachable (Host.step env) (Host.start env config windows) host → host.NoEcho := by
  intro claim
  obtain ⟨host, reached, checked⟩ := Reachable.exists_of_exec (Host.step demoEnv)
    (Host.start demoEnv demoConfig true) (echoRun (4 * 10 ^ 9))
    (fun host => decide (host.echoed.length = 1)) (by decide +kernel)
  have quiet : host.echoed = [] := claim demoEnv demoConfig true host reached
  have one : host.echoed.length = 1 := of_decide_eq_true checked
  rw [quiet] at one
  cases one

/-- After one second it is skipped. -/
theorem early_echo_skipped :
    ∃ host, Run (Host.step demoEnv) (fun host action => host.prompt demoEnv action = true)
        (Host.start demoEnv demoConfig true) host ∧
      host.watcher.lastText = "hi" ∧ host.queue = [] ∧ host.remembered.length = 1 ∧
      host.NoEcho := by
  obtain ⟨host, reached, checked⟩ := Run.exists_of_execWhen (Host.step demoEnv)
    (Host.prompt demoEnv) (Host.start demoEnv demoConfig true) (echoRun (10 ^ 9))
    (fun host => decide (host.watcher.lastText = "hi" ∧ host.queue = [] ∧
      host.remembered.length = 1))
    (by decide +kernel)
  obtain ⟨reported, empty, one⟩ := of_decide_eq_true checked
  exact ⟨host, reached, reported, empty, one, no_echo_sent reached⟩

end Host

end CopySync.Desktop
