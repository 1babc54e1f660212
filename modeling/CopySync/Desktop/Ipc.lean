import CopySync.Desktop.Engine
import CopySync.Foundation.FileName
import CopySync.Foundation.Framing
import CopySync.Foundation.Transition

/-!
# Desktop agent: a client's connection

The connection loop reads request lines.  Once the client has subscribed it waits for the next
line and for the next event at once: an event that is there first drops the pending read, and
with it what that read had taken of a line.
-/

namespace CopySync.Desktop.Ipc

open Foundation Client

/-! ## The vocabulary -/

structure Status where
  paired : Bool
  connected : Bool
  reconnecting : Bool
  server : String
  device : String
  e2e : Bool
  pool : String
  pools : List String
  privacyFilter : Bool
  markSensitive : Bool
  autoClearSecs : Nat
  telemetry : Bool
  deriving DecidableEq, Repr

structure HistRow where
  ts : String
  kind : String
  direction : String
  origin : String
  preview : String
  size : Int
  deriving DecidableEq, Repr

structure ClipInfo where
  direction : String
  kind : String
  text : Option String
  name : Option String
  sensitive : Option String
  size : Option Int
  origin : Option String
  path : Option String
  onDemand : Option Bool
  deriving DecidableEq, Repr

structure RosterDevice where
  id : String
  name : String
  online : Bool
  deriving DecidableEq, Repr

structure FoundServer where
  name : String
  url : String
  deriving DecidableEq, Repr

/-- GUI → agent. -/
inductive Request where
  | getStatus
  | getHistory (query : Option String)
  | getRoster
  | sendText (text : String)
  | sendFile (path : String)
  | setPool (pool : String)
  | setTargets (ids : List String)
  | setPrivacyFilter (on : Bool)
  | setAutoClear (secs : Nat)
  | setMarkSensitive (on : Bool)
  | setTelemetry (on : Bool)
  | discoverServers
  | pair (server otp name pin e2ePass : String)
  | reconnect
  | subscribe
  | shutdown
  deriving DecidableEq, Repr

/-- agent → GUI: a direct reply to a request. -/
inductive Response where
  | status (status : Status)
  | history (rows : List HistRow)
  | roster (devices : List RosterDevice)
  | found (servers : List FoundServer)
  | paired (status : Status)
  | ok
  | error (message : String)
  deriving DecidableEq, Repr

/-- agent → GUI: an unsolicited push to subscribed clients. -/
inductive Event where
  | status (status : Status)
  | clip (clip : ClipInfo)
  | roster (devices : List RosterDevice)
  | error (message : String)
  | reconnect (info : String)
  | notify (title body : String)
  | cliplog (msg : String)
  deriving DecidableEq, Repr

inductive Outbound where
  | reply (response : Response)
  | event (event : Event)
  deriving DecidableEq, Repr

/-- The rest of the agent, as a connection uses it: the reader of JSON requests, the handler of
requests, and the state that is pushed. -/
structure Backend (Agent : Type) where
  fromStr : String → Except String Request
  handleRequest : Agent → Request → Agent × Outbound
  statusSnapshot : Agent → Status
  roster : Agent → List RosterDevice

/-! ## The connection -/

/-- `String::from_utf8`: the text that the bytes encode. -/
def fromUtf8 (bytes : Bytes) : Option String :=
  if bytesOf (textOf bytes) = bytes then some (textOf bytes) else none

@[simp] theorem fromUtf8_bytesOf (text : String) : fromUtf8 (bytesOf text) = some text := by
  rw [fromUtf8, textOf_bytesOf, if_pos rfl]

/-- `str::trim`. -/
def trim (text : String) : String := String.ofList (trimBy isWhiteSpace text.toList)

def newline : UInt8 := '\n'.toUInt8

inductive Stage where
  | serving
  | ended
  | failed
  deriving DecidableEq, Repr

/-- A connection and the client at its other end.  The bytes the client sends are `coming` until
they have arrived and `unread` until a read takes them; `partly` is what the pending read has
taken.  `processed` are the lines that were handed to `process_line`. -/
structure Conn (Agent : Type) where
  agent : Agent
  coming : Bytes
  hungUp : Bool
  unread : Bytes
  partly : Bytes
  subscribed : Bool
  rx : Bool
  stage : Stage
  processed : List String
  written : List Outbound
  deriving DecidableEq, Repr

/-- What the event stream yields. -/
inductive Recv where
  | ok (event : Event)
  | lagged
  | closed
  deriving DecidableEq, Repr

/-- A step of a connection: bytes arrive, the client hangs up when it has sent all, the pending
read is polled, an event is there first, and the rest of the process changes the agent. -/
inductive Action (Agent : Type) where
  | arrive (count : Nat)
  | hangUp
  | read
  | recv (result : Recv)
  | elsewhere (agent : Agent)
  deriving DecidableEq, Repr

/-- The bytes of request lines. -/
def encodeLines (lines : List String) : Bytes := encodeFrames newline (lines.map bytesOf)

/-- A client has connected and is going to send the lines. -/
def accept {Agent : Type} (agent : Agent) (lines : List String) : Conn Agent where
  agent := agent
  coming := encodeLines lines
  hungUp := false
  unread := []
  partly := []
  subscribed := false
  rx := false
  stage := .serving
  processed := []
  written := []

variable {Agent : Type}

/-- Parse one request line and produce its reply; flips `subscribed` on Subscribe. -/
def processLine (backend : Backend Agent) (agent : Agent) (trimmed : String)
    (subscribed : Bool) : Agent × Bool × Option Outbound :=
  if trimmed = "" then (agent, subscribed, none)
  else
    match backend.fromStr trimmed with
    | .ok request =>
        let (agent, out) := backend.handleRequest agent request
        (agent, subscribed || request = .subscribe, some out)
    | .error e => (agent, subscribed, some (.reply (.error ("bad request: " ++ e))))

namespace Conn

/-- A line was read: process it, and start streaming on a fresh subscription. -/
def handle (backend : Backend Agent) (conn : Conn Agent) (line : String) : Conn Agent :=
  let (agent, subscribed, out) := processLine backend conn.agent (trim line) conn.subscribed
  let conn' :=
    { conn with
      agent, subscribed
      processed := conn.processed ++ [trim line]
      written := conn.written ++ out.toList }
  if !conn.rx && subscribed && !conn.subscribed then
    { conn' with
      rx := true
      written := conn'.written ++ [.event (.status (backend.statusSnapshot agent))] }
  else conn'

/-- `read_line` returns the bytes of a line, or fails when they are no text. -/
def readLine (backend : Backend Agent) (conn : Conn Agent) (line : Bytes) : Conn Agent :=
  match fromUtf8 line with
  | some line => handle backend { conn with partly := [] } line
  | none => { conn with partly := [], stage := .failed }

/-- Poll the pending read: it completes at a newline, or at the end of the stream, and else
takes what has arrived. -/
def poll (backend : Backend Agent) (conn : Conn Agent) : Conn Agent :=
  match takeFrame newline conn.unread with
  | some (line, rest) => readLine backend { conn with unread := rest } (conn.partly ++ line)
  | none =>
      let taken := conn.partly ++ conn.unread
      if !conn.hungUp then { conn with unread := [], partly := taken }
      else if taken = [] then { conn with stage := .ended }
      else readLine backend { conn with unread := [] } taken

/-- The other branch of the select wins: the pending read is dropped. -/
def push (backend : Backend Agent) (conn : Conn Agent) : Recv → Conn Agent
  | .ok event => { conn with partly := [], written := conn.written ++ [.event event] }
  | .lagged =>
      { conn with
        partly := []
        written := conn.written ++
          [.event (.status (backend.statusSnapshot conn.agent)),
            .event (.roster (backend.roster conn.agent))] }
  | .closed => { conn with partly := [], rx := false }

/-- `handle_conn`. -/
def step (backend : Backend Agent) (conn : Conn Agent) : Action Agent → Option (Conn Agent)
  | .arrive count =>
      some { conn with
        unread := conn.unread ++ conn.coming.take count
        coming := conn.coming.drop count }
  | .hangUp => if conn.coming = [] then some { conn with hungUp := true } else none
  | .read => if conn.stage = .serving then some (poll backend conn) else none
  | .recv result =>
      if conn.stage = .serving ∧ conn.rx = true then some (push backend conn result) else none
  | .elsewhere agent => some { conn with agent }

/-! ## Lines, each once and complete -/

variable {backend : Backend Agent} {lines done rest : List String} {conn next : Conn Agent}

/-- `done` has been processed, `rest` is what the bytes still to be read carry. -/
structure Framed (done rest : List String) (conn : Conn Agent) : Prop where
  processed : conn.processed = done.map trim
  carried : encodeLines rest = conn.partly ++ conn.unread ++ conn.coming
  unfinished : newline ∉ conn.partly
  sent : conn.hungUp = true → conn.coming = []
  stopped : conn.stage ≠ .serving → conn.stage = .ended ∧ rest = []

/-- No event is taken while a line has been read in part. -/
def betweenLines (conn : Conn Agent) : Action Agent → Bool
  | .recv _ => conn.partly.isEmpty
  | _ => true

theorem handle_eq (backend : Backend Agent) (conn : Conn Agent) (line : String) :
    ∃ agent subscribed rx written, handle backend conn line =
      { conn with
        agent, subscribed, rx, written
        processed := conn.processed ++ [trim line] } := by
  unfold handle
  generalize processLine backend conn.agent (trim line) conn.subscribed = result
  obtain ⟨agent, subscribed, out⟩ := result
  by_cases fresh : (!conn.rx && subscribed && !conn.subscribed) = true
  · simp only [fresh]
    exact ⟨_, _, _, _, rfl⟩
  · simp only [fresh]
    exact ⟨_, _, _, _, rfl⟩

theorem push_eq (backend : Backend Agent) (conn : Conn Agent) (result : Recv) :
    ∃ rx written, push backend conn result = { conn with partly := [], rx, written } := by
  cases result with
  | ok event => exact ⟨_, _, rfl⟩
  | lagged => exact ⟨_, _, rfl⟩
  | closed => exact ⟨_, _, rfl⟩

theorem trim_line (line : String) : trim (line ++ "\n") = trim line := by
  rw [trim, trim, String.toList_append]
  exact congrArg String.ofList (trimBy_concat line.toList rfl)

theorem bytesOf_line (line : String) : bytesOf (line ++ "\n") = bytesOf line ++ [newline] := by
  rw [bytesOf, String.toList_append, List.flatMap_append]
  rfl

theorem newline_not_mem (plain : '\n' ∉ line.toList) : newline ∉ bytesOf line :=
  fun among => plain ((toUInt8_mem_bytesOf (by decide) line).mp among)

/-- The lines that have been taken and those that have not are the ones the client sends. -/
def Splits (lines : List String) (conn : Conn Agent) : Prop :=
  ∃ done rest, lines = done ++ rest ∧ Framed done rest conn

theorem readLine_line (backend : Backend Agent) (conn : Conn Agent) (line : String) :
    readLine backend conn (bytesOf line ++ [newline]) =
      handle backend { conn with partly := [] } (line ++ "\n") := by
  rw [← bytesOf_line, readLine, fromUtf8_bytesOf]

namespace Framed

/-- The next line is read as soon as its newline has arrived. -/
theorem read_line (plain : ∀ line ∈ rest, '\n' ∉ line.toList) (framed : Framed done rest conn)
    (serving : conn.stage = .serving) {front later : Bytes}
    (taken : takeFrame newline conn.unread = some (front, later)) :
    ∃ line more, rest = line :: more ∧ Framed (done ++ [line]) more (poll backend conn) := by
  have free : ∀ body ∈ rest.map bytesOf, newline ∉ body := by
    intro body among
    obtain ⟨line, sent, rfl⟩ := List.mem_map.mp among
    exact newline_not_mem (plain line sent)
  obtain ⟨body, bodies, split, whole, tail⟩ :=
    takeFrame_next free framed.unfinished framed.carried taken
  obtain ⟨line, more, rfl, rfl, rfl⟩ := List.map_eq_cons_iff.mp split
  refine ⟨line, more, rfl, ?_⟩
  obtain ⟨agent, subscribed, rx, written, handled⟩ :=
    handle_eq backend { conn with unread := later, partly := [] } (line ++ "\n")
  have polled : poll backend conn =
      handle backend { conn with unread := later, partly := [] } (line ++ "\n") := by
    simp only [poll, taken]
    rw [whole, readLine_line]
  rw [polled, handled]
  constructor
  · simp [framed.processed, trim_line]
  · simpa [encodeLines] using tail
  · exact List.not_mem_nil
  · exact framed.sent
  · exact fun stopped => absurd serving stopped

/-- A poll that finds no newline takes what there is. -/
theorem read_part (framed : Framed done rest conn) (missing : newline ∉ conn.unread) :
    Framed done rest (poll backend conn) := by
  have free : newline ∉ conn.partly ++ conn.unread := by
    rw [List.mem_append, not_or]
    exact ⟨framed.unfinished, missing⟩
  by_cases hungUp : conn.hungUp = true
  · have carried := framed.carried
    rw [framed.sent hungUp, List.append_nil] at carried
    have finished := eq_nil_of_encodeFrames carried free
    rw [List.map_eq_nil_iff] at finished
    subst finished
    have empty : conn.partly ++ conn.unread = [] := carried.symm
    have polled : poll backend conn = { conn with stage := .ended } := by
      simp [poll, takeFrame_eq_none.mpr missing, hungUp, empty]
    rw [polled]
    exact ⟨framed.processed, framed.carried, framed.unfinished, framed.sent,
      fun _ => ⟨rfl, rfl⟩⟩
  · have polled : poll backend conn =
        { conn with unread := [], partly := conn.partly ++ conn.unread } := by
      simp [poll, takeFrame_eq_none.mpr missing, hungUp]
    rw [polled]
    constructor
    · exact framed.processed
    · rw [framed.carried, List.append_nil]
    · exact free
    · exact framed.sent
    · exact framed.stopped

theorem step {action : Action Agent} (plain : ∀ line ∈ rest, '\n' ∉ line.toList)
    (framed : Framed done rest conn) (between : betweenLines conn action = true)
    (stepped : step backend conn action = some next) : Splits (done ++ rest) next := by
  cases action with
  | arrive count =>
      cases stepped
      refine ⟨done, rest, rfl, framed.processed, ?_, framed.unfinished, ?_, framed.stopped⟩
      · rw [framed.carried]
        simp
      · intro hungUp
        simp [framed.sent hungUp]
  | hangUp =>
      rw [Conn.step] at stepped
      split at stepped
      next sent =>
        cases stepped
        exact ⟨done, rest, rfl, framed.processed, framed.carried, framed.unfinished,
          fun _ => sent, framed.stopped⟩
      next => cases stepped
  | read =>
      rw [Conn.step] at stepped
      split at stepped
      next serving =>
        cases stepped
        cases taken : takeFrame newline conn.unread with
        | none => exact ⟨done, rest, rfl, framed.read_part (takeFrame_eq_none.mp taken)⟩
        | some result =>
            obtain ⟨line, more, rfl, framed⟩ := framed.read_line plain serving taken
            exact ⟨done ++ [line], more, by simp, framed⟩
      next => cases stepped
  | recv result =>
      rw [Conn.step] at stepped
      split at stepped
      next =>
        cases stepped
        obtain ⟨rx, written, pushed⟩ := push_eq backend conn result
        have dropped : conn.partly = [] := List.isEmpty_iff.mp between
        rw [pushed, ← dropped]
        exact ⟨done, rest, rfl, framed.processed, framed.carried, framed.unfinished, framed.sent,
          framed.stopped⟩
      next => cases stepped
  | elsewhere agent =>
      cases stepped
      exact ⟨done, rest, rfl, framed.processed, framed.carried, framed.unfinished, framed.sent,
        framed.stopped⟩

end Framed

/-- The two requests below are read, and nothing else. -/
def demoBackend : Backend Unit where
  fromStr := fun text =>
    if text = "\x7b\"t\":\"subscribe\"\x7d" then .ok .subscribe
    else if text = "\x7b\"t\":\"reconnect\"\x7d" then .ok .reconnect
    else .error "expected value at line 1 column 1"
  handleRequest := fun agent _ => (agent, .reply .ok)
  statusSnapshot := fun _ =>
    { paired := true, connected := true, reconnecting := false, server := "s", device := "d"
      e2e := false, pool := "", pools := [], privacyFilter := true, markSensitive := false
      autoClearSecs := 0, telemetry := true }
  roster := fun _ => []

def demoLines : List String := ["\x7b\"t\":\"subscribe\"\x7d", "\x7b\"t\":\"reconnect\"\x7d"]

end Conn

end CopySync.Desktop.Ipc
