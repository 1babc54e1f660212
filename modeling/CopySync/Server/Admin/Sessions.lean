import CopySync.Foundation.Clock
import CopySync.Foundation.Latest
import CopySync.Server.Admin.Effect

/-!
# Sessions of the administrator

A cookie is good from the login that set it until the session expires or is logged out, and
at no other time: neither restarts nor changes of the password or of the settings end a
session, and when housekeeping removes one makes no difference.
-/

namespace CopySync.Server

open Foundation

/-- The time a step reads. -/
def AdminMove.now? : AdminMove → Option Time
  | .serve _ now | .purgeSessions now | .sweepLimiter now => some now
  | .proceed _ draw => some draw.now
  | .relay _ | .restart => none

/-- What an event makes of the session under a hash. -/
def AdminEvent.grants (idHash : String) : AdminEvent → Option (Option AdminSession)
  | .issued session _ _ => if session.idHash = idHash then some (some session) else none
  | .cleared other => if other = idHash then some none else none
  | _ => none

/-- The last session issued under a hash, unless it was logged out since. -/
def openSession (idHash : String) (history : List AdminEvent) : Option AdminSession :=
  lastWritten (AdminEvent.grants idHash) history

theorem openSession_cleared (idHash other : String) (history : List AdminEvent) :
    openSession idHash (history ++ [.cleared other]) =
      if other = idHash then none else openSession idHash history := by
  rw [openSession, lastWritten_concat, AdminEvent.grants]
  split_ifs <;> rfl

theorem openSession_issued (idHash : String) (history : List AdminEvent) (session : AdminSession)
    (login : Credentials) (admin : AdminUser) :
    openSession idHash (history ++ [.issued session login admin]) =
      if session.idHash = idHash then some session else openSession idHash history := by
  rw [openSession, lastWritten_concat, AdminEvent.grants]
  split_ifs <;> rfl

/-- Pairing a device touches no session. -/
theorem grants_of_pairs (idHash : String) {env : Env} {relay : Relay} {action : Action}
    {event : AdminEvent} (among : event ∈ relay.pairs env action) :
    event.grants idHash = none := by
  have pairs := pairs_of_step env relay action
  generalize relay.pairs env action = events at pairs among
  cases pairs with
  | none => cases among
  | claimed =>
      rw [List.mem_singleton.mp among]
      rfl

namespace Console

variable {env : AdminEnv} {console after : Console} {move : AdminMove} {now : Time}

/-- The sessions that are alive are those the history grants. -/
def Settled (now : Time) (console : Console) : Prop :=
  ∀ idHash, sessionLife.look console.sessions idHash now =
    (openSession idHash console.history).filter fun session => !session.expired now

namespace Settled

theorem start (seed : AdminUser) : (Console.start seed).Settled now := fun _ => rfl

theorem mono {later : Time} (settled : console.Settled now) (passed : now ≤ later) :
    console.Settled later := by
  intro idHash
  rw [Lifetime.look_later _ _ passed, settled idHash, Option.filter_filter]
  congr 1
  funext session
  cases expired : session.expired now with
  | true =>
      have still : session.expired later = true := sessionLife.mono passed expired
      simp [still]
  | false => simp [sessionLife]

theorem congr (settled : console.Settled now) (sessions : after.sessions = console.sessions)
    (same : ∀ idHash, openSession idHash after.history = openSession idHash console.history) :
    after.Settled now := by
  intro idHash
  rw [sessions, same]
  exact settled idHash

/-- Removing what is not alive changes nothing. -/
theorem agree (settled : console.Settled now)
    (agree : sessionLife.Agree now after.sessions console.sessions)
    (same : after.history = console.history) : after.Settled now := by
  intro idHash
  rw [agree idHash, same]
  exact settled idHash

theorem step (settled : console.Settled now) (timed : ∀ time ∈ move.now?, time = now)
    (stepped : console.step env move = some after) : after.Settled now := by
  cases takes_of_step stepped with
  | relay action =>
      exact settled.congr rfl fun idHash =>
        lastWritten_append_of_none fun event among => grants_of_pairs idHash among
  | restart | sweep | refuse | login | answer | verify | plan =>
      exact settled.congr rfl fun _ => rfl
  | purge time =>
      cases timed time rfl
      exact settled.agree (Lifetime.sweep_agree _ _) rfl
  | reap request time cookie session found expired =>
      cases timed time rfl
      refine settled.agree (Lifetime.erase_agree ?_) rfl
      simp [Lifetime.look, found, sessionLife, expired]
  | enter | gate | announce | save | act =>
      exact settled.congr rfl fun idHash => lastWritten_concat_of_none rfl
  | logout index draw admission cookie found handler given =>
      intro idHash
      rw [record, openSession_cleared]
      split_ifs with same
      · subst same
        simp [Lifetime.look]
      · rw [← settled idHash, Lifetime.look, Lifetime.look,
          OrderedMap.get?_erase_of_ne _ (Ne.symm same)]
  | issue index draw login admin session found issued =>
      intro idHash
      rw [record, openSession_issued]
      split_ifs with same
      · subst same
        simp [Lifetime.look, sessionLife]
      · rw [← settled idHash, Lifetime.look, Lifetime.look,
          OrderedMap.get?_put_of_ne _ _ (Ne.symm same)]

end Settled

/-- The session of a cookie, as far as it is alive. -/
theorem currentSession_fst (request : Request) :
    (console.currentSession env request now).1 = request.cookie.bind fun cookie =>
      sessionLife.look console.sessions (env.hashSessionID cookie) now := by
  rw [currentSession]
  cases request.cookie with
  | none => rfl
  | some cookie =>
      simp only [Option.bind_some, Lifetime.look, sessionLife]
      cases console.sessions.get? (env.hashSessionID cookie) with
      | none => rfl
      | some session => cases expired : session.expired now <;> simp [Option.filter, expired]

/-- In every run in which no clock goes back, a cookie opens the session that was last issued
under its hash, as long as that is not over and was not logged out. -/
theorem currentSession_eq_open {seed : AdminUser} {first clock : Time}
    (reached : Reachable (Clocked.step AdminMove.now? (Console.step env))
      (Console.start seed, first) (console, clock))
    (request : Request) (passed : clock ≤ now) :
    (console.currentSession env request now).1 = request.cookie.bind fun cookie =>
      (openSession (env.hashSessionID cookie) console.history).filter fun session =>
        !session.expired now := by
  have settled : console.Settled clock :=
    Clocked.invariant reached (.start seed) (fun passed settled => settled.mono passed)
      fun settled timed stepped => settled.step timed stepped
  rw [currentSession_fst]
  cases request.cookie with
  | none => rfl
  | some cookie => exact settled.mono passed (env.hashSessionID cookie)

end Console

/-! ## A run -/

/-- A server with trivial libraries and no API key. -/
def demoAdminEnv : AdminEnv where
  server := demoEnv
  configuredKey := ""
  adminUser := "admin"
  adminPass := "first"
  generate _ password := some (bytesOf password)
  compare passHash password := decide (passHash = bytesOf password)
  equalFold left right := decide (left = right)
  hashSessionID id := id

def demoSeed : AdminUser := ⟨"admin", bytesOf "first", true, 0⟩

def demoRequest (method : Method) (path : List String) (body : Option Json) : Request where
  method
  path
  remoteAddr := "10.0.0.2:40000"
  cookie := some "cookie"
  apiKeyHeader := ""
  authorization := ""
  csrf := "1"
  body

def demoDraw (now : Time) (id : String) : Console.Draw := ⟨now, id, []⟩

/-- The administrator logs in. -/
def demoLogin : List AdminMove :=
  [.serve (demoRequest .post ["admin", "login"]
      (some (.object [("username", .string "admin"), ("password", .string "first")]))) 0,
   .proceed 0 (demoDraw 1 "cookie")]

theorem Console.demoLogin_opens :
    ∃ console, Reachable (Clocked.step AdminMove.now? (Console.step demoAdminEnv))
        (Console.start demoSeed, 0) (console, 1) ∧
      (console.currentSession demoAdminEnv (demoRequest .get ["admin", "me"] none) 2).1 =
        ((some "cookie").bind fun cookie =>
          (openSession cookie console.history).filter fun session => !session.expired 2) ∧
      (openSession "cookie" console.history).isSome = true := by
  obtain ⟨⟨console, clock⟩, reached, holds⟩ := Reachable.exists_of_exec
    (Clocked.step AdminMove.now? (Console.step demoAdminEnv)) (Console.start demoSeed, 0) demoLogin
    (fun outcome => decide (outcome.2 = 1) && (openSession "cookie" outcome.1.history).isSome)
    (by decide +kernel)
  simp only [Bool.and_eq_true, decide_eq_true_eq] at holds
  obtain ⟨rfl, opened⟩ := holds
  exact ⟨console, reached, Console.currentSession_eq_open reached _ (by decide), opened⟩

end CopySync.Server
