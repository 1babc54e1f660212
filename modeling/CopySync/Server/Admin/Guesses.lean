import CopySync.Server.Admin.Housekeeping
import CopySync.Server.Throttle

/-!
# Guesses at the password

The limiter of logins is what keeps an address from trying one password after the other.
Whatever else happens at the server, the address is let through five times, once more for
every two seconds that pass, and five times more for every restart.
-/

namespace CopySync.Server

open Foundation

/-! ## Guesses -/

/-- The request is a login from an address. -/
def Request.logsIn (ip : String) (request : Request) : Bool :=
  (dispatch request.method request.path).any (fun route => route.handler == .login) &&
    clientIP request.remoteAddr == ip

def AdminMove.logsIn (ip : String) : AdminMove → Bool
  | .serve request _ => request.logsIn ip
  | _ => false

def AdminMove.restarts : AdminMove → Bool
  | .restart => true
  | _ => false

/-- The answer to a login that comes too soon. -/
def Answer.rateLimited : Answer := ⟨429, "rate_limited"⟩

/-- A login is a guess unless it comes too soon. -/
def AdminMove.guesses (ip : String) (move : AdminMove) (answer : Option Answer) : Bool :=
  move.logsIn ip && answer != some .rateLimited

/-- Logging in is not behind a guard. -/
theorem guard_of_login : ∀ route ∈ routes, route.handler = .login → route.guard = .unguarded := by
  decide

namespace Console

variable {env : AdminEnv} {console : Console} {now : Time}

/-- The number of guesses from an address in a sequence of moves. -/
def guesses (env : AdminEnv) (ip : String) (console : Console) : List AdminMove → Option Nat
  | [] => some 0
  | move :: rest =>
      (console.respond env move).bind fun outcome =>
        (outcome.1.guesses env ip rest).map fun later =>
          (if move.guesses ip outcome.2 then 1 else 0) + later

/-! ## One move -/

/-- A login is turned away with 429 exactly when the limiter says no. -/
theorem login_limited (request : Request) :
    (console.login env request now).1.loginLimiter =
        (console.loginLimiter.allow request.remoteAddr now).2 ∧
      ((console.login env request now).2 = some .rateLimited ↔
        (console.loginLimiter.allow request.remoteAddr now).1 = false) := by
  rw [login]
  generalize console.loginLimiter.allow request.remoteAddr now = outcome
  obtain ⟨allowed, loginLimiter⟩ := outcome
  cases allowed with
  | false => simp [Answer.rateLimited]
  | true =>
      simp only [Bool.not_true, Bool.false_eq_true, if_false]
      split
      · simp [Answer.rateLimited]
      · split
        · simp [Answer.rateLimited]
        · split
          · simp [Answer.rateLimited]
          · simp [enqueue]

theorem withSession_limiter (route : Route) (request : Request) :
    (console.withSession env route request now).1.loginLimiter = console.loginLimiter := by
  rw [withSession]
  split
  · rfl
  · obtain ⟨kept, looked, -⟩ := @Alike.currentSession_snd env now console request
    split
    next later same =>
      rw [same] at looked
      have limiter : later.loginLimiter = console.loginLimiter := by
        rw [show later = _ from looked]
        rfl
      exact limiter
    next session later same =>
      rw [same] at looked
      have limiter : later.loginLimiter = console.loginLimiter := by
        rw [show later = _ from looked]
        rfl
      split <;> exact limiter

/-- A request other than a login does not reach the limiter. -/
theorem serve_limiter {request : Request}
    (other : ∀ route, dispatch request.method request.path = some route →
      route.handler ≠ .login) :
    (console.serve env request now).1.loginLimiter = console.loginLimiter := by
  rw [serve]
  cases dispatched : dispatch request.method request.path with
  | none => rfl
  | some route =>
      cases guard : route.guard with
      | unguarded =>
          simp only [guard]
          rw [if_neg (other route dispatched)]
      | requireSession | requireAdmin =>
          simp only [guard]
          exact withSession_limiter route request

theorem serve_login {request : Request} {route : Route}
    (dispatched : dispatch request.method request.path = some route)
    (handler : route.handler = .login) :
    console.serve env request now = console.login env request now := by
  have guard := guard_of_login route (dispatch_some dispatched).1 handler
  simp only [serve, dispatched, guard, if_pos handler]

/-- A request asks the limiter once if it is a login, and not at all otherwise. -/
theorem serve_throttle (ip : String) (request : Request) :
    Throttle ip now console.loginLimiter
      (AdminMove.guesses ip (.serve request now) (console.serve env request now).2) false
      (console.serve env request now).1.loginLimiter := by
  by_cases login : ∃ route, dispatch request.method request.path = some route ∧
      route.handler = .login
  · obtain ⟨route, dispatched, handler⟩ := login
    obtain ⟨limiter, limited⟩ := @login_limited env console now request
    rw [serve_login dispatched handler, limiter]
    refine .ask request.remoteAddr _ fun guess => ?_
    simp only [AdminMove.guesses, AdminMove.logsIn, Request.logsIn, Bool.and_eq_true,
      beq_iff_eq, bne_iff_ne, ne_eq, limited, Bool.not_eq_false] at guess
    exact ⟨guess.1.2, guess.2⟩
  · have other (route : Route) (dispatched : dispatch request.method request.path = some route) :
        route.handler ≠ .login := fun handler => login ⟨route, dispatched, handler⟩
    have silent : request.logsIn ip = false := by
      rw [Request.logsIn]
      cases dispatched : dispatch request.method request.path with
      | none => rfl
      | some route => simp [other route dispatched]
    rw [serve_limiter other, AdminMove.guesses, AdminMove.logsIn, silent]
    exact .rest

theorem respond_throttle {move : AdminMove} {outcome : Console × Option Answer} (ip : String)
    (timed : ∀ time ∈ move.now?, time = now) (responded : console.respond env move = some outcome) :
    Throttle ip now console.loginLimiter (move.guesses ip outcome.2) move.restarts
      outcome.1.loginLimiter := by
  cases move with
  | serve request time =>
      cases timed time rfl
      cases responded
      exact serve_throttle ip request
  | sweepLimiter time =>
      cases timed time rfl
      cases responded
      exact .sweep
  | restart =>
      cases responded
      exact .restart
  | relay action | proceed index draw | purgeSessions time =>
      have stepped : console.step env _ = some outcome.1 :=
        congrArg (Option.map Prod.fst) responded
      have limiter : outcome.1.loginLimiter = console.loginLimiter := by
        generalize outcome.1 = after at stepped
        cases takes_of_step stepped <;> rfl
      rw [limiter]
      exact .rest

/-! ## Runs -/

/-- The console as a system whose requests pass a limiter. -/
def throttled (env : AdminEnv) : Throttled Console AdminMove (Option Answer) requestLimit where
  respond := Console.respond env
  limiter := loginLimiter
  now? := AdminMove.now?
  passes ip move answer := move.guesses ip answer
  restarts := AdminMove.restarts
  refills := requestLimit_refills
  throttles ip timed responded := respond_throttle ip timed responded

theorem guesses_eq (env : AdminEnv) (ip : String) (console : Console) (moves : List AdminMove) :
    console.guesses env ip moves = (throttled env).passed ip console moves := by
  induction moves generalizing console with
  | nil => rfl
  | cons move rest ih =>
      simp only [guesses, Throttled.passed, ih]
      rfl

/-- However the logins of an address are mixed with everything else, no more than five of them
get as far as the password, five more for every restart, and one for every two seconds that
pass. -/
theorem guesses_bounded {seed : AdminUser} {first clock last : Time}
    (reached : Reachable (Clocked.step AdminMove.now? (Console.step env))
      (Console.start seed, first) (console, clock))
    (ip : String) {moves : List AdminMove} {made : Nat}
    (ordered : (clock :: (moves.filterMap AdminMove.now? ++ [last])).Pairwise (· ≤ ·))
    (ran : console.guesses env ip moves = some made) :
    (made : Int) ≤ 5 * (1 + moves.countP AdminMove.restarts) +
      (last - clock) / (2 * 10 ^ 9) := by
  have fresh : ((throttled env).limiter (Console.start seed)).Rested first :=
    IpLimiter.rested_new requestLimit first
  have rested : ((throttled env).limiter console).Rested clock :=
    (throttled env).rested_of_reachable fresh reached
  rw [guesses_eq] at ran
  exact (throttled env).passed_le rested ordered ran

/-- Somebody guesses. -/
def demoGuess : AdminMove :=
  .serve (demoRequest .post ["admin", "login"]
    (some (.object [("username", .string "admin"), ("password", .string "second")]))) 0

theorem demoGuess_bounded :
    (Console.start demoSeed).guesses demoAdminEnv "10.0.0.2"
        [demoGuess, demoGuess, demoGuess, demoGuess, demoGuess, demoGuess, .restart, demoGuess] =
      some 6 ∧ (6 : Int) ≤ 5 * (1 + 1) + (0 - 0) / (2 * 10 ^ 9) := by
  have made : (Console.start demoSeed).guesses demoAdminEnv "10.0.0.2"
      [demoGuess, demoGuess, demoGuess, demoGuess, demoGuess, demoGuess, .restart, demoGuess] =
        some 6 := by decide +kernel
  have reached : Reachable (Clocked.step AdminMove.now? (Console.step demoAdminEnv))
      (Console.start demoSeed, 0) (Console.start demoSeed, 0) := .refl
  exact ⟨made, guesses_bounded reached "10.0.0.2" (by decide +kernel) made⟩

end Console

end CopySync.Server
