import CopySync.Server.Admin.Sessions

/-!
# Housekeeping of the administration

The server purges sessions that are over every ten minutes, and the limiter of logins forgets
addresses it has not seen for ten minutes.  Neither changes a response: a console that is
tidied and one that is not answer every sequence of requests alike.
-/

namespace CopySync.Server

open Foundation

def AdminMove.tidies : AdminMove → Bool
  | .purgeSessions _ | .sweepLimiter _ => true
  | _ => false

namespace Console

variable {env : AdminEnv} {now : Time}

/-- The responses to moves taken one after the other. -/
def responses (env : AdminEnv) (console : Console) : List AdminMove → Option (List Answer)
  | [] => some []
  | move :: rest =>
      (console.respond env move).bind fun outcome =>
        (outcome.1.responses env rest).map fun later => outcome.2.toList ++ later

/-! ## Consoles that nobody can tell apart -/

/-- A console with other sessions and another limiter. -/
def refit (console : Console) (sessions : OrderedMap String AdminSession)
    (loginLimiter : IpLimiter requestLimit) : Console :=
  { console with sessions, loginLimiter }

/-- Two consoles that differ in what is over or forgotten only. -/
structure Alike (now : Time) (left right : Console) : Prop where
  same : right = left.refit right.sessions right.loginLimiter
  sessions : sessionLife.Agree now left.sessions right.sessions
  limiter : IpLimiter.Alike now left.loginLimiter right.loginLimiter
  rested : left.loginLimiter.Rested now

/-- One response, and consoles that are still alike. -/
structure Answered (now : Time) (first second : Console × Option Answer) : Prop where
  answer : first.2 = second.2
  alike : Alike now first.1 second.1

/-- Outcomes of one step on both sides. -/
inductive Matched (now : Time) : Option (Console × Option Answer) →
    Option (Console × Option Answer) → Prop where
  | none : Matched now none none
  | some {first second : Console × Option Answer} (answered : Answered now first second) :
      Matched now (some first) (some second)

namespace Alike

variable {left right : Console}

theorem shape (alike : Alike now left right) :
    ∃ sessions loginLimiter, right = left.refit sessions loginLimiter := ⟨_, _, alike.same⟩

theorem refl {console : Console} (rested : console.loginLimiter.Rested now) :
    Alike now console console :=
  ⟨rfl, .refl now _, fun _ => TokenBucket.Alike.refl _ _, rested⟩

theorem mono {later : Time} (alike : Alike now left right) (passed : now ≤ later) :
    Alike later left right :=
  ⟨alike.same, alike.sessions.mono passed, alike.limiter.mono passed, alike.rested.mono passed⟩

end Alike

/-! ## Jobs -/

/-- A change of sessions that keeps agreement. -/
def Blind (change : OrderedMap String AdminSession → OrderedMap String AdminSession) : Prop :=
  ∀ {since : Time} {left right : OrderedMap String AdminSession},
    sessionLife.Agree since left right → sessionLife.Agree since (change left) (change right)

theorem blind_id : Blind id := fun agree => agree

section Jobs

variable (console : Console) (sessions : OrderedMap String AdminSession)
variable (loginLimiter : IpLimiter requestLimit)

theorem act_refit (admission : Admission) (action : Action) :
    (console.refit sessions loginLimiter).act env admission action =
      (console.act env admission action).map fun later => later.refit sessions loginLimiter := by
  rw [act, act, Option.map_map]
  rfl

theorem broadcast_refit (admission : Admission) (draw : Draw) :
    (console.refit sessions loginLimiter).broadcast env admission draw =
      (console.broadcast env admission draw).map fun outcome =>
        (outcome.1.refit sessions loginLimiter, outcome.2) := by
  simp only [broadcast, act_refit]
  have relay : (console.refit sessions loginLimiter).relay = console.relay := rfl
  rw [relay]
  split
  · rfl
  · split
    · rfl
    · split
      · rfl
      · rw [Option.map_map, Option.map_map]
        rfl

/-- What a job does to the sessions depends on nothing a purge can change. -/
theorem advance_refit (draw : Draw) (job : Job) :
    ∃ change, Blind change ∧ ∀ sessions loginLimiter,
      (console.refit sessions loginLimiter).advance env draw job =
        (console.advance env draw job).map fun outcome =>
          (outcome.1.refit (change sessions) loginLimiter, outcome.2) := by
  cases job with
  | gate admission =>
      refine ⟨id, blind_id, fun sessions loginLimiter => ?_⟩
      simp only [advance]
      have admin : (console.refit sessions loginLimiter).admin = console.admin := rfl
      rw [admin]
      split <;> rfl
  | run admission =>
      cases handler : admission.route.handler with
      | logout =>
          cases given : admission.request.cookie with
          | none =>
              refine ⟨id, blind_id, fun sessions loginLimiter => ?_⟩
              simp only [advance, run, handler, logout, given]
              rfl
          | some cookie =>
              refine ⟨fun sessions => sessions.erase (env.hashSessionID cookie),
                fun agree => agree.erase _, fun sessions loginLimiter => ?_⟩
              simp only [advance, run, handler, logout, given]
              rfl
      | broadcast =>
          refine ⟨id, blind_id, fun sessions loginLimiter => ?_⟩
          simp only [advance, run, handler]
          exact broadcast_refit console sessions loginLimiter admission draw
      | _ =>
          refine ⟨id, blind_id, fun sessions loginLimiter => ?_⟩
          simp only [advance, run, handler]
          rfl
  | issue login admin =>
      let session := issueSession console.relay.daemon.store.getSettings
        (env.hashSessionID draw.id) admin.username draw.now
      exact ⟨fun sessions => sessions.put session.idHash session, fun agree => agree.put _ _,
        fun sessions loginLimiter => rfl⟩
  | save admission change admin =>
      refine ⟨id, blind_id, fun sessions loginLimiter => ?_⟩
      simp only [advance]
      split <;> rfl
  | act admission actions =>
      refine ⟨id, blind_id, fun sessions loginLimiter => ?_⟩
      cases actions with
      | nil => rfl
      | cons action rest =>
          simp only [advance, act_refit, Option.map_map]
          rfl

end Jobs

namespace Alike

variable {left right : Console}

theorem proceed (alike : Alike now left right) (index : Nat) (draw : Draw) :
    Matched now (left.proceed env index draw) (right.proceed env index draw) := by
  rw [alike.same]
  simp only [Console.proceed]
  have jobs : (left.refit right.sessions right.loginLimiter).jobs = left.jobs := rfl
  rw [jobs]
  cases left.jobs[index]? with
  | none => exact .none
  | some job =>
      obtain ⟨change, blind, moved⟩ := @advance_refit env left draw job
      have own := moved left.sessions left.loginLimiter
      have self : left.refit left.sessions left.loginLimiter = left := rfl
      rw [self] at own
      simp only [moved right.sessions right.loginLimiter]
      rw [own]
      cases left.advance env draw job with
      | none => exact .none
      | some outcome =>
          obtain ⟨later, progress⟩ := outcome
          have agree := blind alike.sessions
          cases progress with
          | ok job => exact .some ⟨rfl, rfl, agree, alike.limiter, alike.rested⟩
          | error answer => exact .some ⟨rfl, rfl, agree, alike.limiter, alike.rested⟩

theorem login (alike : Alike now left right) (request : Request) :
    Answered now (left.login env request now) (right.login env request now) := by
  obtain ⟨sessions, loginLimiter, rfl⟩ := alike.shape
  obtain ⟨allowed, limiter⟩ := alike.limiter.allow request.remoteAddr
  have rested := alike.rested.allow request.remoteAddr
  have fields : (left.refit sessions loginLimiter).admin = left.admin ∧
      (left.refit sessions loginLimiter).loginLimiter = loginLimiter := ⟨rfl, rfl⟩
  simp only [fields] at allowed limiter
  simp only [Console.login, fields]
  generalize left.loginLimiter.allow request.remoteAddr now = first at allowed limiter rested
  generalize loginLimiter.allow request.remoteAddr now = second at allowed limiter
  obtain ⟨allows, kept⟩ := first
  obtain ⟨allows', kept'⟩ := second
  cases allowed
  have limited (other : Console) (same : other.sessions = left.sessions) (answer : Option Answer) :
      Answered now (other.refit left.sessions kept, answer) (other.refit sessions kept', answer) :=
    ⟨rfl, rfl, alike.sessions, limiter, rested⟩
  split
  · exact limited left rfl _
  · split
    · exact limited left rfl _
    · split
      · exact limited left rfl _
      · split
        · exact limited left rfl _
        · exact limited (left.enqueue _) rfl _

/-- Looking up a session forgets only what is over. -/
theorem currentSession_snd (console : Console) (request : Request) :
    ∃ sessions, (console.currentSession env request now).2 =
      console.refit sessions console.loginLimiter ∧
        sessionLife.Agree now sessions console.sessions := by
  have same : ∃ sessions, console = console.refit sessions console.loginLimiter ∧
      sessionLife.Agree now sessions console.sessions := ⟨console.sessions, rfl, .refl now _⟩
  rw [Console.currentSession]
  cases request.cookie with
  | none => exact same
  | some cookie =>
      simp only
      cases found : console.sessions.get? (env.hashSessionID cookie) with
      | none => exact same
      | some session =>
          cases expired : session.expired now with
          | false => simpa [expired] using same
          | true =>
              refine ⟨console.sessions.erase (env.hashSessionID cookie),
                by simp [expired, Console.refit], Lifetime.erase_agree ?_⟩
              simp [Lifetime.look, found, sessionLife, expired]

theorem currentSession (alike : Alike now left right) (request : Request) :
    ∃ session first second, left.currentSession env request now = (session, first) ∧
      right.currentSession env request now = (session, second) ∧ Alike now first second := by
  have found : (right.currentSession env request now).1 =
      (left.currentSession env request now).1 := by
    rw [currentSession_fst, currentSession_fst]
    cases request.cookie with
    | none => rfl
    | some cookie => exact (alike.sessions _).symm
  obtain ⟨kept, first, agree⟩ := @currentSession_snd env now left request
  obtain ⟨kept', second, agree'⟩ := @currentSession_snd env now right request
  refine ⟨(left.currentSession env request now).1, left.refit kept left.loginLimiter,
    right.refit kept' right.loginLimiter, Prod.ext rfl first, Prod.ext found second, ?_⟩
  obtain ⟨sessions, loginLimiter, rfl⟩ := alike.shape
  exact ⟨rfl, agree.trans (alike.sessions.trans agree'.symm), alike.limiter, alike.rested⟩

theorem enter (alike : Alike now left right) (admission : Admission) :
    Alike now (left.enter admission) (right.enter admission) := by
  obtain ⟨sessions, loginLimiter, rfl⟩ := alike.shape
  exact ⟨rfl, alike.sessions, alike.limiter, alike.rested⟩

theorem withSession (alike : Alike now left right) (route : Route) (request : Request) :
    Answered now (left.withSession env route request now)
      (right.withSession env route request now) := by
  simp only [Console.withSession]
  cases request.apiKeyOK env with
  | true =>
      simp only [if_true]
      exact ⟨rfl, alike.enter ⟨request, route, .apiKey, now⟩⟩
  | false =>
      simp only [Bool.false_eq_true, if_false]
      obtain ⟨session, first, second, looked, looked', alike⟩ :=
        @currentSession env now left right alike request
      rw [looked, looked']
      cases session with
      | none => exact ⟨rfl, alike⟩
      | some session =>
          simp only
          split
          · exact ⟨rfl, alike⟩
          · exact ⟨rfl, alike.enter ⟨request, route, .session session, now⟩⟩

theorem serve (alike : Alike now left right) (request : Request) :
    Answered now (left.serve env request now) (right.serve env request now) := by
  simp only [Console.serve]
  cases dispatch request.method request.path with
  | none => exact ⟨rfl, alike⟩
  | some route =>
      cases guard : route.guard with
      | unguarded =>
          simp only [guard]
          by_cases handler : route.handler = .login
          · rw [if_pos handler, if_pos handler]
            exact alike.login request
          · rw [if_neg handler, if_neg handler]
            exact ⟨rfl, alike⟩
      | requireSession | requireAdmin =>
          simp only [guard]
          exact alike.withSession route request

theorem respond (alike : Alike now left right) {move : AdminMove} (busy : move.tidies = false)
    (timed : ∀ time ∈ move.now?, time = now) :
    Matched now (left.respond env move) (right.respond env move) := by
  cases move with
  | relay action =>
      obtain ⟨sessions, loginLimiter, rfl⟩ := alike.shape
      simp only [Console.respond]
      cases action.administers with
      | true => exact .none
      | false =>
          have relay : (left.refit sessions loginLimiter).relay = left.relay := rfl
          rw [relay]
          cases left.relay.step env.server action with
          | none => exact .none
          | some relay => exact .some ⟨rfl, rfl, alike.sessions, alike.limiter, alike.rested⟩
  | restart =>
      obtain ⟨sessions, loginLimiter, rfl⟩ := alike.shape
      exact .some ⟨rfl, rfl, alike.sessions, fun _ => TokenBucket.Alike.refl _ _,
        IpLimiter.rested_new _ _⟩
  | serve request time =>
      cases timed time rfl
      exact .some (alike.serve request)
  | proceed index draw => exact alike.proceed index draw
  | purgeSessions time => cases busy
  | sweepLimiter time => cases busy

/-- The left console is tidied. -/
theorem tidy (alike : Alike now left right) {move : AdminMove} (tidies : move.tidies = true)
    (timed : ∀ time ∈ move.now?, time = now) :
    ∃ after, left.respond env move = some (after, none) ∧ Alike now after right := by
  obtain ⟨sessions, loginLimiter, rfl⟩ := alike.shape
  cases move with
  | purgeSessions time =>
      cases timed time rfl
      exact ⟨_, rfl, rfl, (Lifetime.sweep_agree _ _).trans alike.sessions, alike.limiter,
        alike.rested⟩
  | sweepLimiter time =>
      cases timed time rfl
      have forgotten := alike.rested.alike_sweep requestLimit_refills
      exact ⟨_, rfl, rfl, alike.sessions, fun ip => (forgotten ip).trans (alike.limiter ip),
        alike.rested.sweep⟩
  | _ => cases tidies

end Alike

/-! ## Runs -/

theorem Alike.responses {left right : Console} {moves : List AdminMove}
    (alike : Alike now left right)
    (ordered : (now :: (moves.filterMap AdminMove.now? ++ [])).Pairwise (· ≤ ·)) :
    left.responses env moves = right.responses env (moves.filter fun move => !move.tidies) := by
  induction moves generalizing now left right with
  | nil => rfl
  | cons move rest ih =>
      obtain ⟨time, passed, timed, following⟩ := Clocked.next ordered
      have alike := alike.mono passed
      cases tidies : move.tidies with
      | true =>
          obtain ⟨after, responded, alike⟩ :=
            @Alike.tidy env time left right alike move tidies timed
          simp only [Console.responses, responded, Option.bind_some, Option.toList_none,
            List.nil_append, Option.map_id', List.filter_cons, tidies, Bool.not_true,
            Bool.false_eq_true, if_false]
          exact ih alike following
      | false =>
          have matched := @Alike.respond env time left right alike move tidies timed
          simp only [Console.responses, List.filter_cons, tidies, Bool.not_false, if_true]
          revert matched
          generalize left.respond env move = first
          generalize right.respond env move = second
          intro matched
          cases matched with
          | none => rfl
          | some answered =>
              simp only [Option.bind_some]
              rw [ih answered.alike following, answered.answer]

/-- Housekeeping changes no response, as long as no clock goes back. -/
theorem responses_tidied (env : AdminEnv) (seed : AdminUser) {moves : List AdminMove}
    (ordered : (moves.filterMap AdminMove.now?).Pairwise (· ≤ ·)) :
    (Console.start seed).responses env moves =
      (Console.start seed).responses env (moves.filter fun move => !move.tidies) := by
  have rested (now : Time) : (Console.start seed).loginLimiter.Rested now :=
    IpLimiter.rested_new _ now
  cases times : moves.filterMap AdminMove.now? with
  | nil =>
      apply Alike.responses (Alike.refl (rested 0))
      rw [times]
      exact List.pairwise_singleton _ _
  | cons time rest =>
      apply Alike.responses (Alike.refl (rested time))
      rw [times] at ordered ⊢
      rw [List.append_nil]
      refine List.pairwise_cons.mpr ⟨fun other among => ?_, ordered⟩
      rcases List.mem_cons.mp among with rfl | among
      · exact le_rfl
      · exact (List.pairwise_cons.mp ordered).1 other among

/-- The session of a login is swept after it ended, and its cookie is shown again. -/
def demoTidied : List AdminMove :=
  demoLogin ++ [.purgeSessions (100 * 3600 * 1000000000), .sweepLimiter (100 * 3600 * 1000000000),
    .serve (demoRequest .get ["admin", "me"] none) (100 * 3600 * 1000000000)]

theorem demoTidied_responses :
    (Console.start demoSeed).responses demoAdminEnv demoTidied =
      (Console.start demoSeed).responses demoAdminEnv
        (demoTidied.filter fun move => !move.tidies) :=
  responses_tidied demoAdminEnv demoSeed (by decide +kernel)

end Console

end CopySync.Server
