import CopySync.Server.Admin.Console

/-!
# What a step of the administration can do

One case for each kind of step, with all that it depends on.
-/

namespace CopySync.Server

open Foundation GoJson

/-- The steps of the relay a handler takes for a request. -/
inductive Does (request : Request) : Handler → Action → Prop where
  | createPairing (settings : RuntimeSettings) (code : String) (now : Time) :
      Does request .createPairing (.putPairing (createPairing settings code now))
  | deleteDevice : Does request .deleteDevice (.deleteDevice request.pathValue)
  | evict : Does request .deleteDevice (.evict request.pathValue)
  | putSettings (current changed : RuntimeSettings)
      (decoded : decodeSettings request.body current = some changed) :
      Does request .putSettings (.putSettings changed)
  | loadSettings : Does request .putSettings .loadSettings
  | broadcast (id text : String) (now : Time)
      (decoded : (request.body.bind fun json => decodeStruct broadcastFields json ⟨""⟩) =
        some ⟨text⟩) :
      Does request .broadcast (.broadcast id text now)

theorem Does.administers {request : Request} {handler : Handler} {action : Action}
    (does : Does request handler action) : handler.administers = true := by
  cases does <;> rfl

/-- A pairing that is recorded was claimed. -/
inductive Pairs (env : Env) (relay : Relay) : Action → List AdminEvent → Prop where
  | none {action : Action} : Pairs env relay action []
  | claimed {code suffix name platform token : String} {now : Time} {store : Store}
      (claimed : relay.daemon.store.claimPairing env.lib code now
        (.paired suffix name platform now)
        ⟨"dev_" ++ suffix, env.hasher.hashToken token, "", now, false⟩ = .ok store) :
      Pairs env relay (.claimPairing code suffix name platform token now)
        [.paired code ("dev_" ++ suffix) now]

theorem pairs_of_step (env : Env) (relay : Relay) (action : Action) :
    Pairs env relay action (relay.pairs env action) := by
  cases action with
  | claimPairing code suffix name platform token now =>
      simp only [Relay.pairs]
      split
      next store claimed => exact .claimed claimed
      next => exact .none
  | _ => exact .none

namespace Console

/-- What a request shows to pass its guard. -/
inductive Bears (env : AdminEnv) (console : Console) (request : Request) (now : Time) :
    Badge → Prop where
  | apiKey (presented : request.apiKeyOK env = true) : Bears env console request now .apiKey
  | session (cookie : String) (session : AdminSession) (given : request.cookie = some cookie)
      (found : console.sessions.get? (env.hashSessionID cookie) = some session)
      (alive : session.expired now = false)
      (csrf : isMutating request.method = true → request.csrf ≠ "") :
      Bears env console request now (.session session)

inductive Takes (env : AdminEnv) (console : Console) : AdminMove → Console → Prop where
  | relay (action : Action) (relay : Relay) (plain : action.administers = false)
      (stepped : console.relay.step env.server action = some relay) :
      Takes env console (.relay action)
        ({ console with relay }.record (console.relay.pairs env.server action))
  | restart :
      Takes env console .restart
        { console with
          relay := console.relay.restart
          jobs := []
          loginLimiter := newIPLimiter requestLimit }
  | purge (now : Time) :
      Takes env console (.purgeSessions now)
        { console with sessions := sessionLife.sweep console.sessions now }
  | sweep (now : Time) :
      Takes env console (.sweepLimiter now)
        { console with loginLimiter := console.loginLimiter.sweep now }
  | refuse (request : Request) (now : Time) (loginLimiter : IpLimiter requestLimit) :
      Takes env console (.serve request now) { console with loginLimiter }
  | reap (request : Request) (now : Time) (cookie : String) (session : AdminSession)
      (found : console.sessions.get? (env.hashSessionID cookie) = some session)
      (expired : session.expired now = true) :
      Takes env console (.serve request now)
        { console with sessions := console.sessions.erase (env.hashSessionID cookie) }
  | login (request : Request) (now : Time) (loginLimiter : IpLimiter requestLimit)
      (credentials : Credentials) (admin : AdminUser) (known : console.admin = some admin)
      (named : env.equalFold credentials.username admin.username = true)
      (right : env.compare admin.passHash credentials.password = true) :
      Takes env console (.serve request now)
        ({ console with loginLimiter }.enqueue (.issue credentials admin))
  | enter (request : Request) (now : Time) (route : Route) (badge : Badge)
      (dispatched : dispatch request.method request.path = some route)
      (guarded : route.guard ≠ .unguarded) (bears : Bears env console request now badge) :
      Takes env console (.serve request now) (console.enter ⟨request, route, badge, now⟩)
  | gate (index : Nat) (draw : Draw) (admission : Admission)
      (found : console.jobs[index]? = some (.gate admission))
      (unlocked : gated admission.route admission.badge = true →
        console.admin.any (·.mustChangePW) = false) :
      Takes env console (.proceed index draw)
        { console.record [.admitted admission] with
          jobs := console.jobs.set index (.run admission) }
  | answer (index : Nat) (draw : Draw) (job : Job) (found : console.jobs[index]? = some job) :
      Takes env console (.proceed index draw)
        { console with jobs := console.jobs.eraseIdx index }
  | logout (index : Nat) (draw : Draw) (admission : Admission) (cookie : String)
      (found : console.jobs[index]? = some (.run admission))
      (handler : admission.route.handler = .logout)
      (given : admission.request.cookie = some cookie) :
      Takes env console (.proceed index draw)
        { { console with
            sessions := console.sessions.erase (env.hashSessionID cookie) }.record
              [.cleared (env.hashSessionID cookie)] with
          jobs := console.jobs.eraseIdx index }
  | verify (index : Nat) (draw : Draw) (admission : Admission) (change : PasswordChange)
      (admin : AdminUser) (found : console.jobs[index]? = some (.run admission))
      (handler : admission.route.handler = .password)
      (known : console.admin = some admin)
      (right : env.compare admin.passHash change.current = true)
      (long : 8 ≤ change.new.utf8ByteSize) :
      Takes env console (.proceed index draw)
        { console with jobs := console.jobs.set index (.save admission change admin) }
  | plan (index : Nat) (draw : Draw) (admission : Admission) (actions : List Action)
      (found : console.jobs[index]? = some (.run admission))
      (does : ∀ action ∈ actions, Does admission.request admission.route.handler action) :
      Takes env console (.proceed index draw)
        { console with jobs := console.jobs.set index (.act admission actions) }
  | announce (index : Nat) (draw : Draw) (admission : Admission) (action : Action)
      (relay : Relay) (found : console.jobs[index]? = some (.run admission))
      (does : Does admission.request admission.route.handler action)
      (stepped : console.relay.step env.server action = some relay) :
      Takes env console (.proceed index draw)
        { { console with relay }.record [.acted admission action] with
          jobs := console.jobs.eraseIdx index }
  | issue (index : Nat) (draw : Draw) (login : Credentials) (admin : AdminUser)
      (session : AdminSession) (found : console.jobs[index]? = some (.issue login admin))
      (issued : session = issueSession console.relay.daemon.store.getSettings
        (env.hashSessionID draw.id) admin.username draw.now) :
      Takes env console (.proceed index draw)
        { { console with sessions := console.sessions.put session.idHash session }.record
            [.issued session login admin] with
          jobs := console.jobs.eraseIdx index }
  | save (index : Nat) (draw : Draw) (admission : Admission) (change : PasswordChange)
      (admin renewed : AdminUser) (passHash : List UInt8)
      (found : console.jobs[index]? = some (.save admission change admin))
      (hashed : env.generate draw.salt change.new = some passHash)
      (same : renewed = { admin with passHash, mustChangePW := false, updatedAt := draw.now }) :
      Takes env console (.proceed index draw)
        { { console with admin := some renewed }.record
            [.saved admission change admin renewed] with
          jobs := console.jobs.eraseIdx index }
  | act (index : Nat) (draw : Draw) (admission : Admission) (action : Action)
      (rest : List Action) (relay : Relay)
      (found : console.jobs[index]? = some (.act admission (action :: rest)))
      (stepped : console.relay.step env.server action = some relay) :
      Takes env console (.proceed index draw)
        { { console with relay }.record [.acted admission action] with
          jobs := console.jobs.set index (.act admission rest) }

section Inversion

variable {env : AdminEnv} {console : Console}

theorem takes_login (request : Request) (now : Time) :
    Takes env console (.serve request now) (console.login env request now).1 := by
  rw [login]
  generalize console.loginLimiter.allow request.remoteAddr now = outcome
  obtain ⟨allowed, loginLimiter⟩ := outcome
  simp only
  split
  · exact .refuse request now loginLimiter
  · split
    · exact .refuse request now loginLimiter
    · split
      · exact .refuse request now loginLimiter
      next admin known =>
        split
        · exact .refuse request now loginLimiter
        next right =>
          simp only [Bool.or_eq_true, Bool.not_eq_true', not_or, Bool.not_eq_false] at right
          exact .login request now loginLimiter _ admin known right.1 right.2

theorem takes_withSession {request : Request} {route : Route} (now : Time)
    (dispatched : dispatch request.method request.path = some route)
    (guarded : route.guard ≠ .unguarded) :
    Takes env console (.serve request now) (console.withSession env route request now).1 := by
  rw [withSession]
  split
  next presented =>
    exact .enter request now route .apiKey dispatched guarded (.apiKey presented)
  next =>
    rw [currentSession]
    cases given : request.cookie with
    | none => exact .refuse request now console.loginLimiter
    | some cookie =>
        simp only
        cases found : console.sessions.get? (env.hashSessionID cookie) with
        | none => exact .refuse request now console.loginLimiter
        | some session =>
            simp only
            cases expired : session.expired now with
            | true => exact .reap request now cookie session found expired
            | false =>
                simp only [Bool.false_eq_true, if_false]
                split
                · exact .refuse request now console.loginLimiter
                next csrf =>
                  simp only [Bool.and_eq_true, decide_eq_true_eq, not_and] at csrf
                  exact .enter request now route (.session session) dispatched guarded
                    (.session cookie session given found expired csrf)

theorem takes_serve (request : Request) (now : Time) :
    Takes env console (.serve request now) (console.serve env request now).1 := by
  rw [serve]
  cases dispatched : dispatch request.method request.path with
  | none => exact .refuse request now console.loginLimiter
  | some route =>
      simp only
      cases guard : route.guard with
      | unguarded =>
          simp only
          split
          · exact takes_login request now
          · exact .refuse request now console.loginLimiter
      | requireSession | requireAdmin => exact takes_withSession now dispatched (by simp [guard])

theorem takes_password {index : Nat} {draw : Draw} {admission : Admission}
    (found : console.jobs[index]? = some (.run admission))
    (handler : admission.route.handler = .password) :
    Takes env console (.proceed index draw)
      (console.settle index (console.password env admission)).1 := by
  have answered : Takes env console (.proceed index draw)
      { console with jobs := console.jobs.eraseIdx index } := .answer index draw _ found
  rw [password]
  split
  · exact answered
  · split_ifs with short
    · exact answered
    · split
      · exact answered
      next admin known =>
        split_ifs with right
        · exact .verify index draw admission _ admin found handler known right
            (Nat.not_lt.mp short)
        · exact answered

theorem takes_broadcast {index : Nat} {draw : Draw} {admission : Admission}
    {outcome : Console × Progress} (found : console.jobs[index]? = some (.run admission))
    (handler : admission.route.handler = .broadcast)
    (ran : console.broadcast env admission draw = some outcome) :
    Takes env console (.proceed index draw) (outcome.1.settle index outcome.2).1 := by
  have answered : Takes env console (.proceed index draw)
      { console with jobs := console.jobs.eraseIdx index } := .answer index draw _ found
  simp only [broadcast] at ran
  split at ran
  · cases ran
    exact answered
  · split at ran
    · cases ran
      exact answered
    next text decoded =>
      split at ran
      · cases ran
        exact answered
      · obtain ⟨later, acted, rfl⟩ := Option.map_eq_some_iff.mp ran
        obtain ⟨relay, stepped, rfl⟩ := Option.map_eq_some_iff.mp acted
        exact .announce index draw admission _ relay found
          (handler ▸ .broadcast _ _ _ decoded) stepped

/-- What the handler of a running job comes to. -/
theorem takes_run {index : Nat} {draw : Draw} {admission : Admission}
    {outcome : Console × Progress} (found : console.jobs[index]? = some (.run admission))
    (ran : console.run env admission draw = some outcome) :
    Takes env console (.proceed index draw) (outcome.1.settle index outcome.2).1 := by
  have answered : Takes env console (.proceed index draw)
      { console with jobs := console.jobs.eraseIdx index } := .answer index draw _ found
  have planned (actions : List Action)
      (does : ∀ action ∈ actions, Does admission.request admission.route.handler action) :
      Takes env console (.proceed index draw)
        { console with jobs := console.jobs.set index (.act admission actions) } :=
    .plan index draw admission actions found does
  rw [run] at ran
  cases handler : admission.route.handler with
  | logout =>
      simp only [handler, logout] at ran
      split at ran
      · cases ran
        exact answered
      next cookie given =>
        cases ran
        exact .logout index draw admission cookie found handler given
  | password =>
      simp only [handler] at ran
      cases ran
      exact takes_password found handler
  | broadcast =>
      simp only [handler] at ran
      exact takes_broadcast found handler ran
  | createPairing =>
      simp only [handler] at ran
      cases ran
      refine planned _ fun action listed => ?_
      rw [List.mem_singleton.mp listed, handler]
      exact .createPairing _ _ _
  | deleteDevice =>
      simp only [handler] at ran
      cases ran
      split_ifs
      · exact answered
      · refine planned _ fun action listed => ?_
        rw [handler]
        rcases List.mem_cons.mp listed with rfl | listed
        · exact .deleteDevice
        · exact List.mem_singleton.mp listed ▸ .evict
  | putSettings =>
      simp only [handler] at ran
      cases ran
      split
      · exact answered
      next changed decoded =>
        refine planned _ fun action listed => ?_
        rw [handler]
        rcases List.mem_cons.mp listed with rfl | listed
        · exact .putSettings _ _ decoded
        · exact List.mem_singleton.mp listed ▸ .loadSettings
  | _ =>
      simp only [handler] at ran
      cases ran
      exact answered

theorem takes_proceed {index : Nat} {draw : Draw} {outcome : Console × Option Answer}
    (proceeded : console.proceed env index draw = some outcome) :
    Takes env console (.proceed index draw) outcome.1 := by
  rw [proceed] at proceeded
  split at proceeded
  next => cases proceeded
  next job found =>
    obtain ⟨⟨later, progress⟩, advanced, rfl⟩ := Option.map_eq_some_iff.mp proceeded
    have answered : Takes env console (.proceed index draw)
        { console with jobs := console.jobs.eraseIdx index } := .answer index draw job found
    cases job with
    | gate admission =>
        simp only [advance] at advanced
        split at advanced
        · cases advanced
          exact answered
        next unlocked =>
          cases advanced
          exact .gate index draw admission found (by simpa using unlocked)
    | run admission => exact takes_run found advanced
    | issue login admin =>
        cases advanced
        exact .issue index draw login admin _ found rfl
    | save admission change admin =>
        simp only [advance] at advanced
        split at advanced
        · cases advanced
          exact answered
        next passHash hashed =>
          cases advanced
          exact .save index draw admission change admin _ passHash found hashed rfl
    | act admission actions =>
        cases actions with
        | nil =>
            cases advanced
            exact answered
        | cons action rest =>
            simp only [advance] at advanced
            obtain ⟨moved, acted, same⟩ := Option.map_eq_some_iff.mp advanced
            obtain ⟨relay, stepped, rfl⟩ := Option.map_eq_some_iff.mp acted
            cases same
            exact .act index draw admission action rest relay found stepped

theorem takes_of_step {move : AdminMove} {after : Console}
    (stepped : console.step env move = some after) : Takes env console move after := by
  obtain ⟨⟨later, answer⟩, responded, rfl⟩ := Option.map_eq_some_iff.mp stepped
  cases move with
  | relay action =>
      simp only [respond] at responded
      split_ifs at responded with administers
      obtain ⟨relay, moved, same⟩ := Option.map_eq_some_iff.mp responded
      cases same
      exact .relay action relay (Bool.eq_false_of_not_eq_true administers) moved
  | restart =>
      cases responded
      exact .restart
  | serve request now =>
      have served := @takes_serve env console request now
      rwa [Option.some.inj responded] at served
  | proceed index draw => exact takes_proceed responded
  | purgeSessions now =>
      cases responded
      exact .purge now
  | sweepLimiter now =>
      cases responded
      exact .sweep now

end Inversion

end Console

end CopySync.Server
