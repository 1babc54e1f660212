import CopySync.Server.Admin.Warrants

/-!
# Nobody administers without authority

In every run of the server, restarts included, and in whatever order the steps of concurrent
requests are taken, an act of the administration is one that a request asked for, on a route
behind `requireAdmin`, with the API key or with a session that was open when the request came
in, that began with the password of the administrator, and that has the CSRF header; and under
a session nothing is done before the password the server was started with has been changed.
-/

namespace CopySync.Server

open Foundation

namespace Console

variable {env : AdminEnv} {seed : AdminUser} {console after : Console} {move : AdminMove}

/-- Events and jobs have their warrants, and the account is one the administrator has had. -/
structure Mediated (env : AdminEnv) (seed : AdminUser) (console : Console) : Prop where
  events : EachAfter (Warrant env seed) console.history
  jobs : ∀ job ∈ console.jobs, job.Warranted env seed console.history
  admin : ∃ admin, console.admin = some admin ∧ Held seed console.history admin
  tracked : console.Tracked
  coded : console.Coded

/-! ## Steps -/

/-- What a step has to show for the events it adds and the jobs it leaves. -/
structure Accounts (env : AdminEnv) (seed : AdminUser) (console after : Console) : Prop where
  start : console.history <+: after.history
  events : EachAfter (Warrant env seed) after.history
  jobs : ∀ job ∈ after.jobs, job ∈ console.jobs ∨ job.Warranted env seed after.history
  admin : after.admin = console.admin ∨
    ∃ admin, after.admin = some admin ∧ Held seed after.history admin

namespace Accounts

/-- A step that adds no event and leaves the account alone. -/
theorem quiet (mediated : Mediated env seed console) (history : after.history = console.history)
    (admin : after.admin = console.admin)
    (jobs : ∀ job ∈ after.jobs, job ∈ console.jobs ∨ job.Warranted env seed console.history) :
    Accounts env seed console after where
  start := by rw [history]
  events := history ▸ mediated.events
  jobs := history ▸ jobs
  admin := .inl admin

/-- A step that adds one event. -/
theorem event (mediated : Mediated env seed console) {event : AdminEvent}
    (warrant : Warrant env seed console.history event)
    (history : after.history = console.history ++ [event])
    (admin : after.admin = console.admin ∨
      ∃ admin, after.admin = some admin ∧ Held seed after.history admin)
    (jobs : ∀ job ∈ after.jobs, job ∈ console.jobs ∨ job.Warranted env seed after.history) :
    Accounts env seed console after where
  start := history ▸ List.prefix_append _ _
  events := history ▸ eachAfter_concat.mpr ⟨mediated.events, warrant⟩
  jobs
  admin

end Accounts

theorem warranted_enqueue (job : Job) {listed : Job} {history : List AdminEvent}
    (warranted : job.Warranted env seed history) (among : listed ∈ (console.enqueue job).jobs) :
    listed ∈ console.jobs ∨ listed.Warranted env seed history := by
  rcases List.mem_append.mp among with old | new
  · exact .inl old
  · rw [List.mem_singleton.mp new]
    exact .inr warranted

theorem warranted_set {index : Nat} (job : Job) {listed : Job} {history : List AdminEvent}
    (warranted : job.Warranted env seed history) (among : listed ∈ console.jobs.set index job) :
    listed ∈ console.jobs ∨ listed.Warranted env seed history := by
  rcases List.mem_or_eq_of_mem_set among with old | same
  · exact .inl old
  · rw [same]
    exact .inr warranted

/-- The badge a request is given was shown. -/
theorem Mediated.shown (mediated : Mediated env seed console) {request : Request} {now : Time}
    {badge : Badge} (bears : Bears env console request now badge) :
    Shown env console.history request now badge := by
  cases bears with
  | apiKey presented => exact .apiKey presented
  | session cookie session given found alive csrf =>
      exact .session cookie session given (mediated.tracked _ _ found) alive csrf

theorem Mediated.pairs (mediated : Mediated env seed console) (relay : Relay)
    (action : Action) :
    Accounts env seed console
      ({ console with relay }.record (console.relay.pairs env.server action)) := by
  have pairs := pairs_of_step env.server console.relay action
  generalize console.relay.pairs env.server action = events at pairs ⊢
  cases pairs with
  | none => exact .quiet mediated (List.append_nil _) rfl fun _ among => .inl among
  | claimed claimed =>
      obtain ⟨entry, found, fresh, live, -, -⟩ := Store.claimPairing_ok claimed
      have opened := mediated.coded _ entry found fresh
      exact .event mediated (.paired _ _ _ entry opened live) rfl (.inl rfl)
        fun _ among => .inl among

theorem Mediated.enter (mediated : Mediated env seed console) {admission : Admission}
    (entered : Entered env console.history admission) :
    Accounts env seed console (console.enter admission) := by
  have recorded : .entered admission ∈ console.history ++ [.entered admission] :=
    List.mem_append_right _ List.mem_cons_self
  exact .event mediated (.entered admission entered) rfl (.inl rfl) fun job among =>
    warranted_enqueue (.gate admission) recorded among

theorem Mediated.accounts (mediated : Mediated env seed console)
    (stepped : console.step env move = some after) : Accounts env seed console after := by
  obtain ⟨current, known, held⟩ := mediated.admin
  have kept {index : Nat} {job : Job} : job ∈ console.jobs.eraseIdx index →
      job ∈ console.jobs ∨ job.Warranted env seed after.history :=
    fun among => .inl (List.mem_of_mem_eraseIdx among)
  have listed {index : Nat} {job : Job} (found : console.jobs[index]? = some job) :
      job.Warranted env seed console.history := mediated.jobs job (List.mem_of_getElem? found)
  cases takes_of_step stepped with
  | relay action relay => exact mediated.pairs relay action
  | restart => exact .quiet mediated rfl rfl fun job among => by cases among
  | purge | sweep | refuse | reap => exact .quiet mediated rfl rfl fun job among => .inl among
  | login request now loginLimiter credentials admin same named right =>
      cases known.symm.trans same
      exact .quiet mediated rfl rfl fun job among =>
        warranted_enqueue (.issue credentials current) ⟨held, named, right⟩ among
  | enter request now route badge dispatched guarded bears =>
      exact mediated.enter ⟨dispatched, guarded, mediated.shown bears⟩
  | gate index draw admission found unlocked =>
      rw [known, Option.any_some] at unlocked
      have passed : .admitted admission ∈ console.history ++ [.admitted admission] :=
        List.mem_append_right _ List.mem_cons_self
      exact .event mediated
        (.admitted admission (listed found) fun gate => ⟨current, held, unlocked gate⟩)
        rfl (.inl rfl)
        fun job among => warranted_set (.run admission) passed among
  | answer => exact .quiet mediated rfl rfl fun job among => kept among
  | logout index draw admission cookie found handler given =>
      exact .event mediated (.cleared admission cookie (listed found) handler given) rfl
        (.inl rfl) fun job among => kept among
  | verify index draw admission change admin found handler same right long =>
      cases known.symm.trans same
      exact .quiet mediated rfl rfl fun job among =>
        warranted_set (.save admission change current)
          ⟨listed found, held, handler, right, long⟩ among
  | plan index draw admission actions found does =>
      exact .quiet mediated rfl rfl fun job among =>
        warranted_set (.act admission actions) ⟨listed found, does⟩ among
  | announce index draw admission action relay found does moved =>
      exact .event mediated (.acted admission action (listed found) does) rfl (.inl rfl)
        fun job among => kept among
  | issue index draw login admin session found issued =>
      obtain ⟨held, matched⟩ := listed found
      exact .event mediated (.issued session login admin held matched (by rw [issued]; rfl)) rfl
        (.inl rfl) fun job among => kept among
  | save index draw admission change admin renewed passHash found hashed same =>
      obtain ⟨passed, held, changes⟩ := listed found
      have warrant : Warrant env seed console.history (.saved admission change admin renewed) := by
        refine .saved admission change admin renewed passed held changes ?_ ?_ ?_
        · exact ⟨draw.salt, by rw [same]; exact hashed⟩
        · rw [same]
        · rw [same]
      refine .event mediated warrant rfl (.inr ⟨renewed, rfl, .inr ?_⟩) fun job among => kept among
      exact ⟨admission, change, admin, List.mem_append_right _ List.mem_cons_self⟩
  | act index draw admission action rest relay found moved =>
      obtain ⟨passed, does⟩ := listed found
      exact .event mediated (.acted admission action passed (does action List.mem_cons_self)) rfl
        (.inl rfl) fun job among => warranted_set (.act admission rest)
          ⟨List.mem_append_left _ passed, fun other later =>
            does other (List.mem_cons_of_mem _ later)⟩ among

theorem Mediated.step (mediated : Mediated env seed console)
    (stepped : console.step env move = some after) : Mediated env seed after := by
  have accounts := mediated.accounts stepped
  refine ⟨accounts.events, fun job among => ?_, ?_, mediated.tracked.step stepped,
    mediated.coded.step mediated.jobs stepped⟩
  · rcases accounts.jobs job among with old | new
    · exact (mediated.jobs job old).mono accounts.start
    · exact new
  · rcases accounts.admin with same | new
    · obtain ⟨admin, known, held⟩ := mediated.admin
      exact ⟨admin, same.trans known, held.mono accounts.start⟩
    · exact new

theorem Mediated.start (env : AdminEnv) (seed : AdminUser) :
    Mediated env seed (Console.start seed) where
  events := .nil
  jobs _ among := by cases among
  admin := ⟨seed, rfl, .inl rfl⟩
  tracked _ _ found := by cases found
  coded _ _ found := by cases found

theorem mediated_of_reachable
    (reached : Reachable (Console.step env) (Console.start seed) console) :
    Mediated env seed console :=
  reached.invariant (.start env seed) fun mediated _ stepped => mediated.step stepped

/-! ## Authority -/

/-- What a request that administers has behind it: `earlier` happened before it came in, and
`between` before it passed its guard. -/
inductive Authority (env : AdminEnv) (seed : AdminUser) (earlier between : List AdminEvent)
    (admission : Admission) : Prop where
  | apiKey (badge : admission.badge = .apiKey) (configured : env.apiKey ≠ "")
      (presented : admission.request.presentedKey = env.apiKey)
  | session (cookie : String) (session : AdminSession) (login : Credentials) (admin : AdminUser)
      (badge : admission.badge = .session session)
      (given : admission.request.cookie = some cookie)
      (opened : openSession (env.hashSessionID cookie) earlier = some session)
      (alive : session.expired admission.now = false) (csrf : admission.request.csrf ≠ "")
      (issued : .issued session login admin ∈ earlier) (held : Held seed earlier admin)
      (matched : Matches env login admin)
      (changed : ∃ other change old renewed, .saved other change old renewed ∈ earlier ++ between)

theorem issued_of_openSession {idHash : String} {history : List AdminEvent}
    {session : AdminSession} (opened : openSession idHash history = some session) :
    ∃ login admin, .issued session login admin ∈ history := by
  obtain ⟨event, among, written⟩ := exists_of_lastWritten opened
  cases event with
  | issued other login admin =>
      simp only [AdminEvent.grants] at written
      split_ifs at written
      cases written
      exact ⟨login, admin, among⟩
  | cleared other =>
      simp only [AdminEvent.grants] at written
      split_ifs at written
      cases written
  | _ => cases written

theorem isMutating_of_dispatch {method : Method} {path : List String} {route : Route}
    (dispatched : dispatch method path = some route) (mutating : isMutating route.method = true) :
    isMutating method = true := by
  obtain ⟨-, -, same | ⟨-, get⟩⟩ := dispatch_some dispatched
  · rwa [same] at mutating
  · rw [get] at mutating
    cases mutating

/-- Who passes the password gate has changed the password the server was started with. -/
theorem changed_of_admitted (fresh : seed.mustChangePW = true)
    {earlier between : List AdminEvent} {admission other : Admission}
    (warrant : Warrant env seed (earlier ++ [.entered other] ++ between) (.admitted admission))
    (gate : gated admission.route admission.badge = true) :
    ∃ owner change old renewed, .saved owner change old renewed ∈ earlier ++ between := by
  cases warrant with
  | admitted _ _ unlocked =>
      obtain ⟨account, had, done⟩ := unlocked gate
      rcases had with same | ⟨owner, change, old, saved⟩
      · rw [same, fresh] at done
        cases done
      · exact ⟨owner, change, old, account, by simpa using saved⟩

/-- A request that passed the guard of a handler that administers. -/
theorem authority_of_each (fresh : seed.mustChangePW = true)
    {earlier between : List AdminEvent} {admission : Admission}
    (each : EachAfter (Warrant env seed)
      (earlier ++ [.entered admission] ++ between ++ [.admitted admission]))
    (administers : admission.route.handler.administers = true) :
    dispatch admission.request.method admission.request.path = some admission.route ∧
      admission.route.guard = .requireAdmin ∧ Authority env seed earlier between admission := by
  obtain ⟨each, passed⟩ := eachAfter_concat.mp each
  obtain ⟨past, came⟩ := eachAfter_concat.mp (each.of_prefix (List.prefix_append _ _))
  cases came with
  | entered _ entered =>
      have listed := (dispatch_some entered.dispatched).1
      obtain ⟨guard, mutating⟩ := guard_of_administers _ listed administers
      have asked := isMutating_of_dispatch entered.dispatched mutating
      refine ⟨entered.dispatched, guard, ?_⟩
      have shown := entered.shown
      generalize badge : admission.badge = given at shown
      cases shown with
      | apiKey presented =>
          simp only [Request.apiKeyOK, Bool.and_eq_true, decide_eq_true_eq] at presented
          exact .apiKey badge presented.1.1 presented.2
      | session cookie session given opened alive csrf =>
          obtain ⟨login, admin, issued⟩ := issued_of_openSession opened
          obtain ⟨first, rest, same, warrant⟩ := past.of_mem issued
          have changed := changed_of_admitted fresh passed (by rw [badge, gated, guard]; rfl)
          cases warrant with
          | issued _ _ _ held matched _ =>
              exact .session cookie session login admin badge given opened alive (csrf asked)
                issued (held.mono ⟨_, same.symm⟩) matched changed

/-- An act of the administration and the request it was done for. -/
structure Authorized (env : AdminEnv) (seed : AdminUser)
    (earlier between meanwhile : List AdminEvent) (admission : Admission) (action : Action)
    (before : List AdminEvent) : Prop where
  order : before = earlier ++ [.entered admission] ++ between ++ [.admitted admission] ++ meanwhile
  does : Does admission.request admission.route.handler action
  dispatched : dispatch admission.request.method admission.request.path = some admission.route
  guard : admission.route.guard = .requireAdmin
  authority : Authority env seed earlier between admission

theorem authorized_of_each (fresh : seed.mustChangePW = true) {before : List AdminEvent}
    {admission : Admission} {action : Action}
    (each : EachAfter (Warrant env seed) (before ++ [.acted admission action])) :
    ∃ earlier between meanwhile,
      Authorized env seed earlier between meanwhile admission action before := by
  obtain ⟨past, acted⟩ := eachAfter_concat.mp each
  cases acted with
  | acted _ _ passed does =>
      obtain ⟨first, meanwhile, rfl, admitted⟩ := past.of_mem passed
      cases admitted with
      | admitted _ entered _ =>
          obtain ⟨earlier, between, rfl⟩ := List.append_of_mem entered
          have start : EachAfter (Warrant env seed)
              (earlier ++ [.entered admission] ++ between ++ [.admitted admission]) :=
            past.of_prefix ⟨meanwhile, by simp⟩
          obtain ⟨dispatched, guard, authority⟩ := authority_of_each fresh start does.administers
          exact ⟨earlier, between, meanwhile, by simp, does, dispatched, guard, authority⟩

theorem mustChangePW_of_seedAdmin {salt : List UInt8} {now : Time}
    (seeded : env.seedAdmin salt now = some seed) : seed.mustChangePW = true := by
  obtain ⟨passHash, -, rfl⟩ := Option.map_eq_some_iff.mp seeded
  rfl

/-- In every run, an act of the administration is what a request asked for that was on a route
behind `requireAdmin`, and had the authority for it when it came in.  If that was a session, the
password had been changed by the time the request passed its guard. -/
theorem acted_authorized {salt : List UInt8} {seeding : Time}
    (seeded : env.seedAdmin salt seeding = some seed)
    (reached : Reachable (Console.step env) (Console.start seed) console)
    {before later : List AdminEvent} {admission : Admission} {action : Action}
    (split : console.history = before ++ [.acted admission action] ++ later) :
    ∃ earlier between meanwhile,
      Authorized env seed earlier between meanwhile admission action before := by
  have each := (mediated_of_reachable reached).events
  exact authorized_of_each (mustChangePW_of_seedAdmin seeded)
    (each.of_prefix ⟨later, split.symm⟩)

/-- An act in the history of a run, with the request it was done for. -/
def Ordered (env : AdminEnv) (seed : AdminUser) (history : List AdminEvent) (action : Action) :
    Prop :=
  ∃ before later admission earlier between meanwhile,
    history = before ++ [.acted admission action] ++ later ∧
      Authorized env seed earlier between meanwhile admission action before

theorem Mediated.ordered (mediated : Mediated env seed console) (fresh : seed.mustChangePW = true)
    {admission : Admission} {action : Action} (acted : .acted admission action ∈ console.history) :
    Ordered env seed console.history action := by
  obtain ⟨before, later, split⟩ := List.append_of_mem acted
  have each : EachAfter (Warrant env seed) (before ++ [.acted admission action]) :=
    mediated.events.of_prefix ⟨later, by simp [split]⟩
  obtain ⟨earlier, between, meanwhile, authorized⟩ := authorized_of_each fresh each
  exact ⟨before, later, admission, earlier, between, meanwhile, by simp [split], authorized⟩

end Console

/-- The administrator logs in, changes the password and has a pairing code made. -/
def demoInvitation : List AdminMove :=
  demoLogin ++
  [.serve (demoRequest .post ["admin", "password"]
      (some (.object [("current", .string "first"), ("new", .string "second-one")]))) 2,
   .proceed 0 (demoDraw 2 ""), .proceed 0 (demoDraw 2 ""), .proceed 0 (demoDraw 2 ""),
   .serve (demoRequest .post ["admin", "pairing"] none) 3,
   .proceed 0 (demoDraw 3 ""), .proceed 0 (demoDraw 3 "123456"), .proceed 0 (demoDraw 3 ""),
   .proceed 0 (demoDraw 3 "")]

theorem demoSeed_seeded : demoAdminEnv.seedAdmin [] 0 = some demoSeed := by decide

/-- Whether the last event is an act. -/
def Console.lastActs (console : Console) : Bool :=
  match console.history.getLast? with
  | some (.acted _ _) => true
  | _ => false

theorem Console.split_of_lastActs {console : Console} (acts : console.lastActs = true) :
    ∃ before admission action, console.history = before ++ [.acted admission action] ++ [] := by
  rw [Console.lastActs] at acts
  split at acts
  next admission action last =>
    obtain ⟨before, same⟩ := List.getLast?_eq_some_iff.mp last
    exact ⟨before, admission, action, by rw [same, List.append_nil]⟩
  next => cases acts

theorem Console.demoInvitation_authorized :
    ∃ console before admission action, Reachable (Console.step demoAdminEnv)
        (Console.start demoSeed) console ∧
      console.history = before ++ [.acted admission action] ++ [] ∧
      ∃ earlier between meanwhile, Console.Authorized demoAdminEnv demoSeed earlier between
        meanwhile admission action before := by
  obtain ⟨console, reached, acts⟩ := Reachable.exists_of_exec (Console.step demoAdminEnv)
    (Console.start demoSeed) demoInvitation Console.lastActs (by decide +kernel)
  obtain ⟨before, admission, action, split⟩ := Console.split_of_lastActs acts
  exact ⟨console, before, admission, action, reached, split,
    Console.acted_authorized demoSeed_seeded reached split⟩

end CopySync.Server
