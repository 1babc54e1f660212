import CopySync.Server.Admin.Sessions
import CopySync.Server.Relay.Enrollment

/-!
# Complete mediation

Whatever the history holds has its warrant in what came before: an act of the administration a
request that passed its guard, that request a key or an open session, the session a login with
the password of the time, and a change of the password the one before it.
-/

namespace CopySync.Server

open Foundation

/-! ## Warrants -/

/-- What an event makes of the pairing code with a text. -/
def AdminEvent.offers (code : String) : AdminEvent → Option (Option PairingCode)
  | .acted _ (.putPairing pairing) => if pairing.code = code then some (some pairing) else none
  | .paired other _ _ => if other = code then some none else none
  | _ => none

/-- The last pairing code put under a text, unless it was claimed since. -/
def openCode (code : String) (history : List AdminEvent) : Option PairingCode :=
  lastWritten (AdminEvent.offers code) history

/-- An account the administrator has had: the one the server started with, or one that a
change of the password has left. -/
def Held (seed : AdminUser) (before : List AdminEvent) (admin : AdminUser) : Prop :=
  admin = seed ∨ ∃ admission change old, .saved admission change old admin ∈ before

/-- Why a badge was given. -/
inductive Shown (env : AdminEnv) (before : List AdminEvent) (request : Request) (now : Time) :
    Badge → Prop where
  | apiKey (presented : request.apiKeyOK env = true) : Shown env before request now .apiKey
  | session (cookie : String) (session : AdminSession) (given : request.cookie = some cookie)
      (opened : openSession (env.hashSessionID cookie) before = some session)
      (alive : session.expired now = false)
      (csrf : isMutating request.method = true → request.csrf ≠ "") :
      Shown env before request now (.session session)

/-- A request that is for a route with a guard, and has shown what the guard asks for. -/
structure Entered (env : AdminEnv) (before : List AdminEvent) (admission : Admission) : Prop where
  dispatched :
    dispatch admission.request.method admission.request.path = some admission.route
  guarded : admission.route.guard ≠ .unguarded
  shown : Shown env before admission.request admission.now admission.badge

/-- The credentials of a login are those of an account. -/
structure Matches (env : AdminEnv) (login : Credentials) (admin : AdminUser) : Prop where
  named : env.equalFold login.username admin.username = true
  right : env.compare admin.passHash login.password = true

/-- A change of the password that the old one allows. -/
structure Changes (env : AdminEnv) (admission : Admission) (change : PasswordChange)
    (admin : AdminUser) : Prop where
  handler : admission.route.handler = .password
  right : env.compare admin.passHash change.current = true
  long : 8 ≤ change.new.utf8ByteSize

/-- What must have come before an event. -/
inductive Warrant (env : AdminEnv) (seed : AdminUser) (before : List AdminEvent) :
    AdminEvent → Prop where
  | issued (session : AdminSession) (login : Credentials) (admin : AdminUser)
      (held : Held seed before admin) (matched : Matches env login admin)
      (user : session.username = admin.username) :
      Warrant env seed before (.issued session login admin)
  | cleared (admission : Admission) (cookie : String) (passed : .admitted admission ∈ before)
      (handler : admission.route.handler = .logout)
      (given : admission.request.cookie = some cookie) :
      Warrant env seed before (.cleared (env.hashSessionID cookie))
  | entered (admission : Admission) (entered : Entered env before admission) :
      Warrant env seed before (.entered admission)
  | admitted (admission : Admission) (passed : .entered admission ∈ before)
      (unlocked : Console.gated admission.route admission.badge = true →
        ∃ admin, Held seed before admin ∧ admin.mustChangePW = false) :
      Warrant env seed before (.admitted admission)
  | saved (admission : Admission) (change : PasswordChange) (admin renewed : AdminUser)
      (passed : .admitted admission ∈ before) (held : Held seed before admin)
      (changes : Changes env admission change admin)
      (hashed : ∃ salt, env.generate salt change.new = some renewed.passHash)
      (user : renewed.username = admin.username) (done : renewed.mustChangePW = false) :
      Warrant env seed before (.saved admission change admin renewed)
  | acted (admission : Admission) (action : Action) (passed : .admitted admission ∈ before)
      (does : Does admission.request admission.route.handler action) :
      Warrant env seed before (.acted admission action)
  | paired (code : String) (id : DeviceID) (now : Time) (pairing : PairingCode)
      (opened : openCode code before = some pairing) (live : pairing.expired now = false) :
      Warrant env seed before (.paired code id now)

/-! ## Warrants last -/

section Later

variable {env : AdminEnv} {seed : AdminUser} {before history : List AdminEvent}

theorem Held.mono {admin : AdminUser} (held : Held seed before admin)
    (start : before <+: history) : Held seed history admin := by
  rcases held with same | ⟨admission, change, old, saved⟩
  · exact .inl same
  · exact .inr ⟨admission, change, old, start.subset saved⟩

/-- What must have come before a job. -/
def Job.Warranted (env : AdminEnv) (seed : AdminUser) (history : List AdminEvent) : Job → Prop
  | .gate admission => .entered admission ∈ history
  | .run admission => .admitted admission ∈ history
  | .issue login admin => Held seed history admin ∧ Matches env login admin
  | .save admission change admin =>
      .admitted admission ∈ history ∧ Held seed history admin ∧
        Changes env admission change admin
  | .act admission actions =>
      .admitted admission ∈ history ∧
        ∀ action ∈ actions, Does admission.request admission.route.handler action

theorem Job.Warranted.mono {job : Job} (warranted : job.Warranted env seed before)
    (start : before <+: history) : job.Warranted env seed history := by
  cases job with
  | gate admission | run admission => exact start.subset warranted
  | issue login admin => exact ⟨warranted.1.mono start, warranted.2⟩
  | save admission change admin =>
      exact ⟨start.subset warranted.1, warranted.2.1.mono start, warranted.2.2⟩
  | act admission actions => exact ⟨start.subset warranted.1, warranted.2⟩

end Later

namespace Console

variable {env : AdminEnv} {seed : AdminUser} {console after : Console} {move : AdminMove}

/-- The sessions of the store are open. -/
def Tracked (console : Console) : Prop :=
  ∀ idHash session, console.sessions.get? idHash = some session →
    openSession idHash console.history = some session

theorem Tracked.congr (tracked : console.Tracked)
    (fewer : ∀ idHash session, after.sessions.get? idHash = some session →
      console.sessions.get? idHash = some session)
    (same : ∀ idHash, openSession idHash after.history = openSession idHash console.history) :
    after.Tracked := by
  intro idHash session found
  rw [same]
  exact tracked idHash session (fewer idHash session found)

theorem Tracked.step (tracked : console.Tracked) (stepped : console.step env move = some after) :
    after.Tracked := by
  cases takes_of_step stepped with
  | relay action =>
      exact tracked.congr (fun _ _ found => found) fun idHash =>
        lastWritten_append_of_none fun event among => grants_of_pairs idHash among
  | restart | sweep | refuse | login | answer | verify | plan =>
      exact tracked.congr (fun _ _ found => found) fun _ => rfl
  | purge now =>
      refine tracked.congr (fun idHash session found => ?_) fun _ => rfl
      rw [Lifetime.sweep, OrderedMap.get?_filter, Option.filter_eq_some_iff] at found
      exact found.1
  | reap request now cookie session found expired =>
      refine tracked.congr (fun idHash session found => ?_) fun _ => rfl
      rw [OrderedMap.get?_erase] at found
      split_ifs at found
      exact found
  | enter | gate | announce | save | act =>
      exact tracked.congr (fun _ _ found => found) fun _ => lastWritten_concat_of_none rfl
  | logout index draw admission cookie found handler given =>
      intro idHash session found
      rw [record, openSession_cleared]
      rw [record, OrderedMap.get?_erase] at found
      split_ifs at found with same
      rw [if_neg (Ne.symm same)]
      exact tracked idHash session found
  | issue index draw login admin session found issued =>
      intro idHash other found
      rw [record, openSession_issued]
      rw [record, OrderedMap.get?_put] at found
      split_ifs at found with same
      · rw [if_pos same.symm]
        exact found
      · rw [if_neg (Ne.symm same)]
        exact tracked idHash other found

/-! ## Pairing codes -/

/-- The codes that can still be claimed are open. -/
def Coded (console : Console) : Prop :=
  ∀ code entry, console.relay.codes.get? code = some entry → entry.consumed = false →
    openCode code console.history = some entry

theorem offers_of_other {action : Action} (other : action.onPairing = false)
    (admission : Admission) (code : String) :
    AdminEvent.offers code (.acted admission action) = none := by
  cases action with
  | putPairing pairing => cases other
  | _ => rfl

theorem pairs_of_other {action : Action} (other : action.onPairing = false) (env : Env)
    (relay : Relay) : relay.pairs env action = [] := by
  cases action with
  | claimPairing => cases other
  | _ => rfl

theorem Coded.congr (coded : console.Coded)
    (fewer : ∀ code entry, after.relay.codes.get? code = some entry →
      console.relay.codes.get? code = some entry)
    (same : ∀ code, openCode code after.history = openCode code console.history) :
    after.Coded := by
  intro code entry found fresh
  rw [same]
  exact coded code entry (fewer code entry found) fresh

/-- A claim leaves everything as it is, or it consumes a code that is live. -/
theorem claimPairing_pairs {lib : Env} {relay next : Relay}
    {code suffix name platform token : String} {now : Time}
    (stepped : relay.claimPairing lib code suffix name platform token now = some next) :
    (relay.pairs lib (.claimPairing code suffix name platform token now) = [] ∧ next = relay) ∨
    ∃ entry, relay.codes.get? code = some entry ∧ entry.consumed = false ∧
      entry.expired now = false ∧
      relay.pairs lib (.claimPairing code suffix name platform token now) =
        [.paired code ("dev_" ++ suffix) now] ∧
      next.codes = relay.codes.put code { entry with consumedAt := some now } ∧
      ∀ id, id ≠ "dev_" ++ suffix →
        next.daemon.store.tokens.get? id = relay.daemon.store.tokens.get? id := by
  have claim := Relay.claimPairing_some stepped
  simp only [TokenOp.apply, Device.paired] at claim
  simp only [Relay.pairs, Device.paired]
  generalize claimed : Store.claimPairing _ _ _ _ _ _ = outcome at claim ⊢
  cases outcome with
  | ok store =>
      obtain ⟨entry, found, fresh, live, -, same⟩ := Store.claimPairing_ok claimed
      refine .inr ⟨entry, found, fresh, live, rfl, ?_, fun id others => ?_⟩
      · rw [claim, Relay.codes, Relay.withStore, same]
      · rw [claim, Relay.withStore, same]
        exact OrderedMap.get?_put_of_ne _ _ others
  | error refused => exact .inl ⟨rfl, claim⟩

/-- A step of the relay and the pairing it completes. -/
theorem Coded.relay (coded : console.Coded) {action : Action} {relay : Relay}
    (plain : action.administers = false)
    (stepped : console.relay.step env.server action = some relay) :
    ({ console with relay }.record (console.relay.pairs env.server action)).Coded := by
  by_cases other : action.onPairing = false
  · rw [pairs_of_other other]
    refine coded.congr (fun code entry found => ?_) fun code => ?_
    · rwa [← Relay.codes_of_step other stepped]
    · rw [record, List.append_nil]
  · cases action with
    | putPairing pairing => cases plain
    | purgePairing now =>
        cases stepped
        refine coded.congr (fun code entry found => ?_) fun code => ?_
        · simp only [record, Relay.codes, Relay.withStore, Store.purgePairing,
            OrderedMap.get?_filter, Option.filter_eq_some_iff] at found
          exact found.1
        · simp only [record, Relay.pairs, List.append_nil]
    | claimPairing claimed suffix name platform token now =>
        rcases claimPairing_pairs stepped with ⟨none, rfl⟩ |
          ⟨live, -, -, -, pairs, codes, -⟩
        · rw [none]
          exact coded.congr (fun _ _ found => found) fun code => by rw [record, List.append_nil]
        · rw [pairs]
          intro code entry found fresh
          simp only [record, codes, OrderedMap.get?_put] at found
          split_ifs at found with same
          · cases found
            cases fresh
          · rw [record, openCode, lastWritten_concat, AdminEvent.offers, if_neg (Ne.symm same)]
            exact coded code entry found fresh
    | _ => exact absurd rfl other

/-- A step a handler takes for its request. -/
theorem Coded.act (coded : console.Coded) {admission : Admission} {action : Action}
    {relay : Relay} (does : Does admission.request admission.route.handler action)
    (stepped : console.relay.step env.server action = some relay) :
    ({ console with relay }.record [.acted admission action]).Coded := by
  by_cases other : action.onPairing = false
  · refine coded.congr (fun code entry found => ?_) fun code => ?_
    · rwa [← Relay.codes_of_step other stepped]
    · exact lastWritten_concat_of_none (offers_of_other other admission code)
  · cases action with
    | putPairing pairing =>
        cases stepped
        intro code entry found fresh
        simp only [record, Relay.codes, Relay.withStore, Store.putPairing,
          OrderedMap.get?_put] at found
        rw [record, openCode, lastWritten_concat, AdminEvent.offers]
        split_ifs at found with same
        · rw [if_pos same.symm, Option.getD_some]
          exact found
        · rw [if_neg (Ne.symm same)]
          exact coded code entry found fresh
    | purgePairing | claimPairing =>
        generalize admission.route.handler = handler at does
        cases does
    | _ => exact absurd rfl other

theorem Coded.step (coded : console.Coded)
    (planned : ∀ job ∈ console.jobs, job.Warranted env seed console.history)
    (stepped : console.step env move = some after) : after.Coded := by
  cases takes_of_step stepped with
  | relay action relay plain moved => exact coded.relay plain moved
  | restart | purge | sweep | refuse | reap | login | answer | verify | plan =>
      exact coded.congr (fun _ _ found => found) fun _ => rfl
  | enter | gate | logout | issue | save =>
      exact coded.congr (fun _ _ found => found) fun _ => lastWritten_concat_of_none rfl
  | announce index draw admission action relay found does moved =>
      exact (coded.act does moved).congr (fun _ _ found => found) fun _ => rfl
  | act index draw admission action rest relay found moved =>
      have does := (planned _ (List.mem_of_getElem? found)).2 action List.mem_cons_self
      exact (coded.act does moved).congr (fun _ _ found => found) fun _ => rfl

end Console

end CopySync.Server
