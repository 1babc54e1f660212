import CopySync.Foundation.Expiry
import CopySync.Foundation.GoJson
import CopySync.Foundation.Unicode
import CopySync.Server.Admin.Routes
import CopySync.Server.Lifetimes
import CopySync.Server.RateLimit

/-!
# The administration of the server

The account of the administrator, the sessions, and the handlers behind the guards of the
router.  Every request is served by a goroutine of its own, and what a handler reads, decides
and writes are steps between which others run: a job is what is left to do for a request.
The relay takes its other steps in between.

The history keeps what was granted and done; no step reads it.  What the hub caches of saved
settings it stores in a step of its own.
-/

namespace CopySync.Server

open Foundation GoJson

/-! ## Requests -/

/-- `cookie` is the value of the session cookie, and a header that is missing is empty.  The
body is its first JSON value, if it has one. -/
structure Request where
  method : Method
  path : List String
  remoteAddr : String
  cookie : Option String
  apiKeyHeader : String
  authorization : String
  csrf : String
  body : Option Json

/-- The status and the error code of a response; the code is empty on success. -/
structure Answer where
  status : Nat
  code : String
  deriving DecidableEq, Repr

structure AdminUser where
  username : String
  passHash : List UInt8
  mustChangePW : Bool
  updatedAt : Time
  deriving DecidableEq, Repr

/-- The configuration, and the libraries the administration depends on: `bcrypt` with the
salt it draws, `strings.EqualFold`, and the hash under which a session is stored. -/
structure AdminEnv where
  server : Env
  configuredKey : String
  adminUser : String
  adminPass : String
  generate : List UInt8 → String → Option (List UInt8)
  compare : List UInt8 → String → Bool
  equalFold : String → String → Bool
  hashSessionID : String → String

/-- The account a new store is given. -/
def AdminEnv.seedAdmin (env : AdminEnv) (salt : List UInt8) (now : Time) : Option AdminUser :=
  (env.generate salt env.adminPass).map fun passHash =>
    { username := env.adminUser, passHash, mustChangePW := true, updatedAt := now }

/-- The API key, ignored when it is too short. -/
def AdminEnv.apiKey (env : AdminEnv) : String :=
  if env.configuredKey.utf8ByteSize < 24 then "" else env.configuredKey

namespace Request

/-- The key a request presents: the header of its own, else a bearer token. -/
def presentedKey (request : Request) : String :=
  if request.apiKeyHeader ≠ "" then request.apiKeyHeader
  else
    match request.authorization.toList.dropPrefix? "Bearer ".toList with
    | some rest => String.ofList (trimBy isWhiteSpace rest)
    | none => ""

def apiKeyOK (env : AdminEnv) (request : Request) : Bool :=
  decide (env.apiKey ≠ "") && decide (request.presentedKey ≠ "") &&
    decide (request.presentedKey = env.apiKey)

/-- The last segment of the path. -/
def pathValue (request : Request) : String := request.path.getLast?.getD ""

end Request

/-! ## Bodies -/

structure Credentials where
  username : String
  password : String
  deriving DecidableEq, Repr

def credentialFields : Fields Credentials :=
  [("username", field (·.username) (fun login username => { login with username }) decodeString),
   ("password", field (·.password) (fun login password => { login with password }) decodeString)]

structure PasswordChange where
  current : String
  new : String
  deriving DecidableEq, Repr

def passwordFields : Fields PasswordChange :=
  [("current", field (·.current) (fun change current => { change with current }) decodeString),
   ("new", field (·.new) (fun change new => { change with new }) decodeString)]

structure BroadcastText where
  text : String
  deriving DecidableEq, Repr

def broadcastFields : Fields BroadcastText :=
  [("text", field (·.text) (fun _ text => ⟨text⟩) decodeString)]

/-- The settings a body is decoded over, with what is behind the length of the slice of
pools. -/
structure SettingsTarget where
  settings : RuntimeSettings
  poolsSpare : List String

def settingsField {α : Type} (get : RuntimeSettings → α)
    (set : RuntimeSettings → α → RuntimeSettings) (decode : Decoder α) : Decoder SettingsTarget :=
  field (fun target => get target.settings)
    (fun target value => { target with settings := set target.settings value }) decode

def settingsFields : Fields SettingsTarget :=
  [("maxMessageBytes",
      settingsField (·.maxMessageBytes) (fun old maxMessageBytes => { old with maxMessageBytes })
        decodeInt64),
   ("blobMaxBytes",
      settingsField (·.blobMaxBytes) (fun old blobMaxBytes => { old with blobMaxBytes })
        decodeInt64),
   ("onDemandThresholdBytes",
      settingsField (·.onDemandThresholdBytes)
        (fun old onDemandThresholdBytes => { old with onDemandThresholdBytes }) decodeInt64),
   ("blobStoreCapBytes",
      settingsField (·.blobStoreCapBytes)
        (fun old blobStoreCapBytes => { old with blobStoreCapBytes }) decodeInt64),
   ("queueDepthPerDevice",
      settingsField (·.queueDepthPerDevice)
        (fun old queueDepthPerDevice => { old with queueDepthPerDevice }) decodeInt64),
   ("queueItemTtlSeconds",
      settingsField (·.queueItemTTLSeconds)
        (fun old queueItemTTLSeconds => { old with queueItemTTLSeconds }) decodeInt64),
   ("blobTtlSeconds",
      settingsField (·.blobTTLSeconds) (fun old blobTTLSeconds => { old with blobTTLSeconds })
        decodeInt64),
   ("e2eEnabled",
      settingsField (·.e2eEnabled) (fun old e2eEnabled => { old with e2eEnabled }) decodeBool),
   ("allowServerBroadcast",
      settingsField (·.allowServerBroadcast)
        (fun old allowServerBroadcast => { old with allowServerBroadcast }) decodeBool),
   ("sessionTtlSeconds",
      settingsField (·.sessionTTLSeconds)
        (fun old sessionTTLSeconds => { old with sessionTTLSeconds }) decodeInt64),
   ("pairingCodeTtlSeconds",
      settingsField (·.pairingCodeTTLSeconds)
        (fun old pairingCodeTTLSeconds => { old with pairingCodeTTLSeconds }) decodeInt64),
   ("pools",
      field (fun target => ⟨some target.settings.pools, target.poolsSpare⟩)
        (fun target slice =>
          ⟨{ target.settings with pools := slice.elements.getD [] }, slice.spare⟩)
        (decodeSlice decodeString "")),
   ("tokenRotateDays",
      settingsField (·.tokenRotateDays) (fun old tokenRotateDays => { old with tokenRotateDays })
        decodeInt64),
   ("downloadsEnabled",
      settingsField (·.downloadsEnabled)
        (fun old downloadsEnabled => { old with downloadsEnabled }) decodeBool)]

/-- The body of `PUT /admin/settings` over the current settings. -/
def decodeSettings (body : Option Json) (current : RuntimeSettings) : Option RuntimeSettings :=
  body.bind fun json => (decodeStruct settingsFields json ⟨current, []⟩).map (·.settings)

/-! ## Jobs -/

/-- What let a request pass its guard. -/
inductive Badge where
  | apiKey
  | session (granted : AdminSession)
  deriving DecidableEq, Repr

/-- A request with the handler it is for, and when and how it passed. -/
structure Admission where
  request : Request
  route : Route
  badge : Badge
  now : Time

/-- What is left to do for a request: `gate` is the end of its guard, `run` the handler, `issue`
the session of a login, `save` the new password, and `act` the steps of the relay that the
handler still takes. -/
inductive Job where
  | gate (admission : Admission)
  | run (admission : Admission)
  | issue (login : Credentials) (admin : AdminUser)
  | save (admission : Admission) (change : PasswordChange) (admin : AdminUser)
  | act (admission : Admission) (actions : List Action)

inductive AdminEvent where
  | issued (session : AdminSession) (login : Credentials) (admin : AdminUser)
  | cleared (idHash : String)
  | entered (admission : Admission)
  | admitted (admission : Admission)
  | saved (admission : Admission) (change : PasswordChange) (admin renewed : AdminUser)
  | acted (admission : Admission) (action : Action)
  | paired (code : String) (id : DeviceID) (now : Time)

structure Console where
  relay : Relay
  admin : Option AdminUser
  sessions : OrderedMap String AdminSession
  loginLimiter : IpLimiter requestLimit
  jobs : List Job
  history : List AdminEvent

/-- A session counts until it expires. -/
def sessionLife : Lifetime Time AdminSession where
  gone now session := session.expired now
  mono {_ _ _} passed expired := by
    simp only [AdminSession.expired, decide_eq_true_eq] at expired ⊢
    exact expired.trans_le passed

namespace Console

/-- A new store with the account it is given. -/
def start (seed : AdminUser) : Console where
  relay := .boot .empty
  admin := some seed
  sessions := .empty
  loginLimiter := newIPLimiter requestLimit
  jobs := []
  history := []

variable (env : AdminEnv) (console : Console)

def record (events : List AdminEvent) : Console :=
  { console with history := console.history ++ events }

def enqueue (job : Job) : Console := { console with jobs := console.jobs ++ [job] }

/-- `currentSession`: the session of the cookie; one that is over is deleted. -/
def currentSession (request : Request) (now : Time) : Option AdminSession × Console :=
  match request.cookie with
  | none => (none, console)
  | some cookie =>
      let idHash := env.hashSessionID cookie
      match console.sessions.get? idHash with
      | none => (none, console)
      | some session =>
          if session.expired now then
            (none, { console with sessions := console.sessions.erase idHash })
          else (some session, console)

/-- `handleLogin`, up to where the credentials are found right. -/
def login (request : Request) (now : Time) : Console × Option Answer :=
  let (allowed, loginLimiter) := console.loginLimiter.allow request.remoteAddr now
  let limited := { console with loginLimiter }
  if !allowed then (limited, some ⟨429, "rate_limited"⟩)
  else
    match request.body.bind fun json => decodeStruct credentialFields json ⟨"", ""⟩ with
    | none => (limited, some ⟨400, "bad_request"⟩)
    | some credentials =>
        match limited.admin with
        | none => (limited, some ⟨401, "unauthorized"⟩)
        | some admin =>
            if !env.equalFold credentials.username admin.username ||
                !env.compare admin.passHash credentials.password then
              (limited, some ⟨401, "unauthorized"⟩)
            else (limited.enqueue (.issue credentials admin), none)

/-- `requireAdmin` enforces the password gate, for who has no API key. -/
def gated (route : Route) : Badge → Bool
  | .apiKey => false
  | .session _ => route.guard == .requireAdmin

/-- The console once a request has shown its badge. -/
def enter (admission : Admission) : Console :=
  (console.enqueue (.gate admission)).record [.entered admission]

/-- `withSession`, up to the password gate. -/
def withSession (route : Route) (request : Request) (now : Time) : Console × Option Answer :=
  if request.apiKeyOK env then (console.enter ⟨request, route, .apiKey, now⟩, none)
  else
    match console.currentSession env request now with
    | (none, looked) => (looked, some ⟨401, "unauthorized"⟩)
    | (some session, looked) =>
        if isMutating request.method && decide (request.csrf = "") then
          (looked, some ⟨403, "csrf"⟩)
        else (looked.enter ⟨request, route, .session session, now⟩, none)

/-- A request arrives.  What is not behind a guard is served elsewhere, but for the login. -/
def serve (request : Request) (now : Time) : Console × Option Answer :=
  match dispatch request.method request.path with
  | none => (console, some ⟨405, ""⟩)
  | some route =>
      match route.guard with
      | .unguarded =>
          if route.handler = .login then console.login env request now else (console, none)
      | _ => console.withSession env route request now

/-! ### Handlers -/

/-- What a step of a task draws: the time, an id or a code, and the salt of `bcrypt`. -/
structure Draw where
  now : Time
  id : String
  salt : List UInt8

/-- A request is answered, or its job goes on. -/
abbrev Progress := Except Answer Job

def logout (request : Request) : Console × Progress :=
  match request.cookie with
  | none => (console, .error ⟨200, ""⟩)
  | some cookie =>
      let idHash := env.hashSessionID cookie
      ({ console with sessions := console.sessions.erase idHash }.record [.cleared idHash],
        .error ⟨200, ""⟩)

/-- `handlePassword`, up to where the current password is found right. -/
def password (admission : Admission) : Progress :=
  match admission.request.body.bind fun json => decodeStruct passwordFields json ⟨"", ""⟩ with
  | none => .error ⟨400, "bad_request"⟩
  | some change =>
      if change.new.utf8ByteSize < 8 then .error ⟨400, "weak_password"⟩
      else
        match console.admin with
        | none => .error ⟨500, "internal"⟩
        | some admin =>
            if env.compare admin.passHash change.current then .ok (.save admission change admin)
            else .error ⟨401, "unauthorized"⟩

/-- A step of the relay that a handler takes. -/
def act (admission : Admission) (action : Action) : Option Console :=
  (console.relay.step env.server action).map fun relay =>
    { console with relay }.record [.acted admission action]

/-- `handleBroadcast`: the hub takes the text while the settings allow it. -/
def broadcast (admission : Admission) (draw : Draw) : Option (Console × Progress) :=
  let settings := console.relay.daemon.store.getSettings
  if settings.e2eEnabled || !settings.allowServerBroadcast then
    some (console, .error ⟨403, "broadcast_disabled"⟩)
  else
    match admission.request.body.bind fun json => decodeStruct broadcastFields json ⟨""⟩ with
    | none => some (console, .error ⟨400, "bad_request"⟩)
    | some ⟨text⟩ =>
        if text = "" then some (console, .error ⟨400, "bad_request"⟩)
        else
          (console.act env admission (.broadcast draw.id text draw.now)).map fun console =>
            (console, .error ⟨200, ""⟩)

/-- What a handler reads and decides. -/
def run (admission : Admission) (draw : Draw) : Option (Console × Progress) :=
  let settings := console.relay.daemon.store.getSettings
  match admission.route.handler with
  | .logout => some (console.logout env admission.request)
  | .password => some (console, console.password env admission)
  | .me =>
      some (console, .error (if console.admin.isSome then ⟨200, ""⟩ else ⟨401, "unauthorized"⟩))
  | .createPairing =>
      some (console, .ok (.act admission [.putPairing (createPairing settings draw.id draw.now)]))
  | .deleteDevice =>
      let id := admission.request.pathValue
      some (console,
        if id = "" then .error ⟨400, "bad_request"⟩
        else .ok (.act admission [.deleteDevice id, .evict id]))
  | .putSettings =>
      some (console,
        match decodeSettings admission.request.body settings with
        | none => .error ⟨400, "bad_request"⟩
        | some changed => .ok (.act admission [.putSettings changed, .loadSettings]))
  | .broadcast => console.broadcast env admission draw
  | _ => some (console, .error ⟨200, ""⟩)

/-- The next step of a job. -/
def advance (draw : Draw) : Job → Option (Console × Progress)
  | .gate admission =>
      if gated admission.route admission.badge && console.admin.any (·.mustChangePW) then
        some (console, .error ⟨409, "must_change_password"⟩)
      else some (console.record [.admitted admission], .ok (.run admission))
  | .run admission => console.run env admission draw
  | .issue login admin =>
      let settings := console.relay.daemon.store.getSettings
      let session := issueSession settings (env.hashSessionID draw.id) admin.username draw.now
      some ({ console with sessions := console.sessions.put session.idHash session }.record
        [.issued session login admin], .error ⟨200, ""⟩)
  | .save admission change admin =>
      match env.generate draw.salt change.new with
      | none => some (console, .error ⟨500, "internal"⟩)
      | some passHash =>
          let renewed := { admin with passHash, mustChangePW := false, updatedAt := draw.now }
          some ({ console with admin := some renewed }.record
            [.saved admission change admin renewed], .error ⟨200, ""⟩)
  | .act _ [] => some (console, .error ⟨200, ""⟩)
  | .act admission (action :: rest) =>
      (console.act env admission action).map fun console => (console, .ok (.act admission rest))

/-- A job goes on, or ends with its answer. -/
def settle (index : Nat) : Progress → Console × Option Answer
  | .ok job => ({ console with jobs := console.jobs.set index job }, none)
  | .error answer => ({ console with jobs := console.jobs.eraseIdx index }, some answer)

/-- One of the running jobs takes its next step. -/
def proceed (index : Nat) (draw : Draw) : Option (Console × Option Answer) :=
  match console.jobs[index]? with
  | none => none
  | some job =>
      (console.advance env draw job).map fun (console, progress) => console.settle index progress

end Console

/-! ## The machine -/

/-- Steps of the relay that only handlers of the administration take. -/
def Action.administers : Action → Bool
  | .deleteDevice _ | .evict _ | .putSettings _ | .loadSettings | .broadcast .. | .putPairing _ =>
      true
  | _ => false

/-- The pairing a step of the relay completes. -/
def Relay.pairs (env : Env) (relay : Relay) : Action → List AdminEvent
  | .claimPairing code suffix name platform token now =>
      match relay.daemon.store.claimPairing env.lib code now (.paired suffix name platform now)
          ⟨"dev_" ++ suffix, env.hasher.hashToken token, "", now, false⟩ with
      | .ok _ => [.paired code ("dev_" ++ suffix) now]
      | .error _ => []
  | _ => []

inductive AdminMove where
  | relay (action : Action)
  | restart
  | serve (request : Request) (now : Time)
  | proceed (index : Nat) (draw : Console.Draw)
  | purgeSessions (now : Time)
  | sweepLimiter (now : Time)

namespace Console

/-- A step and the response it sends, if it sends one. -/
def respond (env : AdminEnv) (console : Console) : AdminMove → Option (Console × Option Answer)
  | .relay action =>
      if action.administers then none
      else
        (console.relay.step env.server action).map fun relay =>
          ({ console with relay }.record (console.relay.pairs env.server action), none)
  | .restart =>
      some ({ console with
        relay := console.relay.restart
        jobs := []
        loginLimiter := newIPLimiter requestLimit }, none)
  | .serve request now => some (console.serve env request now)
  | .proceed index draw => console.proceed env index draw
  | .purgeSessions now =>
      some ({ console with sessions := sessionLife.sweep console.sessions now }, none)
  | .sweepLimiter now =>
      some ({ console with loginLimiter := console.loginLimiter.sweep now }, none)

def step (env : AdminEnv) (console : Console) (move : AdminMove) : Option Console :=
  (console.respond env move).map (·.1)

end Console

end CopySync.Server
