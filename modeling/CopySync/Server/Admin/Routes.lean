import CopySync.Foundation.Json
import Mathlib.Data.List.Basic

/-!
# The routes of the HTTP server

`Handler` registers a handler for each method and pattern, the administrative ones behind
`requireSession` or `requireAdmin`.  A literal segment matches itself, a wildcard one
segment that is not empty, and a pattern that ends in a slash every path below it.  The only
pattern that overlaps others is that of the web UI, which comes last.
-/

namespace CopySync.Server

open Foundation

/-- The methods of requests; `other` stands for those no route has. -/
inductive Method where
  | get
  | head
  | post
  | put
  | delete
  | patch
  | other
  deriving DecidableEq, Repr

def isMutating : Method → Bool
  | .post | .put | .delete | .patch => true
  | _ => false

inductive Handler where
  | healthz
  | ws
  | blobPut
  | blobGet
  | telemetryIngest
  | serverInfo
  | pairClaim
  | login
  | logout
  | password
  | me
  | listDevices
  | deleteDevice
  | createPairing
  | getSettings
  | putSettings
  | broadcast
  | monitorStream
  | activity
  | monitorBlob
  | adminTelemetry
  | downloadsIndex
  | downloadFile
  | adminDownloadsList
  | adminDownloadUpload
  | adminDownloadDelete
  | webui
  deriving DecidableEq, Repr

/-- How a handler is wrapped. -/
inductive Guard where
  | unguarded
  | requireSession
  | requireAdmin
  deriving DecidableEq, Repr

inductive Segment where
  | literal (text : String)
  | wildcard
  deriving DecidableEq, Repr

def Segment.matches : Segment → String → Bool
  | .literal text, found => text == found
  | .wildcard, found => found != ""

/-- `subtree` marks a pattern that ends in a slash. -/
structure Pattern where
  segments : List Segment
  subtree : Bool
  deriving DecidableEq, Repr

def matchPath (subtree : Bool) : List Segment → List String → Bool
  | [], rest => subtree || rest.isEmpty
  | _ :: _, [] => false
  | segment :: segments, found :: rest => segment.matches found && matchPath subtree segments rest

/-- A path is given by the segments between its slashes. -/
def Pattern.matches (pattern : Pattern) (path : List String) : Bool :=
  matchPath pattern.subtree pattern.segments path

structure Route where
  method : Method
  pattern : Pattern
  guard : Guard
  handler : Handler
  deriving DecidableEq, Repr

/-- A pattern of literal segments. -/
def literals (texts : List String) : Pattern := ⟨texts.map .literal, false⟩

/-- A pattern that ends in a wildcard. -/
def wildcardAfter (texts : List String) : Pattern := ⟨texts.map .literal ++ [.wildcard], false⟩

/-- The routes, in the order in which they are registered. -/
def routes : List Route :=
  [⟨.get, literals ["healthz"], .unguarded, .healthz⟩,
   ⟨.get, literals ["ws"], .unguarded, .ws⟩,
   ⟨.put, wildcardAfter ["blob"], .unguarded, .blobPut⟩,
   ⟨.get, wildcardAfter ["blob"], .unguarded, .blobGet⟩,
   ⟨.head, wildcardAfter ["blob"], .unguarded, .blobGet⟩,
   ⟨.post, literals ["telemetry"], .unguarded, .telemetryIngest⟩,
   ⟨.get, literals ["pair", "serverinfo"], .unguarded, .serverInfo⟩,
   ⟨.post, literals ["pair", "claim"], .unguarded, .pairClaim⟩,
   ⟨.post, literals ["admin", "login"], .unguarded, .login⟩,
   ⟨.post, literals ["admin", "logout"], .requireSession, .logout⟩,
   ⟨.post, literals ["admin", "password"], .requireSession, .password⟩,
   ⟨.get, literals ["admin", "me"], .requireSession, .me⟩,
   ⟨.get, literals ["admin", "devices"], .requireAdmin, .listDevices⟩,
   ⟨.delete, wildcardAfter ["admin", "devices"], .requireAdmin, .deleteDevice⟩,
   ⟨.post, literals ["admin", "pairing"], .requireAdmin, .createPairing⟩,
   ⟨.get, literals ["admin", "settings"], .requireAdmin, .getSettings⟩,
   ⟨.put, literals ["admin", "settings"], .requireAdmin, .putSettings⟩,
   ⟨.post, literals ["admin", "broadcast"], .requireAdmin, .broadcast⟩,
   ⟨.get, literals ["admin", "monitor", "stream"], .requireAdmin, .monitorStream⟩,
   ⟨.get, literals ["admin", "monitor", "activity"], .requireAdmin, .activity⟩,
   ⟨.get, wildcardAfter ["admin", "monitor", "blob"], .requireAdmin, .monitorBlob⟩,
   ⟨.get, literals ["admin", "telemetry"], .requireAdmin, .adminTelemetry⟩,
   ⟨.get, literals ["downloads", ""], .unguarded, .downloadsIndex⟩,
   ⟨.get, wildcardAfter ["downloads"], .unguarded, .downloadFile⟩,
   ⟨.get, literals ["admin", "downloads"], .requireAdmin, .adminDownloadsList⟩,
   ⟨.post, literals ["admin", "downloads"], .requireAdmin, .adminDownloadUpload⟩,
   ⟨.delete, wildcardAfter ["admin", "downloads"], .requireAdmin, .adminDownloadDelete⟩,
   ⟨.get, ⟨[], true⟩, .unguarded, .webui⟩]

/-- The route of a request: a pattern of `GET` also serves `HEAD` where none of its own
does. -/
def dispatch (method : Method) (path : List String) : Option Route :=
  let served (method : Method) :=
    routes.find? fun route => route.method == method && route.pattern.matches path
  match served method with
  | some route => some route
  | none => if method = .head then served .get else none

/-! ## What the table says -/

/-- Handlers that change devices, settings or codes, or send to every device. -/
def Handler.administers : Handler → Bool
  | .deleteDevice | .createPairing | .putSettings | .broadcast => true
  | _ => false

theorem dispatch_some {method : Method} {path : List String} {route : Route}
    (dispatched : dispatch method path = some route) :
    route ∈ routes ∧ route.pattern.matches path = true ∧
      (route.method = method ∨ method = .head ∧ route.method = .get) := by
  have served (asked : Method)
      (found : routes.find? (fun route => route.method == asked && route.pattern.matches path) =
        some route) :
      route ∈ routes ∧ route.pattern.matches path = true ∧ route.method = asked := by
    have holds := List.find?_some found
    simp only [Bool.and_eq_true, beq_iff_eq] at holds
    exact ⟨List.mem_of_find?_eq_some found, holds.2, holds.1⟩
  simp only [dispatch] at dispatched
  split at dispatched
  next other found =>
    cases dispatched
    obtain ⟨listed, matched, same⟩ := served method found
    exact ⟨listed, matched, .inl same⟩
  next =>
    split_ifs at dispatched with head
    obtain ⟨listed, matched, same⟩ := served .get dispatched
    exact ⟨listed, matched, .inr ⟨head, same⟩⟩

/-- Whoever administers is behind `requireAdmin`, and asks with a mutating method. -/
theorem guard_of_administers : ∀ route ∈ routes, route.handler.administers = true →
    route.guard = .requireAdmin ∧ isMutating route.method = true := by
  decide

end CopySync.Server
