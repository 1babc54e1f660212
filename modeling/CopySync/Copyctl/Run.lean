import CopySync.Client.E2e
import CopySync.Foundation.OrderedMap
import CopySync.Foundation.Transition
import CopySync.Foundation.Utf8
import CopySync.Server.Types
import Mathlib.Data.String.Basic

/-!
# copyctl: the clipboard sync loop

`cmdRun` of the command-line client.  One goroutine reads frames: it marks the digest a
text clip announces, writes the clip's text to the clipboard and records the clip.  The
other polls the clipboard and broadcasts what changed, unless its digest was marked in
the last ten seconds or the privacy filter blocks it.

The clipboard holds bytes.  `written` lists what was handed to the clipboard, `sent` the
frames handed to the socket and `received` the clips that arrived, oldest first.
-/

namespace CopySync.Copyctl

open Foundation Client
open Server (ClipEvent Targets Time)

/-! ## The client -/

/-- Cryptography, the directory of received blobs, the device's id, and the privacy filter
with the compiled patterns, when it is on. -/
structure Env where
  prims : Primitives
  saveDir : Path
  deviceID : String
  classify : Option (Bytes → Bool)

/-- A line of `history.jsonl`. -/
structure HistEntry where
  dir : String
  origin : String
  text : Bytes
  blob : String
  deriving DecidableEq, Repr

/-- The end-to-end key, if any, with its fingerprint, and the digests marked by the echo
guard with the time of the last mark. -/
structure Client where
  key : Option Bytes
  kid : String
  seq : Nat
  seenAt : OrderedMap String Time

namespace Client

def new (prims : Primitives) (e2ePass serverID : String) : Client :=
  let key :=
    if e2ePass ≠ "" ∧ serverID ≠ "" then some (prims.deriveKey e2ePass serverID) else none
  { key, kid := key.elim "" (E2e.keyId prims), seq := 0, seenAt := .empty }

variable (env : Env) (client : Client)

/-- How long a marked digest is recognised. -/
def echoWindow : Server.Duration := 10 * 10 ^ 9

def markWritten (sha : String) (now : Time) : Client :=
  { client with seenAt := client.seenAt.put sha now }

def seen (sha : String) (now : Time) : Bool :=
  (client.seenAt.get? sha).any fun time => decide (Time.sub now time < echoWindow)

/-- The sender names a key other than ours. -/
def foreignKey (enc : Server.EncMeta) : Bool := enc.keyID != "" && enc.keyID != client.kid

/-- `decryptBytes`, and `decryptText` once the text is decoded. -/
def decryptBytes (event : ClipEvent) (data : Bytes) : Option Bytes :=
  match client.key, event.enc with
  | some key, some enc =>
      if client.foreignKey enc then none else E2e.openPayload env.prims key data
  | _, _ => none

def decryptText (event : ClipEvent) : Option Bytes :=
  match env.prims.decodeBase64 event.inlineText with
  | .ok raw => client.decryptBytes env event raw
  | .error _ => none

def e2eWhy (event : ClipEvent) : String :=
  if client.key.isNone then "no passphrase"
  else if event.enc.any client.foreignKey then "key mismatch"
  else "cannot decrypt"

/-- The text of a clip as this client can read it. -/
def plaintext (event : ClipEvent) : Option Bytes :=
  if event.enc.isSome then client.decryptText env event else some (bytesOf event.inlineText)

end Client

/-! ## Received clips -/

/-- What `handleIncoming` prints: a text, a text or blob it cannot decrypt and why, a blob
that could not be fetched, or where a blob was stored, whether its bytes have the clip's
address, and whether they were decrypted. -/
inductive Line where
  | text (origin : String) (text : Bytes)
  | ciphertext (origin why : String)
  | downloadFailed (origin blob error : String)
  | sealedBlob (origin : String) (size : Nat) (why : String)
  | blob (origin : String) (size : Nat) (path : Path) (intact decrypted : Bool)
  | empty (origin : String)
  deriving DecidableEq, Repr

/-- The text of a path. -/
def pathText (path : Path) : Bytes :=
  (if path.rooted then [47] else []) ++ List.intercalate [47] path.components

/-- Record and print a received clip; a blob comes with what the blob channel returns.  A
file to store is part of the result. -/
def handleIncoming (env : Env) (client : Client) (event : ClipEvent)
    (fetched : Except String Bytes) : Line × Option HistEntry × Option (Path × Bytes) :=
  if event.inlineText ≠ "" then
    match client.plaintext env event with
    | some text => (.text event.originDevice text, some ⟨"in", event.originDevice, text, ""⟩, none)
    | none => (.ciphertext event.originDevice (client.e2eWhy event), none, none)
  else if event.blobID ≠ "" then
    match fetched with
    | .error error => (.downloadFailed event.originDevice event.blobID error, none, none)
    | .ok data =>
        let want := hexOf event.blobID
        let intact := decide (bytesOf (env.prims.sha256Hex data) = want)
        let path := env.saveDir.join (want ++ bytesOf ".blob")
        let stored (content : Bytes) (decrypted : Bool) :=
          (Line.blob event.originDevice content.length path intact decrypted,
            some ⟨"in", event.originDevice, bytesOf "(blob) " ++ pathText path, event.blobID⟩,
            some (path, content))
        if event.enc.isSome then
          match client.decryptBytes env event data with
          | some plain => stored plain true
          | none =>
              (.sealedBlob event.originDevice data.length (client.e2eWhy event), none, none)
        else stored data false
  else (.empty event.originDevice, none, none)

/-! ## The loop -/

/-- What `pollWatch` compares a reading with. -/
structure Watch where
  last : Bytes
  first : Bool
  deriving DecidableEq, Repr

namespace Watch

def start : Watch := ⟨[], true⟩

/-- Whether a reading is passed to the callback; the first one is not. -/
def reports (watch : Watch) (text : Bytes) : Bool := !watch.first && decide (text ≠ watch.last)

def read (watch : Watch) (text : Bytes) : Watch :=
  if watch.first || decide (text ≠ watch.last) then ⟨text, false⟩ else watch

end Watch

/-- What sending one clip draws, and whether the socket takes the frame. -/
structure Sending where
  id : String
  ts : String
  nonce : Nonce
  targets : Targets
  accepted : Bool
  deriving DecidableEq, Repr

structure Session where
  client : Client
  watch : Watch
  clock : Time
  received : List (ClipEvent × Time)
  written : List Bytes
  lines : List Line
  files : List (Path × Bytes)
  history : List HistEntry
  sent : List ClipEvent

/-- A frame with a clip, or a tick of the poller with what the clipboard holds, if it can
be read. -/
inductive Action where
  | receive (event : ClipEvent) (fetched : Except String Bytes) (now : Time)
  | poll (reading : Option Bytes) (now : Time) (sending : Sending)
  deriving DecidableEq, Repr

namespace Session

def start (client : Client) : Session where
  client
  watch := .start
  clock := Time.zero
  received := []
  written := []
  lines := []
  files := []
  history := []
  sent := []

variable (env : Env) (session : Session)

/-- The body of the receiving loop. -/
def receive (event : ClipEvent) (fetched : Except String Bytes) (now : Time) : Session :=
  let marked :=
    if event.inlineText ≠ "" then
      { session with
        client := session.client.markWritten event.sha256 now
        written := session.written ++ [bytesOf event.inlineText] }
    else session
  let (line, entry, file) := handleIncoming env marked.client event fetched
  { marked with
    received := session.received ++ [(event, now)]
    lines := session.lines ++ [line]
    history := session.history ++ entry.toList
    files := session.files ++ file.toList }

/-- The frame of a text, sealed when a key is set; a failing `seal` is the only error. -/
def textClip (seq : Nat) (text : Bytes) (sending : Sending) : Option ClipEvent :=
  let event : ClipEvent :=
    { id := sending.id
      originDevice := ""
      seq
      ts := sending.ts
      mime := some ["text/plain"]
      inlineText := String.ofList (runes text)
      html := ""
      blobID := ""
      name := ""
      onDemand := false
      size := text.length
      sha256 := env.prims.sha256Hex text
      targets := sending.targets
      enc := none }
  match session.client.key with
  | none => some event
  | some key =>
      (E2e.sealPayload env.prims key sending.nonce text).map fun raw =>
        { event with
          inlineText := env.prims.encodeBase64 raw
          sha256 := env.prims.sha256Hex raw
          enc := some ⟨E2e.alg, session.client.kid, ""⟩ }

/-- Whether `seal` fails on a text. -/
def sealFails (text : Bytes) (nonce : Nonce) : Bool :=
  session.client.key.any fun key => (E2e.sealPayload env.prims key nonce text).isNone

/-- Send a text; only a frame the socket took is recorded. -/
def sendText (text : Bytes) (sending : Sending) : Session :=
  let numbered := { session with client := { session.client with seq := session.client.seq + 1 } }
  match numbered.textClip env numbered.client.seq text sending with
  | none => numbered
  | some event =>
      { numbered with
        sent := numbered.sent ++ [event]
        history :=
          if sending.accepted then numbered.history ++ [⟨"out", env.deviceID, text, ""⟩]
          else numbered.history }

/-- Whether the privacy filter blocks a text. -/
def blocks (text : Bytes) : Bool := env.classify.any fun sensitive => sensitive text

/-- The callback of the watch. -/
def onChange (text : Bytes) (now : Time) (sending : Sending) : Session :=
  if session.client.seen (env.prims.sha256Hex text) now then session
  else if blocks env text then session
  else session.sendText env text sending

def poll (reading : Option Bytes) (now : Time) (sending : Sending) : Session :=
  match reading with
  | none => session
  | some text =>
      let read := { session with watch := session.watch.read text }
      if session.watch.reports text then read.onChange env text now sending else read

/-- One turn of either goroutine; the clock does not run backwards. -/
def step : Action → Option Session
  | .receive event fetched now =>
      if session.clock ≤ now then
        some { session.receive env event fetched now with clock := now }
      else none
  | .poll reading now sending =>
      if session.clock ≤ now then
        some { session.poll env reading now sending with clock := now }
      else none

end Session

/-! ## The echo guard -/

section Guard

variable {env : Env} {session after : Session} {action : Action}

/-- A text clip that announces a digest arrived less than the window ago. -/
def Session.Vouched (session : Session) (sha : String) (now : Time) : Prop :=
  ∃ event time, (event, time) ∈ session.received ∧ event.inlineText ≠ "" ∧
    event.sha256 = sha ∧ now - time < Client.echoWindow

/-- What is marked is what arrived, under its latest time. -/
structure Marked (session : Session) : Prop where
  arrived : ∀ sha time, session.client.seenAt.get? sha = some time →
    ∃ event, (event, time) ∈ session.received ∧ event.inlineText ≠ "" ∧ event.sha256 = sha
  latest : ∀ event time, (event, time) ∈ session.received → event.inlineText ≠ "" →
    ∃ marked, session.client.seenAt.get? event.sha256 = some marked ∧ time ≤ marked
  past : ∀ event time, (event, time) ∈ session.received → time ≤ session.clock

theorem Marked.start (client : Client) (fresh : client.seenAt = .empty) :
    Marked (.start client) where
  arrived sha time present := by simp [Session.start, fresh] at present
  latest event time membership := by cases membership
  past event time membership := by cases membership

/-- Sending leaves alone what was marked, received and written. -/
theorem sendText_marks (session : Session) (text : Bytes) (sending : Sending) :
    (session.sendText env text sending).client.seenAt = session.client.seenAt ∧
      (session.sendText env text sending).received = session.received ∧
      (session.sendText env text sending).written = session.written := by
  unfold Session.sendText
  dsimp only
  split <;> exact ⟨rfl, rfl, rfl⟩

/-- So does a poll. -/
theorem poll_marks (session : Session) (reading : Option Bytes) (now : Time)
    (sending : Sending) :
    (session.poll env reading now sending).client.seenAt = session.client.seenAt ∧
      (session.poll env reading now sending).received = session.received ∧
      (session.poll env reading now sending).written = session.written := by
  cases reading with
  | none => exact ⟨rfl, rfl, rfl⟩
  | some text =>
      simp only [Session.poll, Session.onChange]
      split
      · split
        · exact ⟨rfl, rfl, rfl⟩
        · split
          · exact ⟨rfl, rfl, rfl⟩
          · exact sendText_marks _ text sending
      · exact ⟨rfl, rfl, rfl⟩

/-- The marks after a clip arrived. -/
theorem receive_marks (session : Session) (event : ClipEvent) (fetched : Except String Bytes)
    (now : Time) :
    (session.receive env event fetched now).client.seenAt =
      if event.inlineText ≠ "" then session.client.seenAt.put event.sha256 now
      else session.client.seenAt := by
  simp only [Session.receive]
  split_ifs <;> rfl

theorem Marked.receive (inv : Marked session) (event : ClipEvent)
    (fetched : Except String Bytes) {now : Time} (later : session.clock ≤ now) :
    Marked { session.receive env event fetched now with clock := now } where
  arrived sha time present := by
    simp only [receive_marks] at present
    split_ifs at present with hasText
    · rw [OrderedMap.get?_put] at present
      split_ifs at present with same
      · cases present
        exact ⟨event, List.mem_append_right _ (List.mem_singleton.mpr rfl), hasText, same.symm⟩
      · obtain ⟨old, membership, found⟩ := inv.arrived sha time present
        exact ⟨old, List.mem_append_left _ membership, found⟩
    · obtain ⟨old, membership, found⟩ := inv.arrived sha time present
      exact ⟨old, List.mem_append_left _ membership, found⟩
  latest old time membership hasText := by
    simp only [receive_marks]
    rcases List.mem_append.mp membership with known | new
    · obtain ⟨marked, present, bound⟩ := inv.latest old time known hasText
      have past := inv.past old time known
      split_ifs
      · rw [OrderedMap.get?_put]
        split_ifs
        · exact ⟨now, rfl, past.trans later⟩
        · exact ⟨marked, present, bound⟩
      · exact ⟨marked, present, bound⟩
    · cases List.mem_singleton.mp new
      rw [if_pos hasText]
      exact ⟨now, OrderedMap.get?_put_self .., le_refl now⟩
  past old time membership := by
    rcases List.mem_append.mp membership with known | new
    · exact (inv.past old time known).trans later
    · cases List.mem_singleton.mp new
      exact le_refl now

theorem Marked.poll (inv : Marked session) (reading : Option Bytes) {now : Time}
    (sending : Sending) (later : session.clock ≤ now) :
    Marked { session.poll env reading now sending with clock := now } := by
  obtain ⟨marks, received, -⟩ := @poll_marks env session reading now sending
  constructor
  · intro sha time present
    simp only [marks, received] at present ⊢
    exact inv.arrived sha time present
  · intro event time membership hasText
    simp only [marks, received] at membership ⊢
    exact inv.latest event time membership hasText
  · intro event time membership
    simp only [received] at membership
    exact (inv.past event time membership).trans later

theorem Marked.step (inv : Marked session) (stepped : session.step env action = some after) :
    Marked after := by
  cases action with
  | receive event fetched now =>
      obtain ⟨later, rfl⟩ := Option.ite_some_none_eq_some.mp stepped
      exact inv.receive event fetched later
  | poll reading now sending =>
      obtain ⟨later, rfl⟩ := Option.ite_some_none_eq_some.mp stepped
      exact inv.poll reading sending later

/-- The guard recognises the digests that were announced within its window. -/
theorem Marked.seen_iff (inv : Marked session) (sha : String) (now : Time) :
    session.client.seen sha now = true ↔ session.Vouched sha now := by
  have narrow (time : Time) : Time.sub now time < Client.echoWindow ↔
      now - time < Client.echoWindow :=
    Time.sub_lt_iff now time (by decide) (by decide)
  constructor
  · intro recognised
    obtain ⟨time, present, fresh⟩ := (Option.any_eq_true _ _).mp recognised
    obtain ⟨event, membership, hasText, same⟩ := inv.arrived sha time present
    exact ⟨event, time, membership, hasText, same, (narrow time).mp (of_decide_eq_true fresh)⟩
  · rintro ⟨event, time, membership, hasText, rfl, fresh⟩
    obtain ⟨marked, present, bound⟩ := inv.latest event time membership hasText
    refine (Option.any_eq_true _ _).mpr ⟨marked, present, decide_eq_true ?_⟩
    exact (narrow marked).mpr ((Int.sub_le_sub_left bound now).trans_lt fresh)

/-- A clip that arrived stays on record. -/
theorem received_kept {start later : Session} (run : Reachable (Session.step env) start later)
    {receipt : ClipEvent × Time} (known : receipt ∈ start.received) :
    receipt ∈ later.received := by
  refine @Run.invariant _ _ _ _ _ _ (fun session => receipt ∈ session.received) run known ?_
  intro before after action inv _ stepped
  cases action with
  | receive event fetched now =>
      obtain ⟨-, rfl⟩ := Option.ite_some_none_eq_some.mp stepped
      exact List.mem_append_left _ inv
  | poll reading now sending =>
      obtain ⟨-, rfl⟩ := Option.ite_some_none_eq_some.mp stepped
      exact (@poll_marks env before reading now sending).2.1 ▸ inv

end Guard

/-! ## Applying and suppressing -/

section Echo

variable {env : Env} {client : Client} {before after later final session : Session}
variable {event : ClipEvent} {fetched : Except String Bytes} {now again : Time}
variable {text : Bytes} {sending : Sending}

/-- Base64 decoding and decryption do not lengthen what they are given. -/
structure Shortening (prims : Primitives) : Prop where
  decodes : ∀ coded raw, prims.decodeBase64 coded = .ok raw → raw.length ≤ (bytesOf coded).length
  decrypts : ∀ key nonce cipher plain, prims.decrypt key nonce cipher = some plain →
    plain.length ≤ cipher.length

/-- A decrypted text is shorter than the text it came in. -/
theorem decryptText_length (shortening : Shortening env.prims)
    (readable : client.decryptText env event = some text) :
    text.length < (bytesOf event.inlineText).length := by
  rw [Client.decryptText] at readable
  split at readable
  next raw decoded =>
    have coded := shortening.decodes _ raw decoded
    rw [Client.decryptBytes] at readable
    split at readable
    next key enc _ _ =>
      split at readable
      · cases readable
      · rw [E2e.openPayload] at readable
        split at readable
        next long =>
          have short := shortening.decrypts _ _ _ text readable
          rw [List.length_drop] at short
          omega
        next => cases readable
    next => cases readable
  next => cases readable

/-- The text of a clip is what the clip carries exactly if it is not encrypted. -/
theorem plaintext_carried_iff (shortening : Shortening env.prims)
    (readable : client.plaintext env event = some text) :
    bytesOf event.inlineText = text ↔ event.enc = none := by
  rw [Client.plaintext] at readable
  cases encrypted : event.enc with
  | none =>
      simp only [encrypted, Option.isSome_none, Bool.false_eq_true, if_false,
        Option.some.injEq] at readable
      simp [readable]
  | some enc =>
      simp only [encrypted, Option.isSome_some, if_true] at readable
      have shorter := decryptText_length shortening readable
      refine iff_of_false (fun same => ?_) (by simp)
      rw [same] at shorter
      exact lt_irrefl _ shorter

theorem sendText_quiet_iff : (session.sendText env text sending).sent = session.sent ↔
    session.sealFails env text sending.nonce = true := by
  simp only [Session.sendText, Session.textClip, Session.sealFails]
  cases session.client.key with
  | none => simp
  | some key =>
      cases produced : E2e.sealPayload env.prims key sending.nonce text with
      | none => simp [produced]
      | some raw => simp [produced]

theorem onChange_quiet_iff : (session.onChange env text now sending).sent = session.sent ↔
    session.client.seen (env.prims.sha256Hex text) now = true ∨
      Session.blocks env text = true ∨ session.sealFails env text sending.nonce = true := by
  rw [Session.onChange]
  split_ifs with seen blocked
  · simp [seen]
  · simp [blocked]
  · simp [seen, blocked, sendText_quiet_iff]

/-- A clip with a text this client can read is written to the clipboard as that text, and
a later report of the text is not sent, if and only if the clip is not encrypted and
either it announces the digest of the text, or another clip received within the window
does, or the text would not be sent anyway. -/
theorem applied_and_suppressed_iff (shortening : Shortening env.prims)
    (fresh : client.seenAt = .empty)
    (reached : Reachable (Session.step env) (.start client) before)
    (hasText : event.inlineText ≠ "")
    (readable : before.client.plaintext env event = some text)
    (received : before.step env (.receive event fetched now) = some after)
    (run : Reachable (Session.step env) after later)
    (reported : later.watch.reports text = true)
    (polled : later.step env (.poll (some text) again sending) = some final)
    (window : again - now < Client.echoWindow) :
    (after.written = before.written ++ [text] ∧ final.sent = later.sent) ↔
      event.enc = none ∧
        (event.sha256 = env.prims.sha256Hex text ∨
          later.Vouched (env.prims.sha256Hex text) again ∨
          Session.blocks env text = true ∨ later.sealFails env text sending.nonce = true) := by
  have marked : Marked later := by
    apply ((reached.tail trivial received).trans run).invariant
    · exact .start client fresh
    · intro earlier next action inv _ stepped
      exact inv.step stepped
  obtain ⟨-, rfl⟩ := Option.ite_some_none_eq_some.mp received
  obtain ⟨-, rfl⟩ := Option.ite_some_none_eq_some.mp polled
  have written : (before.receive env event fetched now).written =
      before.written ++ [bytesOf event.inlineText] := by
    simp [Session.receive, hasText]
  have vouches : event.sha256 = env.prims.sha256Hex text →
      later.Vouched (env.prims.sha256Hex text) again := fun same =>
    ⟨event, now, received_kept run (List.mem_append_right _ (List.mem_singleton.mpr rfl)),
      hasText, same, window⟩
  have quiet : (later.poll env (some text) again sending).sent = later.sent ↔
      later.client.seen (env.prims.sha256Hex text) again = true ∨
        Session.blocks env text = true ∨ later.sealFails env text sending.nonce = true := by
    simp only [Session.poll, reported, if_true]
    exact onChange_quiet_iff
  simp only [written, List.append_cancel_left_eq, List.cons.injEq, and_true, quiet,
    marked.seen_iff, plaintext_carried_iff shortening readable]
  refine and_congr_right fun _ => ⟨.inr, ?_⟩
  rintro (same | others)
  · exact .inl (vouches same)
  · exact others

end Echo

/-! ## Concrete clips -/

section Concrete

def demoEnv : Env where
  prims := Reference.prims
  saveDir := ⟨true, [bytesOf "home", bytesOf "u"]⟩
  deviceID := "dev_a"
  classify := none

def demoClient : Client := .new Reference.prims "p" "srv"

def demoSending : Sending := ⟨"out1", "t", Reference.text.nonce, ⟨true, false, none⟩, true⟩

/-- The text `hi`. -/
def plainHi : ClipEvent where
  id := "c1"
  originDevice := "dev_b"
  seq := 1
  ts := "t"
  mime := some ["text/plain"]
  inlineText := "hi"
  html := ""
  blobID := ""
  name := ""
  onDemand := false
  size := 2
  sha256 := Reference.text.plainDigest
  targets := ⟨true, false, none⟩
  enc := none

/-- The same text as an encrypting sender sends it. -/
def sealedHi : ClipEvent :=
  { plainHi with
    inlineText := Reference.text.base64
    sha256 := Reference.text.digest
    enc := some ⟨E2e.alg, "7c1378060950bafd", ""⟩ }

/-- An empty clipboard has been read once. -/
def settled : Session :=
  { (Session.start demoClient).poll demoEnv (some []) 0 demoSending with clock := 0 }

/-- Then a clip arrives. -/
def arrived (event : ClipEvent) : Session :=
  { settled.receive demoEnv event (.error "") 1 with clock := 1 }

theorem settled_reachable : Reachable (Session.step demoEnv) (.start demoClient) settled :=
  have polled : Session.step demoEnv (.start demoClient) (.poll (some []) 0 demoSending) =
      some settled := rfl
  .tail .refl trivial polled

theorem samples_shorten : ∀ sample ∈ Reference.samples,
    sample.plain.length ≤ sample.cipher.length ∧
      sample.sealed.length ≤ (bytesOf sample.base64).length := by
  decide

theorem shortening_reference : Shortening Reference.prims where
  decodes coded raw decoded := by
    simp only [Reference.prims] at decoded
    split at decoded
    next sample found =>
      cases decoded
      have named :=
        @List.find?_some Reference.Sample (fun sample => sample.base64 == coded) _ _ found
      rw [← eq_of_beq named]
      exact (samples_shorten sample (List.mem_of_find?_eq_some found)).2
    next => cases decoded
  decrypts key nonce cipher plain opened := by
    obtain ⟨sample, found, rfl⟩ := Option.map_eq_some_iff.mp opened
    have named := List.find?_some found
    simp only [Bool.and_eq_true, beq_iff_eq] at named
    rw [← named.2]
    exact (samples_shorten sample (List.mem_of_find?_eq_some found)).1

/-- A plain text is written to the clipboard and not sent when it is reported. -/
theorem plain_hi_suppressed :
    (arrived plainHi).written = settled.written ++ [[104, 105]] ∧
      ((arrived plainHi).poll demoEnv (some [104, 105]) 2 demoSending).sent =
        (arrived plainHi).sent := by
  have received : settled.step demoEnv (.receive plainHi (.error "") 1) =
      some (arrived plainHi) := rfl
  have polled : (arrived plainHi).step demoEnv (.poll (some [104, 105]) 2 demoSending) =
      some { (arrived plainHi).poll demoEnv (some [104, 105]) 2 demoSending with clock := 2 } :=
    rfl
  exact (applied_and_suppressed_iff shortening_reference rfl settled_reachable (by decide) rfl
    received .refl (by decide) polled (by decide)).mpr ⟨rfl, .inl (by decide)⟩

/-- A client with the key writes the ciphertext of an encrypted text to its clipboard. -/
theorem ciphertext_written : ¬∀ (env : Env) (client : Client)
    (before after later final : Session) (event : ClipEvent) (fetched : Except String Bytes)
    (now again : Time) (text : Bytes) (sending : Sending),
    Shortening env.prims → client.seenAt = .empty →
    Reachable (Session.step env) (.start client) before → event.inlineText ≠ "" →
    before.client.plaintext env event = some text →
    before.step env (.receive event fetched now) = some after →
    Reachable (Session.step env) after later → later.watch.reports text = true →
    later.step env (.poll (some text) again sending) = some final →
    again - now < Client.echoWindow →
    after.written = before.written ++ [text] ∧ final.sent = later.sent := by
  intro claim
  have holds := claim demoEnv demoClient settled (arrived sealedHi) (arrived sealedHi) _ sealedHi
    (.error "") 1 2 [104, 105] demoSending shortening_reference rfl settled_reachable
    (by decide) (by decide +kernel) rfl .refl (by decide) rfl (by decide)
  exact absurd holds.1 (by decide)

end Concrete

end CopySync.Copyctl
