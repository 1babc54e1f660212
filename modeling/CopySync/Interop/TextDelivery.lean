import CopySync.Desktop.Machine
import CopySync.Desktop.Wire
import CopySync.Server.Relay.Machine
import CopySync.Server.Wire

/-!
# A text clip from one desktop client to another

The event is written by `serde`, read by `encoding/json`, stamped with its origin,
written again and read by `serde`.
-/

namespace CopySync.Interop

open Foundation GoJson Client

/-! ## From the client to the server -/

def Targets.onServer : Desktop.Targets → Server.Targets
  | .all => ⟨true, false, none⟩
  | .devices ids => ⟨false, false, some ids⟩

def EncMeta.onServer (enc : EncMeta) : Server.EncMeta := ⟨enc.alg, enc.keyId, enc.nonce⟩

/-- The event a desktop client's clip is for the server. -/
def onServer (event : Desktop.ClipEvent) : Server.ClipEvent where
  id := event.id
  originDevice := event.originDevice
  seq := event.seq
  ts := event.ts
  mime := some event.mime
  inlineText := event.inlineText
  html := event.html
  blobID := event.blobId
  name := event.name
  onDemand := event.onDemand
  size := event.size
  sha256 := event.sha256
  targets := Targets.onServer event.targets
  enc := event.enc.map EncMeta.onServer

theorem unmarshal_serialize (targets : Desktop.Targets) :
    Server.Targets.unmarshal targets.serialize .zero = some (Targets.onServer targets) := by
  cases targets with
  | all => rfl
  | devices ids =>
      simp only [Desktop.Targets.serialize, Server.Targets.unmarshal, decodeSlice_strings]
      rfl

/-- Both write the mark of an encrypted clip alike. -/
theorem marshal_onServer (enc : Option EncMeta) :
    (enc.map EncMeta.onServer).map Server.EncMeta.marshal = enc.map Desktop.serializeEnc := by
  rw [Option.map_map]
  rfl

/-- The server reads what a desktop client writes. -/
theorem decodeClip_desktop {event : Desktop.ClipEvent} (seq : event.seq < 2 ^ 64)
    (size : -2 ^ 63 ≤ event.size ∧ event.size < 2 ^ 63) :
    Server.decodeClip (.object (Desktop.encodeClip event)) = some (onServer event) := by
  have mime (target : Server.ClipTarget) (rest : Members) (fresh : target.mime = ⟨none, []⟩) :
      decodeMembers Server.clipFields (("mime", .array (event.mime.map .string)) :: rest) target =
        decodeMembers Server.clipFields rest (target.setMime ⟨some event.mime, []⟩) :=
    Server.decodeMembers_mime (some event.mime) fresh
  simp only [Server.decodeClip, decodeStruct, Desktop.encodeClip, decodeMembers_append]
  rw [Server.decodeMembers_event 0 rfl rfl, Server.decodeMembers_event 1 rfl rfl,
    Server.decodeMembers_event 2 rfl (decodeUint64_ofNat _ seq),
    Server.decodeMembers_event 3 rfl rfl, mime _ _ rfl]
  simp only [decodeMembers_nil, Option.bind_some]
  rw [Server.decodeMembers_text 5 rfl _ rfl, Option.bind_some,
    Server.decodeMembers_text 6 rfl _ rfl, Option.bind_some,
    Server.decodeMembers_text 7 rfl _ rfl, Option.bind_some,
    Server.decodeMembers_text 8 rfl _ rfl, Option.bind_some,
    Server.decodeMembers_flag 9 rfl _ rfl, Option.bind_some,
    Server.decodeMembers_event 10 rfl (decodeInt64_ofInt _ size),
    Server.decodeMembers_event 11 rfl rfl,
    Server.decodeMembers_event 12 rfl (unmarshal_serialize event.targets)]
  simp only [decodeMembers_nil, Option.bind_some]
  rw [← marshal_onServer, Server.decodeMembers_enc (event.enc.map EncMeta.onServer) rfl]
  rfl

/-! ## From the server to the client -/

def Targets.onDesktop (targets : Server.Targets) : Desktop.Targets :=
  if targets.all then .all else .devices (targets.devices.getD [])

def EncMeta.onClient (enc : Server.EncMeta) : EncMeta := ⟨enc.alg, enc.keyID, enc.nonce⟩

/-- The event a relayed clip with the given types is for a desktop client. -/
def onDesktop (event : Server.ClipEvent) (mime : List String) : Desktop.ClipEvent where
  id := event.id
  originDevice := event.originDevice
  seq := event.seq
  ts := event.ts
  mime
  inlineText := event.inlineText
  html := event.html
  blobId := event.blobID
  name := event.name
  onDemand := event.onDemand
  size := event.size
  sha256 := event.sha256
  targets := Targets.onDesktop event.targets
  enc := event.enc.map EncMeta.onClient

theorem deserialize_marshal (targets : Server.Targets) :
    Desktop.Targets.deserialize targets.marshal = some (Targets.onDesktop targets) := by
  rw [Server.Targets.marshal, Targets.onDesktop]
  split_ifs
  · rfl
  · exact congrArg (Option.map Desktop.Targets.devices) (Desktop.mapM_asString _)

theorem defaulted_enc (enc : Option Server.EncMeta) :
    Desktop.defaulted Desktop.asEnc none (enc.map Server.EncMeta.marshal) =
      some (enc.map EncMeta.onClient) := by
  cases enc with
  | none => rfl
  | some enc =>
      simp [Desktop.asEnc, Server.EncMeta.marshal, Desktop.deserializeEnc, Desktop.asString,
        EncMeta.onClient]

/-- A desktop client reads what the server writes if and only if the types are listed. -/
theorem decodeClip_server {event : Server.ClipEvent} (seq : event.seq < 2 ^ 64)
    (size : -2 ^ 63 ≤ event.size ∧ event.size < 2 ^ 63) :
    Desktop.decodeClip (Server.encodeClip event) = event.mime.map (onDesktop event) := by
  have types : Desktop.asStrings
      ((event.mime.map fun mime => Json.array (mime.map .string)).getD .null) = event.mime := by
    cases event.mime with
    | none => rfl
    | some mime => exact Desktop.asStrings_array mime
  simp only [Desktop.decodeClip, Server.encodeClip, Members.get?_append, Members.get?_cons,
    Members.get?_optional, Members.get?_nil, String.reduceEq, if_true, if_false, Option.or_none,
    Option.none_or, Desktop.required_some, Desktop.defaulted_some,
    Desktop.asString, Desktop.asU64_ofNat seq, Desktop.asI64_ofInt size,
    Desktop.defaulted_unlessEmpty, Desktop.defaulted_ifSet, deserialize_marshal, defaulted_enc,
    types, Option.bind_eq_bind, Option.bind_some]
  cases event.mime <;> rfl

/-! ## From one client to the other -/

/-- A clip as a recipient's client decodes it: sent by a client, decoded and stamped by
the server, and encoded for the recipient. -/
def relayed (lib : Server.Library) (sent : Desktop.ClipEvent) (origin : Server.DeviceID)
    (now : Server.Time) : Option Desktop.ClipEvent :=
  (Server.decodeClip (.object (Desktop.encodeClip sent))).bind fun event =>
    Desktop.decodeClip (Server.encodeClip (event.received lib origin now))

/-- The event a recipient gets: the origin is the server's, and so is a missing time. -/
def stamped (lib : Server.Library) (sent : Desktop.ClipEvent) (origin : Server.DeviceID)
    (now : Server.Time) : Desktop.ClipEvent :=
  { sent with
    originDevice := origin
    ts := if sent.ts = "" then lib.formatRFC3339 now else sent.ts }

theorem onDesktop_onServer (targets : Desktop.Targets) :
    Targets.onDesktop { Targets.onServer targets with broadcast := false } = targets := by
  cases targets <;> rfl

theorem onClient_onServer (enc : Option EncMeta) :
    (enc.map EncMeta.onServer).map EncMeta.onClient = enc := by
  cases enc <;> rfl

theorem relayed_eq (lib : Server.Library) {sent : Desktop.ClipEvent} (seq : sent.seq < 2 ^ 64)
    (size : -2 ^ 63 ≤ sent.size ∧ sent.size < 2 ^ 63) (origin : Server.DeviceID)
    (now : Server.Time) : relayed lib sent origin now = some (stamped lib sent origin now) := by
  have decoded := @decodeClip_server ((onServer sent).received lib origin now) seq size
  rw [relayed, decodeClip_desktop seq size, Option.bind_some, decoded]
  simp only [Server.ClipEvent.received, onServer, Option.map_some, onDesktop, stamped,
    onDesktop_onServer, onClient_onServer]
  rfl

/-! ## Reading the clip -/

/-- What the clients' libraries promise for payloads sealed under a key: opening inverts
sealing, decoding inverts encoding, and nothing is encoded as the empty text. -/
structure Lossless (prims : Primitives) : Prop where
  opens : ∀ key nonce plain raw, E2e.sealPayload prims key nonce plain = some raw →
    E2e.openPayload prims key raw = some plain
  decodes : ∀ key raw, E2e.IsSealed prims key raw →
    prims.decodeBase64 (prims.encodeBase64 raw) = .ok raw
  visible : ∀ key raw, E2e.IsSealed prims key raw → prims.encodeBase64 raw ≠ ""

/-- What is offered to the clipboard, or the report that it failed. -/
def offered (applying : Desktop.Applying) (text : String) (html : Option String) :
    Desktop.Output :=
  match applying.outcome with
  | .ok () =>
      .clipboard
        (match html with
        | some html => .html html text
        | none => if applying.mark then .sensitive text else .text text)
  | .error error => .error ("받은 텍스트 클립보드 적용 실패(RDP 경합?): " ++ error)

/-- The clip is applied with this text and rich text: offered to the clipboard, recorded
and announced. -/
def Applied (env : Desktop.Env) (engine : Desktop.Engine) (event : Desktop.ClipEvent)
    (applying : Desktop.Applying) (text : String) (html : Option String) : Prop :=
  (engine.handleIncomingText env event applying).log = engine.log ++
    [offered applying text html,
      .history ⟨event.ts, "text", event.originDevice, "in", text, "text/plain",
        (bytesOf text).length, "", ""⟩,
      .notice (.inText text event.originDevice)]

/-- The clip is refused with a message; nothing else happens. -/
def Refused (env : Desktop.Env) (engine : Desktop.Engine) (event : Desktop.ClipEvent)
    (applying : Desktop.Applying) : Prop :=
  ∃ message, engine.handleIncomingText env event applying = engine.emit (.notify message)

section Reading

variable {env : Desktop.Env} {engine : Desktop.Engine} {event : Desktop.ClipEvent}
variable {applying : Desktop.Applying} {text : String} {html : Option String}

theorem applied_of_content (readable : engine.incomingText env event = .ok text)
    (rich : engine.incomingHtml env event = html) :
    Applied env engine event applying text html := by
  simp only [Applied, offered, Desktop.Engine.handleIncomingText, readable, rich]
  cases applying.outcome <;> cases html <;> simp [Desktop.Engine.emit]

theorem refused_of_error {message : String}
    (unreadable : engine.incomingText env event = .error (.notify message)) :
    Refused env engine event applying :=
  ⟨message, by rw [Desktop.Engine.handleIncomingText, unreadable]⟩

/-- A clip without encryption metadata is read as it is. -/
theorem applied_of_plain (plain : event.enc = none) (inline : event.inlineText = text)
    (rich : event.html = html.getD "") (nonempty : html ≠ some "") :
    Applied env engine event applying text html := by
  apply applied_of_content
  · rw [Desktop.Engine.incomingText, plain]
    exact congrArg Except.ok inline
  · rw [Desktop.Engine.incomingHtml, plain, rich]
    cases html with
    | none => simp
    | some html =>
        have shown : html ≠ "" := fun empty => nonempty (by rw [empty])
        simp [shown]

theorem refused_without_key {enc : EncMeta} (sealedWith : event.enc = some enc)
    (keyless : engine.key = none) : Refused env engine event applying := by
  have unreadable : engine.incomingText env event =
      .error (.notify "암호화된 텍스트를 받았지만 암호문이 설정되지 않았습니다") := by
    rw [Desktop.Engine.incomingText, sealedWith, keyless]
  exact refused_of_error unreadable

theorem refused_foreign_key {enc : EncMeta} {key : Bytes} {kid : String}
    (sealedWith : event.enc = some enc) (keyed : engine.key = some (key, kid))
    (named : enc.keyId ≠ "") (different : enc.keyId ≠ kid) :
    Refused env engine event applying := by
  have foreign : Desktop.foreignKey enc kid = true := by
    simp [Desktop.foreignKey, named, different]
  have unreadable : engine.incomingText env event = .error
      (.notify ("다른 암호로 암호화된 클립을 받았습니다 (keyId=" ++ enc.keyId ++ ")")) := by
    rw [Desktop.Engine.incomingText, sealedWith, keyed]
    simp only [foreign, if_true]
  exact refused_of_error unreadable

end Reading

/-! ## The clip a client builds -/

section Built

variable {prims : Primitives} {draw : Desktop.Draw} {seq : Nat} {text : String}
variable {html : Option String} {targets : Desktop.Targets} {sent : Desktop.ClipEvent}
variable {key : Bytes} {kid : String}

/-- Rich text as the sender understands it: empty counts as none. -/
def richText (html : Option String) : Option String := html.filter (· != "")

theorem richText_ne_empty (html : Option String) : richText html ≠ some "" := by
  cases html with
  | none => simp [richText]
  | some html =>
      intro empty
      have shown := (Option.filter_eq_some_iff.mp empty).2
      simp at shown

theorem newText_plain
    (built : Desktop.ClipEvent.newText prims draw seq text html none targets = some sent) :
    sent.enc = none ∧ sent.inlineText = text ∧ sent.html = (richText html).getD "" ∧
      sent.seq = seq ∧ sent.size = (bytesOf text).length := by
  cases built
  exact ⟨rfl, rfl, rfl, rfl, rfl⟩

theorem newText_encrypted
    (built : Desktop.ClipEvent.newText prims draw seq text html (some (key, kid)) targets =
      some sent) :
    sent.enc = some (E2e.encMeta kid) ∧
      (∃ raw, E2e.sealPayload prims key draw.nonce (bytesOf text) = some raw ∧
        sent.inlineText = prims.encodeBase64 raw) ∧
      (richText html = none ∧ sent.html = "" ∨
        ∃ rich body, richText html = some rich ∧
          E2e.sealPayload prims key draw.htmlNonce (bytesOf rich) = some body ∧
          sent.html = prims.encodeBase64 body) ∧
      sent.seq = seq ∧ sent.size = (bytesOf text).length := by
  simp only [Desktop.ClipEvent.newText, Option.bind_eq_bind, Option.bind_eq_some_iff] at built
  obtain ⟨raw, sealedText, built⟩ := built
  split at built
  next rich found =>
    obtain ⟨coded, sealedHtml, same⟩ := Option.bind_eq_some_iff.mp built
    obtain ⟨body, produced, rfl⟩ := Option.map_eq_some_iff.mp sealedHtml
    cases same
    exact ⟨rfl, ⟨raw, sealedText, rfl⟩, .inr ⟨rich, body, found, produced, rfl⟩, rfl, rfl⟩
  next missing =>
    cases built
    exact ⟨rfl, ⟨raw, sealedText, rfl⟩, .inl ⟨missing, rfl⟩, rfl, rfl⟩

theorem newText_numbers {groupKey : Desktop.GroupKey}
    (built : Desktop.ClipEvent.newText prims draw seq text html groupKey targets = some sent) :
    sent.seq = seq ∧ sent.size = (bytesOf text).length := by
  cases groupKey with
  | none => exact (newText_plain built).2.2.2
  | some pair => exact (newText_encrypted built).2.2.2

/-- With the sender's key the sealed texts are read back. -/
theorem applied_of_sealed {env : Desktop.Env} (lossless : Lossless env.prims)
    {engine : Desktop.Engine} {applying : Desktop.Applying} {event : Desktop.ClipEvent}
    (built : Desktop.ClipEvent.newText env.prims draw seq text html (some (key, kid)) targets =
      some sent) (enc : event.enc = sent.enc) (inline : event.inlineText = sent.inlineText)
    (rich : event.html = sent.html) (keyed : engine.key = some (key, kid)) :
    Applied env engine event applying text (richText html) := by
  obtain ⟨mark, ⟨raw, sealedText, coded⟩, sealedHtml, -, -⟩ := newText_encrypted built
  have own : Desktop.foreignKey (E2e.encMeta kid) kid = false := by
    simp [Desktop.foreignKey, E2e.encMeta]
  apply applied_of_content
  · simp only [Desktop.Engine.incomingText, enc, mark, keyed, own, inline, coded,
      lossless.decodes key raw (.of_sealPayload sealedText),
      lossless.opens key draw.nonce _ raw sealedText, Desktop.textOf_bytesOf]
    rfl
  · rw [Desktop.Engine.incomingHtml]
    rcases sealedHtml with ⟨missing, empty⟩ | ⟨shown, body, found, produced, codedHtml⟩
    · rw [missing, rich, empty, if_pos rfl]
    · have visible : event.html ≠ "" := by
        rw [rich, codedHtml]
        exact lossless.visible key body (.of_sealPayload produced)
      rw [if_neg visible]
      simp only [enc, mark, keyed, rich, codedHtml,
        lossless.decodes key body (.of_sealPayload produced),
        lossless.opens key draw.htmlNonce _ body produced, Option.map_some,
        Desktop.textOf_bytesOf, found]

end Built

/-- A text clip reaches another desktop client as it was sent, but for its origin and a
missing time.  Whoever needs no key or has the sender's applies the original texts;
whoever has none, or one with another id than the sender's named key, only notifies. -/
theorem text_delivered {env : Desktop.Env} (lossless : Lossless env.prims) (lib : Server.Library)
    {draw : Desktop.Draw} {seq : Nat} {text : String} {html : Option String}
    {key : Desktop.GroupKey} {targets : Desktop.Targets} {sent : Desktop.ClipEvent}
    (counter : seq < 2 ^ 64) (short : (bytesOf text).length < 2 ^ 63)
    (built : Desktop.ClipEvent.newText env.prims draw seq text html key targets = some sent)
    (origin : Server.DeviceID) (now : Server.Time) :
    relayed lib sent origin now = some (stamped lib sent origin now) ∧
    ∀ (engine : Desktop.Engine) (applying : Desktop.Applying),
      (key = none ∨ engine.key = key →
        Applied env engine (stamped lib sent origin now) applying text (richText html)) ∧
      ∀ bytes kid, key = some (bytes, kid) → kid ≠ "" →
        (∀ other, engine.key = some other → other.2 ≠ kid) →
        Refused env engine (stamped lib sent origin now) applying := by
  obtain ⟨sameSeq, sameSize⟩ := newText_numbers built
  refine ⟨relayed_eq lib (by omega) (by omega) origin now, fun engine applying => ⟨?_, ?_⟩⟩
  · intro readable
    cases key with
    | none =>
        obtain ⟨plain, inline, rich, -⟩ := newText_plain built
        exact applied_of_plain plain inline rich (richText_ne_empty html)
    | some pair =>
        have keyed : engine.key = some pair := readable.resolve_left (by simp)
        exact applied_of_sealed lossless built rfl rfl rfl keyed
  · rintro bytes kid rfl named different
    obtain ⟨mark, -⟩ := newText_encrypted built
    cases keyed : engine.key with
    | none => exact refused_without_key mark keyed
    | some other =>
        exact refused_foreign_key mark keyed named fun same => different other keyed same.symm

/-! ## Concrete clips -/

section Concrete

open Reference (text key prims)

/-- The reference values are lossless: they seal three payloads. -/
theorem lossless_reference : Lossless prims := by
  have sealedSample : ∀ used nonce plain raw, E2e.sealPayload prims used nonce plain = some raw →
      used = key ∧ ∃ sample ∈ Reference.samples, sample.nonce = nonce ∧ sample.plain = plain ∧
        raw = sample.sealed := by
    intro used nonce plain raw produced
    obtain ⟨cipher, encrypted, rfl⟩ := Option.map_eq_some_iff.mp produced
    obtain ⟨sample, found, rfl⟩ := Option.map_eq_some_iff.mp encrypted
    have matched := List.find?_some found
    simp only [Bool.and_eq_true, beq_iff_eq] at matched
    obtain ⟨⟨rfl, rfl⟩, rfl⟩ := matched
    exact ⟨rfl, sample, List.mem_of_find?_eq_some found, rfl, rfl, rfl⟩
  have coded : ∀ sample ∈ Reference.samples,
      E2e.openPayload prims key sample.sealed = some sample.plain ∧
      prims.decodeBase64 (prims.encodeBase64 sample.sealed) = .ok sample.sealed ∧
      prims.encodeBase64 sample.sealed ≠ "" := by decide +kernel
  constructor
  · intro used nonce plain raw produced
    obtain ⟨rfl, sample, among, -, rfl, rfl⟩ := sealedSample used nonce plain raw produced
    exact (coded sample among).1
  · rintro used raw ⟨nonce, plain, produced⟩
    obtain ⟨-, sample, among, -, -, rfl⟩ := sealedSample used nonce plain raw produced
    exact (coded sample among).2.1
  · rintro used raw ⟨nonce, plain, produced⟩
    obtain ⟨-, sample, among, -, -, rfl⟩ := sealedSample used nonce plain raw produced
    exact (coded sample among).2.2

/-- The text `hi` as a sender under the given key id builds it. -/
def hiClip (kid : String) : Desktop.ClipEvent where
  id := "a1"
  seq := 1
  ts := "2024-01-01T00:00:00Z"
  mime := ["text/plain"]
  inlineText := text.base64
  size := 2
  sha256 := text.digest
  enc := some (E2e.encMeta kid)

theorem newText_hi (kid : String) :
    Desktop.ClipEvent.newText prims ⟨"a1", "2024-01-01T00:00:00Z", text.nonce, text.nonce⟩ 1 "hi"
      none (some (key, kid)) .all = some (hiClip kid) := by
  have produced : E2e.sealPayload prims key text.nonce (bytesOf "hi") = some text.sealed := by
    decide +kernel
  have size : ((bytesOf "hi").length : Int) = 2 := by decide
  have coded : prims.encodeBase64 text.sealed = text.base64 := by decide +kernel
  have digest : prims.sha256Hex text.sealed = text.digest := by decide +kernel
  simp [Desktop.ClipEvent.newText, produced, size, coded, digest, hiClip]

/-- An engine with the reference key under the given id. -/
def engineWith (kid : String) : Desktop.Engine :=
  { Desktop.Engine.start Desktop.demoEnv Desktop.demoConfig with key := some (key, kid) }

/-- A sender whose key has no name is not told apart: a receiver with the same key under
another id applies the clip. -/
theorem unnamed_key_applied :
    ¬∀ (env : Desktop.Env), Lossless env.prims → ∀ (lib : Server.Library) (draw : Desktop.Draw)
      (seq : Nat) (text : String) (html : Option String) (bytes : Bytes) (kid : String)
      (targets : Desktop.Targets) (sent : Desktop.ClipEvent),
      seq < 2 ^ 64 → (bytesOf text).length < 2 ^ 63 →
      Desktop.ClipEvent.newText env.prims draw seq text html (some (bytes, kid)) targets =
        some sent →
      ∀ (origin : Server.DeviceID) (now : Server.Time) (engine : Desktop.Engine)
        (applying : Desktop.Applying),
        (∀ other, engine.key = some other → other.2 ≠ kid) →
        Refused env engine (stamped lib sent origin now) applying := by
  intro claim
  obtain ⟨message, refused⟩ := claim Desktop.demoEnv lossless_reference Server.plainLibrary _ 1 "hi"
    none key "" .all (hiClip "") (by decide) (by decide) (newText_hi "") "dev_a" 0
    (engineWith "other") Desktop.demoApplying (by rintro other ⟨rfl⟩; decide)
  have touched : .clipboard (.text "hi") ∈ ((engineWith "other").handleIncomingText Desktop.demoEnv
      (stamped Server.plainLibrary (hiClip "") "dev_a" 0) Desktop.demoApplying).log := by
    decide +kernel
  rw [refused] at touched
  simp [Desktop.Engine.emit, engineWith, Desktop.Engine.start] at touched

/-- The text `hi` under its named key: applied with the key, refused with another. -/
theorem text_delivered_hi :
    Applied Desktop.demoEnv (engineWith "7c1378060950bafd")
      (stamped Server.plainLibrary (hiClip "7c1378060950bafd") "dev_a" 0) Desktop.demoApplying
      "hi" none ∧
    Refused Desktop.demoEnv (engineWith "other")
      (stamped Server.plainLibrary (hiClip "7c1378060950bafd") "dev_a" 0)
      Desktop.demoApplying := by
  have delivered := (@text_delivered Desktop.demoEnv lossless_reference Server.plainLibrary _ 1
    "hi" none _ .all _ (by decide) (by decide) (newText_hi "7c1378060950bafd") "dev_a" 0).2
  refine ⟨(delivered _ _).1 (.inr rfl), (delivered _ _).2 key _ rfl (by decide) ?_⟩
  rintro other ⟨rfl⟩
  decide

end Concrete

end CopySync.Interop
