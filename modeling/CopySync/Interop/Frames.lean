import CopySync.Interop.TextDelivery
import CopySync.Desktop.Attribution

/-!
# What a receiver makes of what a sender made

A frame that is decoded is the frame that was encoded, in both directions.  A text that a
client can read is the text its clip was made of, and a blob that it can read is the file
its clip announced, up to its digest.
-/

namespace CopySync.Interop

open Foundation GoJson Client

/-! ## Frames are read as they were written -/

section Frames

theorem filterMap_optional {name key : String} (different : names name key = false)
    (value : Option Json) :
    (Members.optional key value).filterMap (fun member =>
      if names name member.1 then some member.2 else none) = [] := by
  cases value with
  | none => rfl
  | some json => simp [Members.optional, different]

/-- The members that every clip of a desktop client has. -/
def requiredMembers (sent : Desktop.ClipEvent) : Members :=
  [("id", .string sent.id), ("originDeviceId", .string sent.originDevice),
    ("seq", .number (.ofNat sent.seq)), ("ts", .string sent.ts),
    ("mime", .array (sent.mime.map .string)), ("size", .number (.ofInt sent.size)),
    ("sha256", .string sent.sha256), ("targets", sent.targets.serialize)]

/-- A name that no other member has is looked for among them. -/
theorem valuesFor_encodeClip {name : String} (required : ∀ key ∈
      ["inlineText", "html", "blobId", "name", "onDemand", "enc"], names name key = false)
    (sent : Desktop.ClipEvent) : valuesFor name (.object (Desktop.encodeClip sent)) =
      valuesFor name (.object (requiredMembers sent)) := by
  simp only [List.forall_mem_cons, List.not_mem_nil, IsEmpty.forall_iff, implies_true,
    and_true] at required
  obtain ⟨text, html, blob, file, held, sealedWith⟩ := required
  simp only [valuesFor, Desktop.encodeClip, List.filterMap_append]
  rw [filterMap_optional text, filterMap_optional html, filterMap_optional blob,
    filterMap_optional file, filterMap_optional held, filterMap_optional sealedWith]
  simp only [List.append_nil, ← List.filterMap_append]
  rfl

/-- Whatever the server reads from a desktop client is what the client sent. -/
theorem onServer_of_decodeClip {sent : Desktop.ClipEvent} {event : Server.ClipEvent}
    (decoded : Server.decodeClip (.object (Desktop.encodeClip sent)) = some event) :
    event = onServer sent := by
  obtain ⟨target, struct, -⟩ := Option.map_eq_some_iff.mp decoded
  have seq : sent.seq < 2 ^ 64 := by
    have counted := Server.owns_seq.struct struct
    have one : valuesFor "seq" (.object (requiredMembers sent)) =
        [.number (.ofNat sent.seq)] := by simp +decide [valuesFor, requiredMembers]
    rw [valuesFor_encodeClip (by decide), one] at counted
    simp only [List.foldlM_cons, List.foldlM_nil, Number.ofNat, decodeUint64,
      Option.bind_eq_bind, Option.bind_eq_some_iff, Option.ite_none_right_eq_some] at counted
    obtain ⟨_, ⟨fits, -⟩, -⟩ := counted
    exact fits
  have size : -2 ^ 63 ≤ sent.size ∧ sent.size < 2 ^ 63 := by
    have measured := Server.owns_size.struct struct
    have one : valuesFor "size" (.object (requiredMembers sent)) =
        [.number (.ofInt sent.size)] := by simp +decide [valuesFor, requiredMembers]
    rw [valuesFor_encodeClip (by decide), one] at measured
    simp only [List.foldlM_cons, List.foldlM_nil, decodeInt64, Number.value?_ofInt,
      Option.bind_eq_bind, Option.bind_eq_some_iff, Option.filter_eq_some_iff,
      decide_eq_true_eq] at measured
    obtain ⟨_, ⟨same, fits⟩, -⟩ := measured
    exact Option.some.inj same ▸ fits
  rw [decodeClip_desktop seq size] at decoded
  exact (Option.some.inj decoded).symm

/-- Whatever a desktop client reads from the server is what the server wrote. -/
theorem onDesktop_of_decodeClip {event : Server.ClipEvent} {clip : Desktop.ClipEvent}
    (decoded : Desktop.decodeClip (Server.encodeClip event) = some clip) :
    ∃ mime, event.mime = some mime ∧ clip = onDesktop event mime := by
  have counter : Members.get? (Server.encodeClip event) "seq" =
      some (.number (.ofNat event.seq)) := by
    simp [Server.encodeClip, Members.get?_append, Members.get?_cons]
  have measure : Members.get? (Server.encodeClip event) "size" =
      some (.number (.ofInt event.size)) := by
    simp [Server.encodeClip, Members.get?_append, Members.get?_cons]
  have read := decoded
  rw [Desktop.decodeClip] at read
  obtain ⟨_, -, read⟩ := Option.bind_eq_some_iff.mp read
  obtain ⟨_, -, read⟩ := Option.bind_eq_some_iff.mp read
  obtain ⟨seq, counted, read⟩ := Option.bind_eq_some_iff.mp read
  -- The seven fields between the counter and the size.
  iterate 7 obtain ⟨_, -, read⟩ := Option.bind_eq_some_iff.mp read
  obtain ⟨size, measured, -⟩ := Option.bind_eq_some_iff.mp read
  rw [counter, Desktop.required_some] at counted
  rw [measure, Desktop.required_some] at measured
  have small : event.seq < 2 ^ 64 := by
    simp only [Desktop.asU64, Number.ofNat, Option.ite_none_right_eq_some] at counted
    exact counted.1
  have fits : -2 ^ 63 ≤ event.size ∧ event.size < 2 ^ 63 := by
    by_cases negative : event.size < 0
    · simp only [Number.ofInt, negative, decide_true, Desktop.asI64, Option.ite_none_right_eq_some]
        at measured
      omega
    · simp only [Number.ofInt, negative, decide_false, Desktop.asI64,
        Option.ite_none_right_eq_some] at measured
      omega
  rw [decodeClip_server small fits] at decoded
  obtain ⟨mime, listed, same⟩ := Option.map_eq_some_iff.mp decoded
  exact ⟨mime, listed, same.symm⟩

end Frames

/-! ## What a client makes of a clip -/

/-- A sender's key is known to a receiver by its name, if at all. -/
def Known (receiver sender : Desktop.GroupKey) : Prop :=
  ∀ key kid, sender = some (key, kid) →
    kid ≠ "" ∧ ∀ other, receiver = some (other, kid) → other = key

section Reading

variable {env : Desktop.Env} {engine : Desktop.Engine} {clip sent : Desktop.ClipEvent}
variable {key : Desktop.GroupKey}

/-- A receiver that reads an encrypted clip has the sender's key. -/
theorem keyed_of_known {bytes : Bytes} {kid : String} (known : Known engine.key key)
    (keyed : key = some (bytes, kid)) {own : Bytes} {ownId : String}
    (receiver : engine.key = some (own, ownId))
    (accepted : Desktop.foreignKey (E2e.encMeta kid) ownId = false) :
    engine.key = some (bytes, kid) := by
  obtain ⟨visible, only⟩ := known bytes kid keyed
  have same : kid = ownId := by
    by_contra different
    simp [Desktop.foreignKey, E2e.encMeta, visible, different] at accepted
  rw [receiver, only own (same ▸ receiver), same]

/-- What is applied is what was read. -/
theorem incoming_of_applied {text shown : String} {html : Option String}
    (applied : Applied env engine clip ⟨false, .ok (), 0⟩ text html)
    (read : engine.incomingText env clip = .ok shown) :
    shown = text ∧ engine.incomingHtml env clip = html := by
  simp only [Applied, Desktop.Engine.handleIncomingText, read, Desktop.Engine.emit,
    List.append_assoc, List.append_cancel_left_eq, List.cons_append, List.nil_append,
    List.cons.injEq, Desktop.Output.history.injEq, Desktop.HistoryRow.mk.injEq] at applied
  obtain ⟨clipboard, ⟨-, -, -, -, same, -⟩, -⟩ := applied
  subst same
  refine ⟨rfl, ?_⟩
  cases incoming : engine.incomingHtml env clip with
  | none =>
      cases html with
      | none => rfl
      | some html => simp [offered, incoming] at clipboard
  | some rich =>
      cases html with
      | none => simp [offered, incoming] at clipboard
      | some html =>
          simp only [offered, incoming, Desktop.Output.clipboard.injEq,
            Desktop.Clipboard.html.injEq] at clipboard
          rw [clipboard.1]

/-- A text that can be read is the text the clip was made of, and so is its rich
text. -/
theorem read_text (lossless : Lossless env.prims) {draw : Desktop.Draw} {seq : Nat}
    {text shown : String} {html : Option String} {targets : Desktop.Targets}
    (built : Desktop.ClipEvent.newText env.prims draw seq text html key targets = some sent)
    (enc : clip.enc = sent.enc) (inline : clip.inlineText = sent.inlineText)
    (rich : clip.html = sent.html) (known : Known engine.key key)
    (read : engine.incomingText env clip = .ok shown) :
    shown = text ∧ ∀ shownHtml, engine.incomingHtml env clip = some shownHtml →
      html = some shownHtml := by
  have rich_of (shownHtml : String) (same : richText html = some shownHtml) :
      html = some shownHtml := (Option.filter_eq_some_iff.mp same).1
  have applied : Applied env engine clip ⟨false, .ok (), 0⟩ text (richText html) := by
    cases key with
    | none =>
        obtain ⟨plain, text', html', -⟩ := newText_plain built
        exact applied_of_plain (enc.trans plain) (inline.trans text') (rich.trans html')
          (richText_ne_empty html)
    | some pair =>
        obtain ⟨bytes, kid⟩ := pair
        obtain ⟨mark, -⟩ := newText_encrypted built
        cases receiver : engine.key with
        | none => simp [Desktop.Engine.incomingText, enc, mark, receiver] at read
        | some own =>
            obtain ⟨own, ownId⟩ := own
            cases accepted : Desktop.foreignKey (E2e.encMeta kid) ownId with
            | true => simp [Desktop.Engine.incomingText, enc, mark, receiver, accepted] at read
            | false =>
                exact applied_of_sealed lossless built enc inline rich
                  (keyed_of_known known rfl receiver accepted)
  obtain ⟨same, sameHtml⟩ := incoming_of_applied applied read
  exact ⟨same, fun shownHtml shown => rich_of shownHtml (sameHtml.symm.trans shown)⟩

/-- The bytes a client reads a received file from. -/
def Reveals (prims : Primitives) (key : Desktop.GroupKey) (received content : Bytes) : Prop :=
  content = received ∨
    ∃ bytes kid, key = some (bytes, kid) ∧ E2e.openPayload prims bytes received = some content

/-- A content is that of a file, up to its digest: it is read from bytes with the digest of
what the sender stored for the file, and it is the file itself if these are the bytes the
sender stored. -/
def SameFile (prims : Primitives) (sender receiver : Desktop.GroupKey) (original content : Bytes) :
    Prop :=
  ∃ nonce stored received, Desktop.protect prims sender nonce original = some stored ∧
    prims.sha256Hex received = prims.sha256Hex stored ∧
    Reveals prims receiver received content ∧ (received = stored → content = original)

/-- A blob that can be read is the file its clip announced, up to its digest. -/
theorem read_blob (lossless : Lossless env.prims) {original data plain : Bytes}
    (publishes : Desktop.Publishes env.prims key original sent) (enc : clip.enc = sent.enc)
    (named : clip.blobId = sent.blobId) (address : blobId env.prims data = clip.blobId)
    (known : Known engine.key key) (read : engine.incomingBlob env clip data = .ok plain) :
    SameFile env.prims key engine.key original plain := by
  obtain ⟨nonce, stored, produced, blob⟩ := publishes.stored
  have digest : env.prims.sha256Hex data = env.prims.sha256Hex stored := by
    rw [named, blob, blobId, blobId] at address
    exact (String.append_right_inj _).mp address
  refine ⟨nonce, stored, data, produced, digest, ?_⟩
  have mark := enc.trans publishes.enc
  cases key with
  | none =>
      simp only [Desktop.Engine.incomingBlob, mark, Desktop.metaOf, Option.map_none,
        Except.ok.injEq] at read
      subst read
      cases produced
      exact ⟨.inl rfl, fun same => same⟩
  | some pair =>
      obtain ⟨bytes, kid⟩ := pair
      cases receiver : engine.key with
      | none => simp [Desktop.Engine.incomingBlob, mark, Desktop.metaOf, receiver] at read
      | some own =>
          obtain ⟨own, ownId⟩ := own
          cases accepted : Desktop.foreignKey (E2e.encMeta kid) ownId with
          | true =>
              simp [Desktop.Engine.incomingBlob, mark, Desktop.metaOf, receiver, accepted] at read
          | false =>
              have keyed := keyed_of_known known rfl receiver accepted
              cases receiver.symm.trans keyed
              simp only [Desktop.Engine.incomingBlob, mark, Desktop.metaOf, Option.map_some,
                receiver, accepted, Bool.false_eq_true, if_false] at read
              cases opened : E2e.openPayload env.prims bytes data with
              | none => simp [opened] at read
              | some content =>
                  simp only [opened, Except.ok.injEq] at read
                  subst read
                  refine ⟨.inr ⟨bytes, kid, rfl, opened⟩, ?_⟩
                  rintro rfl
                  rw [lossless.opens bytes nonce original data produced] at opened
                  exact (Option.some.inj opened).symm

end Reading

end CopySync.Interop
