import CopySync.Interop.Traffic

/-!
# Where content comes from

What a clip that the server carries or a client receives stems from, and what accounts for
content that a client shows as received.  A turn of one client keeps that all it shows was
sent, as long as the clips it is handed were conveyed.
-/

namespace CopySync.Interop

open Foundation GoJson Client

/-! ## Where things come from -/

/-- The bytes of an image or a file. -/
def bytes? : Desktop.Parcel → Except String Bytes
  | .text text _ => .ok (bytesOf text)
  | .image picture => picture.png
  | .file document => document.content

namespace Network

section Sources

variable (network : Network)

/-- A text was taken from the clipboard or the window of a device, or announced by the
administrator. -/
def TextFrom (origin text : String) (html : Option String) : Prop :=
  (∃ host ∈ network.hosts, host.device = origin ∧
    ∃ entry ∈ host.docket.taken, entry.parcel = .text text html) ∨
  origin = "server" ∧ html = none ∧ text ∈ network.announced

/-- A content is that of an image or a file taken on a device. -/
def FileFrom (receiver : Host) (content : Bytes) : Prop :=
  ∃ host ∈ network.hosts, ∃ entry ∈ host.docket.taken, ∃ original,
    bytes? entry.parcel = .ok original ∧
      SameFile receiver.env.prims host.engine.key receiver.engine.key original content

/-- What a host shows as received was sent. -/
def Accounted (receiver : Host) : Desktop.Output → Prop
  | .notice (.inText text origin) => ∃ html, network.TextFrom origin text html
  | .clipboard (.text text) | .clipboard (.sensitive text) =>
      ∃ origin html, network.TextFrom origin text html
  | .clipboard (.html html text) => ∃ origin, network.TextFrom origin text (some html)
  | .clipboard (.image rgba) =>
      ∃ content, receiver.env.decodeImage content = .ok rgba ∧ network.FileFrom receiver content
  | .file _ content => network.FileFrom receiver content
  | _ => True

end Sources

section Growing

variable {network later : Network}

theorem TextFrom.mono {origin text : String} {html : Option String}
    (source : network.TextFrom origin text html) (grows : network.Grows later) :
    later.TextFrom origin text html := by
  rcases source with ⟨host, listed, same, entry, taken, parcel⟩ | ⟨server, plain, listed⟩
  · obtain ⟨kept, present, grown⟩ := grows.host listed
    exact .inl ⟨kept, present, grown.device.trans same, entry, grown.taken taken, parcel⟩
  · exact .inr ⟨server, plain, grows.announced listed⟩

theorem FileFrom.mono {receiver kept : Host} {content : Bytes}
    (source : network.FileFrom receiver content) (grows : network.Grows later)
    (same : kept.fixed = receiver.fixed) : later.FileFrom kept content := by
  obtain ⟨host, listed, entry, taken, original, read, file⟩ := source
  obtain ⟨sender, present, grown⟩ := grows.host listed
  refine ⟨sender, present, entry, grown.taken taken, original, read, ?_⟩
  have env : kept.env = receiver.env := congrArg (·.2.1) same
  have key : kept.engine.key = receiver.engine.key := congrArg (·.2.2) same
  have sent : sender.engine.key = host.engine.key := congrArg (·.2.2) grown.fixed
  rwa [env, key, sent]

theorem Accounted.mono {receiver kept : Host} {output : Desktop.Output}
    (accounted : network.Accounted receiver output) (grows : network.Grows later)
    (same : kept.fixed = receiver.fixed) : later.Accounted kept output := by
  have env : kept.env = receiver.env := congrArg (·.2.1) same
  cases output with
  | notice notice =>
      cases notice with
      | inText text origin =>
          obtain ⟨html, source⟩ := accounted
          exact ⟨html, source.mono grows⟩
      | _ => trivial
  | clipboard content =>
      cases content with
      | text text | sensitive text =>
          obtain ⟨origin, html, source⟩ := accounted
          exact ⟨origin, html, source.mono grows⟩
      | html html text =>
          obtain ⟨origin, source⟩ := accounted
          exact ⟨origin, source.mono grows⟩
      | image rgba =>
          obtain ⟨content, decoded, source⟩ := accounted
          exact ⟨content, env ▸ decoded, source.mono grows same⟩
      | files paths => trivial
  | file name content => exact FileFrom.mono accounted grows same
  | _ => trivial

end Growing

end Network

/-! ## One client -/

/-- What a host knows of its content: what it offers was taken, what it fetches was
conveyed, and what it shows was sent. -/
structure Host.Sound (lib : Server.Library) (network : Network) (host : Host) : Prop where
  owns : host.engine.Owns
  offers : ∀ event, host.engine.Offers event →
    ∃ entry ∈ host.docket.taken, entry.event? = some event
  built : ∀ entry ∈ host.docket.taken, entry.Built host.env host.engine.key
  intact : host.engine.Intact host.env
  pulls : ∀ clip ∈ host.engine.pulls, network.Conveyed lib clip ∧ clip.isBlob = true
  shown : ∀ output ∈ host.engine.receipts, network.Accounted host output

namespace Network

section Clients

variable {lib : Server.Library} {network later : Network} {host : Host}
variable {prims : Primitives} {clip : Desktop.ClipEvent}

/-- Everyone's libraries behave alike and lose nothing, and whoever receives a clip knows
its sender's key by its name, if at all. -/
structure Agreed (prims : Primitives) (network : Network) : Prop where
  lossless : Lossless prims
  prims : ∀ host ∈ network.hosts, host.env.prims = prims
  known : ∀ receiver ∈ network.hosts, ∀ sender ∈ network.hosts,
    Known receiver.engine.key sender.engine.key

/-- What a text clip shows was sent. -/
theorem textReceipts_accounted (agreed : network.Agreed prims) (listed : host ∈ network.hosts)
    (sound : ∀ host ∈ network.hosts, host.Sound lib network)
    (conveyed : network.Conveyed lib clip) (text : clip.isBlob = false)
    (applying : Desktop.Applying) :
    ∀ output ∈ host.engine.textReceipts host.env clip applying,
      network.Accounted host output := by
  intro output shown
  rw [Desktop.Engine.textReceipts] at shown
  cases read : host.engine.incomingText host.env clip with
  | error refusal => simp [read] at shown
  | ok content =>
      -- The text and the rich text that can be read have one source.
      have source : ∃ html, network.TextFrom clip.originDevice content html ∧
          ∀ rich, host.engine.incomingHtml host.env clip = some rich → html = some rich := by
        cases conveyed with
        | sent sender sent now among framed =>
            have trusted := sound sender among
            obtain ⟨entry, taken, planned⟩ := trusted.offers sent (.inl framed)
            have makes := (trusted.built entry taken).makes planned
            have env := (agreed.prims host listed).trans (agreed.prims sender among).symm
            cases parcel : entry.parcel with
            | text copied html =>
                rw [parcel] at makes
                obtain ⟨draw, seq, targets, made⟩ := makes
                rw [← env] at made
                have lossless : Lossless host.env.prims :=
                  (agreed.prims host listed).symm ▸ agreed.lossless
                obtain ⟨rfl, rich⟩ := read_text lossless made rfl rfl rfl
                  (agreed.known host listed sender among) read
                exact ⟨html, .inl ⟨sender, among, rfl, entry, taken, parcel⟩, rich⟩
            | image picture =>
                rw [parcel] at makes
                obtain ⟨png, -, ⟨nonce, payload, -, named⟩, -⟩ := makes
                have blob : sent.isBlob = true := Desktop.isBlob_of_digest named
                cases blob.symm.trans text
            | file document =>
                rw [parcel] at makes
                obtain ⟨data, -, ⟨nonce, payload, -, named⟩, -⟩ := makes
                have blob : sent.isBlob = true := Desktop.isBlob_of_digest named
                cases blob.symm.trans text
        | announced id announced now among =>
            cases read
            exact ⟨none, .inr ⟨rfl, rfl, among⟩, fun rich shown => by cases shown⟩
      obtain ⟨html, source, rich⟩ := source
      simp only [read, List.mem_append, List.mem_map, Option.mem_toList, List.mem_singleton]
        at shown
      rcases shown with ⟨content', written, rfl⟩ | rfl
      · simp only [Desktop.Engine.textContent, read] at written
        split at written
        next readable applied =>
          cases readable
          cases incoming : host.engine.incomingHtml host.env clip with
          | some shownHtml =>
              simp only [incoming, Option.some.injEq] at written
              subst written
              exact ⟨clip.originDevice, rich shownHtml incoming ▸ source⟩
          | none =>
              simp only [incoming, Option.some.injEq] at written
              subst written
              split
              · exact ⟨clip.originDevice, html, source⟩
              · exact ⟨clip.originDevice, html, source⟩
        next => cases written
      · exact ⟨html, source⟩

/-- What a downloaded blob shows was sent. -/
theorem blobReceipts_accounted (agreed : network.Agreed prims) (listed : host ∈ network.hosts)
    (sound : ∀ host ∈ network.hosts, host.Sound lib network)
    (conveyed : network.Conveyed lib clip) (blob : clip.isBlob = true) {data : Bytes}
    (address : blobId host.env.prims data = clip.blobId) (applying : Desktop.Applying) :
    ∀ output ∈ host.engine.blobReceipts host.env clip data applying,
      network.Accounted host output := by
  intro output shown
  rw [Desktop.Engine.blobReceipts] at shown
  cases read : host.engine.incomingBlob host.env clip data with
  | error refusal => simp [read] at shown
  | ok content =>
      have source : network.FileFrom host content := by
        cases conveyed with
        | sent sender sent now among framed =>
            have trusted := sound sender among
            obtain ⟨entry, taken, planned⟩ := trusted.offers sent (.inl framed)
            have makes := (trusted.built entry taken).makes planned
            have env := (agreed.prims host listed).trans (agreed.prims sender among).symm
            have lossless : Lossless host.env.prims :=
              (agreed.prims host listed).symm ▸ agreed.lossless
            have known := agreed.known host listed sender among
            rw [← env] at makes
            cases parcel : entry.parcel with
            | text copied html =>
                rw [parcel] at makes
                obtain ⟨draw, seq, targets, made⟩ := makes
                have plain := Desktop.newText_isBlob made
                cases (show sent.isBlob = true from blob).symm.trans plain
            | image picture =>
                rw [parcel] at makes
                obtain ⟨png, encoded, publishes⟩ := makes
                exact ⟨sender, among, entry, taken, png, parcel ▸ encoded,
                  read_blob lossless publishes rfl rfl address known read⟩
            | file document =>
                rw [parcel] at makes
                obtain ⟨original, stored, publishes⟩ := makes
                exact ⟨sender, among, entry, taken, original, parcel ▸ stored,
                  read_blob lossless publishes rfl rfl address known read⟩
        | announced id text now among => cases blob
      simp only [read, List.cons_append, List.mem_cons, List.mem_append, List.mem_map,
        Option.mem_toList, List.not_mem_nil, or_false] at shown
      rcases shown with rfl | ⟨written, put, rfl⟩ | rfl
      · exact source
      · simp only [Desktop.Engine.blobContent, read] at put
        split at put
        next readable applied =>
          cases readable
          split at put
          · split at put
            next rgba decoded =>
              cases put
              exact ⟨content, decoded, source⟩
            next => cases put
          · cases put
            trivial
        next => cases put
      · trivial

/-- The agreement is about what no step changes. -/
theorem Agreed.advance (agreed : network.Agreed prims) (advances : network.Advances later) :
    later.Agreed prims := by
  have known (kept : Host) (listed : kept ∈ later.hosts) :
      ∃ host ∈ network.hosts, kept.fixed = host.fixed := by
    obtain ⟨host, among, moved⟩ := Parties.mem_earlier advances.hosts listed
    exact ⟨host, among, moved.grows.fixed⟩
  constructor
  · exact agreed.lossless
  · intro kept listed
    obtain ⟨host, among, fixed⟩ := known kept listed
    have env : kept.env = host.env := congrArg (·.2.1) fixed
    exact env ▸ agreed.prims host among
  · intro receiver listed sender among
    obtain ⟨host, here, fixed⟩ := known receiver listed
    obtain ⟨other, there, fixed'⟩ := known sender among
    have key : receiver.engine.key = host.engine.key := congrArg (·.2.2) fixed
    have key' : sender.engine.key = other.engine.key := congrArg (·.2.2) fixed'
    exact key ▸ key' ▸ agreed.known host here other there

end Clients

end Network

namespace Host.Sound

variable {lib : Server.Library} {network later : Network} {host : Host} {prims : Primitives}

theorem start (device : Server.DeviceID) (env : Desktop.Env) (config : Desktop.Config) :
    (⟨device, env, .start env config, none⟩ : Host).Sound lib network where
  owns report kept := by cases kept
  offers event offered := by
    rcases offered with framed | ⟨report, kept, -⟩
    · cases framed
    · cases kept
  built entry taken := by cases taken
  intact data event waiting := by cases waiting
  pulls clip pulled := by cases pulled
  shown output listed := by cases listed

/-- A host that takes no turn. -/
theorem rest (sound : host.Sound lib network) (conn : Option Server.ConnID)
    (grows : network.Grows later) : ({ host with conn } : Host).Sound lib later where
  owns := sound.owns
  offers := sound.offers
  built := sound.built
  intact := sound.intact
  pulls clip pulled := (sound.pulls clip pulled).imp_left fun conveyed => conveyed.mono grows
  shown output listed := (sound.shown output listed).mono grows rfl

/-- A clip that a turn applies or fetches was conveyed. -/
theorem receives_accounted (sound : ∀ host ∈ network.hosts, host.Sound lib network)
    (agreed : network.Agreed prims) (listed : host ∈ network.hosts) {action : Desktop.Action}
    (conveyed : ∀ clip applying, action = .frame (.clip clip applying) →
      network.Conveyed lib clip) :
    ∀ output ∈ host.engine.receives host.env action, network.Accounted host output := by
  intro output shown
  cases action with
  | frame frame =>
      cases frame with
      | clip clip applying =>
          simp only [Desktop.Engine.receives] at shown
          split at shown
          · cases shown
          · exact Network.textReceipts_accounted agreed listed sound (conveyed clip applying rfl)
              (by simpa using ‹¬clip.isBlob = true›) applying output shown
      | _ => cases shown
  | result delivered applying =>
      simp only [Desktop.Engine.receives] at shown
      split at shown
      next data clip rest found =>
        have first : .download (.ok data) clip ∈ host.engine.results := by simp [found]
        have pulled : clip ∈ host.engine.pulls := by
          simp [Desktop.Engine.pulls, Desktop.Engine.fetched, found,
            Desktop.BlobResult.download?]
        obtain ⟨source, blob⟩ := (sound host listed).pulls clip pulled
        exact Network.blobReceipts_accounted agreed listed sound source blob
          ((sound host listed).intact data clip first) applying output shown
      next => cases shown
  | _ => cases shown

theorem turn (sound : ∀ host ∈ network.hosts, host.Sound lib network)
    (agreed : network.Agreed prims) (listed : host ∈ network.hosts) {action : Desktop.Action}
    (conveyed : ∀ clip applying, action = .frame (.clip clip applying) →
      network.Conveyed lib clip)
    {docket : Desktop.Docket} (stepped : host.docket.step host.env action = some docket)
    (conn : Option Server.ConnID) (grows : network.Grows later) :
    ({ host with docket, conn } : Host).Sound lib later := by
  obtain ⟨moved, taken⟩ := Desktop.Docket.step_some stepped
  have mine := sound host listed
  have key : docket.engine.key = host.engine.key := Desktop.Engine.key_of_step moved
  have fixed : ({ host with docket, conn } : Host).fixed = host.fixed :=
    congrArg (fun key => (host.device, host.env, key)) key
  constructor
  · exact Desktop.Engine.Owns.step mine.owns moved
  · intro event offered
    simp only [taken]
    rcases (Desktop.Engine.offers_of_step moved).offers offered with old | ⟨entry, new, planned⟩
    · obtain ⟨entry, among, planned⟩ := mine.offers event old
      exact ⟨entry, List.mem_append_left _ among, planned⟩
    · exact ⟨entry, List.mem_append_right _ new, planned⟩
  · intro entry among
    have made : entry.Built host.env host.engine.key := by
      rcases List.mem_append.mp (taken ▸ among) with old | new
      · exact mine.built entry old
      · exact Desktop.built_of_takes new
    exact key ▸ made
  · exact Desktop.Engine.Intact.step mine.intact moved
  · intro clip pulled
    rcases Desktop.Engine.pulls_of_step moved clip pulled with old | ⟨applying, rfl, blob⟩
    · exact (mine.pulls clip old).imp_left fun conveyed => conveyed.mono grows
    · exact ⟨(conveyed clip applying rfl).mono grows, blob⟩
  · intro output shown
    rw [show ({ host with docket, conn } : Host).engine.receipts = _ from
      Desktop.Engine.receipts_of_step mine.owns moved] at shown
    rcases List.mem_append.mp shown with old | new
    · exact (mine.shown output old).mono grows fixed
    · exact (receives_accounted sound agreed listed conveyed output new).mono grows fixed

/-- A step of the network keeps what a host knows of its content. -/
theorem advance (sound : ∀ host ∈ network.hosts, host.Sound lib network)
    (agreed : network.Agreed prims) (traced : network.Traced lib)
    (advances : network.Advances later) : ∀ host ∈ later.hosts, host.Sound lib later := by
  intro kept among
  obtain ⟨host, listed, moved⟩ := Parties.mem_earlier advances.hosts among
  cases moved with
  | rest conn => exact (sound host listed).rest conn advances.grows
  | turn docket conn action stepped carried =>
      refine turn sound agreed listed ?_ stepped conn advances.grows
      intro clip applying frame
      obtain ⟨wire, among, payload, down, decoded⟩ := carried clip applying frame
      exact traced.conveyed among down decoded

end Host.Sound

end CopySync.Interop
