import CopySync.Server.Blob.Pull

/-!
# No wake-up is lost

A pull registers its channel before it looks again, and an upload stores before it signals.
So once an upload has signalled, every pull of the blob that is not settled either looks
again and finds it, or has its channel closed; none of them waits.
-/

namespace CopySync.Server

open Foundation

namespace Exchange

/-- Some upload of the blob has stored it and has signalled. -/
def Delivered (exchange : Exchange) (id : BlobID) : Prop :=
  ∃ upload ∈ exchange.uploads, upload.id = id ∧ upload.stage = .finished

/-- Which blob each pull is about, and the channel it has registered. -/
def roster (exchange : Exchange) : List (BlobID × Option ChanID) :=
  exchange.pulls.map fun pull => (pull.id, pull.channel?)

end Exchange

/-- What holds of a pull, given what `Open` finds, the closed channels, and whether the blob
was delivered. -/
structure Pull.Sound (stored : Option (List UInt8)) (closed : List ChanID) (delivered : Prop)
    (pull : Pull) : Prop where
  parked : ∀ {ch : ChanID}, pull.stage = .parked ch → ch ∉ closed
  woken : ∀ {ch : ChanID}, pull.stage = .woken ch → ch ∈ closed
  present : ∀ {ch : ChanID}, pull.channel? = some ch → ch ∈ closed → stored ≠ none
  served : ∀ {bytes : List UInt8}, pull.result? = some (.blob bytes) → stored = some bytes
  signalled : delivered → ∀ {ch : ChanID}, pull.stage = .selecting ch ∨ pull.stage = .parked ch →
    ch ∈ closed

namespace Pull.Sound

variable {stored : Option (List UInt8)} {closed : List ChanID} {delivered : Prop}
variable {pull next : Pull}

/-- Where a blob was delivered nobody waits. -/
theorem awake (sound : pull.Sound stored closed delivered) (done : delivered) (ch : ChanID) :
    pull.stage ≠ .parked ch :=
  fun waits => sound.parked waits (sound.signalled done (.inr waits))

/-- Blobs stay. -/
theorem mono (sound : pull.Sound stored closed delivered) {later : Option (List UInt8)}
    (kept : ∀ {bytes : List UInt8}, stored = some bytes → later = some bytes) :
    pull.Sound later closed delivered where
  parked := sound.parked
  woken := sound.woken
  present := by
    intro ch registered inside
    obtain ⟨bytes, found⟩ := Option.ne_none_iff_exists'.mp (sound.present registered inside)
    exact Option.ne_none_iff_exists'.mpr ⟨bytes, kept found⟩
  served := fun settled => kept (sound.served settled)
  signalled := sound.signalled

/-- A step of the pull, or of its requester. -/
theorem advance (sound : pull.Sound stored closed delivered) (present : delivered → stored ≠ none)
    (advance : Exchange.Advance stored closed [] pull next) :
    next.Sound stored closed delivered := by
  have registered : ∀ ch, next.channel? = some ch → pull.channel? = some ch := by
    intro ch holds
    cases advance with
    | left => cases holds
    | _ => exact holds
  constructor
  · intro ch waits
    cases advance with
    | stay => exact sound.parked waits
    | marked awake => exact absurd waits (awake ch)
    | park idle =>
        cases waits
        exact idle
    | _ => cases waits
  · intro ch awake
    cases advance with
    | stay => exact sound.woken awake
    | marked => exact sound.woken awake
    | received ready =>
        cases awake
        exact ready
    | woke inside => cases inside
    | _ => cases awake
  · exact fun holds inside => sound.present (registered _ holds) inside
  · intro bytes settled
    cases advance with
    | stay => exact sound.served settled
    | marked => exact sound.served settled
    | left => exact sound.served settled
    | found here =>
        cases settled
        exact here
    | opened here =>
        cases settled
        exact here
    | _ => cases settled
  · intro done ch waits
    cases advance with
    | stay => exact sound.signalled done waits
    | marked => exact sound.signalled done waits
    | missed absent => exact absurd absent (present done)
    | park idle => exact absurd (sound.signalled done (.inl rfl)) idle
    | _ => rcases waits with waits | waits <;> cases waits

end Pull.Sound

/-- What a pull still comes to once its blob was delivered: it does not time out, and says that
it was cancelled only if it was; no one is missed once the origin was `asked`, and a pull that
was `woken` by then brings the blob. -/
structure Pull.Owed (asked woken : Prop) (pull : Pull) : Prop where
  punctual : pull.result? ≠ some .timeout
  excused : pull.result? = some .cancelled → pull.cancelled = true
  answered : asked → (∀ ch, pull.stage ≠ .requesting ch) ∧ pull.result? ≠ some .noOrigin
  waking : woken → (∃ ch, pull.stage = .woken ch) ∨ ∃ bytes, pull.result? = some (.blob bytes)

namespace Pull.Owed

variable {stored : Option (List UInt8)} {closed closing : List ChanID} {delivered : Prop}
variable {asked woken : Prop} {pull next : Pull}

/-- A pull goes on after the blob was delivered. -/
theorem advance (owed : pull.Owed asked woken) (sound : pull.Sound stored closed delivered)
    (done : delivered) (present : stored ≠ none)
    (advance : Exchange.Advance stored closed closing pull next) : next.Owed asked woken where
  punctual := by
    cases advance with
    | stay => exact owed.punctual
    | marked => exact owed.punctual
    | left => exact owed.punctual
    | vanished absent => exact absurd absent present
    | expired => exact absurd rfl (sound.awake done _)
    | _ => exact fun settled => by cases settled
  excused := by
    intro settled
    cases advance with
    | stay => exact owed.excused settled
    | left => exact owed.excused settled
    | marked => rfl
    | gaveUp => rfl
    | cancelled => rfl
    | _ => cases settled
  answered := by
    intro reached
    obtain ⟨past, answered⟩ := owed.answered reached
    cases advance with
    | stay => exact ⟨past, answered⟩
    | marked => exact ⟨past, answered⟩
    | left => exact ⟨fun ch same => (by cases same), answered⟩
    | refused => exact absurd rfl (past _)
    | _ => exact ⟨fun ch same => (by cases same), fun settled => (by cases settled)⟩
  waking := by
    intro awake
    rcases owed.waking awake with ⟨ch, waking⟩ | ⟨bytes, settled⟩
    · cases advance with
      | stay => exact .inl ⟨ch, waking⟩
      | marked => exact .inl ⟨ch, waking⟩
      | opened => exact .inr ⟨_, rfl⟩
      | vanished absent => exact absurd absent present
      | _ => cases waking
    · cases advance with
      | stay => exact .inr ⟨bytes, settled⟩
      | marked => exact .inr ⟨bytes, settled⟩
      | left => exact .inr ⟨bytes, settled⟩
      | _ => cases settled

end Pull.Owed

namespace Exchange

/-! ## The invariant -/

/-- The channels are accounted for and were made; uploads that passed `Put` have stored their
blob; every pull is sound. -/
structure Sound (root : Path) (exchange : Exchange) : Prop where
  accounts : Waiters.Accounts exchange.waiters exchange.closed exchange.roster
  issued : ∀ {id : BlobID} {ch : ChanID}, (id, some ch) ∈ exchange.roster → ch < exchange.made
  past : ∀ ch ∈ exchange.closed, ch < exchange.made
  valid : ∀ pull ∈ exchange.pulls, validID pull.id = true
  accepted : ∀ upload ∈ exchange.uploads, validID upload.id = true
  uploaded : ∀ upload ∈ exchange.uploads,
    upload.stage = .signalling ∨ upload.stage = .finished →
    openBlob root exchange.files upload.id ≠ none
  pulls : ∀ pull ∈ exchange.pulls, pull.Sound (openBlob root exchange.files pull.id)
    exchange.closed (exchange.Delivered pull.id)

section Sound

variable {digest : List UInt8 → List UInt8} {root : Path} {hub : Bool}
variable {exchange after : Exchange} {id : BlobID}

theorem Sound.boot (files : Files Path) : Sound root (boot files) where
  accounts := .empty
  issued := fun absent => by cases absent
  past := fun _ absent => by cases absent
  valid := fun _ absent => by cases absent
  accepted := fun _ absent => by cases absent
  uploaded := fun _ absent => by cases absent
  pulls := fun _ absent => by cases absent

theorem Sound.stored (sound : exchange.Sound root) (delivered : exchange.Delivered id) :
    openBlob root exchange.files id ≠ none := by
  obtain ⟨upload, there, rfl, finished⟩ := delivered
  exact sound.uploaded upload there (.inr finished)

theorem mem_roster {pull : Pull} (there : pull ∈ exchange.pulls) :
    (pull.id, pull.channel?) ∈ exchange.roster := List.mem_map_of_mem there

theorem roster_get {index : Nat} {pull : Pull} (there : exchange.pulls[index]? = some pull) :
    exchange.roster[index]? = some (pull.id, pull.channel?) := by
  rw [roster, List.getElem?_map, there, Option.map_some]

theorem roster_setPull {index : Nat} {next : Pull} :
    (exchange.setPull index next).roster = exchange.roster.set index (next.id, next.channel?) :=
  List.map_set

/-- A pull that keeps its channel leaves the roster as it is. -/
theorem roster_keep {index : Nat} {pull next : Pull}
    (there : exchange.pulls[index]? = some pull) (same : next.id = pull.id)
    (holds : next.channel? = pull.channel?) :
    (exchange.setPull index next).roster = exchange.roster := by
  obtain ⟨inside, here⟩ := List.getElem?_eq_some_iff.mp (roster_get there)
  rw [roster_setPull, same, holds, ← here, List.set_getElem_self]

/-- An upload that had not finished goes on. -/
theorem delivered_setUpload {index : Nat} {upload : UploadCall} {stage : UploadStage}
    (there : exchange.uploads[index]? = some upload) (unfinished : upload.stage ≠ .finished) :
    (exchange.setUpload index { upload with stage }).Delivered id ↔
      exchange.Delivered id ∨ upload.id = id ∧ stage = .finished := by
  obtain ⟨inside, here⟩ := List.getElem?_eq_some_iff.mp there
  constructor
  · rintro ⟨other, inList, same, finished⟩
    rcases List.mem_or_eq_of_mem_set inList with old | rfl
    · exact .inl ⟨other, old, same, finished⟩
    · exact .inr ⟨same, finished⟩
  · rintro (⟨other, inList, same, finished⟩ | ⟨same, finished⟩)
    · obtain ⟨place, found⟩ := List.mem_iff_getElem?.mp inList
      refine ⟨other, List.mem_of_getElem? ((List.getElem?_set_ne ?_).trans found), same, finished⟩
      intro shared
      cases there.symm.trans (shared ▸ found)
      exact unfinished finished
    · exact ⟨_, List.mem_set inside _, same, finished⟩

/-- A pull comes in. -/
theorem Sound.joined (sound : exchange.Sound root) (next : Pull) {made : ChanID}
    {waiters : Waiters BlobID ChanID} (valid : validID next.id = true)
    (accounts : Waiters.Accounts waiters exchange.closed
      (exchange.roster ++ [(next.id, next.channel?)]))
    (grows : exchange.made ≤ made) (issued : ∀ ch, next.channel? = some ch → ch < made)
    (pulling : next.Sound (openBlob root exchange.files next.id) exchange.closed
      (exchange.Delivered next.id)) :
    Sound root { exchange with made, waiters, pulls := exchange.pulls ++ [next] } where
  accounts := by
    rw [roster, List.map_append]
    exact accounts
  issued := by
    intro id ch inside
    rw [roster, List.map_append] at inside
    rcases List.mem_append.mp inside with old | new
    · exact Nat.lt_of_lt_of_le (sound.issued old) grows
    · exact issued ch (congrArg Prod.snd (List.mem_singleton.mp new)).symm
  past := fun ch inside => Nat.lt_of_lt_of_le (sound.past ch inside) grows
  valid := by
    intro pull inside
    rcases List.mem_append.mp inside with old | new
    · exact sound.valid pull old
    · exact List.mem_singleton.mp new ▸ valid
  accepted := sound.accepted
  uploaded := sound.uploaded
  pulls := by
    intro pull inside
    rcases List.mem_append.mp inside with old | new
    · exact sound.pulls pull old
    · exact List.mem_singleton.mp new ▸ pulling

/-- A pull goes on, and makes no channel. -/
theorem Sound.replaced (sound : exchange.Sound root) {index : Nat} {pull : Pull} (next : Pull)
    {waiters : Waiters BlobID ChanID} (there : exchange.pulls[index]? = some pull)
    (same : next.id = pull.id)
    (held : ∀ ch, next.channel? = some ch → pull.channel? = some ch)
    (accounts : Waiters.Accounts waiters exchange.closed
      (exchange.roster.set index (next.id, next.channel?)))
    (pulling : next.Sound (openBlob root exchange.files next.id) exchange.closed
      (exchange.Delivered next.id)) :
    Sound root ({ exchange with waiters }.setPull index next) where
  accounts := by
    rw [roster_setPull]
    exact accounts
  issued := by
    intro id ch inside
    rw [roster_setPull] at inside
    rcases List.mem_or_eq_of_mem_set inside with old | new
    · exact sound.issued old
    · have registered := held ch (congrArg Prod.snd new).symm
      exact sound.issued (registered ▸ mem_roster (List.mem_of_getElem? there))
  past := sound.past
  valid := by
    intro other inside
    rcases List.mem_or_eq_of_mem_set inside with old | rfl
    · exact sound.valid other old
    · exact same ▸ sound.valid pull (List.mem_of_getElem? there)
  accepted := sound.accepted
  uploaded := sound.uploaded
  pulls := by
    intro other inside
    rcases List.mem_or_eq_of_mem_set inside with old | rfl
    · exact sound.pulls other old
    · exact pulling

/-- Uploads go on and blobs come in. -/
theorem Sound.uploading (sound : exchange.Sound root) {files : Files Path}
    {uploads : List UploadCall}
    (kept : ∀ {id : BlobID} {bytes : List UInt8}, validID id = true →
      openBlob root exchange.files id = some bytes → openBlob root files id = some bytes)
    (accepted : ∀ upload ∈ uploads, validID upload.id = true)
    (uploaded : ∀ upload ∈ uploads, upload.stage = .signalling ∨ upload.stage = .finished →
      upload ∈ exchange.uploads ∨ openBlob root files upload.id ≠ none)
    (delivered : ∀ {id : BlobID}, { exchange with files, uploads }.Delivered id →
      exchange.Delivered id) :
    Sound root { exchange with files, uploads } where
  accounts := sound.accounts
  issued := sound.issued
  past := sound.past
  valid := sound.valid
  accepted := accepted
  uploaded := by
    intro upload inside passed
    refine (uploaded upload inside passed).elim ?_ id
    intro old
    obtain ⟨bytes, found⟩ :=
      Option.ne_none_iff_exists'.mp (sound.uploaded upload old passed)
    exact Option.ne_none_iff_exists'.mpr ⟨bytes, kept (sound.accepted upload old) found⟩
  pulls := by
    intro pull inside
    have pulling := (sound.pulls pull inside).mono (kept (sound.valid pull inside))
    exact {
      parked := pulling.parked
      woken := pulling.woken
      present := pulling.present
      served := pulling.served
      signalled := fun done => pulling.signalled (delivered done) }

theorem wake_id (closing : List ChanID) (pull : Pull) : (pull.wake closing).id = pull.id := by
  rcases pull.wake_cases closing with ⟨-, same⟩ | ⟨ch, -, -, woken⟩
  · rw [same]
  · rw [woken]

theorem wake_channel? (closing : List ChanID) (pull : Pull) :
    (pull.wake closing).channel? = pull.channel? := by
  rcases pull.wake_cases closing with ⟨-, same⟩ | ⟨ch, -, waits, woken⟩
  · rw [same]
  · rw [woken, Pull.channel?, Pull.channel?, waits]

/-- After a signal who was parked at a closed channel is woken, and a pull that has not looked
at its channel yet will find it closed. -/
theorem Sound.wake (sound : exchange.Sound root) {pull : Pull} (inside : pull ∈ exchange.pulls)
    (present : openBlob root exchange.files id ≠ none) :
    (pull.wake (exchange.waiters.of id)).Sound (openBlob root exchange.files pull.id)
      (exchange.closed ++ exchange.waiters.of id) (exchange.Delivered pull.id ∨ id = pull.id) := by
  have pulling := sound.pulls pull inside
  -- A channel that is closed now waited for this blob.
  have shared : ∀ ch, pull.channel? = some ch → ch ∈ exchange.closed ++ exchange.waiters.of id →
      openBlob root exchange.files pull.id ≠ none := by
    intro ch registered closing
    rcases List.mem_append.mp closing with old | new
    · exact pulling.present registered old
    · have same : pull.id = id :=
        sound.accounts.same_key (registered ▸ mem_roster inside) (sound.accounts.owned new).2
      rw [same]
      exact present
  rcases pull.wake_cases (exchange.waiters.of id) with ⟨deaf, same⟩ | ⟨ch, signalled, waits, woken⟩
  · rw [same]
    exact {
      parked := by
        intro ch waits closing
        rcases List.mem_append.mp closing with old | new
        · exact pulling.parked waits old
        · exact deaf ch new waits
      woken := fun awake => List.mem_append_left _ (pulling.woken awake)
      present := fun registered => shared _ registered
      served := pulling.served
      signalled := by
        intro done ch waits
        rcases done with done | rfl
        · exact List.mem_append_left _ (pulling.signalled done waits)
        · have registered : pull.channel? = some ch := by
            rw [Pull.channel?]
            rcases waits with waits | waits <;> rw [waits]
          exact List.mem_append.mpr
            (sound.accounts.listed (registered ▸ mem_roster inside)).symm }
  · rw [woken]
    have registered : pull.channel? = some ch := by rw [Pull.channel?, waits]
    have closing := List.mem_append_right exchange.closed signalled
    exact {
      parked := fun waits => by cases waits
      woken := by
        intro other awake
        cases awake
        exact closing
      present := fun _ _ => shared ch registered closing
      served := fun settled => by cases settled
      signalled := by
        intro _ other waits
        rcases waits with waits | waits <;> cases waits }

theorem Sound.signalling (sound : exchange.Sound root) {index : Nat} {upload : UploadCall}
    (there : exchange.uploads[index]? = some upload) (ready : upload.stage = .signalling) :
    Sound root ({ exchange with
      closed := exchange.closed ++ exchange.waiters.of upload.id
      waiters := OrderedMap.erase exchange.waiters upload.id
      pulls := exchange.pulls.map (Pull.wake (exchange.waiters.of upload.id)) }.setUpload index
        { upload with stage := .finished }) := by
  have member := List.mem_of_getElem? there
  have present := sound.uploaded upload member (.inl ready)
  have unfinished : upload.stage ≠ .finished := by simp [ready]
  have kept : (exchange.pulls.map (Pull.wake (exchange.waiters.of upload.id))).map
      (fun pull => (pull.id, pull.channel?)) = exchange.roster := by
    rw [List.map_map, roster]
    apply List.map_congr_left
    intro pull inside
    rw [Function.comp_apply, wake_id, wake_channel?]
  exact {
    accounts := by
      rw [roster, setUpload, kept]
      exact sound.accounts.signal upload.id
    issued := by
      intro id ch inside
      rw [roster, setUpload, kept] at inside
      exact sound.issued inside
    past := by
      intro ch closing
      rcases List.mem_append.mp closing with old | new
      · exact sound.past ch old
      · exact sound.issued (sound.accounts.owned new).2
    valid := by
      intro other inside
      obtain ⟨pull, old, rfl⟩ := List.mem_map.mp inside
      rw [wake_id]
      exact sound.valid pull old
    accepted := by
      intro other inside
      rcases List.mem_or_eq_of_mem_set inside with old | rfl
      · exact sound.accepted other old
      · exact sound.accepted upload member
    uploaded := by
      intro other inside passed
      rcases List.mem_or_eq_of_mem_set inside with old | rfl
      · exact sound.uploaded other old passed
      · exact present
    pulls := by
      intro other inside
      obtain ⟨pull, old, rfl⟩ := List.mem_map.mp inside
      have pulling := sound.wake old present
      rw [wake_id]
      exact {
        parked := pulling.parked
        woken := pulling.woken
        present := pulling.present
        served := pulling.served
        signalled := by
          intro done
          apply pulling.signalled
          exact ((delivered_setUpload there unfinished).mp done).imp_right And.left } }

/-- Every step keeps the invariant. -/
theorem Sound.change (sound : exchange.Sound root) (change : Change digest root exchange after) :
    after.Sound root := by
  cases change with
  | @begun id valid =>
      have fresh : exchange.made ∉ exchange.closed :=
        fun inside => Nat.lt_irrefl _ (sound.past _ inside)
      apply sound.joined ⟨id, false, .requesting exchange.made⟩ valid
      · exact sound.accounts.join (fun other inside => Nat.lt_irrefl _ (sound.issued inside)) fresh
      · exact Nat.le_succ _
      · intro ch registered
        cases registered
        exact Nat.lt_succ_self _
      · exact {
          parked := fun waits => by cases waits
          woken := fun awake => by cases awake
          present := by
            intro ch registered inside
            cases registered
            exact absurd inside fresh
          served := fun settled => by cases settled
          signalled := by
            intro done ch waits
            rcases waits with waits | waits <;> cases waits }
  | @dismissed id valid =>
      apply sound.joined ⟨id, false, .returned .noOrigin⟩ valid
      · exact sound.accounts.pass
      · exact Nat.le_refl _
      · exact fun ch registered => by cases registered
      · exact {
          parked := fun waits => by cases waits
          woken := fun awake => by cases awake
          present := fun registered => by cases registered
          served := fun settled => by cases settled
          signalled := by
            intro done ch waits
            rcases waits with waits | waits <;> cases waits }
  | moved there advance holds =>
      have same := advance.keeps.1
      apply sound.replaced _ there same (fun ch registered => holds ▸ registered)
      · rw [← roster_setPull, roster_keep there same holds]
        exact sound.accounts
      · rw [same]
        exact (sound.pulls _ (List.mem_of_getElem? there)).advance sound.stored advance
  | @left index id cancelled ch result there =>
      apply sound.replaced ⟨id, cancelled, .returned result⟩ there rfl
      · exact fun ch registered => by cases registered
      · exact sound.accounts.leave (roster_get there)
      · exact (sound.pulls _ (List.mem_of_getElem? there)).advance sound.stored .left
  | @announced id valid =>
      apply sound.uploading (fun _ found => found)
      · intro upload inside
        rcases List.mem_append.mp inside with old | new
        · exact sound.accepted upload old
        · exact List.mem_singleton.mp new ▸ valid
      · intro upload inside passed
        rcases List.mem_append.mp inside with old | new
        · exact .inl old
        · cases List.mem_singleton.mp new
          rcases passed with passed | passed <;> cases passed
      · rintro id ⟨upload, inside, same, finished⟩
        rcases List.mem_append.mp inside with old | new
        · exact ⟨upload, old, same, finished⟩
        · cases List.mem_singleton.mp new
          cases finished
  | @stored index upload body suffix maxBytes faults files result there ready taken =>
      have unfinished : upload.stage ≠ .finished := by simp [ready]
      apply sound.uploading (fun valid found => put_keeps taken valid found)
      · intro other inside
        rcases List.mem_or_eq_of_mem_set inside with old | rfl
        · exact sound.accepted other old
        · exact sound.accepted upload (List.mem_of_getElem? there)
      · intro other inside passed
        rcases List.mem_or_eq_of_mem_set inside with old | rfl
        · exact .inl old
        · cases result with
          | error error => rcases passed with passed | passed <;> cases passed
          | ok size => exact .inr (Option.isSome_iff_ne_none.mp (put_ok_stored taken))
      · intro id delivered
        refine ((delivered_setUpload there unfinished).mp delivered).resolve_right ?_
        rintro ⟨-, finished⟩
        split_ifs at finished
  | signalled there ready => exact sound.signalling there ready

theorem Sound.reached {files : Files Path}
    (run : Reachable (step digest root hub) (Exchange.boot files) exchange) :
    exchange.Sound root :=
  run.invariant (Sound.boot files) fun sound _ stepped => sound.change (change_of_step stepped)

end Sound

/-! ## What becomes of one pull -/

section Pulls

variable {digest : List UInt8 → List UInt8} {root : Path} {hub : Bool}
variable {exchange after : Exchange} {id : BlobID} {index : Nat}

/-- Every step lets every pull stand or go on. -/
theorem Change.advances (change : Change digest root exchange after) {pull : Pull}
    (there : exchange.pulls[index]? = some pull) :
    ∃ next closing, after.pulls[index]? = some next ∧
      Advance (openBlob root exchange.files pull.id) exchange.closed closing pull next := by
  have inside := (List.getElem?_eq_some_iff.mp there).1
  have replaced : ∀ {place : Nat} {old next : Pull}, exchange.pulls[place]? = some old →
      Advance (openBlob root exchange.files old.id) exchange.closed [] old next →
      ∃ now closing, (exchange.pulls.set place next)[index]? = some now ∧
        Advance (openBlob root exchange.files pull.id) exchange.closed closing pull now := by
    intro place old next found advance
    by_cases same : place = index
    · cases same
      cases there.symm.trans found
      exact ⟨next, [], List.getElem?_set_self inside, advance⟩
    · refine ⟨pull, [], (List.getElem?_set_ne same).trans there, .stay ?_⟩
      exact fun ch absent => absurd absent List.not_mem_nil
  have stays : Advance (openBlob root exchange.files pull.id) exchange.closed [] pull pull :=
    .stay fun ch absent => absurd absent List.not_mem_nil
  cases change with
  | begun => exact ⟨pull, [], (List.getElem?_append_left inside).trans there, stays⟩
  | dismissed => exact ⟨pull, [], (List.getElem?_append_left inside).trans there, stays⟩
  | moved found advance => exact replaced found advance
  | left found => exact replaced found .left
  | announced => exact ⟨pull, [], there, stays⟩
  | stored => exact ⟨pull, [], there, stays⟩
  | @signalled place upload found ready =>
      refine ⟨pull.wake (exchange.waiters.of upload.id), _, ?_, Advance.of_wake _ pull⟩
      simp only [setUpload, List.getElem?_map, there, Option.map_some]

/-- A pull that comes in has not been asked for, or has no one to ask. -/
theorem Change.joins (change : Change digest root exchange after) {pull : Pull}
    (absent : exchange.pulls[index]? = none) (there : after.pulls[index]? = some pull) :
    pull.result? = none ∨ pull.result? = some .noOrigin := by
  have replaced : ∀ {place : Nat} {next : Pull},
      (exchange.pulls.set place next)[index]? = some pull → False := by
    intro place next found
    rw [List.getElem?_eq_none] at found
    · cases found
    · rw [List.length_set]
      exact List.getElem?_eq_none_iff.mp absent
  cases change with
  | begun =>
      rcases getElem?_concat_cases there with old | ⟨-, rfl⟩
      · cases absent.symm.trans old
      · exact .inl rfl
  | dismissed =>
      rcases getElem?_concat_cases there with old | ⟨-, rfl⟩
      · cases absent.symm.trans old
      · exact .inr rfl
  | moved => exact (replaced there).elim
  | left => exact (replaced there).elim
  | announced => cases absent.symm.trans there
  | stored => cases absent.symm.trans there
  | signalled =>
      simp only [setUpload, List.getElem?_map, absent, Option.map_none] at there
      cases there

/-- What was delivered stays delivered. -/
theorem Change.delivered (change : Change digest root exchange after)
    (done : exchange.Delivered id) : after.Delivered id := by
  cases change with
  | announced =>
      obtain ⟨upload, inside, same, finished⟩ := done
      exact ⟨upload, List.mem_append_left _ inside, same, finished⟩
  | stored there ready =>
      apply (delivered_setUpload there (by simp [ready])).mpr
      exact .inl done
  | signalled there ready =>
      apply (delivered_setUpload there (by simp [ready])).mpr
      exact .inl done
  | _ => exact done

/-- The blob was delivered, and this is what the pull at an index comes to, or one that will be
there. -/
structure Owing (root : Path) (id : BlobID) (index : Nat) (asked woken : Prop)
    (exchange : Exchange) : Prop where
  sound : exchange.Sound root
  delivered : exchange.Delivered id
  owed : ∀ {pull : Pull}, exchange.pulls[index]? = some pull → pull.id = id →
    pull.Owed asked woken
  vacant : exchange.pulls[index]? = none → ¬asked ∧ ¬woken

theorem Owing.change {asked woken : Prop} (owing : exchange.Owing root id index asked woken)
    (change : Change digest root exchange after) : after.Owing root id index asked woken where
  sound := owing.sound.change change
  delivered := change.delivered owing.delivered
  owed := by
    intro next there same
    cases found : exchange.pulls[index]? with
    | none =>
        obtain ⟨unasked, asleep⟩ := owing.vacant found
        have settled := change.joins found there
        exact {
          punctual := by rcases settled with settled | settled <;> simp [settled]
          excused := by rcases settled with settled | settled <;> simp [settled]
          answered := fun reached => absurd reached unasked
          waking := fun awake => absurd awake asleep }
    | some pull =>
        obtain ⟨now, closing, here, advance⟩ := change.advances found
        cases there.symm.trans here
        have shared : pull.id = id := advance.keeps.1.symm.trans same
        subst shared
        have pulling := owing.sound.pulls pull (List.mem_of_getElem? found)
        have present := owing.sound.stored owing.delivered
        exact (owing.owed found rfl).advance pulling owing.delivered present advance
  vacant := by
    intro absent
    cases found : exchange.pulls[index]? with
    | none => exact owing.vacant found
    | some pull =>
        obtain ⟨now, closing, here, -⟩ := change.advances found
        cases absent.symm.trans here

theorem Owing.later {asked woken : Prop} {later : Exchange}
    (owing : exchange.Owing root id index asked woken)
    (run : Reachable (step digest root hub) exchange later) :
    later.Owing root id index asked woken :=
  run.invariant owing fun owing _ stepped => owing.change (change_of_step stepped)

/-- A pull that is neither parked nor gone can move. -/
theorem move_enabled {pull : Pull} (there : exchange.pulls[index]? = some pull)
    (awake : ∀ ch, pull.stage ≠ .parked ch) (stays : ∀ result, pull.stage ≠ .returned result) :
    ∃ move, (exchange.movePull root index move).isSome = true := by
  have enough : ∀ move,
      (pull.after (openBlob root exchange.files pull.id) exchange.closed move).isSome = true →
      ∃ move, (exchange.movePull root index move).isSome = true := by
    intro move able
    refine ⟨move, ?_⟩
    rw [movePull, there, Option.bind_some, Option.isSome_map]
    exact able
  cases stage : pull.stage with
  | requesting ch =>
      apply enough (.request true)
      simp only [Pull.after, stage, Option.isSome_some]
  | checking ch =>
      apply enough .check
      simp only [Pull.after, stage]
      split <;> rfl
  | selecting ch =>
      apply enough (.select true)
      simp only [Pull.after, stage]
      split_ifs <;> rfl
  | parked ch => exact absurd stage (awake ch)
  | woken ch =>
      apply enough .reopen
      simp only [Pull.after, stage]
      split <;> rfl
  | leaving ch result =>
      apply enough .leave
      simp only [Pull.after, stage, Option.isSome_some]
  | returned result => exact absurd stage (stays result)

/-- A move of a pull brings it nearer to its end. -/
theorem movePull_nearer {move : PullMove} {pull : Pull}
    (moved : exchange.movePull root index move = some after)
    (there : exchange.pulls[index]? = some pull) :
    ∃ next, after.pulls[index]? = some next ∧ next.stage.remaining < pull.stage.remaining := by
  rw [movePull, there, Option.bind_some, Option.map_eq_some_iff] at moved
  obtain ⟨stage, took, rfl⟩ := moved
  refine ⟨{ pull with stage }, ?_, Pull.remaining_lt took⟩
  exact List.getElem?_set_self (List.getElem?_eq_some_iff.mp there).1

/-- A blob that no pull is about any more has no waiters. -/
theorem Sound.no_waiters (sound : exchange.Sound root)
    (gone : ∀ pull ∈ exchange.pulls, pull.id = id → ∃ result, pull.stage = .returned result) :
    exchange.waiters.get? id = none := by
  apply sound.accounts.get?_eq_none
  intro ch registered
  obtain ⟨pull, inside, same⟩ := List.mem_map.mp registered
  obtain ⟨result, returned⟩ := gone pull inside (congrArg Prod.fst same)
  have holds := congrArg Prod.snd same
  rw [Pull.channel?, returned] at holds
  cases holds

/-- At the delivery of a blob a pull that is not settled owes the blob. -/
theorem Sound.owing (sound : exchange.Sound root) (delivered : exchange.Delivered id)
    (undecided : ∀ earlier, exchange.pulls[index]? = some earlier → earlier.result? = none) :
    exchange.Owing root id index
      (∃ earlier, exchange.pulls[index]? = some earlier ∧ ∀ ch, earlier.stage ≠ .requesting ch)
      (∃ earlier ch, exchange.pulls[index]? = some earlier ∧ earlier.stage = .woken ch) where
  sound := sound
  delivered := delivered
  owed := by
    intro earlier found _
    have unsettled := undecided earlier found
    exact {
      punctual := by simp [unsettled]
      excused := by simp [unsettled]
      answered := by
        rintro ⟨other, here, past⟩
        cases found.symm.trans here
        exact ⟨past, by simp [unsettled]⟩
      waking := by
        rintro ⟨other, ch, here, awake⟩
        cases found.symm.trans here
        exact .inl ⟨ch, awake⟩ }
  vacant := by
    intro absent
    simp [absent]

/-- In every run no channel is closed twice, and a blob that no pull is about any more has no
waiters.  Once an upload of a blob has stored and signalled, no pull of it waits that was not
settled by then: it can go on by itself, each of its moves brings it nearer to its end and no
other step takes it away from there.  It returns the blob; or that there is no origin, if it had
yet to ask; or that it was cancelled, if it was, and was not woken by then. -/
theorem no_wakeup_lost {files : Files Path}
    (reached : Reachable (step digest root hub) (boot files) exchange) :
    exchange.closed.Nodup ∧
    (∀ id, (∀ pull ∈ exchange.pulls, pull.id = id → ∃ result, pull.stage = .returned result) →
      exchange.waiters.get? id = none) ∧
    ∀ id, exchange.Delivered id → ∀ later, Reachable (step digest root hub) exchange later →
      ∀ index pull, later.pulls[index]? = some pull → pull.id = id →
        (∀ earlier, exchange.pulls[index]? = some earlier → earlier.result? = none) →
        (∀ ch, pull.stage ≠ .parked ch) ∧
        ((∃ result, pull.stage = .returned result) ∨
          ∃ move, (later.movePull root index move).isSome = true) ∧
        (∀ action after, later.step digest root hub action = some after →
          ∃ next, after.pulls[index]? = some next ∧
            next.stage.remaining ≤ pull.stage.remaining ∧
            ∀ move, action = .move index move → next.stage.remaining < pull.stage.remaining) ∧
        ∀ result, pull.result? = some result →
          (∃ bytes, result = .blob bytes ∧ openBlob root later.files id = some bytes) ∨
          result = .noOrigin ∧ (∀ earlier, exchange.pulls[index]? = some earlier →
            ∃ ch, earlier.stage = .requesting ch) ∨
          result = .cancelled ∧ pull.cancelled = true ∧
            ∀ earlier, exchange.pulls[index]? = some earlier → ∀ ch, earlier.stage ≠ .woken ch := by
  have sound := Sound.reached reached
  refine ⟨sound.accounts.once, ?_, ?_⟩
  · intro id gone
    exact sound.no_waiters gone
  · intro id delivered later run index pull there same undecided
    have owing := (sound.owing delivered undecided).later run
    have owed := owing.owed there same
    have pulling := owing.sound.pulls pull (List.mem_of_getElem? there)
    rw [same] at pulling
    refine ⟨pulling.awake owing.delivered, ?_, ?_, ?_⟩
    · by_cases returned : ∃ result, pull.stage = .returned result
      · exact .inl returned
      · exact .inr (move_enabled there (pulling.awake owing.delivered) (not_exists.mp returned))
    · intro action after stepped
      obtain ⟨next, closing, here, advance⟩ := (change_of_step stepped).advances there
      refine ⟨next, here, advance.remaining_le, ?_⟩
      rintro move rfl
      obtain ⟨other, same, nearer⟩ := movePull_nearer stepped there
      cases here.symm.trans same
      exact nearer
    · intro result settled
      cases result with
      | blob bytes => exact .inl ⟨bytes, rfl, pulling.served settled⟩
      | noOrigin =>
          refine .inr (.inl ⟨rfl, ?_⟩)
          intro earlier found
          by_contra unasked
          exact (owed.answered ⟨earlier, found, not_exists.mp unasked⟩).2 settled
      | timeout => exact absurd settled owed.punctual
      | cancelled =>
          refine .inr (.inr ⟨rfl, owed.excused settled, ?_⟩)
          intro earlier found ch awake
          rcases owed.waking ⟨earlier, ch, found, awake⟩ with ⟨other, waking⟩ | ⟨bytes, brought⟩
          · rw [Pull.result?, waking] at settled
            cases settled
          · cases settled.symm.trans brought

/-- Steps with a digest that is right for the empty text. -/
abbrev emptyStep : Exchange → ExchangeAction → Option Exchange :=
  step (fun _ => emptyDigest) ⟨true, []⟩ true

/-- A pull misses the empty blob, which is then uploaded before the pull enters its
`select`. -/
def missedUpload : List ExchangeAction :=
  [.beginPull emptyBlob, .move 0 (.request true), .move 0 .check, .beginUpload emptyBlob,
    .store 0 [] 10 [49] .none, .signal 0]

/-- The pull and the upload after these steps, and the pull after some more. -/
def endsWith (actions : List ExchangeAction) (pull : Pull) (exchange : Exchange) : Bool :=
  decide (exchange.pulls = [⟨emptyBlob, false, .selecting 0⟩]) &&
    decide (exchange.uploads = [⟨emptyBlob, .finished⟩]) &&
      (exec emptyStep exchange actions).any fun later => decide (later.pulls = [pull])

theorem exists_of_endsWith {actions : List ExchangeAction} {pull : Pull}
    (checked : (exec emptyStep (boot ∅) missedUpload).any (endsWith actions pull) = true) :
    ∃ exchange later, Reachable emptyStep (boot ∅) exchange ∧ exchange.Delivered emptyBlob ∧
      exchange.pulls = [⟨emptyBlob, false, .selecting 0⟩] ∧
      Reachable emptyStep exchange later ∧ later.pulls = [pull] := by
  obtain ⟨exchange, reached, holds⟩ :=
    Reachable.exists_of_exec emptyStep (boot ∅) missedUpload (endsWith actions pull) checked
  simp only [endsWith, Bool.and_eq_true, decide_eq_true_eq, Option.any_eq_true] at holds
  obtain ⟨⟨selecting, uploaded⟩, later, executed, gone⟩ := holds
  refine ⟨exchange, later, reached, ?_, selecting, Run.of_exec executed, gone⟩
  exact ⟨_, uploaded ▸ List.mem_singleton_self _, rfl, rfl⟩

/-- The pull goes on and brings the blob. -/
theorem missed_upload_pulled :
    ∃ exchange later, Reachable emptyStep (boot ∅) exchange ∧
      exchange.pulls = [⟨emptyBlob, false, .selecting 0⟩] ∧
      Reachable emptyStep exchange later ∧
      later.pulls = [⟨emptyBlob, false, .returned (.blob [])⟩] ∧
      openBlob ⟨true, []⟩ later.files emptyBlob = some [] ∧
      later.closed.Nodup ∧ later.waiters.get? emptyBlob = none := by
  obtain ⟨exchange, later, reached, delivered, selecting, run, gone⟩ :=
    @exists_of_endsWith [.move 0 (.select true), .move 0 .reopen, .move 0 .leave]
      ⟨emptyBlob, false, .returned (.blob [])⟩ (by decide +kernel)
  obtain ⟨once, vacant, -⟩ := no_wakeup_lost (reached.trans run)
  have undecided : ∀ earlier, exchange.pulls[0]? = some earlier → earlier.result? = none := by
    intro earlier found
    rw [selecting] at found
    cases found
    rfl
  obtain ⟨-, -, -, result⟩ := (no_wakeup_lost reached).2.2 emptyBlob delivered later run 0
    ⟨emptyBlob, false, .returned (.blob [])⟩ (by rw [gone]; rfl) rfl undecided
  refine ⟨exchange, later, reached, selecting, run, gone, ?_, once, vacant emptyBlob ?_⟩
  · rcases result _ rfl with ⟨bytes, same, stored⟩ | ⟨missing, -⟩ | ⟨cancelled, -⟩
    · cases same
      exact stored
    · cases missing
    · cases cancelled
  · intro pull inside _
    rw [gone] at inside
    cases List.mem_singleton.mp inside
    exact ⟨_, rfl⟩

/-- The upload has signalled before the requester goes away, and still the pull, which is free
to take either, returns that it was cancelled. -/
theorem cancelled_after_upload :
    ∃ exchange later, Reachable emptyStep (boot ∅) exchange ∧ exchange.Delivered emptyBlob ∧
      exchange.pulls = [⟨emptyBlob, false, .selecting 0⟩] ∧
      Reachable emptyStep exchange later ∧
      later.pulls = [⟨emptyBlob, true, .returned .cancelled⟩] :=
  @exists_of_endsWith [.cancel 0, .move 0 (.select false), .move 0 .leave]
    ⟨emptyBlob, true, .returned .cancelled⟩ (by decide +kernel)

end Pulls

end Exchange

end CopySync.Server
