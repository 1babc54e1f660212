import CopySync.Foundation.Transition
import CopySync.Foundation.Waiters
import CopySync.Server.Blob.Upload

/-!
# Pulling a blob on demand

A request that misses a blob registers a channel, asks the origin for the blob, looks again,
and waits until an upload closes the channel, a timer fires, or the requester goes away.  An
upload stores first and signals then.  Any number of pulls and uploads run at once; nothing
removes blobs in the meantime.

A goroutine that finds several cases of its `select` ready takes either one; one that is
parked takes the first that becomes ready.
-/

namespace CopySync.Server

open Foundation

abbrev ChanID := Nat

/-- What `pullOnDemand` returns: the bytes, or one of its errors. -/
inductive PullResult where
  | blob (bytes : List UInt8)
  | noOrigin
  | timeout
  | cancelled
  deriving DecidableEq, Repr

/-- Where a pull is: about to ask for the blob, to look again, to enter the `select`, parked in
it, to open what it was woken for, to remove its channel, or gone. -/
inductive PullStage where
  | requesting (ch : ChanID)
  | checking (ch : ChanID)
  | selecting (ch : ChanID)
  | parked (ch : ChanID)
  | woken (ch : ChanID)
  | leaving (ch : ChanID) (result : PullResult)
  | returned (result : PullResult)
  deriving DecidableEq, Repr

/-- How many steps a pull is from its end, if it waits once. -/
def PullStage.remaining : PullStage → Nat
  | .requesting _ => 6
  | .checking _ => 5
  | .selecting _ => 4
  | .parked _ => 3
  | .woken _ => 2
  | .leaving _ _ => 1
  | .returned _ => 0

/-- A call of `pullOnDemand`, and whether its context is done. -/
structure Pull where
  id : BlobID
  cancelled : Bool
  stage : PullStage
  deriving DecidableEq, Repr

inductive UploadStage where
  | storing
  | signalling
  | refused
  | finished
  deriving DecidableEq, Repr

/-- A call of `handleBlobPut` that has passed its checks. -/
structure UploadCall where
  id : BlobID
  stage : UploadStage
  deriving DecidableEq, Repr

/-- The store, the channels made so far and those that were closed, the waiters, and the
calls. -/
structure Exchange where
  files : Files Path
  made : ChanID
  closed : List ChanID
  waiters : Waiters BlobID ChanID
  pulls : List Pull
  uploads : List UploadCall

/-- The steps of a pull on its own. -/
inductive PullMove where
  | request (asked : Bool)
  | check
  | select (preferChannel : Bool)
  | reopen
  | leave
  deriving DecidableEq, Repr

/-- Steps of the goroutines, and what happens to them. -/
inductive ExchangeAction where
  | beginPull (id : BlobID)
  | move (index : Nat) (move : PullMove)
  | cancel (index : Nat)
  | expire (index : Nat)
  | beginUpload (id : BlobID)
  | store (index : Nat) (body : List UInt8) (maxBytes : Int) (suffix : List UInt8)
      (faults : PutFaults)
  | signal (index : Nat)

namespace Pull

/-- The channel a pull has registered and not removed yet. -/
def channel? (pull : Pull) : Option ChanID :=
  match pull.stage with
  | .requesting ch | .checking ch | .selecting ch | .parked ch | .woken ch | .leaving ch _ =>
      some ch
  | .returned _ => none

/-- What a pull returns, once that is settled. -/
def result? (pull : Pull) : Option PullResult :=
  match pull.stage with
  | .leaving _ result | .returned result => some result
  | _ => none

/-- The closed channel wakes who is parked at it. -/
def wake (closing : List ChanID) (pull : Pull) : Pull :=
  match pull.stage with
  | .parked ch => if ch ∈ closing then { pull with stage := .woken ch } else pull
  | _ => pull

/-- The stage after a move, with what `Open` finds now. -/
def after (pull : Pull) (stored : Option (List UInt8)) (closed : List ChanID) :
    PullMove → Option PullStage
  | .request asked =>
      match pull.stage with
      | .requesting ch => some (if asked then .checking ch else .leaving ch .noOrigin)
      | _ => none
  | .check =>
      match pull.stage with
      | .checking ch =>
          match stored with
          | some bytes => some (.leaving ch (.blob bytes))
          | none => some (.selecting ch)
      | _ => none
  | .select preferChannel =>
      match pull.stage with
      | .selecting ch =>
          if ch ∈ closed ∧ (preferChannel ∨ pull.cancelled = false) then some (.woken ch)
          else if pull.cancelled then some (.leaving ch .cancelled)
          else some (.parked ch)
      | _ => none
  | .reopen =>
      match pull.stage with
      | .woken ch =>
          match stored with
          | some bytes => some (.leaving ch (.blob bytes))
          | none => some (.leaving ch .timeout)
      | _ => none
  | .leave =>
      match pull.stage with
      | .leaving _ result => some (.returned result)
      | _ => none

/-- A closing channel wakes who is parked at it, and no one else. -/
theorem wake_cases (closing : List ChanID) (pull : Pull) :
    (∀ ch ∈ closing, pull.stage ≠ .parked ch) ∧ pull.wake closing = pull ∨
    ∃ ch ∈ closing, pull.stage = .parked ch ∧
      pull.wake closing = { pull with stage := .woken ch } := by
  rw [Pull.wake]
  split
  next ch waits =>
    split_ifs with signalled
    · exact .inr ⟨ch, signalled, waits, rfl⟩
    · refine .inl ⟨?_, rfl⟩
      intro other inside same
      cases waits.symm.trans same
      exact signalled inside
  next awake => exact .inl ⟨fun ch _ => awake ch, rfl⟩

/-- A pull that moves gets nearer to its end. -/
theorem remaining_lt {pull : Pull} {stored : Option (List UInt8)} {closed : List ChanID}
    {move : PullMove} {stage : PullStage}
    (moved : pull.after stored closed move = some stage) :
    stage.remaining < pull.stage.remaining := by
  cases move <;> grind [after, PullStage.remaining]

end Pull

namespace Exchange

def boot (files : Files Path) : Exchange := ⟨files, 0, [], .empty, [], []⟩

def setPull (exchange : Exchange) (index : Nat) (pull : Pull) : Exchange :=
  { exchange with pulls := exchange.pulls.set index pull }

def setUpload (exchange : Exchange) (index : Nat) (upload : UploadCall) : Exchange :=
  { exchange with uploads := exchange.uploads.set index upload }

section Machine

variable (digest : List UInt8 → List UInt8) (root : Path) (hub : Bool) (exchange : Exchange)

/-- `pullOnDemand` is called after an `Open` that failed; without a hub there is no one to
ask. -/
def beginPull (id : BlobID) : Option Exchange :=
  if validID id = false then none
  else if hub then
    some { exchange with
      made := exchange.made + 1
      waiters := exchange.waiters.add id exchange.made
      pulls := exchange.pulls ++ [⟨id, false, .requesting exchange.made⟩] }
  else some { exchange with pulls := exchange.pulls ++ [⟨id, false, .returned .noOrigin⟩] }

/-- The deferred `remove` runs when a pull leaves. -/
def movePull (index : Nat) (move : PullMove) : Option Exchange :=
  exchange.pulls[index]?.bind fun pull =>
    (pull.after (openBlob root exchange.files pull.id) exchange.closed move).map fun stage =>
      let waiters :=
        match pull.stage with
        | .leaving ch _ => exchange.waiters.remove pull.id ch
        | _ => exchange.waiters
      { exchange with waiters }.setPull index { pull with stage }

/-- The requester goes away. -/
def cancel (index : Nat) : Option Exchange :=
  exchange.pulls[index]?.map fun pull =>
    match pull.stage with
    | .parked ch => exchange.setPull index ⟨pull.id, true, .leaving ch .cancelled⟩
    | stage => exchange.setPull index ⟨pull.id, true, stage⟩

/-- The timer was started when the pull entered its `select`. -/
def expire (index : Nat) : Option Exchange :=
  exchange.pulls[index]?.bind fun pull =>
    match pull.stage with
    | .parked ch => some (exchange.setPull index { pull with stage := .leaving ch .timeout })
    | _ => none

def beginUpload (id : BlobID) : Option Exchange :=
  if validID id = false then none
  else some { exchange with uploads := exchange.uploads ++ [⟨id, .storing⟩] }

/-- `Put`: what others see of it is the rename. -/
def store (index : Nat) (body : List UInt8) (maxBytes : Int) (suffix : List UInt8)
    (faults : PutFaults) : Option Exchange :=
  exchange.uploads[index]?.bind fun upload =>
    if upload.stage = .storing then
      (put digest root exchange.files upload.id body maxBytes suffix faults).map
        fun (files, result) =>
          { exchange with files }.setUpload index
            { upload with stage := if result.toBool then .signalling else .refused }
    else none

/-- Close all channels that wait for the blob. -/
def signal (index : Nat) : Option Exchange :=
  exchange.uploads[index]?.bind fun upload =>
    if upload.stage = .signalling then
      let (closing, waiters) := exchange.waiters.signal upload.id
      some ({ exchange with
        closed := exchange.closed ++ closing
        waiters
        pulls := exchange.pulls.map (Pull.wake closing) }.setUpload index
          { upload with stage := .finished })
    else none

def step : ExchangeAction → Option Exchange
  | .beginPull id => exchange.beginPull hub id
  | .move index move => exchange.movePull root index move
  | .cancel index => exchange.cancel index
  | .expire index => exchange.expire index
  | .beginUpload id => exchange.beginUpload id
  | .store index body maxBytes suffix faults =>
      exchange.store digest root index body maxBytes suffix faults
  | .signal index => exchange.signal index

end Machine

/-! ## What a step does to a pull -/

/-- How a pull goes on in a step; `closed` are the channels closed before it and `closing`
those it closes. -/
inductive Advance (stored : Option (List UInt8)) (closed closing : List ChanID) :
    Pull → Pull → Prop where
  | stay {pull : Pull} (deaf : ∀ ch ∈ closing, pull.stage ≠ .parked ch) :
      Advance stored closed closing pull pull
  | asked {id : BlobID} {cancelled : Bool} {ch : ChanID} :
      Advance stored closed closing ⟨id, cancelled, .requesting ch⟩ ⟨id, cancelled, .checking ch⟩
  | refused {id : BlobID} {cancelled : Bool} {ch : ChanID} :
      Advance stored closed closing ⟨id, cancelled, .requesting ch⟩
        ⟨id, cancelled, .leaving ch .noOrigin⟩
  | found {id : BlobID} {cancelled : Bool} {ch : ChanID} {bytes : List UInt8}
      (present : stored = some bytes) :
      Advance stored closed closing ⟨id, cancelled, .checking ch⟩
        ⟨id, cancelled, .leaving ch (.blob bytes)⟩
  | missed {id : BlobID} {cancelled : Bool} {ch : ChanID} (absent : stored = none) :
      Advance stored closed closing ⟨id, cancelled, .checking ch⟩ ⟨id, cancelled, .selecting ch⟩
  | received {id : BlobID} {cancelled : Bool} {ch : ChanID} (ready : ch ∈ closed) :
      Advance stored closed closing ⟨id, cancelled, .selecting ch⟩ ⟨id, cancelled, .woken ch⟩
  | gaveUp {id : BlobID} {ch : ChanID} :
      Advance stored closed closing ⟨id, true, .selecting ch⟩ ⟨id, true, .leaving ch .cancelled⟩
  | park {id : BlobID} {ch : ChanID} (idle : ch ∉ closed) :
      Advance stored closed closing ⟨id, false, .selecting ch⟩ ⟨id, false, .parked ch⟩
  | opened {id : BlobID} {cancelled : Bool} {ch : ChanID} {bytes : List UInt8}
      (present : stored = some bytes) :
      Advance stored closed closing ⟨id, cancelled, .woken ch⟩
        ⟨id, cancelled, .leaving ch (.blob bytes)⟩
  | vanished {id : BlobID} {cancelled : Bool} {ch : ChanID} (absent : stored = none) :
      Advance stored closed closing ⟨id, cancelled, .woken ch⟩
        ⟨id, cancelled, .leaving ch .timeout⟩
  | left {id : BlobID} {cancelled : Bool} {ch : ChanID} {result : PullResult} :
      Advance stored closed closing ⟨id, cancelled, .leaving ch result⟩
        ⟨id, cancelled, .returned result⟩
  | marked {id : BlobID} {cancelled : Bool} {stage : PullStage}
      (awake : ∀ ch, stage ≠ .parked ch) :
      Advance stored closed closing ⟨id, cancelled, stage⟩ ⟨id, true, stage⟩
  | cancelled {id : BlobID} {cancelled : Bool} {ch : ChanID} :
      Advance stored closed closing ⟨id, cancelled, .parked ch⟩
        ⟨id, true, .leaving ch .cancelled⟩
  | expired {id : BlobID} {cancelled : Bool} {ch : ChanID} :
      Advance stored closed closing ⟨id, cancelled, .parked ch⟩
        ⟨id, cancelled, .leaving ch .timeout⟩
  | woke {id : BlobID} {cancelled : Bool} {ch : ChanID} (signalled : ch ∈ closing) :
      Advance stored closed closing ⟨id, cancelled, .parked ch⟩ ⟨id, cancelled, .woken ch⟩

section Advance

variable {stored : Option (List UInt8)} {closed closing : List ChanID} {pull next : Pull}

theorem Advance.of_after {move : PullMove} {stage : PullStage}
    (moved : pull.after stored closed move = some stage) :
    Advance stored closed [] pull { pull with stage } := by
  obtain ⟨id, cancelled, old⟩ := pull
  cases move with
  | request asked =>
      simp only [Pull.after] at moved
      split at moved
      next ch =>
        cases moved
        cases asked with
        | true => exact .asked
        | false => exact .refused
      next => cases moved
  | check =>
      simp only [Pull.after] at moved
      split at moved
      next ch =>
        split at moved <;> cases moved
        · exact .found rfl
        · exact .missed rfl
      next => cases moved
  | select preferChannel =>
      simp only [Pull.after] at moved
      split at moved
      next ch =>
        split_ifs at moved with ready done
        · cases moved
          exact .received ready.1
        · cases moved
          cases done
          exact .gaveUp
        · cases moved
          cases Bool.eq_false_of_not_eq_true done
          exact .park fun inside => ready ⟨inside, .inr rfl⟩
      next => cases moved
  | reopen =>
      simp only [Pull.after] at moved
      split at moved
      next ch =>
        split at moved <;> cases moved
        · exact .opened rfl
        · exact .vanished rfl
      next => cases moved
  | leave =>
      simp only [Pull.after] at moved
      split at moved
      next ch result =>
        cases moved
        exact .left
      next => cases moved

theorem Advance.of_wake (closing : List ChanID) (pull : Pull) :
    Advance stored closed closing pull (pull.wake closing) := by
  rcases pull.wake_cases closing with ⟨deaf, same⟩ | ⟨ch, signalled, waits, woken⟩
  · rw [same]
    exact .stay deaf
  · obtain ⟨id, cancelled, stage⟩ := pull
    cases waits
    rw [woken]
    exact .woke signalled

/-- No pull gets further from its end. -/
theorem Advance.remaining_le (advance : Advance stored closed closing pull next) :
    next.stage.remaining ≤ pull.stage.remaining := by
  cases advance with
  | stay => exact le_rfl
  | marked => exact le_rfl
  | _ => simp only [PullStage.remaining, Nat.reduceLeDiff]

/-- A pull keeps its blob, and its channel until it has left. -/
theorem Advance.keeps (advance : Advance stored closed closing pull next) :
    next.id = pull.id ∧ (next.channel? = pull.channel? ∨
      ∃ ch result, pull.stage = .leaving ch result) := by
  cases advance with
  | left => exact ⟨rfl, .inr ⟨_, _, rfl⟩⟩
  | _ => exact ⟨rfl, .inl rfl⟩

end Advance

/-- How a step changes the exchange. -/
inductive Change (digest : List UInt8 → List UInt8) (root : Path) (exchange : Exchange) :
    Exchange → Prop where
  | begun {id : BlobID} (valid : validID id = true) :
      Change digest root exchange { exchange with
        made := exchange.made + 1
        waiters := exchange.waiters.add id exchange.made
        pulls := exchange.pulls ++ [⟨id, false, .requesting exchange.made⟩] }
  | dismissed {id : BlobID} (valid : validID id = true) :
      Change digest root exchange
        { exchange with pulls := exchange.pulls ++ [⟨id, false, .returned .noOrigin⟩] }
  | moved {index : Nat} {pull next : Pull} (there : exchange.pulls[index]? = some pull)
      (advance : Advance (openBlob root exchange.files pull.id) exchange.closed [] pull next)
      (holds : next.channel? = pull.channel?) :
      Change digest root exchange (exchange.setPull index next)
  | left {index : Nat} {id : BlobID} {cancelled : Bool} {ch : ChanID} {result : PullResult}
      (there : exchange.pulls[index]? = some ⟨id, cancelled, .leaving ch result⟩) :
      Change digest root exchange
        ({ exchange with waiters := exchange.waiters.remove id ch }.setPull index
          ⟨id, cancelled, .returned result⟩)
  | announced {id : BlobID} (valid : validID id = true) :
      Change digest root exchange
        { exchange with uploads := exchange.uploads ++ [⟨id, .storing⟩] }
  | stored {index : Nat} {upload : UploadCall} {body suffix : List UInt8} {maxBytes : Int}
      {faults : PutFaults} {files : Files Path} {result : Except PutError Int}
      (there : exchange.uploads[index]? = some upload) (ready : upload.stage = .storing)
      (taken : put digest root exchange.files upload.id body maxBytes suffix faults =
        some (files, result)) :
      Change digest root exchange ({ exchange with files }.setUpload index
        { upload with stage := if result.toBool then .signalling else .refused })
  | signalled {index : Nat} {upload : UploadCall}
      (there : exchange.uploads[index]? = some upload) (ready : upload.stage = .signalling) :
      Change digest root exchange ({ exchange with
        closed := exchange.closed ++ exchange.waiters.of upload.id
        waiters := OrderedMap.erase exchange.waiters upload.id
        pulls := exchange.pulls.map (Pull.wake (exchange.waiters.of upload.id)) }.setUpload index
          { upload with stage := .finished })

section Change

variable {digest : List UInt8 → List UInt8} {root : Path} {hub : Bool} {exchange after : Exchange}

theorem change_of_move {index : Nat} {move : PullMove}
    (stepped : exchange.movePull root index move = some after) :
    Change digest root exchange after := by
  obtain ⟨⟨id, cancelled, old⟩, there, moved⟩ := Option.bind_eq_some_iff.mp stepped
  obtain ⟨stage, took, rfl⟩ := Option.map_eq_some_iff.mp moved
  have advance := Advance.of_after took
  cases old with
  | leaving ch result =>
      cases move with
      | leave =>
          cases took
          exact .left there
      | _ => cases took
  | _ =>
      refine .moved there advance (advance.keeps.2.resolve_right ?_)
      rintro ⟨ch, result, leaving⟩
      cases leaving

theorem change_of_step {action : ExchangeAction}
    (stepped : exchange.step digest root hub action = some after) :
    Change digest root exchange after := by
  cases action with
  | beginPull id =>
      simp only [step, beginPull] at stepped
      split_ifs at stepped with invalid asked
      · cases stepped
        exact .begun ((Bool.not_eq_false _).mp invalid)
      · cases stepped
        exact .dismissed ((Bool.not_eq_false _).mp invalid)
  | move index move => exact change_of_move stepped
  | cancel index =>
      obtain ⟨⟨id, cancelled, stage⟩, there, rfl⟩ := Option.map_eq_some_iff.mp stepped
      cases stage with
      | parked ch => exact .moved there .cancelled rfl
      | _ => exact .moved there (.marked (by simp)) rfl
  | expire index =>
      obtain ⟨⟨id, cancelled, stage⟩, there, stepped⟩ := Option.bind_eq_some_iff.mp stepped
      cases stage with
      | parked ch =>
          cases stepped
          exact .moved there .expired rfl
      | _ => cases stepped
  | beginUpload id =>
      simp only [step, beginUpload] at stepped
      split_ifs at stepped with invalid
      cases stepped
      exact .announced ((Bool.not_eq_false _).mp invalid)
  | store index body maxBytes suffix faults =>
      obtain ⟨upload, there, stepped⟩ := Option.bind_eq_some_iff.mp stepped
      split_ifs at stepped with ready
      obtain ⟨⟨files, result⟩, taken, rfl⟩ := Option.map_eq_some_iff.mp stepped
      exact .stored there ready taken
  | signal index =>
      obtain ⟨upload, there, stepped⟩ := Option.bind_eq_some_iff.mp stepped
      split_ifs at stepped with ready
      cases stepped
      exact .signalled there ready

end Change

end Exchange

end CopySync.Server
