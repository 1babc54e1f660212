import CopySync.Desktop.Serving

/-!
# Desktop client: which hold is given up

The ring of holds over every history of advertised and served blobs.  Its ids form a queue of
64 places which an id leaves when its blob was served: a hold that is given up for a new one is
the one whose id was added longest ago.
-/

namespace CopySync.Desktop

open Foundation Client

/-- A blob is advertised and held, or the upload of a requested blob has ended. -/
inductive HoldEvent where
  | advertise (id : String) (hold : Hold)
  | served (id : String) (ok : Bool)

namespace Holds

/-! ## Histories of events -/

/-- A hold is dropped once it was served, and kept for another request when that failed. -/
def step (holds : Holds) : HoldEvent → Holds
  | .advertise id hold => holds.insert id hold
  | .served id ok => if ok then holds.remove id else holds

/-- The holds after a history of events. -/
def after (events : List HoldEvent) : Holds := events.foldl step .empty

/-- The id of a blob that is advertised and not held yet. -/
def new? (holds : Holds) : HoldEvent → Option String
  | .advertise id _ => if holds.map.contains id then none else some id
  | .served _ _ => none

/-- The ids that were not held when they were advertised, in order. -/
def added (events : List HoldEvent) : List String := reports step new? .empty events

variable {holds : Holds} {ids : List String}

theorem after_concat (events : List HoldEvent) (event : HoldEvent) :
    after (events ++ [event]) = (after events).step event :=
  List.foldl_concat ..

theorem added_concat (events : List HoldEvent) (event : HoldEvent) :
    added (events ++ [event]) = added events ++ ((after events).new? event).toList :=
  reports_concat ..

/-! ## The ids as a queue -/

theorem Valid.queue_insert (valid : holds.Valid) (id : String) (hold : Hold) :
    (valid.insert id hold).queue = valid.queue.enter id :=
  Fifo.ext (valid.order_insert id hold)

theorem Valid.queue_remove (valid : holds.Valid) (id : String) :
    (valid.remove id).queue = valid.queue.leave id :=
  Fifo.ext (valid.order_remove id)

theorem Valid.new?_advertise (valid : holds.Valid) (id : String) (hold : Hold) :
    holds.new? (.advertise id hold) = valid.queue.fresh? id :=
  if_congr (valid.listed id).symm rfl rfl

/-- A valid ring whose ids wait in the order in which they were added. -/
structure Ranked (holds : Holds) (added : List String) : Prop where
  valid : holds.Valid
  aged : valid.queue.Aged added

theorem Ranked.empty : Holds.empty.Ranked [] := ⟨.empty, .empty⟩

theorem Ranked.insert (ranked : holds.Ranked ids) (id : String) (hold : Hold) :
    (holds.insert id hold).Ranked (ids ++ (holds.new? (.advertise id hold)).toList) where
  valid := ranked.valid.insert id hold
  aged := by
    rw [ranked.valid.queue_insert, ranked.valid.new?_advertise]
    exact ranked.aged.enter id

theorem Ranked.remove (ranked : holds.Ranked ids) (id : String) : (holds.remove id).Ranked ids where
  valid := ranked.valid.remove id
  aged := by
    rw [ranked.valid.queue_remove]
    exact ranked.aged.leave id

theorem Ranked.step (ranked : holds.Ranked ids) (event : HoldEvent) :
    (holds.step event).Ranked (ids ++ (holds.new? event).toList) := by
  cases event with
  | advertise id hold => exact ranked.insert id hold
  | served id ok =>
      rw [new?, Option.toList_none, List.append_nil]
      cases ok with
      | false => exact ranked
      | true => exact ranked.remove id

theorem ranked_after (events : List HoldEvent) : (after events).Ranked (added events) := by
  induction events using List.reverseRecOn with
  | nil => exact .empty
  | append_singleton before last ih =>
      rw [after_concat, added_concat]
      exact ih.step last

/-! ## The ring -/

/-- The map of a valid ring has an entry for each of its ids. -/
theorem Valid.keys_perm (valid : holds.Valid) : holds.map.keys.Perm holds.order := by
  rw [List.perm_ext_iff_of_nodup holds.map.nodup_keys valid.nodup]
  intro id
  exact holds.map.mem_keys_iff.trans (valid.listed id).symm

/-- After every history the ring lists exactly the ids of the map, each once and at most 64; a
hold that is inserted is there; and when one is lost by that, it is the only one, and its id
was added before those of all others. -/
theorem ring_after (events : List HoldEvent) :
    (after events).order.Nodup ∧
      (∀ id, id ∈ (after events).order ↔ id ∈ (after events).map.keys) ∧
      (after events).order.length ≤ 64 ∧ (after events).map.keys.length ≤ 64 ∧
      ∀ id hold, ((after events).insert id hold).get? id = some hold ∧
        ∀ lost, lost ∈ (after events).map.keys → lost ∉ ((after events).insert id hold).map.keys →
          ∀ other, other ∈ (after events).map.keys → other ≠ lost →
            other ∈ ((after events).insert id hold).map.keys ∧
              age (added events) other < age (added events) lost := by
  obtain ⟨valid, aged⟩ := ranked_after events
  have keys := valid.keys_perm
  refine ⟨valid.nodup, fun id => keys.mem_iff.symm, valid.bounded, ?_, ?_⟩
  · rw [keys.length_eq]
    exact valid.bounded
  · intro id hold
    refine ⟨valid.get?_insert_self hold, ?_⟩
    have inserted := (valid.insert id hold).keys_perm
    intro lost held gone other waiting different
    rw [keys.mem_iff] at held waiting
    rw [inserted.mem_iff, valid.order_insert] at gone ⊢
    exact aged.oldest_of_lost held gone waiting different

example : (after [.advertise "a" (.plain "/a"), .advertise "b" (.plain "/b"), .served "a" true,
    .advertise "a" (.plain "/a"), .advertise "b" (.plain "/c")]).order = ["b", "a"] := by
  decide +kernel

end Holds

/-! ## The ring of the engine -/

namespace Engine

variable {env : Env} {config : Config} {engine middle next : Engine}

/-- The holds of the one engine come from those of the other by events. -/
def Holding (engine next : Engine) : Prop :=
  ∃ events : List HoldEvent, next.holds = events.foldl Holds.step engine.holds

theorem Holding.of_eq (same : next.holds = engine.holds) : engine.Holding next := ⟨[], same⟩

theorem Holding.trans (first : engine.Holding middle) (second : middle.Holding next) :
    engine.Holding next := by
  obtain ⟨early, former⟩ := first
  obtain ⟨late, latter⟩ := second
  exact ⟨early ++ late, by rw [latter, former, List.foldl_append]⟩

theorem carryOut_holding (plan : Plan) (sending : Sending) :
    engine.Holding (engine.carryOut env plan sending).1 := by
  cases plan with
  | refuse output => exact .of_eq rfl
  | upload payload report => exact .of_eq rfl
  | post event hold row notice sha =>
      refine ⟨(hold.map (.advertise event.blobId)).toList, ?_⟩
      cases hold <;> cases sha <;> cases delivered : sending.delivered <;>
        simp [carryOut, delivered, sendClip, emit, Holds.step]

theorem command_holding (session : Session) (cmd : Cmd) :
    engine.Holding (engine.command env session cmd) := by
  refine command_made (motive := engine.Holding) session cmd (.of_eq rfl) ?_ ?_ ?_ ?_
  · intro current numbered plan sending _ before
    obtain ⟨seq, counted⟩ := current.number_shape numbered
    have same : engine.Holding (current.number numbered) := by
      rw [counted]
      exact before
    exact same.trans (carryOut_holding plan sending)
  · exact fun _ _ _ _ before _ => before
  · exact fun _ _ _ before => before
  · exact fun _ _ before => before

theorem receives_holding {content : Option Clipboard} (receives : engine.Receives content next) :
    engine.Holding next := by
  obtain ⟨_, _, _, _, -, -, rfl⟩ := receives
  exact .of_eq rfl

theorem handleFrame_holding (frame : Frame) : engine.Holding (engine.handleFrame env frame) := by
  cases frame with
  | keepalive | other | badClip => exact .of_eq rfl
  | tokenRotate token =>
      rw [handleFrame]
      split_ifs <;> exact .of_eq rfl
  | clip event applying =>
      rw [handleFrame]
      split_ifs
      · exact .of_eq rfl
      · exact receives_holding (handleIncomingText_receives event applying)
  | blobRequest id reread =>
      simp only [handleFrame, serve]
      repeat' split
      all_goals exact .of_eq rfl

/-- The arm of a served blob is the event; no other result changes the holds. -/
theorem handleResult_holding (result : BlobResult) (delivered : Bool) (applying : Applying) :
    engine.Holding (engine.handleResult env result delivered applying) := by
  match result with
  | .upload (.ok ()) report =>
      obtain ⟨recentImg, posted⟩ := posted_shape engine report applying.now
      rw [handleResult]
      cases delivered with
      | true =>
          simp only [if_true, posted]
          exact .of_eq rfl
      | false => exact .of_eq rfl
  | .upload (.error message) report => exact .of_eq rfl
  | .serve id ok => exact ⟨[.served id ok], by cases ok <;> rfl⟩
  | .download (.ok data) event => exact receives_holding (applyBlob_receives event data applying)
  | .download (.error message) event => exact .of_eq rfl

theorem step_holding {action : Action} (stepped : engine.step env action = some next) :
    engine.Holding next := by
  cases turn_of_step stepped with
  | connect session accepted now offline =>
      obtain ⟨recentImg, message, same⟩ := connect_shape engine session accepted now
      rw [same]
      split_ifs <;> exact .of_eq rfl
  | connectFailed error offline => exact .of_eq rfl
  | lost why session connected => exact .of_eq rfl
  | command cmd session connected => exact command_holding session cmd
  | frame frame session connected => exact handleFrame_holding frame
  | result delivered applying session result rest connected found =>
      exact handleResult_holding result delivered applying
  | finish index response worker found =>
      cases worker <;> cases response <;> exact .of_eq rfl

/-- The ring of a running engine has a history of events. -/
theorem holds_eq_after (run : Reachable (Engine.step env) (.start env config) engine) :
    ∃ events, engine.holds = Holds.after events := by
  have holding : (Engine.start env config).Holding engine :=
    run.invariant (.of_eq rfl) fun before _ stepped => before.trans (step_holding stepped)
  exact holding

end Engine

end CopySync.Desktop
