import CopySync.Desktop.Echo
import CopySync.Foundation.Fifo

/-!
# Desktop client: how long a hash is recognised

The ring of recent hashes over every history of `remember` calls.  Its hashes form a queue of
64 places: a hash that is known keeps its place when it is remembered again, and only its
instant changes.  So a hash is recognised for three seconds after it was remembered as long as
fewer than 64 hashes were added since it was added itself, however recently it was remembered.
-/

namespace CopySync.Desktop

open Foundation Client

namespace Dedup

/-! ## Histories of calls -/

def record (ring : Dedup) (call : String × Nat) : Dedup := ring.remember call.1 call.2

/-- The ring after a history of calls. -/
def after (calls : List (String × Nat)) : Dedup := calls.foldl record []

/-- The hash, when the ring does not hold it yet. -/
def new? (ring : Dedup) (call : String × Nat) : Option String :=
  if ring.any fun entry => entry.1 == call.1 then none else some call.1

/-- The hashes that the ring did not hold when they were remembered, in order. -/
def added (calls : List (String × Nat)) : List String := reports record new? [] calls

/-- The distinct other hashes that were remembered. -/
def others (sha : String) (since : List (String × Nat)) : Finset String :=
  (since.map (·.1)).toFinset.erase sha

variable {ring : Dedup} {queue : Fifo String 64} {calls before since : List (String × Nat)}
variable {call : String × Nat} {sha : String} {now instant recorded : Nat}

theorem after_concat (calls : List (String × Nat)) (call : String × Nat) :
    after (calls ++ [call]) = (after calls).record call :=
  List.foldl_concat ..

theorem added_concat (calls : List (String × Nat)) (call : String × Nat) :
    added (calls ++ [call]) = added calls ++ ((after calls).new? call).toList :=
  reports_concat ..

/-! ## The hashes as a queue -/

theorem keys_refresh (ring : Dedup) (sha : String) (now : Nat) :
    (refresh sha now ring).map (·.1) = ring.map (·.1) := by
  induction ring with
  | nil => rfl
  | cons entry rest ih =>
      rw [refresh]
      split_ifs
      · rfl
      · rw [List.map_cons, ih, List.map_cons]

/-- A hash that is remembered enters the queue of hashes. -/
theorem keys_remember (same : ring.map (·.1) = queue.keys) (sha : String) (now : Nat) :
    (ring.remember sha now).map (·.1) = (queue.enter sha).keys := by
  have length : ring.length = queue.keys.length := by rw [← same, List.length_map]
  rw [remember]
  split
  next known =>
    have waits : sha ∈ queue.keys := same ▸ any_iff_mem.mp known
    rw [keys_refresh, same, Fifo.enter_of_known waits]
  next unknown =>
    have new : sha ∉ queue.keys := fun waits => unknown (any_iff_mem.mpr (same ▸ waits))
    rcases Nat.lt_or_eq_of_le queue.bounded with room | full
    · rw [Fifo.keys_enter_of_room new room, if_neg (Nat.not_le.mpr (length ▸ room)),
        List.map_append, same]
      rfl
    · have nonempty : queue.keys ≠ [] := List.length_pos_iff.mp (by rw [full]; decide)
      rw [Fifo.keys_enter_of_full new full, if_pos (length ▸ full.ge), List.map_append,
        List.map_tail, same, List.tail_append_of_ne_nil nonempty]
      rfl

theorem new?_eq (same : ring.map (·.1) = queue.keys) (call : String × Nat) :
    ring.new? call = queue.fresh? call.1 := by
  have known : (ring.any fun entry => entry.1 == call.1) = true ↔ call.1 ∈ queue.keys :=
    same ▸ any_iff_mem
  rw [new?, Fifo.fresh?, if_congr known rfl rfl]

/-- The ring holds the hashes added latest. -/
theorem complete_after (calls : List (String × Nat)) :
    ∃ queue : Fifo String 64,
      (after calls).map (·.1) = queue.keys ∧ queue.Complete (added calls) := by
  induction calls using List.reverseRecOn with
  | nil => exact ⟨.empty, rfl, .empty⟩
  | append_singleton before last ih =>
      obtain ⟨queue, same, complete⟩ := ih
      refine ⟨queue.enter last.1, ?_, ?_⟩
      · rw [after_concat]
        exact keys_remember same last.1 last.2
      · rw [added_concat, new?_eq same]
        exact complete.enter last.1

theorem mem_added (listed : call ∈ calls) : call.1 ∈ added calls := by
  induction calls using List.reverseRecOn with
  | nil => cases listed
  | append_singleton before last ih =>
      rw [added_concat]
      rcases List.mem_append.mp listed with earlier | here
      · exact List.mem_append_left _ (ih earlier)
      · cases List.mem_singleton.mp here
        by_cases known : ((after before).any fun entry => entry.1 == call.1) = true
        · obtain ⟨queue, same, complete⟩ := complete_after before
          have waits : call.1 ∈ queue.keys := same ▸ any_iff_mem.mp known
          exact List.mem_append_left _ (mem_of_mem_latest (complete.keys ▸ waits))
        · rw [new?, if_neg known]
          exact List.mem_append_right _ (List.mem_singleton_self _)

/-- A hash that was remembered is in the ring while it is young. -/
theorem mem_after_iff (listed : call ∈ calls) :
    call.1 ∈ (after calls).map (·.1) ↔ age (added calls) call.1 < 64 := by
  obtain ⟨queue, same, complete⟩ := complete_after calls
  rw [same]
  exact complete.mem_iff (mem_added listed)

/-! ## Instants -/

/-- An entry after a call was there before, or is the one the call recorded. -/
theorem mem_of_mem_refresh {entry : String × Nat} (listed : entry ∈ refresh sha now ring) :
    entry ∈ ring ∨ entry = (sha, now) := by
  induction ring with
  | nil => cases listed
  | cons first rest ih =>
      obtain ⟨hash, instant⟩ := first
      rw [refresh] at listed
      split_ifs at listed with same
      · rcases List.mem_cons.mp listed with here | there
        · exact .inr (same ▸ here)
        · exact .inl (List.mem_cons_of_mem _ there)
      · rcases List.mem_cons.mp listed with here | there
        · exact .inl (here ▸ List.mem_cons_self)
        · exact (ih there).imp_left (List.mem_cons_of_mem _)

theorem mem_of_mem_remember {entry : String × Nat} (listed : entry ∈ ring.remember sha now) :
    entry ∈ ring ∨ entry = (sha, now) := by
  rw [remember] at listed
  split at listed
  next => exact mem_of_mem_refresh listed
  next =>
    rcases List.mem_append.mp listed with old | new
    · split_ifs at old
      · exact .inl (List.mem_of_mem_tail old)
      · exact .inl old
    · exact .inr (List.mem_singleton.mp new)

theorem nodup_after (calls : List (String × Nat)) : ((after calls).map (·.1)).Nodup := by
  obtain ⟨queue, same, -⟩ := complete_after calls
  exact same ▸ queue.nodup

theorem length_after_le (calls : List (String × Nat)) : (after calls).length ≤ 64 := by
  obtain ⟨queue, same, -⟩ := complete_after calls
  rw [← List.length_map (·.1), same]
  exact queue.bounded

/-- No call for a hash is later than the instant in the ring. -/
theorem le_recorded (ordered : calls.Pairwise fun earlier later => earlier.2 ≤ later.2)
    (held : (sha, recorded) ∈ after calls) (called : (sha, instant) ∈ calls) :
    instant ≤ recorded := by
  induction calls using List.reverseRecOn with
  | nil => cases called
  | append_singleton before last ih =>
      obtain ⟨earlier, -, later⟩ := List.pairwise_append.mp ordered
      have nodup := nodup_after (before ++ [last])
      rw [after_concat, record] at held nodup
      by_cases same : last.1 = sha
      · subst same
        have recorded_last : (last.1, recorded) = (last.1, last.2) :=
          List.inj_on_of_nodup_map nodup held (mem_remember_self _ _ _) rfl
        cases recorded_last
        rcases List.mem_append.mp called with old | new
        · exact later _ old last (List.mem_singleton_self _)
        · exact (congrArg Prod.snd (List.mem_singleton.mp new)).le
      · have old : (sha, instant) ∈ before := by
          rcases List.mem_append.mp called with old | new
          · exact old
          · exact absurd (congrArg Prod.fst (List.mem_singleton.mp new)).symm same
        rcases mem_of_mem_remember held with kept | new
        · exact ih earlier kept old
        · cases new
          exact absurd rfl same

/-! ## Recognition -/

/-- Within three seconds of a call its hash is recognised while the ring holds it. -/
theorem seen_after_iff (ordered : calls.Pairwise fun earlier later => earlier.2 ≤ later.2)
    (called : (sha, instant) ∈ calls) (young : now < instant + echoTTL) :
    (after calls).seen sha now = true ↔ age (added calls) sha < 64 := by
  rw [← mem_after_iff called]
  constructor
  · intro seen
    obtain ⟨entry, held, recent⟩ := List.any_eq_true.mp seen
    have same : entry.1 = sha := eq_of_beq (Bool.and_eq_true_iff.mp recent).1
    exact List.mem_map.mpr ⟨entry, held, same⟩
  · intro listed
    obtain ⟨⟨hash, recorded⟩, held, same⟩ := List.mem_map.mp listed
    cases same
    have fresh := le_recorded ordered held called
    have window : 0 < echoTTL := by decide
    exact seen_of_mem held (by omega)

/-- The ring keeps at most 64 distinct hashes.  A hash that was remembered less than three
seconds ago, with fewer than 64 distinct others since, is recognised if and only if fewer
than 64 hashes were added since it was last added. -/
theorem recognised_iff {calls : List (String × Nat)}
    (ordered : calls.Pairwise fun earlier later => earlier.2 ≤ later.2) :
    (after calls).length ≤ 64 ∧ ((after calls).map (·.1)).Nodup ∧
      ∀ before sha instant since now, calls = before ++ (sha, instant) :: since →
        now < instant + echoTTL →
        (((others sha since).card < 64 → (after calls).seen sha now = true) ↔
          (64 ≤ (others sha since).card ∨ age (added calls) sha < 64)) := by
  refine ⟨length_after_le calls, nodup_after calls, ?_⟩
  intro before sha instant since now split young
  have called : (sha, instant) ∈ calls :=
    split ▸ List.mem_append_right _ List.mem_cons_self
  rw [seen_after_iff ordered called young, ← Nat.not_lt, ← Decidable.imp_iff_not_or]

/-- A second call for a hash of a small ring. -/
theorem recognised_again :
    (after [("text", 0), ("other", 1), ("text", 2), ("third", 3)]).seen "text" (10 ^ 9) = true := by
  obtain ⟨-, -, each⟩ :=
    @recognised_iff [("text", 0), ("other", 1), ("text", 2), ("third", 3)] (by decide)
  have few : age (added [("text", 0), ("other", 1), ("text", 2), ("third", 3)]) "text" < 64 := by
    decide +kernel
  exact (each [("text", 0), ("other", 1)] "text" 2 [("third", 3)] (10 ^ 9) rfl (by decide)).mpr
    (.inr few) (by decide +kernel)

/-- The first of 64 hashes is remembered again, and then one that is new. -/
def refreshedRun : List (String × Nat) :=
  (List.range 64).map (fun number => (toString number, 0)) ++ [("0", 1), ("64", 2)]

/-- The new hash pushes out the one that was just remembered. -/
theorem refreshed_lost :
    ¬∀ calls : List (String × Nat), (calls.Pairwise fun earlier later => earlier.2 ≤ later.2) →
      (after calls).length ≤ 64 ∧ ((after calls).map (·.1)).Nodup ∧
        ∀ before sha instant since now, calls = before ++ (sha, instant) :: since →
          now < instant + echoTTL → (others sha since).card < 64 →
            (after calls).seen sha now = true := by
  intro claim
  obtain ⟨-, -, recognised⟩ := claim refreshedRun (by decide +kernel)
  have seen := recognised ((List.range 64).map fun number => (toString number, 0)) "0" 1
    [("64", 2)] 3 rfl (by decide) (by decide +kernel)
  have lost : (after refreshedRun).seen "0" 3 = false := by decide +kernel
  rw [lost] at seen
  cases seen

/-- A hash that was added when it was remembered is recognised for three seconds unless 64
distinct others are remembered. -/
theorem seen_of_new (ordered : (before ++ (sha, instant) :: since).Pairwise
      fun earlier later => earlier.2 ≤ later.2)
    (new : sha ∉ (after before).map (·.1)) (few : (others sha since).card < 64)
    (young : now < instant + echoTTL) :
    (after (before ++ (sha, instant) :: since)).seen sha now = true := by
  have called : (sha, instant) ∈ before ++ (sha, instant) :: since :=
    List.mem_append_right _ List.mem_cons_self
  apply (seen_after_iff ordered called young).mpr
  have reported : (after before).new? (sha, instant) = some sha :=
    if_neg fun known => new (any_iff_mem.mp known)
  obtain ⟨queue, -, complete⟩ := complete_after (before ++ (sha, instant) :: since)
  have spaced := complete.spaced
  have split : added (before ++ (sha, instant) :: since) =
      added before ++ sha :: reports record new? ((after before).record (sha, instant)) since := by
    rw [added, reports_append, reports, ← after, reported]
    rfl
  rw [split] at spaced ⊢
  apply spaced.age_lt
  refine lt_of_le_of_lt (Finset.card_le_card ?_) few
  apply Finset.erase_subset_erase
  intro hash listed
  obtain ⟨call, among, met, reported⟩ := exists_of_mem_reports (List.mem_toFinset.mp listed)
  rw [new?] at reported
  split_ifs at reported
  cases reported
  exact List.mem_toFinset.mpr (List.mem_map_of_mem among)

end Dedup

/-! ## The ring of the host -/

namespace Host

variable {env : Env} {config : Config} {windows : Bool} {host next : Host} {action : Action}

/-- The ring of texts has the history of what was remembered, in the order of time. -/
structure Recorded (host : Host) : Prop where
  ring : host.engine.recentText = Dedup.after host.remembered
  ordered : host.remembered.Pairwise fun earlier later => earlier.2 ≤ later.2
  past : ∀ entry ∈ host.remembered, entry.2 ≤ host.clock

theorem Recorded.start (env : Env) (config : Config) (windows : Bool) :
    (Host.start env config windows).Recorded where
  ring := rfl
  ordered := .nil
  past _ listed := by cases listed

theorem Recorded.poll (recorded : host.Recorded) (reading : Reading) (readable : Bool) :
    (host.poll env reading readable).Recorded := by
  obtain ⟨ring, ordered, past⟩ := recorded
  rw [Host.poll]
  split <;> exact ⟨ring, ordered, past⟩

theorem Recorded.turn (recorded : host.Recorded) (turned : host.turn env action = some next) :
    next.Recorded := by
  obtain ⟨queue, echo, engine, -, times, stepped, same⟩ := turn_some turned
  have later := clock_le times
  have records : engine.recentText = _ := Engine.records_of_step stepped
  have waited : ∀ entry ∈ host.remembered, entry.2 ≤ action.instants.getLastD host.clock :=
    fun entry listed => (recorded.past entry listed).trans later
  subst same
  cases entry : host.engine.remembers env action with
  | none =>
      rw [entry] at records
      constructor
      · simpa [entry, records] using recorded.ring
      · simpa [entry] using recorded.ordered
      · simpa [entry] using waited
  | some call =>
      rw [entry] at records
      have present : action.instants.getLastD host.clock = call.2 := instants_of_remembers entry
      constructor
      · simp only [Option.toList_some, Dedup.after_concat, records, Option.elim_some,
          recorded.ring]
        rfl
      · simp only [Option.toList_some]
        refine List.pairwise_append.mpr ⟨recorded.ordered, List.pairwise_singleton _ _, ?_⟩
        intro earlier listed final here
        rw [List.mem_singleton.mp here, ← present]
        exact waited earlier listed
      · simp only [Option.toList_some]
        intro other listed
        rcases List.mem_append.mp listed with old | new
        · exact waited other old
        · rw [List.mem_singleton.mp new, present]

theorem Recorded.step (recorded : host.Recorded) {action : HostAction}
    (stepped : host.step env action = some next) : next.Recorded := by
  cases action with
  | copy text =>
      cases stepped
      exact ⟨recorded.ring, recorded.ordered, recorded.past⟩
  | poll reading readable =>
      cases stepped
      exact recorded.poll reading readable
  | request request =>
      cases stepped
      exact ⟨recorded.ring, recorded.ordered, recorded.past⟩
  | turn action => exact recorded.turn stepped

/-- In every run, a text remembered less than three seconds ago is recognised if and only if
fewer than 64 hashes were added to the ring since its own was. -/
theorem text_recognised_iff (run : Reachable (Host.step env) (Host.start env config windows) host)
    {sha : String} {instant now : Nat} (listed : (sha, instant) ∈ host.remembered)
    (young : now < instant + Dedup.echoTTL) :
    host.engine.recentText.seen sha now = true ↔
      age (Dedup.added host.remembered) sha < 64 := by
  have recorded : host.Recorded := run.invariant (Recorded.start env config windows)
    fun recorded _ stepped => recorded.step stepped
  rw [recorded.ring]
  exact Dedup.seen_after_iff recorded.ordered listed young

end Host

end CopySync.Desktop
