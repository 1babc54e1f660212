import CopySync.Server.Store.Queue
import CopySync.Server.Store.Tokens
import Mathlib.Data.List.DropRight

/-!
# The offline queues as bounded lists

What the queue transactions are for: one list of clips per device, appended at the
back up to a depth, purged of old clips and drained as a whole.  Keys, sequence
counters and buckets that come and go are not visible: every sequence of
transactions on the store is a behaviour of the lists.
-/

namespace CopySync.Server

open Foundation

/-- An item as its JSON form carries it: the in-process broadcast flag is dropped. -/
def QueueItem.persisted (item : QueueItem) : QueueItem := { item with event := item.event.wire }

/-- Queued clips by device, oldest first. -/
abbrev Queues := DeviceID → List QueueItem

inductive QueueOp where
  | enqueue (id : DeviceID) (item : QueueItem) (maxDepth : Int)
  | purge (now : Time) (ttl : Duration)
  | drain (id : DeviceID)
  | deleteDevice (id : DeviceID)

/-- What the transactions return. -/
inductive QueueReply where
  | trimmed (count : Nat)
  | purged (count : Nat)
  | drained (items : List QueueItem)
  | deleted
  deriving DecidableEq, Repr

/-- The depth of an append leaves room for the new item. -/
def QueueOp.Bounded : QueueOp → Prop
  | .enqueue _ _ maxDepth => 1 ≤ maxDepth
  | _ => True

instance (op : QueueOp) : Decidable op.Bounded :=
  match op with
  | .enqueue _ _ maxDepth => inferInstanceAs (Decidable (1 ≤ maxDepth))
  | .purge _ _ | .drain _ | .deleteDevice _ => inferInstanceAs (Decidable True)

/-- What a transaction does to the lists.  An append keeps the last `maxDepth`
elements, the new item among them, and counts the others; a purge removes exactly the
items older than a positive `ttl`. -/
def QueueOp.Meets (before : Queues) (op : QueueOp) (reply : QueueReply) (after : Queues) : Prop :=
  match op, reply with
  | .enqueue id item maxDepth, .trimmed count =>
      after id = (before id ++ [item.persisted]).rtake maxDepth.toNat ∧
      before id ++ [item.persisted] = (before id ++ [item.persisted]).take count ++ after id ∧
      (after id).length + count = (before id).length + 1 ∧
      (after id).getLast? = some item.persisted ∧
      ∀ other, other ≠ id → after other = before other
  | .purge now ttl, .purged _ =>
      ∀ id, after id =
        (before id).filter fun item => decide ¬(0 < ttl ∧ ttl < now.sub item.enqueuedAt)
  | .drain id, .drained items =>
      items = before id ∧ after id = [] ∧ ∀ other, other ≠ id → after other = before other
  | .deleteDevice id, .deleted =>
      after id = [] ∧ ∀ other, other ≠ id → after other = before other
  | _, _ => False

/-- Behaviours of the lists: transactions with their replies, each doing what it is
for. -/
inductive Queues.Behaviour : Queues → List (QueueOp × QueueReply) → Queues → Prop where
  | done (queues : Queues) : Behaviour queues [] queues
  | step {before middle after : Queues} {op : QueueOp} {reply : QueueReply}
      {rest : List (QueueOp × QueueReply)} (first : op.Meets before reply middle)
      (others : Behaviour middle rest after) : Behaviour before ((op, reply) :: rest) after

namespace QueueBucket

/-- The trimming loop deletes what exceeds the depth. -/
theorem trim_deletions {maxDepth : Int} (positive : 1 ≤ maxDepth) (count : Nat)
    (bucket : QueueBucket) (counted : bucket.items.entries.length = count) :
    (trim maxDepth count bucket).2 = count - maxDepth.toNat := by
  induction count generalizing bucket with
  | zero => simp [trim]
  | succ count ih =>
      rw [trim]
      split_ifs with exceeds vacant
      · simp only [List.isEmpty_iff] at vacant
        simp [vacant] at counted
      · have rest : bucket.deleteFirst.items.entries.length = count := by
          simp [deleteFirst, OrderedMap.dropFirst, counted]
        simp only [ih _ rest]
        omega
      · show 0 = _
        omega

end QueueBucket

namespace Store

/-- A queue transaction with what it returns. -/
def applyQueueOp (lib : Library) (store : Store) : QueueOp → Store × QueueReply
  | .enqueue id item maxDepth =>
      let (store, trimmed) := store.enqueue id item.persisted maxDepth
      (store, .trimmed trimmed)
  | .purge now ttl =>
      let (store, removed) := store.purgeExpiredQueueItems now ttl
      (store, .purged removed)
  | .drain id =>
      let (store, items) := store.drainQueue id
      (store, .drained items)
  | .deleteDevice id => (store.deleteDevice lib id, .deleted)

/-- A sequence of queue transactions. -/
def runQueueOps (lib : Library) : Store → List QueueOp → Store × List QueueReply
  | store, [] => (store, [])
  | store, op :: rest =>
      let (store, reply) := store.applyQueueOp lib op
      let (store, replies) := runQueueOps lib store rest
      (store, reply :: replies)

variable (lib : Library) (store : Store)

theorem enqueue_trimmed (id : DeviceID) (item : QueueItem) {maxDepth : Int}
    (positive : 1 ≤ maxDepth) :
    (store.enqueue id item maxDepth).2 = (store.queueOf id).length + 1 - maxDepth.toNat := by
  have length : (((store.queues.get? id).getD .empty).append item).items.entries.length =
      (store.queueOf id).length + 1 := by
    have values := QueueBucket.values_append ((store.queues.get? id).getD .empty) item
    have lengths := congrArg List.length values
    simp only [OrderedMap.values, List.length_map, List.length_append, List.length_singleton]
      at lengths
    rw [lengths, queueOf]
    cases store.queues.get? id with
    | none => rfl
    | some bucket => simp [OrderedMap.values]
  simp only [enqueue]
  rw [QueueBucket.trim_deletions positive _ _ rfl, length]

theorem enqueue_meets (id : DeviceID) (item : QueueItem) {maxDepth : Int}
    (positive : 1 ≤ maxDepth) :
    (QueueOp.enqueue id item maxDepth).Meets store.queueOf
      (.trimmed (store.enqueue id item.persisted maxDepth).2)
      (store.enqueue id item.persisted maxDepth).1.queueOf := by
  have kept := store.queueOf_enqueue_self id item.persisted maxDepth
  have count := store.enqueue_trimmed id item.persisted positive
  have room : (store.enqueue id item.persisted maxDepth).2 ≤ (store.queueOf id).length := by omega
  refine ⟨?_, ?_, ?_, ?_,
    fun other different => store.queueOf_enqueue_of_ne id other _ _ different⟩
  · rw [kept, count, List.rtake, List.length_append, List.length_singleton]
  · rw [kept, List.take_append_drop]
  · rw [kept, List.length_drop, List.length_append, List.length_singleton]
    omega
  · rw [kept, List.drop_append_of_le_length room]
    simp

theorem applyQueueOp_meets (op : QueueOp) (bounded : op.Bounded) :
    op.Meets store.queueOf (store.applyQueueOp lib op).2
      (store.applyQueueOp lib op).1.queueOf := by
  cases op with
  | enqueue id item maxDepth => exact store.enqueue_meets id item bounded
  | purge now ttl =>
      intro id
      rw [applyQueueOp, queueOf_purge]
      refine List.filter_congr fun item _ => ?_
      by_cases disabled : ttl ≤ 0
      · simp [disabled, Int.not_lt.mpr disabled]
      · have enabled : 0 < ttl := Int.not_le.mp disabled
        simp only [disabled, decide_false, Bool.false_or, expiredItem, enabled, true_and,
          decide_not]
  | drain id =>
      refine ⟨store.drainQueue_snd id, ?_, fun other different => ?_⟩
      · simp [applyQueueOp, queueOf_drainQueue]
      · simp [applyQueueOp, queueOf_drainQueue, different]
  | deleteDevice id =>
      refine ⟨?_, fun other different => ?_⟩
      · simp [applyQueueOp, queueOf_deleteDevice]
      · simp [applyQueueOp, queueOf_deleteDevice, different]

/-- Every sequence of queue transactions, from every store, is a behaviour of the
bounded lists the store stands for. -/
theorem queues_refine_fifo (ops : List QueueOp) (bounded : ∀ op ∈ ops, op.Bounded) :
    Queues.Behaviour store.queueOf (ops.zip (store.runQueueOps lib ops).2)
      (store.runQueueOps lib ops).1.queueOf := by
  induction ops generalizing store with
  | nil => exact .done _
  | cons op rest ih =>
      have first := store.applyQueueOp_meets lib op (bounded op List.mem_cons_self)
      exact .step first (ih _ fun op later => bounded op (List.mem_cons_of_mem _ later))

/-- Three clips for a queue of depth two, and its drain. -/
def trimmingOps (clip : Nat → QueueItem) : List QueueOp :=
  [.enqueue "dev_a" (clip 0) 2, .enqueue "dev_a" (clip 1) 2, .enqueue "dev_b" (clip 2) 2,
    .enqueue "dev_a" (clip 3) 2, .drain "dev_a"]

/-- A text clip queued at time `index`. -/
def queuedText (index : Nat) : QueueItem where
  event :=
    { id := toString index
      originDevice := "dev_c"
      seq := index
      ts := ""
      mime := none
      inlineText := "text"
      html := ""
      blobID := ""
      name := ""
      onDemand := false
      size := 4
      sha256 := ""
      targets := ⟨true, false, none⟩
      enc := none }
  enqueuedAt := index

theorem fifo_trims_oldest :
    (empty.runQueueOps plainLibrary (trimmingOps queuedText)).2 =
        [.trimmed 0, .trimmed 0, .trimmed 0, .trimmed 1, .drained [queuedText 1, queuedText 3]] ∧
      Queues.Behaviour empty.queueOf
        ((trimmingOps queuedText).zip (empty.runQueueOps plainLibrary (trimmingOps queuedText)).2)
        (empty.runQueueOps plainLibrary (trimmingOps queuedText)).1.queueOf :=
  ⟨by decide +kernel, queues_refine_fifo plainLibrary empty (trimmingOps queuedText) (by decide)⟩

end Store

end CopySync.Server
