import CopySync.Server.Store.Basic

/-!
# Offline queues

Queued clips of a device are stored under big-endian sequence numbers, so the
bucket enumerates them in arrival order.  `queueOf` reads a bucket as the list it
stands for, and every transaction is specified by what it does to that list.
-/

namespace CopySync.Server

open Foundation

/-! ## Keys

A bucket is kept here under its sequence numbers.  On the disk a number is eight bytes, and
the cursor goes by the order of the bytes. -/

/-- The low `width` bytes of a number, the high ones first. -/
def bigEndian : Nat → Nat → List UInt8
  | 0, _ => []
  | width + 1, value => UInt8.ofNat (value / 256 ^ width) :: bigEndian width value

def itob (value : Nat) : List UInt8 := bigEndian 8 value

/-- The first digits decide, and only where they agree the rest does. -/
theorem digits_lt_iff {base low high other digit : Nat} (lowFits : low < base)
    (highFits : high < base) : low + base * digit < high + base * other ↔
      digit < other ∨ digit = other ∧ low < high := by
  cases Nat.lt_trichotomy digit other with
  | inl less =>
      have scaled : base * (digit + 1) ≤ base * other := Nat.mul_le_mul_left base less
      rw [Nat.mul_succ] at scaled
      exact iff_of_true (by omega) (.inl less)
  | inr rest =>
      cases rest with
      | inl same => simp [same]
      | inr more =>
          have scaled : base * (other + 1) ≤ base * digit := Nat.mul_le_mul_left base more
          rw [Nat.mul_succ] at scaled
          exact iff_of_false (by omega) (by omega)

theorem bigEndian_lt_iff (width left right : Nat) :
    bigEndian width left < bigEndian width right ↔ left % 256 ^ width < right % 256 ^ width := by
  induction width with
  | zero => simp [bigEndian, Nat.mod_one]
  | succ width ih =>
      have fits (value : Nat) : value % 256 ^ width < 256 ^ width :=
        Nat.mod_lt _ (Nat.pow_pos (by decide))
      rw [bigEndian, bigEndian, List.cons_lt_cons_iff, ih, Nat.mod_pow_succ, Nat.mod_pow_succ,
        digits_lt_iff (fits left) (fits right), UInt8.lt_iff_toNat_lt, ← UInt8.toNat_inj]
      simp only [UInt8.toNat_ofNat', Nat.reducePow]

/-- Below 2^64 the order of the keys is the order of the numbers. -/
theorem itob_lt_iff {left right : Nat} (leftFits : left < 2 ^ 64) (rightFits : right < 2 ^ 64) :
    itob left < itob right ↔ left < right := by
  have width : 256 ^ 8 = 2 ^ 64 := rfl
  rw [itob, itob, bigEndian_lt_iff, width, Nat.mod_eq_of_lt leftFits, Nat.mod_eq_of_lt rightFits]

namespace QueueBucket

/-- The cursor meets the items of a bucket in the order in which their numbers were issued. -/
theorem cursor_order (bucket : QueueBucket) (fits : bucket.seq < 2 ^ 64) :
    (bucket.items.entries.map fun entry => itob entry.1).Pairwise (· < ·) := by
  apply List.pairwise_map.mpr
  apply bucket.items.sorted.imp_of_mem
  intro earlier later first second less
  have firstFits := (bucket.issued earlier first).trans_lt fits
  have secondFits := (bucket.issued later second).trans_lt fits
  exact (itob_lt_iff firstFits secondFits).mpr less

/-- The bucket `CreateBucketIfNotExists` makes. -/
def empty : QueueBucket where
  seq := 0
  items := .empty
  issued := by simp [OrderedMap.empty]

/-- `NextSequence`, then a put under the new number. -/
def append (bucket : QueueBucket) (item : QueueItem) : QueueBucket where
  seq := bucket.seq + 1
  items := bucket.items.put (bucket.seq + 1) item
  issued := by
    intro entry membership
    rcases OrderedMap.mem_insertEntry membership with rfl | old
    · exact le_rfl
    · exact Nat.le_succ_of_le (bucket.issued entry old)

/-- Delete the key the cursor finds first. -/
def deleteFirst (bucket : QueueBucket) : QueueBucket where
  seq := bucket.seq
  items := bucket.items.dropFirst
  issued := fun entry membership => bucket.issued entry (List.mem_of_mem_tail membership)

/-- Delete the items a predicate rejects. -/
def keep (bucket : QueueBucket) (keeps : QueueItem → Bool) : QueueBucket where
  seq := bucket.seq
  items := bucket.items.filter fun _ item => keeps item
  issued := fun entry membership => bucket.issued entry (List.mem_filter.mp membership).1

@[simp] theorem values_append (bucket : QueueBucket) (item : QueueItem) :
    (bucket.append item).items.values = bucket.items.values ++ [item] :=
  bucket.items.values_put_of_lt item fun entry membership =>
    Nat.lt_succ_of_le (bucket.issued entry membership)

/-- The trimming loop of `Enqueue`: delete from the front while `count` exceeds
the depth and the cursor still finds a key.  Returns the number of deletions. -/
def trim (maxDepth : Int) : Nat → QueueBucket → QueueBucket × Nat
  | 0, bucket => (bucket, 0)
  | count + 1, bucket =>
      if maxDepth < (count : Int) + 1 then
        if bucket.items.entries.isEmpty then (bucket, 0)
        else
          let (trimmed, deletions) := trim maxDepth count bucket.deleteFirst
          (trimmed, deletions + 1)
      else (bucket, 0)

/-- Trimming drops a prefix, of the length it reports. -/
theorem trim_values (maxDepth : Int) (count : Nat) (bucket : QueueBucket) :
    (trim maxDepth count bucket).1.items.values =
      bucket.items.values.drop (trim maxDepth count bucket).2 := by
  induction count generalizing bucket with
  | zero => rfl
  | succ count ih =>
      rw [trim]
      split_ifs
      · rfl
      · simp [ih, deleteFirst, List.drop_tail]
      · rfl

/-- A positive depth keeps the newest item. -/
theorem trim_le {maxDepth : Int} (deep : 1 ≤ maxDepth) (count : Nat) (bucket : QueueBucket) :
    (trim maxDepth count bucket).2 ≤ count - 1 := by
  induction count generalizing bucket with
  | zero => exact le_rfl
  | succ count ih =>
      rw [trim]
      split_ifs with more
      · exact Nat.zero_le _
      · have rest := ih bucket.deleteFirst
        dsimp only
        omega
      · exact Nat.zero_le _

end QueueBucket

namespace Store

/-- A device's queued clips, oldest first. -/
def queueOf (store : Store) (id : DeviceID) : List QueueItem :=
  match store.queues.get? id with
  | none => []
  | some bucket => bucket.items.values

/-- Append an item and trim the oldest entries beyond `maxDepth`; returns the
number of items trimmed. -/
def enqueue (store : Store) (id : DeviceID) (item : QueueItem) (maxDepth : Int) :
    Store × Nat :=
  let bucket := ((store.queues.get? id).getD .empty).append item
  let (bucket, trimmed) := bucket.trim maxDepth bucket.items.entries.length
  ({ store with queues := store.queues.put id bucket }, trimmed)

/-- All queued items of a device in order, removing its queue. -/
def drainQueue (store : Store) (id : DeviceID) : Store × List QueueItem :=
  match store.queues.get? id with
  | none => (store, [])
  | some bucket => ({ store with queues := store.queues.erase id }, bucket.items.values)

/-- Blob ids referenced by any queued item; the collector's pin set. -/
def allQueuedBlobIDs (store : Store) : List BlobID :=
  (store.queues.values.flatMap fun bucket => bucket.items.values.map (·.event.blobID)).filter
    (· ≠ "")

/-- Whether an item has outlived the queue's time to live. -/
def expiredItem (now : Time) (ttl : Duration) (item : QueueItem) : Bool :=
  decide (ttl < now.sub item.enqueuedAt)

/-- Remove expired items from every queue and drop the queues left empty. -/
def purgeExpiredQueueItems (store : Store) (now : Time) (ttl : Duration) : Store × Nat :=
  if ttl ≤ 0 then (store, 0)
  else
    let swept := store.queues.mapValues (·.keep fun item => !expiredItem now ttl item)
    let removed := (store.queues.values.map fun bucket =>
      bucket.items.values.countP (expiredItem now ttl)).sum
    ({ store with queues := swept.filter fun _ bucket => !bucket.items.entries.isEmpty }, removed)

/-! ## What the transactions do to the queued lists -/

section Lists

variable (store : Store) (id other : DeviceID) (item : QueueItem) (maxDepth : Int)

theorem queueOf_enqueue_self :
    (store.enqueue id item maxDepth).1.queueOf id =
      (store.queueOf id ++ [item]).drop (store.enqueue id item maxDepth).2 := by
  simp only [enqueue, queueOf, OrderedMap.get?_put_self, QueueBucket.trim_values,
    QueueBucket.values_append]
  cases store.queues.get? id <;> rfl

/-- Under a positive depth only what was queued before is trimmed. -/
theorem enqueue_trimmed_le (deep : 1 ≤ maxDepth) :
    (store.enqueue id item maxDepth).2 ≤ (store.queueOf id).length := by
  have appended : (((store.queues.get? id).getD .empty).append item).items.entries.length =
      (store.queueOf id).length + 1 := by
    have values := congrArg List.length
      (((store.queues.get? id).getD .empty).values_append item)
    rw [OrderedMap.values, List.length_map, List.length_append] at values
    rw [values, queueOf]
    cases store.queues.get? id <;> rfl
  have bound := QueueBucket.trim_le deep
    (((store.queues.get? id).getD .empty).append item).items.entries.length
    (((store.queues.get? id).getD .empty).append item)
  rw [appended] at bound
  rw [enqueue, appended]
  exact bound

theorem queueOf_enqueue_of_ne (different : other ≠ id) :
    (store.enqueue id item maxDepth).1.queueOf other = store.queueOf other := by
  simp [enqueue, queueOf, different]

@[simp] theorem drainQueue_snd : (store.drainQueue id).2 = store.queueOf id := by
  rw [drainQueue, queueOf]
  split <;> rfl

theorem queueOf_drainQueue :
    (store.drainQueue id).1.queueOf other = if other = id then [] else store.queueOf other := by
  simp only [drainQueue, queueOf]
  cases lookup : store.queues.get? id with
  | none =>
      split_ifs with same
      · simp [same, lookup]
      · rfl
  | some bucket => split_ifs with same <;> simp [same]

theorem queueOf_purge (now : Time) (ttl : Duration) :
    (store.purgeExpiredQueueItems now ttl).1.queueOf id =
      (store.queueOf id).filter fun item => ttl ≤ 0 || !expiredItem now ttl item := by
  rw [purgeExpiredQueueItems]
  split_ifs with disabled
  · simp [disabled]
  · simp only [queueOf, OrderedMap.get?_filter, OrderedMap.get?_mapValues, disabled,
      decide_false, Bool.false_or]
    cases store.queues.get? id with
    | none => rfl
    | some bucket =>
        -- A bucket left empty is dropped, which reads as the same empty list.
        have values := bucket.items.values_filter fun item => !expiredItem now ttl item
        simp only [Option.map_some, QueueBucket.keep, Option.filter_some]
        split
        next dropped =>
          split at dropped
          next => cases dropped
          next vacant =>
            rw [← values]
            simpa [OrderedMap.values] using vacant
        next kept =>
          split at kept
          next =>
            cases kept
            exact values
          next => cases kept

theorem queueOf_deleteDevice (lib : Library) :
    (store.deleteDevice lib id).queueOf other =
      if other = id then [] else store.queueOf other := by
  simp only [deleteDevice, queueOf, OrderedMap.get?_erase]
  split_ifs <;> rfl

theorem queueOf_congr {left right : Store} (same : left.queues = right.queues) :
    left.queueOf id = right.queueOf id := by
  simp [queueOf, same]

@[simp] theorem queueOf_empty : Store.empty.queueOf id = [] := rfl

/-- The pin set holds the blobs that items of some queue refer to. -/
theorem mem_allQueuedBlobIDs {blob : BlobID} :
    blob ∈ store.allQueuedBlobIDs ↔
      blob ≠ "" ∧ ∃ id, ∃ item ∈ store.queueOf id, item.event.blobID = blob := by
  simp only [allQueuedBlobIDs, List.mem_filter, List.mem_flatMap, List.mem_map,
    decide_eq_true_eq]
  constructor
  · rintro ⟨⟨bucket, stored, item, membership, refers⟩, named⟩
    obtain ⟨id, found⟩ := (OrderedMap.mem_values_iff _).mp stored
    exact ⟨named, id, item, by simpa [queueOf, found] using membership, refers⟩
  · rintro ⟨named, id, item, membership, refers⟩
    refine ⟨?_, named⟩
    rw [queueOf] at membership
    split at membership
    next => cases membership
    next bucket found =>
        exact ⟨bucket, (OrderedMap.mem_values_iff _).mpr ⟨id, found⟩, item, membership, refers⟩

end Lists

/-! ## Frame conditions -/

section Frame

variable (store : Store) (id : DeviceID) (item : QueueItem) (maxDepth : Int)

@[simp] theorem enqueue_devices :
    (store.enqueue id item maxDepth).1.devices = store.devices := rfl

@[simp] theorem enqueue_blobs :
    (store.enqueue id item maxDepth).1.blobs = store.blobs := rfl

@[simp] theorem drainQueue_devices : (store.drainQueue id).1.devices = store.devices := by
  rw [drainQueue]
  split <;> rfl

@[simp] theorem drainQueue_blobs : (store.drainQueue id).1.blobs = store.blobs := by
  rw [drainQueue]
  split <;> rfl

@[simp] theorem purge_devices (now : Time) (ttl : Duration) :
    (store.purgeExpiredQueueItems now ttl).1.devices = store.devices := by
  rw [purgeExpiredQueueItems]
  split_ifs <;> rfl

@[simp] theorem purge_blobs (now : Time) (ttl : Duration) :
    (store.purgeExpiredQueueItems now ttl).1.blobs = store.blobs := by
  rw [purgeExpiredQueueItems]
  split_ifs <;> rfl

end Frame

end Store

end CopySync.Server
