import CopySync.Foundation.Fifo
import CopySync.Foundation.OrderedMap
import CopySync.Client.E2e

/-!
# Desktop client: bounded rings

The echo-dedup ring of recently seen hashes, and the ring of blobs held for a later
`blob_request`.  Instants are nanoseconds of a monotonic clock.
-/

namespace CopySync.Desktop

open Foundation Client

/-! ## Echo dedup -/

/-- Hashes with the instant they were recorded, oldest first. -/
abbrev Dedup := List (String × Nat)

namespace Dedup

/-- How long a remembered hash suppresses a matching clip. -/
def echoTTL : Nat := 3 * 10 ^ 9

/-- Set the instant of the first entry with the hash. -/
def refresh (sha : String) (now : Nat) : Dedup → Dedup
  | [] => []
  | (hash, instant) :: rest =>
      if hash = sha then (hash, now) :: rest else (hash, instant) :: refresh sha now rest

/-- Record a hash, restarting its window; the ring keeps 64 entries. -/
def remember (ring : Dedup) (sha : String) (now : Nat) : Dedup :=
  if ring.any fun entry => entry.1 == sha then refresh sha now ring
  else (if 64 ≤ ring.length then ring.tail else ring) ++ [(sha, now)]

/-- The hash was recorded less than `echoTTL` ago. -/
def seen (ring : Dedup) (sha : String) (now : Nat) : Bool :=
  ring.any fun entry => entry.1 == sha && decide (now - entry.2 < echoTTL)

/-- The entry that recording a hash pushes out. -/
def evicted (ring : Dedup) (sha : String) : Option (String × Nat) :=
  if (ring.any fun entry => entry.1 == sha) = false ∧ 64 ≤ ring.length then ring.head? else none

variable {ring : Dedup} {sha other : String} {now instant : Nat}

theorem seen_of_mem (recorded : (sha, instant) ∈ ring) (recent : now - instant < echoTTL) :
    ring.seen sha now = true :=
  List.any_eq_true.mpr ⟨(sha, instant), recorded, by simp [recent]⟩

theorem mem_refresh_self (known : sha ∈ ring.map (·.1)) : (sha, now) ∈ refresh sha now ring := by
  induction ring with
  | nil => cases known
  | cons entry rest ih =>
      obtain ⟨hash, instant⟩ := entry
      rw [refresh]
      split_ifs with same
      · simp [same]
      · have later : sha ∈ rest.map (·.1) := by
          rcases List.mem_cons.mp known with here | there
          · exact absurd here.symm same
          · exact there
        exact List.mem_cons_of_mem _ (ih later)

theorem mem_refresh_of_ne (recorded : (other, instant) ∈ ring) (different : other ≠ sha) :
    (other, instant) ∈ refresh sha now ring := by
  induction ring with
  | nil => cases recorded
  | cons entry rest ih =>
      obtain ⟨hash, first⟩ := entry
      rw [refresh]
      split_ifs with same
      · rcases List.mem_cons.mp recorded with here | there
        · cases here
          exact absurd same different
        · exact List.mem_cons_of_mem _ there
      · rcases List.mem_cons.mp recorded with here | there
        · exact here ▸ List.mem_cons_self
        · exact List.mem_cons_of_mem _ (ih there)

theorem any_iff_mem : (ring.any fun entry => entry.1 == sha) = true ↔ sha ∈ ring.map (·.1) := by
  simp [List.any_eq_true]

theorem mem_remember_self (ring : Dedup) (sha : String) (now : Nat) :
    (sha, now) ∈ ring.remember sha now := by
  rw [remember]
  split
  next known => exact mem_refresh_self (any_iff_mem.mp known)
  next => simp

/-- Another hash keeps its entry unless it is pushed out. -/
theorem mem_remember_of_ne (recorded : (other, instant) ∈ ring) (different : other ≠ sha) :
    (other, instant) ∈ ring.remember sha now ∨ ring.evicted sha = some (other, instant) := by
  rw [remember, evicted]
  split
  next known => exact .inl (mem_refresh_of_ne recorded different)
  next unknown =>
    by_cases full : 64 ≤ ring.length
    · rw [if_pos full, if_pos ⟨Bool.eq_false_iff.mpr unknown, full⟩]
      cases ring with
      | nil => cases recorded
      | cons first rest =>
          rcases List.mem_cons.mp recorded with here | there
          · exact .inr (by rw [here, List.head?_cons])
          · exact .inl (List.mem_append_left _ there)
    · rw [if_neg full]
      exact .inl (List.mem_append_left _ recorded)

end Dedup

/-! ## On-demand holds -/

/-- A blob held until the server asks for it: the exact ciphertext advertised, or
the path of a file that is read again. -/
inductive Hold where
  | encrypted (body : Bytes)
  | plain (path : String)
  deriving DecidableEq, Repr

def maxHolds : Nat := 64

/-- Held blobs by id, with the ids in insertion order. -/
structure Holds where
  map : OrderedMap String Hold
  order : List String

namespace Holds

def empty : Holds := ⟨.empty, []⟩

def get? (holds : Holds) (id : String) : Option Hold := holds.map.get? id

/-- Drop the oldest ids until the ring fits. -/
def trim (map : OrderedMap String Hold) : List String → Holds
  | [] => ⟨map, []⟩
  | old :: rest =>
      if maxHolds < (old :: rest).length then trim (map.erase old) rest else ⟨map, old :: rest⟩

/-- `hold_on_demand`: a new id evicts the oldest when the ring is full; a known id
only changes its hold. -/
def insert (holds : Holds) (id : String) (hold : Hold) : Holds :=
  if holds.map.contains id then { holds with map := holds.map.put id hold }
  else trim (holds.map.put id hold) (holds.order ++ [id])

/-- Drop a served hold. -/
def remove (holds : Holds) (id : String) : Holds :=
  if holds.map.contains id then ⟨holds.map.erase id, holds.order.filter (· != id)⟩ else holds

theorem trim_of_le (map : OrderedMap String Hold) {order : List String}
    (fits : order.length ≤ maxHolds) : trim map order = ⟨map, order⟩ := by
  cases order with
  | nil => rfl
  | cons old rest => exact if_neg (Nat.not_lt.mpr fits)

theorem trim_of_full (map : OrderedMap String Hold) (old : String) {rest : List String}
    (full : rest.length = maxHolds) : trim map (old :: rest) = ⟨map.erase old, rest⟩ := by
  have exceeds : maxHolds < (old :: rest).length := by simp [full]
  rw [trim, if_pos exceeds, trim_of_le _ full.le]

/-- The ring lists exactly the held ids, each once, and fits its bound. -/
structure Valid (holds : Holds) : Prop where
  nodup : holds.order.Nodup
  listed : ∀ id, id ∈ holds.order ↔ (holds.get? id).isSome
  bounded : holds.order.length ≤ maxHolds

theorem Valid.empty : Valid .empty where
  nodup := List.nodup_nil
  listed := by simp [Holds.empty, get?, OrderedMap.get?, OrderedMap.empty, OrderedMap.find]
  bounded := Nat.zero_le _

variable {holds : Holds} {id : String}

/-- What an insertion into a valid ring does: a known id keeps its place, a new one
is appended, and a full ring loses its oldest id. -/
theorem Valid.insert_cases (valid : holds.Valid) (id : String) (hold : Hold) :
    (id ∈ holds.order ∧ holds.insert id hold = ⟨holds.map.put id hold, holds.order⟩) ∨
    (id ∉ holds.order ∧ holds.order.length < maxHolds ∧
      holds.insert id hold = ⟨holds.map.put id hold, holds.order ++ [id]⟩) ∨
    (id ∉ holds.order ∧ ∃ old rest, holds.order = old :: rest ∧ holds.order.length = maxHolds ∧
      holds.insert id hold = ⟨(holds.map.put id hold).erase old, rest ++ [id]⟩) := by
  by_cases known : id ∈ holds.order
  · have held : holds.map.contains id = true := (valid.listed id).mp known
    exact .inl ⟨known, by rw [insert, if_pos held]⟩
  · have absent : ¬holds.map.contains id = true := fun held => known ((valid.listed id).mpr held)
    rw [insert, if_neg absent]
    rcases Nat.lt_or_eq_of_le valid.bounded with room | full
    · exact .inr (.inl ⟨known, room, trim_of_le _ (by rw [List.length_append]; exact room)⟩)
    · obtain ⟨old, rest, order⟩ : ∃ old rest, holds.order = old :: rest :=
        List.exists_cons_of_length_pos (full ▸ by decide)
      have length : (rest ++ [id]).length = maxHolds := by simpa [order] using full
      exact .inr (.inr ⟨known, old, rest, order, full, by
        rw [order, List.cons_append, trim_of_full _ _ length]⟩)

/-- A hold just inserted is present. -/
theorem Valid.get?_insert_self (valid : holds.Valid) (hold : Hold) :
    (holds.insert id hold).get? id = some hold := by
  rcases valid.insert_cases id hold with ⟨_, inserted⟩ | ⟨_, _, inserted⟩ |
    ⟨fresh, old, rest, order, _, inserted⟩
  · simp [inserted, get?]
  · simp [inserted, get?]
  · have other : id ≠ old := by
      rintro rfl
      exact fresh (order ▸ List.mem_cons_self)
    simp [inserted, get?, other]

/-- Whatever is held after an insertion is the new hold or was held before. -/
theorem Valid.get?_insert (valid : holds.Valid) {hold found : Hold} {query : String}
    (held : (holds.insert id hold).get? query = some found) :
    query = id ∧ found = hold ∨ holds.get? query = some found := by
  by_cases same : query = id
  · subst same
    rw [valid.get?_insert_self, Option.some.injEq] at held
    exact .inl ⟨rfl, held.symm⟩
  · refine .inr ?_
    rcases valid.insert_cases id hold with ⟨_, inserted⟩ | ⟨_, _, inserted⟩ |
      ⟨_, old, _, _, _, inserted⟩
    · simpa [inserted, get?, same] using held
    · simpa [inserted, get?, same] using held
    · by_cases evicted : query = old
      · simp [inserted, get?, evicted] at held
      · simpa [inserted, get?, same, evicted] using held

/-- The ids of a valid ring wait in a queue. -/
def Valid.queue (valid : holds.Valid) : Fifo String maxHolds where
  keys := holds.order
  nodup := valid.nodup
  bounded := valid.bounded

theorem Valid.order_insert (valid : holds.Valid) (id : String) (hold : Hold) :
    (holds.insert id hold).order = (valid.queue.enter id).keys := by
  rcases valid.insert_cases id hold with ⟨known, inserted⟩ | ⟨fresh, room, inserted⟩ |
    ⟨fresh, old, rest, order, full, inserted⟩
  · have waits : id ∈ valid.queue.keys := known
    rw [inserted, Fifo.enter_of_known waits]
    rfl
  · have new : id ∉ valid.queue.keys := fresh
    rw [inserted, Fifo.keys_enter_of_room new room]
    rfl
  · have new : id ∉ valid.queue.keys := fresh
    have keys : valid.queue.keys = old :: rest := order
    rw [inserted, Fifo.keys_enter_of_full new full, keys]
    rfl

/-- The ids listed after an insertion are those held. -/
theorem Valid.listed_insert (valid : holds.Valid) (id : String) (hold : Hold) (query : String) :
    query ∈ (holds.insert id hold).order ↔ ((holds.insert id hold).get? query).isSome := by
  have listed := valid.listed query
  rcases valid.insert_cases id hold with ⟨known, inserted⟩ | ⟨_, _, inserted⟩ |
    ⟨fresh, old, rest, order, _, inserted⟩ <;> rw [inserted]
  · by_cases same : query = id
    · simp [same, known, get?]
    · simpa [get?, same] using listed
  · by_cases same : query = id
    · simp [same, get?]
    · simpa [get?, same] using listed
  · rw [order] at fresh listed
    have nodup : old ∉ rest ∧ rest.Nodup := by simpa [order] using valid.nodup
    have other : id ≠ old := by
      rintro rfl
      exact fresh List.mem_cons_self
    by_cases same : query = id
    · simp [same, other, get?]
    · by_cases evicted : query = old
      · simp [get?, evicted, other.symm, nodup.1]
      · simpa [get?, same, evicted] using listed

theorem Valid.insert (valid : holds.Valid) (id : String) (hold : Hold) :
    (holds.insert id hold).Valid where
  nodup := by
    rw [valid.order_insert]
    exact Fifo.nodup _
  listed := valid.listed_insert id hold
  bounded := by
    rw [valid.order_insert]
    exact Fifo.bounded _

theorem get?_remove (holds : Holds) (id query : String) :
    (holds.remove id).get? query = if query = id then none else holds.get? query := by
  rw [remove]
  split
  next held => simp [get?, OrderedMap.get?_erase]
  next absent =>
    split
    next same =>
      subst same
      simpa [OrderedMap.contains, get?] using absent
    next => rfl

/-- Removing a hold takes its id out of the queue. -/
theorem Valid.order_remove (valid : holds.Valid) (id : String) :
    (holds.remove id).order = (valid.queue.leave id).keys := by
  rw [Holds.remove]
  split
  next => rfl
  next absent =>
    refine (List.filter_eq_self.mpr ?_).symm
    intro other listed
    have different : other ≠ id := by
      rintro rfl
      exact absent ((valid.listed other).mp listed)
    exact bne_iff_ne.mpr different

theorem Valid.remove (valid : holds.Valid) (id : String) : (holds.remove id).Valid where
  nodup := by
    rw [valid.order_remove]
    exact Fifo.nodup _
  listed := by
    intro query
    have listed := valid.listed query
    rw [valid.order_remove, get?_remove]
    by_cases same : query = id <;> simp [Valid.queue, Fifo.leave, same, listed]
  bounded := by
    rw [valid.order_remove]
    exact Fifo.bounded _

end Holds

end CopySync.Desktop
