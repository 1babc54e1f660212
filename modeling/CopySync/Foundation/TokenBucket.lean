import Mathlib.Algebra.Order.Field.Basic
import Mathlib.Tactic.Linarith

/-!
# Token buckets

A bucket starts full, is refilled at a constant rate up to its size, and gives one token at a
time.  What it answers from some time on depends only on its level from that time on, so a
bucket left alone for as long as it takes to fill is as good as a new one.
-/

namespace CopySync.Foundation

universe u

/-- Tokens come in at `rate` for each unit of time, up to `burst` of them. -/
structure TokenRate (K : Type u) [Field K] [LinearOrder K] where
  rate : K
  burst : K
  rate_pos : 0 < rate
  burst_nonneg : 0 ≤ burst

/-- The tokens left after the last one was taken, and the time it was taken. -/
@[ext] structure TokenBucket {K : Type u} [Field K] [LinearOrder K] (limit : TokenRate K) where
  tokens : K
  last : K
  tokens_nonneg : 0 ≤ tokens
  tokens_le : tokens ≤ limit.burst

namespace TokenBucket

variable {K : Type u} [Field K] [LinearOrder K] {limit : TokenRate K}

/-- A new bucket, from which no token was taken yet. -/
def full : TokenBucket limit where
  tokens := limit.burst
  last := 0
  tokens_nonneg := limit.burst_nonneg
  tokens_le := le_rfl

/-- The tokens in the bucket at a time. -/
def level (bucket : TokenBucket limit) (now : K) : K :=
  min limit.burst (bucket.tokens + limit.rate * max 0 (now - bucket.last))

theorem level_le (bucket : TokenBucket limit) (now : K) : bucket.level now ≤ limit.burst :=
  min_le_left _ _

/-- The buckets hold the same number of tokens from a time on. -/
def Alike (now : K) (left right : TokenBucket limit) : Prop :=
  ∀ later, now ≤ later → left.level later = right.level later

theorem Alike.refl (now : K) (bucket : TokenBucket limit) : Alike now bucket bucket :=
  fun _ _ => rfl

theorem Alike.mono {now later : K} {left right : TokenBucket limit}
    (alike : Alike now left right) (passed : now ≤ later) : Alike later left right :=
  fun further after => alike further (passed.trans after)

theorem Alike.trans {now : K} {left middle right : TokenBucket limit}
    (first : Alike now left middle) (second : Alike now middle right) :
    Alike now left right :=
  fun later after => (first later after).trans (second later after)

/-- The bucket is as good as new once it was left alone, from `since` on, for as long as an
empty one takes to fill. -/
def Rested (since : K) (bucket : TokenBucket limit) : Prop :=
  Alike (since + limit.burst / limit.rate) full bucket

theorem rested_full (since : K) : Rested since (full : TokenBucket limit) :=
  Alike.refl _ _

variable [IsStrictOrderedRing K]

theorem Rested.mono {since later : K} {bucket : TokenBucket limit}
    (rested : bucket.Rested since) (passed : since ≤ later) : bucket.Rested later :=
  Alike.mono rested (by linarith)

/-- The bucket with one token less. -/
def draw (bucket : TokenBucket limit) (now : K) (enough : 1 ≤ bucket.level now) :
    TokenBucket limit where
  tokens := bucket.level now - 1
  last := now
  tokens_nonneg := sub_nonneg.mpr enough
  tokens_le := (sub_le_self _ zero_le_one).trans (bucket.level_le now)

/-- Take a token if there is one. -/
def take (bucket : TokenBucket limit) (now : K) : Bool × TokenBucket limit :=
  if enough : 1 ≤ bucket.level now then (true, bucket.draw now enough) else (false, bucket)

@[simp] theorem level_full (now : K) :
    (full : TokenBucket limit).level now = limit.burst := by
  apply min_eq_left
  have gained : 0 ≤ limit.rate * max 0 (now - (full : TokenBucket limit).last) :=
    mul_nonneg limit.rate_pos.le (le_max_left _ _)
  exact le_add_of_nonneg_right gained

/-- A bucket is full again once an empty one would be. -/
theorem level_of_refilled (bucket : TokenBucket limit) {now : K}
    (refilled : bucket.last + limit.burst / limit.rate ≤ now) :
    bucket.level now = limit.burst := by
  apply min_eq_left
  have elapsed : limit.burst / limit.rate ≤ max 0 (now - bucket.last) :=
    le_max_of_le_right (le_sub_iff_add_le'.mpr refilled)
  have gained : limit.burst ≤ limit.rate * max 0 (now - bucket.last) :=
    (div_le_iff₀' limit.rate_pos).mp elapsed
  exact le_add_of_nonneg_of_le bucket.tokens_nonneg gained

theorem rested_last (bucket : TokenBucket limit) : bucket.Rested bucket.last := by
  intro later after
  rw [level_full, bucket.level_of_refilled after]

/-- Buckets that hold the same from now on give the same answer, and go on doing so. -/
theorem Alike.take {now : K} {left right : TokenBucket limit} (alike : Alike now left right) :
    (left.take now).1 = (right.take now).1 ∧
      Alike now (left.take now).2 (right.take now).2 := by
  have same : left.level now = right.level now := alike now le_rfl
  by_cases enough : 1 ≤ left.level now
  · have other : 1 ≤ right.level now := same ▸ enough
    have drawn : left.draw now enough = right.draw now other :=
      TokenBucket.ext (congrArg (· - 1) same) rfl
    simp only [TokenBucket.take, dif_pos enough, dif_pos other, true_and, drawn]
    exact Alike.refl _ _
  · have other : ¬1 ≤ right.level now := same ▸ enough
    simp only [TokenBucket.take, dif_neg enough, dif_neg other, true_and]
    exact alike

/-- Whether or not it gave a token, the bucket rests from now on. -/
theorem Rested.take {since now : K} {bucket : TokenBucket limit} (rested : bucket.Rested since)
    (passed : since ≤ now) : (bucket.take now).2.Rested now := by
  by_cases enough : 1 ≤ bucket.level now
  · simp only [TokenBucket.take, dif_pos enough]
    exact rested_last (bucket.draw now enough)
  · simp only [TokenBucket.take, dif_neg enough]
    exact rested.mono passed

/-! ## How much a bucket gives -/

theorem level_nonneg (bucket : TokenBucket limit) (now : K) : 0 ≤ bucket.level now := by
  have gained : 0 ≤ limit.rate * max 0 (now - bucket.last) :=
    mul_nonneg limit.rate_pos.le (le_max_left _ _)
  exact le_min limit.burst_nonneg (add_nonneg bucket.tokens_nonneg gained)

/-- A bucket left alone gains no more than what comes in. -/
theorem level_le_add (bucket : TokenBucket limit) {now later : K} (passed : now ≤ later) :
    bucket.level later ≤ bucket.level now + limit.rate * (later - now) := by
  have waited : 0 ≤ later - now := sub_nonneg.mpr passed
  have elapsed : max 0 (later - bucket.last) ≤ max 0 (now - bucket.last) + (later - now) := by
    apply max_le
    · exact add_nonneg (le_max_left _ _) waited
    · linarith [le_max_right 0 (now - bucket.last)]
  have gained : 0 ≤ limit.rate * (later - now) := mul_nonneg limit.rate_pos.le waited
  have refilled := mul_le_mul_of_nonneg_left elapsed limit.rate_pos.le
  rw [mul_add] at refilled
  rw [level, level, ← min_add_add_right]
  apply min_le_min
  · exact le_add_of_nonneg_right gained
  · linarith

theorem level_draw (bucket : TokenBucket limit) {now : K} (enough : 1 ≤ bucket.level now) :
    (bucket.draw now enough).level now = bucket.level now - 1 := by
  have drawn : (bucket.draw now enough).tokens +
      limit.rate * max 0 (now - (bucket.draw now enough).last) = bucket.level now - 1 := by
    simp [draw]
  rw [level, drawn]
  exact min_eq_right (bucket.draw now enough).tokens_le

/-- What is taken is missing. -/
theorem level_take (bucket : TokenBucket limit) (now : K) :
    (if (bucket.take now).1 then 1 else 0) + (bucket.take now).2.level now =
      bucket.level now := by
  by_cases enough : 1 ≤ bucket.level now
  · simp only [take, dif_pos enough, if_true, level_draw]
    exact add_sub_cancel _ _
  · simp only [take, dif_neg enough, Bool.false_eq_true, if_false, zero_add]

end TokenBucket

end CopySync.Foundation
