import CopySync.Foundation.Clock
import CopySync.Server.RateLimit
import Mathlib.Tactic.Ring

/-!
# What a limiter lets through

An address is let through as often as its bucket allows: what the bucket holds, what comes in
as time passes, and a full bucket whenever the process starts anew.  This holds of every
system whose requests pass a limiter, whatever else the system does.
-/

namespace CopySync.Server

open Foundation

namespace IpLimiter

variable {limit : TokenRate ℚ}

/-- The requests of an address that would be let through at once. -/
def level (limiter : IpLimiter limit) (ip : String) (now : Time) : ℚ :=
  (limiter.bucket ip).level (seconds now)

theorem level_nonneg (limiter : IpLimiter limit) (ip : String) (now : Time) :
    0 ≤ limiter.level ip now := TokenBucket.level_nonneg _ _

theorem level_le (limiter : IpLimiter limit) (ip : String) (now : Time) :
    limiter.level ip now ≤ limit.burst := TokenBucket.level_le _ _

theorem level_le_add (limiter : IpLimiter limit) (ip : String) {now later : Time}
    (passed : now ≤ later) :
    limiter.level ip later ≤
      limiter.level ip now + limit.rate * (seconds later - seconds now) :=
  TokenBucket.level_le_add _ (seconds_le_seconds passed)

theorem level_allow (limiter : IpLimiter limit) (remoteAddr : String) (now : Time)
    (ip : String) :
    (if clientIP remoteAddr = ip ∧ (limiter.allow remoteAddr now).1 = true then 1 else 0) +
        (limiter.allow remoteAddr now).2.level ip now = limiter.level ip now := by
  rw [level, bucket_allow, allow_fst]
  by_cases same : clientIP remoteAddr = ip
  · subst same
    simp only [true_and, if_true]
    exact TokenBucket.level_take _ _
  · rw [if_neg (fun both => same both.1), if_neg (Ne.symm same), zero_add, level]

/-- An address that is forgotten has its bucket full. -/
theorem Rested.level_sweep {limiter : IpLimiter limit} {now : Time}
    (rested : limiter.Rested now) (refills : limit.burst / limit.rate ≤ seconds limiterTTL)
    (ip : String) : (limiter.sweep now).level ip now = limiter.level ip now :=
  rested.alike_sweep refills ip (seconds now) le_rfl

end IpLimiter

/-! ## One step -/

/-- What a step at a time may do with a limiter: `passed` says that an address was let
through, `restarted` that the limiter is a new one. -/
inductive Throttle {limit : TokenRate ℚ} (ip : String) (now : Time) (before : IpLimiter limit) :
    (passed restarted : Bool) → IpLimiter limit → Prop where
  | rest : Throttle ip now before false false before
  | ask (remoteAddr : String) (passed : Bool)
      (allowed : passed = true →
        clientIP remoteAddr = ip ∧ (before.allow remoteAddr now).1 = true) :
      Throttle ip now before passed false (before.allow remoteAddr now).2
  | sweep : Throttle ip now before false false (before.sweep now)
  | restart : Throttle ip now before false true (newIPLimiter limit)

namespace Throttle

variable {limit : TokenRate ℚ} {ip : String} {now : Time} {before after : IpLimiter limit}
variable {passed restarted : Bool}

theorem rested (throttle : Throttle ip now before passed restarted after)
    (rested : before.Rested now) : after.Rested now := by
  cases throttle with
  | rest => exact rested
  | ask remoteAddr => exact rested.allow remoteAddr
  | sweep => exact rested.sweep
  | restart => exact IpLimiter.rested_new limit now

/-- Who is let through takes from what is left; only a restart adds to that. -/
theorem level_le (throttle : Throttle ip now before passed restarted after)
    (rested : before.Rested now) (refills : limit.burst / limit.rate ≤ seconds limiterTTL) :
    (if passed then 1 else 0) + after.level ip now ≤
      before.level ip now + if restarted then limit.burst else 0 := by
  cases throttle with
  | rest => simp
  | ask remoteAddr passed allowed =>
      rw [if_neg Bool.false_ne_true, add_zero, ← before.level_allow remoteAddr now ip]
      gcongr
      split_ifs with through taken
      · exact le_rfl
      · exact absurd (allowed through) taken
      · exact zero_le_one
      · exact le_rfl
  | sweep =>
      rw [rested.level_sweep refills]
      simp
  | restart =>
      rw [if_neg Bool.false_ne_true, if_pos rfl, zero_add]
      exact (IpLimiter.level_le _ _ _).trans
        (le_add_of_nonneg_left (before.level_nonneg ip now))

end Throttle

/-! ## Runs -/

/-- A system in which requests pass a limiter, with the actions that let an address through
and those that start the process anew. -/
structure Throttled (σ α β : Type) (limit : TokenRate ℚ) where
  respond : σ → α → Option (σ × β)
  limiter : σ → IpLimiter limit
  now? : α → Option Time
  passes : String → α → β → Bool
  restarts : α → Bool
  refills : limit.burst / limit.rate ≤ seconds limiterTTL
  throttles : ∀ {now : Time} {state : σ} {action : α} {outcome : σ × β} (ip : String),
    (∀ time ∈ now? action, time = now) → respond state action = some outcome →
    Throttle ip now (limiter state) (passes ip action outcome.2) (restarts action)
      (limiter outcome.1)

namespace Throttled

variable {σ α β : Type} {limit : TokenRate ℚ} (system : Throttled σ α β limit)

/-- How often an address is let through while actions are taken. -/
def passed (ip : String) (state : σ) : List α → Option Nat
  | [] => some 0
  | action :: rest =>
      (system.respond state action).bind fun outcome =>
        (passed ip outcome.1 rest).map fun later =>
          (if system.passes ip action outcome.2 then 1 else 0) + later

theorem passed_le_level {ip : String} {actions : List α} {state : σ} {count : Nat}
    {now last : Time} (rested : (system.limiter state).Rested now)
    (ordered : (now :: (actions.filterMap system.now? ++ [last])).Pairwise (· ≤ ·))
    (ran : system.passed ip state actions = some count) :
    (count : ℚ) ≤ (system.limiter state).level ip now +
      limit.burst * actions.countP system.restarts +
      limit.rate * (seconds last - seconds now) := by
  induction actions generalizing now state count with
  | nil =>
      cases ran
      have waited : now ≤ last := (List.pairwise_cons.mp ordered).1 last (by simp)
      have gained : 0 ≤ limit.rate * (seconds last - seconds now) :=
        mul_nonneg limit.rate_pos.le (sub_nonneg.mpr (IpLimiter.seconds_le_seconds waited))
      simpa using add_nonneg ((system.limiter state).level_nonneg ip now) gained
  | cons action rest ih =>
      obtain ⟨time, waited, timed, following⟩ := Clocked.next ordered
      obtain ⟨outcome, responded, counted⟩ := Option.bind_eq_some_iff.mp ran
      obtain ⟨further, others, rfl⟩ := Option.map_eq_some_iff.mp counted
      have rested := rested.mono waited
      have throttle := system.throttles ip timed responded
      have bound := ih (throttle.rested rested) following others
      have paid := throttle.level_le rested system.refills
      have refilled := (system.limiter state).level_le_add ip waited
      have restarted : limit.burst * ((action :: rest).countP system.restarts : ℚ) =
          limit.burst * (rest.countP system.restarts : ℚ) +
            if system.restarts action then limit.burst else 0 := by
        rw [List.countP_cons]
        split_ifs <;> push_cast <;> ring
      rw [restarted]
      push_cast
      linarith

/-- In a run in which no clock goes back, buckets rest from when their address was last seen. -/
theorem rested_of_reachable {start state : σ} {first clock : Time}
    (fresh : (system.limiter start).Rested first)
    (reached : Reachable
      (Clocked.step system.now? fun state action => (system.respond state action).map (·.1))
      (start, first) (state, clock)) : (system.limiter state).Rested clock := by
  change (fun now state => IpLimiter.Rested (system.limiter state) now) clock state
  apply Clocked.invariant reached
  · exact fresh
  · intro before after state passed rested
    exact rested.mono passed
  · intro now before after action rested timed stepped
    obtain ⟨outcome, responded, rfl⟩ := Option.map_eq_some_iff.mp stepped
    exact (system.throttles "" timed responded).rested rested

end Throttled

/-- With the limits in use, an address is let through five times, five more for every restart,
and once for every two seconds that pass. -/
theorem Throttled.passed_le {σ α β : Type} (system : Throttled σ α β requestLimit) {ip : String}
    {actions : List α} {state : σ} {count : Nat} {now last : Time}
    (rested : (system.limiter state).Rested now)
    (ordered : (now :: (actions.filterMap system.now? ++ [last])).Pairwise (· ≤ ·))
    (ran : system.passed ip state actions = some count) :
    (count : Int) ≤ 5 * (1 + actions.countP system.restarts) + (last - now) / (2 * 10 ^ 9) := by
  have paid := system.passed_le_level rested ordered ran
  have left := (system.limiter state).level_le ip now
  have rate : requestLimit.rate = 1 / 2 := by norm_num [requestLimit, every, seconds]
  have burst : requestLimit.burst = 5 := rfl
  rw [burst] at left
  rw [burst, rate, seconds, seconds] at paid
  have elapsed : ((count : Int) - 5 * (1 + actions.countP system.restarts)) * (2 * 10 ^ 9) ≤
      last - now := by
    have exact :
        (((count : Int) - 5 * (1 + actions.countP system.restarts)) * (2 * 10 ^ 9) : ℚ) ≤
          (last : ℚ) - now := by
      push_cast
      linarith
    exact_mod_cast exact
  have waited := (Int.le_ediv_iff_mul_le (by norm_num)).mpr elapsed
  linarith

end CopySync.Server
