import CopySync.Foundation.OrderedMap
import CopySync.Foundation.TokenBucket
import CopySync.Foundation.Unicode
import CopySync.Server.Types
import Mathlib.Data.String.Basic
import Mathlib.Tactic.NormNum

/-!
# Rate limits by address

Logging in and pairing are limited by the address a request comes from: one token bucket for
each address, made when the address is first seen.  A sweeper removes the buckets of addresses
not seen for ten minutes, and an address that comes back gets a full bucket.  The bucket that
was removed would have been full again, so nobody gains by the sweep.  The buckets of
`golang.org/x/time/rate` are taken to be exact ones.
-/

namespace CopySync.Server

open Foundation

/-! ## The address of a client -/

/-- The position of the last occurrence. -/
def lastIndexOf? (char : Char) (text : Text) : Option Nat :=
  (text.reverse.findIdx? (· == char)).map (text.length - 1 - ·)

/-- `net.SplitHostPort`: the host and the port of `host:port` or `[host]:port`. -/
def splitHostPort (hostport : Text) : Option (Text × Text) := do
  let last ← lastIndexOf? ':' hostport
  let (host, opened, closed) ←
    if hostport.head? = some '[' then do
      let close ← hostport.findIdx? (· == ']')
      -- the first `]` is just before the last colon
      if close + 1 = last then some ((hostport.take close).drop 1, 1, close + 1) else none
    else
      let host := hostport.take last
      if ':' ∈ host then none else some (host, 0, 0)
  if '[' ∈ hostport.drop opened ∨ ']' ∈ hostport.drop closed then none
  else some (host, hostport.drop (last + 1))

/-- The host of the remote address, or all of it when it has no port. -/
def clientIP (remoteAddr : String) : String :=
  match splitHostPort remoteAddr.toList with
  | none => remoteAddr
  | some (host, _) => String.ofList host

/-- `net.JoinHostPort`, which writes the remote address of a connection. -/
def joinHostPort (host port : Text) : Text :=
  if ':' ∈ host then '[' :: (host ++ ']' :: ':' :: port) else host ++ ':' :: port

theorem lastIndexOf?_append {char : Char} {before after : Text} (absent : char ∉ after) :
    lastIndexOf? char (before ++ char :: after) = some before.length := by
  have skipped : after.reverse.findIdx? (· == char) = none := by
    rw [List.findIdx?_eq_none_iff]
    intro other among
    exact beq_false_of_ne fun same => absent (same ▸ List.mem_reverse.mp among)
  simp only [lastIndexOf?, List.reverse_append, List.reverse_cons, List.append_assoc,
    List.findIdx?_append, skipped, List.singleton_append, List.findIdx?_cons, beq_self_eq_true,
    if_true, Option.map_some, Option.none_or, List.length_reverse, List.length_append,
    List.length_cons, Option.some.injEq]
  omega

/-- The host comes back whatever the port, so connections from one host share a limiter. -/
theorem splitHostPort_joinHostPort {host port : Text} (plainHost : '[' ∉ host ∧ ']' ∉ host)
    (plainPort : ':' ∉ port ∧ '[' ∉ port ∧ ']' ∉ port) :
    splitHostPort (joinHostPort host port) = some (host, port) := by
  by_cases colon : ':' ∈ host
  · have last : lastIndexOf? ':' ('[' :: (host ++ ']' :: ':' :: port)) =
        some (host.length + 2) := by
      have shape : '[' :: (host ++ ']' :: ':' :: port) =
          ('[' :: host ++ [']']) ++ ':' :: port := by simp
      rw [shape, lastIndexOf?_append plainPort.1]
      simp
    have close : ('[' :: (host ++ ']' :: ':' :: port)).findIdx? (· == ']') =
        some (host.length + 1) := by
      have skipped : host.findIdx? (· == ']') = none := by
        rw [List.findIdx?_eq_none_iff]
        intro other among
        exact beq_false_of_ne fun same => plainHost.2 (same ▸ among)
      simp [List.findIdx?_cons, List.findIdx?_append, skipped]
    simp [splitHostPort, joinHostPort, colon, last, close, plainHost, plainPort]
  · have bare : (host ++ ':' :: port).head? ≠ some '[' := by
      cases host with
      | nil => simp
      | cons first rest =>
          intro same
          cases same
          exact plainHost.1 List.mem_cons_self
    simp only [splitHostPort, joinHostPort, if_neg colon, lastIndexOf?_append plainPort.1,
      if_neg bare]
    simp [colon, plainHost, plainPort]

/-! ## The limiter -/

/-- An idle limiter is kept for ten minutes. -/
def limiterTTL : Duration := 10 * 60 * 10 ^ 9

/-- `Duration.Seconds`, without rounding. -/
def seconds (duration : Duration) : ℚ := duration / 10 ^ 9

/-- `rate.Every`: the rate in tokens for each second. -/
def every (interval : Duration) : ℚ := 1 / seconds interval

/-- The rate of the limiters for logging in and for pairing: a token every two seconds, and
five at most. -/
def requestLimit : TokenRate ℚ where
  rate := every (2 * 10 ^ 9)
  burst := 5
  rate_pos := by norm_num [every, seconds]
  burst_nonneg := by norm_num

structure LimiterEntry (limit : TokenRate ℚ) where
  lim : TokenBucket limit
  lastSeen : Time

/-- The limiters by address. -/
structure IpLimiter (limit : TokenRate ℚ) where
  limiters : OrderedMap String (LimiterEntry limit)

def newIPLimiter (limit : TokenRate ℚ) : IpLimiter limit := ⟨.empty⟩

namespace IpLimiter

variable {limit : TokenRate ℚ}

/-- The bucket of an address, made when it is missing.  The address is seen now. -/
def get (limiter : IpLimiter limit) (ip : String) (now : Time) :
    TokenBucket limit × IpLimiter limit :=
  let entry := (limiter.limiters.get? ip).getD ⟨.full, Time.zero⟩
  (entry.lim, ⟨limiter.limiters.put ip { entry with lastSeen := now }⟩)

/-- The answer to a request.  The bucket of its address is the one the entry refers to. -/
def allow (limiter : IpLimiter limit) (remoteAddr : String) (now : Time) :
    Bool × IpLimiter limit :=
  let ip := clientIP remoteAddr
  let (lim, seen) := limiter.get ip now
  let (allowed, used) := lim.take (seconds now)
  (allowed, ⟨seen.limiters.put ip ⟨used, now⟩⟩)

/-- Remove the limiters idle for longer than `limiterTTL`. -/
def sweep (limiter : IpLimiter limit) (now : Time) : IpLimiter limit :=
  ⟨limiter.limiters.filter fun _ entry => !decide (entry.lastSeen < now - limiterTTL)⟩

end IpLimiter

/-- What the limiter is asked to do, and when. -/
inductive LimiterEvent where
  | request (remoteAddr : String) (now : Time)
  | sweep (now : Time)
  deriving DecidableEq, Repr

namespace LimiterEvent

def now : LimiterEvent → Time
  | .request _ now => now
  | .sweep now => now

def isRequest : LimiterEvent → Bool
  | .request _ _ => true
  | .sweep _ => false

end LimiterEvent

namespace IpLimiter

variable {limit : TokenRate ℚ}

/-- The answers to the requests among the events. -/
def answers (limiter : IpLimiter limit) : List LimiterEvent → List Bool
  | [] => []
  | .request remoteAddr now :: rest =>
      let (allowed, limiter) := limiter.allow remoteAddr now
      allowed :: limiter.answers rest
  | .sweep now :: rest => (limiter.sweep now).answers rest

/-! ## Sweeping -/

theorem seconds_le_seconds {earlier later : Time} (passed : earlier ≤ later) :
    seconds earlier ≤ seconds later := by
  have cast : (earlier : ℚ) ≤ later := Int.cast_le.mpr passed
  exact div_le_div_of_nonneg_right cast (by norm_num)

theorem seconds_add (first second : Duration) :
    seconds (first + second) = seconds first + seconds second := by
  simp only [seconds, Int.cast_add, add_div]

/-- The bucket that answers for an address. -/
def bucket (limiter : IpLimiter limit) (ip : String) : TokenBucket limit :=
  ((limiter.limiters.get? ip).map LimiterEntry.lim).getD .full

theorem bucket_eq_getD (limiter : IpLimiter limit) (ip : String) (time : Time) :
    ((limiter.limiters.get? ip).getD ⟨.full, time⟩).lim = limiter.bucket ip := by
  rw [bucket]
  cases limiter.limiters.get? ip <;> rfl

@[simp] theorem allow_fst (limiter : IpLimiter limit) (remoteAddr : String) (now : Time) :
    (limiter.allow remoteAddr now).1 =
      ((limiter.bucket (clientIP remoteAddr)).take (seconds now)).1 := by
  simp only [allow, get, bucket_eq_getD]

theorem get?_allow (limiter : IpLimiter limit) (remoteAddr : String) (now : Time)
    (ip : String) :
    (limiter.allow remoteAddr now).2.limiters.get? ip =
      if ip = clientIP remoteAddr then
        some ⟨((limiter.bucket (clientIP remoteAddr)).take (seconds now)).2, now⟩
      else limiter.limiters.get? ip := by
  simp only [allow, get, bucket_eq_getD, OrderedMap.get?_put]
  split <;> rfl

theorem bucket_allow (limiter : IpLimiter limit) (remoteAddr : String) (now : Time)
    (ip : String) :
    (limiter.allow remoteAddr now).2.bucket ip =
      if ip = clientIP remoteAddr then
        ((limiter.bucket (clientIP remoteAddr)).take (seconds now)).2
      else limiter.bucket ip := by
  rw [bucket, get?_allow]
  split <;> rfl

/-- Every bucket rests from when its address was last seen. -/
def Rested (limiter : IpLimiter limit) (now : Time) : Prop :=
  ∀ (ip : String) (entry : LimiterEntry limit), limiter.limiters.get? ip = some entry →
    entry.lastSeen ≤ now ∧ entry.lim.Rested (seconds entry.lastSeen)

theorem rested_new (limit : TokenRate ℚ) (now : Time) : (newIPLimiter limit).Rested now := by
  intro ip entry found
  cases found

theorem Rested.bucket {limiter : IpLimiter limit} {now : Time} (rested : limiter.Rested now)
    (ip : String) : (limiter.bucket ip).Rested (seconds now) := by
  cases found : limiter.limiters.get? ip with
  | none =>
      simp only [IpLimiter.bucket, found, Option.map_none, Option.getD_none]
      exact TokenBucket.rested_full _
  | some entry =>
      obtain ⟨seen, since⟩ := rested ip entry found
      simp only [IpLimiter.bucket, found, Option.map_some, Option.getD_some]
      exact since.mono (seconds_le_seconds seen)

theorem Rested.mono {limiter : IpLimiter limit} {now later : Time}
    (rested : limiter.Rested now) (passed : now ≤ later) : limiter.Rested later := by
  intro ip entry found
  obtain ⟨seen, since⟩ := rested ip entry found
  exact ⟨seen.trans passed, since⟩

theorem Rested.allow {limiter : IpLimiter limit} {now : Time} (rested : limiter.Rested now)
    (remoteAddr : String) : (limiter.allow remoteAddr now).2.Rested now := by
  intro ip entry found
  rw [get?_allow] at found
  split at found
  next =>
    cases found
    exact ⟨le_rfl, (rested.bucket _).take le_rfl⟩
  next => exact rested ip entry found

theorem Rested.sweep {limiter : IpLimiter limit} {now : Time} (rested : limiter.Rested now) :
    (limiter.sweep now).Rested now := by
  intro ip entry found
  rw [IpLimiter.sweep, OrderedMap.get?_filter] at found
  exact rested ip entry (Option.filter_eq_some_iff.mp found).1

/-- Both limiters answer alike from now on, for every address. -/
def Alike (now : Time) (left right : IpLimiter limit) : Prop :=
  ∀ ip, (left.bucket ip).Alike (seconds now) (right.bucket ip)

theorem Alike.mono {now later : Time} {left right : IpLimiter limit}
    (alike : Alike now left right) (passed : now ≤ later) : Alike later left right :=
  fun ip => (alike ip).mono (seconds_le_seconds passed)

/-- A request is answered the same way by both, and leaves them alike. -/
theorem Alike.allow {now : Time} {left right : IpLimiter limit} (alike : Alike now left right)
    (remoteAddr : String) :
    (left.allow remoteAddr now).1 = (right.allow remoteAddr now).1 ∧
      Alike now (left.allow remoteAddr now).2 (right.allow remoteAddr now).2 := by
  have taken := (alike (clientIP remoteAddr)).take
  constructor
  · rw [allow_fst, allow_fst]
    exact taken.1
  · intro ip
    rw [bucket_allow, bucket_allow]
    split
    next => exact taken.2
    next => exact alike ip

/-- A bucket swept away was full again, if one fills within the time it is kept idle. -/
theorem Rested.alike_sweep {limiter : IpLimiter limit} {now : Time}
    (rested : limiter.Rested now) (refills : limit.burst / limit.rate ≤ seconds limiterTTL) :
    Alike now (limiter.sweep now) limiter := by
  intro ip
  cases found : limiter.limiters.get? ip with
  | none =>
      simp only [IpLimiter.bucket, IpLimiter.sweep, OrderedMap.get?_filter, found,
        Option.filter_none]
      exact TokenBucket.Alike.refl _ _
  | some entry =>
      simp only [IpLimiter.bucket, IpLimiter.sweep, OrderedMap.get?_filter, found,
        Option.filter_some]
      by_cases idle : entry.lastSeen < now - limiterTTL
      · have ended : entry.lastSeen + limiterTTL ≤ now := le_sub_iff_add_le.mp idle.le
        have filled : seconds entry.lastSeen + limit.burst / limit.rate ≤ seconds now := by
          calc seconds entry.lastSeen + limit.burst / limit.rate
              ≤ seconds entry.lastSeen + seconds limiterTTL := by gcongr
            _ = seconds (entry.lastSeen + limiterTTL) := (seconds_add _ _).symm
            _ ≤ seconds now := seconds_le_seconds ended
        simp only [idle, decide_true, Bool.not_true, Bool.false_eq_true, if_false,
          Option.map_none, Option.getD_none, Option.map_some, Option.getD_some]
        exact TokenBucket.Alike.mono (rested ip entry found).2 filled
      · simp only [idle, decide_false, Bool.not_false, if_true]
        exact TokenBucket.Alike.refl _ _

/-- Two limiters that are alike give the same answers when only one of them is swept. -/
theorem Alike.answers_filter (refills : limit.burst / limit.rate ≤ seconds limiterTTL)
    {events : List LimiterEvent} {now : Time} {swept kept : IpLimiter limit}
    (alike : Alike now swept kept) (rested : swept.Rested now)
    (later : ∀ event ∈ events, now ≤ event.now)
    (ordered : (events.map LimiterEvent.now).Pairwise (· ≤ ·)) :
    swept.answers events = kept.answers (events.filter LimiterEvent.isRequest) := by
  induction events generalizing now swept kept with
  | nil => rfl
  | cons event rest ih =>
      obtain ⟨following, onward⟩ := List.pairwise_cons.mp ordered
      have passed : now ≤ event.now := later event List.mem_cons_self
      have later (further : LimiterEvent) (among : further ∈ rest) : event.now ≤ further.now :=
        following further.now (List.mem_map_of_mem among)
      replace alike := alike.mono passed
      replace rested := rested.mono passed
      cases event with
      | request remoteAddr time =>
          obtain ⟨same, alike⟩ := alike.allow remoteAddr
          have continued := ih alike (rested.allow remoteAddr) later onward
          exact congrArg₂ List.cons same continued
      | sweep time =>
          have emptied : Alike time (swept.sweep time) kept := fun ip =>
            (rested.alike_sweep refills ip).trans (alike ip)
          have continued := ih emptied rested.sweep later onward
          exact continued

end IpLimiter

/-- Ten minutes are enough to fill a bucket of the limiters in use. -/
theorem requestLimit_refills :
    requestLimit.burst / requestLimit.rate ≤ seconds limiterTTL := by
  norm_num [requestLimit, every, seconds, limiterTTL]

/-- The answers are those of a limiter that is never swept, whoever asks and whenever it is
swept, as long as the clock does not run backwards. -/
theorem sweep_keeps_answers (events : List LimiterEvent)
    (ordered : (events.map LimiterEvent.now).Pairwise (· ≤ ·)) :
    (newIPLimiter requestLimit).answers events =
      (newIPLimiter requestLimit).answers (events.filter LimiterEvent.isRequest) := by
  cases events with
  | nil => rfl
  | cons event rest =>
      have following := (List.pairwise_cons.mp ordered).1
      have later (further : LimiterEvent) (among : further ∈ event :: rest) :
          event.now ≤ further.now := by
        cases among with
        | head => exact le_rfl
        | tail _ among => exact following further.now (List.mem_map_of_mem among)
      have alike : IpLimiter.Alike event.now (newIPLimiter requestLimit)
          (newIPLimiter requestLimit) := fun ip => TokenBucket.Alike.refl _ _
      have rested := IpLimiter.rested_new requestLimit event.now
      exact alike.answers_filter requestLimit_refills rested later ordered

/-- An address uses up its bucket, is swept away, and is back after eleven minutes. -/
theorem swept_client_answers :
    (newIPLimiter requestLimit).answers
        [.request "192.0.2.7:5000" 0, .request "192.0.2.7:5001" 0, .request "192.0.2.7:5002" 0,
          .request "192.0.2.7:5003" 0, .request "192.0.2.7:5004" 0, .request "192.0.2.7:5005" 0,
          .request "[2001:db8::1]:5000" (300 * 10 ^ 9), .sweep (650 * 10 ^ 9),
          .request "192.0.2.7:5006" (660 * 10 ^ 9)] =
      [true, true, true, true, true, false, true, true] := by
  refine (sweep_keeps_answers _ (by decide)).trans ?_
  decide +kernel

end CopySync.Server
