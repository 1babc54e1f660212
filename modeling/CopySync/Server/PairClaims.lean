import CopySync.Server.Admin.Guesses

/-!
# Claiming pairing codes

A pairing code is a short number, and the limiter of claims is what keeps an address from
trying one after the other.  The desk takes the requests of `POST /pair/claim`, and those of
`GET /pair/serverinfo`, which share the limiter; the relay takes its other steps in between.
-/

namespace CopySync.Server

open Foundation GoJson

/-- The body of a claim.  The public key is read and not used. -/
structure PairClaim where
  otp : String
  deviceName : String
  platform : String
  pubKey : String
  deriving DecidableEq, Repr

def pairClaimFields : Fields PairClaim :=
  [("otp", field (·.otp) (fun claim otp => { claim with otp }) decodeString),
   ("deviceName",
      field (·.deviceName) (fun claim deviceName => { claim with deviceName }) decodeString),
   ("platform", field (·.platform) (fun claim platform => { claim with platform }) decodeString),
   ("pubkey", field (·.pubKey) (fun claim pubKey => { claim with pubKey }) decodeString)]

structure PairDesk where
  relay : Relay
  pairLimiter : IpLimiter requestLimit

/-- A claim draws the id and the token of the new device. -/
inductive DeskMove where
  | relay (action : Action)
  | claim (request : Request) (suffix token : String) (now : Time)
  | serverInfo (request : Request) (now : Time)
  | sweepLimiter (now : Time)
  | restart

namespace DeskMove

/-- The time a step reads. -/
def now? : DeskMove → Option Time
  | .claim _ _ _ now | .serverInfo _ now | .sweepLimiter now => some now
  | .relay _ | .restart => none

def restarts : DeskMove → Bool
  | .restart => true
  | _ => false

/-- A claim tries a code unless it comes too soon. -/
def tries (ip : String) (move : DeskMove) (answer : Option Answer) : Bool :=
  match move with
  | .claim request _ _ _ =>
      clientIP request.remoteAddr == ip && answer != some .rateLimited
  | _ => false

end DeskMove

/-- Steps of the relay that only claims take. -/
def Action.claims : Action → Bool
  | .claimPairing .. => true
  | _ => false

namespace PairDesk

def start : PairDesk := ⟨.boot .empty, newIPLimiter requestLimit⟩

section Steps

variable (env : Env) (desk : PairDesk)

/-- `handlePairClaim`. -/
def claim (request : Request) (suffix token : String) (now : Time) : PairDesk × Answer :=
  let (allowed, pairLimiter) := desk.pairLimiter.allow request.remoteAddr now
  let limited := { desk with pairLimiter }
  if !allowed then (limited, .rateLimited)
  else
    match request.body.bind fun json => decodeStruct pairClaimFields json ⟨"", "", "", ""⟩ with
    | none => (limited, ⟨400, "bad_request"⟩)
    | some ⟨otp, deviceName, platform, _⟩ =>
        if otp = "" ∨ deviceName = "" then (limited, ⟨400, "bad_request"⟩)
        else
          match desk.relay.daemon.store.claimPairing env.lib otp now
              (.paired suffix deviceName platform now)
              ⟨"dev_" ++ suffix, env.hasher.hashToken token, "", now, false⟩ with
          | .error .invalid => (limited, ⟨410, "pairing_invalid"⟩)
          | .error .nameTaken => (limited, ⟨409, "name_taken"⟩)
          | .ok store => ({ limited with relay := desk.relay.withStore store }, ⟨200, ""⟩)

/-- `handleServerInfo`; what it tells is the same for everybody. -/
def serverInfo (request : Request) (now : Time) : PairDesk × Answer :=
  let (allowed, pairLimiter) := desk.pairLimiter.allow request.remoteAddr now
  ({ desk with pairLimiter }, if allowed then ⟨200, ""⟩ else .rateLimited)

/-- A step and the response it sends, if it sends one. -/
def respond : DeskMove → Option (PairDesk × Option Answer)
  | .relay action =>
      if action.claims then none
      else (desk.relay.step env action).map fun relay => ({ desk with relay }, none)
  | .claim request suffix token now =>
      let outcome := desk.claim env request suffix token now
      some (outcome.1, some outcome.2)
  | .serverInfo request now =>
      let outcome := desk.serverInfo request now
      some (outcome.1, some outcome.2)
  | .sweepLimiter now =>
      some ({ desk with pairLimiter := desk.pairLimiter.sweep now }, none)
  | .restart => some (⟨desk.relay.restart, newIPLimiter requestLimit⟩, none)

def step (move : DeskMove) : Option PairDesk := (desk.respond env move).map (·.1)

/-- The number of codes an address tries in a sequence of moves. -/
def tries (ip : String) (desk : PairDesk) : List DeskMove → Option Nat
  | [] => some 0
  | move :: rest =>
      (desk.respond env move).bind fun outcome =>
        (outcome.1.tries ip rest).map fun later =>
          (if move.tries ip outcome.2 then 1 else 0) + later

end Steps

variable {env : Env} {desk : PairDesk} {now : Time}

/-! ## The desk and the relay -/

/-- A claim is a step of the relay, or leaves it as it is. -/
theorem relay_claim (request : Request) (suffix token : String) :
    (desk.claim env request suffix token now).1.relay = desk.relay ∨
      ∃ action, desk.relay.step env action =
        some (desk.claim env request suffix token now).1.relay := by
  rw [claim]
  generalize desk.pairLimiter.allow request.remoteAddr now = outcome
  obtain ⟨allowed, pairLimiter⟩ := outcome
  cases allowed with
  | false => exact .inl rfl
  | true =>
      simp only [Bool.not_true, Bool.false_eq_true, if_false]
      split
      next => exact .inl rfl
      next otp deviceName platform pubKey decoded =>
        split_ifs with empty
        · exact .inl rfl
        · split
          next => exact .inl rfl
          next => exact .inl rfl
          next store claimed =>
            refine .inr ⟨.claimPairing otp suffix deviceName platform token now, ?_⟩
            simp only [Relay.step, Relay.claimPairing, if_neg empty, TokenOp.apply]
            have applied : desk.relay.daemon.store.claimPairing env.lib otp now
                (.paired suffix deviceName platform now)
                ⟨(Device.paired suffix deviceName platform now).id, env.hasher.hashToken token,
                  "", now, false⟩ = .ok store := claimed
            rw [applied]

/-- Every run of the desk is a run of the relay over its processes. -/
theorem relay_reachable (reached : Reachable (step env) start desk) :
    Reachable (Relay.life env) (.boot .empty) desk.relay := by
  induction reached with
  | refl => exact .refl
  | @tail before after move _ _ stepped ih =>
      obtain ⟨outcome, responded, rfl⟩ := Option.map_eq_some_iff.mp stepped
      cases move with
      | relay action =>
          simp only [respond] at responded
          split_ifs at responded
          obtain ⟨relay, moved, rfl⟩ := Option.map_eq_some_iff.mp responded
          have lived : Relay.life env before.relay (some action) = some relay := moved
          exact .tail ih trivial lived
      | claim request suffix token now =>
          obtain rfl := Option.some.inj responded
          rcases @relay_claim env before now request suffix token with same | ⟨action, moved⟩
          · rw [same]
            exact ih
          · have lived : Relay.life env before.relay (some action) = some _ := moved
            exact .tail ih trivial lived
      | serverInfo request now | sweepLimiter now =>
          cases responded
          exact ih
      | restart =>
          cases responded
          have lived : Relay.life env before.relay none = some before.relay.restart := rfl
          exact .tail ih trivial lived

/-! ## Tries -/

/-- A claim is turned away with 429 exactly when the limiter says no. -/
theorem claim_limited (request : Request) (suffix token : String) :
    (desk.claim env request suffix token now).1.pairLimiter =
        (desk.pairLimiter.allow request.remoteAddr now).2 ∧
      ((desk.claim env request suffix token now).2 = .rateLimited ↔
        (desk.pairLimiter.allow request.remoteAddr now).1 = false) := by
  rw [claim]
  generalize desk.pairLimiter.allow request.remoteAddr now = outcome
  obtain ⟨allowed, pairLimiter⟩ := outcome
  cases allowed with
  | false => simp
  | true =>
      simp only [Bool.not_true, Bool.false_eq_true, if_false]
      split
      · simp [Answer.rateLimited]
      · split
        · simp [Answer.rateLimited]
        · split <;> simp [Answer.rateLimited]

theorem respond_throttle {move : DeskMove} {outcome : PairDesk × Option Answer} (ip : String)
    (timed : ∀ time ∈ move.now?, time = now) (responded : desk.respond env move = some outcome) :
    Throttle ip now desk.pairLimiter (move.tries ip outcome.2) move.restarts
      outcome.1.pairLimiter := by
  cases move with
  | relay action =>
      simp only [respond] at responded
      split_ifs at responded
      obtain ⟨relay, moved, rfl⟩ := Option.map_eq_some_iff.mp responded
      exact .rest
  | claim request suffix token time =>
      cases timed time rfl
      obtain rfl := Option.some.inj responded
      obtain ⟨limiter, limited⟩ := @claim_limited env desk now request suffix token
      rw [limiter]
      refine .ask request.remoteAddr _ fun tried => ?_
      simp only [DeskMove.tries, Bool.and_eq_true, beq_iff_eq, bne_iff_ne, ne_eq,
        Option.some.injEq, limited, Bool.not_eq_false] at tried
      exact tried
  | serverInfo request time =>
      cases timed time rfl
      obtain rfl := Option.some.inj responded
      exact .ask request.remoteAddr false nofun
  | sweepLimiter time =>
      cases timed time rfl
      cases responded
      exact .sweep
  | restart =>
      cases responded
      exact .restart

/-- The desk as a system whose requests pass a limiter. -/
def throttled (env : Env) : Throttled PairDesk DeskMove (Option Answer) requestLimit where
  respond := respond env
  limiter := pairLimiter
  now? := DeskMove.now?
  passes ip move answer := move.tries ip answer
  restarts := DeskMove.restarts
  refills := requestLimit_refills
  throttles ip timed responded := respond_throttle ip timed responded

theorem tries_eq (env : Env) (ip : String) (desk : PairDesk) (moves : List DeskMove) :
    desk.tries env ip moves = (throttled env).passed ip desk moves := by
  induction moves generalizing desk with
  | nil => rfl
  | cons move rest ih =>
      simp only [tries, Throttled.passed, ih]
      rfl

/-- However the claims of an address are mixed with everything else, it tries no more than five
codes, five more for every restart, and one for every two seconds that pass. -/
theorem tries_bounded {first clock last : Time}
    (reached : Reachable (Clocked.step DeskMove.now? (step env)) (start, first) (desk, clock))
    (ip : String) {moves : List DeskMove} {made : Nat}
    (ordered : (clock :: (moves.filterMap DeskMove.now? ++ [last])).Pairwise (· ≤ ·))
    (ran : desk.tries env ip moves = some made) :
    (made : Int) ≤ 5 * (1 + moves.countP DeskMove.restarts) +
      (last - clock) / (2 * 10 ^ 9) := by
  have fresh : ((throttled env).limiter start).Rested first :=
    IpLimiter.rested_new requestLimit first
  have rested : ((throttled env).limiter desk).Rested clock :=
    (throttled env).rested_of_reachable fresh reached
  rw [tries_eq] at ran
  exact (throttled env).passed_le rested ordered ran

/-- Somebody tries a code. -/
def demoClaim (now : Time) : DeskMove :=
  .claim (demoRequest .post ["pair", "claim"]
    (some (.object [("otp", .string "000000"), ("deviceName", .string "phone")]))) "1" "t" now

theorem demoClaim_bounded :
    start.tries demoEnv "10.0.0.2"
        [demoClaim 0, demoClaim 0, demoClaim 0, demoClaim 0, demoClaim 0, demoClaim 0,
          demoClaim 2000000000] = some 6 ∧
      (6 : Int) ≤ 5 * (1 + 0) + (2000000000 - 0) / (2 * 10 ^ 9) := by
  have made : start.tries demoEnv "10.0.0.2"
      [demoClaim 0, demoClaim 0, demoClaim 0, demoClaim 0, demoClaim 0, demoClaim 0,
        demoClaim 2000000000] = some 6 := by decide +kernel
  have reached : Reachable (Clocked.step DeskMove.now? (step demoEnv)) (start, 0) (start, 0) :=
    .refl
  exact ⟨made, tries_bounded reached "10.0.0.2" (by decide +kernel) made⟩

end PairDesk

end CopySync.Server
