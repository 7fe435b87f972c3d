import Mathlib
import TokenPlace.Lib.Schedules

/-!
# The control-plane rate limiter

`_check_control_plane_limits` tests every bucket of a request, hits them with the
client-IP bucket last, and takes the hits back when one of them fails. Several
requests run it at the same time over one storage, and every `test`, `hit` and
`decr` of the storage is one atomic step. The counters are those of one fixed
window.

`_enforce_control_plane_rate_limit` is the only caller; `enforcedChecks` is the
list of buckets that it asks for.
-/

namespace ControlPlane

/-! ## Buckets -/

/-- A limit: `amount` hits in a window of `multiples` times the granularity. -/
structure RateLimitItem where
  amount : Nat
  multiples : Nat
  granularity : String
deriving DecidableEq

/-- What `_control_plane_bucket_identifier` returns. -/
structure Identifiers where
  route : String
  bucketKind : String
  bucketFingerprint : String
deriving DecidableEq

/-- `":".join(identifiers)`. -/
def Identifiers.joined (i : Identifiers) : String :=
  i.route ++ ":" ++ i.bucketKind ++ ":" ++ i.bucketFingerprint

/-- A counter of the storage. Its key, `limit_item.key_for(*identifiers)`, is made
of the limit and the identifiers. -/
structure Bucket where
  limitItem : RateLimitItem
  identifiers : Identifiers
deriving DecidableEq

/-- An element of `checks`. -/
structure Check where
  bucketKind : String
  bucketValue : String
  limitItem : RateLimitItem
deriving DecidableEq

/-- What the limiter uses: the digest of `_fingerprint`, when the window of a
bucket ends, and whether the storage has a `decr`. -/
structure Env where
  fingerprint : String → String
  resetTime : Bucket → ℚ
  storageDecrements : Bool

variable (env : Env)

/-- `_control_plane_bucket_identifier`. -/
def controlPlaneBucketIdentifier (route bucketKind bucketValue : String) : Identifiers :=
  ⟨route, bucketKind, env.fingerprint bucketValue⟩

/-- The bucket that a check is about. -/
def Check.bucket (route : String) (check : Check) : Bucket :=
  ⟨check.limitItem, controlPlaneBucketIdentifier env route check.bucketKind check.bucketValue⟩

/-- What `_control_plane_identity_for_request` finds. -/
inductive Identity where
  | clientPublicKey (value : String)
  | serverPublicKey (value : String)
  | clientIp
deriving DecidableEq

/-- The kind of an identity, and its value for a request from `remoteAddress`. -/
def Identity.described (remoteAddress : String) : Identity → String × String
  | .clientPublicKey value => ("client_public_key", value)
  | .serverPublicKey value => ("server_public_key", value)
  | .clientIp => ("client_ip", remoteAddress)

/-- The checks that `_enforce_control_plane_rate_limit` builds. -/
def enforcedChecks (remoteAddress : String) (identity : Identity) (allowIdentityBucket : Bool)
    (ip identityLimit : RateLimitItem) : List Check :=
  let (kind, value) := identity.described remoteAddress
  ⟨"client_ip", remoteAddress, ip⟩ ::
    if allowIdentityBucket ∧ (kind ≠ "client_ip" ∨ value ≠ remoteAddress) then
      [⟨kind, value, identityLimit⟩]
    else []

/-! ## Calls -/

/-- An element of `planned_hits` and of `recorded_hits`. -/
structure Hit where
  bucketKind : String
  bucket : Bucket
deriving DecidableEq

/-- What `_check_control_plane_limits` returns. -/
structure Verdict where
  allowed : Bool
  retryAfter : Int
  bucketKind : String
  bucketKey : String
  limitItem : Option RateLimitItem
deriving DecidableEq

/-- `return True, 0, "", "", None`. -/
def Verdict.pass : Verdict := ⟨true, 0, "", "", none⟩

/-- `_control_plane_retry_after`. Truncation and floor differ only below 1. -/
def controlPlaneRetryAfter (now : ℚ) (b : Bucket) : Int := max ⌊env.resetTime b - now⌋ 1

/-- The verdict on a request that a bucket rejects. -/
def Verdict.reject (now : ℚ) (hit : Hit) : Verdict :=
  ⟨false, controlPlaneRetryAfter env now hit.bucket, hit.bucketKind, hit.bucket.identifiers.joined,
    some hit.bucket.limitItem⟩

/-- How far a call is. -/
inductive Stage where
  | testing (checks : List Check) (planned : List Hit)
  | hitting (hits recorded : List Hit)
  | rollingBack (hits : List Hit) (verdict : Verdict)
  | returned (verdict : Verdict)
deriving DecidableEq

/-- A call of `_check_control_plane_limits`. -/
structure CheckCall where
  route : String
  checks : List Check
  stage : Stage
deriving DecidableEq

/-- A call that has just been made. -/
def CheckCall.made (route : String) (checks : List Check) : CheckCall :=
  ⟨route, checks, .testing checks []⟩

/-- `ordered_hits`: the stable sort by `bucket_kind == "client_ip"`. -/
def orderedHits (planned : List Hit) : List Hit :=
  (planned.filter fun h => h.bucketKind ≠ "client_ip") ++
    planned.filter fun h => h.bucketKind = "client_ip"

/-- The counters of the storage. -/
abbrev Counters := Bucket → Nat

/-- `rate_limiter.test`. -/
def test (b : Bucket) (counters : Counters) : Bool := counters b < b.limitItem.amount

/-- `rate_limiter.hit`: the counter grows, and the hit succeeds when it is then
within the limit. -/
def hit (b : Bucket) (counters : Counters) : Bool × Counters :=
  (counters b + 1 ≤ b.limitItem.amount, Function.update counters b (counters b + 1))

/-- `_control_plane_storage_decr`. -/
def storageDecr (b : Bucket) (counters : Counters) : Counters :=
  if env.storageDecrements then Function.update counters b (counters b - 1) else counters

/-- One step of a call, up to its next use of the storage. -/
def Stage.advance (route : String) (now : ℚ) : Stage → Counters → Stage × Counters
  | .testing [] planned, counters => (.hitting (orderedHits planned) [], counters)
  | .testing (check :: checks) planned, counters =>
    let planning : Hit := ⟨check.bucketKind, check.bucket env route⟩
    if test planning.bucket counters then (.testing checks (planned ++ [planning]), counters)
    else (.returned (.reject env now planning), counters)
  | .hitting [] _, counters => (.returned .pass, counters)
  | .hitting (h :: hits) recorded, counters =>
    let (succeeded, counters) := hit h.bucket counters
    if succeeded then (.hitting hits (recorded ++ [h]), counters)
    else (.rollingBack (recorded ++ [h]).reverse (.reject env now h), counters)
  | .rollingBack [] verdict, counters => (.returned verdict, counters)
  | .rollingBack (h :: hits) verdict, counters =>
    (.rollingBack hits verdict, storageDecr env h.bucket counters)
  | .returned verdict, counters => (.returned verdict, counters)

/-! ## Concurrent calls -/

/-- The storage within one window, and the calls that were made. -/
structure State where
  now : ℚ
  counters : Counters
  calls : List CheckCall

/-- A call is made, a call takes its next step, or the clock moves. -/
inductive Event where
  | call (route : String) (checks : List Check)
  | advance (index : Nat)
  | tick (now : ℚ)
deriving DecidableEq

/-- The state after an event. -/
def step : Event → State → State
  | .call route checks, s => { s with calls := s.calls ++ [.made route checks] }
  | .tick now, s => { s with now }
  | .advance i, s =>
    match s.calls[i]? with
    | none => s
    | some c =>
      let (stage, counters) := c.stage.advance env c.route s.now s.counters
      { s with counters, calls := s.calls.set i { c with stage } }

/-- No call has been made yet. -/
def State.start (now : ℚ) (initial : Counters) : State := ⟨now, initial, []⟩

/-! ## What a call is charged for -/

/-- How often the call asks for the bucket. -/
def CheckCall.asks (b : Bucket)
    (c : CheckCall) : Nat := (c.checks.map (Check.bucket env c.route)).count b

/-- The call asks for the bucket. -/
def CheckCall.Charges (b : Bucket)
    (c : CheckCall) : Prop := b ∈ c.checks.map (Check.bucket env c.route)

instance (b : Bucket) (c : CheckCall) : Decidable (c.Charges env b) :=
  inferInstanceAs (Decidable (b ∈ _))

/-- The call asks for no bucket twice. -/
def CheckCall.Distinct (c : CheckCall) : Prop := (c.checks.map (Check.bucket env c.route)).Nodup

/-- The call has returned `allowed=True`. -/
def CheckCall.allowed (c : CheckCall) : Bool :=
  match c.stage with
  | .returned verdict => verdict.allowed
  | _ => false

/-- The call has returned. -/
def CheckCall.isReturned (c : CheckCall) : Bool :=
  match c.stage with
  | .returned _ => true
  | _ => false

/-- The hits on the bucket in a list. -/
def hitsOn (b : Bucket) (hits : List Hit) : Nat := hits.countP fun h => h.bucket = b

/-- The hits of the call that the counter of the bucket still holds. -/
def CheckCall.held (b : Bucket) (c : CheckCall) : Nat :=
  match c.stage with
  | .testing .. => 0
  | .hitting _ recorded => hitsOn b recorded
  | .rollingBack hits _ => hitsOn b hits
  | .returned verdict => if verdict.allowed then c.asks env b else 0

/-- Those of them that the call does not take back. -/
def CheckCall.kept (b : Bucket) (c : CheckCall) : Nat :=
  match c.stage with
  | .rollingBack .. => 0
  | _ => c.held env b

/-- The stage of a call agrees with its checks: the tested and the planned
buckets, or the hit and the remaining ones, are those that it asks for, and a
verdict that is still to be returned is a rejection. -/
def CheckCall.Coherent (c : CheckCall) : Prop :=
  match c.stage with
  | .testing checks planned =>
    ∀ b, hitsOn b planned + (checks.map (Check.bucket env c.route)).count b = c.asks env b
  | .hitting hits recorded => ∀ b, hitsOn b recorded + hitsOn b hits = c.asks env b
  | .rollingBack _ verdict => verdict.allowed = false
  | .returned _ => True

end ControlPlane
