import TokenPlace.Desktop.Status
import TokenPlace.Lib.Text

/-!
# The cleanup of the bridge

The relay clients that `run` in `compute_node_bridge.py` makes, and what it does when it ends:
every relay client is latched, one thread for each client unregisters it, the results that
arrive before the deadline are counted, and a `stopped` event carries the counts. What the
threads, the relays and the clock do is an argument, as is `urlparse` of the Python library.
-/

namespace Operator

/-! ## The relays -/

/-- The parts of a URL that `urlparse` gives, an absent one as the empty text. -/
structure ParsedUrl where
  scheme : String
  netloc : String
  path : String
  port : Option Int
  hostname : String
  username : String
  password : String

/-- What a bridge is started with. `candidates` are the relay URLs of the command line after
their lists are expanded, and `envPort` is what `int` makes of a port of the environment. -/
structure RelayConfig where
  urlparse : String → ParsedUrl
  candidates : List String
  cliPort : Option Int
  envPort : Option (Option Int)

/-- `str.strip`. -/
def stripText (s : String) : String := String.ofList (Text.strip s.toList)

/-- `str.rstrip("/")`. -/
def rstripSlash (s : String) : String := String.ofList (s.toList.rdropWhile (· == '/'))

/-- `_normalize_relay_urls`, on the expanded candidates. -/
def normalizeRelayUrls (candidates : List String) : List String :=
  let normalized := candidates.foldl (fun normalized candidate =>
    let trimmed := stripText candidate
    if trimmed ≠ "" ∧ trimmed ∉ normalized then normalized ++ [trimmed] else normalized) []
  if normalized = [] then ["https://token.place"] else normalized

/-- A URL with the scheme that is assumed when it has none. -/
def withScheme (url : String) : String :=
  if "://".toList <:+: url.toList then url else "http://" ++ url

/-- `resolve_relay_port`. -/
def resolveRelayPort (config : RelayConfig) (url : String) : Option Int :=
  match config.envPort with
  | some (some port) => some port
  | some none => config.cliPort
  | none => (config.urlparse (withScheme url)).port.or config.cliPort

/-- The authority of a URL with a port put into it. -/
def injectPort (parsed : ParsedUrl) (netloc : String) (port : Int) : String :=
  let host := if parsed.hostname ≠ "" then parsed.hostname else netloc
  let bracketed := if ':' ∈ host.toList ∧ ¬ "[".toList <+: host.toList then "[" ++ host ++ "]"
    else host
  let user := if parsed.password = "" then parsed.username
    else parsed.username ++ ":" ++ parsed.password
  (if parsed.username = "" then "" else user ++ "@") ++ bracketed ++ ":" ++ toString port

/-- `_compose_relay_url`, with `urlunparse` of a scheme, an authority and a path. -/
def composeRelayUrl (config : RelayConfig) (baseUrl : String) (port : Option Int) : String :=
  if stripText baseUrl = "" then ""
  else
    let base := rstripSlash (stripText baseUrl)
    let parsed := config.urlparse (withScheme base)
    let scheme := if parsed.scheme = "" then "http" else parsed.scheme
    let netloc := if parsed.netloc = "" then parsed.path else parsed.netloc
    let path := if parsed.netloc = "" then "" else parsed.path
    let authority := if parsed.port.isNone then
      (port.map (injectPort parsed netloc)).getD netloc else netloc
    let rooted := if path = "" ∨ "/".toList <+: path.toList then path else "/" ++ path
    rstripSlash (scheme ++ "://" ++ authority ++ rooted)

/-- The `relay_url` of each relay client, in the order in which `run` makes them. -/
def RelayConfig.clientUrls (config : RelayConfig) : List String :=
  (normalizeRelayUrls config.candidates).map fun url =>
    composeRelayUrl config url (resolveRelayPort config url)

/-! ## The clients -/

/-- A hook of a relay client returns something true, something false, or raises. -/
inductive HookOutcome
  | yes
  | no
  | raised
deriving DecidableEq

/-- A relay client during the cleanup. `required…` is what `_relay_requires_unregister` gives at
each of its evaluations: before the cleanup thread is started, at its two evaluations in the
thread, in `unregister_with_shared_deadline`, and after the deadline. -/
structure CleanupClient where
  latchRaises : Bool
  requiredStart : Bool
  requiredFirst : Bool
  requiredSecond : Bool
  requiredCall : Bool
  requiredMissing : Bool
  quiescence : HookOutcome
  heartbeatStop : HookOutcome
  unregister : HookOutcome
  /-- Its URL is in `unregister_attempted_by_relay` when the deadline has passed. -/
  unregisterStarted : Bool

/-- A cleanup of the relay clients with these URLs. -/
structure StopCleanup (urls : List String) where
  client : Fin urls.length → CleanupClient
  /-- The calls of `request_poll_cancel` that the poll threads have made before, and whether
  they have returned. -/
  earlier : List (Fin urls.length × Bool)
  /-- Whose results are taken out of the queue, in that order. -/
  arrivals : List (Fin urls.length)
  once : arrivals.Nodup
  pollThreadCleanupFailed : Bool
  /-- The deadline has passed when the outcome is chosen. -/
  deadlinePassed : Bool

variable {urls : List String}

/-- The URL of a client. -/
def StopCleanup.url (_ : StopCleanup urls) (i : Fin urls.length) : String :=
  urls.get i

/-! ## The latches -/

/-- `poll_cancel_requested_by_relay`, `poll_cancel_result_by_relay`, and the clients whose latch
was called. -/
structure CancelState (urls : List String) where
  requested : List String
  results : List (String × Bool)
  latched : List (Fin urls.length)

/-- `request_poll_cancel`, which may not have written its result yet. -/
def requestPollCancel (x : StopCleanup urls) (s : CancelState urls)
    (call : Fin urls.length × Bool) :
    Bool × CancelState urls :=
  let url := x.url call.1
  let latchOk := !(x.client call.1).latchRaises
  if url ∈ s.requested then ((s.results.lookup url).getD false, s)
  else (latchOk, {
    requested := url :: s.requested
    results := if call.2 then (url, latchOk) :: s.results else s.results
    latched := call.1 :: s.latched })

/-- One call after the other. -/
def requestAll (x : StopCleanup urls) (s : CancelState urls)
    (calls : List (Fin urls.length × Bool)) :
    CancelState urls :=
  calls.foldl (fun s call => (requestPollCancel x s call).2) s

/-- The calls of the loop over the clients. -/
def cleanupCalls (urls : List String) : List (Fin urls.length × Bool) :=
  (List.finRange _).map fun i => (i, true)

/-- The state in which the loop comes to a client. -/
def cancelStateAt (x : StopCleanup urls) (i : Fin urls.length) : CancelState urls :=
  requestAll x ⟨[], [], []⟩ (x.earlier ++ (cleanupCalls urls).take i)

/-- The `latch_ok` of a client. -/
def latchOk (x : StopCleanup urls) (i : Fin urls.length) : Bool :=
  (requestPollCancel x (cancelStateAt x i) (i, true)).1

/-- The clients that are latched when the loop is through. -/
def latchedClients (x : StopCleanup urls) : List (Fin urls.length) :=
  (requestAll x ⟨[], [], []⟩ (x.earlier ++ cleanupCalls urls)).latched

/-! ## The cleanup threads -/

/-- An entry of `result_queue`. -/
structure CleanupResult where
  url : String
  required : Bool
  attempted : Bool
  success : Bool
  barrierFailed : Bool

/-- `barrier_ok`: the heartbeat worker is only stopped when the mutations are quiescent. -/
def CleanupClient.barrierOk (c : CleanupClient) : Bool :=
  decide (c.quiescence = .yes) && decide (c.heartbeatStop = .yes)

/-- `unregister_with_shared_deadline`. -/
def CleanupClient.unregisterWithSharedDeadline (c : CleanupClient) : Bool :=
  if c.requiredCall then decide (c.unregister = .yes) else true

/-- `cleanup_one_relay`. -/
def cleanupOneRelay (x : StopCleanup urls) (i : Fin urls.length) : CleanupResult :=
  let c := x.client i
  if !latchOk x i then ⟨x.url i, c.requiredFirst, false, false, true⟩
  else if !c.barrierOk then ⟨x.url i, c.requiredSecond, false, false, true⟩
  else if c.requiredSecond then ⟨x.url i, true, true, c.unregisterWithSharedDeadline, false⟩
  else ⟨x.url i, false, false, true, false⟩

/-! ## The counts -/

/-- The fields of the `stopped` event while they are made. The counts are the relays that were
counted. -/
structure Tally where
  seen : List String
  required : Bool
  attempted : Bool
  succeeded : List String
  failed : List String

/-- One result of the queue. -/
def Tally.take (t : Tally) (r : CleanupResult) : Tally :=
  if r.url ∈ t.seen then t
  else
    let t := { t with seen := r.url :: t.seen }
    if r.required then
      let t := { t with required := true, attempted := t.attempted || r.attempted }
      if r.success && !r.barrierFailed then { t with succeeded := r.url :: t.succeeded }
      else { t with failed := r.url :: t.failed }
    else if !r.success || r.barrierFailed then { t with failed := r.url :: t.failed }
    else t

/-- The loop over the queue, until every relay is seen or no more results come in time. -/
def Tally.drain (expected : Nat) : List CleanupResult → Tally → Tally
  | [], t => t
  | r :: results, t => if t.seen.length < expected then drain expected results (t.take r) else t

/-- A relay whose result did not come: what it requires is that of the first client with its
URL. -/
def Tally.miss (x : StopCleanup urls) (t : Tally) (i : Fin urls.length) : Tally :=
  let url := x.url i
  if url ∈ t.seen then t
  else
    { t with
      required := t.required || ((List.finRange _).find? fun j => x.url j = url).any
        fun j => (x.client j).requiredMissing
      attempted := t.attempted || (List.finRange _).any fun j =>
        x.url j = url && (x.client j).unregisterStarted
      failed := url :: t.failed }

/-- `stop_cleanup_required` before the results are read. -/
def tallyStart (x : StopCleanup urls) : Tally :=
  ⟨[], (List.finRange _).any fun i => (x.client i).requiredStart, false, [], []⟩

/-- The counts of all relays. -/
def tallyAll (x : StopCleanup urls) : Tally :=
  (List.finRange _).foldl (Tally.miss x)
    ((tallyStart x).drain urls.length (x.arrivals.map (cleanupOneRelay x)))

/-- `stop_cleanup_failure_count`, with a poll thread that did not end. -/
def failureCount (x : StopCleanup urls) : Nat :=
  if x.pollThreadCleanupFailed ∧ (tallyAll x).failed.length = 0 then 1
  else (tallyAll x).failed.length

/-- `stop_cleanup_outcome`. -/
def cleanupOutcome (x : StopCleanup urls) : String :=
  if (tallyAll x).required ∨ 0 < failureCount x then
    if failureCount x = 0 then "complete"
    else if x.deadlinePassed ∨ (tallyAll x).seen.length < urls.length ∨
        x.pollThreadCleanupFailed then
      "timed_out"
    else "partial"
  else "not_required"

/-- `stop_cleanup_warning`. -/
def cleanupWarning (x : StopCleanup urls) : Option String :=
  if cleanupOutcome x = "timed_out" ∨ cleanupOutcome x = "partial" then
    some ("Operator stopped locally, but cleanup did not complete for one relay; " ++
      "it may remain listed until lease expiry.")
  else none

/-- The `stopped` event, without the `last_error` that every status event repeats. -/
def stoppedEvent (x : StopCleanup urls) (session : String) : Payload :=
  { Payload.empty with
    type := some "stopped"
    operatorSessionId := some session
    running := some false
    registered := some false
    unregisterRequired := some (some (tallyAll x).required)
    unregisterAttempted := some (some (tallyAll x).attempted)
    unregisterOutcome := some (some (cleanupOutcome x))
    unregisterSuccessCount := some (some (tallyAll x).succeeded.length)
    unregisterFailureCount := some (some (failureCount x))
    cleanupWarning := some (cleanupWarning x) }

end Operator
