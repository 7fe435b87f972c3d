import TokenPlace.Lib.Schedules

/-!
# The release of a worker

What `_SubprocessLlamaProxy` holds, its process and its temporary script, and every step that
marks the proxy closed or releases something: the end of the stdout reader, failures of the
transport, timeouts, `close` with `__del__`, and `ModelManager._close_llm_proxy`. `_closed` says
both that the transport is unusable and that everything is released.

Results:
1. `released_iff`: a proxy that was closed is released in every state of a run exactly when
   every `close` comes before `_closed` is set, or after the release, and `_close_llm_proxy`
   only stops a worker whose script is gone.
2. `eof_keeps_script`: the two ways in which a script stays behind.
-/

namespace LlamaProxy

open Schedules (runs Along along_iff_take)

/-! ## State -/

/-- A constructed `_SubprocessLlamaProxy`. `script` is the temporary file itself, and `signalled`
says that `terminate`, `kill` or a signal to the group of the process was called for. The last
field is for the proofs: a `close` has returned, or `_close_llm_proxy` reported success. -/
structure Proxy where
  closed : Bool
  workerTmpfile : Bool
  script : Bool
  signalled : Bool
  dead : Bool
  wasClosed : Bool
deriving DecidableEq

/-- A proxy after its construction, which makes no script when `mkstemp` fails. -/
def Proxy.constructed (mkstemp : Bool) : Proxy where
  closed := false
  workerTmpfile := mkstemp
  script := mkstemp
  signalled := false
  dead := false
  wasClosed := false

/-! ## Steps -/

/-- `_teardown_worker_process`, which signals the process at once. -/
def teardownWorkerProcess (s : Proxy) (confirmedDead : Bool) : Proxy :=
  { s with signalled := true, dead := s.dead || confirmedDead }

/-- `_send` whose write or flush fails. -/
def sendFails (s : Proxy) (checkHealth : Bool) : Proxy :=
  if checkHealth && (s.closed || s.dead) then s else { s with closed := true }

/-- The timeout of `_stream_chat_completion`: `terminate`, and `kill` if that or `wait` raises. -/
def streamTimeout (s : Proxy) (waited : Bool) : Proxy :=
  { s with closed := true, signalled := true, dead := s.dead || waited }

/-- `close` after its first check. -/
def release (s : Proxy) (unlinkFails confirmedDead : Bool) : Proxy :=
  let s := { s with closed := true }
  let s := if s.dead then s else teardownWorkerProcess s confirmedDead
  if s.workerTmpfile then { s with script := s.script && unlinkFails, workerTmpfile := false }
  else s

/-- `close`. -/
def close (s : Proxy) (unlinkFails confirmedDead : Bool) : Proxy :=
  let s := if s.closed then s else release s unlinkFails confirmedDead
  { s with wasClosed := true }

/-- `ModelManager._close_llm_proxy` of a worker with a process, which never calls `close`. -/
def closeLlmProxy (s : Proxy) (confirmedDead : Bool) : Proxy :=
  let s := if s.dead then s else teardownWorkerProcess s confirmedDead
  { s with wasClosed := s.wasClosed || s.dead }

/-- What happens to a proxy. `readerEnds` is the end of the stdout reader, `deliveryFails` a frame
that it could not hand over, and `eofRaised` the failure that a caller sees. -/
inductive Event
  | exit
  | readerEnds (legacyFixtureTransport : Bool)
  | deliveryFails
  | eofRaised
  | sendFails (checkHealth : Bool)
  | rpcTimeout
  | streamTimeout (waited : Bool)
  | close (unlinkFails confirmedDead : Bool)
  | finalizer (unlinkFails confirmedDead : Bool)
  | closeLlmProxy (confirmedDead : Bool)

def step (event : Event) (s : Proxy) : Proxy :=
  match event with
  | .exit => { s with dead := true }
  | .readerEnds legacyFixtureTransport =>
    if legacyFixtureTransport then s else { s with closed := true }
  | .deliveryFails | .eofRaised => { s with closed := true }
  | .sendFails checkHealth => sendFails s checkHealth
  | .rpcTimeout => s
  | .streamTimeout waited => streamTimeout s waited
  | .close unlinkFails confirmedDead | .finalizer unlinkFails confirmedDead =>
    close s unlinkFails confirmedDead
  | .closeLlmProxy confirmedDead => closeLlmProxy s confirmedDead

/-! ## The release -/

/-- The script is deleted, and the process was signalled or is dead. -/
def Released (s : Proxy) : Prop := s.script = false ∧ (s.signalled = true ∨ s.dead = true)

/-- A proxy that was closed is released. -/
def ReleasedOnceClosed (s : Proxy) : Prop := s.wasClosed = true → Released s

/-- A `close` finds everything released already, or finds `_closed` unset and can delete the
script. -/
def ClosesInTime (s : Proxy) (unlinkFails : Bool) : Prop :=
  Released s ∨ s.closed = false ∧ (s.script = true → unlinkFails = false)

/-- Every `close` comes in time, and `_close_llm_proxy` only reports that it has stopped a worker
whose script is gone. -/
def InTime (event : Event) (s : Proxy) : Prop :=
  match event with
  | .close unlinkFails _ | .finalizer unlinkFails _ => ClosesInTime s unlinkFails
  | .closeLlmProxy confirmedDead => s.dead = true ∨ confirmedDead = true → s.script = false
  | _ => True

/-- As long as `_closed` is not set, the proxy knows its script. -/
structure Invariant (s : Proxy) : Prop where
  released : ReleasedOnceClosed s
  known : s.closed = false → s.script = s.workerTmpfile

variable {s s' : Proxy}

/-- A step that releases nothing and does not count as a close. -/
theorem Invariant.of_kept (inv : Invariant s) (closed : s'.closed = false → s.closed = false)
    (workerTmpfile : s'.workerTmpfile = s.workerTmpfile) (script : s'.script = s.script)
    (signalled : s.signalled = true → s'.signalled = true) (dead : s.dead = true → s'.dead = true)
    (wasClosed : s'.wasClosed = s.wasClosed) : Invariant s' where
  released was := by
    obtain ⟨gone, stopped⟩ := inv.released (wasClosed ▸ was)
    exact ⟨script ▸ gone, stopped.imp signalled dead⟩
  known unset := by rw [script, workerTmpfile, inv.known (closed unset)]

theorem script_release (known : s.script = s.workerTmpfile) (unlinkFails confirmedDead : Bool) :
    (release s unlinkFails confirmedDead).script = (s.script && unlinkFails) := by
  unfold release teardownWorkerProcess
  cases tmpfile : s.workerTmpfile <;> cases dead : s.dead <;> simp [tmpfile, known]

theorem stopped_release (s : Proxy) (unlinkFails confirmedDead : Bool) :
    (release s unlinkFails confirmedDead).signalled = true ∨
      (release s unlinkFails confirmedDead).dead = true := by
  unfold release teardownWorkerProcess
  cases tmpfile : s.workerTmpfile <;> cases dead : s.dead <;> simp

theorem closed_close (s : Proxy) (unlinkFails confirmedDead : Bool) :
    (close s unlinkFails confirmedDead).closed = true := by
  unfold close release teardownWorkerProcess
  cases closed : s.closed <;> cases tmpfile : s.workerTmpfile <;> cases dead : s.dead <;>
    simp [closed]

theorem released_close_iff (known : s.closed = false → s.script = s.workerTmpfile)
    (unlinkFails confirmedDead : Bool) :
    Released (close s unlinkFails confirmedDead) ↔ ClosesInTime s unlinkFails := by
  cases closed : s.closed with
  | true => simp [close, ClosesInTime, Released, closed]
  | false =>
    have script := script_release (known closed) unlinkFails confirmedDead
    have stopped := stopped_release s unlinkFails confirmedDead
    simp only [close, closed, Bool.false_eq_true, if_false, Released, ClosesInTime, script,
      stopped, and_true, true_and]
    cases s.script <;> simp

theorem invariant_close (inv : Invariant s) (unlinkFails confirmedDead : Bool)
    (inTime : ClosesInTime s unlinkFails) : Invariant (close s unlinkFails confirmedDead) where
  released _ := (released_close_iff inv.known unlinkFails confirmedDead).mpr inTime
  known unset := by simp [closed_close] at unset

theorem script_closeLlmProxy (s : Proxy) (confirmedDead : Bool) :
    (closeLlmProxy s confirmedDead).script = s.script := by
  unfold closeLlmProxy teardownWorkerProcess
  cases s.dead <;> rfl

theorem wasClosed_closeLlmProxy (s : Proxy) (confirmedDead : Bool) :
    (closeLlmProxy s confirmedDead).wasClosed =
      (s.wasClosed || (s.dead || confirmedDead)) := by
  unfold closeLlmProxy teardownWorkerProcess
  cases dead : s.dead <;> simp [dead]

theorem stopped_closeLlmProxy (s : Proxy) (confirmedDead : Bool) :
    (closeLlmProxy s confirmedDead).signalled = true ∨
      (closeLlmProxy s confirmedDead).dead = true := by
  unfold closeLlmProxy teardownWorkerProcess
  cases dead : s.dead <;> simp [dead]

theorem invariant_closeLlmProxy (inv : Invariant s) (confirmedDead : Bool)
    (inTime : s.dead = true ∨ confirmedDead = true → s.script = false) :
    Invariant (closeLlmProxy s confirmedDead) where
  released was := by
    refine ⟨?_, stopped_closeLlmProxy s confirmedDead⟩
    rw [script_closeLlmProxy]
    rw [wasClosed_closeLlmProxy, Bool.or_eq_true, Bool.or_eq_true] at was
    obtain was | stopped := was
    · exact (inv.released was).1
    · exact inTime stopped
  known unset := by
    have same : (closeLlmProxy s confirmedDead).closed = s.closed ∧
        (closeLlmProxy s confirmedDead).workerTmpfile = s.workerTmpfile := by
      unfold closeLlmProxy teardownWorkerProcess
      cases s.dead <;> exact ⟨rfl, rfl⟩
    rw [script_closeLlmProxy, same.2]
    exact inv.known (same.1 ▸ unset)

theorem invariant_step (event : Event) (s : Proxy) (inTime : InTime event s) (inv : Invariant s) :
    Invariant (step event s) := by
  cases event with
  | exit => exact inv.of_kept id rfl rfl id (fun _ => rfl) rfl
  | readerEnds legacyFixtureTransport =>
    simp only [step]
    split
    · exact inv
    · exact inv.of_kept nofun rfl rfl id id rfl
  | deliveryFails | eofRaised => exact inv.of_kept nofun rfl rfl id id rfl
  | sendFails checkHealth =>
    simp only [step, sendFails]
    split
    · exact inv
    · exact inv.of_kept nofun rfl rfl id id rfl
  | rpcTimeout => exact inv
  | streamTimeout waited =>
    exact inv.of_kept nofun rfl rfl (fun _ => rfl)
      (fun dead => by simp [step, streamTimeout, dead]) rfl
  | close unlinkFails confirmedDead | finalizer unlinkFails confirmedDead =>
    exact invariant_close inv unlinkFails confirmedDead inTime
  | closeLlmProxy confirmedDead => exact invariant_closeLlmProxy inv confirmedDead inTime

theorem not_released_step (event : Event) (s : Proxy) (inv : Invariant s)
    (late : ¬ InTime event s) : ¬ ReleasedOnceClosed (step event s) := by
  intro released
  cases event with
  | exit | readerEnds _ | deliveryFails | eofRaised | sendFails _ | rpcTimeout | streamTimeout _ =>
    exact late trivial
  | close unlinkFails confirmedDead | finalizer unlinkFails confirmedDead =>
    exact late ((released_close_iff inv.known unlinkFails confirmedDead).mp (released rfl))
  | closeLlmProxy confirmedDead =>
    refine late fun stopped => ?_
    have was : (closeLlmProxy s confirmedDead).wasClosed = true := by
      rw [wasClosed_closeLlmProxy, Bool.or_eq_true, Bool.or_eq_true]
      exact .inr stopped
    exact script_closeLlmProxy s confirmedDead ▸ (released was).1

/-! ## Runs -/

/-- In every run of a proxy, it is released in every state in which it was closed exactly when
every `close` comes in time, and every worker that the manager stops has no script any more. -/
theorem released_iff (mkstemp : Bool) (events : List Event) :
    (∀ n, ReleasedOnceClosed (runs step (events.take n) (.constructed mkstemp))) ↔
      Along step InTime events (.constructed mkstemp) :=
  along_iff_take invariant_step (fun _ inv => inv.released) not_released_step
    ⟨nofun, fun _ => rfl⟩

/-- The worker ends, its reader marks the proxy closed, and `close` does nothing; or the manager
stops the worker, its reader marks the proxy closed, and the finalizer does nothing. -/
theorem eof_keeps_script :
    ¬ ReleasedOnceClosed (runs step [.exit, .readerEnds false, .close false true]
      (.constructed true)) ∧
    ¬ ReleasedOnceClosed (runs step [.closeLlmProxy true, .readerEnds false, .finalizer false true]
      (.constructed true)) := by
  unfold ReleasedOnceClosed Released
  decide +kernel

end LlamaProxy
