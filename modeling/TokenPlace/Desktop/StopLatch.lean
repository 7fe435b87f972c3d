import TokenPlace.Lib.Json
import TokenPlace.Lib.Schedules
import TokenPlace.Lib.Text

/-!
# The stop latch of the bridge

The thread that reads the stdin of `compute_node_bridge.py`, the callers of `stop_requested`, the
table of relay clients that are to be stopped, and what `run` does with them: the reset at the
start, the replacement of the process and the start of relay sessions. Every access to something
shared is a step. `json.loads` is a parameter.

Results:
1. `seen_along`: in every run whose steps are harmless, a cancel line is not lost, is answered
   with `True` and stops the relay clients.
2. `number_kills_reader`: a line with a number ends the reader, and the cancel line behind it is
   never read.
-/

namespace StopLatch

open Schedules (runs Along along_runs)

/-! ## Lines -/

/-- What `json.loads` does: a value, a `JSONDecodeError` or another exception. -/
inductive Loaded
  | value (v : Json)
  | decodeError
  | raises

/-- What a line is for the code: a cancel object, something to skip, or an exception that is not
caught, which the `get` of a value that is no object raises too. -/
inductive Kind
  | cancel
  | skipped
  | raises
deriving DecidableEq

def strip (line : String) : String := String.ofList (Text.strip line.toList)

def kind (loads : String → Loaded) (line : String) : Kind :=
  match loads (strip line) with
  | .value (.object payload) =>
    match payload.lookup "type" with
    | some (.string type) => if type = "cancel" then .cancel else .skipped
    | _ => .skipped
  | .decodeError => .skipped
  | _ => .raises

/-! ## State -/

/-- The thread of `_start_stdin_reader`: not started, in `readline`, with a line it has read or
also put into the queue, in `_signal_active_relay_clients` before and after the copy of the table,
at the end of the input, or killed by an exception. -/
inductive Reader
  | off
  | waiting
  | read (line : String)
  | queued (line : String)
  | snapshot
  | signalling (rest : List Nat)
  | ended
  | dead
deriving DecidableEq

/-- A call of `stop_requested`: whether it is the test of a poll loop, and whether a cancel line
had been read when it began. -/
structure Call where
  polls : Bool
  late : Bool
deriving DecidableEq

/-- Where a thread is in `stop_requested`. -/
inductive Caller
  | idle
  | starting (call : Call)
  | draining (call : Call)
  | found (call : Call)
  | snapshot (call : Call)
  | signalling (call : Call) (rest : List Nat)

/-- The bridge, with the lines in the pipe and those that the process has buffered. A relay
client and the thread of its poll loop have the same number. `mayPoll` says that the loop is
behind its test. The last three fields are for the proofs: a cancel line was written, one was
read, and a call that began after that returned `False`. -/
structure Bridge where
  pipe : List String
  buffer : List String
  closed : Bool
  queue : List String
  latch : Bool
  reader : Reader
  caller : Nat → Caller
  clients : List Nat
  stopped : Nat → Bool
  mayPoll : Nat → Bool
  cancelWritten : Bool
  cancelRead : Bool
  wrong : Bool

def Bridge.started : Bridge where
  pipe := []
  buffer := []
  closed := false
  queue := []
  latch := false
  reader := .off
  caller _ := .idle
  clients := []
  stopped _ := true
  mayPoll _ := false
  cancelWritten := false
  cancelRead := false
  wrong := false

inductive Event
  | write (line : String)
  | close
  | fill (count : Nat)
  | reader
  | check (t : Nat) (polls : Bool)
  | caller (t : Nat)
  | poll (c : Nat)
  | reset
  | register (ids : List Nat)
  | start (c : Nat)
  | reexec

/-! ## Steps -/

variable (loads : String → Loaded)

/-- `sys.stdin.readline()`, which waits for a line or the end. -/
def readline (s : Bridge) : Bridge :=
  match s.buffer with
  | line :: rest =>
    { s with
      buffer := rest, reader := .read line
      cancelRead := s.cancelRead || kind loads line == .cancel }
  | [] => if s.pipe = [] ∧ s.closed then { s with reader := .ended } else s

/-- The next step of the reader. -/
def readerStep (s : Bridge) : Bridge :=
  match s.reader with
  | .waiting => readline loads s
  | .read line => { s with queue := s.queue ++ [line], reader := .queued line }
  | .queued line =>
    match kind loads line with
    | .cancel => { s with latch := true, reader := .snapshot }
    | .skipped => { s with reader := .waiting }
    | .raises => { s with reader := .dead }
  | .snapshot => { s with reader := .signalling s.clients }
  | .signalling (c :: rest) =>
    { s with stopped := Function.update s.stopped c true, reader := .signalling rest }
  | .signalling [] => { s with reader := .waiting }
  | .off | .ended | .dead => s

/-- `_start_stdin_reader`. -/
def Reader.start : Reader → Reader
  | .off => .waiting
  | reader => reader

def Bridge.setCaller (s : Bridge) (t : Nat) (caller : Caller) : Bridge :=
  { s with caller := Function.update s.caller t caller }

/-- The first test of `stop_requested`. -/
def check (s : Bridge) (t : Nat) (polls : Bool) : Bridge :=
  match s.caller t with
  | .idle =>
    if polls && t ∉ s.clients then s
    else if s.latch then s
    else s.setCaller t (.starting ⟨polls, s.cancelRead⟩)
  | _ => s

/-- `return False`. -/
def answerFalse (s : Bridge) (t : Nat) (call : Call) : Bridge :=
  { s.setCaller t .idle with
    mayPoll := Function.update s.mayPoll t (s.mayPoll t || call.polls)
    wrong := s.wrong || call.late }

/-- The next step of a call behind that test. -/
def callerStep (s : Bridge) (t : Nat) : Bridge :=
  match s.caller t with
  | .idle => s
  | .starting call =>
    { s.setCaller t (.draining call) with reader := s.reader.start }
  | .draining call =>
    match s.queue with
    | [] => answerFalse s t call
    | line :: rest =>
      let s := { s with queue := rest }
      if strip line = "" then s
      else
        match kind loads line with
        | .cancel => s.setCaller t (.found call)
        | .skipped => s
        | .raises => s.setCaller t .idle
  | .found call => { s.setCaller t (.snapshot call) with latch := true }
  | .snapshot call => s.setCaller t (.signalling call s.clients)
  | .signalling call (c :: rest) =>
    { s.setCaller t (.signalling call rest) with stopped := Function.update s.stopped c true }
  | .signalling _ [] => s.setCaller t .idle

/-- `_reset_bridge_lifecycle_state`. -/
def reset (s : Bridge) : Bridge := { s with latch := false, queue := [] }

/-- `os.execve` in `maybe_reexec_for_runtime_refresh`: only the pipe is left. -/
def reexec (s : Bridge) : Bridge :=
  { Bridge.started with
    pipe := s.pipe, closed := s.closed
    cancelWritten := s.cancelWritten, cancelRead := s.cancelRead, wrong := s.wrong }

def step (e : Event) (s : Bridge) : Bridge :=
  match e with
  | .write line =>
    if s.closed then s
    else
      { s with
        pipe := s.pipe ++ [line]
        cancelWritten := s.cancelWritten || kind loads line == .cancel }
  | .close => { s with closed := true }
  | .fill count => { s with buffer := s.buffer ++ s.pipe.take count, pipe := s.pipe.drop count }
  | .reader => readerStep loads s
  | .check t polls => check s t polls
  | .caller t => callerStep loads s t
  | .poll c => { s with mayPoll := Function.update s.mayPoll c false }
  | .reset => reset s
  | .register ids => { s with clients := s.clients ++ ids }
  | .start c => { s with stopped := Function.update s.stopped c false }
  | .reexec => reexec s

/-! ## The latch holds -/

/-- The copy of the table that is worked through still has the client, or is not made yet. -/
def Reader.covers (c : Nat) : Reader → Prop
  | .snapshot => True
  | .signalling rest => c ∈ rest
  | _ => False

def Caller.covers (c : Nat) : Caller → Prop
  | .snapshot _ => True
  | .signalling _ rest => c ∈ rest
  | _ => False

/-- No client is about to be stopped. -/
def Settled (s : Bridge) : Prop :=
  ∀ c, ¬ s.reader.covers c ∧ ∀ t, ¬ (s.caller t).covers c

/-- The reader has a cancel line in its hands and has not set the latch for it. -/
def Reader.holdsCancel : Reader → Prop
  | .read line | .queued line => kind loads line = .cancel
  | _ => False

/-- A cancel line that was read has set the latch, or is about to; a call that began after it was
read has not returned `False`; once the signal has gone through, every client whose loop may poll
is stopped; no line has ended the reader; and no cancel line is lost before it is read. -/
structure Seen (s : Bridge) : Prop where
  latched : s.cancelRead = true → s.latch = true ∨ s.reader.holdsCancel loads
  answered : s.wrong = false
  signalled : s.latch = true → Settled s → ∀ c, s.mayPoll c = true → s.stopped c = true
  reading : s.reader ≠ .dead
  kept : s.cancelWritten = true →
    s.cancelRead = true ∨ ∃ line ∈ s.buffer ++ s.pipe, kind loads line = .cancel

/-- The thread is in the test of its poll loop, or behind it. -/
def Polling (s : Bridge) (c : Nat) : Prop :=
  s.mayPoll c = true ∨ ∃ call, call.polls = true ∧
    (s.caller c = .starting call ∨ s.caller c = .draining call)

/-- The line that the reader parses raises nothing. No call begins between `readline` and the
latch. The state is not reset, nor the process replaced, after a cancel line was read, and no
cancel line is buffered when it is replaced. No relay session starts once the latch is set while
the loop of the client is in its test or behind it. -/
def Harmless (e : Event) (s : Bridge) : Prop :=
  match e with
  | .reader => ∀ line, s.reader = .queued line → kind loads line ≠ .raises
  | .check _ _ => s.cancelRead = true → s.latch = true
  | .reset => s.cancelRead = false
  | .reexec => s.cancelRead = false ∧ ∀ line ∈ s.buffer, kind loads line ≠ .cancel
  | .start c => s.latch = true → ¬ Polling s c
  | _ => True

/-! ## The invariant -/

/-- A client that is stopped or about to be. -/
def Covered (s : Bridge) (c : Nat) : Prop :=
  s.stopped c = true ∨ s.reader.covers c ∨ ∃ t, (s.caller t).covers c

structure Invariant (s : Bridge) : Prop where
  latched : s.cancelRead = true → s.latch = true ∨ s.reader.holdsCancel loads
  answered : s.wrong = false
  early : ∀ t call, s.caller t = .starting call ∨ s.caller t = .draining call → call.late = false
  listed : ∀ c, Polling s c → c ∈ s.clients
  covered : s.latch = true → ∀ c, Polling s c → Covered s c
  reading : s.reader ≠ .dead
  kept : s.cancelWritten = true →
    s.cancelRead = true ∨ ∃ line ∈ s.buffer ++ s.pipe, kind loads line = .cancel

variable {loads}

theorem Invariant.seen {s : Bridge} (inv : Invariant loads s) : Seen loads s where
  latched := inv.latched
  answered := inv.answered
  signalled latch settled c polls := by
    obtain stopped | covers | ⟨t, covers⟩ := inv.covered latch c (.inl polls)
    · exact stopped
    · exact absurd covers (settled c).1
    · exact absurd covers ((settled c).2 t)
  reading := inv.reading
  kept := inv.kept

theorem started_invariant : Invariant loads .started where
  latched := nofun
  answered := rfl
  early _ _ at_ := by obtain h | h := at_ <;> cases h
  listed c polling := by
    obtain h | ⟨_, _, h | h⟩ := polling <;> cases h
  covered := nofun
  reading := nofun
  kept := nofun

/-! ## Steps of the reader -/

variable {s : Bridge}
variable {reader : Reader} {caller : Caller} {t : Nat} {c : Nat}

theorem setReader_invariant (queue : List String) (inv : Invariant loads s)
    (holds : s.reader.holdsCancel loads → reader.holdsCancel loads)
    (covers : ∀ c ∈ s.clients, s.reader.covers c → reader.covers c) (alive : reader ≠ .dead) :
    Invariant loads { s with queue, reader } where
  latched read := (inv.latched read).imp_right holds
  answered := inv.answered
  early := inv.early
  listed := inv.listed
  covered latch c polls :=
    (inv.covered latch c polls).imp_right (Or.imp_left (covers c (inv.listed c polls)))
  reading := alive
  kept := inv.kept

theorem readline_invariant (inv : Invariant loads s) (waiting : s.reader = .waiting) :
    Invariant loads (readline loads s) := by
  unfold readline
  split
  · next line rest buffered =>
    refine ⟨fun read => ?_, inv.answered, inv.early, inv.listed, fun latch c polls => ?_, nofun,
      fun written => ?_⟩
    · obtain before | now := Bool.or_eq_true_iff.mp read
      · refine (inv.latched before).imp_right fun holds => ?_
        rw [waiting] at holds
        exact holds.elim
      · exact .inr (beq_iff_eq.mp now)
    · refine (inv.covered latch c polls).imp_right (Or.imp_left fun covers => ?_)
      rw [waiting] at covers
      exact covers
    · obtain read | ⟨other, member, cancel⟩ := inv.kept written
      · exact .inl (Bool.or_eq_true_iff.mpr (.inl read))
      · rw [buffered, List.cons_append, List.mem_cons] at member
        obtain rfl | member := member
        · exact .inl (Bool.or_eq_true_iff.mpr (.inr (beq_iff_eq.mpr cancel)))
        · exact .inr ⟨other, member, cancel⟩
  · split
    · exact setReader_invariant s.queue inv (by rw [waiting]; exact id)
        (fun _ _ h => by rw [waiting] at h; exact h) nofun
    · exact inv

theorem readerStep_invariant (inv : Invariant loads s) (harmless : Harmless loads .reader s) :
    Invariant loads (readerStep loads s) := by
  unfold readerStep
  cases reader : s.reader with
  | off | ended | dead => exact inv
  | waiting => exact readline_invariant inv reader
  | read line =>
    exact setReader_invariant _ inv (by rw [reader]; exact id)
      (fun _ _ h => by rw [reader] at h; exact h) nofun
  | queued line =>
    dsimp only
    cases is : kind loads line with
    | cancel =>
      exact ⟨fun _ => .inl rfl, inv.answered, inv.early, inv.listed,
        fun _ _ _ => .inr (.inl trivial), nofun, inv.kept⟩
    | skipped =>
      refine setReader_invariant s.queue inv (fun h => ?_)
        (fun _ _ h => by rw [reader] at h; exact h) nofun
      rw [reader, Reader.holdsCancel, is] at h
      cases h
    | raises => exact absurd is (harmless line reader)
  | snapshot =>
    exact setReader_invariant s.queue inv (by rw [reader]; exact id) (fun _ member _ => member)
      nofun
  | signalling rest =>
    have holds := inv.latched
    rw [reader] at holds
    cases rest with
    | nil =>
      exact setReader_invariant s.queue inv (by rw [reader]; exact id)
        (fun _ _ h => by rw [reader] at h; cases h) nofun
    | cons d rest =>
      refine ⟨fun read => .inl ((holds read).resolve_right id), inv.answered, inv.early, inv.listed,
        fun latch c polls => ?_, nofun, inv.kept⟩
      unfold Covered
      dsimp only
      by_cases same : c = d
      · rw [same, Function.update_self]
        exact .inl rfl
      · rw [Function.update_of_ne same]
        refine (inv.covered latch c polls).imp_right (Or.imp_left fun h => ?_)
        rw [reader] at h
        exact (List.mem_cons.mp h).resolve_left same

/-! ## Steps of the callers -/

theorem setCaller_self (s : Bridge) (t : Nat) (caller : Caller) :
    (s.setCaller t caller).caller t = caller := Function.update_self ..

theorem setCaller_ne {t t' : Nat} (ne : t' ≠ t) (s : Bridge) (caller : Caller) :
    (s.setCaller t caller).caller t' = s.caller t' := Function.update_of_ne ne ..

/-- The thread is in its call with this, in front of or behind the start of the reader. -/
def Caller.inTest (call : Call) (caller : Caller) : Prop :=
  caller = .starting call ∨ caller = .draining call

theorem setCaller_invariant {stopped : Nat → Bool}
    (inv : Invariant loads s) (stays : ∀ call, caller.inTest call → (s.caller t).inTest call)
    (stops : ∀ c, s.stopped c = true → stopped c = true)
    (covers : ∀ c ∈ s.clients, (s.caller t).covers c → stopped c = true ∨ caller.covers c) :
    Invariant loads { s.setCaller t caller with stopped } := by
  have polling : ∀ c, Polling { s.setCaller t caller with stopped } c → Polling s c := by
    rintro c (may | ⟨call, polls, inTest⟩)
    · exact .inl may
    · refine .inr ⟨call, polls, ?_⟩
      by_cases same : c = t
      · rw [same] at inTest ⊢
        exact stays call (by rwa [← setCaller_self s t caller])
      · rwa [← setCaller_ne same s caller]
  refine ⟨inv.latched, inv.answered, fun t' call at_ => ?_,
    fun c polls => inv.listed c (polling c polls), fun latch c polls => ?_, inv.reading, inv.kept⟩
  · by_cases same : t' = t
    · rw [same] at at_
      exact inv.early t call (stays call (by rwa [← setCaller_self s t caller]))
    · exact inv.early t' call (by rwa [← setCaller_ne same s caller])
  · obtain was | byReader | ⟨t', byCaller⟩ := inv.covered latch c (polling c polls)
    · exact .inl (stops c was)
    · exact .inr (.inl byReader)
    · by_cases same : t' = t
      · rw [same] at byCaller
        obtain now | still := covers c (inv.listed c (polling c polls)) byCaller
        · exact .inl now
        · exact .inr (.inr ⟨t, by rwa [← setCaller_self s t caller] at still⟩)
      · exact .inr (.inr ⟨t', by rwa [← setCaller_ne same s caller] at byCaller⟩)

theorem leave_invariant (inv : Invariant loads s)
    (outside : ∀ call, ¬ caller.inTest call) (covers : ∀ c, ¬ (s.caller t).covers c) :
    Invariant loads (s.setCaller t caller) :=
  setCaller_invariant inv (fun call inTest => absurd inTest (outside call)) (fun _ => id)
    fun c _ was => absurd was (covers c)

theorem check_invariant (inv : Invariant loads s) (t : Nat) (polls : Bool)
    (harmless : Harmless loads (.check t polls) s) : Invariant loads (check s t polls) := by
  unfold check
  split
  · split
    · exact inv
    · next mayTest =>
      split
      · exact inv
      · next unlatched =>
        have unread : s.cancelRead = false := by
          by_contra read
          exact unlatched (harmless (Bool.not_eq_false _ ▸ read))
        refine ⟨inv.latched, inv.answered, fun t' call at_ => ?_, fun c polling => ?_,
          fun latch => absurd latch unlatched, inv.reading, inv.kept⟩
        · by_cases same : t' = t
          · rw [same, setCaller_self] at at_
            obtain isCall | other := at_
            · cases isCall
              exact unread
            · cases other
          · rw [setCaller_ne same] at at_
            exact inv.early t' call at_
        · obtain may | ⟨call, isPoll, at_⟩ := polling
          · exact inv.listed c (.inl may)
          · by_cases same : c = t
            · rw [same, setCaller_self] at at_
              obtain isCall | other := at_
              · cases isCall
                cases polls with
                | false => cases isPoll
                | true =>
                  show c ∈ s.clients
                  rw [same]
                  simpa using mayTest
              · cases other
            · rw [setCaller_ne same] at at_
              exact inv.listed c (.inr ⟨call, isPoll, at_⟩)
  · exact inv

theorem answerFalse_invariant {call : Call} (inv : Invariant loads s)
    (draining : s.caller t = .draining call) : Invariant loads (answerFalse s t call) := by
  have self : (answerFalse s t call).caller t = .idle := Function.update_self ..
  have others : ∀ t', t' ≠ t → (answerFalse s t call).caller t' = s.caller t' :=
    fun t' ne => Function.update_of_ne ne ..
  have allowed : (answerFalse s t call).mayPoll t = (s.mayPoll t || call.polls) :=
    Function.update_self ..
  have asBefore : ∀ c, c ≠ t → (answerFalse s t call).mayPoll c = s.mayPoll c :=
    fun c ne => Function.update_of_ne ne ..
  have polling : ∀ c, Polling (answerFalse s t call) c → Polling s c := by
    rintro c (may | ⟨call', polls, inTest⟩)
    · by_cases same : c = t
      · rw [same, allowed, Bool.or_eq_true] at may
        rw [same]
        exact may.imp_right fun polls => ⟨call, polls, .inr draining⟩
      · exact .inl (by rwa [asBefore c same] at may)
    · by_cases same : c = t
      · rw [same, self] at inTest
        obtain h | h := inTest <;> cases h
      · rw [others c same] at inTest
        exact .inr ⟨call', polls, inTest⟩
  refine ⟨inv.latched, ?_, fun t' call' at_ => ?_, fun c polls => inv.listed c (polling c polls),
    fun latch c polls => ?_, inv.reading, inv.kept⟩
  · show (s.wrong || call.late) = false
    rw [inv.answered, inv.early t call (.inr draining)]
    rfl
  · by_cases same : t' = t
    · rw [same, self] at at_
      obtain h | h := at_ <;> cases h
    · exact inv.early t' call' (by rwa [← others t' same])
  · refine (inv.covered latch c (polling c polls)).imp_right (Or.imp_right ?_)
    rintro ⟨t', covers⟩
    by_cases same : t' = t
    · rw [same, draining] at covers
      cases covers
    · exact ⟨t', by rwa [others t' same]⟩

theorem setQueue_invariant (inv : Invariant loads s) (queue : List String) :
    Invariant loads { s with queue } :=
  setReader_invariant queue inv id (fun _ _ => id) inv.reading

theorem Reader.start_holds (holds : reader.holdsCancel loads) :
    reader.start.holdsCancel loads := by
  cases reader <;> exact holds

theorem Reader.start_covers (covers : reader.covers c) :
    reader.start.covers c := by
  cases reader <;> exact covers

theorem Reader.start_alive (alive : reader ≠ .dead) : reader.start ≠ .dead := by
  cases reader <;> first | exact alive | nofun

theorem callerStep_invariant (inv : Invariant loads s) (t : Nat) :
    Invariant loads (callerStep loads s t) := by
  unfold callerStep
  cases caller : s.caller t with
  | idle => exact inv
  | starting call =>
    have moved : Invariant loads { s.setCaller t (.draining call) with stopped := s.stopped } :=
      setCaller_invariant inv (fun call' inTest => by
        obtain h | h := inTest
        · cases h
        · cases h
          exact .inl caller)
        (fun _ => id) (fun _ _ covers => by rw [caller] at covers; cases covers)
    exact setReader_invariant s.queue moved Reader.start_holds (fun _ _ => Reader.start_covers)
      (Reader.start_alive inv.reading)
  | draining call =>
    have covers : ∀ c, ¬ (s.caller t).covers c := by rw [caller]; nofun
    dsimp only
    split
    · exact answerFalse_invariant inv caller
    · next line rest _ =>
      have taken := setQueue_invariant inv rest
      split
      · exact taken
      · split
        · exact leave_invariant taken (by rintro _ (h | h) <;> cases h) covers
        · exact taken
        · exact leave_invariant taken (by rintro _ (h | h) <;> cases h) covers
  | found call =>
    -- the latch is set before the copy is made, so every client is covered by the copy to come
    have moved : Invariant loads (s.setCaller t (.snapshot call)) :=
      leave_invariant inv (by rintro _ (h | h) <;> cases h) (by rw [caller]; nofun)
    exact ⟨fun _ => .inl rfl, moved.answered, moved.early, moved.listed,
      fun _ _ _ => .inr (.inr ⟨t, by rw [setCaller_self]; trivial⟩), moved.reading, moved.kept⟩
  | snapshot call =>
    exact setCaller_invariant inv (fun _ inTest => by obtain h | h := inTest <;> cases h)
      (fun _ => id) (fun _ member _ => .inr member)
  | signalling call rest =>
    cases rest with
    | nil => exact leave_invariant inv (by rintro _ (h | h) <;> cases h) (by rw [caller]; nofun)
    | cons d rest =>
      refine setCaller_invariant inv (fun _ inTest => by obtain h | h := inTest <;> cases h)
        (fun c was => ?_) (fun c _ covers => ?_)
      · by_cases same : c = d
        · rw [same, Function.update_self]
        · rwa [Function.update_of_ne same]
      · by_cases same : c = d
        · rw [same, Function.update_self]
          exact .inl rfl
        · rw [caller] at covers
          exact .inr ((List.mem_cons.mp covers).resolve_left same)

/-! ## Steps of the process -/

theorem write_invariant (inv : Invariant loads s) (line : String) :
    Invariant loads
      { s with
        pipe := s.pipe ++ [line]
        cancelWritten := s.cancelWritten || kind loads line == .cancel } where
  latched := inv.latched
  answered := inv.answered
  early := inv.early
  listed := inv.listed
  covered := inv.covered
  reading := inv.reading
  kept written := by
    obtain before | now := Bool.or_eq_true_iff.mp written
    · refine (inv.kept before).imp_right ?_
      rintro ⟨other, member, cancel⟩
      refine ⟨other, ?_, cancel⟩
      rw [← List.append_assoc]
      exact List.mem_append_left _ member
    · exact .inr ⟨line, by simp, beq_iff_eq.mp now⟩

theorem fill_invariant (inv : Invariant loads s) (count : Nat) :
    Invariant loads
      { s with buffer := s.buffer ++ s.pipe.take count, pipe := s.pipe.drop count } where
  latched := inv.latched
  answered := inv.answered
  early := inv.early
  listed := inv.listed
  covered := inv.covered
  reading := inv.reading
  kept written := by
    show s.cancelRead = true ∨
      ∃ line ∈ (s.buffer ++ s.pipe.take count) ++ s.pipe.drop count, kind loads line = .cancel
    rw [List.append_assoc, List.take_append_drop]
    exact inv.kept written

/-- A loop that goes back to its test has less to be stopped for. -/
theorem poll_invariant (inv : Invariant loads s) (c : Nat) :
    Invariant loads { s with mayPoll := Function.update s.mayPoll c false } := by
  have polling : ∀ d, Polling { s with mayPoll := Function.update s.mayPoll c false } d →
      Polling s d := by
    rintro d (may | inTest)
    · by_cases same : d = c
      · rw [same] at may
        dsimp only at may
        rw [Function.update_self] at may
        cases may
      · dsimp only at may
        rw [Function.update_of_ne same] at may
        exact .inl may
    · exact .inr inTest
  exact ⟨inv.latched, inv.answered, inv.early, fun d polls => inv.listed d (polling d polls),
    fun latch d polls => inv.covered latch d (polling d polls), inv.reading, inv.kept⟩

theorem start_invariant (inv : Invariant loads s) (harmless : Harmless loads (.start c) s) :
    Invariant loads { s with stopped := Function.update s.stopped c false } where
  latched := inv.latched
  answered := inv.answered
  early := inv.early
  listed := inv.listed
  covered latch d polls := by
    have ne : d ≠ c := by
      rintro rfl
      exact harmless latch polls
    refine (inv.covered latch d polls).imp_left fun was => ?_
    show Function.update s.stopped c false d = true
    rwa [Function.update_of_ne ne]
  reading := inv.reading
  kept := inv.kept

theorem reexec_invariant (inv : Invariant loads s) (harmless : Harmless loads .reexec s) :
    Invariant loads (reexec s) := by
  have fresh : Invariant loads .started := started_invariant
  refine ⟨fun read => ?_, inv.answered, fresh.early, fresh.listed, fresh.covered, fresh.reading,
    fun written => ?_⟩
  · exact absurd (harmless.1.symm.trans read) nofun
  · obtain read | ⟨line, member, cancel⟩ := inv.kept written
    · exact .inl read
    · obtain buffered | piped := List.mem_append.mp member
      · exact absurd cancel (harmless.2 line buffered)
      · exact .inr ⟨line, piped, cancel⟩

theorem step_invariant (e : Event) (inv : Invariant loads s) (harmless : Harmless loads e s) :
    Invariant loads (step loads e s) := by
  cases e with
  | write line =>
    unfold step
    dsimp only
    split
    · exact inv
    · exact write_invariant inv line
  | close =>
    exact ⟨inv.latched, inv.answered, inv.early, inv.listed, inv.covered, inv.reading, inv.kept⟩
  | fill count => exact fill_invariant inv count
  | reader => exact readerStep_invariant inv harmless
  | check t polls => exact check_invariant inv t polls harmless
  | caller t => exact callerStep_invariant inv t
  | poll c => exact poll_invariant inv c
  | reset =>
    have unread : s.cancelRead = false := harmless
    exact ⟨fun read => absurd (unread.symm.trans read) nofun, inv.answered, inv.early,
      inv.listed, nofun, inv.reading, inv.kept⟩
  | register ids =>
    exact ⟨inv.latched, inv.answered, inv.early,
      fun c polls => List.mem_append_left _ (inv.listed c polls), inv.covered, inv.reading,
      inv.kept⟩
  | start c => exact start_invariant inv harmless
  | reexec => exact reexec_invariant inv harmless

/-- In every run whose steps are harmless, a cancel line that was written is read or on its way,
sets the latch when it is read, is answered with `True` from then on, and stops every relay client
whose loop may poll. -/
theorem seen_along (loads : String → Loaded) (events : List Event)
    (harmless : Along (step loads) (Harmless loads) events .started) :
    Seen loads (runs (step loads) events .started) :=
  (along_runs (fun e _ harmless inv => step_invariant e inv harmless) harmless
    started_invariant).seen

def cancelLine : String := "\x7b\"type\": \"cancel\"\x7d\n"

/-- `json.loads` on a number and on the cancel object. -/
def loadsSample (line : String) : Loaded :=
  if line = "5" then .value (.number 5)
  else if line = strip cancelLine then .value (.object [("type", .string "cancel")])
  else .decodeError

def cancelRun : List Event :=
  [.register [0], .start 0, .check 0 true, .caller 0, .write cancelLine, .fill 1, .reader, .reader,
    .reader, .reader, .caller 0, .caller 0]

theorem cancel_is_seen :
    Along (step loadsSample) (Harmless loadsSample) cancelRun .started ∧
      Seen loadsSample (runs (step loadsSample) cancelRun .started) := by
  have harmless : Along (step loadsSample) (Harmless loadsSample) cancelRun .started := by
    refine ⟨trivial, nofun, nofun, trivial, trivial, trivial, nofun, nofun, fun line h => ?_,
      nofun, trivial, trivial, trivial⟩
    cases h
    decide +kernel
  exact ⟨harmless, seen_along loadsSample cancelRun harmless⟩

def numberRun : List Event :=
  [.register [0], .start 0, .write "5\n", .write cancelLine, .check 0 true, .caller 0, .caller 0,
    .fill 2, .reader, .reader, .reader]

/-- A line with a number kills the reader: the cancel line behind it stays in the buffer, and the
client goes on polling. -/
theorem number_kills_reader :
    let s := runs (step loadsSample) numberRun .started
    ¬ Seen loadsSample s ∧ s.reader = .dead ∧ s.buffer = [cancelLine] ∧ s.latch = false ∧
      s.mayPoll 0 = true ∧ s.stopped 0 = false := by
  have dead : (runs (step loadsSample) numberRun .started).reader = .dead := by decide +kernel
  exact ⟨fun seen => seen.reading dead, dead, by decide +kernel, by decide +kernel,
    by decide +kernel, by decide +kernel⟩

end StopLatch
