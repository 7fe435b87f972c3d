import TokenPlace.Desktop.BridgeRecovery
import TokenPlace.Lib.Schedules

/-!
# Dispatched work and recoveries

One thread at a time coordinates a recovery, a thread that joins comes back after it, and a work
item is handed over at most once. A work item is dropped when the registration of the client is
gone, or the runtime failed, by the time its loop looks: a recovery of another relay does both.

Results:
1. `dispatched_along`: in every run whose steps are harmless, work is not lost.
2. `recovery_drops_work`: a recovery of one relay loses the item of another.
-/

namespace BridgeRecovery

open Schedules (runs Along along_runs)

/-! ## Statements -/

/-- The thread is in the part of the coordinator. -/
def Recovery.coordinates : Recovery → Bool
  | .acquire | .joinWait _ | .joinDone _ | .joinLocked _ | .joinStop _ | .joined _ => false
  | _ => true

def Loop.coordinates : Loop → Bool
  | .recovering recovery => recovery.coordinates
  | _ => false

/-- The work item that the loop has and has not handed over. -/
def Loop.awaits : Loop → Option Nat
  | .received response | .evaluated response _ => response.work
  | .locking work | .locked work => some work
  | _ => none

def Worker.awaits : Worker → Option Nat
  | .returned response => response.work
  | _ => none

/-- A loop that goes on has the item, or its worker has it. -/
def Pending (worker : Nat → Worker) (loop : Nat → Loop) (work : Nat) : Prop :=
  ∃ relay, loop relay ≠ .ended ∧
    ((worker relay).awaits = some work ∨ (loop relay).awaits = some work)

/-- One thread at a time coordinates, with at most the configured number of calls; a thread that
has joined a recovery comes back after it; an item is handed over and answered at most once; and
one that was returned before a stop is handed over, or still pending. -/
structure Dispatched (attempts : Nat) (s : Bridge) : Prop where
  alone : ∀ i j, (s.loop i).coordinates = true → (s.loop j).coordinates = true → i = j
  bounded : s.coordination.ensured ≤ attempts
  joined : ∀ i recovery, s.loop i = .recovering (.joined recovery) →
    recovery ≤ s.coordination.finished
  once : ∀ work, s.ledger.handed work ≤ 1 ∧ s.ledger.answered work ≤ 1
  kept : ∀ work < s.ledger.returned, s.ledger.early work = true →
    s.ledger.handed work = 1 ∨ Pending s.worker s.loop work

/-- When a loop looks at a work item that was returned before a stop, the response has no error,
the registration is fresh and the runtime has not failed; and a loop that has found the queue
empty and gives up for a stop has got no such item since. -/
def Harmless (e : Event) (s : Bridge) : Prop :=
  match e with
  | .loop relay _ =>
    match s.loop relay with
    | .received response => ∀ work, response.work = some work → s.ledger.early work = true →
        response.relayError = false ∧ s.fresh relay = true
    | .evaluated response _ => ∀ work, response.work = some work → s.ledger.early work = true →
        s.warmLoadState ≠ .failed
    | .empty => s.stop = true → ∀ work, (s.worker relay).awaits = some work →
        s.ledger.early work = false
    | _ => True
  | _ => True

/-! ## Coordination -/

/-- The recovery that the thread has joined. -/
def Loop.joins : Loop → Option Nat
  | .recovering (.joinWait recovery) | .recovering (.joinDone recovery)
  | .recovering (.joinLocked recovery) | .recovering (.joinStop recovery) => some recovery
  | _ => none

/-- The calls that were made when the coordinator is here. -/
def Loop.Counts (attempts ensured : Nat) : Loop → Prop
  | .recovering (.clear) | .recovering (.announce) | .recovering (.unadvertise _) => ensured = 0
  | .recovering (.attempt k) => ensured + 1 = k ∧ ensured ≤ attempts
  | .recovering (.ensure k) => ensured + 1 = k ∧ k ≤ attempts
  | .recovering (.succeeded k) | .recovering (.start k _) | .recovering (.backoff k) =>
    ensured = k
  | _ => True

/-- What is known of a thread at its place. -/
structure Place (attempts : Nat) (c : Coordination) (i : Nat) (place : Loop) : Prop where
  holds : place.coordinates = true ↔ c.lock = some i
  joins : ∀ recovery, place.joins = some recovery → recovery ≤ c.begun
  joined : ∀ recovery, place = .recovering (.joined recovery) → recovery ≤ c.finished
  counts : place.Counts attempts c.ensured

structure Coordinated (attempts : Nat) (c : Coordination) (loop : Nat → Loop) : Prop where
  free : c.lock = none → c.begun = c.finished
  one : c.lock ≠ none → c.begun = c.finished + 1
  bounded : c.ensured ≤ attempts
  places : ∀ i, Place attempts c i (loop i)

variable {relays : List Nat} {attempts : Nat} {s : Bridge} {c c' : Coordination}
  {loop : Nat → Loop} {i : Nat} {place next : Loop}

theorem started_coordinated (attempts : Nat) (warmLoadState : WarmLoad) :
    Coordinated attempts (Bridge.started warmLoadState).coordination
      (Bridge.started warmLoadState).loop where
  free _ := rfl
  one := nofun
  bounded := Nat.zero_le _
  places _ := ⟨by constructor <;> nofun, nofun, nofun, trivial⟩

variable {work : Nat} {response : Response} {result : ProcessResult} {registered : Bool}
  {ensured : Nat} {w : Worker}

theorem counts_outside (outside : place.coordinates = false) :
    place.Counts attempts ensured := by
  unfold Loop.Counts
  split <;> trivial

theorem Place.outside (known : Place attempts c i place) (outside : place.coordinates = false)
    (lock : c'.lock ≠ some i) (begun : c.begun ≤ c'.begun) (finished : c.finished ≤ c'.finished) :
    Place attempts c' i place where
  holds := by simp [outside, lock]
  joins recovery is := Nat.le_trans (known.joins recovery is) begun
  joined recovery is := Nat.le_trans (known.joined recovery is) finished
  counts := counts_outside outside

/-- What holds of the new place of a thread and of the places of the others. -/
theorem update_forall {P : Nat → Loop → Prop} (here : P i next) (others : ∀ j, j ≠ i → P j (loop j))
    (j : Nat) : P j (Function.update loop i next j) := by
  by_cases same : j = i
  · rw [same, Function.update_self]
    exact here
  · rw [Function.update_of_ne same]
    exact others j same

theorem Coordinated.goto (inv : Coordinated attempts c loop) (known : Place attempts c i next) :
    Coordinated attempts c (Function.update loop i next) :=
  { inv with places := update_forall known fun j _ => inv.places j }

theorem Place.elsewhere (lock : c.lock ≠ some i) (coordinates : next.coordinates = false)
    (joins : next.joins = none) (joined : ∀ recovery, next ≠ .recovering (.joined recovery)) :
    Place attempts c i next where
  holds := by simp [coordinates, lock]
  joins := by simp [joins]
  joined recovery is := absurd is (joined recovery)
  counts := counts_outside coordinates

theorem Place.joining {recovery : Nat} (lock : c.lock ≠ some i) (joins : next.joins = some recovery)
    (begun : recovery ≤ c.begun) : Place attempts c i next := by
  unfold Loop.joins at joins
  split at joins <;> cases joins
  all_goals exact ⟨by simp [Loop.coordinates, Recovery.coordinates, lock],
    fun _ is => Option.some.inj is ▸ begun, nofun, trivial⟩

theorem Place.held (lock : c.lock = some i) (coordinates : next.coordinates = true)
    (counts : next.Counts attempts c.ensured) : Place attempts c i next where
  holds := by simp [coordinates, lock]
  joins recovery is := by
    unfold Loop.joins at is
    split at is
    · simp [Loop.coordinates, Recovery.coordinates] at coordinates
    · simp [Loop.coordinates, Recovery.coordinates] at coordinates
    · simp [Loop.coordinates, Recovery.coordinates] at coordinates
    · simp [Loop.coordinates, Recovery.coordinates] at coordinates
    · cases is
  joined recovery is := by
    rw [is] at coordinates
    cases coordinates
  counts := counts

/-- A thread that coordinates goes on, and no other one does. -/
theorem Coordinated.coordinator (inv : Coordinated attempts c loop)
    (coordinates : (loop i).coordinates = true) : c.lock = some i :=
  (inv.places i).holds.mp coordinates

theorem Coordinated.unlocked (inv : Coordinated attempts c loop)
    (coordinates : (loop i).coordinates = false) : c.lock ≠ some i := by
  intro lock
  rw [(inv.places i).holds.mpr lock] at coordinates
  cases coordinates

theorem Coordinated.others {j : Nat} (inv : Coordinated attempts c loop) (lock : c.lock = some i)
    (ne : j ≠ i) : (loop j).coordinates = false := by
  by_contra coordinates
  have other := inv.coordinator (Bool.not_eq_false _ ▸ coordinates)
  rw [lock] at other
  exact ne (Option.some.inj other).symm

theorem Coordinated.coordinate (inv : Coordinated attempts c loop) (lock : c.lock = some i)
    {recoveryDone : Bool} (coordinates : next.coordinates = true)
    (bounded : ensured ≤ attempts) (counts : next.Counts attempts ensured) :
    Coordinated attempts ⟨c.lock, recoveryDone, c.begun, c.finished, ensured⟩
      (Function.update loop i next) where
  free := inv.free
  one := inv.one
  bounded := bounded
  places := update_forall (.held lock coordinates counts) fun j ne =>
    (inv.places j).outside (inv.others lock ne)
      (fun other => ne (Option.some.inj (other.symm.trans lock))) (Nat.le_refl _) (Nat.le_refl _)

theorem Coordinated.acquire (inv : Coordinated attempts c loop) (lock : c.lock = none) :
    Coordinated attempts { c with lock := some i, begun := c.begun + 1, ensured := 0 }
      (Function.update loop i (.recovering .clear)) where
  free := nofun
  one _ := by rw [inv.free lock]
  bounded := Nat.zero_le _
  places := update_forall (.held rfl rfl rfl) fun j ne =>
    (inv.places j).outside
      (Bool.eq_false_iff.mpr fun is => by rw [(inv.places j).holds, lock] at is; cases is)
      (fun is => ne (Option.some.inj is).symm) (Nat.le_succ _) (Nat.le_refl _)

theorem Coordinated.release (inv : Coordinated attempts c loop) (lock : c.lock = some i)
    (begun : c.begun = c.finished + 1) :
    Coordinated attempts { c with lock := none, finished := c.finished + 1 }
      (Function.update loop i .sleeping) where
  free _ := begun
  one is := absurd rfl is
  bounded := inv.bounded
  places := update_forall (.elsewhere nofun rfl rfl nofun) fun j ne =>
    (inv.places j).outside (inv.others lock ne) nofun (Nat.le_refl _) (Nat.le_succ _)

theorem recoveryStep_coordinated {recovery : Recovery} (answers : Answers)
    (inv : Coordinated attempts s.coordination s.loop) (place : s.loop i = .recovering recovery) :
    Coordinated attempts (recoveryStep relays attempts i answers s recovery).coordination
      (recoveryStep relays attempts i answers s recovery).loop := by
  have known := inv.places i
  rw [place] at known
  unfold recoveryStep
  cases recovery with
  | acquire =>
    dsimp only
    split
    · next free => exact inv.acquire free
    · have lock := inv.unlocked (i := i) (by rw [place]; rfl)
      exact inv.goto (.joining lock rfl (Nat.le_refl _))
  | joinWait n =>
    have lock := inv.unlocked (i := i) (by rw [place]; rfl)
    exact inv.goto (.joining lock rfl (known.joins n rfl))
  | joinDone n =>
    have lock := inv.unlocked (i := i) (by rw [place]; rfl)
    refine inv.goto ?_
    split
    · exact .joining lock rfl (known.joins n rfl)
    · exact .joining lock rfl (known.joins n rfl)
  | joinLocked n =>
    have lock := inv.unlocked (i := i) (by rw [place]; rfl)
    refine inv.goto ?_
    split
    · next free =>
      refine ⟨by simp [Loop.coordinates, Recovery.coordinates, lock], nofun, fun m is => ?_,
        trivial⟩
      cases is
      -- the lock is free, so every recovery that has begun has finished
      rw [← inv.free free]
      exact known.joins n rfl
    · exact .joining lock rfl (known.joins n rfl)
  | joinStop n =>
    have lock := inv.unlocked (i := i) (by rw [place]; rfl)
    dsimp only
    split
    · exact inv.goto (.elsewhere lock rfl rfl nofun)
    · exact inv.goto (.joining lock rfl (known.joins n rfl))
  | joined n =>
    exact inv.goto (.elsewhere (inv.unlocked (by rw [place]; rfl)) rfl rfl nofun)
  | clear =>
    have lock := inv.coordinator (i := i) (by rw [place]; rfl)
    exact inv.coordinate lock rfl inv.bounded known.counts
  | announce | succeeded k =>
    have lock := inv.coordinator (i := i) (by rw [place]; rfl)
    exact inv.goto (.held lock rfl known.counts)
  | unadvertise rest =>
    have lock := inv.coordinator (i := i) (by rw [place]; rfl)
    cases rest with
    | nil =>
      have none : s.coordination.ensured = 0 := known.counts
      exact inv.goto (.held lock rfl ⟨by rw [none], inv.bounded⟩)
    | cons client rest => exact inv.goto (.held lock rfl known.counts)
  | attempt k =>
    have lock := inv.coordinator (i := i) (by rw [place]; rfl)
    dsimp only
    split
    · exact inv.goto (.held lock rfl trivial)
    · next left =>
      refine inv.goto ?_
      split
      · exact .held lock rfl trivial
      · exact .held lock rfl ⟨known.counts.1, Nat.not_lt.mp left⟩
  | ensure k =>
    have lock := inv.coordinator (i := i) (by rw [place]; rfl)
    have counts : s.coordination.ensured + 1 = k ∧ k ≤ attempts := known.counts
    dsimp only
    split
    · exact inv.coordinate lock rfl (counts.1 ▸ counts.2) counts.1
    · exact inv.coordinate lock rfl (counts.1 ▸ counts.2) counts.1
  | start k rest =>
    have lock := inv.coordinator (i := i) (by rw [place]; rfl)
    cases rest with
    | nil => exact inv.goto (.held lock rfl trivial)
    | cons client rest =>
      dsimp only
      split
      · exact inv.goto (.held lock rfl known.counts)
      · exact inv.goto (.held lock rfl known.counts)
  | backoff k =>
    have lock := inv.coordinator (i := i) (by rw [place]; rfl)
    have count : s.coordination.ensured = k := known.counts
    refine inv.goto ?_
    split
    · exact .held lock rfl trivial
    · exact .held lock rfl ⟨by rw [count], inv.bounded⟩
  | finish =>
    exact inv.coordinate (inv.coordinator (by rw [place]; rfl)) rfl inv.bounded trivial
  | release =>
    have lock := inv.coordinator (i := i) (by rw [place]; rfl)
    exact inv.release lock (inv.one (by rw [lock]; nofun))

theorem afterProcess_plain (recovery : Recovery) :
    afterProcess work result ≠ .recovering recovery := by
  unfold afterProcess
  split
  · nofun
  · split
    · nofun
    · split <;> nofun

theorem afterResponse_plain (recovery : Recovery) :
    afterResponse response registered ≠ .recovering recovery := by
  unfold afterResponse
  split
  · split <;> nofun
  · nofun

theorem Coordinated.plain (inv : Coordinated attempts c loop)
    (outside : (loop i).coordinates = false) (plain : ∀ recovery, next ≠ .recovering recovery) :
    Coordinated attempts c (Function.update loop i next) := by
  refine inv.goto (.elsewhere (inv.unlocked outside) ?_ ?_ fun _ => plain _)
  · cases next with
    | recovering recovery => exact absurd rfl (plain recovery)
    | _ => rfl
  · cases next with
    | recovering recovery => exact absurd rfl (plain recovery)
    | _ => rfl

theorem loopStep_coordinated (answers : Answers)
    (inv : Coordinated attempts s.coordination s.loop) (i : Nat) :
    Coordinated attempts (loopStep relays attempts i answers s).coordination
      (loopStep relays attempts i answers s).loop := by
  unfold loopStep
  cases place : s.loop i with
  | recovering recovery => exact recoveryStep_coordinated answers inv place
  | unhealthy result =>
    have outside : (s.loop i).coordinates = false := by rw [place]; rfl
    dsimp only
    split
    · exact inv.plain outside nofun
    · split
      · exact inv.goto (.elsewhere (inv.unlocked outside) rfl rfl nofun)
      · exact inv.plain outside nofun
  | polling =>
    have outside : (s.loop i).coordinates = false := by rw [place]; rfl
    dsimp only
    split <;> exact inv.plain outside nofun
  | locking work =>
    dsimp only
    split
    · exact inv.plain (by rw [place]; rfl) nofun
    · exact inv
  | evaluated response registered =>
    exact inv.plain (by rw [place]; rfl) afterResponse_plain
  | releasing work result => exact inv.plain (by rw [place]; rfl) afterProcess_plain
  | ended => exact inv
  | top | testRecovering | testFailed | empty | answering _ | submitting _ | sleeping =>
    refine inv.plain (by rw [place]; rfl) ?_
    split <;> nofun
  | calling | received _ | locked _ | processing _ =>
    exact inv.plain (by rw [place]; rfl) nofun

/-! ## Items -/

/-- The work item that the loop has handed over and may still answer. -/
def Loop.handles : Loop → Option Nat
  | .processing work | .releasing work _ | .answering work | .submitting work => some work
  | _ => none

/-- What is known of a thread and its worker. -/
structure Tracks (stop : Bool) (ledger : Ledger) (i : Nat) (worker : Worker) (place : Loop) :
    Prop where
  awaited : ∀ work, worker.awaits = some work ∨ place.awaits = some work →
    work < ledger.returned ∧ ledger.owner work = i ∧ ledger.handed work = 0
  handled : ∀ work, place.handles = some work →
    work < ledger.returned ∧ ledger.owner work = i ∧ ledger.handed work = 1 ∧
      ledger.answered work = 0
  busy : worker ≠ .idle → place = .polling ∨ place = .empty ∨ (place = .ended ∧ stop = true)
  registered : ∀ response registered work, place = .evaluated response registered →
    response.work = some work → ledger.early work = true → registered = true

structure Tracked (stop : Bool) (ledger : Ledger) (worker : Nat → Worker) (loop : Nat → Loop) :
    Prop where
  once : ∀ work, ledger.handed work ≤ 1 ∧ ledger.answered work ≤ ledger.handed work
  unused : ∀ work, ledger.returned ≤ work → ledger.handed work = 0
  threads : ∀ i, Tracks stop ledger i (worker i) (loop i)
  kept : ∀ work < ledger.returned, ledger.early work = true →
    ledger.handed work = 1 ∨ Pending worker loop work

variable {stop : Bool} {ledger : Ledger} {worker : Nat → Worker} {nextWorker : Worker}

theorem started_tracked (warmLoadState : WarmLoad) :
    Tracked (Bridge.started warmLoadState).stop (Bridge.started warmLoadState).ledger
      (Bridge.started warmLoadState).worker (Bridge.started warmLoadState).loop where
  once _ := ⟨Nat.zero_le _, Nat.zero_le _⟩
  unused _ _ := rfl
  threads _ := ⟨by rintro _ (h | h) <;> (cases h), nofun, fun h => absurd rfl h, nofun⟩
  kept _ lt := absurd lt (Nat.not_lt_zero _)

theorem Tracked.move (inv : Tracked stop ledger worker loop)
    (known : Tracks stop ledger i nextWorker next)
    (keeps : ∀ work, ledger.early work = true → loop i ≠ .ended →
      (worker i).awaits = some work ∨ (loop i).awaits = some work →
      next ≠ .ended ∧ (nextWorker.awaits = some work ∨ next.awaits = some work)) :
    Tracked stop ledger (Function.update worker i nextWorker) (Function.update loop i next) where
  once := inv.once
  unused := inv.unused
  threads j := by
    by_cases same : j = i
    · rw [same, Function.update_self, Function.update_self]
      exact known
    · rw [Function.update_of_ne same, Function.update_of_ne same]
      exact inv.threads j
  kept work lt early := by
    refine (inv.kept work lt early).imp_right ?_
    rintro ⟨j, goesOn, awaits⟩
    refine ⟨j, ?_⟩
    by_cases same : j = i
    · rw [same] at goesOn awaits
      rw [same, Function.update_self, Function.update_self]
      exact keeps work early goesOn awaits
    · rw [Function.update_of_ne same, Function.update_of_ne same]
      exact ⟨goesOn, awaits⟩

theorem Tracked.idle (inv : Tracked stop ledger worker loop) (place' : loop i = place)
    (working : place ≠ .polling ∧ place ≠ .empty ∧ place ≠ .ended) : worker i = .idle := by
  by_contra busy
  obtain h | h | h := (inv.threads i).busy busy
  · exact working.1 (place'.symm.trans h)
  · exact working.2.1 (place'.symm.trans h)
  · exact working.2.2 (place'.symm.trans h.1)

/-- A thread whose worker is idle goes on with the item that it has, or drops one that was returned
after a stop. -/
theorem Tracked.goto (inv : Tracked stop ledger worker loop) (is : loop i = place)
    (working : place ≠ .polling ∧ place ≠ .empty ∧ place ≠ .ended)
    (awaits : ∀ work, next.awaits = some work → place.awaits = some work)
    (handles : ∀ work, next.handles = some work → place.handles = some work)
    (keeps : ∀ work, ledger.early work = true → place.awaits = some work →
      next.awaits = some work)
    (registered : ∀ response registered work, next = .evaluated response registered →
      response.work = some work → ledger.early work = true → registered = true) :
    Tracked stop ledger worker (Function.update loop i next) := by
  have idle := inv.idle is working
  have before := inv.threads i
  rw [idle, is] at before
  have moved : Tracked stop ledger (Function.update worker i .idle) (Function.update loop i next) :=
    inv.move ⟨fun work h => before.awaited work (h.imp_right (awaits work)),
      fun work h => before.handled work (handles work h), fun h => absurd rfl h, registered⟩
    (fun work early _ h => ?_)
  · rwa [← idle, Function.update_eq_self] at moved
  · rw [idle, is] at h
    have kept := keeps work early (h.resolve_left nofun)
    refine ⟨?_, .inr kept⟩
    rintro rfl
    cases kept

theorem Tracked.quiet (inv : Tracked stop ledger worker loop) (is : loop i = place)
    (working : place ≠ .polling ∧ place ≠ .empty ∧ place ≠ .ended) (without : place.awaits = none)
    (awaits : next.awaits = none) (handles : next.handles = none) :
    Tracked stop ledger worker (Function.update loop i next) := by
  refine inv.goto is working (by rw [awaits]; nofun) (by rw [handles]; nofun)
    (by rw [without]; nofun) ?_
  rintro response registered work rfl has
  exact absurd (has.symm.trans awaits) nofun

/-! ## Steps of an item -/

theorem afterResponse_awaits (awaits : (afterResponse response registered).awaits = some work) :
    response.work = some work := by
  unfold afterResponse at awaits
  split at awaits
  · next other has =>
    split at awaits
    · rw [has]
      exact awaits
    · cases awaits
  · cases awaits

theorem afterResponse_registered
    (has : response.work = some work) : afterResponse response true = .locking work := by
  rw [afterResponse, has]
  rfl

theorem afterResponse_handles :
    (afterResponse response registered).handles = none := by
  unfold afterResponse
  split
  · split <;> rfl
  · rfl

theorem afterProcess_awaits :
    (afterProcess work result).awaits = none := by
  unfold afterProcess
  split
  · rfl
  · split
    · rfl
    · split <;> rfl

theorem afterProcess_handles {work other : Nat}
    (handles : (afterProcess work result).handles = some other) : some work = some other := by
  unfold afterProcess at handles
  split at handles
  · cases handles
  · split at handles
    · cases handles
    · split at handles
      · exact handles
      · cases handles

theorem not_evaluated {P : Prop} (awaits : next.awaits = none) (response : Response)
    (registered : Bool) (work : Nat) (is : next = .evaluated response registered)
    (has : response.work = some work) : P := by
  rw [is] at awaits
  exact absurd (has.symm.trans awaits) nofun

theorem Tracks.other {ledger' : Ledger} (known : Tracks stop ledger i w place)
    (returned : ledger'.returned = ledger.returned) (owner : ledger'.owner = ledger.owner)
    (early : ledger'.early = ledger.early) (ne : ledger.owner work ≠ i)
    (handed : ∀ other, other ≠ work → ledger'.handed other = ledger.handed other)
    (answered : ∀ other, other ≠ work → ledger'.answered other = ledger.answered other) :
    Tracks stop ledger' i w place where
  awaited other awaits := by
    obtain ⟨lt, owns, unhanded⟩ := known.awaited other awaits
    have differs : other ≠ work := by
      rintro rfl
      exact ne owns
    rw [returned, owner, handed other differs]
    exact ⟨lt, owns, unhanded⟩
  handled other handles := by
    obtain ⟨lt, owns, one, unanswered⟩ := known.handled other handles
    have differs : other ≠ work := by
      rintro rfl
      exact ne owns
    rw [returned, owner, handed other differs, answered other differs]
    exact ⟨lt, owns, one, unanswered⟩
  busy := known.busy
  registered response registered other is has isEarly :=
    known.registered response registered other is has (by rwa [← early])

theorem Tracked.count {handed answered : Nat → Nat}
    (inv : Tracked stop ledger worker loop) (idle : worker i = .idle)
    (owner : ledger.owner work = i) (lt : work < ledger.returned)
    (others : ∀ other, other ≠ work →
      handed other = ledger.handed other ∧ answered other = ledger.answered other)
    (one : handed work = 1) (once : answered work ≤ 1)
    (known : Tracks stop { ledger with handed, answered } i .idle next)
    (held : ∀ other, (loop i).awaits = some other → other = work) :
    Tracked stop { ledger with handed, answered } worker (Function.update loop i next) where
  once other := by
    by_cases same : other = work
    · rw [same]
      exact ⟨Nat.le_of_eq one, Nat.le_trans once (Nat.le_of_eq one.symm)⟩
    · dsimp only
      rw [(others other same).1, (others other same).2]
      exact inv.once other
  unused other le := by
    have ne : other ≠ work := by
      rintro rfl
      exact absurd lt (Nat.not_lt.mpr le)
    exact (others other ne).1.trans (inv.unused other le)
  threads j := by
    by_cases same : j = i
    · rw [same, Function.update_self, idle]
      exact known
    · rw [Function.update_of_ne same]
      exact (inv.threads j).other rfl rfl rfl (by rw [owner]; exact Ne.symm same)
        (fun other ne => (others other ne).1) (fun other ne => (others other ne).2)
  kept other lt early := by
    by_cases same : other = work
    · rw [same]
      exact .inl one
    · obtain isHanded | ⟨j, goesOn, awaits⟩ := inv.kept other lt early
      · exact .inl ((others other same).1.trans isHanded)
      · have ne : j ≠ i := by
          rintro rfl
          rw [idle] at awaits
          exact same (held other (awaits.resolve_left nofun))
        refine .inr ⟨j, ?_⟩
        rw [Function.update_of_ne ne]
        exact ⟨goesOn, awaits⟩

theorem Tracked.hand (inv : Tracked stop ledger worker loop) (is : loop i = .locked work) :
    Tracked stop
      { ledger with handed := Function.update ledger.handed work (ledger.handed work + 1) } worker
      (Function.update loop i (.processing work)) := by
  obtain ⟨lt, owner, unhanded⟩ := (inv.threads i).awaited work (.inr (by rw [is]; rfl))
  have unanswered : ledger.answered work = 0 := by
    have once := (inv.once work).2
    rw [unhanded] at once
    exact Nat.le_zero.mp once
  have one : Function.update ledger.handed work (ledger.handed work + 1) work = 1 := by
    rw [Function.update_self, unhanded]
  refine inv.count (inv.idle is ⟨nofun, nofun, nofun⟩) owner lt
    (fun other ne => ⟨Function.update_of_ne ne .., rfl⟩) one (unanswered ▸ Nat.zero_le 1) ?_ ?_
  · refine ⟨by rintro _ (h | h) <;> (cases h), fun other handles => ?_, fun h => absurd rfl h,
      nofun⟩
    cases handles
    exact ⟨lt, owner, one, unanswered⟩
  · intro other awaits
    rw [is] at awaits
    exact (Option.some.inj awaits).symm

theorem Tracked.answer (inv : Tracked stop ledger worker loop)
    (is : loop i = .submitting work) (without : next.awaits = none)
    (handles : next.handles = none) :
    Tracked stop
      { ledger with answered := Function.update ledger.answered work (ledger.answered work + 1) }
      worker (Function.update loop i next) := by
  obtain ⟨lt, owner, one, unanswered⟩ := (inv.threads i).handled work (by rw [is]; rfl)
  refine inv.count (inv.idle is ⟨nofun, nofun, nofun⟩) owner lt
    (fun other ne => ⟨rfl, Function.update_of_ne ne ..⟩) one ?_ ?_ ?_
  · exact Nat.le_of_eq (by rw [Function.update_self, unanswered])
  · refine ⟨fun other h => ?_, by rw [handles]; nofun, fun h => absurd rfl h,
      fun response registered other is has _ =>
        not_evaluated without response registered other is has⟩
    rw [without] at h
    obtain h | h := h <;> cases h
  · rw [is]
    nofun

theorem Tracked.call (inv : Tracked stop ledger worker loop) (is : loop i = .calling) :
    Tracked stop ledger (Function.update worker i .running) (Function.update loop i .polling) := by
  refine inv.move ⟨?_, nofun, fun _ => .inl rfl, nofun⟩ (fun work _ _ awaits => ?_)
  · rintro _ (h | h) <;> cases h
  · rw [inv.idle is ⟨nofun, nofun, nofun⟩, is] at awaits
    obtain h | h := awaits <;> cases h

theorem Tracked.take (inv : Tracked stop ledger worker loop) (is : loop i = .polling)
    (awaits : next.awaits = (worker i).awaits) (handles : next.handles = none)
    (goesOn : (worker i).awaits = none ∨ next ≠ .ended)
    (unread : ∀ response registered, next ≠ .evaluated response registered) :
    Tracked stop ledger (Function.update worker i .idle) (Function.update loop i next) := by
  have before := inv.threads i
  rw [is] at before
  refine inv.move ⟨fun work h => ?_, by rw [handles]; nofun, fun h => absurd rfl h,
    fun response registered _ is => absurd is (unread response registered)⟩ (fun work _ _ h => ?_)
  · rw [awaits] at h
    exact before.awaited work (.inl (h.resolve_left nofun))
  · rw [is] at h
    have has := h.resolve_right nofun
    refine ⟨goesOn.resolve_left ?_, .inr (awaits.trans has)⟩
    rw [has]
    nofun

theorem Tracked.wait (inv : Tracked stop ledger worker loop)
    (is : loop i = .polling ∨ loop i = .empty)
    (goes : next = .polling ∨ next = .empty ∨ next = .ended ∧ stop = true ∧
      ∀ work, (worker i).awaits = some work → ledger.early work = false) :
    Tracked stop ledger worker (Function.update loop i next) := by
  have without : (loop i).awaits = none := by obtain is | is := is <;> (rw [is]; rfl)
  have gives : next.awaits = none ∧ next.handles = none ∧
      ∀ response registered, next ≠ .evaluated response registered := by
    obtain rfl | rfl | ⟨rfl, _⟩ := goes <;> exact ⟨rfl, rfl, nofun⟩
  have moved : Tracked stop ledger (Function.update worker i (worker i))
      (Function.update loop i next) := inv.move
    ⟨fun work h => ?_, by rw [gives.2.1]; nofun, fun _ => ?_,
      fun response registered _ is => absurd is (gives.2.2 response registered)⟩
    (fun work early _ h => ?_)
  · rwa [Function.update_eq_self] at moved
  · rw [gives.1] at h
    exact (inv.threads i).awaited work (.inl (h.resolve_right nofun))
  · exact goes.imp_right (Or.imp_right fun h => ⟨h.1, h.2.1⟩)
  · rw [without] at h
    have has := h.resolve_right nofun
    refine ⟨?_, .inl has⟩
    obtain rfl | rfl | ⟨_, _, late⟩ := goes
    · nofun
    · nofun
    · rw [late work has] at early
      cases early

/-- A recovery touches no item: the thread goes on without one. -/
theorem recoveryStep_frame (relays : List Nat) (attempts : Nat) (recovery : Recovery)
    (answers : Answers) (s : Bridge) (i : Nat) :
    ∃ next : Loop, next.awaits = none ∧ next.handles = none ∧
      (recoveryStep relays attempts i answers s recovery).stop = s.stop ∧
      (recoveryStep relays attempts i answers s recovery).ledger = s.ledger ∧
      (recoveryStep relays attempts i answers s recovery).worker = s.worker ∧
      (recoveryStep relays attempts i answers s recovery).loop = Function.update s.loop i next := by
  unfold recoveryStep
  cases recovery with
  | joinWait _ | joined _ | clear | announce | succeeded _ | finish | release =>
    exact ⟨_, rfl, rfl, rfl, rfl, rfl, rfl⟩
  | joinDone _ | joinLocked _ | ensure _ | backoff _ => exact ⟨_, rfl, rfl, rfl, rfl, rfl, rfl⟩
  | acquire | joinStop _ | attempt _ =>
    dsimp only
    split <;> exact ⟨_, rfl, rfl, rfl, rfl, rfl, rfl⟩
  | unadvertise rest => cases rest <;> exact ⟨_, rfl, rfl, rfl, rfl, rfl, rfl⟩
  | start k rest =>
    cases rest with
    | nil => exact ⟨_, rfl, rfl, rfl, rfl, rfl, rfl⟩
    | cons client rest =>
      dsimp only
      split <;> exact ⟨_, rfl, rfl, rfl, rfl, rfl, rfl⟩

theorem loopStep_tracked (answers : Answers)
    (inv : Tracked s.stop s.ledger s.worker s.loop) (i : Nat)
    (harmless : Harmless (.loop i answers) s) :
    Tracked (loopStep relays attempts i answers s).stop
      (loopStep relays attempts i answers s).ledger (loopStep relays attempts i answers s).worker
      (loopStep relays attempts i answers s).loop := by
  unfold Harmless at harmless
  dsimp only at harmless
  unfold loopStep
  cases place : s.loop i with
  | calling => exact inv.call place
  | polling =>
    dsimp only
    split
    · next response has =>
      exact inv.take place (by rw [has]; rfl) rfl (.inr nofun) nofun
    · next has => exact inv.take place (by rw [has]; rfl) rfl (.inl (by rw [has]; rfl)) nofun
    · exact inv.wait (.inl place) (.inr (.inl rfl))
    · exact inv.wait (.inl place) (.inr (.inl rfl))
  | empty =>
    rw [place] at harmless
    refine inv.wait (.inr place) ?_
    split
    · next stop => exact .inr (.inr ⟨rfl, stop, harmless stop⟩)
    · exact .inl rfl
  | received response =>
    rw [place] at harmless
    refine inv.goto place ⟨nofun, nofun, nofun⟩ (fun _ => id) nofun (fun _ _ => id) ?_
    rintro _ _ work ⟨⟩ has early
    -- the item was returned before a stop, so none of the three tests fails
    obtain ⟨noError, fresh⟩ := harmless work has early
    rw [noError, has, fresh, Option.isSome_some, Bool.or_true]
    rfl
  | evaluated response registered =>
    rw [place] at harmless
    refine inv.goto place ⟨nofun, nofun, nofun⟩ (fun _ => afterResponse_awaits)
      (by rw [afterResponse_handles]; nofun) (fun work early has => ?_) (fun _ _ _ is => ?_)
    · have isRegistered : registered = true :=
        (inv.threads i).registered response registered work place has early
      have ready : (s.warmLoadState != .failed) = true := bne_iff_ne.mpr (harmless work has early)
      rw [isRegistered, ready]
      show (afterResponse response true).awaits = some work
      rw [afterResponse_registered has]
      rfl
    · unfold afterResponse at is
      split at is
      · split at is <;> cases is
      · cases is
  | locking work =>
    dsimp only
    split
    · exact inv.goto place ⟨nofun, nofun, nofun⟩ (fun _ => id) nofun (fun _ _ => id) nofun
    · exact inv
  | locked work => exact inv.hand place
  | processing work =>
    exact inv.goto place ⟨nofun, nofun, nofun⟩ nofun (fun _ => id) nofun nofun
  | releasing work result =>
    exact inv.goto place ⟨nofun, nofun, nofun⟩ (by rw [afterProcess_awaits]; nofun)
      (fun _ => afterProcess_handles) nofun (fun response registered work is has _ =>
        not_evaluated afterProcess_awaits response registered work is has)
  | answering work =>
    dsimp only
    split
    · exact inv.quiet place ⟨nofun, nofun, nofun⟩ rfl rfl rfl
    · exact inv.goto place ⟨nofun, nofun, nofun⟩ nofun (fun _ => id) nofun nofun
  | submitting work =>
    dsimp only
    split
    · exact inv.answer place rfl rfl
    · exact inv.answer place rfl rfl
  | recovering recovery =>
    obtain ⟨next, awaits, handles, stop, ledger, worker, loop⟩ :=
      recoveryStep_frame relays attempts recovery answers s i
    dsimp only
    rw [stop, ledger, worker, loop]
    exact inv.quiet place ⟨nofun, nofun, nofun⟩ rfl awaits handles
  | unhealthy result =>
    dsimp only
    split
    · exact inv.quiet place ⟨nofun, nofun, nofun⟩ rfl rfl rfl
    · split <;> exact inv.quiet place ⟨nofun, nofun, nofun⟩ rfl rfl rfl
  | ended => exact inv
  | top | testRecovering | testFailed | sleeping =>
    dsimp only
    split <;> exact inv.quiet place ⟨nofun, nofun, nofun⟩ rfl rfl rfl

theorem Tracked.back (inv : Tracked stop ledger worker loop) (running : worker i = .running)
    (without : nextWorker.awaits = none) :
    Tracked stop ledger (Function.update worker i nextWorker) loop := by
  have before := inv.threads i
  have moved : Tracked stop ledger (Function.update worker i nextWorker)
      (Function.update loop i (loop i)) := inv.move
    ⟨fun work h => ?_, before.handled, fun _ => before.busy (by rw [running]; nofun),
      before.registered⟩ (fun work _ goesOn h => ?_)
  · rwa [Function.update_eq_self] at moved
  · rw [without] at h
    exact before.awaited work (.inr (h.resolve_left nofun))
  · rw [running] at h
    exact ⟨goesOn, .inr (h.resolve_left nofun)⟩

theorem Tracks.recorded (known : Tracks stop ledger i w place) (relay : Nat) (early : Bool) :
    Tracks stop (ledger.record relay early) i w place where
  awaited work awaits := by
    obtain ⟨lt, owner, unhanded⟩ := known.awaited work awaits
    refine ⟨Nat.lt_succ_of_lt lt, ?_, unhanded⟩
    exact (Function.update_of_ne (Nat.ne_of_lt lt) ..).trans owner
  handled work handles := by
    obtain ⟨lt, owner, counts⟩ := known.handled work handles
    refine ⟨Nat.lt_succ_of_lt lt, ?_, counts⟩
    exact (Function.update_of_ne (Nat.ne_of_lt lt) ..).trans owner
  busy := known.busy
  registered response registered work is has isEarly := by
    have lt := (known.awaited work (.inr (by rw [is]; exact has))).1
    exact known.registered response registered work is has
      ((Function.update_of_ne (Nat.ne_of_lt lt) ..).symm.trans isEarly)

theorem Tracked.record (inv : Tracked stop ledger worker loop) (running : worker i = .running)
    (relayError heartbeat : Bool) :
    Tracked stop (ledger.record i !stop)
      (Function.update worker i (.returned ⟨relayError, heartbeat, some ledger.returned⟩)) loop where
  once := inv.once
  unused work le := inv.unused work (Nat.le_of_succ_le le)
  threads j := by
    have known := (inv.threads j).recorded i !stop
    by_cases same : j = i
    · subst same
      rw [Function.update_self]
      refine ⟨fun work h => ?_, known.handled,
        fun _ => (inv.threads j).busy (by rw [running]; nofun), known.registered⟩
      obtain h | h := h
      · cases h
        exact ⟨Nat.lt_succ_self _, Function.update_self .., inv.unused _ (Nat.le_refl _)⟩
      · exact known.awaited work (.inr h)
    · rw [Function.update_of_ne same]
      exact known
  kept work lt early := by
    obtain old | rfl := Nat.lt_succ_iff_lt_or_eq.mp lt
    · have wasEarly : ledger.early work = true :=
        (Function.update_of_ne (Nat.ne_of_lt old) ..).symm.trans early
      refine (inv.kept work old wasEarly).imp_right ?_
      rintro ⟨j, goesOn, awaits⟩
      refine ⟨j, goesOn, ?_⟩
      by_cases same : j = i
      · rw [same, running] at awaits
        rw [same]
        exact .inr (awaits.resolve_left nofun)
      · rwa [Function.update_of_ne same]
    · refine .inr ⟨i, fun ended => ?_, .inl ?_⟩
      -- a loop ends with its worker busy only after a stop, and the item came before one
      · have now : (!stop) = true := (Function.update_self ..).symm.trans early
        obtain h | h | h := (inv.threads i).busy (by rw [running]; nofun)
        · rw [ended] at h
          cases h
        · rw [ended] at h
          cases h
        · rw [h.2] at now
          cases now
      · rw [Function.update_self]
        rfl

theorem workerStep_tracked (relay : Nat) (response : Option (Bool × Bool × Bool))
    (inv : Tracked s.stop s.ledger s.worker s.loop) :
    Tracked (workerStep relay response s).stop (workerStep relay response s).ledger
      (workerStep relay response s).worker (workerStep relay response s).loop := by
  unfold workerStep
  split
  · next running => exact inv.back running rfl
  · next running => exact inv.back running rfl
  · next relayError heartbeat running => exact inv.record running relayError heartbeat
  · exact inv

theorem Tracked.stopped (inv : Tracked stop ledger worker loop) :
    Tracked true ledger worker loop where
  once := inv.once
  unused := inv.unused
  threads i :=
    { inv.threads i with
      busy := fun works =>
        ((inv.threads i).busy works).imp_right (Or.imp_right fun h => ⟨h.1, rfl⟩) }
  kept := inv.kept

/-! ## Runs -/

structure Invariant (attempts : Nat) (s : Bridge) : Prop where
  coordinated : Coordinated attempts s.coordination s.loop
  tracked : Tracked s.stop s.ledger s.worker s.loop

theorem Invariant.dispatched (inv : Invariant attempts s) : Dispatched attempts s where
  alone i j hi hj := by
    have lock := inv.coordinated.coordinator hi
    rw [inv.coordinated.coordinator hj] at lock
    exact (Option.some.inj lock).symm
  bounded := inv.coordinated.bounded
  joined i := (inv.coordinated.places i).joined
  once work :=
    ⟨(inv.tracked.once work).1, Nat.le_trans (inv.tracked.once work).2 (inv.tracked.once work).1⟩
  kept := inv.tracked.kept

theorem workerStep_coordinated (relay : Nat) (response : Option (Bool × Bool × Bool))
    (inv : Coordinated attempts s.coordination s.loop) :
    Coordinated attempts (workerStep relay response s).coordination
      (workerStep relay response s).loop := by
  unfold workerStep
  split <;> exact inv

theorem step_invariant (e : Event) (inv : Invariant attempts s) (harmless : Harmless e s) :
    Invariant attempts (step relays attempts e s) := by
  cases e with
  | stop => exact ⟨inv.coordinated, inv.tracked.stopped⟩
  | registration relay fresh => exact ⟨inv.coordinated, inv.tracked⟩
  | worker relay response =>
    exact ⟨workerStep_coordinated relay response inv.coordinated,
      workerStep_tracked relay response inv.tracked⟩
  | loop relay answers =>
    exact ⟨loopStep_coordinated answers inv.coordinated relay,
      loopStep_tracked answers inv.tracked relay harmless⟩

/-- In every run whose steps are harmless, one thread at a time coordinates a recovery, a thread
that joins comes back after it, and every work item that was returned before a stop is handed over
once, or still in the hands of a loop that goes on. -/
theorem dispatched_along (relays : List Nat) (attempts : Nat) (warmLoadState : WarmLoad)
    (events : List Event)
    (harmless : Along (step relays attempts) Harmless events (.started warmLoadState)) :
    Dispatched attempts (runs (step relays attempts) events (.started warmLoadState)) :=
  (along_runs (fun e _ harmless inv => step_invariant e inv harmless) harmless
    ⟨started_coordinated attempts warmLoadState, started_tracked warmLoadState⟩ :
    Invariant attempts _).dispatched

/-- A call that does what it is for. -/
def answersSample : Answers where
  processed := some ⟨true, true, true, true, false, false⟩
  cleared := true
  ready := some true
  raises := false

/-- A loop takes one item and hands it over. -/
def workRun : List Event :=
  [Event.registration 0 true] ++ List.replicate 4 (Event.loop 0 answersSample) ++
    [Event.worker 0 (some (false, true, true))] ++ List.replicate 8 (Event.loop 0 answersSample)

theorem work_is_dispatched :
    Along (step [0] 3) Harmless workRun (.started .ready) ∧
      Dispatched 3 (runs (step [0] 3) workRun (.started .ready)) := by
  have harmless : Along (step [0] 3) Harmless workRun (.started .ready) :=
    ⟨trivial, trivial, trivial, trivial, trivial, trivial, trivial, fun _ _ _ => ⟨rfl, rfl⟩,
      fun _ _ _ => nofun, trivial, trivial, trivial, trivial, trivial, trivial⟩
  exact ⟨harmless, dispatched_along [0] 3 .ready workRun harmless⟩

/-- Two loops get an item each. The one fails, and its recovery unregisters the other client before
the other loop looks at its item. -/
def recoveryRun : List Event :=
  [Event.registration 0 true, Event.registration 1 true] ++
    List.replicate 4 (Event.loop 0 answersSample) ++
    List.replicate 4 (Event.loop 1 answersSample) ++
    [Event.worker 0 (some (false, true, true)), Event.worker 1 (some (false, true, true))] ++
    List.replicate 5 (Event.loop 1 answersSample) ++
    [Event.loop 1 { answersSample with processed := none }] ++
    List.replicate 6 (Event.loop 1 answersSample) ++
    List.replicate 3 (Event.loop 0 answersSample)

/-- The item of the other loop is neither handed over nor answered, and its loop goes on. -/
theorem recovery_drops_work :
    let s := runs (step [0, 1] 3) recoveryRun (.started .ready)
    ¬ Dispatched 3 s ∧ s.stop = false ∧ s.ledger.returned = 2 ∧ s.ledger.handed 0 = 0 ∧
      s.ledger.answered 0 = 0 ∧ s.loop 0 = .sleeping := by
  refine ⟨fun dispatched => ?_, by decide +kernel, by decide +kernel, by decide +kernel,
    by decide +kernel, by decide +kernel⟩
  obtain handed | ⟨relay, _, awaits⟩ := dispatched.kept 0 (by decide +kernel) (by decide +kernel)
  · revert handed
    decide +kernel
  · match relay with
    | 0 | 1 => obtain h | h := awaits <;> cases h
    | _ + 2 => obtain h | h := awaits <;> cases h

end BridgeRecovery
