import Mathlib.Data.NNRat.Defs
import Mathlib.Tactic.Linarith
import TokenPlace.Lib.Interleaving

/-!
# Publication of progress

Every request has a publisher, and one worker sends the updates of all of them. The worker has room
for one update: a new one takes the place of the one that waits. A thread that calls `submit` or
`stop` takes one action for each region under a lock, and so does the worker, which also takes one
for each reading of `_active`, for the encryption, for the sending and for the answer.

Updates are sent in the order in which they were handed over, with increasing sequence numbers, and
an interval apart unless the phase has changed (`updates_in_order`). For a publisher that was
stopped or refused nothing is sent but what was past the last check (`silent_after_stop`).
-/

namespace ProgressService

open Interleaving

/-! ## Updates -/

/-- A value in the dictionary of the observer. -/
inductive Value
  | int (n : ℤ)
  | bool (b : Bool)
  | text (s : String)
  | other
deriving DecidableEq

/-- The fields that `submit` reads of an event. -/
structure Report where
  phase : Value
  totalPromptTokens : Option Value
  cachedPromptTokens : Option Value
  processedPromptTokens : Option Value
  generatedTokens : Option Value
  elapsedMs : Option Value

inductive Phase
  | preparing
  | prefill
  | generating
deriving DecidableEq

def Phase.ofValue : Value → Option Phase
  | .text "preparing" => some .preparing
  | .text "prefill" => some .prefill
  | .text "generating" => some .generating
  | _ => none

/-- A count that is missing is zero. -/
def countOf : Option Value → Option (Fin (2 ^ 53))
  | none => some 0
  | some (.int n) =>
    if h : 0 ≤ n ∧ n ≤ 2 ^ 53 - 1 then some ⟨n.toNat, by omega⟩ else none
  | some _ => none

/-- What is published of an event. -/
structure Update where
  phase : Phase
  totalPromptTokens : Fin (2 ^ 53)
  cachedPromptTokens : Fin (2 ^ 53)
  processedPromptTokens : Fin (2 ^ 53)
  generatedTokens : Fin (2 ^ 53)
  elapsedMs : Fin (2 ^ 53)
  ordered : 0 < totalPromptTokens →
    cachedPromptTokens ≤ processedPromptTokens ∧ processedPromptTokens ≤ totalPromptTokens
deriving DecidableEq

/-- The checks of `submit`. -/
def Report.update (r : Report) : Option Update := do
  let phase ← Phase.ofValue r.phase
  let total ← countOf r.totalPromptTokens
  let cached ← countOf r.cachedPromptTokens
  let processed ← countOf r.processedPromptTokens
  let generated ← countOf r.generatedTokens
  let elapsed ← countOf r.elapsedMs
  if h : 0 < total → cached ≤ processed ∧ processed ≤ total then
    some ⟨phase, total, cached, processed, generated, elapsed, h⟩
  else none

/-! ## Publishers and the worker -/

/-- `_ApiV1ProgressPublisher`. -/
structure Publisher where
  stopped : Bool := false
  sequence : ℕ := 0
  lastPhase : Option Phase := none
  active : Bool := true
deriving DecidableEq

/-- `stop_from_worker`, and the locked region of `stop`. -/
def Publisher.stopFromWorker (p : Publisher) : Publisher :=
  { p with stopped := true, active := false }

/-- The locked region of `_prepare`. -/
def Publisher.prepare (p : Publisher) : Publisher := { p with sequence := p.sequence + 1 }

/-- What `_pending` holds. -/
structure Item where
  publisher : ℕ
  update : Update
  urgent : Bool
deriving DecidableEq

namespace Item

/-- What of an item is published. -/
def content (i : Item) : ℕ × Update := (i.publisher, i.update)

/-- The item in the place of what waits, whose urgency it keeps if that is of the same publisher. -/
def replacing (i : Item) (pending : Option Item) : Item :=
  { i with urgent := i.urgent || pending.any fun j => j.publisher = i.publisher && j.urgent }

def urgentFor (p : ℕ) (i : Item) : Bool := i.urgent && i.publisher = p

theorem urgentFor_replacing {i : Item} {pending : Option Item} {p : ℕ}
    (urgent : (i.replacing pending).urgentFor p) :
    i.urgentFor p ∨ ∃ j ∈ pending.toList, j.urgentFor p := by
  simp only [urgentFor, replacing, Bool.and_eq_true, Bool.or_eq_true, Option.any_eq_true,
    decide_eq_true_eq] at urgent ⊢
  rcases urgent with ⟨new | ⟨j, waits, same, old⟩, of⟩
  · exact .inl ⟨new, of_decide_eq_true of⟩
  · exact .inr ⟨j, Option.mem_toList.mpr waits, old, same.trans (of_decide_eq_true of)⟩

end Item

/-- Where the worker is in `_run` and `_publish`. -/
inductive Stage
  | waiting
  | checking (item : Item)
  | preparing (item : Item)
  | building (item : Item) (sequence : ℕ)
  | rechecking (item : Item) (sequence : ℕ)
  | sending (item : Item) (sequence : ℕ)
  | posted (publisher : ℕ)
  | refused (publisher : ℕ)
  | pausing
  | ended
deriving DecidableEq

/-- A request that was sent. -/
structure Post where
  item : Item
  sequence : ℕ
  time : ℚ
deriving DecidableEq

/-- The publishers and the worker. `submitted` and `posts` are logs. -/
structure Service where
  publishers : ℕ → Publisher
  pending : Option Item
  shutdown : Bool
  stage : Stage
  nextAllowed : ℚ
  now : ℚ
  submitted : List Item
  posts : List Post

def Service.setPublisher (s : Service) (p : ℕ) (publisher : Publisher) : Service :=
  { s with publishers := Function.update s.publishers p publisher }

/-- `_API_V1_PROGRESS_INTERVAL_SECONDS`. -/
def interval : ℚ := 1

/-- The statuses that stop a publisher. -/
def refusals : List ℕ := [400, 401, 403, 404, 405, 410, 413, 422]

/-- The next action of the worker. `built` says whether the request is prepared without an
exception, and `status` is the answer, if there is one. -/
def workerStep (built : Bool) (status : Option ℕ) (s : Service) : Service :=
  match s.stage with
  | .waiting =>
    if s.shutdown then { s with stage := .ended }
    else
      match s.pending with
      | none => s
      | some item =>
        if item.urgent ∨ s.nextAllowed ≤ s.now then
          { s with pending := none, stage := .checking item }
        else s
  | .checking item =>
    { s with stage := if (s.publishers item.publisher).active then .preparing item else .pausing }
  | .preparing item =>
    let publisher := s.publishers item.publisher
    if publisher.stopped then { s with stage := .pausing }
    else
      { s.setPublisher item.publisher publisher.prepare with
        stage := .building item publisher.prepare.sequence }
  | .building item n => { s with stage := if built then .rechecking item n else .pausing }
  | .rechecking item n =>
    { s with stage := if (s.publishers item.publisher).active then .sending item n else .pausing }
  | .sending item n =>
    { s with posts := s.posts ++ [⟨item, n, s.now⟩], stage := .posted item.publisher }
  | .posted p =>
    { s with stage := if ∃ code ∈ status, code ∈ refusals then .refused p else .pausing }
  | .refused p =>
    { s.setPublisher p (s.publishers p).stopFromWorker with stage := .pausing }
  | .pausing => { s with nextAllowed := s.now + interval, stage := .waiting }
  | .ended => s

/-! ## Calls -/

inductive Call
  | submit (publisher : ℕ) (event : Report)
  | stop (publisher : ℕ)

/-- The locked regions of `submit` and `stop`. -/
inductive Region
  | accept (publisher : ℕ) (event : Report)
  | handOver (item : Item)
  | stop (publisher : ℕ)
  | invalidate (publisher : ℕ)

def handler : Call → List Region
  | .submit p event => [.accept p event]
  | .stop p => [.stop p, .invalidate p]

def exec : Region → Service → Service × Next Region Unit
  | .accept p event, s =>
    match event.update with
    | none => (s, .answer ())
    | some u =>
      let publisher := s.publishers p
      if publisher.stopped then (s, .answer ())
      else
        (s.setPublisher p { publisher with lastPhase := some u.phase },
          .proceed [.handOver ⟨p, u, publisher.lastPhase ≠ some u.phase⟩])
  | .handOver item, s =>
    if s.shutdown then (s, .answer ())
    else
      ({ s with
        pending := some (item.replacing s.pending)
        submitted := s.submitted ++ [item] }, .answer ())
  | .stop p, s => (s.setPublisher p (s.publishers p).stopFromWorker, .proceed [])
  | .invalidate p, s =>
    ({ s with pending := s.pending.filter fun i => i.publisher ≠ p }, .answer ())

/-- What happens beside the calls. -/
inductive Change
  | worker (built : Bool) (status : Option ℕ)
  | tick (seconds : ℚ≥0)
  | shutdown

def environment : Change → Service → Service
  | .worker built status, s => workerStep built status s
  | .tick seconds, s => { s with now := s.now + seconds }
  | .shutdown, s => { s with pending := none, shutdown := true }

def machine : Machine Service Call Region Change Unit := ⟨handler, exec, environment⟩

/-- Nothing has happened yet. -/
def newService : Service := ⟨fun _ => {}, none, false, .waiting, 0, 0, [], []⟩

/-! ## In order -/

namespace Stage

/-- The item that the worker has in hand. -/
def item : Stage → Option Item
  | .checking i | .preparing i | .building i _ | .rechecking i _ | .sending i _ => some i
  | _ => none

/-- The item with its sequence number, once it has one. -/
def numbered : Stage → Option (Item × ℕ)
  | .building i n | .rechecking i n | .sending i n => some (i, n)
  | _ => none

end Stage

/-- What was sent, what the worker has in hand and what waits. -/
def Service.held (s : Service) : List Item :=
  s.posts.map (·.item) ++ (s.stage.item.toList ++ s.pending.toList)

/-- The items come from what was handed over, in this order, and the urgency of each does. -/
structure Delivers (held submitted : List Item) : Prop where
  content : (held.map Item.content).Sublist (submitted.map Item.content)
  urgent : ∀ p, held.countP (Item.urgentFor p) ≤ submitted.countP (Item.urgentFor p)

namespace Delivers

variable {held submitted : List Item}

theorem fewer (h : Delivers held submitted) {held' : List Item} (fewer : held'.Sublist held) :
    Delivers held' submitted :=
  ⟨(fewer.map _).trans h.content, fun p => fewer.countP_le.trans (h.urgent p)⟩

theorem handOver {pending : Option Item} (h : Delivers (held ++ pending.toList) submitted)
    (item : Item) : Delivers (held ++ [item.replacing pending]) (submitted ++ [item]) := by
  constructor
  · have sent := (h.fewer (List.sublist_append_left ..)).content
    simpa [Item.content, Item.replacing] using sent.append_right [item.content]
  · intro p
    have le := h.urgent p
    simp only [List.countP_append, List.countP_singleton] at le ⊢
    split
    · next urgent =>
      rcases Item.urgentFor_replacing urgent with new | waiting
      · rw [if_pos new]
        omega
      · have waits := List.countP_pos_iff.mpr waiting
        omega
    · omega

end Delivers

structure Orderly (s : Service) : Prop where
  delivers : Delivers s.held s.submitted
  increasing : s.posts.Pairwise fun a b =>
    a.item.publisher = b.item.publisher → a.sequence < b.sequence
  counted : ∀ post ∈ s.posts, post.sequence ≤ (s.publishers post.item.publisher).sequence
  numbered : ∀ item n, s.stage.numbered = some (item, n) →
    n ≤ (s.publishers item.publisher).sequence ∧
    ∀ post ∈ s.posts, post.item.publisher = item.publisher → post.sequence < n
  apart : s.posts.Pairwise fun a b => b.item.urgent ∨ a.time + interval ≤ b.time
  past : ∀ post ∈ s.posts, post.time ≤ s.now
  allowed : s.stage = .waiting → ∀ post ∈ s.posts, post.time + interval ≤ s.nextAllowed
  due : ∀ item, s.stage.item = some item →
    item.urgent ∨ ∀ post ∈ s.posts, post.time + interval ≤ s.now

theorem newService_orderly : Orderly newService := by
  refine ⟨⟨?_, ?_⟩, ?_, ?_, ?_, ?_, ?_, ?_, ?_⟩ <;>
    simp [newService, Service.held, Stage.item, Stage.numbered]

namespace Orderly

variable {s : Service}

theorem setPublisher (h : Orderly s) {p : ℕ} {publisher : Publisher}
    (grows : (s.publishers p).sequence ≤ publisher.sequence) :
    Orderly (s.setPublisher p publisher) := by
  have le (q : ℕ) : (s.publishers q).sequence ≤
      ((s.setPublisher p publisher).publishers q).sequence := by
    by_cases same : q = p
    · subst same
      simpa [Service.setPublisher] using grows
    · simp [Service.setPublisher, same]
  exact { h with
    counted := fun post mem => (h.counted post mem).trans (le _)
    numbered := fun item n at_ =>
      (h.numbered item n at_).imp_left fun reached => reached.trans (le _) }

/-- The worker goes on with its item, or leaves it. -/
theorem goes (h : Orderly s) {stage : Stage}
    (item : ∀ i, stage.item = some i → s.stage.item = some i)
    (numbered : ∀ x, stage.numbered = some x → s.stage.numbered = some x)
    (later : stage ≠ .waiting) : Orderly { s with stage } := by
  refine { h with
    delivers := h.delivers.fewer ?_
    numbered := fun i n at_ => h.numbered i n (numbered _ at_)
    allowed := fun waiting => absurd waiting later
    due := fun i at_ => h.due i (item i at_) }
  refine .append_left (.append_right ?_ _) _
  cases at_ : stage.item with
  | none => exact List.nil_sublist _
  | some i => rw [item i at_]

theorem idle (h : Orderly s) {stage : Stage} (item : stage.item = none)
    (numbered : stage.numbered = none) (later : stage ≠ .waiting) : Orderly { s with stage } :=
  h.goes (by simp [item]) (by simp [numbered]) later

theorem handOver (h : Orderly s) (item : Item) :
    Orderly { s with
      pending := some (item.replacing s.pending), submitted := s.submitted ++ [item] } := by
  have delivers := h.delivers
  rw [Service.held, ← List.append_assoc] at delivers
  have handed := delivers.handOver item
  rw [List.append_assoc] at handed
  exact { h with delivers := handed }

theorem dropPending (h : Orderly s) {pending : Option Item}
    (fewer : pending.toList.Sublist s.pending.toList) : Orderly { s with pending } :=
  { h with delivers := h.delivers.fewer (.append_left (.append_left fewer _) _) }

/-- The worker takes what waits. -/
theorem take (h : Orderly s) {item : Item} (waits : s.pending = some item)
    (waiting : s.stage = .waiting) (due : item.urgent ∨ s.nextAllowed ≤ s.now) :
    Orderly { s with pending := none, stage := .checking item } := by
  refine { h with
    delivers := ?_
    numbered := by simp [Stage.numbered]
    allowed := by simp
    due := ?_ }
  · simpa [Service.held, waits, waiting, Stage.item] using h.delivers
  · rintro _ ⟨⟩
    exact due.imp_right fun passed post mem => (h.allowed waiting post mem).trans passed

theorem number (h : Orderly s) {item : Item} (at_ : s.stage = .preparing item)
    {publisher : Publisher} (of : s.publishers item.publisher = publisher) :
    Orderly { s.setPublisher item.publisher publisher.prepare with
      stage := .building item publisher.prepare.sequence } := by
  have counted : Orderly (s.setPublisher item.publisher publisher.prepare) :=
    h.setPublisher (of ▸ Nat.le_succ _)
  have same : (Stage.building item publisher.prepare.sequence).item = s.stage.item := by
    rw [at_]
    rfl
  refine { counted with
    delivers := ?_
    numbered := ?_
    allowed := by simp
    due := fun i is => h.due i (same ▸ is) }
  · have delivers := h.delivers
    unfold Service.held at delivers
    rwa [← same] at delivers
  · rintro _ _ ⟨⟩
    refine ⟨by simp [Service.setPublisher], fun post mem named => ?_⟩
    have reached := h.counted post mem
    rw [named, of] at reached
    exact Nat.lt_succ_of_le reached

theorem send (h : Orderly s) {item : Item} {n : ℕ} (at_ : s.stage = .sending item n) :
    Orderly { s with
      posts := s.posts ++ [⟨item, n, s.now⟩], stage := .posted item.publisher } := by
  obtain ⟨reached, before⟩ := h.numbered item n (by simp [at_, Stage.numbered])
  have due := h.due item (by simp [at_, Stage.item])
  have last {R : Post → Post → Prop} (apart : s.posts.Pairwise R)
      (new : ∀ post ∈ s.posts, R post ⟨item, n, s.now⟩) :
      List.Pairwise R (s.posts ++ [⟨item, n, s.now⟩]) :=
    List.pairwise_append.mpr ⟨apart, List.pairwise_singleton R _, by simpa using new⟩
  constructor
  · simpa [Service.held, at_, Stage.item] using h.delivers
  · exact last h.increasing before
  · simpa [or_imp, forall_and] using And.intro h.counted reached
  · simp [Stage.numbered]
  · exact last h.apart fun post mem => due.imp_right fun passed => passed post mem
  · simpa [or_imp, forall_and] using h.past
  · simp
  · simp [Stage.item]

/-- The pause begins. -/
theorem pause (h : Orderly s) (at_ : s.stage = .pausing) :
    Orderly { s with nextAllowed := s.now + interval, stage := .waiting } := by
  refine { h with
    delivers := ?_
    numbered := by simp [Stage.numbered]
    allowed := fun _ post mem => by linarith [h.past post mem]
    due := by simp [Stage.item] }
  simpa [Service.held, at_, Stage.item] using h.delivers

theorem workerStep (h : Orderly s) (built : Bool) (status : Option ℕ) :
    Orderly (workerStep built status s) := by
  unfold ProgressService.workerStep
  split
  · next waiting =>
    split
    · exact h.idle rfl rfl (by simp)
    · split
      · exact h
      · next waits =>
        split
        · next due => exact h.take waits waiting due
        · exact h
  · next at_ =>
    split
    · exact h.goes (by simp [at_, Stage.item]) (by simp [Stage.numbered]) (by simp)
    · exact h.idle rfl rfl (by simp)
  · next at_ =>
    dsimp only
    split
    · exact h.idle rfl rfl (by simp)
    · exact h.number at_ rfl
  · next at_ =>
    split
    · exact h.goes (by simp [at_, Stage.item]) (by simp [at_, Stage.numbered]) (by simp)
    · exact h.idle rfl rfl (by simp)
  · next at_ =>
    split
    · exact h.goes (by simp [at_, Stage.item]) (by simp [at_, Stage.numbered]) (by simp)
    · exact h.idle rfl rfl (by simp)
  · next at_ => exact h.send at_
  · split
    · exact h.idle rfl rfl (by simp)
    · exact h.idle rfl rfl (by simp)
  · next p _ =>
    have stopped : Orderly (s.setPublisher p (s.publishers p).stopFromWorker) :=
      h.setPublisher (Nat.le_refl _)
    exact stopped.idle rfl rfl (by simp)
  · next at_ => exact h.pause at_
  · exact h

theorem exec (h : Orderly s) (t : Region) : Orderly (exec t s).1 := by
  cases t with
  | accept p event =>
    simp only [ProgressService.exec]
    split
    · exact h
    · split
      · exact h
      · exact h.setPublisher (Nat.le_refl _)
  | handOver item =>
    simp only [ProgressService.exec]
    split
    · exact h
    · exact h.handOver item
  | stop p => exact h.setPublisher (Nat.le_refl _)
  | invalidate p =>
    refine h.dropPending ?_
    cases s.pending with
    | none => simp
    | some i => by_cases other : i.publisher ≠ p <;> simp [Option.filter, other]

theorem environment (h : Orderly s) (e : Change) : Orderly (environment e s) := by
  cases e with
  | worker built status => exact h.workerStep built status
  | tick seconds =>
    have later : s.now ≤ s.now + seconds := le_add_of_nonneg_right seconds.2
    exact { h with
      past := fun post mem => (h.past post mem).trans later
      due := fun item at_ => (h.due item at_).imp_right fun passed post mem =>
        (passed post mem).trans later }
  | shutdown =>
    have dropped : Orderly { s with pending := none } := h.dropPending (List.nil_sublist _)
    exact { dropped with }

end Orderly

/-- In every run the updates are sent in the order in which they were handed over, those of a
publisher with increasing sequence numbers; an update is sent less than an interval after another
only if it is urgent, and for a publisher no more urgent ones are sent than were handed over. -/
theorem updates_in_order (evs : List (Event Call Change)) :
    let s := (machine.runs evs ⟨newService, []⟩).shared
    (s.posts.map (·.item.content)).Sublist (s.submitted.map Item.content) ∧
      (s.posts.Pairwise fun a b =>
        a.item.publisher = b.item.publisher → a.sequence < b.sequence) ∧
      (s.posts.Pairwise fun a b => b.item.urgent ∨ a.time + interval ≤ b.time) ∧
      ∀ p, s.posts.countP (·.item.urgentFor p) ≤ s.submitted.countP (Item.urgentFor p) := by
  intro s
  have orderly : Orderly s := machine.invariant_runs
    (J := fun x => Orderly x.shared)
    (fun _ _ h => machine.shared_step (fun e _ h => h.environment e) (fun t _ h => h.exec t) h) evs
    newService_orderly
  have sent : Delivers (s.posts.map (·.item)) s.submitted :=
    orderly.delivers.fewer (List.sublist_append_left ..)
  refine ⟨?_, orderly.increasing, orderly.apart, fun p => ?_⟩
  · simpa [Function.comp_def] using sent.content
  · simpa [List.countP_map, Function.comp_def] using sent.urgent p

/-! ## Silence -/

/-- The publisher was stopped, or its last update was refused. -/
def Service.Ended (p : ℕ) (s : Service) : Prop :=
  (s.publishers p).active = false ∨ s.stage = .refused p

/-- The worker is past its last check of the publisher. -/
def Stage.sends (p : ℕ) : Stage → Bool
  | .sending item _ => item.publisher = p
  | _ => false

def Service.postsOf (p : ℕ) (s : Service) : ℕ := s.posts.countP (·.item.publisher = p)

/-- What was sent for the publisher, and what is past the last check. -/
def Service.committed (p : ℕ) (s : Service) : ℕ := s.postsOf p + (s.stage.sends p).toNat

/-- An ended publisher stays so, and nothing more of it passes the check. -/
structure Silenced (p : ℕ) (s s' : Service) : Prop where
  ended : s'.Ended p
  committed : s'.committed p ≤ s.committed p

namespace Silenced

variable {s : Service} {p : ℕ}

/-- Nothing is past the last check. -/
theorem quiet {s' : Service} (ended : s'.Ended p) (posts : s'.posts = s.posts)
    (sends : s'.stage.sends p = false) : Silenced p s s' where
  ended := ended
  committed := by simp [Service.committed, Service.postsOf, posts, sends]

theorem goes (ended : s.Ended p) (refused : s.stage ≠ .refused p) {stage : Stage}
    (sends : stage.sends p = false) : Silenced p s { s with stage } :=
  quiet (.inl (ended.resolve_right refused)) rfl sends

theorem setPublisher (ended : s.Ended p) {q : ℕ} {publisher : Publisher}
    (stays : (s.publishers q).active = false → publisher.active = false) :
    Silenced p s (s.setPublisher q publisher) where
  ended := by
    refine ended.imp_left fun inactive => ?_
    by_cases same : p = q
    · subst same
      simpa [Service.setPublisher] using stays inactive
    · simpa [Service.setPublisher, same] using inactive
  committed := Nat.le_refl _

theorem workerStep (ended : s.Ended p) (built : Bool) (status : Option ℕ) :
    Silenced p s (workerStep built status s) := by
  have same : Silenced p s s := ⟨ended, Nat.le_refl _⟩
  unfold ProgressService.workerStep
  split
  · next waiting =>
    have apart : s.stage ≠ .refused p := by simp [waiting]
    split
    · exact goes ended apart rfl
    · split
      · exact same
      · split
        · exact quiet (.inl (ended.resolve_right apart)) rfl rfl
        · exact same
  · next at_ => exact goes ended (by simp [at_]) (by split <;> rfl)
  · next item at_ =>
    have apart : s.stage ≠ .refused p := by simp [at_]
    dsimp only
    split
    · exact goes ended apart rfl
    · have numbered : Silenced p s
          (s.setPublisher item.publisher (s.publishers item.publisher).prepare) :=
        setPublisher ended id
      exact quiet (.inl (numbered.ended.resolve_right apart)) rfl rfl
  · next at_ => exact goes ended (by simp [at_]) (by split <;> rfl)
  · next item n at_ =>
    have apart : s.stage ≠ .refused p := by simp [at_]
    split
    · next active =>
      -- an ended publisher is not active
      refine goes ended apart ?_
      have other : item.publisher ≠ p := by
        rintro rfl
        rw [ended.resolve_right apart] at active
        cases active
      simpa [Stage.sends] using other
    · exact goes ended apart rfl
  · next item n at_ =>
    refine ⟨.inl (ended.resolve_right (by simp [at_])), ?_⟩
    by_cases own : item.publisher = p <;>
      simp [Service.committed, Service.postsOf, at_, Stage.sends, List.countP_append, own]
  · next at_ => exact goes ended (by simp [at_]) (by split <;> rfl)
  · next q at_ =>
    refine quiet (.inl ?_) rfl rfl
    by_cases own : p = q
    · simp [Service.setPublisher, own, Publisher.stopFromWorker]
    · have apart : s.stage ≠ .refused p := by simpa [at_] using Ne.symm own
      simpa [Service.setPublisher, own] using ended.resolve_right apart
  · next at_ => exact quiet (.inl (ended.resolve_right (by simp [at_]))) rfl rfl
  · exact same

theorem exec (ended : s.Ended p) (t : Region) : Silenced p s (exec t s).1 := by
  have same : Silenced p s s := ⟨ended, Nat.le_refl _⟩
  cases t with
  | accept q event =>
    simp only [ProgressService.exec]
    split
    · exact same
    · split
      · exact same
      · exact setPublisher ended id
  | handOver item =>
    simp only [ProgressService.exec]
    split <;> exact ⟨ended, Nat.le_refl _⟩
  | stop q => exact setPublisher ended fun _ => rfl
  | invalidate q => exact ⟨ended, Nat.le_refl _⟩

theorem environment (ended : s.Ended p) (e : Change) : Silenced p s (environment e s) := by
  cases e with
  | worker built status => exact workerStep ended built status
  | tick | shutdown => exact ⟨ended, Nat.le_refl _⟩

end Silenced

/-- Once a publisher has ended, at most one request is sent for it, and none unless the worker was
past the last check. -/
theorem silent_after_stop {s : System Service Region} {p : ℕ} (ended : s.shared.Ended p)
    (evs : List (Event Call Change)) :
    let s' := (machine.runs evs s).shared
    s'.postsOf p ≤ s.shared.postsOf p + (s.shared.stage.sends p).toNat := by
  intro s'
  let I (x : Service) : Prop := x.Ended p ∧ x.committed p ≤ s.shared.committed p
  have keeps {x x' : Service} (h : I x) (step : Silenced p x x') : I x' :=
    ⟨step.ended, step.committed.trans h.2⟩
  have silenced : I s' := machine.invariant_runs
    (J := fun x => I x.shared)
    (fun _ _ h => machine.shared_step (fun e _ h => keeps h (.environment h.1 e))
      (fun t _ h => keeps h (.exec h.1 t)) h) evs ⟨ended, Nat.le_refl _⟩
  exact (Nat.le_add_right ..).trans silenced.2

/-! ## A stop at the last moment -/

def sampleReport : Report :=
  ⟨.text "prefill", some (.int 10), some (.int 2), some (.int 4), none, some (.int 300)⟩

/-- The worker is past its last check of the update when the publisher is stopped. -/
def stoppedLate : System Service Region :=
  machine.runs
    ([.spawn (.submit 0 sampleReport), .run 0, .run 0] ++
      List.replicate 5 (.environment (.worker true none)) ++ [.spawn (.stop 0), .run 1])
    ⟨newService, []⟩

theorem silent_after_stop_sample :
    stoppedLate.shared.Ended 0 ∧ stoppedLate.shared.postsOf 0 = 0 ∧
      (machine.runs [.environment (.worker true none)] stoppedLate).shared.postsOf 0 = 1 ∧
      (machine.runs [.environment (.worker true none)] stoppedLate).shared.postsOf 0 ≤
        stoppedLate.shared.postsOf 0 + (stoppedLate.shared.stage.sends 0).toNat := by
  have ended : stoppedLate.shared.Ended 0 := .inl (by decide +kernel)
  exact ⟨ended, by decide +kernel, by decide +kernel, silent_after_stop ended _⟩

end ProgressService
