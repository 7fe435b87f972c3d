import TokenPlace.Browser.RelayRequests

/-!
# The life of a request of the chat page

What holds in every run of the page, whatever the relay answers and whenever the page is hidden, as
long as no request id is drawn twice:
* a request is cancelled at most once, its deadline never increases, its progress increases, and
  after the page has ended it none of it and no response is used (`Ordered`);
* an event clears and cancels no other request than its own (`OwnOnly`);
* a request that the relay has taken and that ends is `Settled` if and only if the reply to its
  dispatch came without an error (`request_lifecycle`). The active request is set only then, so a
  lost reply leaves nothing to cancel (`lost_reply_uncancelled`).

`Ledger` ties the log to the objects of the requests, `Held` says what holds where the call awaits,
and `Sound` is the invariant.
-/

namespace RelayRequests

/-! ## What is read off the log -/

/-- One effect after an earlier one. -/
structure Ordered (later earlier : Effect) : Prop where
  once : ∀ p q, later = .cancelled p → earlier = .cancelled q →
    p.request.requestId ≠ q.request.requestId
  falls : ∀ id ms ms', later = .deadline id ms → earlier = .deadline id ms' → ms ≤ ms'
  rises : ∀ id n n', later = .progressed id n → earlier = .progressed id n' → n' < n
  silent : ∀ id, earlier = .terminated id → (∀ n, later ≠ .progressed id n) ∧ later ≠ .responded id

/-- A response was retrieved, the relay said that the request is over, or its cancellation was
attempted. -/
def Settled (request : RelayRequest) (log : List Effect) : Prop :=
  .retrieved request.requestId ∈ log ∨ .confirmedTerminal request.requestId ∈ log ∨
    ∃ reason, .cancelled ⟨request, "cancelled", reason⟩ ∈ log

/-- The call has returned, or the page has ended the request. -/
def Ended (request : RelayRequest) (log : List Effect) : Prop :=
  (∃ reply, .returned request.requestId reply ∈ log) ∨ .terminated request.requestId ∈ log

/-- The dispatch is answered, with a status that is no error. -/
def Answered (status : Option Nat) : Prop := status.any isOk = true

/-- No request id is drawn twice. -/
def FreshDraw : Event → Page → Prop
  | .resume (.selected request _) _, page => request.requestId ∉ page.drawn
  | _, _ => True

/-- The request that an event is about. -/
def Event.requestId (page : Page) : Event → Option String
  | .send | .cancellationAnswered _ _ => none
  | .resume _ _ => page.thread.request.map (·.requestId)
  | .pageHide => page.activeRelayRequest.map fun ref => (page.requests ref).requestId
  | .hiddenSettled i => (page.hidden[i]?).bind (·.requestId)

/-- An event clears and cancels no other request than its own. -/
structure OwnOnly (event : Event) (page : Page) : Prop where
  cleared : ∀ ref, page.activeRelayRequest = some ref →
    (step event page).activeRelayRequest ≠ some ref →
    event.requestId page = some (page.requests ref).requestId
  cancelled : ∀ post, .cancelled post ∈ (step event page).log → .cancelled post ∉ page.log →
    event.requestId page = some post.request.requestId

/-! ## Objects and the log -/

section Ledger

variable {requests requests' : Nat → ActiveRelayRequest} {created : Nat} {drawn : List String}
  {log : List Effect} {e : Effect}

/-- An object keeps its request, and its marks stay. -/
structure Keeps (a b : ActiveRelayRequest) : Prop where
  same : b.toRelayRequest = a.toRelayRequest
  attempted : a.cancellationAttempted = true → b.cancellationAttempted = true
  terminated : a.terminated = true → b.terminated = true
  sequence : a.lastProgressSequence ≤ b.lastProgressSequence

theorem Keeps.refl (a : ActiveRelayRequest) : Keeps a a := ⟨rfl, id, id, le_rfl⟩

theorem Keeps.id {a b : ActiveRelayRequest} (keeps : Keeps a b) : b.requestId = a.requestId :=
  congrArg RelayRequest.requestId keeps.same

theorem keeps_update {ref : Nat} {x : ActiveRelayRequest} (keeps : Keeps (requests ref) x)
    (r : Nat) : Keeps (requests r) (Function.update requests ref x r) := by
  rcases eq_or_ne r ref with rfl | other
  · rwa [Function.update_self]
  · rw [Function.update_of_ne other]
    exact .refl _

/-- What an effect says of the objects. -/
def Known (requests : Nat → ActiveRelayRequest) (created : Nat) : Effect → Prop
  | .dispatched request _ status =>
    (Answered status → ∃ r < created, (requests r).toRelayRequest = request) ∧
      (¬ Answered status → ∀ r < created, (requests r).requestId ≠ request.requestId)
  | .progressed id n =>
    ∃ r < created, (requests r).requestId = id ∧ n ≤ (requests r).lastProgressSequence
  | .terminated id => ∃ r < created, (requests r).requestId = id ∧ (requests r).terminated = true
  | .cancelled post =>
    ∃ r < created, (requests r).toRelayRequest = post.request ∧
      (requests r).cancellationAttempted = true
  | .retrieved id | .confirmedTerminal id => ∃ r < created, (requests r).requestId = id
  | .deadline _ _ | .responded _ | .returned _ _ => True

theorem Known.mono (keeps : ∀ r, Keeps (requests r) (requests' r))
    (known : Known requests created e) : Known requests' created e := by
  cases e with
  | dispatched request admitted status =>
    refine ⟨fun answered => ?_, fun lost r small => ?_⟩
    · obtain ⟨r, small, same⟩ := known.1 answered
      exact ⟨r, small, (keeps r).same.trans same⟩
    · exact (keeps r).id ▸ known.2 lost r small
  | progressed id n =>
    obtain ⟨r, small, same, le⟩ := known
    exact ⟨r, small, (keeps r).id.trans same, le.trans (keeps r).sequence⟩
  | terminated id =>
    obtain ⟨r, small, same, terminated⟩ := known
    exact ⟨r, small, (keeps r).id.trans same, (keeps r).terminated terminated⟩
  | cancelled post =>
    obtain ⟨r, small, same, attempted⟩ := known
    exact ⟨r, small, (keeps r).same.trans same, (keeps r).attempted attempted⟩
  | retrieved id | confirmedTerminal id =>
    obtain ⟨r, small, same⟩ := known
    exact ⟨r, small, (keeps r).id.trans same⟩
  | deadline | responded | returned => trivial

/-- What the log and the objects know of each other. -/
structure Ledger (requests : Nat → ActiveRelayRequest) (created : Nat) (drawn : List String)
    (log : List Effect) : Prop where
  distinct : ∀ r < created, ∀ s < created, (requests r).requestId = (requests s).requestId → r = s
  owned : ∀ r < created, (requests r).requestId ∈ drawn
  logged : ∀ e ∈ log, e.requestId ∈ drawn
  known : ∀ e ∈ log, Known requests created e
  cancelled : ∀ r < created, (requests r).cancellationAttempted = true →
    ∃ reason, .cancelled ⟨(requests r).toRelayRequest, "cancelled", reason⟩ ∈ log
  ordered : log.Pairwise Ordered

theorem Ledger.write (ledger : Ledger requests created drawn log)
    (keeps : ∀ r, Keeps (requests r) (requests' r)) (logged : e.requestId ∈ drawn)
    (known : Known requests' created e) (ordered : ∀ earlier ∈ log, Ordered e earlier)
    (cancelled : ∀ r < created, (requests' r).cancellationAttempted = true →
      (requests r).cancellationAttempted = true ∨
        ∃ reason, e = .cancelled ⟨(requests r).toRelayRequest, "cancelled", reason⟩) :
    Ledger requests' created drawn (e :: log) where
  distinct r small s small' same :=
    ledger.distinct r small s small' (by rwa [(keeps r).id, (keeps s).id] at same)
  owned r small := (keeps r).id ▸ ledger.owned r small
  logged := List.forall_mem_cons.mpr ⟨logged, ledger.logged⟩
  known := List.forall_mem_cons.mpr
    ⟨known, fun earlier member => (ledger.known earlier member).mono keeps⟩
  cancelled r small attempted := by
    rw [(keeps r).same]
    rcases cancelled r small attempted with before | ⟨reason, rfl⟩
    · obtain ⟨reason, member⟩ := ledger.cancelled r small before
      exact ⟨reason, List.mem_cons_of_mem _ member⟩
    · exact ⟨reason, List.mem_cons_self⟩
  ordered := List.pairwise_cons.mpr ⟨ordered, ledger.ordered⟩

theorem Ledger.note (ledger : Ledger requests created drawn log) (logged : e.requestId ∈ drawn)
    (known : Known requests created e) (ordered : ∀ earlier ∈ log, Ordered e earlier) :
    Ledger requests created drawn (e :: log) :=
  ledger.write (fun _ => .refl _) logged known ordered fun _ _ attempted => .inl attempted

theorem Ledger.keep (ledger : Ledger requests created drawn log)
    (keeps : ∀ r, Keeps (requests r) (requests' r))
    (cancelled : ∀ r < created, (requests' r).cancellationAttempted = true →
      (requests r).cancellationAttempted = true) :
    Ledger requests' created drawn log where
  distinct r small s small' same :=
    ledger.distinct r small s small' (by rwa [(keeps r).id, (keeps s).id] at same)
  owned r small := (keeps r).id ▸ ledger.owned r small
  logged := ledger.logged
  known earlier member := (ledger.known earlier member).mono keeps
  cancelled r small attempted := by
    rw [(keeps r).same]
    exact ledger.cancelled r small (cancelled r small attempted)
  ordered := ledger.ordered

/-- Effects that may come after any other. -/
def Effect.Plain : Effect → Prop
  | .dispatched _ _ _ | .terminated _ | .retrieved _ | .confirmedTerminal _ | .returned _ _ => True
  | _ => False

theorem Effect.Plain.ordered (plain : e.Plain) (earlier : Effect) : Ordered e earlier := by
  cases e <;> first | exact plain.elim | constructor <;> simp

theorem Ledger.attempted_of_cancelled (ledger : Ledger requests created drawn log) {ref : Nat}
    (small : ref < created) {post : CancelPost} (member : .cancelled post ∈ log)
    (same : post.request.requestId = (requests ref).requestId) :
    (requests ref).cancellationAttempted = true := by
  obtain ⟨r, small', same', attempted⟩ := ledger.known _ member
  rw [← same'] at same
  exact ledger.distinct r small' ref small same ▸ attempted

theorem Ledger.terminated_of_log (ledger : Ledger requests created drawn log) {ref : Nat}
    (small : ref < created) (member : .terminated (requests ref).requestId ∈ log) :
    (requests ref).terminated = true := by
  obtain ⟨r, small', same, terminated⟩ := ledger.known _ member
  exact ledger.distinct r small' ref small same ▸ terminated

end Ledger

/-! ## The page between two steps -/

/-- The deadline up to which the retrieval waits. -/
def Await.deadline : Await → Option ℚ
  | polling deadline | pending deadline | applying deadline _ | delaying deadline => some deadline
  | refusal _ | body | cancelling _ _ _ => none

/-- The call waits for the relay: its request is the active one, or the page has ended it. -/
structure Waits (page : Page) (request : RelayRequest) (ref : Nat) : Prop where
  created : ref < page.created
  same : (page.requests ref).toRelayRequest = request
  slot : (page.activeRelayRequest = some ref ∧ (page.requests ref).terminated = false) ∨
    (page.activeRelayRequest = none ∧ (page.requests ref).terminated = true)

/-- A request id that only the call knows. -/
structure Unsent (page : Page) (request : RelayRequest) : Prop where
  drawn : request.requestId ∈ page.drawn
  objects : ∀ r < page.created, (page.requests r).requestId ≠ request.requestId
  log : ∀ e ∈ page.log, e.requestId ≠ request.requestId

/-- What holds where the call awaits. -/
def Held (page : Page) : Thread → Prop
  | .idle | .selecting => page.activeRelayRequest = none
  | .encrypting request | .dispatching request =>
    page.activeRelayRequest = none ∧ Unsent page request
  | .refused request _ => page.activeRelayRequest = none ∧ request.requestId ∈ page.drawn
  | .admitting request ref _ =>
    Waits page request ref ∧ (∀ ms, .deadline request.requestId ms ∉ page.log) ∧
      (page.activeRelayRequest = some ref → (page.requests ref).cancelled = false)
  | .retrieving request ref await =>
    Waits page request ref ∧
      (∀ deadline, await.deadline = some deadline →
        ∀ ms, .deadline request.requestId ms ∈ page.log → deadline ≤ ms) ∧
      (∀ promise message terminal, await = .cancelling promise message terminal →
        (page.requests ref).cancellationAttempted = true)
  | .opening request =>
    page.activeRelayRequest = none ∧ request.requestId ∈ page.drawn ∧
      .terminated request.requestId ∉ page.log

/-- The invariant. -/
structure Sound (page : Page) : Prop where
  ledger : Ledger page.requests page.created page.drawn page.log
  stopped : ∀ r < page.created, (page.requests r).terminated = true →
    (page.requests r).cancellationAttempted = true
  held : Held page page.thread
  unreturned : ∀ request, page.thread.request = some request →
    ∀ reply, .returned request.requestId reply ∉ page.log
  settled : ∀ request admitted status, .dispatched request admitted status ∈ page.log →
    Answered status → Settled request page.log ∨ page.thread.waiting = some request
  hidden : ∀ clear ∈ page.hidden, ∀ id, clear.requestId = some id → .terminated id ∈ page.log

theorem sound_start : Sound .start where
  ledger := ⟨nofun, nofun, nofun, nofun, nofun, .nil⟩
  stopped := nofun
  held := rfl
  unreturned := nofun
  settled := nofun
  hidden := nofun

/-- The invariant stays, and what is newly cancelled is the active request. -/
structure Goes (page page' : Page) : Prop where
  sound : Sound page'
  cancels : ∀ post, .cancelled post ∈ page'.log → .cancelled post ∉ page.log →
    ∃ ref, page.activeRelayRequest = some ref ∧ (page.requests ref).toRelayRequest = post.request

theorem Sound.stays {page : Page} (sound : Sound page) : Goes page page :=
  ⟨sound, fun _ member new => absurd member new⟩

section Goes

variable {page page' page'' : Page} {request : RelayRequest} {ref : Nat}

theorem Goes.trans (first : Goes page page')
    (active : page'.activeRelayRequest = page.activeRelayRequest)
    (same : ∀ r, (page'.requests r).toRelayRequest = (page.requests r).toRelayRequest)
    (second : Goes page' page'') : Goes page page'' where
  sound := second.sound
  cancels post member new := by
    by_cases before : .cancelled post ∈ page'.log
    · exact first.cancels post before new
    · obtain ⟨ref, isActive, is⟩ := second.cancels post member before
      exact ⟨ref, active ▸ isActive, same ref ▸ is⟩

/-- What may join the log in a step after the dispatch. -/
def Added (page page' : Page) : Effect → Prop
  | .dispatched _ _ status => ¬ Answered status
  | .returned id _ => ∀ request, page'.thread.request = some request → request.requestId ≠ id
  | .cancelled post => ∃ ref, page.activeRelayRequest = some ref ∧
    (page.requests ref).toRelayRequest = post.request
  | _ => True

/-- A step after which the call has the same request or none. -/
theorem Sound.next (sound : Sound page)
    (ledger : Ledger page'.requests page'.created page'.drawn page'.log)
    (stopped : ∀ r < page'.created, (page'.requests r).terminated = true →
      (page'.requests r).cancellationAttempted = true)
    (held : Held page' page'.thread)
    (hidden : ∀ clear ∈ page'.hidden, clear ∈ page.hidden ∨
      ∀ id, clear.requestId = some id → .terminated id ∈ page'.log)
    (grown : ∀ e ∈ page.log, e ∈ page'.log)
    (added : ∀ e ∈ page'.log, e ∈ page.log ∨ Added page page' e)
    (request : ∀ request, page'.thread.request = some request → page.thread.request = some request)
    (settles : ∀ request, page.thread.waiting = some request →
      page'.thread.waiting = some request ∨ Settled request page'.log) :
    Goes page page' where
  sound := {
    ledger := ledger
    stopped := stopped
    held := held
    unreturned := by
      intro r isRequest reply member
      rcases added _ member with before | new
      · exact sound.unreturned r (request r isRequest) reply before
      · exact new r isRequest rfl
    settled := by
      intro r admitted status member answered
      rcases added _ member with before | new
      · rcases sound.settled r admitted status before answered with settled | waiting
        · refine .inl (settled.imp (grown _) (Or.imp (grown _) ?_))
          exact fun ⟨reason, among⟩ => ⟨reason, grown _ among⟩
        · exact (settles r waiting).symm
      · exact absurd answered new
    hidden := by
      intro clear among id is
      rcases hidden clear among with before | new
      · exact grown _ (sound.hidden clear before id is)
      · exact new id is }
  cancels post member new := (added _ member).resolve_left new

theorem Sound.id_drawn (sound : Sound page) (waits : Waits page request ref) :
    request.requestId ∈ page.drawn :=
  waits.same ▸ sound.ledger.owned ref waits.created

theorem Sound.settled_of_attempted (sound : Sound page) (waits : Waits page request ref)
    (attempted : (page.requests ref).cancellationAttempted = true) : Settled request page.log :=
  .inr (.inr (waits.same ▸ sound.ledger.cancelled ref waits.created attempted))

theorem Sound.settled_of_terminated (sound : Sound page) (waits : Waits page request ref)
    (terminated : (page.requests ref).terminated = true) : Settled request page.log :=
  sound.settled_of_attempted waits (sound.stopped ref waits.created terminated)

theorem request_of_waiting {thread : Thread} (waiting : thread.waiting = some request) :
    thread.request = some request := by
  cases thread <;> simp_all [Thread.waiting, Thread.request]

/-! ## Operations of the page -/

@[simp] theorem note_requests (e : Effect) : (page.note e).requests = page.requests := rfl

@[simp] theorem update_requests (f : ActiveRelayRequest → ActiveRelayRequest) :
    (page.update ref f).requests = Function.update page.requests ref (f (page.requests ref)) := rfl

@[simp] theorem note_active (e : Effect) :
    (page.note e).activeRelayRequest = page.activeRelayRequest := rfl

@[simp] theorem update_active (f : ActiveRelayRequest → ActiveRelayRequest) :
    (page.update ref f).activeRelayRequest = page.activeRelayRequest := rfl

section Fields

variable (page : Page) (id : Option String)

@[simp] theorem clear_requests : (page.clearActiveRelayRequest id).requests = page.requests := by
  unfold Page.clearActiveRelayRequest
  split <;> rfl

@[simp] theorem clear_created : (page.clearActiveRelayRequest id).created = page.created := by
  unfold Page.clearActiveRelayRequest
  split <;> rfl

@[simp] theorem clear_drawn : (page.clearActiveRelayRequest id).drawn = page.drawn := by
  unfold Page.clearActiveRelayRequest
  split <;> rfl

@[simp] theorem clear_log : (page.clearActiveRelayRequest id).log = page.log := by
  unfold Page.clearActiveRelayRequest
  split <;> rfl

@[simp] theorem clear_hidden : (page.clearActiveRelayRequest id).hidden = page.hidden := by
  unfold Page.clearActiveRelayRequest
  split <;> rfl

@[simp] theorem clear_thread : (page.clearActiveRelayRequest id).thread = page.thread := by
  unfold Page.clearActiveRelayRequest
  split <;> rfl

end Fields

theorem Waits.clear (waits : Waits page request ref) :
    (page.clearActiveRelayRequest request.requestId).activeRelayRequest = none := by
  unfold Page.clearActiveRelayRequest
  rcases waits.slot with ⟨active, -⟩ | ⟨none, -⟩
  · simp [active, ← waits.same]
  · simp [none]

theorem Sound.finish (sound : Sound page) (waits : Waits page request ref)
    (thread : page.thread.request = some request) (settled : Settled request page.log)
    (reply : ChatFailover.Reply) :
    Goes page ((page.clearActiveRelayRequest request.requestId).returns request reply) := by
  refine sound.next ?_ ?_ ?_ ?_ ?_ ?_ nofun ?_
  · simpa [Page.returns, Page.note] using sound.ledger.note (e := .returned request.requestId reply)
      (sound.id_drawn waits) trivial fun earlier _ =>
        Effect.Plain.ordered (e := .returned request.requestId reply) trivial earlier
  · simpa [Page.returns, Page.note] using sound.stopped
  · exact waits.clear
  · exact fun clear member => .inl (by simpa [Page.returns, Page.note] using member)
  · exact fun e member => List.mem_cons_of_mem _ (by simpa using member)
  · intro e member
    rcases List.mem_cons.mp member with rfl | before
    · exact .inr nofun
    · exact .inl (by simpa using before)
  · intro r waiting
    cases Option.some.inj ((request_of_waiting waiting).symm.trans thread)
    refine .inr (settled.imp (List.mem_cons_of_mem _ <| by simpa using ·)
      (Or.imp (List.mem_cons_of_mem _ <| by simpa using ·) ?_))
    exact fun ⟨reason, among⟩ => ⟨reason, List.mem_cons_of_mem _ (by simpa using among)⟩

theorem Sound.moves (sound : Sound page) (waits : Waits page request ref)
    (thread : page.thread.waiting = some request) {await : Await}
    (deadline : ∀ deadline, await.deadline = some deadline →
      ∀ ms, .deadline request.requestId ms ∈ page.log → deadline ≤ ms)
    (cancelling : ∀ promise message terminal, await = .cancelling promise message terminal →
      (page.requests ref).cancellationAttempted = true) :
    Goes page (page.awaits request ref await) := by
  refine sound.next sound.ledger sound.stopped ?_ (fun _ => .inl) (fun _ => id) (fun _ => .inl)
    ?_ ?_
  · exact ⟨⟨waits.created, waits.same, waits.slot⟩, deadline, cancelling⟩
  · rintro _ ⟨⟩
    exact request_of_waiting thread
  · intro r waiting
    exact .inl (thread.symm.trans waiting)

theorem Sound.noted (sound : Sound page) {e : Effect} (logged : e.requestId ∈ page.drawn)
    (known : Known page.requests page.created e) (ordered : ∀ earlier ∈ page.log, Ordered e earlier)
    (held : Held (page.note e) page.thread) (added : Added page (page.note e) e) :
    Goes page (page.note e) := by
  refine sound.next (sound.ledger.note logged known ordered) sound.stopped held
    (fun _ => .inl) (fun _ => List.mem_cons_of_mem _) ?_ (fun _ => id) fun _ => .inl
  intro earlier member
  rcases List.mem_cons.mp member with rfl | before
  · exact .inr added
  · exact .inl before

/-- An object is written to, and is no more cancelled or ended than before. -/
theorem Sound.updated (sound : Sound page) {f : ActiveRelayRequest → ActiveRelayRequest}
    (keeps : Keeps (page.requests ref) (f (page.requests ref)))
    (attempted : (f (page.requests ref)).cancellationAttempted =
      (page.requests ref).cancellationAttempted)
    (terminated : (f (page.requests ref)).terminated = (page.requests ref).terminated)
    (held : Held (page.update ref f) page.thread) : Goes page (page.update ref f) := by
  have same : ∀ r, ((page.update ref f).requests r).cancellationAttempted =
      (page.requests r).cancellationAttempted ∧
      ((page.update ref f).requests r).terminated = (page.requests r).terminated := by
    intro r
    rcases eq_or_ne r ref with rfl | other
    · simp [Page.update, attempted, terminated]
    · simp [Page.update, other]
  refine sound.next (sound.ledger.keep (keeps_update keeps) fun r _ after => ?_) ?_ held
    (fun _ => .inl) (fun _ => id) (fun _ => .inl) (fun _ => id) fun _ => .inl
  · exact (same r).1 ▸ after
  · intro r small after
    rw [(same r).1]
    exact sound.stopped r small ((same r).2 ▸ after)

/-! ### Cancellation -/

section Fields

variable (page : Page) (reason : String)

@[simp] theorem cancel_created : (page.cancelRelayRequest reason).2.created = page.created := by
  unfold Page.cancelRelayRequest
  split
  · rfl
  · split <;> rfl

@[simp] theorem cancel_drawn : (page.cancelRelayRequest reason).2.drawn = page.drawn := by
  unfold Page.cancelRelayRequest
  split
  · rfl
  · split <;> rfl

@[simp] theorem cancel_hidden : (page.cancelRelayRequest reason).2.hidden = page.hidden := by
  unfold Page.cancelRelayRequest
  split
  · rfl
  · split <;> rfl

@[simp] theorem cancel_thread : (page.cancelRelayRequest reason).2.thread = page.thread := by
  unfold Page.cancelRelayRequest
  split
  · rfl
  · split <;> rfl

@[simp] theorem cancel_active :
    (page.cancelRelayRequest reason).2.activeRelayRequest = page.activeRelayRequest := by
  unfold Page.cancelRelayRequest
  split
  · rfl
  · split <;> rfl

theorem cancel_keeps (r : Nat) :
    Keeps (page.requests r) ((page.cancelRelayRequest reason).2.requests r) ∧
      ((page.cancelRelayRequest reason).2.requests r).terminated =
        (page.requests r).terminated := by
  unfold Page.cancelRelayRequest
  split
  · exact ⟨.refl _, rfl⟩
  · next ref _ =>
    split
    · exact ⟨.refl _, rfl⟩
    · rcases eq_or_ne r ref with rfl | other
      · simpa using ⟨rfl, fun _ => rfl, id, le_rfl⟩
      · simpa [other] using Keeps.refl _

theorem cancel_attempted {page : Page} (active : page.activeRelayRequest = some ref) :
    ((page.cancelRelayRequest reason).2.requests ref).cancellationAttempted = true := by
  unfold Page.cancelRelayRequest
  rw [active]
  dsimp only
  split
  · assumption
  · simp [Page.update, Page.note]

theorem cancel_log {e : Effect} (member : e ∈ (page.cancelRelayRequest reason).2.log) :
    e ∈ page.log ∨ ∃ ref, page.activeRelayRequest = some ref ∧
      e = .cancelled ⟨(page.requests ref).toRelayRequest, "cancelled", reason⟩ := by
  unfold Page.cancelRelayRequest at member
  split at member
  · exact .inl member
  · next ref active =>
    split at member
    · exact .inl member
    · rcases List.mem_cons.mp member with rfl | before
      · exact .inr ⟨ref, active, rfl⟩
      · exact .inl before

theorem cancel_grows {e : Effect} (member : e ∈ page.log) :
    e ∈ (page.cancelRelayRequest reason).2.log := by
  unfold Page.cancelRelayRequest
  split
  · exact member
  · split
    · exact member
    · exact List.mem_cons_of_mem _ member

end Fields

theorem Ledger.cancel
    (ledger : Ledger page.requests page.created page.drawn page.log)
    (created : ∀ ref, page.activeRelayRequest = some ref → ref < page.created) (reason : String) :
    Ledger (page.cancelRelayRequest reason).2.requests page.created page.drawn
      (page.cancelRelayRequest reason).2.log := by
  unfold Page.cancelRelayRequest
  split
  · exact ledger
  · next ref active =>
    split
    · exact ledger
    · next new =>
      have small := created ref active
      simp only [note_requests, update_requests]
      refine ledger.write (keeps_update ⟨rfl, fun _ => rfl, id, le_rfl⟩) (ledger.owned ref small)
        ⟨ref, small, ?_, ?_⟩ ?_ ?_
      · simp
      · simp
      · refine fun earlier member => ⟨?_, nofun, nofun, fun _ _ => ⟨nofun, nofun⟩⟩
        rintro _ q ⟨⟩ rfl same
        exact new (ledger.attempted_of_cancelled small member same.symm)
      · intro r _ after
        rcases eq_or_ne r ref with rfl | other
        · exact .inr ⟨reason, rfl⟩
        · rw [Function.update_of_ne other] at after
          exact .inl after

theorem Sound.awaitCancellation (sound : Sound page) (waits : Waits page request ref)
    (thread : page.thread.waiting = some request) (reason message : String)
    (terminal : Option Bool) :
    Goes page (page.awaitCancellation request ref reason message terminal) := by
  have created : ∀ r, page.activeRelayRequest = some r → r < page.created := by
    rcases waits.slot with ⟨active, -⟩ | ⟨none, -⟩
    · rintro r is
      exact Option.some.inj (active.symm.trans is) ▸ waits.created
    · rintro r is
      exact absurd (none.symm.trans is) nofun
  have keeps := fun r => (cancel_keeps page reason r)
  refine sound.next ?_ ?_ ⟨⟨?_, ?_, ?_⟩, nofun, ?_⟩ ?_ ?_ ?_ ?_ ?_
  · simpa [Page.awaitCancellation, Page.awaits] using sound.ledger.cancel created reason
  · intro r small terminated
    refine (keeps r).1.attempted (sound.stopped r (by simpa [Page.awaitCancellation, Page.awaits]
      using small) ?_)
    rw [← (keeps r).2]
    exact terminated
  · simpa [Page.awaitCancellation, Page.awaits] using waits.created
  · exact (keeps ref).1.same.trans waits.same
  · simpa [Page.awaitCancellation, Page.awaits, (keeps ref).2] using waits.slot
  · rintro _ _ _ ⟨⟩
    rcases waits.slot with ⟨active, -⟩ | ⟨-, terminated⟩
    · exact cancel_attempted reason active
    · exact (keeps ref).1.attempted (sound.stopped ref waits.created terminated)
  · exact fun clear member => .inl (by
      simpa [Page.awaitCancellation, Page.awaits] using member)
  · exact fun e => cancel_grows page reason
  · intro e member
    refine (cancel_log page reason member).imp id ?_
    rintro ⟨r, active, rfl⟩
    exact ⟨r, active, rfl⟩
  · rintro _ ⟨⟩
    exact request_of_waiting thread
  · intro r waiting
    exact .inl (thread.symm.trans waiting)

/-! ### The retrieval -/

section Retrieving

variable {await : Await} {deadline : ℚ}

theorem Sound.waits (sound : Sound page) (thread : page.thread = .retrieving request ref await) :
    Waits page request ref := by
  have held := sound.held
  rw [thread] at held
  exact held.1

theorem Sound.deadline_le (sound : Sound page)
    (thread : page.thread = .retrieving request ref await)
    (waits : await.deadline = some deadline) {ms : ℚ}
    (member : .deadline request.requestId ms ∈ page.log) : deadline ≤ ms := by
  have held := sound.held
  rw [thread] at held
  exact held.2.1 deadline waits ms member

theorem Sound.awaits_same (sound : Sound page)
    (thread : page.thread = .retrieving request ref await)
    (waits : await.deadline = some deadline) {await' : Await}
    (same : ∀ deadline', await'.deadline = some deadline' → deadline' = deadline)
    (calm : ∀ promise message terminal, await' ≠ .cancelling promise message terminal) :
    Goes page (page.awaits request ref await') := by
  refine sound.moves (sound.waits thread) (by rw [thread]; rfl) ?_
    fun promise message terminal is => absurd is (calm promise message terminal)
  intro deadline' is ms member
  rw [same deadline' is]
  exact sound.deadline_le thread waits member

/-- The call waits on after an effect that is written down. -/
theorem Sound.delay (sound : Sound page) (thread : page.thread = .retrieving request ref await)
    (waits : await.deadline = some deadline) {deadline' : ℚ} (le : deadline' ≤ deadline) :
    Goes page (page.delay request ref deadline') := by
  have stays := sound.waits thread
  refine sound.next (sound.ledger.note (sound.id_drawn stays) trivial ?_) sound.stopped ?_
    (fun _ => .inl) (fun _ => List.mem_cons_of_mem _) ?_ ?_ ?_
  · refine fun earlier member => ⟨nofun, ?_, nofun, fun _ _ => ⟨nofun, nofun⟩⟩
    rintro _ _ ms ⟨⟩ rfl
    exact le.trans (sound.deadline_le thread waits member)
  · refine ⟨⟨stays.created, stays.same, stays.slot⟩, ?_, nofun⟩
    rintro _ ⟨⟩ ms member
    rcases List.mem_cons.mp member with is | before
    · cases is
      exact le_rfl
    · exact le.trans (sound.deadline_le thread waits before)
  · intro e member
    rcases List.mem_cons.mp member with rfl | before
    · exact .inr trivial
    · exact .inl before
  · rintro _ ⟨⟩
    rw [thread]
    rfl
  · intro r waiting
    rw [thread] at waiting
    exact .inl waiting

theorem Sound.interrupted (sound : Sound page) (waits : Waits page request ref)
    (thread : page.thread.waiting = some request)
    (terminated : (page.requests ref).terminated = true) :
    Goes page (page.returns request .terminated) := by
  have cleared : page.clearActiveRelayRequest request.requestId = page := by
    rcases waits.slot with ⟨-, not⟩ | ⟨none, -⟩
    · exact absurd terminated (by simp [not])
    · simp [Page.clearActiveRelayRequest, none]
  simpa only [cleared] using sound.finish waits (request_of_waiting thread)
    (sound.settled_of_terminated waits terminated) .terminated

theorem Sound.poll (sound : Sound page) (thread : page.thread = .retrieving request ref await)
    (waits : await.deadline = some deadline) (now : ℚ) :
    Goes page (page.poll request ref deadline now) := by
  have waiting : page.thread.waiting = some request := by
    rw [thread]
    rfl
  unfold Page.poll
  split
  · split
    · next terminated => exact sound.interrupted (sound.waits thread) waiting terminated
    · exact sound.awaits_same thread waits (by rintro _ ⟨⟩; rfl) nofun
  · exact sound.awaitCancellation (sound.waits thread) waiting _ _ _

theorem Sound.progressed (sound : Sound page) (thread : page.thread = .retrieving request ref await)
    (alive : (page.requests ref).terminated = false) {n : ℚ}
    (later : (page.requests ref).lastProgressSequence < n) (progress : Option Json) :
    Goes page { (page.update ref fun request => { request with lastProgressSequence := n }).note
      (.progressed (page.requests ref).requestId n) with relayProgress := progress } := by
  have waits := sound.waits thread
  have held := sound.held
  rw [thread] at held
  have attempted : ∀ r, (Function.update page.requests ref
      { page.requests ref with lastProgressSequence := n } r).cancellationAttempted =
        (page.requests r).cancellationAttempted := by
    intro r
    rcases eq_or_ne r ref with rfl | other
    · simp
    · simp [other]
  have terminated : ∀ r, (Function.update page.requests ref
      { page.requests ref with lastProgressSequence := n } r).terminated =
        (page.requests r).terminated := by
    intro r
    rcases eq_or_ne r ref with rfl | other
    · simp
    · simp [other]
  refine sound.next (sound.ledger.write (keeps_update ⟨rfl, id, id, later.le⟩)
    (sound.ledger.owned ref waits.created) ⟨ref, waits.created, ?_, ?_⟩ ?_
    fun r _ after => .inl (attempted r ▸ after)) ?_ ?_ (fun _ => .inl)
    (fun _ => List.mem_cons_of_mem _) ?_ (fun _ => id) fun _ => .inl
  · simp
  · simp
  · refine fun earlier member => ⟨nofun, nofun, ?_, ?_⟩
    · rintro _ _ m ⟨⟩ rfl
      obtain ⟨r, small, same, le⟩ := sound.ledger.known _ member
      cases sound.ledger.distinct r small ref waits.created same
      exact le.trans_lt later
    · rintro _ rfl
      refine ⟨?_, nofun⟩
      rintro m ⟨⟩
      exact absurd (sound.ledger.terminated_of_log waits.created member) (by simp [alive])
  · intro r small after
    exact (attempted r).trans (sound.stopped r small ((terminated r).symm.trans after))
  · show Held _ page.thread
    rw [thread]
    refine ⟨⟨waits.created, by simp [waits.same], by simpa using waits.slot⟩, ?_, ?_⟩
    · intro deadline is ms member
      rcases List.mem_cons.mp member with new | before
      · cases new
      · exact held.2.1 deadline is ms before
    · intro promise message terminal is
      exact (attempted ref).trans (held.2.2 promise message terminal is)
  · intro e member
    rcases List.mem_cons.mp member with rfl | before
    · exact .inr trivial
    · exact .inl before

theorem Sound.applyProgress (sound : Sound page)
    (thread : page.thread = .retrieving request ref await) (plaintext : Page.Plaintext) :
    Goes page (page.applyEncryptedRelayProgress ref plaintext) := by
  unfold Page.applyEncryptedRelayProgress
  dsimp only
  split
  · exact sound.stays
  · next active =>
    obtain ⟨-, alive⟩ : page.activeRelayRequest = some ref ∧
        (page.requests ref).terminated = false := by simpa using active
    split
    · exact sound.stays
    · exact sound.stays
    · split
      · next valid => exact sound.progressed thread alive (lt_sequence_of_valid valid) _
      · exact sound.stays

theorem applyProgress_same (page : Page) (ref : Nat) (plaintext : Page.Plaintext) :
    (page.applyEncryptedRelayProgress ref plaintext).thread = page.thread ∧
      (page.applyEncryptedRelayProgress ref plaintext).activeRelayRequest =
        page.activeRelayRequest ∧
      ∀ r, ((page.applyEncryptedRelayProgress ref plaintext).requests r).toRelayRequest =
        (page.requests r).toRelayRequest := by
  unfold Page.applyEncryptedRelayProgress
  dsimp only
  split
  · exact ⟨rfl, rfl, fun _ => rfl⟩
  · split
    · exact ⟨rfl, rfl, fun _ => rfl⟩
    · exact ⟨rfl, rfl, fun _ => rfl⟩
    · split
      · refine ⟨rfl, rfl, fun r => ?_⟩
        rcases eq_or_ne r ref with rfl | other
        · simp
        · simp [other]
      · exact ⟨rfl, rfl, fun _ => rfl⟩

theorem Sound.applyProgress_delay (sound : Sound page)
    (thread : page.thread = .retrieving request ref await) (waits : await.deadline = some deadline)
    (plaintext : Page.Plaintext) {deadline' : ℚ} (le : deadline' ≤ deadline) :
    Goes page ((page.applyEncryptedRelayProgress ref plaintext).delay request ref deadline') := by
  have first := sound.applyProgress thread plaintext
  obtain ⟨same, active, requests⟩ := applyProgress_same page ref plaintext
  exact first.trans active requests (first.sound.delay (same.trans thread) waits le)

theorem Sound.held_note (sound : Sound page) (thread : page.thread = .retrieving request ref await)
    {e : Effect} (other : ∀ id ms, e ≠ .deadline id ms) : Held (page.note e) page.thread := by
  have held := sound.held
  rw [thread] at held ⊢
  refine ⟨⟨held.1.created, held.1.same, held.1.slot⟩, ?_, held.2.2⟩
  intro deadline is ms member
  rcases List.mem_cons.mp member with new | before
  · exact absurd new.symm (other _ _)
  · exact held.2.1 deadline is ms before

theorem Sound.confirmed (sound : Sound page)
    (thread : page.thread = .retrieving request ref await) :
    Goes page (page.note (.confirmedTerminal request.requestId)) := by
  have waits := sound.waits thread
  refine sound.noted (sound.id_drawn waits) ⟨ref, waits.created, ?_⟩ (fun earlier _ =>
    Effect.Plain.ordered (e := .confirmedTerminal request.requestId) trivial earlier)
    (sound.held_note thread nofun) trivial
  exact congrArg RelayRequest.requestId waits.same

theorem Sound.marked (sound : Sound page) (thread : page.thread = .retrieving request ref await) :
    Goes page (page.update ref fun request =>
      { request with cancelled := true, cancellationConfirmed := true }) := by
  have held := sound.held
  rw [thread] at held
  refine sound.updated ⟨rfl, id, id, le_rfl⟩ rfl rfl ?_
  show Held _ page.thread
  rw [thread]
  refine ⟨⟨held.1.created, ?_, ?_⟩, held.2.1, ?_⟩
  · simpa using held.1.same
  · simpa using held.1.slot
  · intro promise message terminal is
    simpa using held.2.2 promise message terminal is

theorem Sound.whenRefused (sound : Sound page)
    (thread : page.thread = .retrieving request ref await) (status : Nat)
    (errorData : Option Json) :
    Goes page (page.whenRefused request ref status errorData) := by
  have waits := sound.waits thread
  unfold Page.whenRefused
  dsimp only
  split
  · have first := sound.confirmed thread
    have settled : Settled request (page.note (.confirmedTerminal request.requestId)).log :=
      .inr (.inl List.mem_cons_self)
    rcases waits.slot with ⟨active, -⟩ | ⟨none, -⟩
    · have own : (page.requests ref).requestId = request.requestId :=
        congrArg RelayRequest.requestId waits.same
      simp only [note_active, active, note_requests, own, if_true]
      have second := first.sound.marked (show (page.note _).thread = .retrieving request ref await
        from thread)
      refine first.trans rfl (fun _ => rfl) (second.trans rfl (fun r => ?_)
        (second.sound.finish (second.sound.waits thread) (by
          show page.thread.request = _
          rw [thread]
          rfl) settled _))
      rcases eq_or_ne r ref with rfl | other
      · simp
      · simp [other]
    · simp only [note_active, none]
      refine first.trans rfl (fun _ => rfl) (first.sound.finish (first.sound.waits thread) ?_
        settled _)
      show page.thread.request = _
      rw [thread]
      rfl
  · exact sound.awaitCancellation waits (by rw [thread]; rfl) _ _ _

theorem clear_note (e : Effect) (id : Option String) :
    (page.note e).clearActiveRelayRequest id = (page.clearActiveRelayRequest id).note e := by
  unfold Page.clearActiveRelayRequest Page.note
  dsimp only
  split <;> rfl

theorem Sound.responded (sound : Sound page) (drawn : request.requestId ∈ page.drawn)
    (alive : .terminated request.requestId ∉ page.log)
    (held : Held (page.note (.responded request.requestId)) page.thread) :
    Goes page (page.note (.responded request.requestId)) := by
  refine sound.noted drawn trivial (fun earlier member => ⟨nofun, nofun, nofun, ?_⟩) held trivial
  rintro _ rfl
  refine ⟨nofun, ?_⟩
  rintro ⟨⟩
  exact alive member

theorem Sound.whenRetrieved (sound : Sound page)
    (thread : page.thread = .retrieving request ref await)
    (alive : (page.requests ref).terminated = false) (body : Json) :
    Goes page (page.whenRetrieved request body) := by
  have waits := sound.waits thread
  have own : (page.requests ref).requestId = request.requestId :=
    congrArg RelayRequest.requestId waits.same
  have first : Goes page (page.note (.retrieved request.requestId)) :=
    sound.noted (sound.id_drawn waits) ⟨ref, waits.created, own⟩ (fun earlier _ =>
      Effect.Plain.ordered (e := .retrieved request.requestId) trivial earlier)
      (sound.held_note thread nofun) trivial
  have running : page.thread.request = some request := by
    rw [thread]
    rfl
  have silent : .terminated request.requestId ∉ (page.note (.retrieved request.requestId)).log := by
    intro member
    have before : .terminated request.requestId ∈ page.log := by simpa [Page.note] using member
    have ended := sound.ledger.terminated_of_log waits.created (own ▸ before)
    simp [alive] at ended
  have thread₁ : (page.note (.retrieved request.requestId)).thread =
      .retrieving request ref await := thread
  have second : Goes (page.note (.retrieved request.requestId))
      ((page.note (.retrieved request.requestId)).note (.responded request.requestId)) :=
    first.sound.responded (sound.id_drawn waits) silent (first.sound.held_note thread₁ nofun)
  have finish := fun reply => first.trans rfl (fun _ => rfl)
    (first.sound.finish (first.sound.waits thread) running (.inl List.mem_cons_self) reply)
  have respond := fun reply => first.trans rfl (fun _ => rfl) (second.trans rfl (fun _ => rfl)
    (second.sound.finish (second.sound.waits thread) running
      (.inl (List.mem_cons_of_mem _ List.mem_cons_self)) reply))
  unfold Page.whenRetrieved
  dsimp only
  split
  · exact finish _
  · split
    · rw [← clear_note]
      exact respond _
    · refine first.trans rfl (fun _ => rfl) (first.sound.next ?_ ?_ ⟨?_, ?_, ?_⟩ ?_ ?_ ?_ ?_ ?_)
      · simpa using first.sound.ledger
      · simpa using first.sound.stopped
      · exact (first.sound.waits thread₁).clear
      · simpa [Page.note] using sound.id_drawn waits
      · simpa using silent
      · exact fun clear member => .inl (by simpa using member)
      · exact fun e member => by simpa using member
      · exact fun e member => .inl (by simpa using member)
      · rintro _ ⟨⟩
        exact running
      · intro r waiting
        cases Option.some.inj ((request_of_waiting waiting).symm.trans running)
        exact .inr (.inl (by simp [Page.note]))

end Retrieving

/-! ### The rest of the call -/

theorem Sound.returns (sound : Sound page)
    (waiting : page.thread.waiting = none) (active : page.activeRelayRequest = none)
    (drawn : request.requestId ∈ page.drawn) (reply : ChatFailover.Reply) :
    Goes page (page.returns request reply) := by
  refine sound.next (sound.ledger.note (e := .returned request.requestId reply) drawn trivial
    fun earlier _ => Effect.Plain.ordered (e := .returned request.requestId reply) trivial earlier)
    sound.stopped active (fun _ => .inl) (fun _ => List.mem_cons_of_mem _) ?_ nofun ?_
  · intro e member
    rcases List.mem_cons.mp member with rfl | before
    · exact .inr nofun
    · exact .inl before
  · intro r is
    exact absurd (waiting.symm.trans is) nofun

theorem Sound.whenOpened (sound : Sound page) (thread : page.thread = .opening request)
    (plaintext : Page.Plaintext) : Goes page (page.whenOpened request plaintext) := by
  obtain ⟨active, drawn, alive⟩ : page.activeRelayRequest = none ∧ request.requestId ∈ page.drawn ∧
      .terminated request.requestId ∉ page.log := by
    have held := sound.held
    rwa [thread] at held
  have running : page.thread.request = some request := by
    rw [thread]
    rfl
  have waiting : page.thread.waiting = none := by
    rw [thread]
    rfl
  unfold Page.whenOpened
  split
  · exact sound.returns waiting active drawn _
  · have first := sound.responded drawn alive (by
      rw [thread]
      exact ⟨active, drawn, by simpa [Page.note] using alive⟩)
    exact first.trans rfl (fun _ => rfl) (first.sound.returns waiting active drawn _)

/-- The head of the loop does not look at what was awaited before. -/
theorem poll_awaits (await : Await) (deadline now : ℚ) :
    (page.awaits request ref await).poll request ref deadline now =
      page.poll request ref deadline now := by
  have cancel : ∀ reason, (page.awaits request ref await).cancelRelayRequest reason =
      ((page.cancelRelayRequest reason).1,
        (page.cancelRelayRequest reason).2.awaits request ref await) := by
    intro reason
    unfold Page.cancelRelayRequest
    cases active : page.activeRelayRequest with
    | none => simp [Page.awaits, active]
    | some r =>
      cases attempted : (page.requests r).cancellationAttempted <;>
        simp [Page.awaits, Page.note, Page.update, active, attempted]
  unfold Page.poll Page.awaitCancellation
  rw [cancel]
  rfl

theorem Sound.whenAdmitted (sound : Sound page) {admittedAtMs : ℚ}
    (thread : page.thread = .admitting request ref admittedAtMs) (admissionPayload : Option Json)
    (now : ℚ) : Goes page (page.whenAdmitted request ref admittedAtMs admissionPayload now) := by
  obtain ⟨waits, first, calm⟩ : Waits page request ref ∧
      (∀ ms, .deadline request.requestId ms ∉ page.log) ∧
      (page.activeRelayRequest = some ref → (page.requests ref).cancelled = false) := by
    have held := sound.held
    rwa [thread] at held
  have waiting : page.thread.waiting = some request := by
    rw [thread]
    rfl
  unfold Page.whenAdmitted
  split
  · next gone =>
    rcases waits.slot with ⟨active, -⟩ | ⟨-, terminated⟩
    · simp [active, calm active] at gone
    · exact sound.interrupted waits waiting terminated
  · dsimp only
    generalize relayResponseDeadlineFromAdmission admissionPayload admittedAtMs = deadline
    have written : Goes page ((page.note (.deadline request.requestId deadline)).awaits request ref
        (.polling deadline)) := by
      refine sound.next (sound.ledger.note (sound.id_drawn waits) trivial ?_) sound.stopped ?_
        (fun _ => .inl) (fun _ => List.mem_cons_of_mem _) ?_ ?_ ?_
      · refine fun earlier member => ⟨nofun, ?_, nofun, fun _ _ => ⟨nofun, nofun⟩⟩
        rintro _ _ ms ⟨⟩ rfl
        exact absurd member (first ms)
      · refine ⟨⟨waits.created, waits.same, waits.slot⟩, ?_, nofun⟩
        rintro _ ⟨⟩ ms member
        rcases List.mem_cons.mp member with is | before
        · cases is
          exact le_rfl
        · exact absurd before (first ms)
      · intro e member
        rcases List.mem_cons.mp member with rfl | before
        · exact .inr trivial
        · exact .inl before
      · rintro _ ⟨⟩
        exact request_of_waiting waiting
      · intro r is
        exact .inl (waiting.symm.trans is)
    rw [← poll_awaits (.polling deadline)]
    exact written.trans rfl (fun _ => rfl) (written.sound.poll rfl rfl now)

/-! ### The dispatch -/

theorem Ledger.create {requests : Nat → ActiveRelayRequest} {created : Nat} {drawn : List String}
    {log : List Effect} (ledger : Ledger requests created drawn log)
    (isDrawn : request.requestId ∈ drawn)
    (objects : ∀ r < created, (requests r).requestId ≠ request.requestId)
    (unlogged : ∀ e ∈ log, e.requestId ≠ request.requestId) (admitted : Bool) {status : Option Nat}
    (answered : Answered status) :
    Ledger (Function.update requests created (.new request)) (created + 1) drawn
      (.dispatched request admitted status :: log) := by
  have old : ∀ r < created, Function.update requests created (.new request) r = requests r :=
    fun r small => Function.update_of_ne small.ne _ _
  have new : Function.update requests created (.new request) created = .new request :=
    Function.update_self ..
  have split : ∀ r < created + 1, r < created ∨ r = created := fun r small =>
    Nat.lt_or_eq_of_le (Nat.le_of_lt_succ small)
  have up : ∀ r < created, r < created + 1 := fun r small => small.trans (Nat.lt_succ_self _)
  refine ⟨?_, ?_, List.forall_mem_cons.mpr ⟨isDrawn, ledger.logged⟩,
    List.forall_mem_cons.mpr ⟨⟨fun _ => ⟨created, Nat.lt_succ_self _, ?_⟩,
      fun not => absurd answered not⟩, ?_⟩, ?_, List.pairwise_cons.mpr ⟨fun earlier _ =>
      Effect.Plain.ordered (e := .dispatched request admitted status) trivial earlier,
      ledger.ordered⟩⟩
  · intro r small s small' same
    rcases split r small with before | rfl <;> rcases split s small' with before' | rfl
    · rw [old r before, old s before'] at same
      exact ledger.distinct r before s before' same
    · rw [old r before, new] at same
      exact absurd same (objects r before)
    · rw [old s before', new] at same
      exact absurd same.symm (objects s before')
    · rfl
  · intro r small
    rcases split r small with before | rfl
    · rw [old r before]
      exact ledger.owned r before
    · rw [new]
      exact isDrawn
  · rw [new]
    rfl
  · intro e member
    have known := ledger.known e member
    cases e with
    | dispatched other _ _ =>
      refine ⟨fun is => ?_, fun not r small => ?_⟩
      · obtain ⟨r, before, same⟩ := known.1 is
        exact ⟨r, up r before, old r before ▸ same⟩
      · rcases split r small with before | rfl
        · rw [old r before]
          exact known.2 not r before
        · rw [new]
          exact (unlogged _ member).symm
    | progressed | terminated | cancelled | retrieved | confirmedTerminal =>
      obtain ⟨r, before, same⟩ := known
      exact ⟨r, up r before, old r before ▸ same⟩
    | deadline | responded | returned => trivial
  · intro r small attempted
    rcases split r small with before | rfl
    · rw [old r before] at attempted ⊢
      obtain ⟨reason, among⟩ := ledger.cancelled r before attempted
      exact ⟨reason, List.mem_cons_of_mem _ among⟩
    · rw [new] at attempted
      exact absurd attempted nofun

theorem Sound.whenDispatched (sound : Sound page) (thread : page.thread = .dispatching request)
    (admitted : Bool) (status : Option Nat) (now : ℚ) :
    Goes page (page.whenDispatched request admitted status now) := by
  obtain ⟨active, drawn, objects, unlogged⟩ : page.activeRelayRequest = none ∧
      Unsent page request := by
    have held := sound.held
    rwa [thread] at held
  have running : page.thread.request = some request := by
    rw [thread]
    rfl
  have idle : page.thread.waiting = none := by
    rw [thread]
    rfl
  by_cases answered : Answered status
  · obtain ⟨code, rfl, ok⟩ := (Option.any_eq_true _ _).mp answered
    simp only [Page.whenDispatched, ok, if_true]
    have new : ∀ r < page.created + 1, r ≠ page.created → r < page.created :=
      fun r small other => lt_of_le_of_ne (Nat.le_of_lt_succ small) other
    refine ⟨⟨sound.ledger.create drawn objects unlogged admitted answered, ?_, ?_, ?_, ?_, ?_⟩, ?_⟩
    · intro r small terminated
      rcases eq_or_ne r page.created with rfl | other
      · simp [Page.note, ActiveRelayRequest.new] at terminated
      · simp only [Page.note, Function.update_of_ne other] at terminated ⊢
        exact sound.stopped r (new r small other) terminated
    · refine ⟨⟨Nat.lt_succ_self _, ?_, .inl ⟨rfl, ?_⟩⟩, fun ms member => ?_, fun _ => ?_⟩
      · simp [Page.note, ActiveRelayRequest.new]
      · simp [Page.note, ActiveRelayRequest.new]
      · exact unlogged _ ((List.mem_cons.mp member).resolve_left nofun) rfl
      · simp [Page.note, ActiveRelayRequest.new]
    · rintro _ ⟨⟩ reply member
      exact unlogged _ ((List.mem_cons.mp member).resolve_left nofun) rfl
    · intro other admitted' status' member isAnswered
      rcases List.mem_cons.mp member with is | before
      · cases is
        exact .inr rfl
      · rcases sound.settled other admitted' status' before isAnswered with settled | waiting
        · refine .inl (settled.imp (List.mem_cons_of_mem _) (Or.imp (List.mem_cons_of_mem _) ?_))
          exact fun ⟨reason, among⟩ => ⟨reason, List.mem_cons_of_mem _ among⟩
        · exact absurd (idle.symm.trans waiting) nofun
    · exact fun clear among id is => List.mem_cons_of_mem _ (sound.hidden clear among id is)
    · exact fun post member new => absurd ((List.mem_cons.mp member).resolve_left nofun) new
  · have ledger : Ledger page.requests page.created page.drawn
        (.dispatched request admitted status :: page.log) :=
      sound.ledger.note drawn ⟨fun is => absurd is answered, fun _ => objects⟩ fun earlier _ =>
        Effect.Plain.ordered (e := .dispatched request admitted status) trivial earlier
    have first : ∀ code, Goes page { page.note (.dispatched request admitted status) with
        thread := .refused request code } := by
      intro code
      refine sound.next ledger sound.stopped ⟨active, drawn⟩ (fun _ => .inl)
        (fun _ => List.mem_cons_of_mem _) ?_ ?_ ?_
      · intro e member
        rcases List.mem_cons.mp member with rfl | before
        · exact .inr answered
        · exact .inl before
      · rintro _ ⟨⟩
        exact running
      · exact fun r waiting => absurd (idle.symm.trans waiting) nofun
    unfold Page.whenDispatched
    dsimp only
    split
    · exact (first 0).trans rfl (fun _ => rfl) ((first 0).sound.returns rfl active drawn _)
    · next code =>
      rw [if_neg (by simpa [Answered] using answered)]
      exact first code

/-! ### The other events -/

theorem Sound.held_update (sound : Sound page) {f : ActiveRelayRequest → ActiveRelayRequest}
    (same : (f (page.requests ref)).toRelayRequest = (page.requests ref).toRelayRequest)
    (cancelled : (f (page.requests ref)).cancelled = (page.requests ref).cancelled)
    (attempted : (f (page.requests ref)).cancellationAttempted =
      (page.requests ref).cancellationAttempted)
    (terminated : (f (page.requests ref)).terminated = (page.requests ref).terminated) :
    Held (page.update ref f) page.thread := by
  have held := sound.held
  have equal : ∀ r, ((page.update ref f).requests r).toRelayRequest =
      (page.requests r).toRelayRequest ∧
      ((page.update ref f).requests r).cancelled = (page.requests r).cancelled ∧
      ((page.update ref f).requests r).cancellationAttempted =
        (page.requests r).cancellationAttempted ∧
      ((page.update ref f).requests r).terminated = (page.requests r).terminated := by
    intro r
    rcases eq_or_ne r ref with rfl | other
    · simp [same, cancelled, attempted, terminated]
    · simp [other]
  have waits : ∀ request r, Waits page request r → Waits (page.update ref f) request r := by
    rintro request r ⟨created, is, slot⟩
    refine ⟨created, (equal r).1.trans is, ?_⟩
    rw [(equal r).2.2.2]
    exact slot
  cases place : page.thread with
  | idle | selecting | refused | opening =>
    rw [place] at held
    exact held
  | encrypting request | dispatching request =>
    rw [place] at held
    refine ⟨held.1, held.2.drawn, fun r small => ?_, held.2.log⟩
    rw [congrArg RelayRequest.requestId (equal r).1]
    exact held.2.objects r small
  | admitting request r admittedAtMs =>
    rw [place] at held
    refine ⟨waits request r held.1, held.2.1, fun active => ?_⟩
    rw [(equal r).2.1]
    exact held.2.2 active
  | retrieving request r await =>
    rw [place] at held
    refine ⟨waits request r held.1, held.2.1, fun promise message terminal is => ?_⟩
    rw [(equal r).2.2.1]
    exact held.2.2 promise message terminal is

theorem Sound.sendRelayCancellation (sound : Sound page) (ref : Nat)
    (answer : Option (Nat × Option Json)) : Goes page (page.sendRelayCancellation ref answer) := by
  have written : ∀ confirmed result, Goes page (page.update ref fun request =>
      { request with cancellationConfirmed := confirmed, cancellation := result }) := by
    intro confirmed result
    exact sound.updated ⟨rfl, id, id, le_rfl⟩ rfl rfl (sound.held_update rfl rfl rfl rfl)
  unfold Page.sendRelayCancellation
  dsimp only
  split
  · exact sound.stays
  · split
    · exact written _ _
    · exact written _ _

theorem Sound.active (sound : Sound page) (active : page.activeRelayRequest = some ref) :
    ∃ request, Waits page request ref ∧ page.thread.waiting = some request ∧
      (page.requests ref).terminated = false := by
  have held := sound.held
  have own : ∀ request r, Waits page request r → page.thread.waiting = some request →
      ∃ request, Waits page request ref ∧ page.thread.waiting = some request ∧
        (page.requests ref).terminated = false := by
    intro request r waits waiting
    rcases waits.slot with ⟨same, alive⟩ | ⟨none, -⟩
    · cases Option.some.inj (active.symm.trans same)
      exact ⟨request, waits, waiting, alive⟩
    · exact absurd (active.symm.trans none) nofun
  cases place : page.thread with
  | idle | selecting =>
    rw [place] at held
    exact absurd (active.symm.trans held) nofun
  | encrypting | dispatching | refused | opening =>
    rw [place] at held
    exact absurd (active.symm.trans held.1) nofun
  | admitting request r | retrieving request r =>
    rw [place] at held
    rw [← place]
    exact own request r held.1 (by rw [place]; rfl)

theorem Held.hide {thread : Thread} (held : Held page thread) (hidden : List HiddenClear) :
    Held { page with hidden := hidden } thread := by
  cases thread with
  | idle | selecting | refused | opening => exact held
  | encrypting | dispatching =>
    exact ⟨held.1, held.2.drawn, held.2.objects, held.2.log⟩
  | admitting | retrieving =>
    exact ⟨⟨held.1.created, held.1.same, held.1.slot⟩, held.2⟩

theorem Sound.clear_hidden (sound : Sound page) {clear : HiddenClear}
    (among : clear ∈ page.hidden) : page.clearActiveRelayRequest clear.requestId = page := by
  unfold Page.clearActiveRelayRequest
  refine if_neg fun is => ?_
  obtain ⟨ref, active, same⟩ := (Option.any_eq_true _ _).mp is
  obtain ⟨request, waits, -, alive⟩ := sound.active active
  have ended := sound.ledger.terminated_of_log waits.created
    (sound.hidden clear among _ (of_decide_eq_true same).symm)
  simp [alive] at ended

theorem Sound.settleHidden (sound : Sound page) (i : Nat) :
    Goes page (page.settleHidden i) ∧
      (page.settleHidden i).activeRelayRequest = page.activeRelayRequest ∧
      (page.settleHidden i).log = page.log := by
  unfold Page.settleHidden
  split
  · exact ⟨sound.stays, rfl, rfl⟩
  · next clear found =>
    split
    · exact ⟨sound.stays, rfl, rfl⟩
    · rw [sound.clear_hidden (List.mem_of_getElem? found)]
      refine ⟨sound.next sound.ledger sound.stopped (sound.held.hide _) ?_ (fun _ => id)
        (fun _ => .inl) (fun _ => id) fun _ => .inl, rfl, rfl⟩
      exact fun clear member => .inl (List.mem_of_mem_eraseIdx member)

theorem sendRelayCancellation_same (page : Page) (ref : Nat)
    (answer : Option (Nat × Option Json)) :
    (page.sendRelayCancellation ref answer).activeRelayRequest = page.activeRelayRequest ∧
      (page.sendRelayCancellation ref answer).log = page.log := by
  unfold Page.sendRelayCancellation
  dsimp only
  split
  · exact ⟨rfl, rfl⟩
  · split <;> exact ⟨rfl, rfl⟩

theorem Ledger.terminate {ref : Nat}
    (ledger : Ledger page.requests page.created page.drawn page.log) (small : ref < page.created) :
    Ledger (Function.update page.requests ref { page.requests ref with terminated := true })
      page.created page.drawn (.terminated (page.requests ref).requestId :: page.log) := by
  refine ledger.write (keeps_update ⟨rfl, id, fun _ => rfl, le_rfl⟩) (ledger.owned ref small)
    ⟨ref, small, ?_, ?_⟩ (fun earlier _ => Effect.Plain.ordered
      (e := .terminated (page.requests ref).requestId) trivial earlier) fun r _ after => .inl ?_
  · simp
  · simp
  · rcases eq_or_ne r ref with rfl | other
    · simpa using after
    · simpa [other] using after

/-- The page when one of its requests is ended. -/
def Page.ended (page : Page) (ref : Nat) : Page :=
  (page.update ref fun request => { request with terminated := true }).note
    (.terminated (page.requests ref).requestId)

theorem ended_keeps (page : Page) (ref r : Nat) :
    Keeps (page.requests r) ((page.ended ref).requests r) := by
  have keeps : Keeps (page.requests ref) { page.requests ref with terminated := true } :=
    ⟨rfl, id, fun _ => rfl, le_rfl⟩
  exact keeps_update keeps r

theorem ended_created (page : Page) (ref : Nat) (reason : String) :
    ((page.ended ref).cancelRelayRequest reason).2.created = page.created := by
  rw [cancel_created]
  rfl

theorem ended_same (page : Page) (ref r : Nat) (reason : String) :
    (((page.ended ref).cancelRelayRequest reason).2.requests r).toRelayRequest =
      (page.requests r).toRelayRequest :=
  (cancel_keeps (page.ended ref) reason r).1.same.trans (ended_keeps page ref r).same

theorem ended_terminated (page : Page) (ref : Nat) (reason : String) :
    (((page.ended ref).cancelRelayRequest reason).2.requests ref).terminated = true := by
  rw [(cancel_keeps (page.ended ref) reason ref).2]
  show (Function.update page.requests ref _ ref).terminated = true
  rw [Function.update_self]

theorem ended_log (active : page.activeRelayRequest = some ref) (reason : String) {e : Effect}
    (member : e ∈ ((page.ended ref).cancelRelayRequest reason).2.log) :
    e ∈ page.log ∨ e = .terminated (page.requests ref).requestId ∨
      ∃ reason, e = .cancelled ⟨(page.requests ref).toRelayRequest, "cancelled", reason⟩ := by
  rcases cancel_log (page.ended ref) _ member with before | ⟨r, isActive, rfl⟩
  · rcases List.mem_cons.mp before with rfl | before
    · exact .inr (.inl rfl)
    · exact .inl before
  · cases Option.some.inj (Eq.trans (Eq.symm active) isActive)
    exact .inr (.inr ⟨_, by rw [(ended_keeps page ref ref).same]⟩)

theorem ended_ledger (sound : Sound page) (active : page.activeRelayRequest = some ref)
    (small : ref < page.created) (reason : String) :
    Ledger ((page.ended ref).cancelRelayRequest reason).2.requests
      ((page.ended ref).cancelRelayRequest reason).2.created
      ((page.ended ref).cancelRelayRequest reason).2.drawn
      ((page.ended ref).cancelRelayRequest reason).2.log := by
  have started : Ledger (page.ended ref).requests (page.ended ref).created (page.ended ref).drawn
      (page.ended ref).log := sound.ledger.terminate small
  have own : ∀ r, (page.ended ref).activeRelayRequest = some r → r < (page.ended ref).created := by
    intro r isActive
    cases Option.some.inj (Eq.trans (Eq.symm active) isActive)
    exact small
  simpa using started.cancel own reason

theorem Sound.ended_held (sound : Sound page) (active : page.activeRelayRequest = some ref)
    (reason : String) (hidden : List HiddenClear) :
    Held { ((page.ended ref).cancelRelayRequest reason).2 with
      activeRelayRequest := none
      relayProgress := none
      hidden := hidden } page.thread := by
  obtain ⟨request, waits, waiting, -⟩ := sound.active active
  have only : ∀ request r, Waits page request r → r = ref := by
    intro request r waits
    rcases waits.slot with ⟨isActive, -⟩ | ⟨none, -⟩
    · exact Option.some.inj (isActive.symm.trans active)
    · exact absurd (active.symm.trans none) nofun
  have deadlines : ∀ id ms, .deadline id ms ∈ ((page.ended ref).cancelRelayRequest reason).2.log →
      .deadline id ms ∈ page.log := by
    intro id ms member
    rcases ended_log active reason member with before | is | ⟨_, is⟩
    · exact before
    · exact absurd is nofun
    · exact absurd is nofun
  -- The slot is empty now, and the object says that it was ended.
  have still : ∀ request, Waits page request ref →
      Waits { ((page.ended ref).cancelRelayRequest reason).2 with
        activeRelayRequest := none
        relayProgress := none
        hidden := hidden } request ref := fun request waits =>
    ⟨(ended_created page ref reason).symm ▸ waits.created,
      (ended_same page ref ref reason).trans waits.same,
      .inr ⟨rfl, ended_terminated page ref reason⟩⟩
  have held := sound.held
  cases place : page.thread with
  | idle | selecting | encrypting | dispatching | refused | opening =>
    rw [place] at waiting
    exact absurd waiting nofun
  | admitting request' r ms =>
    rw [place] at held
    obtain ⟨waits', none, -⟩ := held
    cases only request' r waits'
    exact ⟨still request' waits', fun ms member => none ms (deadlines _ _ member), nofun⟩
  | retrieving request' r await =>
    rw [place] at held
    obtain ⟨waits', early, -⟩ := held
    cases only request' r waits'
    exact ⟨still request' waits', fun deadline is ms member =>
      early deadline is ms (deadlines _ _ member), fun _ _ _ _ => cancel_attempted _ active⟩

theorem Sound.end_cancel (sound : Sound page) (active : page.activeRelayRequest = some ref)
    (hidden : HiddenClear)
    (own : ∀ id, hidden.requestId = some id → id = (page.requests ref).requestId) :
    Goes page { ((page.ended ref).cancelRelayRequest "requester_cancelled").2 with
      activeRelayRequest := none
      relayProgress := none
      hidden := page.hidden ++ [hidden] } := by
  obtain ⟨request, waits, -, -⟩ := sound.active active
  have thread : ((page.ended ref).cancelRelayRequest "requester_cancelled").2.thread =
      page.thread := cancel_thread ..
  have grows : ∀ e ∈ (page.ended ref).log,
      e ∈ ((page.ended ref).cancelRelayRequest "requester_cancelled").2.log := fun e member =>
    cancel_grows (page.ended ref) _ member
  refine sound.next (ended_ledger sound active waits.created _) ?_ ?_ ?_ ?_ ?_ ?_ ?_
  · intro r small ended
    rcases eq_or_ne r ref with rfl | other
    · exact cancel_attempted _ active
    · -- Another request is as it was.
      have kept : (((page.ended ref).cancelRelayRequest "requester_cancelled").2.requests
          r).terminated = (page.requests r).terminated := by
        rw [(cancel_keeps (page.ended ref) _ r).2]
        show (Function.update page.requests ref _ r).terminated = _
        rw [Function.update_of_ne other]
      exact (cancel_keeps (page.ended ref) _ r).1.attempted ((ended_keeps page ref r).attempted
        (sound.stopped r ((ended_created page ref _) ▸ small) (kept ▸ ended)))
  · show Held _ ((page.ended ref).cancelRelayRequest "requester_cancelled").2.thread
    rw [thread]
    exact sound.ended_held active _ _
  · intro clear among
    rcases List.mem_append.mp among with before | new
    · exact .inl before
    · cases List.mem_singleton.mp new
      refine .inr fun id is => ?_
      rw [own id is]
      exact grows _ List.mem_cons_self
  · exact fun e member => grows e (List.mem_cons_of_mem _ member)
  · intro e member
    rcases ended_log active _ member with before | rfl | ⟨reason, rfl⟩
    · exact .inl before
    · exact .inr trivial
    · exact .inr ⟨ref, active, rfl⟩
  · intro r running
    rwa [← thread]
  · intro r isWaiting
    exact .inl (thread.symm ▸ isWaiting)

theorem Sound.handleRelayPageHide (sound : Sound page) : Goes page page.handleRelayPageHide := by
  cases active : page.activeRelayRequest with
  | none =>
    have kept : page.handleRelayPageHide =
        { page with hidden := page.hidden ++ [⟨none, none⟩] } := by
      simp [Page.handleRelayPageHide, Page.terminateRelayRequestLocally, Page.cancelRelayRequest,
        Page.clearActiveRelayRequest, active]
    rw [kept]
    refine sound.next sound.ledger sound.stopped (sound.held.hide _) ?_ (fun _ => id)
      (fun _ => .inl) (fun _ => id) fun _ => .inl
    intro clear among
    rcases List.mem_append.mp among with before | new
    · exact .inl before
    · cases List.mem_singleton.mp new
      exact .inr nofun
  | some ref =>
    obtain ⟨request, waits, -, alive⟩ := sound.active active
    generalize start : page.ended ref = page₁
    have ended : page.terminateRelayRequestLocally page.activeRelayRequest = page₁ := by
      rw [active, ← start]
      exact if_neg (by simp [alive])
    have active₁ : page₁.activeRelayRequest = some ref := by
      rw [← start]
      exact active
    have own : ((page₁.cancelRelayRequest "requester_cancelled").2.requests ref).requestId =
        (page.requests ref).requestId := by
      rw [← start]
      exact congrArg RelayRequest.requestId (ended_same page ref ref _)
    have goes := sound.end_cancel active
      ⟨(page₁.cancelRelayRequest "requester_cancelled").1, some (page.requests ref).requestId⟩
      (by rintro _ ⟨⟩; rfl)
    rw [start] at goes
    have hidden₁ : page₁.hidden = page.hidden := by
      rw [← start]
      rfl
    unfold Page.handleRelayPageHide
    rw [ended, active]
    dsimp only
    rw [Option.map_some, Page.clearActiveRelayRequest, if_pos (by simp [active₁, own]),
      cancel_hidden, hidden₁]
    exact goes

/-! ## Every event -/

theorem Sound.retrieve (sound : Sound page) {await : Await}
    (thread : page.thread = .retrieving request ref await) (answer : Page.Answer) (now : ℚ) :
    Goes page (page.retrieve request ref await answer now) := by
  have waits := sound.waits thread
  have waiting : page.thread.waiting = some request := by
    rw [thread]
    rfl
  unfold Page.retrieve
  split
  · exact sound.applyProgress_delay thread rfl _ (shortenRelayResponseDeadline_le ..)
  · split
    · exact sound.stays
    · refine sound.finish waits (request_of_waiting waiting)
        (sound.settled_of_attempted waits ?_) _
      have held := sound.held
      rw [thread] at held
      exact held.2.2 _ _ _ rfl
  · exact sound.stays
  · exact sound.stays
  · split
    · next terminated =>
      split
      · exact sound.interrupted waits waiting terminated
      · exact sound.stays
    · next alive =>
      split
      · exact sound.awaitCancellation waits waiting _ _ _
      · refine sound.awaits_same thread rfl ?_ ?_
        · intro deadline'
          split
          · rintro ⟨⟩
            rfl
          · split <;> nofun
        · intro promise message terminal
          split
          · nofun
          · split <;> nofun
      · unfold Page.whenPending
        dsimp only
        split
        · exact sound.awaits_same thread rfl (by rintro _ ⟨⟩; rfl) nofun
        · exact sound.delay thread rfl (shortenRelayResponseDeadline_le ..)
      · exact sound.poll thread rfl now
      · exact sound.whenRefused thread _ _
      · exact sound.awaitCancellation waits waiting _ _ _
      · exact sound.whenRetrieved thread (by simpa using alive) _
      · exact sound.stays

theorem Sound.selected (sound : Sound page) (thread : page.thread = .selecting)
    (fresh : request.requestId ∉ page.drawn) (autoContextAttempt : Json) :
    Goes page { page with
      drawn := request.requestId :: page.drawn
      autoContextAttempt := autoContextAttempt
      thread := .encrypting request } := by
  have active : page.activeRelayRequest = none := by
    have held := sound.held
    rwa [thread] at held
  have objects : ∀ r < page.created, (page.requests r).requestId ≠ request.requestId :=
    fun r small same => fresh (same ▸ sound.ledger.owned r small)
  have unlogged : ∀ e ∈ page.log, e.requestId ≠ request.requestId :=
    fun e member same => fresh (same ▸ sound.ledger.logged e member)
  refine ⟨⟨⟨sound.ledger.distinct, ?_, ?_, sound.ledger.known, sound.ledger.cancelled,
    sound.ledger.ordered⟩, sound.stopped, ⟨active, List.mem_cons_self, objects, unlogged⟩, ?_, ?_,
    sound.hidden⟩, fun post member new => absurd member new⟩
  · exact fun r small => List.mem_cons_of_mem _ (sound.ledger.owned r small)
  · exact fun e member => List.mem_cons_of_mem _ (sound.ledger.logged e member)
  · rintro _ ⟨⟩ reply member
    exact unlogged _ member rfl
  · intro other admitted status member answered
    refine .inl ((sound.settled other admitted status member answered).resolve_right ?_)
    rw [thread]
    nofun

theorem Sound.place (sound : Sound page) {thread' : Thread}
    (waiting : page.thread.waiting = none) (held : Held page thread')
    (request : ∀ request, thread'.request = some request → page.thread.request = some request) :
    Goes page { page with thread := thread' } := by
  have held' : Held { page with thread := thread' } thread' := by
    cases thread' with
    | idle | selecting | refused | opening => exact held
    | encrypting | dispatching => exact ⟨held.1, held.2.drawn, held.2.objects, held.2.log⟩
    | admitting | retrieving => exact ⟨⟨held.1.created, held.1.same, held.1.slot⟩, held.2⟩
  exact sound.next sound.ledger sound.stopped held' (fun _ => .inl) (fun _ => id) (fun _ => .inl)
    request fun r is => absurd (waiting.symm.trans is) nofun

theorem Sound.resume (sound : Sound page) (answer : Page.Answer) (now : ℚ)
    (fresh : FreshDraw (.resume answer now) page) : Goes page (page.resume answer now) := by
  have held := sound.held
  unfold Page.resume
  split
  · next thread => exact sound.selected thread fresh _
  · next thread =>
    rw [thread] at held
    exact sound.place (by rw [thread]; rfl) held nofun
  · next thread =>
    rw [thread] at held
    exact sound.place (by rw [thread]; rfl) held (by rw [thread]; exact fun _ => id)
  · next thread =>
    rw [thread] at held
    exact sound.returns (by rw [thread]; rfl) held.1 held.2.drawn _
  · next thread => exact sound.whenDispatched thread _ _ _
  · next thread =>
    rw [thread] at held
    exact sound.returns (by rw [thread]; rfl) held.1 held.2 _
  · next thread => exact sound.whenAdmitted thread _ _
  · next thread => exact sound.retrieve thread _ _
  · next thread => exact sound.whenOpened thread _
  · exact sound.stays

theorem Sound.step (sound : Sound page) (event : Event) (fresh : FreshDraw event page) :
    Goes page (RelayRequests.step event page) := by
  have held := sound.held
  cases event with
  | send =>
    unfold RelayRequests.step
    dsimp only
    split
    · next thread =>
      rw [thread] at held
      exact sound.place (by rw [thread]; rfl) held nofun
    · exact sound.stays
  | resume answer now => exact sound.resume answer now fresh
  | cancellationAnswered ref answer => exact sound.sendRelayCancellation ref answer
  | pageHide => exact sound.handleRelayPageHide
  | hiddenSettled i => exact (sound.settleHidden i).1

end Goes

theorem sound_runs {events : List Event} (fresh : Schedules.Along step FreshDraw events .start) :
    Sound (Schedules.runs step events .start) :=
  Schedules.along_runs (G := FreshDraw) (fun event _ fresh sound => (sound.step event fresh).sound)
    fresh sound_start

/-! ## The life of a request -/

theorem step_send_same (page : Page) :
    (step .send page).activeRelayRequest = page.activeRelayRequest ∧
      (step .send page).log = page.log := by
  unfold step
  dsimp only
  split <;> exact ⟨rfl, rfl⟩

theorem Sound.ownOnly {page : Page} (sound : Sound page) {event : Event}
    (fresh : FreshDraw event page) : OwnOnly event page where
  cleared ref active changed := by
    obtain ⟨request, waits, waiting, -⟩ := sound.active active
    cases event with
    | send => exact absurd ((step_send_same page).1.trans active) changed
    | resume answer now =>
      rw [Event.requestId, request_of_waiting waiting, Option.map_some,
        congrArg RelayRequest.requestId waits.same]
    | cancellationAnswered r answer =>
      exact absurd ((sendRelayCancellation_same page r answer).1.trans active) changed
    | pageHide => rw [Event.requestId, active, Option.map_some]
    | hiddenSettled i => exact absurd ((sound.settleHidden i).2.1.trans active) changed
  cancelled post member new := by
    obtain ⟨ref, active, is⟩ := (sound.step event fresh).cancels post member new
    obtain ⟨request, waits, waiting, -⟩ := sound.active active
    cases event with
    | send => exact absurd ((step_send_same page).2 ▸ member) new
    | resume answer now =>
      rw [Event.requestId, request_of_waiting waiting, Option.map_some, ← is, waits.same]
    | cancellationAnswered r answer =>
      exact absurd ((sendRelayCancellation_same page r answer).2 ▸ member) new
    | pageHide => rw [Event.requestId, active, Option.map_some, ← is]
    | hiddenSettled i => exact absurd ((sound.settleHidden i).2.2 ▸ member) new

/-- A request over its whole life, in every run in which no request id is drawn twice. At most one
cancellation is posted for it; its deadline never increases; its progress increases; none of it and
no response is used after the page has ended it. No event clears or cancels a request that it is not
about. When it ends, a response was retrieved, the relay has said that it is over, or its
cancellation was attempted, if and only if the reply to its dispatch reached the page without an
error. -/
theorem request_lifecycle {events : List Event}
    (fresh : Schedules.Along step FreshDraw events .start) :
    let page := Schedules.runs step events .start
    page.log.Pairwise Ordered ∧ (∀ event, FreshDraw event page → OwnOnly event page) ∧
      ∀ request status, .dispatched request true status ∈ page.log → Ended request page.log →
        (Settled request page.log ↔ Answered status) := by
  have sound := sound_runs fresh
  refine ⟨sound.ledger.ordered, fun event drawn => sound.ownOnly drawn, ?_⟩
  intro request status dispatched ended
  have known := sound.ledger.known _ dispatched
  constructor
  · intro settled
    by_contra lost
    have none := known.2 lost
    rcases settled with member | member | ⟨reason, member⟩
    · obtain ⟨r, small, same⟩ := sound.ledger.known _ member
      exact none r small same
    · obtain ⟨r, small, same⟩ := sound.ledger.known _ member
      exact none r small same
    · obtain ⟨r, small, same, -⟩ := sound.ledger.known _ member
      exact none r small (congrArg RelayRequest.requestId same)
  · intro answered
    rcases sound.settled request true status dispatched answered with settled | waiting
    · exact settled
    · rcases ended with ⟨reply, returned⟩ | terminated
      · exact absurd returned (sound.unreturned request (request_of_waiting waiting) reply)
      · obtain ⟨r, small, same⟩ := known.1 answered
        have own := congrArg RelayRequest.requestId same
        refine .inr (.inr (same ▸ sound.ledger.cancelled r small (sound.stopped r small ?_)))
        exact sound.ledger.terminated_of_log small (own ▸ terminated)

/-! ## Two runs -/

def sampleRequest : RelayRequest := ⟨"client key", "request", "token"⟩

/-- A request that is dispatched, and what comes of it. -/
def sampleRun (status : Option Nat) (events : List Event) : List Event :=
  .send :: .resume (.selected sampleRequest .null) 0 :: .resume (.encrypted true) 0 ::
    .resume (.dispatched true status) 0 :: events

/-- The page is hidden when the request has just become the active one. -/
theorem request_lifecycle_hidden :
    let page := Schedules.runs step
      (sampleRun (some 200) [.pageHide, .resume (.json none) 0]) .start
    page.log.Pairwise Ordered ∧ Settled sampleRequest page.log := by
  have fresh : Schedules.Along step FreshDraw
      (sampleRun (some 200) [.pageHide, .resume (.json none) 0]) .start :=
    ⟨trivial, List.not_mem_nil, trivial, trivial, trivial, trivial, trivial⟩
  obtain ⟨ordered, -, settled⟩ := request_lifecycle fresh
  refine ⟨ordered, (settled sampleRequest (some 200) ?_ (.inr ?_)).mpr rfl⟩
  · exact .tail _ (.tail _ (.tail _ (.head _)))
  · exact .tail _ (.tail _ (.head _))

/-- The relay takes a request, and the reply is lost: the request is never cancelled. -/
theorem lost_reply_uncancelled :
    ∃ events : List Event, Schedules.Along step FreshDraw events .start ∧
      ∃ request, .dispatched request true none ∈ (Schedules.runs step events .start).log ∧
        Ended request (Schedules.runs step events .start).log ∧
        ¬ Settled request (Schedules.runs step events .start).log := by
  have log : (Schedules.runs step (sampleRun none []) .start).log =
      [.returned "request" (.value none), .dispatched sampleRequest true none] := rfl
  refine ⟨sampleRun none [], ⟨trivial, List.not_mem_nil, trivial, trivial, trivial⟩,
    sampleRequest, ?_, ?_, ?_⟩
  · exact .tail _ (.head _)
  · exact .inl ⟨_, .head _⟩
  · simp [Settled, log]

end RelayRequests
