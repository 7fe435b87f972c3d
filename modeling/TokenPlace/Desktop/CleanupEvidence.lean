import TokenPlace.Desktop.StopCleanup

/-!
# When the evidence of a stop is truthful

With pairwise distinct relay URLs every client is latched, every relay is counted once, and the
parent accepts the `stopped` event exactly when nothing has failed, up to two timings that the
bridge reports as a failure. With a repeated URL one of its clients is never latched.
-/

namespace Operator

variable {urls : List String} {x : StopCleanup urls}

/-! ## What the claims of the event are about -/

/-- A poll thread has marked the relay in `request_poll_cancel` and has not written the result
yet. -/
def CancelPending (x : StopCleanup urls) (i : Fin urls.length) : Prop :=
  x.earlier.find? (fun call => call.1 = i) = some (i, false)

/-- Every relay that required unregistering was unregistered, and no latch, barrier, poll thread
or deadline failed. -/
structure NothingFailed (x : StopCleanup urls) : Prop where
  latches : ∀ i, (x.client i).latchRaises = false
  inTime : ∀ i, i ∈ x.arrivals
  pollThreads : x.pollThreadCleanupFailed = false
  barriers : ∀ i, ¬ CancelPending x i → (x.client i).barrierOk = true
  unregistered : ∀ i, ¬ CancelPending x i → (x.client i).requiredSecond = true →
    (x.client i).requiredCall = true → (x.client i).unregister = .yes
  /-- A client whose latch is pending is given up, so nothing may be left to unregister. -/
  nothingLeft : ∀ i, CancelPending x i → (x.client i).requiredFirst = false

/-! ## Latches -/

theorem url_inj (x : StopCleanup urls) (distinct : urls.Nodup) {i j : Fin urls.length}
    (same : x.url i = x.url j) : i = j :=
  List.nodup_iff_injective_get.mp distinct same

/-- The marked relays are those of the latched clients, each once. -/
structure CancelState.Sound (x : StopCleanup urls) (s : CancelState urls) : Prop where
  requested : s.requested = s.latched.map fun i => x.url i
  nodup : s.requested.Nodup

variable {s : CancelState urls} {t : Tally} {url : String}

theorem requestPollCancel_sound (sound : s.Sound x) (call : Fin urls.length × Bool) :
    (requestPollCancel x s call).2.Sound x := by
  unfold requestPollCancel
  dsimp only
  split
  · exact sound
  · next fresh =>
    exact ⟨by rw [List.map_cons, sound.requested], List.nodup_cons.mpr ⟨fresh, sound.nodup⟩⟩

theorem requestAll_sound (calls : List (Fin urls.length × Bool)) (sound : s.Sound x) :
    (requestAll x s calls).Sound x := by
  induction calls generalizing s with
  | nil => exact sound
  | cons call calls ih => exact ih (requestPollCancel_sound sound call)

theorem requestPollCancel_requested (s : CancelState urls) (call : Fin urls.length × Bool)
    (url : String) :
    url ∈ (requestPollCancel x s call).2.requested ↔
      url ∈ s.requested ∨ url = x.url call.1 := by
  unfold requestPollCancel
  dsimp only
  split
  · next known =>
    constructor
    · exact .inl
    · rintro (old | rfl)
      · exact old
      · exact known
  · rw [List.mem_cons, or_comm]

theorem requestAll_requested (calls : List (Fin urls.length × Bool)) (s : CancelState urls)
    (url : String) :
    url ∈ (requestAll x s calls).requested ↔
      url ∈ s.requested ∨ ∃ call ∈ calls, url = x.url call.1 := by
  induction calls generalizing s with
  | nil => simp [requestAll]
  | cons call calls ih =>
    show url ∈ (requestAll x (requestPollCancel x s call).2 calls).requested ↔ _
    rw [ih, requestPollCancel_requested, or_assoc, List.exists_mem_cons_iff]

theorem latchedClients_sound (x : StopCleanup urls) :
    ∃ s : CancelState urls, s.Sound x ∧ s.latched = latchedClients x ∧
      ∀ i, x.url i ∈ s.requested := by
  refine ⟨_, requestAll_sound (x.earlier ++ cleanupCalls urls) ⟨rfl, List.nodup_nil⟩, rfl, ?_⟩
  intro i
  rw [requestAll_requested]
  exact .inr ⟨(i, true), by simp [cleanupCalls], rfl⟩

theorem latched_iff : (∀ i, i ∈ latchedClients x) ↔ urls.Nodup := by
  obtain ⟨s, sound, rfl', requested⟩ := latchedClients_sound x
  rw [← rfl']
  have injective := List.inj_on_of_nodup_map (sound.requested ▸ sound.nodup)
  constructor
  · exact fun all => List.nodup_iff_injective_get.mpr fun i j same =>
      injective (all i) (all j) same
  · intro distinct i
    have known := requested i
    rw [sound.requested, List.mem_map] at known
    obtain ⟨j, latched, same⟩ := known
    exact url_inj x distinct same ▸ latched

theorem requestPollCancel_lookup {call : Fin urls.length × Bool}
    (other : x.url call.1 ∉ s.requested → x.url call.1 ≠ url) :
    (requestPollCancel x s call).2.results.lookup url = s.results.lookup url := by
  unfold requestPollCancel
  dsimp only
  split
  · rfl
  · next fresh =>
    split
    · rw [List.lookup_cons, beq_eq_false_iff_ne.mpr (Ne.symm (other fresh))]
    · rfl

theorem requestAll_settled (calls : List (Fin urls.length × Bool)) (known : url ∈ s.requested) :
    (requestAll x s calls).results.lookup url = s.results.lookup url := by
  induction calls generalizing s with
  | nil => rfl
  | cons call calls ih =>
    have marked := (requestPollCancel_requested (x := x) s call url).mpr (.inl known)
    refine (ih marked).trans (requestPollCancel_lookup fun fresh => ?_)
    rintro rfl
    exact fresh known

/-- The result of a relay is that of the first call for it, once that has returned. -/
theorem requestAll_lookup (distinct : urls.Nodup) (i : Fin urls.length)
    (calls : List (Fin urls.length × Bool)) (fresh : x.url i ∉ s.requested)
    (unknown : s.results.lookup (x.url i) = none) :
    (requestAll x s calls).results.lookup (x.url i) =
      match calls.find? fun call => call.1 = i with
      | some (_, true) => some (!(x.client i).latchRaises)
      | _ => none := by
  induction calls generalizing s with
  | nil => exact unknown
  | cons call calls ih =>
    by_cases own : call.1 = i
    · obtain ⟨j, returned⟩ := call
      cases own
      have marked := (requestPollCancel_requested (x := x) s (j, returned) _).mpr (.inr rfl)
      rw [List.find?_cons_of_pos (by simp)]
      refine (requestAll_settled calls marked).trans ?_
      unfold requestPollCancel
      rw [if_neg fresh]
      cases returned with
      | true => exact List.lookup_cons_self
      | false => exact unknown
    · have ne : x.url call.1 ≠ x.url i := fun same => own (url_inj x distinct same)
      rw [List.find?_cons_of_neg (by simpa using own)]
      refine ih (fun marked => ?_) ((requestPollCancel_lookup fun _ => ne).trans unknown)
      obtain old | new := (requestPollCancel_requested s call _).mp marked
      · exact fresh old
      · exact ne new.symm

theorem cleanupCalls_take (i : Fin urls.length) :
    ∀ call ∈ (cleanupCalls urls).take i, call.1 ≠ i := by
  intro call member same
  rw [cleanupCalls, ← List.map_take, List.mem_map] at member
  obtain ⟨j, before, rfl⟩ := member
  obtain ⟨k, lt, at_k⟩ := List.mem_take_iff_getElem.mp before
  rw [List.getElem_finRange] at at_k
  have value := congrArg Fin.val (at_k.trans same)
  simp only [Fin.val_cast] at value
  omega

theorem latchOk_eq (distinct : urls.Nodup) (i : Fin urls.length) :
    latchOk x i = true ↔ (x.client i).latchRaises = false ∧ ¬ CancelPending x i := by
  have uncalled : ∀ call ∈ (cleanupCalls urls).take i, ¬ (decide (call.1 = i) = true) := by
    simpa using cleanupCalls_take i
  have found : (x.earlier ++ (cleanupCalls urls).take i).find? (fun call => call.1 = i) =
      x.earlier.find? fun call => call.1 = i := by
    rw [List.find?_append, List.find?_eq_none.mpr uncalled, Option.or_none]
  have result := requestAll_lookup (x := x) distinct i (x.earlier ++ (cleanupCalls urls).take i)
    (s := ⟨[], [], []⟩) List.not_mem_nil rfl
  have marked : x.url i ∈ (cancelStateAt x i).requested ↔
      ∃ call ∈ x.earlier ++ (cleanupCalls urls).take i, x.url i = x.url call.1 :=
    (requestAll_requested _ _ _).trans (or_iff_right List.not_mem_nil)
  rw [found] at result
  unfold latchOk requestPollCancel CancelPending
  dsimp only
  cases first : x.earlier.find? fun call => call.1 = i with
  | none =>
    rw [if_neg]
    · simp
    · rw [marked]
      rintro ⟨call, member, same⟩
      have own := (url_inj x distinct same).symm
      obtain early | late := List.mem_append.mp member
      · exact List.find?_eq_none.mp first call early (decide_eq_true own)
      · exact cleanupCalls_take i call late own
  | some call =>
    obtain ⟨j, returned⟩ := call
    have own : j = i := by simpa using List.find?_some first
    subst own
    have early := List.mem_of_find?_eq_some first
    rw [if_pos (marked.mpr ⟨_, List.mem_append_left _ early, rfl⟩)]
    rw [first] at result
    rw [show (cancelStateAt x j).results.lookup (x.url j) = _ from result]
    cases returned <;> simp

/-! ## The results of the queue -/

/-- A result that does not count as a failure. -/
def CleanupResult.ok (r : CleanupResult) : Bool := r.success && !r.barrierFailed

theorem cleanupOneRelay_url (i : Fin urls.length) : (cleanupOneRelay x i).url = x.url i := by
  unfold cleanupOneRelay
  dsimp only
  repeat' split
  all_goals rfl

theorem cleanupOneRelay_ok (i : Fin urls.length) :
    (cleanupOneRelay x i).ok = true ↔
      latchOk x i = true ∧ (x.client i).barrierOk = true ∧
        ((x.client i).requiredSecond = true → (x.client i).requiredCall = true →
          (x.client i).unregister = .yes) := by
  unfold cleanupOneRelay CleanupResult.ok CleanupClient.unregisterWithSharedDeadline
  dsimp only
  cases latchOk x i <;> cases (x.client i).barrierOk <;>
    cases (x.client i).requiredSecond <;> cases (x.client i).requiredCall <;> simp

theorem cleanupOneRelay_required {i : Fin urls.length} (ok : (cleanupOneRelay x i).ok = true) :
    (cleanupOneRelay x i).required = (x.client i).requiredSecond ∧
      ((cleanupOneRelay x i).required && (cleanupOneRelay x i).attempted) =
        (x.client i).requiredSecond := by
  have held := (cleanupOneRelay_ok i).mp ok
  unfold cleanupOneRelay
  dsimp only
  rw [held.1, held.2.1]
  cases (x.client i).requiredSecond <;> exact ⟨rfl, rfl⟩

/-! ## The counts -/

theorem Tally.take_fresh {r : CleanupResult} (fresh : r.url ∉ t.seen) :
    t.take r =
      { seen := r.url :: t.seen
        required := t.required || r.required
        attempted := t.attempted || (r.required && r.attempted)
        succeeded := if r.required && r.ok then r.url :: t.succeeded else t.succeeded
        failed := if r.ok then t.failed else r.url :: t.failed } := by
  unfold Tally.take CleanupResult.ok
  rw [if_neg fresh]
  cases r.required <;> cases r.success <;> cases r.barrierFailed <;> simp

/-- The loop over the queue takes every result when no two are of one relay. -/
theorem Tally.drain_eq (expected : Nat) (results : List CleanupResult)
    (distinct : (results.map (·.url)).Nodup) (fresh : ∀ r ∈ results, r.url ∉ t.seen)
    (room : t.seen.length + results.length ≤ expected) :
    t.drain expected results =
      { seen := (results.map (·.url)).reverse ++ t.seen
        required := t.required || results.any (·.required)
        attempted := t.attempted || results.any fun r => r.required && r.attempted
        succeeded := ((results.filter fun r => r.required && r.ok).map (·.url)).reverse ++
          t.succeeded
        failed := ((results.filter fun r => !r.ok).map (·.url)).reverse ++ t.failed } := by
  induction results generalizing t with
  | nil => simp [Tally.drain]
  | cons r results ih =>
    rw [List.map_cons, List.nodup_cons] at distinct
    rw [List.length_cons] at room
    rw [Tally.drain, if_pos (by omega), Tally.take_fresh (fresh r List.mem_cons_self)]
    rw [ih distinct.2]
    · cases required : r.required <;> cases ok : r.ok <;>
        simp [required, ok, Bool.or_assoc]
    · intro later member
      have other : later.url ≠ r.url := fun same =>
        distinct.1 (same ▸ List.mem_map_of_mem member)
      simp [other, fresh later (List.mem_cons_of_mem _ member)]
    · simp only [List.length_cons]
      omega

theorem misses_spec (clients : List (Fin urls.length)) (t : Tally) :
    (clients.foldl (Tally.miss x) t).seen = t.seen ∧
      (clients.foldl (Tally.miss x) t).succeeded = t.succeeded ∧
      (clients.foldl (Tally.miss x) t).failed =
        ((clients.filter fun i => x.url i ∉ t.seen).map x.url).reverse ++ t.failed := by
  induction clients generalizing t with
  | nil => exact ⟨rfl, rfl, rfl⟩
  | cons i clients ih =>
    rw [List.foldl_cons]
    obtain ⟨seen, succeeded, failed⟩ := ih (t.miss x i)
    rw [seen, succeeded, failed]
    by_cases known : x.url i ∈ t.seen
    · simp [Tally.miss, known]
    · simp [Tally.miss, known]

theorem misses_none (clients : List (Fin urls.length))
    (known : ∀ i ∈ clients, x.url i ∈ t.seen) : clients.foldl (Tally.miss x) t = t := by
  induction clients with
  | nil => rfl
  | cons i clients ih =>
    rw [List.foldl_cons, Tally.miss, if_pos (known i List.mem_cons_self)]
    exact ih fun j member => known j (List.mem_cons_of_mem _ member)

/-- The counts when the queue is read. -/
def drained (x : StopCleanup urls) : Tally :=
  (tallyStart x).drain urls.length (x.arrivals.map (cleanupOneRelay x))

theorem drained_eq (distinct : urls.Nodup) :
    drained x =
      { seen := (x.arrivals.map x.url).reverse
        required := (tallyStart x).required ||
          x.arrivals.any fun i => (cleanupOneRelay x i).required
        attempted := x.arrivals.any fun i =>
          (cleanupOneRelay x i).required && (cleanupOneRelay x i).attempted
        succeeded := ((x.arrivals.filter fun i =>
          (cleanupOneRelay x i).required && (cleanupOneRelay x i).ok).map x.url).reverse
        failed := ((x.arrivals.filter fun i => !(cleanupOneRelay x i).ok).map x.url).reverse } := by
  have names : ∀ clients : List (Fin urls.length),
      (clients.map (cleanupOneRelay x)).map (·.url) = clients.map x.url := fun clients => by
    rw [List.map_map]
    exact List.map_congr_left fun i _ => cleanupOneRelay_url i
  have room : x.arrivals.length ≤ urls.length := by
    simpa using List.Nodup.length_le_card x.once
  unfold drained
  rw [Tally.drain_eq]
  · simp only [tallyStart, List.filter_map, names, List.any_map, List.append_nil, Bool.false_or]
    rfl
  · rw [names]
    exact x.once.map fun i j same => url_inj x distinct same
  · exact fun _ _ => List.not_mem_nil
  · simpa [tallyStart] using room

theorem url_mem_seen (distinct : urls.Nodup) (i : Fin urls.length) :
    x.url i ∈ (drained x).seen ↔ i ∈ x.arrivals := by
  rw [drained_eq distinct, List.mem_reverse, List.mem_map]
  constructor
  · rintro ⟨j, member, same⟩
    exact url_inj x distinct same ▸ member
  · exact fun member => ⟨i, member, rfl⟩

theorem counted_once (distinct : urls.Nodup) :
    ((tallyAll x).succeeded ++ (tallyAll x).failed).Nodup := by
  obtain ⟨-, succeeded, failed⟩ := misses_spec (x := x) (List.finRange _) (drained x)
  have whole : (tallyAll x).succeeded ++ (tallyAll x).failed =
      ((x.arrivals.filter fun i =>
          (cleanupOneRelay x i).required && (cleanupOneRelay x i).ok).reverse ++
        (((List.finRange _).filter fun i => i ∉ x.arrivals).reverse ++
          (x.arrivals.filter fun i => !(cleanupOneRelay x i).ok).reverse)).map x.url := by
    change (List.foldl _ (drained x) _).succeeded ++ (List.foldl _ (drained x) _).failed = _
    rw [succeeded, failed]
    simp only [url_mem_seen distinct, List.map_append, List.map_reverse]
    rw [drained_eq distinct]
  rw [whole]
  refine List.Nodup.map (fun i j same => url_inj x distinct same) ?_
  simp only [List.nodup_append, List.nodup_reverse, List.mem_append, List.mem_reverse,
    List.mem_filter]
  refine ⟨x.once.filter _, ⟨(List.nodup_finRange _).filter _, x.once.filter _, ?_⟩, ?_⟩
  · rintro i ⟨-, absent⟩ j ⟨member, -⟩ rfl
    exact of_decide_eq_true absent member
  · rintro i ⟨member, counted⟩ j (⟨-, absent⟩ | ⟨-, failure⟩) rfl
    · exact of_decide_eq_true absent member
    · simp_all

theorem failureCount_eq_zero :
    failureCount x = 0 ↔ x.pollThreadCleanupFailed = false ∧ (tallyAll x).failed = [] := by
  unfold failureCount
  split
  · next unended => simp [unended.1]
  · next ended =>
    rw [List.length_eq_zero_iff]
    constructor
    · intro none_failed
      exact ⟨by simpa [none_failed] using ended, none_failed⟩
    · exact And.right

theorem failed_eq_nil (distinct : urls.Nodup) :
    (tallyAll x).failed = [] ↔
      (∀ i, i ∈ x.arrivals) ∧ ∀ i, (cleanupOneRelay x i).ok = true := by
  have failed := (misses_spec (x := x) (List.finRange _) (drained x)).2.2
  change (List.foldl _ (drained x) _).failed = [] ↔ _
  rw [failed, List.append_eq_nil_iff]
  simp only [url_mem_seen distinct]
  rw [drained_eq distinct]
  simp only [List.reverse_eq_nil_iff, List.map_eq_nil_iff, List.filter_eq_nil_iff,
    List.mem_finRange, true_implies, decide_eq_true_eq, not_not, Bool.not_eq_true',
    Bool.not_eq_false]
  exact and_congr_right fun arrived => ⟨fun all i => all i (arrived i), fun all i _ => all i⟩

/-! ## The event -/

/-- A cleanup without failures counts the relays that required unregistering at the barrier. -/
theorem tallyAll_of_none_failed (distinct : urls.Nodup) (none_failed : (tallyAll x).failed = []) :
    ((tallyAll x).required = true ↔
        (∃ i, (x.client i).requiredStart = true) ∨ ∃ i, (x.client i).requiredSecond = true) ∧
      ((tallyAll x).attempted = true ↔ ∃ i, (x.client i).requiredSecond = true) ∧
      (0 < (tallyAll x).succeeded.length ↔ ∃ i, (x.client i).requiredSecond = true) := by
  obtain ⟨arrived, ok⟩ := (failed_eq_nil distinct).mp none_failed
  have drained_all : tallyAll x = drained x :=
    misses_none _ fun i _ => (url_mem_seen distinct i).mpr (arrived i)
  rw [drained_all, drained_eq distinct]
  have required := fun i => (cleanupOneRelay_required (ok i)).1
  have attempted := fun i => (cleanupOneRelay_required (ok i)).2
  refine ⟨?_, ?_, ?_⟩
  · simp [tallyStart, required, arrived]
  · simp [attempted, arrived]
  · simp [List.length_pos_iff, required, ok, arrived]

/-- The parent accepts the event exactly when nothing counts as a failure and a relay that
required unregistering at first still does at the barrier. -/
theorem coherentSuccess_iff (distinct : urls.Nodup) {status : ComputeNodeStatus} {session : String}
    (current : status.operatorSessionId = some session) (named : session ≠ "") :
    coherentSuccess (takeCleanup status (stoppedEvent x session)) = true ↔
      failureCount x = 0 ∧ ((∃ i, (x.client i).requiredStart = true) →
        ∃ i, (x.client i).requiredSecond = true) := by
  have taken : (stoppedEvent x session).type = some "stopped" ∧
      (stoppedEvent x session).operatorSessionId.any (fun session => session ≠ "") ∧
      status.operatorSessionId = (stoppedEvent x session).operatorSessionId := by
    exact ⟨rfl, by simpa [stoppedEvent] using named, current⟩
  rw [takeCleanup, if_pos taken]
  simp only [coherentSuccess, stoppedEvent, Option.getD_some]
  by_cases counted : failureCount x = 0
  · have none_failed := (failureCount_eq_zero.mp counted).2
    obtain ⟨required, attempted, succeeded⟩ := tallyAll_of_none_failed distinct none_failed
    have outcome : cleanupOutcome x =
        if (tallyAll x).required then "complete" else "not_required" := by
      simp [cleanupOutcome, counted]
    rw [outcome]
    cases needs : (tallyAll x).required with
    | true =>
      have evident : ((tallyAll x).attempted && decide (0 < (tallyAll x).succeeded.length)) =
          true ↔ ∃ i, (x.client i).requiredSecond = true := by
        rw [Bool.and_eq_true, decide_eq_true_eq, attempted, succeeded, and_self]
      have still : ((∃ i, (x.client i).requiredStart = true) →
          ∃ i, (x.client i).requiredSecond = true) ↔
            ∃ i, (x.client i).requiredSecond = true :=
        ⟨fun kept => (required.mp needs).elim kept id, fun second _ => second⟩
      rw [if_pos rfl, and_iff_right counted, still, ← evident]
      simp [counted]
    | false =>
      have unneeded := not_or.mp (mt required.mpr (by simp [needs]))
      have unattempted : (tallyAll x).attempted = false :=
        Bool.eq_false_iff.mpr (mt attempted.mp unneeded.2)
      have uncounted : (tallyAll x).succeeded.length = 0 :=
        Nat.eq_zero_of_not_pos (mt succeeded.mp unneeded.2)
      simp [counted, unattempted, uncounted, unneeded.1]
  · simp [counted]

theorem failureCount_iff (distinct : urls.Nodup) :
    failureCount x = 0 ↔ NothingFailed x ∧ ∀ i, ¬ CancelPending x i := by
  rw [failureCount_eq_zero, failed_eq_nil distinct]
  simp only [cleanupOneRelay_ok, latchOk_eq distinct]
  constructor
  · rintro ⟨ended, arrived, ok⟩
    refine ⟨⟨fun i => (ok i).1.1, arrived, ended, fun i _ => (ok i).2.1,
      fun i _ => (ok i).2.2, fun i pending => ?_⟩, fun i => (ok i).1.2⟩
    exact absurd pending (ok i).1.2
  · rintro ⟨h, returned⟩
    exact ⟨h.pollThreads, h.inTime, fun i =>
      ⟨⟨h.latches i, returned i⟩, h.barriers i (returned i), h.unregistered i (returned i)⟩⟩

/-- A relay that is configured with and without the slash at its end. -/
def configuredTwice : RelayConfig where
  urlparse _ := ⟨"https", "relay.example", "", none, "relay.example", "", ""⟩
  candidates := ["https://relay.example", "https://relay.example/"]
  cliPort := none
  envPort := none

/-- A cleanup in which every hook succeeds. -/
def cleanCleanup (urls : List String) : StopCleanup urls where
  client _ :=
    { latchRaises := false
      requiredStart := true
      requiredFirst := true
      requiredSecond := true
      requiredCall := true
      requiredMissing := false
      quiescence := .yes
      heartbeatStop := .yes
      unregister := .yes
      unregisterStarted := true }
  earlier := []
  arrivals := List.finRange _
  once := List.nodup_finRange _
  pollThreadCleanupFailed := false
  deadlinePassed := false

end Operator
