import TokenPlace.Api.ControlPlane

/-!
# What the control-plane limiter charges

`Balanced` relates the counters of the storage to the hits that the calls hold.
One step of one call keeps it (`balanced_step`), so it holds after every schedule.
A counter is then its initial value and the hits that are held, and a hit that is
kept was within the limit when it was made.
-/

namespace ControlPlane

variable {env : Env} {b : Bucket} {c : CheckCall} {now : ℚ} {counters : Counters}

/-! ## Sums over the calls -/

section Sums

variable {α : Type} {f : α → Nat} {p : α → Bool}

theorem sum_map_set {l : List α} {i : Nat} {old : α} (found : l[i]? = some old) (new : α) :
    ((l.set i new).map f).sum + f old = (l.map f).sum + f new := by
  induction l generalizing i with
  | nil => cases found
  | cons head tail ih =>
    cases i with
    | zero =>
      obtain rfl : head = old := by simpa using found
      simp only [List.set_cons_zero, List.map_cons, List.sum_cons]
      omega
    | succ i =>
      have rest := ih (i := i) (by simpa using found)
      simp only [List.set_cons_succ, List.map_cons, List.sum_cons]
      omega

theorem le_sum_map {l : List α} {a : α} (member : a ∈ l) : f a ≤ (l.map f).sum :=
  List.single_le_sum (fun _ _ => Nat.zero_le _) _ (List.mem_map_of_mem member)

theorem countP_le_sum_map {l : List α} (h : ∀ a ∈ l, p a = true → 1 ≤ f a) :
    l.countP p ≤ (l.map f).sum := by
  induction l with
  | nil => exact Nat.le_refl 0
  | cons a l ih =>
    have rest := ih fun x member => h x (List.mem_cons_of_mem a member)
    rw [List.countP_cons, List.map_cons, List.sum_cons]
    split
    · next satisfied =>
      have first := h a List.mem_cons_self satisfied
      omega
    · omega

theorem sum_map_eq_countP {l : List α} (h : ∀ a ∈ l, f a = if p a then 1 else 0) :
    (l.map f).sum = l.countP p := by
  induction l with
  | nil => rfl
  | cons a l ih =>
    rw [List.countP_cons, List.map_cons, List.sum_cons, h a List.mem_cons_self,
      ih fun x member => h x (List.mem_cons_of_mem a member)]
    omega

end Sums

/-! ## Hits -/

@[simp] theorem hitsOn_nil : hitsOn b [] = 0 := rfl

@[simp] theorem hitsOn_cons (h : Hit) (hits : List Hit) :
    hitsOn b (h :: hits) = hitsOn b hits + if h.bucket = b then 1 else 0 := by
  simp [hitsOn, List.countP_cons]

@[simp] theorem hitsOn_append (hits hits' : List Hit) :
    hitsOn b (hits ++ hits') = hitsOn b hits + hitsOn b hits' :=
  List.countP_append ..

@[simp] theorem hitsOn_reverse (hits : List Hit) : hitsOn b hits.reverse = hitsOn b hits :=
  List.countP_reverse ..

@[simp] theorem hitsOn_orderedHits (planned : List Hit) :
    hitsOn b (orderedHits planned) = hitsOn b planned := by
  have same : (orderedHits planned).Perm planned := by
    simpa [orderedHits] using
      List.filter_append_perm (fun h : Hit => decide (h.bucketKind ≠ "client_ip")) planned
  exact same.countP_eq _

theorem kept_le_held : c.kept env b ≤ c.held env b := by
  unfold CheckCall.kept
  split
  · exact Nat.zero_le _
  · exact Nat.le_refl _

theorem update_bucket (b' : Bucket) (n : Nat) :
    Function.update counters b' n b = if b' = b then n else counters b := by
  rw [Function.update_apply]
  by_cases same : b = b'
  · rw [if_pos same, if_pos same.symm]
  · rw [if_neg same, if_neg (Ne.symm same)]

/-! ## One step of a call -/

/-- What one step of a call does to its hits and to the counters. -/
structure Moves (env : Env) (c c' : CheckCall) (counters counters' : Counters) : Prop where
  coherent : c'.Coherent env
  counted : ∀ b, c.held env b ≤ counters b →
    counters' b + c.held env b = counters b + c'.held env b
  within : ∀ b, c'.kept env b ≤ c.kept env b ∨ counters' b ≤ b.limitItem.amount

/-- The call after its next step. -/
def CheckCall.next (env : Env) (now : ℚ) (c : CheckCall) (counters : Counters) : CheckCall :=
  { c with stage := (c.stage.advance env c.route now counters).1 }

theorem advance_moves (decrements : env.storageDecrements = true) (coherent : c.Coherent env) :
    Moves env c (c.next env now counters) counters
      (c.stage.advance env c.route now counters).2 := by
  obtain ⟨route, checks, stage⟩ := c
  cases stage with
  | testing remaining planned =>
    cases remaining with
    | nil =>
      refine ⟨fun b => ?_, fun b _ => rfl, fun b => Or.inl (Nat.le_refl 0)⟩
      have all := coherent b
      simpa [CheckCall.next, Stage.advance, CheckCall.asks] using all
    | cons check remaining =>
      by_cases passes : test (check.bucket env route) counters
      · simp only [CheckCall.next, Stage.advance, passes, if_true]
        refine ⟨fun b => ?_, fun b _ => rfl, fun b => Or.inl (Nat.le_refl 0)⟩
        have all := coherent b
        simp only [List.map_cons, List.count_cons, CheckCall.asks, beq_iff_eq] at all
        simp only [hitsOn_append, hitsOn_cons, hitsOn_nil, CheckCall.asks]
        omega
      · simp only [CheckCall.next, Stage.advance, passes]
        exact ⟨trivial, fun b _ => rfl, fun b => Or.inl (Nat.le_refl 0)⟩
  | hitting hits recorded =>
    cases hits with
    | nil =>
      -- the recorded hits are now all that the call asks for
      have all : ∀ b, hitsOn b recorded = (CheckCall.mk route checks (.hitting [] recorded)).asks env b :=
        fun b => by simpa using coherent b
      refine ⟨trivial, fun b _ => ?_, fun b => Or.inl ?_⟩
      · show counters b + hitsOn b recorded = counters b + _
        rw [all b]
        rfl
      · show _ ≤ hitsOn b recorded
        rw [all b]
        exact Nat.le_refl _
    | cons h hits =>
      by_cases succeeds : counters h.bucket + 1 ≤ h.bucket.limitItem.amount
      · simp only [CheckCall.next, Stage.advance, hit, succeeds, decide_true, if_true]
        refine ⟨fun b => ?_, fun b _ => ?_, fun b => ?_⟩
        · have all := coherent b
          simp only [hitsOn_cons, CheckCall.asks] at all
          simp only [hitsOn_append, hitsOn_cons, hitsOn_nil, CheckCall.asks]
          omega
        · simp only [CheckCall.held, hitsOn_append, hitsOn_cons, hitsOn_nil, update_bucket]
          split
          · next same =>
            rw [same]
            omega
          · omega
        · by_cases same : h.bucket = b
          · subst same
            exact Or.inr (by rw [Function.update_self]; exact succeeds)
          · exact Or.inl (by simp [CheckCall.kept, CheckCall.held, same])
      · simp only [CheckCall.next, Stage.advance, hit, succeeds, decide_false]
        refine ⟨rfl, fun b _ => ?_, fun b => Or.inl (Nat.zero_le _)⟩
        -- the failed hit is in the list that is taken back
        simp only [Bool.false_eq_true, if_false, CheckCall.held, hitsOn_reverse, hitsOn_append,
          hitsOn_cons, hitsOn_nil, update_bucket]
        split
        · next same =>
          rw [same]
          omega
        · omega
  | rollingBack hits verdict =>
    have rejected : verdict.allowed = false := coherent
    cases hits with
    | nil =>
      refine ⟨trivial, fun b _ => ?_, fun b => Or.inl ?_⟩
      · simp [CheckCall.next, Stage.advance, CheckCall.held, rejected]
      · simp [CheckCall.next, Stage.advance, CheckCall.kept, CheckCall.held, rejected]
    | cons h hits =>
      refine ⟨rejected, fun b enough => ?_, fun b => Or.inl (Nat.le_refl 0)⟩
      simp only [CheckCall.held, hitsOn_cons] at enough
      simp only [CheckCall.next, Stage.advance, storageDecr, decrements, if_true, CheckCall.held,
        hitsOn_cons, update_bucket]
      split
      · next same =>
        rw [if_pos same] at enough
        rw [same]
        omega
      · omega
  | returned verdict =>
    exact ⟨trivial, fun b _ => rfl, fun b => Or.inl (Nat.le_refl _)⟩

/-! ## Every schedule -/

/-- The calls are coherent, a counter is its initial value and the hits that are
held, and those that are kept are within the limit. -/
structure Balanced (env : Env) (initial : Counters) (s : State) : Prop where
  coherent : ∀ c ∈ s.calls, c.Coherent env
  counted : ∀ b, s.counters b = initial b + (s.calls.map (CheckCall.held env b)).sum
  within : ∀ b, (s.calls.map (CheckCall.kept env b)).sum ≤ b.limitItem.amount

theorem start_balanced (now : ℚ) (initial : Counters) :
    Balanced env initial (.start now initial) :=
  ⟨by simp [State.start], by simp [State.start], by simp [State.start]⟩

theorem made_coherent (route : String) (checks : List Check) :
    (CheckCall.made route checks).Coherent env := by
  intro b
  simp [CheckCall.made, CheckCall.asks]

theorem balanced_step (decrements : env.storageDecrements = true) {initial : Counters}
    (ev : Event) (s : State) (h : Balanced env initial s) :
    Balanced env initial (step env ev s) := by
  cases ev with
  | call route checks =>
    refine ⟨fun c member => ?_, fun b => ?_, fun b => ?_⟩
    · rcases List.mem_append.mp member with old | new
      · exact h.coherent c old
      · obtain rfl := List.mem_singleton.mp new
        exact made_coherent route checks
    · simpa [step, CheckCall.made, CheckCall.held] using h.counted b
    · simpa [step, CheckCall.made, CheckCall.kept, CheckCall.held] using h.within b
  | tick now => exact ⟨h.coherent, h.counted, h.within⟩
  | advance i =>
    cases found : s.calls[i]? with
    | none => simpa only [step, found] using h
    | some c =>
      have member : c ∈ s.calls := List.mem_of_getElem? found
      have moves : Moves env c (c.next env s.now s.counters) s.counters
          (c.stage.advance env c.route s.now s.counters).2 :=
        advance_moves decrements (h.coherent c member)
      have enough : ∀ b, c.held env b ≤ s.counters b := by
        intro b
        rw [h.counted b]
        exact Nat.le_trans (le_sum_map member) (Nat.le_add_left _ _)
      simp only [step, found]
      refine ⟨fun c' after => ?_, fun b => ?_, fun b => ?_⟩
      · rcases List.mem_or_eq_of_mem_set after with old | rfl
        · exact h.coherent c' old
        · exact moves.coherent
      · have one := moves.counted b (enough b)
        have all := sum_map_set (f := CheckCall.held env b) found (c.next env s.now s.counters)
        have before := h.counted b
        simp only [CheckCall.next] at one all ⊢
        omega
      · have one := moves.counted b (enough b)
        have held := sum_map_set (f := CheckCall.held env b) found (c.next env s.now s.counters)
        have kept := sum_map_set (f := CheckCall.kept env b) found (c.next env s.now s.counters)
        have before := h.counted b
        have room := h.within b
        have fewer : ((s.calls.set i (c.next env s.now s.counters)).map (CheckCall.kept env b)).sum ≤
            ((s.calls.set i (c.next env s.now s.counters)).map (CheckCall.held env b)).sum :=
          List.sum_le_sum fun _ _ => kept_le_held
        simp only [CheckCall.next] at one held kept fewer ⊢
        rcases moves.within b with less | room'
        · simp only [CheckCall.next] at less
          omega
        · omega

theorem balanced_runs (decrements : env.storageDecrements = true) (now : ℚ) (initial : Counters)
    (evs : List Event) :
    Balanced env initial (Schedules.runs (step env) evs (.start now initial)) :=
  Schedules.invariant_runs (fun ev s => balanced_step decrements ev s) evs (start_balanced now initial)

/-! ## What allowed calls are charged for -/

theorem one_le_asks (charges : c.Charges env b) : 1 ≤ c.asks env b :=
  List.count_pos_iff.mpr charges

theorem asks_of_distinct (distinct : c.Distinct env) :
    c.asks env b = if c.Charges env b then 1 else 0 := by
  split
  · next charges => exact List.count_eq_one_of_mem distinct charges
  · next free => exact List.count_eq_zero_of_not_mem free

theorem kept_of_allowed (allowed : c.allowed = true) : c.kept env b = c.asks env b := by
  obtain ⟨route, checks, stage⟩ := c
  cases stage <;> simp_all [CheckCall.allowed, CheckCall.kept, CheckCall.held]

theorem held_of_returned (returned : c.isReturned = true) :
    c.held env b = if c.allowed then c.asks env b else 0 := by
  obtain ⟨route, checks, stage⟩ := c
  cases stage with
  | returned verdict => rfl
  | _ => cases returned

theorem enforcedChecks_distinct (route remoteAddress : String) (identity : Identity)
    (allowIdentityBucket : Bool) (ip identityLimit : RateLimitItem) :
    (CheckCall.made route
      (enforcedChecks remoteAddress identity allowIdentityBucket ip identityLimit)).Distinct env := by
  cases identity <;> cases allowIdentityBucket <;>
    simp [CheckCall.Distinct, CheckCall.made, enforcedChecks, Identity.described, Check.bucket,
      controlPlaneBucketIdentifier]

/-- In every interleaving of any calls, the allowed calls that charge a bucket
never exceed its limit; and when all calls have returned, every counter is its
initial value and what the allowed calls ask for, which is the number of those
that charge it when no call asks for a bucket twice. -/
theorem allowed_calls_charged (decrements : env.storageDecrements = true) (now : ℚ)
    (initial : Counters) (evs : List Event) (b : Bucket) :
    let s := Schedules.runs (step env) evs (.start now initial)
    s.calls.countP (fun c => c.allowed && c.Charges env b) ≤ b.limitItem.amount ∧
    ((∀ c ∈ s.calls, c.isReturned = true) →
      s.counters b =
          initial b + (s.calls.map fun c => if c.allowed then c.asks env b else 0).sum ∧
        ((∀ c ∈ s.calls, c.Distinct env) →
          s.counters b =
            initial b + s.calls.countP fun c => c.allowed && c.Charges env b)) := by
  intro s
  have balanced : Balanced env initial s := balanced_runs decrements now initial evs
  refine ⟨Nat.le_trans (countP_le_sum_map fun c _ both => ?_) (balanced.within b), fun returned => ?_⟩
  · obtain ⟨allowed, charges⟩ := (Bool.and_eq_true _ _).mp both
    rw [kept_of_allowed allowed]
    exact one_le_asks (of_decide_eq_true charges)
  · have total : s.counters b =
        initial b + (s.calls.map fun c => if c.allowed then c.asks env b else 0).sum := by
      rw [balanced.counted b]
      congr 2
      exact List.map_congr_left fun c member => held_of_returned (returned c member)
    refine ⟨total, fun distinct => ?_⟩
    rw [total, sum_map_eq_countP]
    intro c member
    rw [asks_of_distinct (distinct c member)]
    by_cases allowed : c.allowed = true <;> by_cases charges : c.Charges env b <;>
      simp [allowed, charges]

/-- A storage with `decr` whose windows end after a minute. -/
def sampleEnv : Env := ⟨id, fun _ => 60, true⟩

/-- Two requests test one bucket with a limit of one before either hits it. -/
def sampleRace : List Event :=
  let checks : List Check := [⟨"client_ip", "192.0.2.10", ⟨1, 1, "hour"⟩⟩]
  [.call "poll" checks, .call "poll" checks, .advance 0, .advance 1, .advance 0, .advance 1,
    .advance 0, .advance 1, .advance 1, .advance 0, .advance 1]

/-- The second request takes back its own failed hit, and the counter is the one
hit of the first. -/
theorem allowed_calls_charged_sample :
    sampleEnv.storageDecrements = true ∧
    let b : Bucket := ⟨⟨1, 1, "hour"⟩, ⟨"poll", "client_ip", "192.0.2.10"⟩⟩
    let s := Schedules.runs (step sampleEnv) sampleRace (.start 0 fun _ => 0)
    s.counters b = 0 + s.calls.countP (fun c => c.allowed && c.Charges sampleEnv b) ∧
    s.calls.map CheckCall.allowed = [true, false] :=
  ⟨rfl,
    (((allowed_calls_charged rfl 0 (fun _ => 0) sampleRace _).2 (by decide +kernel)).2
      (by unfold CheckCall.Distinct; decide +kernel)),
    by decide +kernel⟩

end ControlPlane
