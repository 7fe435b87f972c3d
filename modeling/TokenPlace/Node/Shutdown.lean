import TokenPlace.Lib.Schedules
import TokenPlace.Node.Registration

/-!
# The node is gone after its shutdown

A registration is counted as a mutation from before its request is sent until the
relay is recorded, and no mutation begins once the latch is set. So when the
shutdown call has waited for the count to drop to zero, every relay that has the
node is among the recorded ones, and the call removes them all.

Two windows are not covered: the polling thread records the relay a second time
after its mutation has ended, and `ComputeNodeRuntime.stop` looks for a
registration before it has waited for the mutations. `Settled` excludes them.
-/

namespace ComputeNode

open Schedules

variable {env : NodeEnv} {s s' : NodeState} {p p' h : Stage}

/-! ## What a registering thread can do -/

/-- Where a thread stands with a registration. -/
inductive Stage
  | clear
  | posting (url : String)
  | recording (url : String)
  | finishing (url : String)
  | committing (url : String)
deriving DecidableEq

/-- The stage of a registration. -/
def RegisterTask.stage (url : String) : RegisterTask → Stage
  | .begin => .clear
  | .post => .posting url
  | .record => .recording url
  | .finish => .finishing url

/-- The stage of the polling thread. -/
def PollTask.stage : PollTask → Stage
  | .register url _ task => task.stage url
  | .commit url _ => .committing url
  | _ => .clear

/-- The stage of the heartbeat thread. -/
def HeartbeatTask.stage : HeartbeatTask → Stage
  | .register url _ task => task.stage url
  | .checkStopEvent url _ | .checkStoppedAgain url _ | .commit url _ => .committing url
  | _ => .clear

/-- The thread is inside a mutation. -/
def Stage.mutating : Stage → Bool
  | .posting _ | .recording _ | .finishing _ => true
  | _ => false

/-- The registration has been recorded, and the relay may be added again. -/
def Stage.recorded : Stage → Option String
  | .finishing url | .committing url => some url
  | _ => none

/-- The steps of a thread that registers the node, and what it does not notice. -/
inductive Change (s : NodeState) : Stage → NodeState → Stage → Prop
  | waits (p : Stage) (due : Bool) : Change s p { s with leaseDue := due } p
  | looks (active : Nat) : Change s .clear { s with activeRelayIndex := active } .clear
  | forgoes (url : String) : Change s (.committing url) s .clear
  | begins (url : String) (unlatched : s.mutationLatched = false) :
      Change s .clear { s with mutationCount := s.mutationCount + 1 } (.posting url)
  | posts (url : String) :
      Change s (.posting url)
        { s with
          relays := insert url s.relays
          controlCredentials :=
            if url ∈ s.relays then s.controlCredentials else insert url s.controlCredentials }
        (.recording url)
  | records (url : String) :
      Change s (.recording url)
        { s with
          registeredRelays := insert url s.registeredRelays
          unregisterComplete := false }
        (.finishing url)
  | finishes (url : String) :
      Change s (.finishing url) { s with mutationCount := s.mutationCount - 1 } (.committing url)
  | commits (url : String) (complete : Bool) :
      Change s (.committing url)
        { s with
          registeredRelays := insert url s.registeredRelays
          unregisterComplete := complete }
        .clear

variable {heartbeat : HeartbeatTask} {loop : Unregistering} {url : String} {task : ShutdownTask}

theorem registerStep_more {task next : RegisterTask}
    (more : registerStep url s task = (s', .more next)) :
    Change s (task.stage url) s' (next.stage url) := by
  cases task with
  | begin =>
    simp only [registerStep] at more
    split at more
    · cases more
    · next unlatched =>
      cases more
      exact .begins url (Bool.eq_false_iff.mpr unlatched)
  | post =>
    cases more
    exact .posts url
  | record =>
    cases more
    exact .records url
  | finish => cases more

theorem registerStep_refused {task : RegisterTask}
    (refused : registerStep url s task = (s', .refused)) : task = .begin ∧ s' = s := by
  cases task with
  | begin =>
    simp only [registerStep] at refused
    split at refused
    · cases refused
      exact ⟨rfl, rfl⟩
    · cases refused
  | post | record | finish => cases refused

theorem registerStep_registered {task : RegisterTask}
    (registered : registerStep url s task = (s', .registered)) :
    task = .finish ∧ s' = { s with mutationCount := s.mutationCount - 1 } := by
  cases task with
  | begin =>
    simp only [registerStep] at registered
    split at registered <;> cases registered
  | finish =>
    cases registered
    exact ⟨rfl, rfl⟩
  | post | record => cases registered

theorem pollStep_change (s : NodeState) (task : PollTask) :
    Change s task.stage (pollStep env s task).1 (pollStep env s task).2.stage := by
  have looks : Change s .clear s .clear := .looks s.activeRelayIndex
  cases task with
  | candidates urls => cases urls <;> exact looks
  | register url rest task =>
    simp only [pollStep]
    split
    · next more => exact registerStep_more more
    · next refused =>
      obtain ⟨rfl, rfl⟩ := registerStep_refused refused
      exact looks
    · next registered =>
      obtain ⟨rfl, rfl⟩ := registerStep_registered registered
      exact .finishes url
  | commit url rest => exact .commits url false
  | poll url rest => exact looks
  | checkPolled url rest =>
    simp only [pollStep]
    split
    · exact looks
    · exact .looks _
  | checkStopped url rest requiresRegister =>
    simp only [pollStep, NodeState.unlessStopped]
    cases s.pollingStopped <;> cases requiresRegister <;> exact looks
  | idle | checkStoppedAgain url rest | checkCommitted url rest | checkBeforePoll url rest =>
    simp only [pollStep, NodeState.unlessStopped]
    cases s.pollingStopped <;> exact looks

theorem heartbeatStep_change (s : NodeState) (task : HeartbeatTask) :
    Change s task.stage (heartbeatStep env s task).1 (heartbeatStep env s task).2.stage := by
  have looks : Change s .clear s .clear := .looks s.activeRelayIndex
  cases task with
  | waiting =>
    simp only [heartbeatStep]
    cases s.heartbeatStop <;> exact looks
  | checkStopped =>
    simp only [heartbeatStep]
    cases s.pollingStopped <;> exact looks
  | candidates urls =>
    cases urls with
    | nil => exact looks
    | cons url rest =>
      simp only [heartbeatStep]
      cases s.heartbeatStop <;> cases s.leaseDue <;> exact looks
  | register url rest task =>
    simp only [heartbeatStep]
    split
    · next more => exact registerStep_more more
    · next refused =>
      obtain ⟨rfl, rfl⟩ := registerStep_refused refused
      exact looks
    · next registered =>
      obtain ⟨rfl, rfl⟩ := registerStep_registered registered
      exact .finishes url
  | checkStopEvent url rest =>
    simp only [heartbeatStep]
    cases s.heartbeatStop
    · exact .waits (.committing url) s.leaseDue
    · exact .forgoes url
  | checkStoppedAgain url rest =>
    simp only [heartbeatStep]
    cases s.pollingStopped
    · exact .waits (.committing url) s.leaseDue
    · exact .forgoes url
  | commit url rest => exact .commits url s.unregisterComplete
  | snapshot | ended => exact looks

/-! ## Before the removal -/

/-- The mutations that the two threads have begun are counted. -/
def Counted (s : NodeState) (p h : Stage) : Prop :=
  s.mutationCount = p.mutating.toNat + h.mutating.toNat

theorem Counted.symm (counted : Counted s p h) : Counted s h p := counted.trans (Nat.add_comm _ _)

theorem Change.counted (change : Change s p s' p') (counted : Counted s p h) :
    Counted s' p' h := by
  unfold Counted at *
  cases change with
  | begins url unlatched | finishes url =>
    simp only [counted, Stage.mutating, Bool.toNat_false, Bool.toNat_true]
    omega
  | waits | looks | forgoes | posts | records | commits => exact counted

/-- What holds until the shutdown call removes the first relay. -/
structure Recorded (s : NodeState) (p h : Stage) : Prop where
  covered : ∀ url ∈ s.relays, url ∈ s.registeredRelays ∨ p = .recording url ∨ h = .recording url
  delivered : ∀ url, p = .recording url ∨ h = .recording url → url ∈ s.relays
  recorded : ∀ url, p.recorded = some url ∨ h.recorded = some url → url ∈ s.registeredRelays
  credentialed : ∀ url, url ∈ s.registeredRelays ∨ url ∈ s.relays → url ∈ s.controlCredentials

theorem Recorded.symm (recorded : Recorded s p h) : Recorded s h p where
  covered url member := (recorded.covered url member).imp_right Or.symm
  delivered url answered := recorded.delivered url answered.symm
  recorded url noted := recorded.recorded url noted.symm
  credentialed := recorded.credentialed

theorem Change.recorded (change : Change s p s' p') (recorded : Recorded s p h) :
    Recorded s' p' h := by
  obtain ⟨covered, delivered, noted, credentialed⟩ := recorded
  cases change with
  | waits p due | looks active => exact ⟨covered, delivered, noted, credentialed⟩
  | forgoes url | begins url unlatched =>
    refine ⟨fun url member => ?_, fun url answered => delivered url (Or.inr ?_),
      fun url done => noted url (Or.inr ?_), credentialed⟩
    · exact (covered url member).imp_right fun answered => Or.inr (by simpa using answered)
    · simpa using answered
    · simpa [Stage.recorded] using done
  | posts url =>
    refine ⟨fun url' member => ?_, fun url' answered => ?_, fun url' done => ?_,
      fun url' known => ?_⟩
    · rcases Finset.mem_insert.mp member with rfl | before
      · exact Or.inr (Or.inl rfl)
      · exact (covered url' before).imp_right fun answered => Or.inr (by simpa using answered)
    · rcases answered with same | other
      · cases same
        exact Finset.mem_insert_self _ _
      · exact Finset.mem_insert_of_mem (delivered url' (Or.inr other))
    · exact noted url' (Or.inr (by simpa [Stage.recorded] using done))
    · dsimp only at known ⊢
      split
      · next there =>
        refine credentialed url' (known.imp_right fun member => ?_)
        rcases Finset.mem_insert.mp member with rfl | before
        · exact there
        · exact before
      · rcases known with registered | member
        · exact Finset.mem_insert_of_mem (credentialed url' (Or.inl registered))
        · rcases Finset.mem_insert.mp member with rfl | before
          · exact Finset.mem_insert_self _ _
          · exact Finset.mem_insert_of_mem (credentialed url' (Or.inr before))
  | records url =>
    have there : url ∈ s.relays := delivered url (Or.inl rfl)
    refine ⟨fun url' member => ?_, fun url' answered => delivered url' (Or.inr ?_),
      fun url' done => ?_, fun url' known => credentialed url' ?_⟩
    · rcases covered url' member with before | same | other
      · exact Or.inl (Finset.mem_insert_of_mem before)
      · cases same
        exact Or.inl (Finset.mem_insert_self _ _)
      · exact Or.inr (Or.inr other)
    · simpa using answered
    · rcases done with same | other
      · cases same
        exact Finset.mem_insert_self _ _
      · exact Finset.mem_insert_of_mem (noted url' (Or.inr other))
    · rcases known with registered | member
      · rcases Finset.mem_insert.mp registered with rfl | before
        · exact Or.inr there
        · exact Or.inl before
      · exact Or.inr member
  | finishes url =>
    refine ⟨fun url' member => ?_, fun url' answered => delivered url' (Or.inr ?_),
      noted, credentialed⟩
    · exact (covered url' member).imp_right fun answered => Or.inr (by simpa using answered)
    · simpa using answered
  | commits url complete =>
    have there : url ∈ s.registeredRelays := noted url (Or.inl rfl)
    have same : insert url s.registeredRelays = s.registeredRelays :=
      Finset.insert_eq_of_mem there
    refine ⟨fun url' member => ?_, fun url' answered => delivered url' (Or.inr ?_),
      fun url' done => ?_, fun url' known => credentialed url' ?_⟩
    · dsimp only
      rw [same]
      exact (covered url' member).imp_right fun answered => Or.inr (by simpa using answered)
    · simpa using answered
    · dsimp only
      rw [same]
      exact noted url' (Or.inr (by simpa [Stage.recorded] using done))
    · dsimp only at known
      rwa [same] at known

theorem Change.latched (change : Change s p s' p') : s'.mutationLatched = s.mutationLatched := by
  cases change <;> rfl

/-- What a thread outside of every mutation can still do once the latch is set. -/
structure Quiet (s : NodeState) (p : Stage) (s' : NodeState) (p' : Stage) : Prop where
  still : p'.mutating = false
  relays : s'.relays = s.relays
  credentials : s'.controlCredentials = s.controlCredentials
  kept : ∀ url ∈ s.registeredRelays, url ∈ s'.registeredRelays
  added : ∀ url ∈ s'.registeredRelays, url ∈ s.registeredRelays ∨ p = .committing url
  committing : ∀ url, p' = .committing url → p = .committing url

theorem Change.quiet (change : Change s p s' p') (latched : s.mutationLatched = true)
    (still : p.mutating = false) : Quiet s p s' p' := by
  cases change with
  | waits p due => exact ⟨still, rfl, rfl, fun _ h => h, fun _ h => Or.inl h, fun _ h => h⟩
  | looks active => exact ⟨rfl, rfl, rfl, fun _ h => h, fun _ h => Or.inl h, fun _ h => h⟩
  | forgoes url => exact ⟨rfl, rfl, rfl, fun _ h => h, fun _ h => Or.inl h, nofun⟩
  | begins url unlatched =>
    rw [latched] at unlatched
    cases unlatched
  | posts url | records url | finishes url => cases still
  | commits url complete =>
    refine ⟨rfl, rfl, rfl, fun _ h => Finset.mem_insert_of_mem h, fun url' h => ?_, nofun⟩
    rcases Finset.mem_insert.mp h with rfl | before
    · exact Or.inr rfl
    · exact Or.inl before

/-! ## The shutdown call, step by step -/

/-- The shutdown call has waited for the heartbeat thread and for the mutations. -/
structure Quiesced (x : NodeState) (p : Stage) (heartbeat : HeartbeatTask) : Prop where
  latched : x.mutationLatched = true
  ended : heartbeat = .ended
  still : p.mutating = false

/-- What the shutdown call has reached before it removes a relay. -/
def ShutdownTask.Reached (x : NodeState) (p : Stage) (heartbeat : HeartbeatTask) :
    ShutdownTask → Prop
  | .latchStopped _ | .latchMutations _ => True
  | .latchHeartbeat _ | .stopHeartbeat _ | .joinHeartbeat _ => x.mutationLatched = true
  | .decide | .quiesce _ => x.mutationLatched = true ∧ heartbeat = .ended
  | .checkRegistered _ => Quiesced x p heartbeat
  | .collect _ urls targets =>
    Quiesced x p heartbeat ∧ (targets ++ urls).Nodup ∧ ∀ url ∈ targets, url ∈ x.registeredRelays
  | .collectOthers _ targets =>
    Quiesced x p heartbeat ∧ targets.Nodup ∧ ∀ url ∈ targets, url ∈ x.registeredRelays
  | _ => False

/-- The loop of `unregister_from_relay`: the relays that still have the node are
left to do, and what is registered is left to do or has been done, but for the
relay that is about to be discarded. -/
structure Removing (x : NodeState) (p : Stage) (heartbeat : HeartbeatTask)
    (discarding : Option String) (loop : Unregistering) : Prop where
  quiesced : Quiesced x p heartbeat
  failed : loop.failed = []
  relays : ∀ url ∈ x.relays, url ∈ loop.remaining
  registered : ∀ url, url ∈ x.registeredRelays ∨ p = .committing url →
    url ∈ loop.remaining ∨ url ∈ loop.unregistered ∨ discarding = some url
  credentials : ∀ url ∈ loop.remaining, url ∈ x.controlCredentials
  distinct : (discarding.toList ++ loop.remaining).Nodup
  done : loop.unregistered.length + discarding.toList.length + loop.remaining.length =
    loop.targets.length

/-- The node is registered nowhere, and no registration is under way or can begin. -/
structure ShutDown (x : NodeState) (p h : Stage) : Prop where
  latched : x.mutationLatched = true
  poll : p.mutating = false
  heartbeat : h.mutating = false
  registered : x.registeredRelays = ∅
  relays : x.relays = ∅

/-- The invariant of each step of the shutdown call. -/
def Progress (x : NodeState) (p : Stage) (heartbeat : HeartbeatTask) : ShutdownTask → Prop
  | .unregister _ loop => Removing x p heartbeat none loop
  | .discard _ url loop => Removing x p heartbeat (some url) loop
  | .returned result =>
    ShutDown x p heartbeat.stage ∧ heartbeat = .ended ∧ p.recorded = none ∧
      result ≠ .unregistered false
  | task => Recorded x p heartbeat.stage ∧ task.Reached x p heartbeat

theorem Quiesced.change (quiesced : Quiesced s p heartbeat)
    (change : Change s p s' p') : Quiesced s' p' heartbeat where
  latched := change.latched.trans quiesced.latched
  ended := quiesced.ended
  still := (change.quiet quiesced.latched quiesced.still).still

theorem Removing.change {discarding : Option String}
    (removing : Removing s p heartbeat discarding loop)
    (change : Change s p s' p') : Removing s' p' heartbeat discarding loop := by
  have quiet := change.quiet removing.quiesced.latched removing.quiesced.still
  refine ⟨removing.quiesced.change change, removing.failed, ?_, fun url known => ?_, ?_,
    removing.distinct, removing.done⟩
  · rw [quiet.relays]
    exact removing.relays
  · refine removing.registered url ?_
    rcases known with member | committing
    · exact quiet.added url member
    · exact Or.inr (quiet.committing url committing)
  · rw [quiet.credentials]
    exact removing.credentials

theorem progress_poll (progress : Progress s p heartbeat task) (change : Change s p s' p') :
    Progress s' p' heartbeat task := by
  have kept {targets : List String} (quiesced : Quiesced s p heartbeat)
      (known : ∀ url ∈ targets, url ∈ s.registeredRelays) :
      ∀ url ∈ targets, url ∈ s'.registeredRelays := fun url member =>
    (change.quiet quiesced.latched quiesced.still).kept url (known url member)
  cases task with
  | unregister call loop | discard call url loop => exact Removing.change progress change
  | returned result =>
    obtain ⟨⟨latched, poll, beat, registered, relays⟩, ended, free, complete⟩ := progress
    have quiet := change.quiet latched poll
    have uncommitted (url : String) : p ≠ .committing url := by
      rintro rfl
      cases free
    have free' : p'.recorded = none := by
      cases p' with
      | committing url => exact absurd (quiet.committing url rfl) (uncommitted url)
      | finishing url => cases quiet.still
      | clear | posting | recording => rfl
    refine ⟨⟨change.latched.trans latched, quiet.still, beat, ?_, quiet.relays.trans relays⟩,
      ended, free', complete⟩
    rw [Finset.eq_empty_iff_forall_notMem]
    intro url member
    rcases quiet.added url member with before | committing
    · rw [registered] at before
      exact absurd before (Finset.notMem_empty url)
    · exact uncommitted url committing
  | latchStopped next | latchMutations next => exact ⟨change.recorded progress.1, trivial⟩
  | latchHeartbeat next | stopHeartbeat next | joinHeartbeat next =>
    exact ⟨change.recorded progress.1, change.latched.trans progress.2⟩
  | decide | quiesce call =>
    exact ⟨change.recorded progress.1, change.latched.trans progress.2.1, progress.2.2⟩
  | checkRegistered call => exact ⟨change.recorded progress.1, progress.2.change change⟩
  | collect call urls targets | collectOthers call targets =>
    obtain ⟨recorded, quiesced, distinct, known⟩ := progress
    exact ⟨change.recorded recorded, quiesced.change change, distinct, kept quiesced known⟩

theorem progress_heartbeat (progress : Progress s p heartbeat task) :
    Progress (heartbeatStep env s heartbeat).1 p (heartbeatStep env s heartbeat).2 task := by
  have change := @heartbeatStep_change env s heartbeat
  have still : heartbeat = .ended → Progress (heartbeatStep env s heartbeat).1 p
      (heartbeatStep env s heartbeat).2 task := by
    rintro rfl
    exact progress
  cases task with
  | latchStopped next | latchMutations next =>
    exact ⟨(change.recorded progress.1.symm).symm, trivial⟩
  | latchHeartbeat next | stopHeartbeat next | joinHeartbeat next =>
    exact ⟨(change.recorded progress.1.symm).symm, change.latched.trans progress.2⟩
  | decide | quiesce call => exact still progress.2.2
  | checkRegistered call => exact still progress.2.ended
  | collect call urls targets | collectOthers call targets => exact still progress.2.1.ended
  | unregister call loop | discard call url loop => exact still progress.quiesced.ended
  | returned result => exact still progress.2.1

theorem Counted.still (counted : Counted s p h) (zero : s.mutationCount = 0) :
    p.mutating = false ∧ h.mutating = false := by
  unfold Counted at counted
  cases hp : p.mutating <;> cases hh : h.mutating <;> simp [hp, hh, zero] at counted ⊢

/-- Once nothing is recorded and nothing is in flight, no relay has the node. -/
theorem Recorded.shutDown (recorded : Recorded s p h) (latched : s.mutationLatched = true)
    (still : p.mutating = false ∧ h.mutating = false) (none_left : s.registeredRelays = ∅) :
    ShutDown s p h ∧ p.recorded = none := by
  have unrecorded (url : String) : url ∉ s.registeredRelays := by
    rw [none_left]
    exact Finset.notMem_empty url
  refine ⟨⟨latched, still.1, still.2, none_left, Finset.eq_empty_iff_forall_notMem.mpr ?_⟩, ?_⟩
  · intro url member
    rcases recorded.covered url member with there | rfl | rfl
    · exact unrecorded url there
    · cases still.1
    · cases still.2
  · rw [Option.eq_none_iff_forall_ne_some]
    exact fun url noted => unrecorded url (recorded.recorded url (Or.inl noted))

theorem ShutdownCall.result_true (call : ShutdownCall) :
    call.result true ≠ .unregistered false := by
  cases call <;> simp [ShutdownCall.result]

theorem removing_of_collected {targets : List String}
    (recorded : Recorded s p heartbeat.stage) (quiesced : Quiesced s p heartbeat)
    (distinct : targets.Nodup) (known : ∀ url ∈ targets, url ∈ s.registeredRelays)
    {all : List String}
    (collected : all = targets ++ sorted (s.registeredRelays.filter (· ∉ targets))) :
    Removing s p heartbeat none ⟨all, all, [], []⟩ := by
  have member (url : String) : url ∈ all ↔ url ∈ s.registeredRelays := by
    rw [collected, List.mem_append, mem_sorted, Finset.mem_filter]
    constructor
    · rintro (early | late)
      · exact known url early
      · exact late.1
    · intro registered
      by_cases early : url ∈ targets
      · exact Or.inl early
      · exact Or.inr ⟨registered, early⟩
  refine ⟨quiesced, rfl, fun url there => ?_, fun url there => Or.inl ?_,
    fun url there => recorded.credentialed url (Or.inl ((member url).mp there)), ?_, by simp⟩
  · rcases recorded.covered url there with registered | rfl | answered
    · exact (member url).mpr registered
    · cases quiesced.still
    · rw [quiesced.ended] at answered
      cases answered
  · rcases there with registered | rfl
    · exact (member url).mpr registered
    · exact (member url).mpr (recorded.recorded url (Or.inl rfl))
  · show all.Nodup
    rw [collected]
    refine List.Nodup.append distinct (Finset.sort_nodup _ _) fun url early late => ?_
    rw [mem_sorted, Finset.mem_filter] at late
    exact late.2 early

theorem Removing.finish (removing : Removing s p heartbeat none loop) (last : loop.remaining = [])
    (free : p.recorded = none) (call : ShutdownCall) :
    Progress (finishUnregister call loop s).1 p heartbeat (finishUnregister call loop s).2 := by
  have all : loop.unregistered.length = loop.targets.length := by
    have done := removing.done
    rw [last] at done
    simpa using done
  unfold finishUnregister
  rw [if_neg (by simp [removing.failed]), if_pos all]
  refine ⟨⟨removing.quiesced.latched, removing.quiesced.still, ?_, ?_, ?_⟩, removing.quiesced.ended,
    free, call.result_true⟩
  · rw [removing.quiesced.ended]
    rfl
  · refine Finset.sdiff_eq_empty_iff_subset.mpr fun url there => ?_
    rcases removing.registered url (Or.inl there) with left | done | impossible
    · rw [last] at left
      cases left
    · exact List.mem_toFinset.mpr done
    · cases impossible
  · rw [Finset.eq_empty_iff_forall_notMem]
    intro url there
    have left := removing.relays url there
    rw [last] at left
    cases left

theorem Removing.post {rest : List String} (removing : Removing s p heartbeat none loop)
    (next : loop.remaining = url :: rest) :
    Removing { s with relays := s.relays.erase url } p heartbeat (some url)
      { loop with remaining := rest } := by
  obtain ⟨quiesced, failed, relays, registered, credentials, distinct, done⟩ := removing
  rw [next] at relays registered credentials distinct done
  refine ⟨⟨quiesced.latched, quiesced.ended, quiesced.still⟩, failed, fun url' there => ?_,
    fun url' known => ?_, fun url' left => credentials url' (List.mem_cons_of_mem url left),
    distinct, by simpa [Nat.add_assoc, Nat.add_comm 1] using done⟩
  · obtain ⟨other, before⟩ := Finset.mem_erase.mp there
    exact (List.mem_cons.mp (relays url' before)).resolve_left other
  · rcases registered url' known with left | noted | impossible
    · rcases List.mem_cons.mp left with rfl | later
      · exact Or.inr (Or.inr rfl)
      · exact Or.inl later
    · exact Or.inr (Or.inl noted)
    · cases impossible

theorem Removing.discard (removing : Removing s p heartbeat (some url) loop) (active : Nat) :
    Removing
      { s with
        registeredRelays := s.registeredRelays.erase url
        controlCredentials := s.controlCredentials.erase url
        activeRelayIndex := active } p heartbeat none
      { loop with unregistered := loop.unregistered ++ [url] } := by
  obtain ⟨quiesced, failed, relays, registered, credentials, distinct, done⟩ := removing
  obtain ⟨absent, distinct⟩ := List.nodup_cons.mp distinct
  refine ⟨⟨quiesced.latched, quiesced.ended, quiesced.still⟩, failed, relays,
    fun url' known => ?_, fun url' left => ?_, distinct, by simpa using done⟩
  · have before : url' ∈ s.registeredRelays ∨ p = .committing url' :=
      known.imp_left Finset.mem_of_mem_erase
    rcases registered url' before with left | noted | same
    · exact Or.inl left
    · exact Or.inr (Or.inl (List.mem_append_left _ noted))
    · cases same
      exact Or.inr (Or.inl (List.mem_append_right _ (List.mem_singleton_self url)))
  · refine Finset.mem_erase.mpr ⟨?_, credentials url' left⟩
    rintro rfl
    exact absent left

/-- When the shutdown call decides that nothing is registered, no registration is
in flight, and when it removes the last relays, the polling thread is not about to
add a relay again. -/
def ShutdownTask.Settled (x : NodeState) (p : Stage) : ShutdownTask → Prop
  | .decide => x.registeredRelays = ∅ → x.mutationCount = 0
  | .unregister _ loop => loop.remaining = [] → p.recorded = none
  | _ => True

theorem progress_shutdown (settled : task.Settled s p) (counted : Counted s p heartbeat.stage)
    (progress : Progress s p heartbeat task) :
    Progress (shutdownStep env heartbeat s task).1 p heartbeat
      (shutdownStep env heartbeat s task).2 := by
  cases task with
  | latchStopped next =>
    obtain ⟨⟨covered, delivered, noted, credentialed⟩, -⟩ := progress
    exact ⟨⟨covered, delivered, noted, credentialed⟩, trivial⟩
  | latchMutations next =>
    obtain ⟨⟨covered, delivered, noted, credentialed⟩, -⟩ := progress
    exact ⟨⟨covered, delivered, noted, credentialed⟩, rfl⟩
  | latchHeartbeat next | stopHeartbeat next =>
    obtain ⟨⟨covered, delivered, noted, credentialed⟩, latched⟩ := progress
    exact ⟨⟨covered, delivered, noted, credentialed⟩, latched⟩
  | joinHeartbeat next =>
    simp only [shutdownStep]
    split
    · next ended => cases next <;> exact ⟨progress.1, progress.2, ended⟩
    · exact progress
  | decide =>
    obtain ⟨recorded, latched, ended⟩ := progress
    simp only [shutdownStep]
    split
    · next none_left =>
      obtain ⟨gone, free⟩ :=
        recorded.shutDown latched (counted.still (settled none_left)) none_left
      exact ⟨gone, ended, free, by simp⟩
    · exact ⟨recorded, trivial⟩
  | quiesce call =>
    obtain ⟨recorded, latched, ended⟩ := progress
    simp only [shutdownStep]
    split
    · next zero => exact ⟨recorded, latched, ended, (counted.still zero).1⟩
    · exact ⟨recorded, latched, ended⟩
  | checkRegistered call =>
    obtain ⟨recorded, quiesced⟩ := progress
    obtain ⟨latched, ended, still⟩ := quiesced
    have beat : heartbeat.stage.mutating = false := by
      rw [ended]
      rfl
    simp only [shutdownStep]
    split
    · next none_left =>
      obtain ⟨gone, free⟩ := recorded.shutDown latched ⟨still, beat⟩ none_left
      obtain ⟨latched, poll, beat, registered, relays⟩ := gone
      exact ⟨⟨latched, poll, beat, registered, relays⟩, ended, free, call.result_true⟩
    · obtain ⟨covered, delivered, noted, credentialed⟩ := recorded
      refine ⟨⟨covered, delivered, noted, credentialed⟩, ⟨latched, ended, still⟩, ?_, nofun⟩
      exact List.nodup_rotate.mpr env.distinct
  | collect call urls targets =>
    obtain ⟨recorded, quiesced, distinct, known⟩ := progress
    cases urls with
    | nil => exact ⟨recorded, quiesced, by simpa using distinct, known⟩
    | cons url rest =>
      refine ⟨recorded, quiesced, ?_, ?_⟩
      · split
        · simpa using distinct
        · exact distinct.sublist ((List.sublist_cons_self url rest).append_left targets)
      · split
        · next there =>
          intro url' member
          rcases List.mem_append.mp member with early | same
          · exact known url' early
          · rwa [List.mem_singleton.mp same]
        · exact known
  | collectOthers call targets =>
    obtain ⟨recorded, quiesced, distinct, known⟩ := progress
    exact removing_of_collected recorded quiesced distinct known rfl
  | unregister call loop =>
    simp only [shutdownStep]
    split
    · next last => exact Removing.finish progress last (settled last) call
    · next url rest left =>
      split
      · exact Removing.post progress left
      · next missing =>
        exact absurd (progress.credentials url (left ▸ List.mem_cons_self)) missing
  | discard call url loop => exact Removing.discard progress _
  | returned result => exact progress

/-! ## Whole runs -/

/-- The event is not a step of the shutdown call in one of the two windows. -/
def Settled (ev : NodeEvent) (s : NodeSystem) : Prop :=
  ev = .shutdown → s.shutdown.Settled s.shared s.poll.stage

instance (ev : NodeEvent) (s : NodeSystem) : Decidable (Settled ev s) := by
  unfold Settled ShutdownTask.Settled
  split <;> infer_instance

/-- The invariant of the whole system. -/
def Inv (s : NodeSystem) : Prop :=
  Counted s.shared s.poll.stage s.heartbeat.stage ∧
    Progress s.shared s.poll.stage s.heartbeat s.shutdown

theorem inv_started (registered : Finset String) (beating : Bool) (call : ShutdownCall) :
    Inv (started registered beating call) := by
  have stage : (started registered beating call).heartbeat.stage = .clear := by
    cases beating <;> rfl
  have recorded : Recorded (started registered beating call).shared .clear .clear :=
    ⟨fun _ there => Or.inl there, nofun, nofun, fun _ known => known.elim id id⟩
  refine ⟨?_, ?_⟩
  · rw [stage]
    rfl
  · cases call <;> exact ⟨stage ▸ recorded, trivial⟩

theorem Inv.step {x : NodeSystem} {ev : NodeEvent} (settled : Settled ev x) (inv : Inv x) :
    Inv (step env ev x) := by
  obtain ⟨counted, progress⟩ := inv
  cases ev with
  | poll =>
    have change := @pollStep_change env x.shared x.poll
    exact ⟨change.counted counted, progress_poll progress change⟩
  | heartbeat =>
    have change := @heartbeatStep_change env x.shared x.heartbeat
    exact ⟨(change.counted counted.symm).symm, progress_heartbeat progress⟩
  | lease due =>
    have change : Change x.shared x.poll.stage { x.shared with leaseDue := due } x.poll.stage :=
      .waits x.poll.stage due
    exact ⟨change.counted counted, progress_poll progress change⟩
  | shutdown =>
    refine ⟨?_, progress_shutdown (settled rfl) counted progress⟩
    have same : (shutdownStep env x.heartbeat x.shared x.shutdown).1.mutationCount =
        x.shared.mutationCount := by
      cases task : x.shutdown with
      | checkRegistered call =>
        simp only [shutdownStep]
        split <;> rfl
      | collect call urls targets => cases urls <;> rfl
      | unregister call loop =>
        simp only [shutdownStep]
        split
        · unfold finishUnregister
          split <;> rfl
        · split <;> rfl
      | _ => rfl
    exact same.trans counted

theorem returned_step {x : NodeSystem} {result : ShutdownResult} (ev : NodeEvent)
    (returned : x.shutdown = .returned result) : (step env ev x).shutdown = .returned result := by
  cases ev with
  | shutdown => simp only [step, returned, shutdownStep]
  | poll | heartbeat | lease => exact returned

/-- In every run that avoids the two windows, once the shutdown call has returned,
which `unregister_from_relay` then does with true, no registration is in flight or
can begin, and the node is recorded and registered nowhere; and so it stays. -/
theorem shutdown_complete (env : NodeEnv) (registered : Finset String) (beating : Bool)
    (call : ShutdownCall) (evs later : List NodeEvent)
    (settled : Along (step env) Settled (evs ++ later) (started registered beating call))
    (result : ShutdownResult)
    (returned : (runs (step env) evs (started registered beating call)).shutdown =
      .returned result) :
    result ≠ .unregistered false ∧
      ShutDown (runs (step env) (evs ++ later) (started registered beating call)).shared
        (runs (step env) (evs ++ later) (started registered beating call)).poll.stage
        (runs (step env) (evs ++ later) (started registered beating call)).heartbeat.stage := by
  have inv : Inv (runs (step env) (evs ++ later) (started registered beating call)) :=
    along_runs (fun _ _ settled inv => inv.step settled) settled
      (inv_started registered beating call)
  have still : (runs (step env) (evs ++ later) (started registered beating call)).shutdown =
      .returned result := by
    rw [runs_append]
    exact invariant_runs (J := fun x : NodeSystem => x.shutdown = .returned result)
      (fun ev _ => returned_step ev) later returned
  have progress := inv.2
  rw [still] at progress
  obtain ⟨gone, -, -, complete⟩ := progress
  exact ⟨complete, gone⟩

/-- A node with one relay. -/
def sampleEnv : NodeEnv where
  relayUrls := ["https://relay"]
  distinct := List.nodup_singleton _
  iterationOrder := sorted

/-- The node registers, and then both threads see the shutdown. -/
def sampleShutdown : List NodeEvent :=
  List.replicate 9 .poll ++ List.replicate 3 .shutdown ++ [.poll, .heartbeat] ++
    List.replicate 10 .shutdown

theorem shutdown_complete_sample :
    (runs (step sampleEnv) (sampleShutdown ++ [.poll, .poll])
      (started ∅ true .unregister)).shared.relays = ∅ :=
  (shutdown_complete sampleEnv ∅ true .unregister sampleShutdown [.poll, .poll]
    (by decide +kernel) (.unregistered true) (by decide +kernel)).2.relays

/-- The call of `ComputeNodeRuntime.stop` returns while a registration is in
flight, and then the relay has the node. A call of `unregister_from_relay` returns
true while the polling thread is about to record a relay again. -/
theorem registered_after_shutdown :
    ((runs (step sampleEnv) (List.replicate 5 .poll ++ List.replicate 6 .shutdown)
        (started ∅ false .stop)).shutdown = .returned .stopped ∧
      (runs (step sampleEnv)
        (List.replicate 5 .poll ++ List.replicate 6 .shutdown ++ [.poll, .poll])
        (started ∅ false .stop)).shared.relays = {"https://relay"}) ∧
    (runs (step sampleEnv) (List.replicate 8 .poll ++ List.replicate 13 .shutdown)
        (started ∅ false .unregister)).shutdown = .returned (.unregistered true) ∧
      (runs (step sampleEnv) (List.replicate 8 .poll ++ List.replicate 13 .shutdown ++ [.poll])
        (started ∅ false .unregister)).shared.registeredRelays = {"https://relay"} := by
  refine ⟨⟨?_, ?_⟩, ?_, ?_⟩ <;> decide +kernel

end ComputeNode
