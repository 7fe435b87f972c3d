import TokenPlace.Node.Bridge
import TokenPlace.Node.Shutdown

/-!
# No registration after the cleanup of a bridge

When the mutations of a latched client have drained, no thread of it can register the node
again, and every relay that has the node is recorded. So a cleanup that finds nothing recorded,
or that removes everything recorded, leaves no relay behind.

A recovery that ends late defeats this: it releases the latch of a client that the stop has
latched, and it may drop the record of a relay that has the node. `Orderly` excludes the two.
-/

namespace ComputeNode

open Schedules

/-! ## What a recovery may do -/

/-- The stop has set the mutation latch. -/
def StopLatch.set : StopLatch → Bool
  | .mutations | .latched => true
  | _ => false

/-- A step of a recovery releases no latch that the stop has set, and drops no record of a relay
that has the node. -/
def RecoveryTask.Orderly {n : Nat} (b : Bridge n) : RecoveryTask n → Prop
  | .unlatch i _ _ => (b.relay i).latch.set = false
  | .clear i _ => Disjoint (b.relay i).node.relays (b.relay i).node.registeredRelays
  | _ => True

instance {n : Nat} (b : Bridge n) : (task : RecoveryTask n) → Decidable (task.Orderly b)
  | .unlatch i _ _ => inferInstanceAs (Decidable ((b.relay i).latch.set = false))
  | .clear i _ => inferInstanceAs
      (Decidable (Disjoint (b.relay i).node.relays (b.relay i).node.registeredRelays))
  | .idle | .unadvertise _ | .unregister _ _ _ | .attempt | .ensureReady | .start _
  | .reset _ _ _ => .isTrue trivial

/-- The event is a step of a recovery. -/
def BridgeEvent.isRecovery {n : Nat} : BridgeEvent n → Bool
  | .recovery _ => true
  | _ => false

/-- The event is no step of a recovery that releases or drops too much. -/
def Orderly {n : Nat} (ev : BridgeEvent n) (b : Bridge n) : Prop :=
  ev.isRecovery = true → b.recovery.Orderly b

instance {n : Nat} (ev : BridgeEvent n) (b : Bridge n) : Decidable (Orderly ev b) :=
  inferInstanceAs (Decidable (ev.isRecovery = true → b.recovery.Orderly b))

variable {env : NodeEnv} {s s' : NodeState} {p p' h h' : Stage}

/-! ## Steps that keep what a latched client has reached -/

/-- Every relay that has the node is recorded, or is about to be. -/
def Covered (s : NodeState) (p h : Stage) : Prop :=
  ∀ url ∈ s.relays, url ∈ s.registeredRelays ∨ p = .recording url ∨ h = .recording url

theorem Covered.symm (covered : Covered s p h) : Covered s h p :=
  fun url member => (covered url member).imp_right Or.symm

theorem Change.covered (change : Change s p s' p') (covered : Covered s p h) :
    Covered s' p' h := by
  intro url member
  cases change with
  | waits | looks => exact covered url member
  | forgoes | begins | finishes =>
    obtain known | impossible | other := covered url member
    · exact .inl known
    · cases impossible
    · exact .inr (.inr other)
  | posts sent =>
    obtain rfl | before := Finset.mem_insert.mp member
    · exact .inr (.inl rfl)
    · obtain known | impossible | other := covered url before
      · exact .inl known
      · cases impossible
      · exact .inr (.inr other)
  | records sent =>
    obtain known | same | other := covered url member
    · exact .inl (Finset.mem_insert_of_mem known)
    · cases same
      exact .inl (Finset.mem_insert_self _ _)
    · exact .inr (.inr other)
  | commits =>
    obtain known | impossible | other := covered url member
    · exact .inl (Finset.mem_insert_of_mem known)
    · cases impossible
    · exact .inr (.inr other)

/-- The client is latched, and no thread is inside a mutation. -/
structure Still (s : NodeState) (p h : Stage) : Prop where
  latched : s.mutationLatched = true
  poll : p.mutating = false
  heartbeat : h.mutating = false

theorem Covered.recorded (covered : Covered s p h) (still : Still s p h) :
    ∀ url ∈ s.relays, url ∈ s.registeredRelays := by
  intro url member
  obtain known | rfl | rfl := covered url member
  · exact known
  · cases still.poll
  · cases still.heartbeat

theorem Covered.relays_eq_empty (covered : Covered s p h) (still : Still s p h)
    (none_left : s.registeredRelays = ∅) : s.relays = ∅ := by
  rw [Finset.eq_empty_iff_forall_notMem]
  intro url member
  have known := covered.recorded still url member
  rw [none_left] at known
  cases known

/-- A step that leaves the latch, and that adds no relay once the client is still. -/
structure Gentle (s : NodeState) (p h : Stage) (s' : NodeState) (p' h' : Stage) : Prop where
  latched : s.mutationLatched = true → s'.mutationLatched = true
  still : Still s p h → Still s' p' h'
  relays : Still s p h → s'.relays ⊆ s.relays

theorem Gentle.symm (gentle : Gentle s p h s' p' h') : Gentle s h p s' h' p' where
  latched := gentle.latched
  still still :=
    have same := gentle.still ⟨still.latched, still.heartbeat, still.poll⟩
    ⟨same.latched, same.heartbeat, same.poll⟩
  relays still := gentle.relays ⟨still.latched, still.heartbeat, still.poll⟩

theorem Change.gentle (change : Change s p s' p') (h : Stage) : Gentle s p h s' p' h where
  latched := change.latched.trans
  still still :=
    ⟨change.latched.trans still.latched, (change.quiet still.latched still.poll).still,
      still.heartbeat⟩
  relays still := (change.quiet still.latched still.poll).relays.le

/-- A step of another thread that touches neither the latch nor the relays. -/
theorem Gentle.frame (latched : s'.mutationLatched = s.mutationLatched)
    (relays : s'.relays = s.relays) (p h : Stage) : Gentle s p h s' p h where
  latched := latched.trans
  still still := ⟨latched.trans still.latched, still.poll, still.heartbeat⟩
  relays _ := relays.le

/-! ## An unregistration -/

/-- What a call of `unregister_from_relay` has reached. -/
def ShutdownTask.Removed (s : NodeState) (p h : Stage) : ShutdownTask → Prop
  | .latchStopped _ | .latchMutations _ => True
  | .latchHeartbeat _ | .stopHeartbeat _ | .joinHeartbeat _ | .decide | .quiesce _ =>
    s.mutationLatched = true
  | .checkRegistered _ | .collect _ _ _ | .collectOthers _ _ => Still s p h
  | .unregister _ loop =>
    Still s p h ∧ (loop.failed = [] → ∀ url ∈ s.relays, url ∈ loop.remaining)
  | .discard _ url loop =>
    Still s p h ∧ url ∉ s.relays ∧ (loop.failed = [] → ∀ url ∈ s.relays, url ∈ loop.remaining)
  | .returned result => result = .unregistered true → Still s p h ∧ s.relays = ∅

theorem ShutdownTask.Removed.gentle {task : ShutdownTask} (removed : task.Removed s p h)
    (gentle : Gentle s p h s' p' h') : task.Removed s' p' h' := by
  cases task with
  | latchStopped | latchMutations => trivial
  | latchHeartbeat | stopHeartbeat | joinHeartbeat | decide | quiesce =>
    exact gentle.latched removed
  | checkRegistered | collect | collectOthers => exact gentle.still removed
  | unregister call loop =>
    exact ⟨gentle.still removed.1, fun clean url member =>
      removed.2 clean url (gentle.relays removed.1 member)⟩
  | discard call url loop =>
    exact ⟨gentle.still removed.1, fun member => removed.2.1 (gentle.relays removed.1 member),
      fun clean url member => removed.2.2 clean url (gentle.relays removed.1 member)⟩
  | returned result =>
    intro complete
    obtain ⟨still, empty⟩ := removed complete
    exact ⟨gentle.still still, Finset.subset_empty.mp (empty ▸ gentle.relays still)⟩

theorem finishUnregister_removed (call : ShutdownCall) {loop : Unregistering}
    (still : Still s p h)
    (left : loop.failed = [] → ∀ url ∈ s.relays, url ∈ loop.remaining)
    (last : loop.remaining = []) (covered : Covered s p h) :
    Covered (finishUnregister call loop s).1 p h ∧
      (finishUnregister call loop s).2.Removed (finishUnregister call loop s).1 p h := by
  unfold finishUnregister
  split
  · next failed =>
    refine ⟨covered, fun impossible => ?_⟩
    cases call <;> cases impossible
  · next clean =>
    have empty : s.relays = ∅ := by
      rw [Finset.eq_empty_iff_forall_notMem]
      intro url member
      have remains := left (not_not.mp clean) url member
      rw [last] at remains
      cases remains
    refine ⟨fun url member => ?_, fun _ => ⟨⟨still.latched, still.poll, still.heartbeat⟩, empty⟩⟩
    dsimp only at member
    rw [empty] at member
    cases member

theorem finishUnregister_frame (call : ShutdownCall) (loop : Unregistering) (s : NodeState) :
    (finishUnregister call loop s).1.mutationLatched = s.mutationLatched ∧
      (finishUnregister call loop s).1.mutationCount = s.mutationCount ∧
      (finishUnregister call loop s).1.relays = s.relays := by
  unfold finishUnregister
  split <;> exact ⟨rfl, rfl, rfl⟩

/-- What a step of an unregistration does to the client. -/
structure Unlisting (s : NodeState) (p h : Stage) (s' : NodeState) : Prop where
  gentle : Gentle s p h s' p h
  counted : s'.mutationCount = s.mutationCount
  covered : Covered s' p h

theorem shutdownStep_removed (env : NodeEnv) (heartbeat : HeartbeatTask) {task : ShutdownTask}
    (counted : Counted s p h) (covered : Covered s p h) (removed : task.Removed s p h) :
    Unlisting s p h (shutdownStep env heartbeat s task).1 ∧
      (shutdownStep env heartbeat s task).2.Removed (shutdownStep env heartbeat s task).1 p h := by
  have same : Unlisting s p h s := ⟨.frame rfl rfl p h, rfl, covered⟩
  have shrinks (s' : NodeState) (latched : s'.mutationLatched = s.mutationLatched)
      (count : s'.mutationCount = s.mutationCount) (relays : s'.relays ⊆ s.relays)
      (covered : Covered s' p h) : Unlisting s p h s' :=
    ⟨⟨latched.trans, fun still => ⟨latched.trans still.latched, still.poll, still.heartbeat⟩,
      fun _ => relays⟩, count, covered⟩
  cases task with
  | latchStopped next => exact ⟨shrinks _ rfl rfl subset_rfl covered, trivial⟩
  | latchMutations next =>
    refine ⟨⟨⟨fun _ => rfl, fun still => ⟨rfl, still.poll, still.heartbeat⟩, fun _ => subset_rfl⟩,
      rfl, covered⟩, rfl⟩
  | latchHeartbeat next | stopHeartbeat next =>
    exact ⟨shrinks _ rfl rfl subset_rfl covered, removed⟩
  | joinHeartbeat next =>
    refine ⟨same, ?_⟩
    simp only [shutdownStep]
    split
    · cases next <;> exact removed
    · exact removed
  | decide =>
    refine ⟨same, ?_⟩
    simp only [shutdownStep]
    split
    · rintro ⟨⟩
    · trivial
  | quiesce call =>
    refine ⟨same, ?_⟩
    simp only [shutdownStep]
    split
    · next zero => exact ⟨removed, (counted.still zero).1, (counted.still zero).2⟩
    · exact removed
  | checkRegistered call =>
    simp only [shutdownStep]
    split
    · next none_left =>
      have empty := covered.relays_eq_empty removed none_left
      exact ⟨shrinks _ rfl rfl subset_rfl covered,
        fun _ => ⟨⟨removed.1, removed.2, removed.3⟩, empty⟩⟩
    · exact ⟨shrinks _ rfl rfl subset_rfl covered, ⟨removed.1, removed.2, removed.3⟩⟩
  | collect call urls targets =>
    cases urls with
    | nil => exact ⟨same, removed⟩
    | cons url rest => exact ⟨same, removed⟩
  | collectOthers call targets =>
    refine ⟨same, removed, fun _ url member => ?_⟩
    have known := covered.recorded removed url member
    rw [List.mem_append, mem_sorted, Finset.mem_filter]
    by_cases early : url ∈ targets
    · exact .inl early
    · exact .inr ⟨known, early⟩
  | unregister call loop =>
    obtain ⟨still, left⟩ := removed
    simp only [shutdownStep]
    split
    · next last =>
      obtain ⟨latched, count, relays⟩ := finishUnregister_frame call loop s
      obtain ⟨covered, removed⟩ := finishUnregister_removed call still left last covered
      exact ⟨shrinks _ latched count relays.le covered, removed⟩
    · next url rest more =>
      split
      · refine ⟨shrinks _ rfl rfl (Finset.erase_subset _ _) fun url' member =>
          covered url' (Finset.mem_of_mem_erase member),
          ⟨still.1, still.2, still.3⟩, Finset.notMem_erase _ _, fun clean url' member => ?_⟩
        have remains := left clean url' (Finset.mem_of_mem_erase member)
        rw [more] at remains
        exact (List.mem_cons.mp remains).resolve_left (Finset.ne_of_mem_erase member)
      · exact ⟨same, still, fun clean => absurd clean (by simp)⟩
  | discard call url loop =>
    obtain ⟨still, gone, left⟩ := removed
    refine ⟨shrinks _ rfl rfl subset_rfl fun url' member => ?_, ⟨still.1, still.2, still.3⟩, left⟩
    refine (covered url' member).imp_left fun known => Finset.mem_erase.mpr ⟨?_, known⟩
    rintro rfl
    exact gone member
  | returned result => exact ⟨same, removed⟩

/-! ## One relay client -/

/-- What the cleanup of a client has reached. `latched` is what the stop has set. -/
def CleanupTask.Reached (latched : Bool) (s : NodeState) (p h : Stage) : CleanupTask → Prop
  | .waiting => True
  | .quiesce => latched = true
  | .evaluate | .evaluateAgain => latched = true ∧ Still s p h
  | .stopHeartbeat required | .joinHeartbeat required =>
    latched = true ∧ Still s p h ∧ (required = false → s.relays = ∅)
  | .unregister task => latched = true ∧ task.Removed s p h
  | .reported _ success => success = true → latched = true ∧ Still s p h ∧ s.relays = ∅

/-- The invariant of a client, with the unregistration that a recovery makes for it. -/
structure BridgeRelay.Sound (r : BridgeRelay) (recovering : Option ShutdownTask) : Prop where
  counted : Counted r.node r.poll.stage r.heartbeat.stage
  covered : Covered r.node r.poll.stage r.heartbeat.stage
  latched : r.latch.set = true → r.node.mutationLatched = true
  reached : r.cleanup.Reached r.latch.set r.node r.poll.stage r.heartbeat.stage
  recovering : ∀ task ∈ recovering, task.Removed r.node r.poll.stage r.heartbeat.stage

variable {r r' : BridgeRelay} {recovering : Option ShutdownTask}

/-- The cleanup of a client keeps what it has reached in the steps of the other threads. -/
theorem CleanupTask.Reached.gentle {cleanup : CleanupTask} {latched latched' : Bool}
    (reached : cleanup.Reached latched s p h) (gentle : Gentle s p h s' p' h')
    (set : latched = true → latched' = true) : cleanup.Reached latched' s' p' h' := by
  have empty (still : Still s p h) (none_left : s.relays = ∅) : s'.relays = ∅ :=
    Finset.subset_empty.mp (none_left ▸ gentle.relays still)
  cases cleanup with
  | waiting => trivial
  | quiesce => exact set reached
  | evaluate | evaluateAgain => exact ⟨set reached.1, gentle.still reached.2⟩
  | stopHeartbeat required | joinHeartbeat required =>
    exact ⟨set reached.1, gentle.still reached.2.1, fun unneeded =>
      empty reached.2.1 (reached.2.2 unneeded)⟩
  | unregister task => exact ⟨set reached.1, reached.2.gentle gentle⟩
  | reported required success =>
    intro ok
    obtain ⟨latched, still, none_left⟩ := reached ok
    exact ⟨set latched, gentle.still still, empty still none_left⟩

theorem BridgeRelay.Sound.gentle (sound : r.Sound recovering)
    (gentle : Gentle r.node r.poll.stage r.heartbeat.stage r'.node r'.poll.stage
      r'.heartbeat.stage)
    (counted : Counted r'.node r'.poll.stage r'.heartbeat.stage)
    (covered : Covered r'.node r'.poll.stage r'.heartbeat.stage)
    (latch : r'.latch = r.latch) (cleanup : r'.cleanup = r.cleanup) : r'.Sound recovering where
  counted := counted
  covered := covered
  latched set := gentle.latched (sound.latched (latch ▸ set))
  reached := by
    rw [cleanup, latch]
    exact sound.reached.gentle gentle id
  recovering task running := (sound.recovering task running).gentle gentle

theorem BridgeRelay.Sound.forget (sound : r.Sound recovering) : r.Sound none where
  counted := sound.counted
  covered := sound.covered
  latched := sound.latched
  reached := sound.reached
  recovering := nofun

theorem poll_sound (sound : r.Sound recovering) :
    BridgeRelay.Sound { r with
      node := (pollStep env r.node r.poll).1, poll := (pollStep env r.node r.poll).2 }
      recovering :=
  have change := @pollStep_change env r.node r.poll
  sound.gentle (change.gentle _) (change.counted sound.counted) (change.covered sound.covered)
    rfl rfl

theorem heartbeat_sound (sound : r.Sound recovering) :
    BridgeRelay.Sound { r with
      node := (heartbeatStep env r.node r.heartbeat).1
      heartbeat := (heartbeatStep env r.node r.heartbeat).2 }
      recovering :=
  have change := @heartbeatStep_change env r.node r.heartbeat
  sound.gentle (change.gentle _).symm (change.counted sound.counted.symm).symm
    (change.covered sound.covered.symm).symm rfl rfl

theorem startHeartbeat_sound (sound : r.Sound recovering) :
    (startHeartbeat r).Sound recovering := by
  unfold startHeartbeat
  split
  · next ended =>
    have stage : HeartbeatTask.waiting.stage = r.heartbeat.stage := by rw [ended]; rfl
    refine sound.gentle ?_ ?_ ?_ rfl rfl
    all_goals dsimp only; rw [stage]
    · exact .frame (by rfl) (by rfl) _ _
    · exact sound.counted
    · exact sound.covered
  · exact sound

theorem latchStep_sound (sound : r.Sound recovering) : (latchStep r).Sound recovering := by
  unfold latchStep
  split
  · next unlatched =>
    have gentle : Gentle r.node r.poll.stage r.heartbeat.stage
        { r.node with pollingStopped := true } r.poll.stage r.heartbeat.stage :=
      .frame (by rfl) (by rfl) _ _
    refine ⟨sound.counted, sound.covered, nofun, sound.reached.gentle gentle ?_,
      fun task running => (sound.recovering task running).gentle gentle⟩
    rw [unlatched]
    exact nofun
  · next stopped =>
    have gentle : Gentle r.node r.poll.stage r.heartbeat.stage
        { r.node with mutationLatched := true } r.poll.stage r.heartbeat.stage :=
      ⟨fun _ => rfl, fun still => ⟨rfl, still.poll, still.heartbeat⟩, fun _ => subset_rfl⟩
    exact ⟨sound.counted, sound.covered, fun _ => rfl,
      sound.reached.gentle gentle fun _ => rfl,
      fun task running => (sound.recovering task running).gentle gentle⟩
  · next mutations =>
    have gentle : Gentle r.node r.poll.stage r.heartbeat.stage
        { r.node with heartbeatStop := true } r.poll.stage r.heartbeat.stage :=
      .frame (by rfl) (by rfl) _ _
    exact ⟨sound.counted, sound.covered, fun _ => sound.latched (by rw [mutations]; rfl),
      sound.reached.gentle gentle fun _ => rfl,
      fun task running => (sound.recovering task running).gentle gentle⟩
  · exact sound

theorem failCleanup_sound (sound : r.Sound recovering) : (failCleanup r).Sound recovering := by
  unfold failCleanup
  split
  · exact sound
  · exact ⟨sound.counted, sound.covered, sound.latched, nofun, sound.recovering⟩

theorem BridgeRelay.Sound.goOn (sound : r.Sound recovering) {cleanup : CleanupTask}
    (reached : cleanup.Reached r.latch.set r.node r.poll.stage r.heartbeat.stage) :
    BridgeRelay.Sound { r with cleanup } recovering where
  counted := sound.counted
  covered := sound.covered
  latched := sound.latched
  reached := reached
  recovering := sound.recovering

theorem requiresUnregister_false (unneeded : r.requiresUnregister = false) :
    r.node.registeredRelays = ∅ := by
  simp only [BridgeRelay.requiresUnregister, Bool.or_eq_false_iff, decide_eq_false_iff_not,
    not_not] at unneeded
  exact unneeded.2

theorem cleanupStep_sound (sound : r.Sound recovering) :
    (cleanupStep env r).Sound recovering := by
  have reached := sound.reached
  unfold cleanupStep
  split
  all_goals rename_i at_; rw [at_] at reached
  · refine sound.goOn ?_
    split
    · next latched => rw [latched]; rfl
    · trivial
  · refine sound.goOn ?_
    split
    · next zero =>
      have still := sound.counted.still zero
      exact ⟨reached, sound.latched reached, still.1, still.2⟩
    · exact reached
  · refine sound.goOn ⟨reached.1, reached.2, fun unneeded => ?_⟩
    exact sound.covered.relays_eq_empty reached.2 (requiresUnregister_false unneeded)
  · have kept : Gentle r.node r.poll.stage r.heartbeat.stage
        { r.node with heartbeatStop := true } r.poll.stage r.heartbeat.stage :=
      .frame (by rfl) (by rfl) _ _
    exact BridgeRelay.Sound.goOn (r := { r with node.heartbeatStop := true })
      (sound.gentle kept sound.counted sound.covered rfl rfl) (reached.gentle kept id)
  · next required =>
    refine sound.goOn ?_
    split
    · split
      · exact ⟨reached.1, reached.2.1⟩
      · next unneeded =>
        exact fun _ => ⟨reached.1, reached.2.1, reached.2.2 (Bool.eq_false_iff.mpr unneeded)⟩
    · exact reached
  · refine sound.goOn ?_
    split
    · exact ⟨reached.1, trivial⟩
    · next unneeded =>
      have none_left := requiresUnregister_false (Bool.eq_false_iff.mpr unneeded)
      exact fun _ => ⟨reached.1, reached.2, sound.covered.relays_eq_empty reached.2 none_left⟩
  · exact sound.goOn fun ok => ⟨reached.1, reached.2 (of_decide_eq_true ok)⟩
  · next task _ =>
    obtain ⟨unlisting, removed⟩ := shutdownStep_removed env r.heartbeat
      sound.counted sound.covered reached.2
    exact {
      counted := unlisting.counted.trans sound.counted
      covered := unlisting.covered
      latched := fun set => unlisting.gentle.latched (sound.latched set)
      reached := ⟨reached.1, removed⟩
      recovering := fun task running => (sound.recovering task running).gentle unlisting.gentle }
  · exact sound

/-! ## A recovery -/

theorem recoveringStep_sound {task : ShutdownTask} (sound : r.Sound (some task)) :
    BridgeRelay.Sound { r with node := (shutdownStep env r.heartbeat r.node task).1 }
      (some (shutdownStep env r.heartbeat r.node task).2) := by
  obtain ⟨unlisting, removed⟩ := shutdownStep_removed env r.heartbeat
    sound.counted sound.covered (sound.recovering task rfl)
  have kept : BridgeRelay.Sound { r with node := (shutdownStep env r.heartbeat r.node task).1 }
      (some task) :=
    sound.gentle unlisting.gentle (unlisting.counted.trans sound.counted) unlisting.covered rfl rfl
  refine { kept.forget with recovering := ?_ }
  rintro _ ⟨⟩
  exact removed

theorem resetFlags_sound (sound : r.Sound recovering) :
    BridgeRelay.Sound { r with
      node.pollingStopped := false
      node.unregisterAttempted := false
      node.unregisterComplete := false } recovering :=
  sound.gentle (.frame (by rfl) (by rfl) _ _) sound.counted sound.covered rfl rfl

/-- Nothing that a cleanup has reached before the latch depends on the client. -/
theorem CleanupTask.Reached.of_unlatched {cleanup : CleanupTask}
    (reached : cleanup.Reached false s p h) : cleanup.Reached false s' p' h' := by
  cases cleanup with
  | waiting => trivial
  | quiesce => exact reached
  | evaluate | evaluateAgain | stopHeartbeat | joinHeartbeat | unregister => cases reached.1
  | reported required success =>
    intro ok
    cases (reached ok).1

theorem unlatch_sound (sound : r.Sound none) (unset : r.latch.set = false) :
    BridgeRelay.Sound { r with node.mutationLatched := false } none where
  counted := sound.counted
  covered := sound.covered
  latched set := by
    rw [unset] at set
    cases set
  reached := by
    have reached := sound.reached
    rw [unset] at reached
    dsimp only
    rw [unset]
    exact reached.of_unlatched
  recovering := nofun

theorem clear_sound (sound : r.Sound none)
    (apart : Disjoint r.node.relays r.node.registeredRelays) :
    BridgeRelay.Sound { r with node.registeredRelays := ∅ } none :=
  sound.gentle (.frame (by rfl) (by rfl) _ _) sound.counted
    (fun url member => .inr ((sound.covered url member).resolve_left
      (Finset.disjoint_left.mp apart member))) rfl rfl

/-! ## The bridge -/

variable {n : Nat} {envs : Fin n → NodeEnv} {b : Bridge n}

/-- The unregistration that a recovery makes for a client. -/
def RecoveryTask.calling (i : Fin n) : RecoveryTask n → Option ShutdownTask
  | .unregister j task _ => if j = i then some task else none
  | _ => none

/-- The invariant of the bridge. -/
def Bridge.Sound (b : Bridge n) : Prop :=
  ∀ i, (b.relay i).Sound (b.recovery.calling i)

theorem Bridge.Sound.update (sound : b.Sound) (i : Fin n) {f : BridgeRelay → BridgeRelay}
    (kept : ∀ recovering, (b.relay i).Sound recovering → (f (b.relay i)).Sound recovering) :
    (b.update i f).Sound := by
  intro j
  by_cases same : j = i
  · subst same
    simpa [Bridge.update] using kept _ (sound j)
  · simpa [Bridge.update, same] using sound j

theorem Bridge.Sound.goOn (sound : b.Sound) {recovery : RecoveryTask n}
    (idle : ∀ i, recovery.calling i = none) : Bridge.Sound { b with recovery } := by
  intro i
  dsimp only
  rw [idle i]
  exact (sound i).forget

theorem Bridge.Sound.update_recovery (sound : b.Sound) {i : Fin n} {f : BridgeRelay → BridgeRelay}
    {recovery : RecoveryTask n} (others : ∀ j, j ≠ i → recovery.calling j = none)
    (kept : (f (b.relay i)).Sound (recovery.calling i)) :
    Bridge.Sound { b.update i f with recovery } := by
  intro j
  by_cases same : j = i
  · subst same
    simpa [Bridge.update] using kept
  · simpa [Bridge.update, same, others j same] using (sound j).forget

theorem recoveryStep_sound (sound : b.Sound) (outcome : ReadyOutcome)
    (orderly : b.recovery.Orderly b) : (recoveryStep envs outcome b).Sound := by
  have calling (i : Fin n) := sound i
  unfold recoveryStep
  split
  all_goals rename_i at_; rw [at_] at orderly; simp only [at_] at calling
  · exact sound.goOn fun _ => rfl
  · exact sound.goOn fun _ => rfl
  · next i rest =>
    split
    · intro j
      dsimp only
      refine { (sound j).forget with recovering := fun task running => ?_ }
      simp only [RecoveryTask.calling] at running
      split at running
      · cases running
        trivial
      · cases running
    · exact sound.goOn fun _ => rfl
  · exact sound.goOn fun _ => rfl
  · next i task rest _ =>
    refine sound.update_recovery (fun j other => if_neg (Ne.symm other)) ?_
    have running := calling i
    simp only [RecoveryTask.calling, if_pos] at running ⊢
    exact recoveringStep_sound running
  · split <;> exact sound.goOn fun _ => rfl
  · cases outcome <;> exact sound.goOn fun _ => rfl
  · exact sound.goOn fun _ => rfl
  · exact sound.goOn fun _ => rfl
  · next i clearRegistration rest =>
    exact sound.update_recovery (fun _ _ => rfl) (resetFlags_sound (calling i))
  · next i clearRegistration rest =>
    split
    all_goals exact sound.update_recovery (fun _ _ => rfl) (unlatch_sound (calling i) orderly)
  · next i rest =>
    exact sound.update_recovery (fun _ _ => rfl) (clear_sound (calling i) orderly)

theorem bridgeStep_sound (ev : BridgeEvent n) (b : Bridge n) (orderly : Orderly ev b)
    (sound : b.Sound) : (bridgeStep envs ev b).Sound := by
  cases ev with
  | poll i =>
    simp only [bridgeStep]
    exact sound.update i fun _ => poll_sound
  | heartbeat i =>
    simp only [bridgeStep]
    exact sound.update i fun _ => heartbeat_sound
  | startHeartbeat i =>
    show (b.update i _).Sound
    exact sound.update i fun _ => startHeartbeat_sound
  | lease i due | stopHeartbeat i | pollResult i =>
    simp only [bridgeStep]
    exact sound.update i fun _ sound =>
      sound.gentle (.frame (by rfl) (by rfl) _ _) sound.counted sound.covered rfl rfl
  | requestStop | stopped ended => exact sound
  | latch i =>
    show (b.update i _).Sound
    exact sound.update i fun _ => latchStep_sound
  | cleanup i =>
    show (b.update i _).Sound
    exact sound.update i fun _ => cleanupStep_sound
  | failCleanup i =>
    show (b.update i _).Sound
    exact sound.update i fun _ => failCleanup_sound
  | recovery outcome => exact recoveryStep_sound sound outcome (orderly rfl)
  | failUnadvertise =>
    simp only [bridgeStep, failUnadvertise]
    split
    · exact sound.goOn fun _ => rfl
    · exact sound

/-! ## Reports are final -/

theorem Bridge.update_cleanup {i j : Fin n} {f : BridgeRelay → BridgeRelay}
    {required success : Bool}
    (kept : ∀ r : BridgeRelay, r.cleanup = .reported required success →
      (f r).cleanup = .reported required success)
    (reported : (b.relay i).cleanup = .reported required success) :
    ((b.update j f).relay i).cleanup = .reported required success := by
  by_cases same : i = j
  · subst same
    simpa [Bridge.update] using kept _ reported
  · simpa [Bridge.update, same] using reported

theorem recoveryStep_cleanup (outcome : ReadyOutcome) {i : Fin n} {required success : Bool}
    (reported : (b.relay i).cleanup = .reported required success) :
    ((recoveryStep envs outcome b).relay i).cleanup = .reported required success := by
  unfold recoveryStep
  split
  case h_3 => split <;> exact reported
  case h_5 | h_10 | h_11 | h_12 =>
    dsimp only
    refine Bridge.update_cleanup ?_ reported
    exact fun _ kept => kept
  all_goals exact reported

theorem bridgeStep_cleanup (ev : BridgeEvent n) {i : Fin n} {required success : Bool}
    (reported : (b.relay i).cleanup = .reported required success) :
    ((bridgeStep envs ev b).relay i).cleanup = .reported required success := by
  cases ev with
  | poll | heartbeat | stopHeartbeat | lease | pollResult =>
    simp only [bridgeStep]
    exact Bridge.update_cleanup (fun _ kept => kept) reported
  | startHeartbeat =>
    refine Bridge.update_cleanup (fun r kept => ?_) reported
    unfold startHeartbeat
    split <;> exact kept
  | latch =>
    refine Bridge.update_cleanup (fun r kept => ?_) reported
    unfold latchStep
    split <;> exact kept
  | cleanup =>
    refine Bridge.update_cleanup (fun r kept => ?_) reported
    simp only [cleanupStep, kept]
  | failCleanup =>
    refine Bridge.update_cleanup (fun r kept => ?_) reported
    simp only [failCleanup, kept]
  | recovery outcome => exact recoveryStep_cleanup outcome reported
  | failUnadvertise =>
    simp only [bridgeStep, failUnadvertise]
    split <;> exact reported
  | requestStop | stopped => exact reported

/-- The `stopped` event reports that nothing is left. -/
def Bridge.ReportsClean (b : Bridge n) : Prop :=
  b.stopped = some .complete ∨ b.stopped = some .notRequired

/-- Every cleanup has reported success. -/
def Bridge.Cleaned (b : Bridge n) : Prop :=
  ∀ i, ∃ required, (b.relay i).cleanup = .reported required true

theorem recoveryStep_stopped (outcome : ReadyOutcome) :
    (recoveryStep envs outcome b).stopped = b.stopped := by
  unfold recoveryStep
  split
  case h_3 => split <;> rfl
  all_goals rfl

theorem cleaned_of_stopOutcome (ended : Bool) (clean : b.stopOutcome ended ≠ .incomplete) :
    b.Cleaned := by
  unfold Bridge.stopOutcome at clean
  split at clean
  · next all => exact all.2.2
  · exact absurd rfl clean

theorem bridgeStep_cleaned (ev : BridgeEvent n) (b : Bridge n)
    (cleaned : b.ReportsClean → b.Cleaned) :
    (bridgeStep envs ev b).ReportsClean → (bridgeStep envs ev b).Cleaned := by
  have final (all : b.Cleaned) : (bridgeStep envs ev b).Cleaned := fun i =>
    (all i).imp fun _ reported => bridgeStep_cleanup ev reported
  have before (same : (bridgeStep envs ev b).stopped = b.stopped) :
      (bridgeStep envs ev b).ReportsClean → (bridgeStep envs ev b).Cleaned := by
    intro clean
    unfold Bridge.ReportsClean at clean
    rw [same] at clean
    exact final (cleaned clean)
  cases ev with
  | recovery outcome => exact before (recoveryStep_stopped outcome)
  | failUnadvertise =>
    refine before ?_
    simp only [bridgeStep, failUnadvertise]
    split <;> rfl
  | stopped ended =>
    intro clean
    cases first : b.stopped with
    | some outcome =>
      refine final (cleaned ?_)
      simpa [Bridge.ReportsClean, bridgeStep, first] using clean
    | none =>
      refine final (cleaned_of_stopOutcome ended fun incomplete => ?_)
      simp [Bridge.ReportsClean, bridgeStep, first, incomplete] at clean
  | _ => exact before rfl

theorem fresh_sound : BridgeRelay.Sound .fresh none where
  counted := rfl
  covered _ := nofun
  latched := nofun
  reached := trivial
  recovering := nofun

theorem started_sound (n : Nat) : (Bridge.started n).Sound := fun _ => fresh_sound

theorem not_sendsRegistration (sound : b.Sound) {i : Fin n} {required : Bool}
    (reported : (b.relay i).cleanup = .reported required true) (ev : BridgeEvent n) :
    ¬ SendsRegistration i ev b := by
  have reached := (sound i).reached
  rw [reported] at reached
  obtain ⟨-, still, -⟩ := reached rfl
  rintro (⟨-, url, rest, posting⟩ | ⟨-, url, rest, posting⟩)
  · have idle := still.poll
    rw [posting] at idle
    cases idle
  · have idle := still.heartbeat
    rw [posting] at idle
    cases idle

/-- No register request is sent for a client once its cleanup has reported success, and no relay
has the node when the `stopped` event reports `complete` or `not_required`. -/
structure SafeAfterCleanup (envs : Fin n → NodeEnv) (evs : List (BridgeEvent n)) : Prop where
  silent : ∀ before after i required, evs = before ++ after →
    ((runs (bridgeStep envs) before (.started n)).relay i).cleanup = .reported required true →
    Along (bridgeStep envs) (fun ev b => ¬ SendsRegistration i ev b) after
      (runs (bridgeStep envs) before (.started n))
  unlisted : (runs (bridgeStep envs) evs (.started n)).ReportsClean →
    ∀ i, ((runs (bridgeStep envs) evs (.started n)).relay i).node.relays = ∅

/-- No registration after the cleanup of a bridge, in every run in which no recovery releases a
latch that the stop has set or drops the record of a relay that has the node. -/
theorem no_registration_after_cleanup (envs : Fin n → NodeEnv) (evs : List (BridgeEvent n))
    (orderly : Along (bridgeStep envs) Orderly evs (.started n)) : SafeAfterCleanup envs evs := by
  constructor
  · rintro before after i required rfl reported
    have first := orderly.take before.length
    have second := orderly.drop before.length
    rw [List.take_left] at first second
    rw [List.drop_left] at second
    have sound : (runs (bridgeStep envs) before (.started n)).Sound :=
      along_runs bridgeStep_sound first (started_sound n)
    exact along_of_along
      (J := fun b : Bridge n => b.Sound ∧ (b.relay i).cleanup = .reported required true)
      (fun ev b orderly kept => ⟨bridgeStep_sound ev b orderly kept.1,
        bridgeStep_cleanup ev kept.2⟩)
      (fun ev b _ kept => not_sendsRegistration kept.1 kept.2 ev) second ⟨sound, reported⟩
  · intro clean i
    have sound : (runs (bridgeStep envs) evs (.started n)).Sound :=
      along_runs bridgeStep_sound orderly (started_sound n)
    have cleaned : (runs (bridgeStep envs) evs (.started n)).ReportsClean →
        (runs (bridgeStep envs) evs (.started n)).Cleaned :=
      invariant_runs (J := fun b : Bridge n => b.ReportsClean → b.Cleaned) bridgeStep_cleaned evs
        fun clean => by rcases clean with impossible | impossible <;> cases impossible
    obtain ⟨required, reported⟩ := cleaned clean i
    have reached := (sound i).reached
    rw [reported] at reached
    exact (reached rfl).2.2

/-- Two clients with a relay each. -/
def twoClients (i : Fin 2) : NodeEnv where
  relayUrls := [if i = 0 then "https://a.example" else "https://b.example"]
  distinct := List.nodup_singleton _
  iterationOrder := sorted

/-- The first client has polled once when its poll thread recovers the runtime. The runtime is
not ready yet. -/
def startsRecovery : List (BridgeEvent 2) :=
  List.replicate 13 (.poll 0) ++ [.pollResult 0] ++ List.replicate 19 (.recovery .again)

/-- The runtime is ready, and the clients are started again. -/
def endsRecovery : List (BridgeEvent 2) := List.replicate 10 (.recovery .ready)

/-- The clients are latched and cleaned up. -/
def cleaningUp : List (BridgeEvent 2) :=
  [.requestStop] ++ List.replicate 3 (.latch 0) ++ List.replicate 3 (.latch 1) ++
    List.replicate 14 (.cleanup 0) ++ List.replicate 5 (.cleanup 1)

theorem no_registration_after_cleanup_sample :
    SafeAfterCleanup twoClients (startsRecovery ++ endsRecovery ++ cleaningUp ++ [.stopped true]) :=
  no_registration_after_cleanup twoClients _ (by decide +kernel)

/-- A call of the second client is about to register when the stop is requested, and goes on
when the recovery has released the latch after the cleanup. -/
theorem registration_after_cleanup :
    ¬ SafeAfterCleanup twoClients
      (List.replicate 4 (.poll 1) ++ startsRecovery ++ cleaningUp ++ endsRecovery ++
        List.replicate 2 (.poll 1) ++ [.stopped true]) := by
  intro safe
  have clean := safe.unlisted (.inl (by decide +kernel)) 1
  exact absurd clean (by decide +kernel)

end ComputeNode
