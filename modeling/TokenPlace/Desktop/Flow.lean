import TokenPlace.Desktop.Operator

/-!
# Where a task goes next

The control flow of the operator's tasks, with what a task hands on to the next one and
without the values that it reads. What a task holds, plays or belongs to is followed
along these edges.
-/

namespace Operator

/-- The task may be followed by that one. -/
inductive Leads : Task → Task → Prop
  | reserves (session : String) : Leads .nextSession (.reserve session)
  | busy (session : String) : Leads (.reserve session) (.report none alreadyRunning)
  | launches (session : String) : Leads (.reserve session) (.launch session)
  | unlaunched (session lastError failure : String) :
      Leads (.launch session) (.startupFailed session lastError failure)
  | unpiped (session : String) (deadline : Nat) (failure : String) (child stdin : Option Nat) :
      Leads (.launch session) (.cancel (.failedStart session deadline failure) child stdin)
  | attaches (session : String) (child : Nat) : Leads (.launch session) (.attach session child)
  | unstarted (session lastError failure : String) :
      Leads (.startupFailed session lastError failure) (.report (some session) failure)
  | publishes (session : String) (child : Nat) : Leads (.attach session child) (.publish session)
  | reads (session : String) (child : Nat) :
      Leads (.attach session child) (.readStdout session false false)
  | superseded (session : String) (child : Nat) :
      Leads (.attach session child) (.cancel (.superseded session) (some child) (some child))
  | published (session : String) : Leads (.publish session) (.readStdout session false false)
  | line (session : String) (startup error startup' error' : Bool) :
      Leads (.readStdout session startup error) (.readStdout session startup' error')
  | closed (session : String) (startup error : Bool) :
      Leads (.readStdout session startup error) (.stdoutEnd session startup error)
  | unclaimed (session : String) (startup error : Bool) (result : StopResult) :
      Leads (.stdoutEnd session startup error) (.sessionCurrent session result)
  | claims (session : String) (startup error : Bool) (notify deadline : Nat)
      (child stdin : Option Nat) :
      Leads (.stdoutEnd session startup error)
        (.cancel (.stdoutEnd ⟨session, notify, deadline, startup, error⟩) child stdin)
  | rereads (session : String) (result result' : StopResult) :
      Leads (.sessionCurrent session result) (.readCurrent session result')
  | current (session : String) (result : StopResult) :
      Leads (.readCurrent session result) (.complete session result)
  | replaced (session : String) (result : StopResult) :
      Leads (.readCurrent session result) (startReturned session result)
  | completed (session : String) (result : StopResult) :
      Leads (.complete session result) (startReturned session result)
  | unspawned (session : String) (shutdown : Shutdown) (failure error : String) :
      Leads (.spawnedFailed session shutdown failure) (.report (some session) error)
  | reported (session : Option String) (error : String) : Leads (.report session error) .finished
  | exited (locals : StdoutEnd) (shutdown : Shutdown) (exitStatus : ExitStatus) (ack : Bool) :
      Leads (.acknowledged locals shutdown) (.bridgeExit locals shutdown exitStatus ack)
  | unexited (locals : StdoutEnd) (shutdown : Shutdown) (result : StopResult) :
      Leads (.acknowledged locals shutdown) (.commitEnd locals shutdown result)
  | clean (locals : StdoutEnd) (shutdown : Shutdown) (exitStatus : ExitStatus) (ack : Bool) :
      Leads (.bridgeExit locals shutdown exitStatus ack)
        (.finalizeRead (.stdoutEnd locals) shutdown ack)
  | unclean (locals : StdoutEnd) (shutdown : Shutdown) (exitStatus : ExitStatus) (ack : Bool)
      (result : StopResult) :
      Leads (.bridgeExit locals shutdown exitStatus ack) (.commitEnd locals shutdown result)
  | ended (locals : StdoutEnd) (shutdown : Shutdown) (result : StopResult) :
      Leads (.commitEnd locals shutdown result) (.sessionCurrent locals.session result)
  | childless (owner : Owner) (stdin : Option Nat) (shutdown : Shutdown) :
      Leads (.cancel owner none stdin) (owner.after shutdown)
  | kills (session : String) (child : Nat) (stdin : Option Nat) :
      Leads (.cancel (.superseded session) (some child) stdin) (.kill (.superseded session) child)
  | waits (owner : Owner) (child : Nat) (stdin : Option Nat) :
      Leads (.cancel owner (some child) stdin) (.tryWait owner child)
  | alive (owner : Owner) (child : Nat) : Leads (.tryWait owner child) (.untilDeadline owner child)
  | observed (owner : Owner) (child : Nat) (shutdown : Shutdown) :
      Leads (.tryWait owner child) (owner.after shutdown)
  | retries (owner : Owner) (child : Nat) :
      Leads (.untilDeadline owner child) (.tryWait owner child)
  | overdue (owner : Owner) (child : Nat) : Leads (.untilDeadline owner child) (.kill owner child)
  | killed (owner : Owner) (child : Nat) (shutdown : Shutdown) :
      Leads (.kill owner child) (owner.after shutdown)
  | stops (session : Option String) : Leads .snapshot (.readDeadline session)
  | deadline (session : Option String) (firstDeadline : Nat) :
      Leads (.readDeadline session) (.mark session firstDeadline)
  | recordless (session : Option String) (firstDeadline : Nat) (shutdown : Shutdown) (ack : Bool) :
      Leads (.mark session firstDeadline) (.finalizeRead (.stopCall session) shutdown ack)
  | unmarked (session session' : Option String) (firstDeadline : Nat) (result : StopResult) :
      Leads (.mark session firstDeadline) (.returned none session' result)
  | marked (session : Option String) (firstDeadline : Nat) (waiter : Waiter) :
      Leads (.mark session firstDeadline) (.register waiter)
  | registered (waiter : Waiter) (seen : Nat) : Leads (.register waiter) (.check waiter seen)
  | answered (waiter : Waiter) (seen : Nat) (session : Option String) (result : StopResult) :
      Leads (.check waiter seen) (.returned (some waiter) session result)
  | unanswered (waiter : Waiter) (seen : Nat) :
      Leads (.check waiter seen) (.pastDeadline waiter seen)
  | late (waiter : Waiter) (seen : Nat) (session : Option String) (result : StopResult) :
      Leads (.pastDeadline waiter seen) (.returned (some waiter) session result)
  | parks (waiter : Waiter) (seen : Nat) : Leads (.pastDeadline waiter seen) (.parked waiter seen)
  | wakes (waiter : Waiter) (seen : Nat) : Leads (.parked waiter seen) (.register waiter)
  | sleeps (waiter : Waiter) (seen : Nat) : Leads (.parked waiter seen) (.parked waiter seen)
  | returned (waiter : Option Waiter) (session : Option String) (result : StopResult) :
      Leads (.returned waiter session result) (.returned waiter session result)
  | abandoned (session : Option String) (marked : Nat) :
      Leads (.supervise session marked) .finished
  | supervises (session : Option String) (marked notify deadline : Nat) :
      Leads (.supervise session marked)
        (.registerSupervisor ⟨session, marked, notify, deadline, none⟩)
  | listens (locals : Supervisor) (seen : Nat) :
      Leads (.registerSupervisor locals) (.takeChild locals seen)
  | unrecorded (locals : Supervisor) (seen : Nat) :
      Leads (.takeChild locals seen) (.cancel (.supervisor locals) none locals.stdin)
  | stale (locals : Supervisor) (seen : Nat) : Leads (.takeChild locals seen) .finished
  | takes (locals : Supervisor) (seen : Nat) (child stdin : Option Nat) :
      Leads (.takeChild locals seen) (.childDeadline { locals with stdin } child seen)
  | taken (locals : Supervisor) (child : Option Nat) (seen : Nat) :
      Leads (.childDeadline locals child seen) (.cancel (.supervisor locals) child locals.stdin)
  | expects (locals : Supervisor) (seen : Nat) :
      Leads (.childDeadline locals none seen) (.awaitChild locals seen)
  | expected (locals : Supervisor) (seen : Nat) :
      Leads (.awaitChild locals seen) (.registerSupervisor locals)
  | stays (locals : Supervisor) (seen : Nat) :
      Leads (.awaitChild locals seen) (.awaitChild locals seen)
  | listensAck (locals : Supervisor) (shutdown : Shutdown) (seen : Nat) :
      Leads (.registerAck locals shutdown) (.checkAck locals shutdown seen)
  | acknowledged (locals : Supervisor) (shutdown : Shutdown) (seen : Nat) (ack : Bool) :
      Leads (.checkAck locals shutdown seen) (.finalizeRead (.supervisor locals) shutdown ack)
  | unacknowledged (locals : Supervisor) (shutdown : Shutdown) (seen : Nat) :
      Leads (.checkAck locals shutdown seen) (.ackDeadline locals shutdown seen)
  | ackOverdue (locals : Supervisor) (shutdown : Shutdown) (seen : Nat) :
      Leads (.ackDeadline locals shutdown seen) (.finalizeRead (.supervisor locals) shutdown false)
  | expectsAck (locals : Supervisor) (shutdown : Shutdown) (seen : Nat) :
      Leads (.ackDeadline locals shutdown seen) (.awaitAck locals shutdown seen)
  | expectedAck (locals : Supervisor) (shutdown : Shutdown) (seen : Nat) :
      Leads (.awaitAck locals shutdown seen) (.registerAck locals shutdown)
  | staysAck (locals : Supervisor) (shutdown : Shutdown) (seen : Nat) :
      Leads (.awaitAck locals shutdown seen) (.awaitAck locals shutdown seen)
  | committed (locals : Supervisor) (shutdown : Shutdown) (result : StopResult) :
      Leads (.commitStop locals shutdown result) .finished
  | finalizes (finalizer : Finalizer) (shutdown : Shutdown) (ack : Bool)
      (stopError : Option String) :
      Leads (.finalizeRead finalizer shutdown ack) (.finalizeWrite finalizer shutdown stopError)
  | finalized (finalizer : Finalizer) (shutdown : Shutdown) (stopError : Option String) :
      Leads (.finalizeWrite finalizer shutdown stopError)
        (finalizer.after shutdown (stopResultOf stopError))
  | finished : Leads .finished .finished

theorem markStep_leads (s : ComputeNodeState) (session : Option String) (firstDeadline : Nat) :
    Leads (.mark session firstDeadline) (markStep s session firstDeadline).task := by
  unfold markStep
  split
  · exact .recordless ..
  · split
    · exact .unmarked ..
    · split
      · exact .unmarked ..
      · exact .marked ..

theorem takeChildStep_leads (s : ComputeNodeState) (locals : Supervisor) (seen : Nat) :
    Leads (.takeChild locals seen) (takeChildStep s locals seen).task := by
  unfold takeChildStep
  split
  · exact .unrecorded ..
  · split
    · exact .stale ..
    · split
      · exact .stale ..
      · exact .takes ..

theorem taskStep_leads (c : Choice) (s : ComputeNodeState) (task : Task) :
    Leads task (taskStep c s task).task := by
  cases task with
  | nextSession => exact .reserves _
  | reserve session =>
    simp only [taskStep]
    split
    · exact .busy _
    · exact .launches _
  | launch session =>
    simp only [taskStep, launchStep]
    cases c.launch with
    | failed => exact .unlaunched ..
    | missingPipe => exact .unpiped ..
    | spawned => exact .attaches ..
  | startupFailed session lastError failure => exact .unstarted ..
  | attach session child =>
    simp only [taskStep, attachStep]
    split
    · exact .publishes ..
    · exact .reads ..
    · exact .superseded ..
  | publish session => exact .published _
  | readStdout session startup error =>
    simp only [taskStep, readStep]
    cases c.line with
    | unparsed => exact .line ..
    | terminal => exact .closed ..
    | event payload =>
      simp only
      split <;> exact .line ..
  | stdoutEnd session startup error =>
    simp only [taskStep]
    split
    · exact .unclaimed ..
    · exact .claims ..
  | sessionCurrent session result => exact .rereads ..
  | readCurrent session result =>
    simp only [taskStep, goes]
    split
    · exact .current ..
    · exact .replaced ..
  | complete session result => exact .completed ..
  | spawnedFailed session shutdown failure => exact .unspawned ..
  | report session error => exact .reported ..
  | acknowledged locals shutdown =>
    simp only [taskStep, goes]
    split
    · exact .exited ..
    · exact .unexited ..
  | bridgeExit locals shutdown exitStatus ack =>
    simp only [taskStep, bridgeExitStep, goes]
    split
    · exact .clean ..
    · exact .unclean ..
  | commitEnd locals shutdown result => exact .ended ..
  | cancel owner child stdin =>
    cases child with
    | none => exact .childless ..
    | some child =>
      cases owner with
      | superseded => exact .kills ..
      | _ => exact .waits ..
  | tryWait owner child =>
    simp only [taskStep]
    split
    · exact .alive ..
    · exact .observed ..
  | untilDeadline owner child =>
    simp only [taskStep, goes]
    split
    · exact .retries ..
    · exact .overdue ..
  | kill owner child => exact .killed ..
  | snapshot => exact .stops _
  | readDeadline session => exact .deadline ..
  | mark session firstDeadline => exact markStep_leads ..
  | register waiter => exact .registered ..
  | check waiter seen =>
    simp only [taskStep, checkStep]
    split
    · split
      · exact .answered ..
      · exact .unanswered ..
    · exact .unanswered ..
  | pastDeadline waiter seen =>
    simp only [taskStep, goes]
    split
    · exact .late ..
    · exact .parks ..
  | parked waiter seen =>
    simp only [taskStep, goes]
    split
    · exact .wakes ..
    · exact .sleeps ..
  | returned waiter session result => exact .returned ..
  | supervise session marked =>
    simp only [taskStep, goes]
    split
    · exact .abandoned ..
    · exact .supervises ..
  | registerSupervisor locals => exact .listens ..
  | takeChild locals seen => exact takeChildStep_leads ..
  | childDeadline locals child seen =>
    simp only [taskStep, goes]
    split
    · exact .taken ..
    · next h =>
      have none_ : child = none := by simp_all
      subst none_
      exact .expects ..
  | awaitChild locals seen =>
    simp only [taskStep, goes]
    split
    · exact .expected ..
    · exact .stays ..
  | registerAck locals shutdown => exact .listensAck ..
  | checkAck locals shutdown seen =>
    simp only [taskStep, goes]
    split
    · exact .acknowledged ..
    · split
      · exact .acknowledged ..
      · exact .unacknowledged ..
  | ackDeadline locals shutdown seen =>
    simp only [taskStep, goes]
    split
    · exact .ackOverdue ..
    · exact .expectsAck ..
  | awaitAck locals shutdown seen =>
    simp only [taskStep, goes]
    split
    · exact .expectedAck ..
    · exact .staysAck ..
  | commitStop locals shutdown result => exact .committed ..
  | finalizeRead finalizer shutdown ack => exact .finalizes ..
  | finalizeWrite finalizer shutdown stopError => exact .finalized ..
  | finished => exact .finished

end Operator
