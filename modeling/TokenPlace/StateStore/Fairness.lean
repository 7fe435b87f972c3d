import TokenPlace.StateStore.Scheduling

/-!
# Turns among tied nodes

A run of the store makes selections (`selections`). The fairness cursor of a
fingerprint is on the node that it selected last, until the removal of that node
or a selection for another fingerprint drops it (`LastPlace`), so consecutive
selections that see the same tied nodes and find their cursor take turns.

* `LastPlace.next`: what a call does to the cursor of a fingerprint;
* `selections_chain`: the cursor that a selection finds;
* `scheduler_choice`: when a call reserves, what it chooses, and the turns.
-/

namespace StateStore

open Method RoundRobin

/-! ## Selections -/

/-- A selection that created a reservation: the tied nodes and the cursor that it saw, the
fingerprint whose cursor it evicted, and its choice. -/
structure Selection where
  fingerprint : String
  tied : List String
  cursor : Option String
  evicted : Option String
  node : String
deriving DecidableEq

/-- The node that the cursor of the fingerprint is on. -/
def cursorOf (s : Store) (fingerprint : String) : Option String :=
  (s.fairnessCursors.get? fingerprint).map (·.1)

/-- The selection behind a result, made in the swept store `s`. -/
def selectionOf (env : StoreEnv) (s : Store) (r : SelectionResult) : Selection :=
  let fingerprint := schedulerFingerprint env r.requestedModelId r.requestedContextTier
  ⟨fingerprint, tiedNodes env s r.requestedModelId r.requestedContextTier,
    cursorOf s fingerprint, (cursorEvictionCandidate env s fingerprint).toOption.join,
    r.selectedNodeId⟩

/-- The selection that a call makes. -/
def Call.selection? (env : StoreEnv) (c : Call) (s : Store) : Option Selection :=
  match c.result env s with
  | .ok (.selection r) =>
    if r.created then some (selectionOf env (reapLocked env c.clock s).2 r) else none
  | _ => none

/-- The selections of a run, in order. -/
def selections (env : StoreEnv) : List Call → Store → List Selection
  | [], _ => []
  | c :: calls, s => (c.selection? env s).toList ++ selections env calls (c.next env s)

section

variable {env : StoreEnv} {s s' : Store} {fingerprint : String}
variable {x : Selection} {c : Call} {record : ComputeNodeRegistration} {now : Epoch}
  {calls : List Call} {n : String}

theorem Call.selection?_eq_some (reachable : Reachable env s) (h : c.selection? env s = some x) :
    ∃ req n evicted s₁, GrantsReservation env c req n evicted s s₁ ∧
      x = ⟨schedulerFingerprint env req.modelId req.tier, tiedNodes env s₁ req.modelId req.tier,
        cursorOf s₁ (schedulerFingerprint env req.modelId req.tier), evicted, n⟩ := by
  unfold Call.selection? at h
  split at h
  · next r result =>
    split at h
    · next created =>
      cases h
      obtain ⟨req, n, evicted, s₁, -, grants⟩ := reachable.grants result created
      refine ⟨req, n, evicted, s₁, grants, ?_⟩
      have same := grants.result
      rw [result] at same
      cases same
      rw [grants.swept]
      unfold selectionOf
      dsimp only [selectionResult, reservationOf]
      rw [grants.cursor]
      rfl
    · cases h
  · cases h

/-- A selection sees distinct nodes, chooses one of them, and comes right after its cursor. -/
theorem Call.selection?_sound (reachable : Reachable env s) (h : c.selection? env s = some x) :
    x.tied.Nodup ∧ x.node ∈ x.tied ∧
      ∀ a ∈ x.cursor, a ∈ x.tied → Follows x.tied a x.node := by
  obtain ⟨req, n, evicted, s₁, grants, rfl⟩ := c.selection?_eq_some reachable h
  have inv := swept_nodeInv reachable grants.swept
  have sorted : (tiedNodes env s₁ req.modelId req.tier).Pairwise fun a b =>
      orderOf s₁ a < orderOf s₁ b := inv.tiedNodes_sorted
  refine ⟨sorted.imp fun hlt heq => ?_, inv.mem_tiedNodes.mpr grants.next.mem, fun a ha tied => ?_⟩
  · rw [heq] at hlt
    exact lt_irrefl _ hlt
  · obtain ⟨record, state, eligible, -⟩ := inv.mem_tiedNodes.mp tied
    obtain ⟨o, ho⟩ := OrderedDict.mem_def.mp
      ((inv.order_iff a).mpr (OrderedDict.mem_of_get? eligible.registered))
    obtain ⟨cursor, hc, rfl⟩ := Option.map_eq_some_iff.mp ha
    have place : cursorOrder s₁ (schedulerFingerprint env req.modelId req.tier) =
        some (orderOf s₁ cursor.1) := by
      unfold cursorOrder orderOf
      rw [hc, Option.bind_some, ho, Option.getD_some]
    have next := grants.next
    rw [place] at next
    refine IsNext.follows sorted tied (next.map id (fun _ _ => rfl) fun b => ?_)
    rw [inv.mem_tiedNodes]
    exact ⟨fun hb => ⟨b, hb, rfl⟩, fun ⟨y, hy, heq⟩ => heq ▸ hy⟩

/-! ## The cursor of a fingerprint -/

/-- The cursor of the fingerprint since its last selection: `none` when there was none, else
the node and its place at that time, which the removal of the node makes void. -/
inductive LastPlace (fingerprint : String) : Option (String × Nat) → Store → Prop
  | unset {s : Store} : cursorOf s fingerprint = none → LastPlace fingerprint none s
  | held {s : Store} {n : String} {o : Nat} : cursorOf s fingerprint = some n →
      s.registrationOrder.get? n = some o → LastPlace fingerprint (some (n, o)) s
  | removed {s : Store} {n : String} {o : Nat} : cursorOf s fingerprint = none →
      s.registrationOrder.get? n ≠ some o → o < s.nextRegistrationOrder →
      LastPlace fingerprint (some (n, o)) s

variable {last : Option (String × Nat)}

theorem LastPlace.same (h : LastPlace fingerprint last s)
    (cursors : s'.fairnessCursors = s.fairnessCursors)
    (order : s'.registrationOrder = s.registrationOrder)
    (next : s'.nextRegistrationOrder = s.nextRegistrationOrder) :
    LastPlace fingerprint last s' := by
  have cursor : cursorOf s' fingerprint = cursorOf s fingerprint := by
    rw [cursorOf, cursorOf, cursors]
  cases h with
  | unset none => exact .unset (cursor.trans none)
  | held at_node place => exact .held (cursor.trans at_node) (by rw [order]; exact place)
  | removed none place old =>
    exact .removed (cursor.trans none) (by rw [order]; exact place) (by rw [next]; exact old)

theorem LastPlace.sameNodes (h : LastPlace fingerprint last s) (nodes : SameNodes s s') :
    LastPlace fingerprint last s' :=
  h.same nodes.cursors nodes.registrationOrder nodes.nextRegistrationOrder

theorem LastPlace.startRemoval
    {cause : Cause} (inv : NodeInv env s) (h : LastPlace fingerprint last s)
    (starts : StartsRemoval env now n record cause s s') : LastPlace fingerprint last s' := by
  have order : ∀ m, s'.registrationOrder.get? m =
      if m = n then none else s.registrationOrder.get? m := by
    rw [starts.post]
    exact fun m => OrderedDict.get?_erase ..
  have next : s'.nextRegistrationOrder = s.nextRegistrationOrder := by
    rw [starts.post]
    rfl
  have cursor : cursorOf s' fingerprint = (cursorOf s fingerprint).filter fun m => m ≠ n := by
    have found : s'.fairnessCursors.get? fingerprint =
        (s.fairnessCursors.get? fingerprint).filter fun cursor => cursor.1 ≠ n := by
      rw [starts.post]
      exact OrderedDict.get?_filter ..
    rw [cursorOf, cursorOf, found]
    cases s.fairnessCursors.get? fingerprint with
    | none => rfl
    | some cursor => by_cases hm : cursor.1 = n <;> simp [Option.filter, hm]
  cases h with
  | unset none => exact .unset (by rw [cursor, none]; rfl)
  | @held _ m o at_node place =>
    by_cases hm : m = n
    · subst hm
      refine .removed (by rw [cursor, at_node]; simp) ?_ ?_
      · rw [order, if_pos rfl]
        exact nofun
      · rw [next]
        exact inv.order_lt _ _ place
    · refine .held (by rw [cursor, at_node]; simp [hm]) ?_
      rw [order, if_neg hm]
      exact place
  | @removed _ m o none place old =>
    refine .removed (by rw [cursor, none]; rfl) ?_ (by rw [next]; exact old)
    rw [order]
    split
    · exact nofun
    · exact place

theorem Sweep.lastPlace {P : TerminalPolicy} (inv : NodeInv env s)
    (h : Sweep env P now s s') (hl : LastPlace fingerprint last s) :
    LastPlace fingerprint last s' := by
  cases h with
  | reapRetained =>
    rw [reapRetained_eq]
    exact hl.same rfl rfl rfl
  | terminalize h =>
    rw [h.post]
    exact hl.sameNodes writeTerminal_sameNodes
  | startRemoval h => exact hl.startRemoval inv h
  | defer h | touchFences h | finishRemoval h =>
    exact hl.same (by rw [h.post]) (by rw [h.post]) (by rw [h.post])
  | lapse h | discardWork h =>
    rw [h.post]
    exact hl.same rfl rfl rfl

theorem LastPlace.register (inv : NodeInv env s) (h : LastPlace fingerprint last s)
    (registers : Registers env now n record s s') : LastPlace fingerprint last s' := by
  have order : ∀ m, s'.registrationOrder.get? m =
      if m = n then some s.nextRegistrationOrder else s.registrationOrder.get? m := by
    rw [registers.post]
    exact fun m => OrderedDict.get?_set ..
  have next : s'.nextRegistrationOrder = s.nextRegistrationOrder + 1 := by rw [registers.post]
  have cursor : cursorOf s' fingerprint = cursorOf s fingerprint := by
    rw [cursorOf, cursorOf, registers.post]
  cases h with
  | unset none => exact .unset (cursor.trans none)
  | @held _ m o at_node place =>
    refine .held (cursor.trans at_node) ?_
    have other : m ≠ n := by
      rintro rfl
      obtain ⟨registered, present⟩ := OrderedDict.mem_def.mp
        ((inv.order_iff m).mp (OrderedDict.mem_of_get? place))
      rw [registers.absent] at present
      cases present
    rw [order, if_neg other]
    exact place
  | @removed _ m o none place old =>
    refine .removed (cursor.trans none) ?_ (by omega)
    rw [order]
    split
    · intro same
      cases same
      exact lt_irrefl _ old
    · exact place

theorem Commit.lastPlace {drawn : String} {op : Op} {r : Except StoreError Reply}
    (inv : NodeInv env s) (h : Commit env now drawn op s r s')
    (hl : LastPlace fingerprint last s) :
    LastPlace fingerprint last s' ∨ ∃ x, r = .ok (.selection x) ∧ x.created = true := by
  cases h with
  | register h => exact .inl (hl.register inv h)
  | reserve _ _ => exact .inr ⟨_, rfl, rfl⟩
  | cancel _ h =>
    rw [h.post]
    exact .inl (hl.sameNodes writeTerminal_sameNodes)
  | accept _ h | enqueue _ h =>
    rw [h.post]
    exact .inl (hl.same rfl rfl rfl)
  | reregister _ h | renew h | setScheduler h | advance h | claim _ _ h | renewClaim _ h
  | repair _ h => exact .inl (hl.same (by rw [h.post]) (by rw [h.post]) (by rw [h.post]))
  | acknowledgeControl _ h | acknowledgeResponse _ h =>
    exact .inl (hl.same (by rw [h.post]) (by rw [h.post]) (by rw [h.post]))

theorem Sweeps.lastPlace (reachable : Reachable env s)
    (h : Sweeps env Any now s s') (hl : LastPlace fingerprint last s) :
    LastPlace fingerprint last s' := by
  refine And.right (h.keeps
    (I := fun x => (RequestInv x ∧ NodeInv env x) ∧ LastPlace fingerprint last x) ?_
    ⟨⟨reachable.requestInv, reachable.nodeInv⟩, hl⟩)
  rintro a b step ⟨⟨requests, inv⟩, hl⟩
  exact ⟨⟨step.requestInv requests, step.nodeInv requests inv⟩, step.lastPlace inv hl⟩

theorem cursorOf_writeReservation {req : SelectionRequest} {record : ReservationRecord}
    {evicted : Option String} {f : String} :
    cursorOf (writeReservation req record evicted s) f =
      if f = record.schedulerFingerprint then some record.selectedNodeId
      else if evicted = some f then none else cursorOf s f := by
  unfold cursorOf writeReservation
  dsimp only
  rw [OrderedDict.get?_set]
  by_cases own : f = record.schedulerFingerprint
  · rw [if_pos own, if_pos own]
    rfl
  · rw [if_neg own, if_neg own]
    cases evicted with
    | none => rfl
    | some g =>
      dsimp only
      rw [OrderedDict.get?_erase]
      by_cases other : f = g
      · rw [if_pos other, if_pos (by rw [other])]
        rfl
      · rw [if_neg other, if_neg fun same => other (by cases same; rfl)]

theorem LastPlace.next (reachable : Reachable env s)
    (hl : LastPlace fingerprint last s) (idle : c.selection? env s = none) :
    LastPlace fingerprint last (c.next env s) := by
  refine And.right ((c.next_outcome s).keeps_unless
    (I := fun x => (RequestInv x ∧ NodeInv env x) ∧ LastPlace fingerprint last x)
    (E := fun r => ∃ x, r = .ok (.selection x) ∧ x.created = true) ?_ ?_ ?_
    ⟨⟨reachable.requestInv, reachable.nodeInv⟩, hl⟩)
  · rintro a b step ⟨⟨requests, inv⟩, hl⟩
    exact ⟨⟨step.requestInv requests, step.nodeInv requests inv⟩, step.lastPlace inv hl⟩
  · rintro a r b step ⟨⟨requests, inv⟩, hl⟩
    rcases step.lastPlace inv hl with kept | selected
    · exact .inl ⟨⟨step.requestInv requests, step.nodeInv requests inv⟩, kept⟩
    · exact .inr selected
  · rintro ⟨x, result, created⟩
    unfold Call.selection? at idle
    rw [result] at idle
    dsimp only at idle
    rw [if_pos created] at idle
    cases idle

theorem LastPlace.found (reachable : Reachable env s)
    (selected : c.selection? env s = some x) (hl : LastPlace x.fingerprint last s) :
    x.cursor = none ∨ x.cursor = last.map (·.1) := by
  obtain ⟨req, n, evicted, s₁, grants, rfl⟩ := c.selection?_eq_some reachable selected
  cases (show Sweeps env Any c.clock s s₁ from
    reapLocked_sweeps.of_eq grants.swept).lastPlace reachable hl with
  | unset none => exact .inl none
  | held at_node _ => exact .inr at_node
  | removed none _ _ => exact .inl none

theorem Call.selection?_lastPlace (reachable : Reachable env s)
    (selected : c.selection? env s = some x) :
    ∃ o, (c.next env s).registrationOrder.get? x.node = some o ∧
      LastPlace x.fingerprint (some (x.node, o)) (c.next env s) := by
  obtain ⟨req, n, evicted, s₁, grants, rfl⟩ := c.selection?_eq_some reachable selected
  have inv := swept_nodeInv reachable grants.swept
  obtain ⟨record, state, eligible, -⟩ := grants.next.mem
  obtain ⟨o, ho⟩ := OrderedDict.mem_def.mp
    ((inv.order_iff n).mpr (OrderedDict.mem_of_get? eligible.registered))
  rw [grants.post]
  refine ⟨o, ho, .held ?_ ho⟩
  rw [cursorOf_writeReservation]
  exact if_pos rfl

theorem LastPlace.other (reachable : Reachable env s)
    (selected : c.selection? env s = some x) (other : fingerprint ≠ x.fingerprint)
    (hl : LastPlace fingerprint last s) :
    LastPlace fingerprint (if x.evicted = some fingerprint then none else last)
      (c.next env s) := by
  obtain ⟨req, n, evicted, s₁, grants, rfl⟩ := c.selection?_eq_some reachable selected
  have swept := (show Sweeps env Any c.clock s s₁ from
    reapLocked_sweeps.of_eq grants.swept).lastPlace reachable hl
  rw [grants.post]
  dsimp only at other ⊢
  have cursor : cursorOf (writeReservation req (reservationOf env c.clock c.drawn req n) evicted
      s₁) fingerprint = if evicted = some fingerprint then none else cursorOf s₁ fingerprint :=
    cursorOf_writeReservation.trans (if_neg other)
  split
  · next evicts =>
    rw [if_pos evicts] at cursor
    exact .unset cursor
  · next keeps =>
    rw [if_neg keeps] at cursor
    cases swept with
    | unset none => exact .unset (cursor.trans none)
    | held at_node place => exact .held (cursor.trans at_node) place
    | removed none place old => exact .removed (cursor.trans none) place old

/-! ## Runs -/

/-- The later selection found the cursor that the earlier one left, or none. -/
def TakesTurn (x y : Selection) : Prop := y.cursor = none ∨ y.cursor = some x.node

/-- The selections of a fingerprint in a run. -/
def selectionsFor (env : StoreEnv) (fingerprint : String) (calls : List Call) (s : Store) :
    List Selection :=
  (selections env calls s).filter fun x => x.fingerprint = fingerprint

theorem selectionsFor_cons :
    selectionsFor env fingerprint (c :: calls) s =
      (c.selection? env s).toList.filter (fun x => x.fingerprint = fingerprint) ++
        selectionsFor env fingerprint calls (c.next env s) :=
  List.filter_append ..

theorem selections_chain (calls : List Call) (reachable : Reachable env s)
    (hl : LastPlace fingerprint last s) :
    (selectionsFor env fingerprint calls s).IsChain TakesTurn ∧
      ∀ y ∈ (selectionsFor env fingerprint calls s).head?,
        y.cursor = none ∨ y.cursor = last.map (·.1) := by
  induction calls generalizing s last with
  | nil => exact ⟨.nil, nofun⟩
  | cons c calls ih =>
    rw [selectionsFor_cons]
    cases selected : c.selection? env s with
    | none => exact ih (reachable.step c) (hl.next reachable selected)
    | some x =>
      rw [Option.toList_some]
      by_cases own : x.fingerprint = fingerprint
      · subst own
        obtain ⟨o, -, left⟩ := c.selection?_lastPlace reachable selected
        obtain ⟨chain, head⟩ := ih (reachable.step c) left
        have kept : [x].filter (fun y => y.fingerprint = x.fingerprint) = [x] :=
          List.filter_cons_of_pos (decide_eq_true rfl)
        rw [kept, List.singleton_append]
        refine ⟨List.isChain_cons.mpr ⟨head, chain⟩, fun y hy => ?_⟩
        cases hy
        exact hl.found reachable selected
      · rw [List.filter_cons_of_neg (by simpa using own), List.filter_nil, List.nil_append]
        obtain ⟨chain, head⟩ := ih (reachable.step c)
          (hl.other reachable selected fun same => own same.symm)
        refine ⟨chain, fun y hy => ?_⟩
        rcases head y hy with none | found
        · exact .inl none
        · split at found
          · exact .inl found
          · exact .inr found

theorem LastPlace.runs (calls : List Call) (reachable : Reachable env s)
    (hl : LastPlace fingerprint last s)
    (others : ∀ z ∈ selections env calls s, z.fingerprint ≠ fingerprint) :
    ∃ last', LastPlace fingerprint last' (StateStore.runs env calls s) ∧
      (last' = last ∨ last' = none ∧ ∃ z ∈ selections env calls s, z.evicted = some fingerprint) := by
  induction calls generalizing s last with
  | nil => exact ⟨last, hl, .inl rfl⟩
  | cons c calls ih =>
    have later : ∀ z ∈ selections env calls (c.next env s),
        z ∈ selections env (c :: calls) s := fun z hz => List.mem_append_right _ hz
    have rest : ∀ last, LastPlace fingerprint last (c.next env s) → _ := fun last hl' =>
      ih (reachable.step c) hl' fun z hz => others z (later z hz)
    cases selected : c.selection? env s with
    | none =>
      obtain ⟨last', hl', same | ⟨unset, z, hz, evicts⟩⟩ := rest _ (hl.next reachable selected)
      · exact ⟨last', hl', .inl same⟩
      · exact ⟨last', hl', .inr ⟨unset, z, later z hz, evicts⟩⟩
    | some x =>
      have member : x ∈ selections env (c :: calls) s := by
        refine List.mem_append_left _ ?_
        rw [selected]
        exact List.mem_singleton.mpr rfl
      obtain ⟨last', hl', place⟩ :=
        rest _ (hl.other reachable selected fun same => others x member same.symm)
      refine ⟨last', hl', ?_⟩
      by_cases evicts : x.evicted = some fingerprint
      · rw [if_pos evicts] at place
        refine .inr ⟨?_, x, member, evicts⟩
        rcases place with same | ⟨unset, -⟩
        · exact same
        · exact unset
      · rw [if_neg evicts] at place
        rcases place with same | ⟨unset, z, hz, evicts⟩
        · exact .inl same
        · exact .inr ⟨unset, z, later z hz, evicts⟩

theorem first_selection {before : List Call} {d : Call} {y : Selection}
    (selected : d.selection? env (stateAfter env before) = some y)
    (others : ∀ z ∈ selections env before Store.initial, z.fingerprint ≠ y.fingerprint) :
    y.cursor = none := by
  have start : LastPlace y.fingerprint none Store.initial := .unset rfl
  obtain ⟨last, hl, place⟩ := start.runs before .initial others
  have unset : last = none := by
    rcases place with same | ⟨unset, -⟩
    · exact same
    · exact unset
  subst unset
  rcases hl.found (reachable_runs before) selected with none | none
  · exact none
  · exact none

theorem next_selection {before after : List Call} {c d : Call} {x y : Selection}
    (earlier : c.selection? env (stateAfter env before) = some x)
    (selected : d.selection? env (stateAfter env (before ++ c :: after)) = some y)
    (same : y.fingerprint = x.fingerprint)
    (others : ∀ z ∈ selections env after (stateAfter env (before ++ [c])),
      z.fingerprint ≠ x.fingerprint) :
    y.cursor = some x.node ∨ y.cursor = none ∧
      ((∃ z ∈ selections env after (stateAfter env (before ++ [c])),
          z.evicted = some x.fingerprint) ∨
        (stateAfter env (before ++ c :: after ++ [d])).registrationOrder.get? x.node ≠
          (stateAfter env (before ++ [c])).registrationOrder.get? x.node) := by
  have reachable : Reachable env (stateAfter env (before ++ [c])) := reachable_runs _
  have reached : Reachable env (stateAfter env (before ++ c :: after)) := reachable_runs _
  obtain ⟨o, place, left⟩ := c.selection?_lastPlace (reachable_runs before) earlier
  rw [← stateAfter, ← stateAfter_snoc] at place left
  obtain ⟨last, hl, outcome⟩ := left.runs after reachable others
  have whole : runs env after (stateAfter env (before ++ [c])) =
      stateAfter env (before ++ c :: after) := by
    unfold stateAfter
    rw [← runs_append, List.append_assoc, List.singleton_append]
  rw [whole] at hl
  rcases outcome with rfl | ⟨rfl, evicted⟩
  · obtain ⟨req, n, evicted, s₁, grants, rfl⟩ := d.selection?_eq_some reached selected
    dsimp only at same ⊢
    rw [← same] at hl
    cases (show Sweeps env Any d.clock _ s₁ from
      reapLocked_sweeps.of_eq grants.swept).lastPlace reached hl with
    | held at_node _ => exact .inl at_node
    | removed none gone _ =>
      refine .inr ⟨none, .inr ?_⟩
      rw [place, stateAfter_snoc]
      show (d.next env (stateAfter env (before ++ c :: after))).registrationOrder.get? _ ≠ _
      rw [grants.post]
      exact gone
  · rw [← same] at hl
    rcases hl.found reached selected with none | none
    · exact .inr ⟨none, .inl evicted⟩
    · exact .inr ⟨none, .inl evicted⟩

theorem selections_sound (calls : List Call) (reachable : Reachable env s) :
    ∀ x ∈ selections env calls s, x.tied.Nodup ∧ x.node ∈ x.tied ∧
      ∀ a ∈ x.cursor, a ∈ x.tied → Follows x.tied a x.node := by
  induction calls generalizing s with
  | nil => exact nofun
  | cons c calls ih =>
    intro x hx
    rcases List.mem_append.mp hx with hx | hx
    · exact c.selection?_sound reachable (Option.mem_toList.mp hx)
    · exact ih (reachable.step c) x hx

theorem selections_turns {pre window post : List Selection} {T : List String}
    (split : selectionsFor env fingerprint calls Store.initial = pre ++ window ++ post)
    (tied : ∀ x ∈ window, x.tied = T) (kept : ∀ x ∈ window.tail, x.cursor ≠ none)
    (length : window.length = T.length) : (window.map (·.node)).Perm T ∧ T.Nodup := by
  have sound : ∀ x ∈ window, T.Nodup ∧ x.node ∈ T ∧
      ∀ a ∈ x.cursor, a ∈ T → Follows T a x.node := by
    intro x hx
    have member : x ∈ selectionsFor env fingerprint calls Store.initial := by
      rw [split]
      exact List.mem_append_left _ (List.mem_append_right _ hx)
    rw [← tied x hx]
    exact selections_sound calls .initial x (List.mem_of_mem_filter member)
  have chain : window.IsChain TakesTurn := by
    have start : LastPlace fingerprint none Store.initial := .unset rfl
    have whole : (selectionsFor env fingerprint calls Store.initial).IsChain TakesTurn :=
      (selections_chain calls .initial start).1
    rw [split, List.append_assoc] at whole
    exact whole.right_of_append.left_of_append
  refine perm_of_follows ?_ ?_ ?_
  · rw [List.length_map]
    exact length
  · intro n hn
    obtain ⟨x, hx, rfl⟩ := List.mem_map.mp hn
    obtain ⟨nodup, member, -⟩ := sound x hx
    exact ⟨nodup, member⟩
  · refine (List.isChain_map _).mpr (chain.imp_of_mem_tail_imp fun a b ha hb turn => ?_)
    obtain ⟨-, -, follows⟩ := sound b (List.mem_of_mem_tail hb)
    have found : b.cursor = some a.node := turn.resolve_left (kept b hb)
    exact follows a.node found (sound a ha).2.1

/-- A selection creates a reservation exactly for a new identity that is admissible once
the housekeeping is done, and takes the next of the best nodes after the cursor of the
fingerprint. The cursor is on the node selected last for the fingerprint, unless the
registration of that node is gone or a selection for another fingerprint evicted it. Among
the same `k` tied nodes, `k` consecutive selections that find their cursor choose each
node once. -/
theorem scheduler_choice (env : StoreEnv) (calls : List Call) :
    (∀ (c : Call) (req : SelectionRequest), c.Asks env req →
      ((∃ r, c.result env (stateAfter env calls) = .ok (.selection r) ∧ r.created = true) ↔
        isfinite c.clock ∧ ∃ s₁, reapLocked env c.clock (stateAfter env calls) = (.ok (), s₁) ∧
          NewIdentity s₁ req.identity ∧ Admissible env c.clock req s₁) ∧
      ∀ r s₁, c.result env (stateAfter env calls) = .ok (.selection r) → r.created = true →
        reapLocked env c.clock (stateAfter env calls) = (.ok (), s₁) →
        IsNext (orderOf s₁) (Best env s₁ req.modelId req.tier)
          (cursorOrder s₁ (schedulerFingerprint env req.modelId req.tier)) r.selectedNodeId) ∧
    (∀ (before : List Call) (d : Call) (y : Selection), calls = before ++ [d] →
      d.selection? env (stateAfter env before) = some y →
      (∀ z ∈ selections env before Store.initial, z.fingerprint ≠ y.fingerprint) →
      y.cursor = none) ∧
    (∀ (before after : List Call) (c d : Call) (x y : Selection),
      calls = before ++ c :: after ++ [d] →
      c.selection? env (stateAfter env before) = some x →
      d.selection? env (stateAfter env (before ++ c :: after)) = some y →
      y.fingerprint = x.fingerprint →
      (∀ z ∈ selections env after (stateAfter env (before ++ [c])),
        z.fingerprint ≠ x.fingerprint) →
      y.cursor = some x.node ∨ y.cursor = none ∧
        ((∃ z ∈ selections env after (stateAfter env (before ++ [c])),
            z.evicted = some x.fingerprint) ∨
          (stateAfter env calls).registrationOrder.get? x.node ≠
            (stateAfter env (before ++ [c])).registrationOrder.get? x.node)) ∧
    ∀ f pre window post T, selectionsFor env f calls Store.initial = pre ++ window ++ post →
      (∀ x ∈ window, x.tied = T) → (∀ x ∈ window.tail, x.cursor ≠ none) →
      window.length = T.length → (window.map (·.node)).Perm T ∧ T.Nodup := by
  refine ⟨fun c req asks => ⟨created_iff (reachable_runs calls) asks, ?_⟩, ?_, ?_, ?_⟩
  · intro r s₁ result created swept
    obtain ⟨req', n, evicted, s₂, asks', grants⟩ :=
      (reachable_runs calls).grants result created
    obtain rfl := asks.unique asks'
    have same := grants.swept
    rw [← stateAfter, swept] at same
    cases same
    have reply := grants.result
    rw [← stateAfter, result] at reply
    cases reply
    exact grants.next
  · rintro before d y - selected others
    exact first_selection selected others
  · rintro before after c d x y rfl earlier selected same others
    exact next_selection earlier selected same others
  · exact fun f pre window post T split tied kept length =>
      selections_turns split tied kept length

end

/-! ## A run of turns and an evicted cursor -/

/-- Digests of the texts that the runs below hash. -/
def schedulingDigests : List (String × String) :=
  sampleDigests ++
    [("other\x008k-fast", "6e7a589d8aee43cd375852e17232343e28dcb8467ffbfae32ddbbc2bd7254bf5"),
     ("request\x00request-3",
      "8a6fcce82a364a2e13e51dff1e6900c38564338598395b89bc8d0773cddd3d76")]

/-- Room for `cursors` fairness cursors, and reservations that last a second. -/
def cursorConfig (cursors : Nat) : RelayStateStoreConfig :=
  { namespace_ := "relay", reservationTtlSeconds := 1, maxSchedulerFingerprints := cursors }

def schedulingEnv (cursors : Nat) (ok : (cursorConfig cursors).postInit = .ok ()) : StoreEnv where
  runtime := { sampleRuntime with sha256 := tableDigest schedulingDigests }
  config := cursorConfig cursors
  acknowledgementKey := sampleKey
  config_ok := ok
  key_length := (sampleEnv _ ok).key_length

/-- Capabilities for two models. -/
def twoModels : ComputeNodeCapabilities :=
  { sampleCapabilities with
    supportedModelIds := ["model", "other"]
    models := by decide
    models_nodup := by decide }

/-- Two nodes. -/
def twoNodes : List Call :=
  [sampleCall 1 (.register "node-a" twoModels credentialA),
   sampleCall 1 (.register "node-b" twoModels credentialB)]

/-- A selection at the given reading; its reservation has lapsed two seconds later. -/
def selecting (clock : Epoch) (request model : String) : Call :=
  sampleCall clock (.selectAndReserve "client-1" request model "8k-fast" 100 none)

/-- The fingerprint of the model at the small tier. -/
def modelFingerprint : String :=
  "e6e92108bc7cb5e6fc3660476d0e5a56fd67d96f3eceb0150e3d44acd6c065e3"

/-- Two nodes and three selections, the second one for another model. -/
def interleavedTurns : List Call :=
  twoNodes ++ [selecting 1 "request-1" "model", selecting 3 "request-2" "other",
    selecting 5 "request-3" "model"]

def turnsEnv : StoreEnv := schedulingEnv 8 (by decide +kernel)

def oneCursorEnv : StoreEnv := schedulingEnv 1 (by decide +kernel)

/-- The checked arguments of the third selection. -/
def thirdSelection : SelectionRequest where
  identity := ("c04da4f28a539224430cf8d564ca2045471b42fa407e5d399693c195e01ab663",
    "8a6fcce82a364a2e13e51dff1e6900c38564338598395b89bc8d0773cddd3d76")
  modelId := "model"
  tier := .fast8k
  deadline := 100
  cancellationDigest := none

/-- The third selection is admissible and takes the second node; the two selections of the
model choose both nodes. -/
theorem scheduler_choice_sample :
    (∃ s₁, Admissible turnsEnv 5 thirdSelection s₁ ∧
      IsNext (orderOf s₁) (Best turnsEnv s₁ "model" .fast8k)
        (cursorOrder s₁ modelFingerprint) "node-b") ∧
    ((selectionsFor turnsEnv modelFingerprint interleavedTurns Store.initial).map
      (·.node)).Perm ["node-a", "node-b"] := by
  constructor
  · have asks : (selecting 5 "request-3" "model").Asks turnsEnv thirdSelection :=
      ⟨"client-1", "request-3", "model", "8k-fast", 100, none, rfl, by decide +kernel⟩
    have result : (selecting 5 "request-3" "model").result turnsEnv
        (stateAfter turnsEnv (interleavedTurns.take 4)) =
          .ok (.selection ⟨"node-b", "model", .fast8k, 100, some 6, some sampleToken, true,
            .reserved⟩) := by decide +kernel
    obtain ⟨created, chosen⟩ :=
      (scheduler_choice turnsEnv (interleavedTurns.take 4)).1 _ _ asks
    obtain ⟨-, s₁, swept, -, admissible⟩ := created.mp ⟨_, result, rfl⟩
    have fingerprint : schedulerFingerprint turnsEnv "model" .fast8k = modelFingerprint := by
      decide +kernel
    refine ⟨s₁, admissible, ?_⟩
    rw [← fingerprint]
    exact chosen _ s₁ result rfl swept
  · refine ((scheduler_choice turnsEnv interleavedTurns).2.2.2 modelFingerprint [] _ [] _
      (by simp) ?_ ?_ ?_).1 <;> decide +kernel

/-- An evicted cursor starts the turns again: the second selection of the model chooses the
node that the first one chose, not the one registered after it. -/
theorem evicted_cursor_repeats :
    ∃ x y, selectionsFor oneCursorEnv modelFingerprint interleavedTurns Store.initial = [x, y] ∧
      x.node = "node-a" ∧ y.tied = ["node-a", "node-b"] ∧ y.node = "node-a" ∧
      ¬Follows y.tied x.node y.node := by
  refine ⟨⟨modelFingerprint, ["node-a", "node-b"], none, none, "node-a"⟩,
    ⟨modelFingerprint, ["node-a", "node-b"], none,
      some "6e7a589d8aee43cd375852e17232343e28dcb8467ffbfae32ddbbc2bd7254bf5", "node-a"⟩,
    by decide +kernel, rfl, rfl, rfl, ?_⟩
  rintro ⟨p, here, next⟩
  rcases p with _ | _ | p
  · simp at next
  · simp at here
  · simp at here

end StateStore
