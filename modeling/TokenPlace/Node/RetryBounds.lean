import TokenPlace.Lib.Method
import TokenPlace.Node.Retry

/-!
# The retries keep the request

What one pass of the loop needs of a policy, and what a run of it then keeps: a name that is
removed is not sent again, the cache only takes in names that the runtime rejected, and every
pass uses up one of the names that may be removed. Both policies keep the options of the client.
-/

namespace ComputeNode

/-! ## Fields -/

variable {key other : String} {value : Json} {fields kwargs options : Kwargs}

theorem mem_keys_setField :
    other ∈ (Json.setField key value fields).map Prod.fst ↔
      other = key ∨ other ∈ fields.map Prod.fst := by
  induction fields with
  | nil => simp [Json.setField]
  | cons field fields ih =>
    obtain ⟨k, v⟩ := field
    simp only [Json.setField]
    split
    · next same => simp [same]
    · simp only [List.map_cons, List.mem_cons, ih]
      exact or_left_comm

theorem mem_keys_updateKwargs :
    other ∈ (updateKwargs kwargs options).map Prod.fst →
      other ∈ kwargs.map Prod.fst ∨ other ∈ options.map Prod.fst := by
  unfold updateKwargs
  induction options generalizing kwargs with
  | nil => exact .inl
  | cons option options ih =>
    intro member
    obtain here | there := ih member
    · obtain rfl | before := mem_keys_setField.mp here
      · exact .inr List.mem_cons_self
      · exact .inl before
    · exact .inr (List.mem_cons_of_mem _ there)

theorem lookup_updateKwargs_of_notMem (missing : key ∉ options.map Prod.fst) :
    (updateKwargs kwargs options).lookup key = kwargs.lookup key := by
  unfold updateKwargs
  induction options generalizing kwargs with
  | nil => rfl
  | cons option options ih =>
    obtain ⟨ne, missing⟩ := not_or.mp (List.mem_cons.not.mp missing)
    rw [List.foldl_cons, ih missing, Json.lookup_setField_of_ne ne]

theorem lookup_updateKwargs (dict : (options.map Prod.fst).Nodup)
    (given : options.lookup key = some value) :
    (updateKwargs kwargs options).lookup key = some value := by
  induction options generalizing kwargs with
  | nil => cases given
  | cons option options ih =>
    obtain ⟨name, v⟩ := option
    obtain ⟨fresh, dict⟩ := List.nodup_cons.mp dict
    rw [List.lookup_cons] at given
    split at given
    · next same =>
      cases given
      obtain rfl := beq_iff_eq.mp same
      exact (lookup_updateKwargs_of_notMem fresh).trans (Json.lookup_setField ..)
    · exact ih dict given

theorem mem_keys_of_lookup (given : fields.lookup key = some value) :
    key ∈ fields.map Prod.fst := by
  induction fields with
  | nil => cases given
  | cons field fields ih =>
    obtain ⟨name, v⟩ := field
    rw [List.lookup_cons] at given
    split at given
    · next same => exact beq_iff_eq.mp same ▸ List.mem_cons_self
    · exact List.mem_cons_of_mem _ (ih given)

/-! ## Runs of the loop -/

variable {policy : RetryPolicy} {messages : List Json}

/-- The loop goes on after a call without this name. -/
def Removes (policy : RetryPolicy) (entry : RuntimeCall × RuntimeOutcome) (name : String) : Prop :=
  ∃ exc, entry.2 = .raised exc ∧
    policy.handle exc (policy.attemptedNames entry.1.kwargs) = .ok name

/-- What the passes rely on: which names are removed, that a removed name is not built in again,
and what stays true of the cache. -/
structure PolicyLaws (policy : RetryPolicy) (Removable : String → Prop)
    (Good : GenerationKwargCache → Prop) : Prop where
  handled : ∀ {cache removed kwargs exc name}, policy.buildKwargs cache removed = .ok kwargs →
    policy.handle exc (policy.attemptedNames kwargs) = .ok name → Removable name
  omitted : ∀ {cache removed kwargs name}, policy.buildKwargs cache removed = .ok kwargs →
    name ∈ removed → Removable name → name ∈ cache.filtered → name ∉ kwargs.map Prod.fst
  kept : ∀ {cache attempted name}, Good cache → Removable name →
    Good (cache.remember attempted (some name))

/-- What a run of the loop does, from the names that are already removed. -/
structure RunSpec (policy : RetryPolicy) (Removable : String → Prop)
    (Good : GenerationKwargCache → Prop) (messages : List Json) (budget : Nat)
    (removed : List String) (cache cache' : GenerationKwargCache) (calls : CallTrace) : Prop where
  bounded : calls.length ≤ budget + 1
  built : ∀ entry ∈ calls, entry.1.messages = messages ∧
    ∃ before names, policy.buildKwargs before names = .ok entry.1.kwargs ∧ Good before ∧
      ∀ name ∈ names, Removable name
  omitted : ∀ entry ∈ calls, ∀ name ∈ removed, name ∉ entry.1.kwargs.map Prod.fst
  ordered : calls.Pairwise fun p q => ∃ name, Removes policy p name ∧
    name ∉ q.1.kwargs.map Prod.fst
  grows : ∀ name ∈ cache'.filtered, name ∈ cache.filtered ∨ ∃ entry ∈ calls,
    Removes policy entry name ∧ Removable name

theorem filtered_remember {cache : GenerationKwargCache} {attempted : List String}
    {name other : String} :
    other ∈ (cache.remember attempted (some name)).filtered ↔
      other = name ∨ other ∈ cache.filtered := by
  simp [GenerationKwargCache.remember]

theorem RunSpec.single {Removable : String → Prop} {Good : GenerationKwargCache → Prop}
    {budget : Nat} {removed : List String} {cache cache' : GenerationKwargCache}
    {outcome : RuntimeOutcome} (built : policy.buildKwargs cache removed = .ok kwargs)
    (laws : PolicyLaws policy Removable Good) (good : Good cache)
    (removable : ∀ name ∈ removed, Removable name ∧ name ∈ cache.filtered)
    (same : cache'.filtered = cache.filtered) :
    RunSpec policy Removable Good messages budget removed cache cache'
      [(⟨messages, kwargs⟩, outcome)] where
  bounded := Nat.le_add_left ..
  built := by
    rintro _ (_ | ⟨_, ⟨⟩⟩)
    exact ⟨rfl, cache, removed, built, good, fun name member => (removable name member).1⟩
  omitted := by
    rintro _ (_ | ⟨_, ⟨⟩⟩) name member
    exact laws.omitted built member (removable name member).1 (removable name member).2
  ordered := List.pairwise_singleton ..
  grows := fun name member => .inl (same ▸ member)

theorem createFiltered_spec {Removable : String → Prop} {Good : GenerationKwargCache → Prop}
    (laws : PolicyLaws policy Removable Good)
    (runtime : CallTrace → RuntimeCall → RuntimeOutcome) (messages : List Json)
    (maxRemovedKwargs : Nat) (removed : List String) (cache : GenerationKwargCache)
    (trace : CallTrace) (good : Good cache)
    (removable : ∀ name ∈ removed, Removable name ∧ name ∈ cache.filtered) :
    ∃ calls,
      (createFiltered policy runtime messages maxRemovedKwargs removed cache trace).2.2 =
        trace ++ calls ∧
      RunSpec policy Removable Good messages (maxRemovedKwargs - removed.length) removed cache
        (createFiltered policy runtime messages maxRemovedKwargs removed cache trace).2.1
        calls := by
  rw [createFiltered]
  cases built : policy.buildKwargs cache removed with
  | error exc =>
    exact ⟨[], (List.append_nil _).symm, Nat.zero_le _, nofun, nofun, .nil,
      fun name member => .inl member⟩
  | ok kwargs =>
    simp only
    cases called : runtime trace ⟨messages, kwargs⟩ with
    | result completion =>
      exact ⟨_, rfl, .single built laws good removable rfl⟩
    | raised exc =>
      simp only
      cases handled : policy.handle exc (policy.attemptedNames kwargs) with
      | error raised => exact ⟨_, rfl, .single built laws good removable rfl⟩
      | ok name =>
        simp only
        split
        · exact ⟨_, rfl, .single built laws good removable rfl⟩
        · next left =>
          have isRemovable := laws.handled built handled
          have removable' : ∀ other ∈ removed ++ [name], Removable other ∧
              other ∈ (cache.remember (policy.attemptedNames kwargs) (some name)).filtered := by
            intro other member
            obtain before | last := List.mem_append.mp member
            · exact ⟨(removable other before).1,
                filtered_remember.mpr (.inr (removable other before).2)⟩
            · obtain rfl := List.mem_singleton.mp last
              exact ⟨isRemovable, filtered_remember.mpr (.inl rfl)⟩
          obtain ⟨calls, extended, rest⟩ := createFiltered_spec laws runtime messages
            maxRemovedKwargs (removed ++ [name])
            (cache.remember (policy.attemptedNames kwargs) (some name))
            (trace ++ [(⟨messages, kwargs⟩, .raised exc)]) (laws.kept good isRemovable) removable'
          have removes : Removes policy (⟨messages, kwargs⟩, .raised exc) name :=
            ⟨exc, rfl, handled⟩
          refine ⟨(⟨messages, kwargs⟩, .raised exc) :: calls, ?_, ?_, ?_, ?_, ?_, ?_⟩
          · rw [extended, List.append_assoc, List.singleton_append]
          · have := rest.bounded
            rw [List.length_append, List.length_singleton] at this
            rw [List.length_cons]
            omega
          · rintro entry (_ | ⟨_, member⟩)
            · exact ⟨rfl, cache, removed, built, good,
                fun name member => (removable name member).1⟩
            · exact rest.built entry member
          · rintro entry (_ | ⟨_, member⟩) other before
            · exact laws.omitted built before (removable other before).1 (removable other before).2
            · exact rest.omitted entry member other (List.mem_append_left _ before)
          · refine List.pairwise_cons.mpr ⟨fun entry member => ⟨name, removes, ?_⟩, rest.ordered⟩
            exact rest.omitted entry member name (List.mem_append_right _ List.mem_cons_self)
          · intro other member
            obtain before | ⟨entry, later, rejects⟩ := rest.grows other member
            · obtain rfl | before := filtered_remember.mp before
              · exact .inr ⟨_, List.mem_cons_self, removes, isRemovable⟩
              · exact .inl before
            · exact .inr ⟨entry, List.mem_cons_of_mem _ later, rejects⟩
termination_by maxRemovedKwargs - removed.length
decreasing_by
  rw [List.length_append, List.length_singleton]
  omega

/-! ## The chat completion -/

variable {env : GenerationEnv} {safeOptions modelProfile : Kwargs} {clientOptionNames : List String}
  {intOfText : String → Except RuntimeException Int} {exc : RuntimeException}
  {attempted removed : List String} {name : String} {cache : GenerationKwargCache}

theorem rejected_mem (rejected : exc.rejected attempted = some name) : name ∈ attempted := by
  simp only [RuntimeException.rejected, Option.filter_eq_some_iff, decide_eq_true_eq] at rejected
  exact rejected.2

/-- What the handler of the chat completion lets pass. -/
theorem chatPolicy_handle_eq_ok :
    (chatPolicy env safeOptions clientOptionNames).handle exc attempted = .ok name ↔
      exc.rejected attempted = some name ∧ exc.category = "unsupported_generation_kwarg" ∧
        name ∉ clientOptionNames ∧ name ∉ neverFiltered := by
  simp only [chatPolicy]
  cases exc.rejected attempted with
  | none => exact ⟨nofun, fun h => nomatch h.1⟩
  | some rejected =>
    simp only [Option.some.injEq]
    split
    · next other => exact ⟨nofun, fun h => absurd h.2.1 other⟩
    · next unsupported =>
      split
      · next client =>
        exact ⟨nofun, by rintro ⟨rfl, _, outside, _⟩; exact absurd client outside⟩
      · next outside =>
        split
        · next never =>
          exact ⟨nofun, by rintro ⟨rfl, _, _, free⟩; exact absurd never free⟩
        · next free =>
          simp only [Except.ok.injEq]
          constructor
          · rintro rfl
            exact ⟨rfl, not_not.mp unsupported, outside, free⟩
          · exact fun h => h.1

theorem runtimeCompletionKwargs_filtered
    (member : name ∈ (runtimeCompletionKwargs env cache safeOptions).map Prod.fst)
    (filtered : name ∈ cache.filtered) (free : name ∉ neverFiltered) :
    name ∈ safeOptions.map Prod.fst := by
  simp only [runtimeCompletionKwargs] at member
  obtain rfl | updated := mem_keys_setField.mp member
  · exact absurd (by decide) free
  · obtain kept | option := mem_keys_updateKwargs updated
    · obtain ⟨field, isField, rfl⟩ := List.mem_map.mp kept
      simp only [List.mem_filter, decide_not, Bool.not_eq_true', decide_eq_false_iff_not] at isField
      by_contra outside
      exact isField.2 ⟨filtered, outside, free⟩
    · exact option

theorem chatPolicy_laws (env : GenerationEnv) (safeOptions : Kwargs) :
    PolicyLaws (chatPolicy env safeOptions (safeOptions.map Prod.fst))
      (fun name => name ∉ safeOptions.map Prod.fst ∧ name ∉ neverFiltered) fun _ => True where
  handled _ handled := (chatPolicy_handle_eq_ok.mp handled).2.2
  omitted := by
    intro cache removed kwargs name built _ removable filtered member
    cases built
    exact removable.1 (runtimeCompletionKwargs_filtered member filtered removable.2)
  kept _ _ := trivial

theorem lookup_runtimeCompletionKwargs (dict : (safeOptions.map Prod.fst).Nodup)
    (given : safeOptions.lookup key = some value) (unstreamed : key ≠ "stream") :
    (runtimeCompletionKwargs env cache safeOptions).lookup key = some value := by
  simp only [runtimeCompletionKwargs]
  rw [Json.lookup_setField_of_ne unstreamed]
  exact lookup_updateKwargs dict given

/-! ## The plain completion -/

theorem maxTokensOf_positive {n : Int} (positive : 0 < n) :
    maxTokensOf intOfText (.number n) = .ok n := by
  have truthy : (Json.number n).truthy = true := by
    simp only [Json.truthy, ne_eq, decide_eq_true_eq]
    exact_mod_cast positive.ne'
  simp [maxTokensOf, truthy]

theorem mem_keys_renderArgument {profile : Kwargs} {removedSet : Finset String}
    (member : other ∈ (renderArgument profile key name removedSet kwargs).map Prod.fst) :
    other = name ∧ name ∉ removedSet ∨ other ∈ kwargs.map Prod.fst := by
  unfold renderArgument at member
  split at member
  · split at member
    · next sent =>
      obtain rfl | before := mem_keys_setField.mp member
      · exact .inl ⟨rfl, sent.2⟩
      · exact .inr before
    · exact .inr member
  · exact .inr member

theorem lookup_renderArgument {profile : Kwargs} {removedSet : Finset String}
    (ne : other ≠ name) :
    (renderArgument profile key name removedSet kwargs).lookup other = kwargs.lookup other := by
  unfold renderArgument
  split
  · split
    · exact Json.lookup_setField_of_ne ne ..
    · rfl
  · rfl

theorem promptArguments_keys {removed : Finset String} {maxTokens : Int}
    (member : name ∈ (promptArguments modelProfile removed maxTokens).map Prod.fst) :
    name ∈ ["max_tokens", "token_place_provider", "token_place_template_policy",
      "enable_thinking"] ∧ name ∉ removed := by
  unfold promptArguments at member
  split at member
  · next switched =>
    obtain rfl | member := mem_keys_setField.mp member
    · exact ⟨by decide, switched.2⟩
    · exact earlier member
  · exact earlier member
where
  earlier (member : name ∈ (renderArgument modelProfile "chat_template_policy"
      "token_place_template_policy" removed
      (renderArgument modelProfile "provider" "token_place_provider" removed
        ([("max_tokens", Json.number maxTokens)].filter (·.1 ∉ removed)))).map Prod.fst) :
      name ∈ ["max_tokens", "token_place_provider", "token_place_template_policy",
        "enable_thinking"] ∧ name ∉ removed := by
    obtain ⟨rfl, free⟩ | member := mem_keys_renderArgument member
    · exact ⟨by decide, free⟩
    · obtain ⟨rfl, free⟩ | member := mem_keys_renderArgument member
      · exact ⟨by decide, free⟩
      · simp only [List.mem_map, List.mem_filter, List.mem_singleton, decide_eq_true_eq] at member
        obtain ⟨_, ⟨rfl, free⟩, rfl⟩ := member
        exact ⟨List.mem_cons_self, free⟩

theorem promptArguments_lookup (modelProfile : Kwargs) {removed : Finset String}
    (maxTokens : Int) (sent : "max_tokens" ∉ removed) :
    (promptArguments modelProfile removed maxTokens).lookup "max_tokens" =
        some (.number maxTokens) ∧
      (qwenNonThinkingRequired (.object modelProfile) = true → "enable_thinking" ∉ removed →
        (promptArguments modelProfile removed maxTokens).lookup "enable_thinking" =
          some (.bool false)) := by
  have first : (renderArgument modelProfile "chat_template_policy" "token_place_template_policy"
      removed (renderArgument modelProfile "provider" "token_place_provider" removed
        ([("max_tokens", Json.number maxTokens)].filter (·.1 ∉ removed)))).lookup "max_tokens" =
      some (.number maxTokens) := by
    rw [lookup_renderArgument (by decide), lookup_renderArgument (by decide)]
    simp [sent]
  unfold promptArguments
  constructor
  · split
    · rw [Json.lookup_setField_of_ne (by decide), first]
    · exact first
  · intro required free
    rw [if_pos ⟨required, free⟩, Json.lookup_setField]

theorem promptKwargs_eq_ok :
    promptKwargs env intOfText safeOptions modelProfile clientOptionNames cache removed =
        .ok kwargs ↔
      ∃ maxTokens, maxTokensOf intOfText
          (((runtimeCompletionKwargs env cache safeOptions).lookup "max_tokens").getD
            (.number 64)) = .ok maxTokens ∧
        promptArguments modelProfile (removedSet modelProfile clientOptionNames cache removed)
          maxTokens = kwargs := by
  simp only [promptKwargs, Method.bind_ok_iff]
  constructor
  · rintro ⟨maxTokens, tokens, same⟩
    cases same
    exact ⟨maxTokens, tokens, rfl⟩
  · rintro ⟨maxTokens, tokens, rfl⟩
    exact ⟨maxTokens, tokens, rfl⟩

theorem promptPolicy_handle_eq_ok
    (handled : (promptPolicy env intOfText safeOptions modelProfile clientOptionNames).handle exc
      attempted = .ok name) :
    exc.rejected attempted = some name ∧
      (exc.category = "unsupported_generation_kwarg" ∨
        exc.category = "unsupported_render_kwarg") ∧
      (name ∈ clientOptionNames → name = "top_k") ∧ name ∉ neverFiltered ∧
      name ≠ "enable_thinking" := by
  simp only [promptPolicy] at handled
  split at handled
  · cases handled
  · next rejected named =>
    split at handled
    · cases handled
    · split at handled
      · cases handled
      · next unsupported =>
        split at handled
        · cases handled
        · next free =>
          cases handled
          rw [not_or] at free
          refine ⟨named, by tauto, fun client => by_contra fun other => free.1 ⟨client, other⟩,
            fun never => free.2 ?_, fun switch => free.2 (by simp [switch])⟩
          simp only [neverFiltered, List.mem_cons, List.not_mem_nil, or_false] at never ⊢
          tauto

/-- A name that the plain completion removes: `top_k` is never attempted. -/
theorem promptPolicy_laws (env : GenerationEnv)
    (intOfText : String → Except RuntimeException Int) (safeOptions modelProfile : Kwargs)
    (clientOptionNames : List String) :
    PolicyLaws (promptPolicy env intOfText safeOptions modelProfile clientOptionNames)
      (fun name => name ∉ clientOptionNames ∧ name ∉ neverFiltered ∧ name ≠ "enable_thinking")
      fun cache => ∀ name ∈ neverFiltered, name ∉ cache.filtered where
  handled := by
    intro cache removed kwargs exc name built handled
    obtain ⟨rejected, _, client, never, switch⟩ := promptPolicy_handle_eq_ok handled
    refine ⟨fun member => ?_, never, switch⟩
    have attempted := List.mem_mergeSort.mp (rejected_mem rejected)
    obtain ⟨maxTokens, _, rfl⟩ := promptKwargs_eq_ok.mp built
    rw [client member] at attempted
    exact absurd (promptArguments_keys attempted).1 (by decide)
  omitted := by
    intro cache removed kwargs name built member removable filtered sent
    obtain ⟨maxTokens, _, rfl⟩ := promptKwargs_eq_ok.mp built
    refine (promptArguments_keys sent).2 (Finset.mem_sdiff.mpr ⟨?_, ?_⟩)
    · exact Finset.mem_union_left _ (List.mem_toFinset.mpr member)
    · split
      · exact fun switch => removable.2.2 (Finset.mem_singleton.mp switch)
      · exact Finset.notMem_empty _
  kept := by
    intro cache attempted name good removable other never member
    obtain rfl | before := filtered_remember.mp member
    · exact removable.2.1 never
    · exact good other never before

/-! ## Both loops -/

/-- A filter cache that earlier calls of the two functions leave. -/
inductive ReachableCache : GenerationKwargCache → Prop
  | new : ReachableCache ⟨∅, ∅⟩
  | chat {cache : GenerationKwargCache} (earlier : ReachableCache cache) (env : GenerationEnv)
    (runtime : CallTrace → RuntimeCall → RuntimeOutcome) (messages : List Json)
    (safeOptions : Kwargs) (maxRemovedKwargs : Nat) :
    ReachableCache (createChatCompletionFiltered env runtime messages safeOptions
      (safeOptions.map Prod.fst) maxRemovedKwargs cache).2.1
  | prompt {cache : GenerationKwargCache} (earlier : ReachableCache cache) (env : GenerationEnv)
    (intOfText : String → Except RuntimeException Int)
    (runtime : CallTrace → RuntimeCall → RuntimeOutcome) (messages : List Json)
    (safeOptions modelProfile : Kwargs) (maxRemovedKwargs : Nat) :
    ReachableCache (createCompletionFromRenderedPromptFiltered env intOfText runtime messages
      safeOptions modelProfile (safeOptions.map Prod.fst) maxRemovedKwargs cache).2.1

theorem ReachableCache.never {cache : GenerationKwargCache} (reachable : ReachableCache cache) :
    ∀ name ∈ neverFiltered, name ∉ cache.filtered := by
  induction reachable with
  | new => exact fun _ _ => Finset.notMem_empty _
  | chat _ env runtime messages safeOptions maxRemovedKwargs ih =>
    obtain ⟨calls, _, spec⟩ := createFiltered_spec (chatPolicy_laws env safeOptions) runtime
      messages maxRemovedKwargs [] _ [] trivial nofun
    intro name never member
    obtain before | ⟨_, _, _, _, free⟩ := spec.grows name member
    · exact ih name never before
    · exact free never
  | prompt _ env intOfText runtime messages safeOptions modelProfile maxRemovedKwargs ih =>
    obtain ⟨calls, _, spec⟩ := createFiltered_spec
      (promptPolicy_laws env intOfText safeOptions modelProfile (safeOptions.map Prod.fst)) runtime
      messages maxRemovedKwargs [] _ [] ih nofun
    intro name never member
    obtain before | ⟨_, _, _, _, free, _⟩ := spec.grows name member
    · exact ih name never before
    · exact free never

/-- A runtime that does not know `top_p`. -/
def withoutTopP (_ : CallTrace) (call : RuntimeCall) : RuntimeOutcome :=
  if "top_p" ∈ call.kwargs.map Prod.fst then
    .raised ⟨"TypeError", "chat() got an unexpected keyword argument 'top_p'", none⟩
  else .result (.string "done")

end ComputeNode
