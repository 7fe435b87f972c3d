import Mathlib

/-!
# The aggregation of a streamed completion

`_consume_streaming_completion` and `_merge_tool_call_deltas` of `model_manager.py`, on chunks that
`_normalize_stream_chunk` has made dictionaries of. A field that is absent is `none`, and the empty
text counts as absent wherever the source tests for truth.

Results:
1. `consume_eq`: the message is a function of the deltas up to the first chunk with a
   `finish_reason`.
2. `completion_independent_of_chunking`: how content and arguments are cut into chunks changes
   nothing, and both are the concatenations of their pieces.
-/

namespace StreamCompletion

/-! ## Chunks -/

structure FunctionDelta where
  name : Option String
  arguments : Option String
deriving DecidableEq

structure ToolCallDelta where
  index : Option Nat
  id : Option String
  type : Option String
  function : Option FunctionDelta
deriving DecidableEq

structure Delta where
  role : Option String
  content : Option String
  toolCalls : List ToolCallDelta
deriving DecidableEq

structure Choice where
  delta : Option Delta
  finishReason : Option String
deriving DecidableEq

/-- A chunk, with the first of its choices if it has any. -/
structure Chunk where
  choice : Option Choice
deriving DecidableEq

/-- `{}` as a delta. -/
def Delta.empty : Delta := ⟨none, none, []⟩

/-- A text that is there and not empty. -/
def truthy (text : Option String) : Option String := text.filter (· ≠ "")

/-! ## Tool calls -/

/-- A tool call that is being put together. -/
structure ToolCall where
  id : Option String
  type : Option String
  name : Option String
  arguments : String
deriving DecidableEq

/-- The call that fills a gap. -/
def ToolCall.blank : ToolCall := ⟨none, none, none, ""⟩

/-- The arguments that a delta brings. -/
def ToolCallDelta.piece (delta : ToolCallDelta) : String :=
  (delta.function.bind (·.arguments)).getD ""

/-- What a delta does to its call. -/
def ToolCall.update (delta : ToolCallDelta) (call : ToolCall) : ToolCall where
  id := (truthy delta.id).or call.id
  type := (truthy delta.type).or call.type
  name := (truthy (delta.function.bind (·.name))).or call.name
  arguments := call.arguments ++ delta.piece

/-- Blank calls are appended until there are that many. -/
def padTo (calls : List ToolCall) (count : Nat) : List ToolCall :=
  calls ++ List.replicate (count - calls.length) .blank

/-- One round of the loop of `_merge_tool_call_deltas`. -/
def mergeDelta (existing : List ToolCall) (delta : ToolCallDelta) : List ToolCall :=
  let index := delta.index.getD existing.length
  (padTo existing (index + 1)).modify index (.update delta)

/-- `_merge_tool_call_deltas`. -/
def mergeToolCallDeltas (existing : List ToolCall) (deltas : List ToolCallDelta) : List ToolCall :=
  deltas.foldl mergeDelta existing

/-! ## Messages -/

/-- A tool call of a message, of which only what is not empty is left. -/
structure CleanedCall where
  id : Option String
  type : Option String
  function : Option FunctionDelta
deriving DecidableEq

/-- A call without the fields that are empty, unless nothing is left of it. -/
def cleanCall (call : ToolCall) : Option CleanedCall :=
  let name := truthy call.name
  let arguments := truthy (some call.arguments)
  let cleaned : CleanedCall := {
    id := truthy call.id
    type := truthy call.type
    function := if name.isSome || arguments.isSome then some ⟨name, arguments⟩ else none }
  if cleaned.id.isSome || cleaned.type.isSome || cleaned.function.isSome then some cleaned else none

/-- The assistant message. -/
structure Message where
  role : String
  content : String
  toolCalls : Option (List CleanedCall)
deriving DecidableEq

/-- The `tool_calls` of a message, if any call is left. -/
def cleanToolCalls (calls : List ToolCall) : Option (List CleanedCall) :=
  let cleaned := calls.filterMap cleanCall
  if cleaned = [] then none else some cleaned

/-- The local variables of `_consume_streaming_completion`. -/
structure Aggregate where
  role : String
  contentSegments : List String
  toolCalls : List ToolCall
deriving DecidableEq

/-- What the loop does with a delta. -/
def Aggregate.absorb (aggregate : Aggregate) (delta : Delta) : Aggregate where
  role := (truthy delta.role).getD aggregate.role
  contentSegments := aggregate.contentSegments ++ (truthy delta.content).toList
  toolCalls := mergeToolCallDeltas aggregate.toolCalls delta.toolCalls

/-- The loop over the chunks, which ends at the first one with a `finish_reason`. -/
def consumeChunks (aggregate : Aggregate) : List Chunk → Aggregate
  | [] => aggregate
  | chunk :: chunks =>
    match chunk.choice with
    | none => consumeChunks aggregate chunks
    | some choice =>
      let aggregate := aggregate.absorb (choice.delta.getD .empty)
      if (truthy choice.finishReason).isSome then aggregate else consumeChunks aggregate chunks

/-- The message of what was aggregated. -/
def Aggregate.message (aggregate : Aggregate) : Message where
  role := aggregate.role
  content := String.join aggregate.contentSegments
  toolCalls := cleanToolCalls aggregate.toolCalls

/-- `_consume_streaming_completion`. -/
def consumeStreamingCompletion (chunks : List Chunk) : Message :=
  (consumeChunks ⟨"assistant", [], []⟩ chunks).message

/-! ## What counts of a stream -/

/-- The deltas up to the first chunk with a `finish_reason`. -/
def taken : List Chunk → List Delta
  | [] => []
  | chunk :: chunks =>
    match chunk.choice with
    | none => taken chunks
    | some choice =>
      choice.delta.getD .empty ::
        if (truthy choice.finishReason).isSome then [] else taken chunks

/-- The tool call deltas of a stream that count. -/
def toolDeltas (deltas : List Delta) : List ToolCallDelta := deltas.flatMap (·.toolCalls)

/-- The tool calls of a stream, before they are cleaned. -/
def streamedCalls (deltas : List Delta) : List ToolCall :=
  mergeToolCallDeltas [] (toolDeltas deltas)

/-- The arguments that the deltas with an index bring, in their order. -/
def piecesAt (index : Nat) (deltas : List ToolCallDelta) : List String :=
  (deltas.filter fun delta => delta.index = some index).map (·.piece)

theorem join_truthy (text : Option String) : String.join (truthy text).toList = text.getD "" := by
  cases text with
  | none => simp [truthy, String.join_nil]
  | some text =>
    by_cases empty : text = "" <;>
      simp [truthy, Option.filter, empty, String.join_nil, String.join_cons]

theorem foldl_absorb (aggregate : Aggregate) (deltas : List Delta) :
    (deltas.foldl Aggregate.absorb aggregate).toolCalls =
        mergeToolCallDeltas aggregate.toolCalls (toolDeltas deltas) ∧
      String.join (deltas.foldl Aggregate.absorb aggregate).contentSegments =
        String.join aggregate.contentSegments ++
          String.join (deltas.map fun delta => delta.content.getD "") := by
  induction deltas generalizing aggregate with
  | nil => simp [mergeToolCallDeltas, toolDeltas, String.join_nil]
  | cons delta deltas ih =>
    obtain ⟨calls, content⟩ := ih (aggregate.absorb delta)
    constructor
    · rw [List.foldl_cons, calls]
      simp [Aggregate.absorb, mergeToolCallDeltas, toolDeltas, List.foldl_append]
    · rw [List.foldl_cons, content]
      simp only [Aggregate.absorb, String.join_append, join_truthy, List.map_cons,
        String.join_cons, String.append_assoc]

theorem consumeChunks_eq (aggregate : Aggregate) (chunks : List Chunk) :
    consumeChunks aggregate chunks = (taken chunks).foldl Aggregate.absorb aggregate := by
  induction chunks generalizing aggregate with
  | nil => rfl
  | cons chunk chunks ih =>
    simp only [consumeChunks, taken]
    cases chunk.choice with
    | none => exact ih aggregate
    | some choice =>
      simp only [List.foldl_cons]
      split
      · rfl
      · exact ih _

/-- The message of deltas that all count. -/
def messageOf (deltas : List Delta) : Message :=
  (deltas.foldl Aggregate.absorb ⟨"assistant", [], []⟩).message

theorem consume_eq (chunks : List Chunk) :
    consumeStreamingCompletion chunks = messageOf (taken chunks) := by
  rw [consumeStreamingCompletion, consumeChunks_eq]
  rfl

/-- The role that a list of deltas leaves. -/
def roleOf (deltas : List Delta) : String :=
  deltas.foldl (fun role delta => (truthy delta.role).getD role) "assistant"

theorem foldl_absorb_role (aggregate : Aggregate) (deltas : List Delta) :
    (deltas.foldl Aggregate.absorb aggregate).role =
      deltas.foldl (fun role delta => (truthy delta.role).getD role) aggregate.role := by
  induction deltas generalizing aggregate with
  | nil => rfl
  | cons delta deltas ih => exact ih (aggregate.absorb delta)

theorem messageOf_eq (deltas : List Delta) :
    messageOf deltas =
      { role := roleOf deltas
        content := String.join (deltas.map fun delta => delta.content.getD "")
        toolCalls := cleanToolCalls (streamedCalls deltas) } := by
  have parts := foldl_absorb ⟨"assistant", [], []⟩ deltas
  simp only [String.join_nil, String.empty_append] at parts
  simp only [messageOf, Aggregate.message, parts, foldl_absorb_role, roleOf, streamedCalls]

/-! ## The calls of a list of deltas -/

variable {calls : List ToolCall} {delta : ToolCallDelta} {i : Nat}

theorem length_padTo (calls : List ToolCall) (count : Nat) :
    (padTo calls count).length = max calls.length count := by
  simp only [padTo, List.length_append, List.length_replicate]
  omega

theorem padTo_of_le {count : Nat} (enough : count ≤ calls.length) : padTo calls count = calls := by
  simp [padTo, Nat.sub_eq_zero_of_le enough]

theorem length_mergeDelta (indexed : delta.index = some i) (calls : List ToolCall) :
    (mergeDelta calls delta).length = max calls.length (i + 1) := by
  simp [mergeDelta, indexed, length_padTo]

theorem le_length_merge (calls : List ToolCall) (deltas : List ToolCallDelta) :
    calls.length ≤ (mergeToolCallDeltas calls deltas).length := by
  induction deltas generalizing calls with
  | nil => exact Nat.le_refl _
  | cons delta deltas ih =>
    refine Nat.le_trans ?_ (ih (mergeDelta calls delta))
    simp only [mergeDelta, List.length_modify, length_padTo]
    exact Nat.le_max_left _ _

theorem lt_length_merge {deltas : List ToolCallDelta} (member : delta ∈ deltas)
    (indexed : delta.index = some i) (calls : List ToolCall) :
    i < (mergeToolCallDeltas calls deltas).length := by
  induction deltas generalizing calls with
  | nil => cases member
  | cons first deltas ih =>
    obtain rfl | member := List.mem_cons.mp member
    · refine Nat.lt_of_lt_of_le ?_ (le_length_merge (mergeDelta calls delta) deltas)
      rw [length_mergeDelta indexed]
      exact Nat.lt_of_lt_of_le (Nat.lt_succ_self i) (Nat.le_max_right _ _)
    · exact ih member (mergeDelta calls first)

/-- The arguments of the call at a place, none if there is no call. -/
def argumentsAt (calls : List ToolCall) (i : Nat) : String := (calls[i]?).elim "" (·.arguments)

theorem argumentsAt_padTo (calls : List ToolCall) (count i : Nat) :
    argumentsAt (padTo calls count) i = argumentsAt calls i := by
  simp only [argumentsAt, padTo]
  obtain known | new := Nat.lt_or_ge i calls.length
  · rw [List.getElem?_append_left known]
  · rw [List.getElem?_append_right new, List.getElem?_eq_none new, List.getElem?_replicate]
    split <;> rfl

theorem argumentsAt_mergeDelta (indexed : delta.index = some i) (calls : List ToolCall) (j : Nat) :
    argumentsAt (mergeDelta calls delta) j =
      argumentsAt calls j ++ if i = j then delta.piece else "" := by
  rw [← argumentsAt_padTo calls (i + 1) j]
  have long : i < (padTo calls (i + 1)).length := by
    rw [length_padTo]
    exact Nat.lt_of_lt_of_le (Nat.lt_succ_self i) (Nat.le_max_right _ _)
  simp only [mergeDelta, indexed, Option.getD_some, argumentsAt]
  split
  · next same =>
    subst same
    rw [List.getElem?_modify_eq, List.getElem?_eq_getElem long]
    rfl
  · next other => rw [List.getElem?_modify_ne _ _ other, String.append_empty]

theorem argumentsAt_merge (deltas : List ToolCallDelta)
    (indexed : ∀ delta ∈ deltas, delta.index.isSome) (calls : List ToolCall) (i : Nat) :
    argumentsAt (mergeToolCallDeltas calls deltas) i =
      argumentsAt calls i ++ String.join (piecesAt i deltas) := by
  induction deltas generalizing calls with
  | nil => simp [mergeToolCallDeltas, piecesAt, String.join_nil]
  | cons delta deltas ih =>
    obtain ⟨j, hj⟩ := Option.isSome_iff_exists.mp (indexed delta List.mem_cons_self)
    have rest := ih (fun delta member => indexed delta (List.mem_cons_of_mem _ member))
      (mergeDelta calls delta)
    rw [argumentsAt_mergeDelta hj] at rest
    refine rest.trans ?_
    by_cases same : j = i
    · simp [piecesAt, hj, same, String.join_cons, String.append_assoc]
    · simp [piecesAt, hj, same]

/-! ## Cutting a stream -/

/-- A delta that only brings another piece of the content. -/
def contentDelta (text : String) : Delta := ⟨none, some text, []⟩

/-- A delta that only brings another piece of the arguments of a call. -/
def argumentsDelta (i : Nat) (text : String) : ToolCallDelta :=
  ⟨some i, none, none, some ⟨none, some text⟩⟩

/-- The same delta with other arguments. -/
def ToolCallDelta.withArguments (delta : ToolCallDelta) (text : String) : ToolCallDelta :=
  { delta with function := some ⟨delta.function.bind (·.name), some text⟩ }

def Chunk.of (delta : Delta) (finishReason : Option String) : Chunk :=
  ⟨some ⟨some delta, finishReason⟩⟩

/-- What a chunk is replaced by when one of its texts is cut into consecutive pieces, at least two.
Everything else stays with the first piece, except the `finish_reason`, which goes with the last;
of the tool call deltas after the one that is cut, those that follow the last piece may have its
index. -/
inductive ChunkCut : Chunk → List Chunk → Prop
  | content {delta : Delta} {first last : String} {middle : List String}
      (finishReason : Option String)
      (text : delta.content = some (first ++ String.join middle ++ last)) :
      ChunkCut (.of delta finishReason)
        (Chunk.of { delta with content := some first } none ::
          (middle.map fun piece => Chunk.of (contentDelta piece) none) ++
          [Chunk.of (contentDelta last) finishReason])
  | arguments {delta : Delta} {before stay later : List ToolCallDelta} {call : ToolCallDelta}
      {i : Nat} {first last : String} {middle : List String} (finishReason : Option String)
      (calls : delta.toolCalls = before ++ call :: (stay ++ later)) (index : call.index = some i)
      (others : ∀ other ∈ stay, ∃ j, other.index = some j ∧ j ≠ i)
      (text : call.function.bind (·.arguments) = some (first ++ String.join middle ++ last)) :
      ChunkCut (.of delta finishReason)
        (Chunk.of { delta with toolCalls := before ++ call.withArguments first :: stay } none ::
          (middle.map fun piece => Chunk.of ⟨none, none, [argumentsDelta i piece]⟩ none) ++
          [Chunk.of ⟨none, none, argumentsDelta i last :: later⟩ finishReason])

/-- One chunk of a stream is cut. -/
inductive Cut : List Chunk → List Chunk → Prop
  | one (before after : List Chunk) {chunk : Chunk} {pieces : List Chunk}
      (cut : ChunkCut chunk pieces) : Cut (before ++ chunk :: after) (before ++ pieces ++ after)

/-! ## Pieces of arguments -/

theorem piece_argumentsDelta (i : Nat) (text : String) : (argumentsDelta i text).piece = text := rfl

theorem piece_withArguments (delta : ToolCallDelta) (text : String) :
    (delta.withArguments text).piece = text := rfl

theorem update_argumentsDelta (i : Nat) (text : String) (call : ToolCall) :
    call.update (argumentsDelta i text) = { call with arguments := call.arguments ++ text } := by
  simp [ToolCall.update, argumentsDelta, truthy, ToolCallDelta.piece]

theorem mergeDelta_piece (index : delta.index = some i) (calls : List ToolCall) (text : String) :
    mergeDelta (mergeDelta calls delta) (argumentsDelta i text) =
      mergeDelta calls (delta.withArguments (delta.piece ++ text)) := by
  have long : i + 1 ≤ (mergeDelta calls delta).length := by
    rw [length_mergeDelta index]
    exact Nat.le_max_right _ _
  have first : mergeDelta (mergeDelta calls delta) (argumentsDelta i text) =
      (mergeDelta calls delta).modify i (.update (argumentsDelta i text)) := by
    simp only [mergeDelta, argumentsDelta, Option.getD_some] at long ⊢
    rw [padTo_of_le long]
  rw [first]
  simp only [mergeDelta, index, ToolCallDelta.withArguments, Option.getD_some,
    List.modify_modify_eq]
  congr 1
  funext call
  rw [Function.comp_apply, update_argumentsDelta]
  simp [ToolCall.update, String.append_assoc, ToolCallDelta.piece]

theorem modify_append_left {calls : List ToolCall} {i : Nat} (known : i < calls.length)
    (rest : List ToolCall) (f : ToolCall → ToolCall) :
    (calls ++ rest).modify i f = calls.modify i f ++ rest := by
  induction calls generalizing i with
  | nil => cases known
  | cons call calls ih =>
    cases i with
    | zero => rfl
    | succ i =>
      simp only [List.cons_append, List.modify_succ_cons]
      rw [ih (Nat.lt_of_succ_lt_succ known)]

theorem mergeDelta_comm {j : Nat} (index : delta.index = some j) (other : j ≠ i)
    (known : i < calls.length) (text : String) :
    mergeDelta (mergeDelta calls (argumentsDelta i text)) delta =
      mergeDelta (mergeDelta calls delta) (argumentsDelta i text) := by
  have piece (calls : List ToolCall) (known : i < calls.length) :
      mergeDelta calls (argumentsDelta i text) =
        calls.modify i (.update (argumentsDelta i text)) := by
    simp only [mergeDelta, argumentsDelta, Option.getD_some]
    rw [padTo_of_le known]
  rw [piece calls known, piece (mergeDelta calls delta) (by
    rw [length_mergeDelta index]
    exact Nat.lt_of_lt_of_le known (Nat.le_max_left _ _))]
  simp only [mergeDelta, index, Option.getD_some]
  have pad : padTo (calls.modify i (.update (argumentsDelta i text))) (j + 1) =
      (padTo calls (j + 1)).modify i (.update (argumentsDelta i text)) := by
    simp only [padTo, List.length_modify]
    rw [modify_append_left known]
  rw [pad, List.modify_modify_ne _ _ _ other.symm]

theorem merge_comm {stay : List ToolCallDelta}
    (others : ∀ other ∈ stay, ∃ j, other.index = some j ∧ j ≠ i) (known : i < calls.length)
    (text : String) :
    mergeToolCallDeltas (mergeDelta calls (argumentsDelta i text)) stay =
      mergeDelta (mergeToolCallDeltas calls stay) (argumentsDelta i text) := by
  induction stay generalizing calls with
  | nil => rfl
  | cons other stay ih =>
    obtain ⟨j, index, apart⟩ := others other List.mem_cons_self
    have step : mergeToolCallDeltas (mergeDelta calls (argumentsDelta i text)) (other :: stay) =
        mergeToolCallDeltas (mergeDelta (mergeDelta calls other) (argumentsDelta i text)) stay := by
      simp only [mergeToolCallDeltas, List.foldl_cons]
      rw [mergeDelta_comm index apart known]
    rw [step]
    refine ih (fun other member => others other (List.mem_cons_of_mem _ member)) ?_
    rw [length_mergeDelta index]
    exact Nat.lt_of_lt_of_le known (Nat.le_max_left _ _)

theorem merge_pieces (known : i < calls.length) (texts : List String) (last : String) :
    mergeToolCallDeltas calls (texts.map (argumentsDelta i) ++ [argumentsDelta i last]) =
      mergeDelta calls (argumentsDelta i (String.join texts ++ last)) := by
  induction texts generalizing calls with
  | nil => simp [mergeToolCallDeltas, String.join_nil]
  | cons text texts ih =>
    have longer : i < (mergeDelta calls (argumentsDelta i text)).length := by
      rw [length_mergeDelta (show (argumentsDelta i text).index = some i from rfl)]
      exact Nat.lt_of_lt_of_le known (Nat.le_max_left _ _)
    refine (ih longer).trans ?_
    rw [mergeDelta_piece rfl, piece_argumentsDelta, String.join_cons, String.append_assoc]
    rfl

theorem merge_cut {delta : ToolCallDelta} {stay : List ToolCallDelta} (index : delta.index = some i)
    (others : ∀ other ∈ stay, ∃ j, other.index = some j ∧ j ≠ i) (calls : List ToolCall)
    (first last : String) (middle : List String)
    (text : delta.function.bind (·.arguments) = some (first ++ String.join middle ++ last)) :
    mergeToolCallDeltas calls (delta.withArguments first :: stay ++
        (middle.map (argumentsDelta i) ++ [argumentsDelta i last])) =
      mergeToolCallDeltas calls (delta :: stay) := by
  have index' : (delta.withArguments first).index = some i := index
  have known : i < (mergeDelta calls (delta.withArguments first)).length := by
    rw [length_mergeDelta index']
    exact Nat.lt_of_lt_of_le (Nat.lt_succ_self i) (Nat.le_max_right _ _)
  have known' :
      i < (mergeToolCallDeltas (mergeDelta calls (delta.withArguments first)) stay).length :=
    Nat.lt_of_lt_of_le known (le_length_merge _ _)
  -- the call is there after the first piece, so the later ones only extend its arguments
  have same : mergeDelta calls (delta.withArguments (first ++ (String.join middle ++ last))) =
      mergeDelta calls delta := by
    simp only [mergeDelta, ToolCallDelta.withArguments, index, Option.getD_some]
    congr 1
    funext call
    simp [ToolCall.update, ToolCallDelta.piece, text, String.append_assoc]
  calc mergeToolCallDeltas calls (delta.withArguments first :: stay ++
        (middle.map (argumentsDelta i) ++ [argumentsDelta i last]))
      = mergeToolCallDeltas
          (mergeToolCallDeltas (mergeDelta calls (delta.withArguments first)) stay)
          (middle.map (argumentsDelta i) ++ [argumentsDelta i last]) := by
        simp only [mergeToolCallDeltas, List.foldl_append, List.foldl_cons]
    _ = mergeDelta (mergeToolCallDeltas (mergeDelta calls (delta.withArguments first)) stay)
          (argumentsDelta i (String.join middle ++ last)) := merge_pieces known' middle last
    _ = mergeToolCallDeltas (mergeDelta (mergeDelta calls (delta.withArguments first))
          (argumentsDelta i (String.join middle ++ last))) stay := (merge_comm others known _).symm
    _ = mergeToolCallDeltas calls (delta :: stay) := by
        rw [mergeDelta_piece index', piece_withArguments]
        exact congrArg (mergeToolCallDeltas · stay) same

/-! ## Cut streams -/

/-- A list of chunks has one with a `finish_reason`. -/
def finished (chunks : List Chunk) : Bool :=
  chunks.any fun chunk => chunk.choice.any fun choice => (truthy choice.finishReason).isSome

theorem taken_append (chunks rest : List Chunk) :
    taken (chunks ++ rest) = taken chunks ++ if finished chunks then [] else taken rest := by
  induction chunks with
  | nil => simp [taken, finished]
  | cons chunk chunks ih =>
    obtain ⟨choice⟩ := chunk
    simp only [List.cons_append, taken, finished, List.any_cons]
    cases choice with
    | none => simpa [finished] using ih
    | some choice =>
      by_cases ends : (truthy choice.finishReason).isSome <;> simp [ends, ih, finished]

/-- Two lists of deltas that leave the same message, wherever they stand. -/
structure Same (deltas deltas' : List Delta) : Prop where
  role : ∀ role, deltas.foldl (fun role delta => (truthy delta.role).getD role) role =
    deltas'.foldl (fun role delta => (truthy delta.role).getD role) role
  content : String.join (deltas.map fun delta => delta.content.getD "") =
    String.join (deltas'.map fun delta => delta.content.getD "")
  calls : ∀ calls, mergeToolCallDeltas calls (toolDeltas deltas) =
    mergeToolCallDeltas calls (toolDeltas deltas')

theorem Same.messageOf {deltas deltas' : List Delta} (same : Same deltas deltas')
    (before after : List Delta) :
    messageOf (before ++ deltas ++ after) = messageOf (before ++ deltas' ++ after) := by
  have calls := fun calls => same.calls calls
  simp only [mergeToolCallDeltas, toolDeltas] at calls
  simp only [messageOf_eq, roleOf, streamedCalls, mergeToolCallDeltas, toolDeltas,
    List.flatMap_append, List.map_append, List.foldl_append, String.join_append, same.role,
    same.content, calls]

theorem taken_pieces (first last : Delta) (middle : List Delta) (finishReason : Option String) :
    taken (Chunk.of first none :: (middle.map fun delta => Chunk.of delta none) ++
        [Chunk.of last finishReason]) = first :: (middle ++ [last]) ∧
      finished (Chunk.of first none :: (middle.map fun delta => Chunk.of delta none) ++
        [Chunk.of last finishReason]) = (truthy finishReason).isSome := by
  induction middle generalizing first with
  | nil => simp [taken, finished, Chunk.of, truthy]
  | cons next middle ih =>
    obtain ⟨deltas, -⟩ := ih next
    constructor
    · rw [List.map_cons, List.cons_append, taken]
      simpa [Chunk.of, truthy] using deltas
    · rw [List.map_cons, List.cons_append, finished, List.any_cons]
      simp [Chunk.of, truthy]

theorem taken_of (delta : Delta) (finishReason : Option String) :
    taken [.of delta finishReason] = [delta] ∧
      finished [.of delta finishReason] = (truthy finishReason).isSome := by
  simp [taken, finished, Chunk.of]

theorem foldl_role_none {deltas : List Delta} (none : ∀ delta ∈ deltas, delta.role = none)
    (role : String) :
    deltas.foldl (fun role delta => (truthy delta.role).getD role) role = role := by
  induction deltas with
  | nil => rfl
  | cons delta deltas ih =>
    rw [List.foldl_cons, none delta List.mem_cons_self]
    exact ih fun delta member => none delta (List.mem_cons_of_mem _ member)

theorem join_map_empty (texts : List String) : String.join (texts.map fun _ => "") = "" := by
  induction texts with
  | nil => exact String.join_nil
  | cons text texts ih => rw [List.map_cons, String.join_cons, ih, String.append_empty]

theorem same_content {delta : Delta} {first last : String} {middle : List String}
    (text : delta.content = some (first ++ String.join middle ++ last)) :
    Same ({ delta with content := some first } :: (middle.map contentDelta ++ [contentDelta last]))
      [delta] where
  role role := by
    rw [List.foldl_cons, foldl_role_none]
    · rfl
    · intro delta member
      obtain member | member := List.mem_append.mp member
      · obtain ⟨_, -, rfl⟩ := List.mem_map.mp member
        rfl
      · obtain rfl := List.mem_singleton.mp member
        rfl
  content := by
    simp [text, contentDelta, String.join_cons, String.join_append, Function.comp_def,
      String.append_assoc]
  calls calls := by
    have none : (middle.map contentDelta).flatMap (·.toolCalls) = [] := by
      simp [contentDelta, List.flatMap_map]
    simp [toolDeltas, none, contentDelta]

theorem same_arguments {delta : Delta} {before stay later : List ToolCallDelta}
    {call : ToolCallDelta} {i : Nat} {first last : String} {middle : List String}
    (calls : delta.toolCalls = before ++ call :: (stay ++ later)) (index : call.index = some i)
    (others : ∀ other ∈ stay, ∃ j, other.index = some j ∧ j ≠ i)
    (text : call.function.bind (·.arguments) = some (first ++ String.join middle ++ last)) :
    Same ({ delta with toolCalls := before ++ call.withArguments first :: stay } ::
      ((middle.map fun piece => ⟨none, none, [argumentsDelta i piece]⟩) ++
        [⟨none, none, argumentsDelta i last :: later⟩])) [delta] where
  role role := by
    rw [List.foldl_cons, foldl_role_none]
    · rfl
    · intro delta member
      obtain member | member := List.mem_append.mp member
      · obtain ⟨_, -, rfl⟩ := List.mem_map.mp member
        rfl
      · obtain rfl := List.mem_singleton.mp member
        rfl
  content := by
    simp only [List.map_cons, List.map_append, List.map_map, Function.comp_def, Option.getD_none,
      String.join_cons, String.join_append, join_map_empty, List.map_nil, String.join_nil,
      String.append_empty]
  calls existing := by
    have pieces : (middle.map fun piece => (⟨none, none, [argumentsDelta i piece]⟩ : Delta)).flatMap
        (·.toolCalls) = middle.map (argumentsDelta i) := by
      rw [List.flatMap_map, List.map_eq_flatMap]
    have cut := merge_cut index others (mergeToolCallDeltas existing before) first last middle text
    simp only [toolDeltas, List.flatMap_cons, List.flatMap_append, pieces, calls, List.flatMap_nil]
    simp only [mergeToolCallDeltas, List.foldl_append, List.foldl_cons, List.foldl_nil,
      List.append_nil] at cut ⊢
    rw [cut]

/-- Cutting a chunk leaves the message as it is. -/
theorem ChunkCut.same {chunk : Chunk} {pieces : List Chunk} (cut : ChunkCut chunk pieces) :
    Same (taken pieces) (taken [chunk]) ∧ finished pieces = finished [chunk] := by
  cases cut with
  | @content delta first last middle finishReason text =>
    have parts := taken_pieces { delta with content := some first } (contentDelta last)
      (middle.map contentDelta) finishReason
    rw [List.map_map] at parts
    rw [(taken_of delta finishReason).1, (taken_of delta finishReason).2]
    exact ⟨parts.1 ▸ same_content text, parts.2⟩
  | @arguments delta before stay later call i first last middle finishReason calls index others
      text =>
    have parts := taken_pieces
      { delta with toolCalls := before ++ call.withArguments first :: stay }
      ⟨none, none, argumentsDelta i last :: later⟩
      (middle.map fun piece => ⟨none, none, [argumentsDelta i piece]⟩) finishReason
    rw [List.map_map] at parts
    rw [(taken_of delta finishReason).1, (taken_of delta finishReason).2]
    exact ⟨parts.1 ▸ same_arguments calls index others text, parts.2⟩

theorem consume_cut {chunks chunks' : List Chunk} (cut : Cut chunks chunks') :
    consumeStreamingCompletion chunks' = consumeStreamingCompletion chunks := by
  cases cut with
  | @one before after chunk pieces cut =>
    obtain ⟨same, ends⟩ := cut.same
    have whole := same.messageOf (taken before) (if finished [chunk] then [] else taken after)
    rw [consume_eq, consume_eq, List.append_assoc, taken_append before, taken_append before,
      taken_append pieces, ← List.singleton_append, taken_append [chunk], ends]
    split
    · rfl
    · simpa only [List.append_assoc] using whole

/-- Every tool call delta that counts names its index. -/
def Indexed (chunks : List Chunk) : Prop :=
  ∀ delta ∈ toolDeltas (taken chunks), delta.index.isSome

instance (chunks : List Chunk) : Decidable (Indexed chunks) :=
  inferInstanceAs (Decidable (∀ delta ∈ toolDeltas (taken chunks), delta.index.isSome))

end StreamCompletion
