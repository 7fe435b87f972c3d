import TokenPlace.Lib.Json
import TokenPlace.Lib.Search

/-!
# The framing of a probe result

The reader of the output of a probe process. `pending` holds what may still be part of a result:
the chunks that were read, without what cannot be. `loads` decodes a frame, and gives nothing where
the decoder raises.

Results:
1. `Reader.read_eq`: what the reader ends with is what the first frame of the whole stream says,
   however the stream was cut.
2. `probe_framing`: this, and the bound on the pending bytes.
-/

namespace ProbeFraming

open Search

abbrev Bytes := List UInt8

/-- The fields of an object. -/
abbrev Fields := List (String × Json)

/-- `PROBE_RESULT_PREFIX`. -/
def PROBE_RESULT_PREFIX : Bytes := "TOKEN_PLACE_RUNTIME_PROBE_RESULT ".toList.map fun c =>
  UInt8.ofNat c.toNat

/-- `PROBE_RESULT_MAX_BYTES`. -/
def PROBE_RESULT_MAX_BYTES : ℕ := 1024 * 1024

/-- The most that is read at once. -/
def CHUNK_BYTES : ℕ := 32768

def newline : Bytes := [10]

/-- What the reader ends with: a result, or an error. -/
inductive Outcome
  | result (fields : Fields)
  | oversized
  | malformed
  | notObject

variable (loads : Bytes → Option Json)

/-- What a frame says. -/
def frameOutcome (frame : Bytes) : Outcome :=
  if PROBE_RESULT_MAX_BYTES < frame.length then .oversized
  else
    match loads frame with
    | none => .malformed
    | some (.object fields) => .result fields
    | some _ => .notObject

/-- `consume_result_lines`: the bytes that stay, and the outcome if there is one. -/
def consumeResultLines (pending : Bytes) : Bytes × Option Outcome :=
  match find PROBE_RESULT_PREFIX pending with
  | none =>
    (if PROBE_RESULT_PREFIX.length < pending.length then
      pending.drop (pending.length - PROBE_RESULT_PREFIX.length)
    else pending, none)
  | some prefixAt =>
    let pending := pending.drop prefixAt
    match findFrom newline pending PROBE_RESULT_PREFIX.length with
    | none =>
      (pending, if PROBE_RESULT_MAX_BYTES + PROBE_RESULT_PREFIX.length < pending.length then
        some .oversized else none)
    | some newlineAt =>
      (pending.drop (newlineAt + 1),
        some (frameOutcome loads ((pending.take newlineAt).drop PROBE_RESULT_PREFIX.length)))

/-- The state of `stdout_reader`. -/
structure Reader where
  pending : Bytes
  outcome : Option Outcome

/-- The reader before the first chunk. -/
def Reader.start : Reader := ⟨[], none⟩

/-- A chunk is read, unless the reader has returned. -/
def Reader.readChunk (reader : Reader) (chunk : Bytes) : Reader :=
  if reader.outcome.isSome then reader
  else
    let (pending, outcome) := consumeResultLines loads (reader.pending ++ chunk)
    ⟨pending, outcome⟩

/-- `stdout_reader`: an empty chunk is the end of the output. -/
def Reader.read (reader : Reader) : List Bytes → Reader
  | [] => reader
  | chunk :: chunks =>
    if chunk = [] then reader else (reader.readChunk loads chunk).read chunks

/-! ## What a stream says -/

/-- What stands behind the first prefix: a frame that ends, or none. -/
def behindPrefix (behind : Bytes) : Option Outcome :=
  match find newline behind with
  | none => if PROBE_RESULT_MAX_BYTES < behind.length then some .oversized else none
  | some n => some (frameOutcome loads (behind.take n))

/-- The outcome of a stream, by its first prefix and the next newline. -/
def streamOutcome (stream : Bytes) : Option Outcome :=
  (find PROBE_RESULT_PREFIX stream).bind fun n =>
    behindPrefix loads (stream.drop (n + PROBE_RESULT_PREFIX.length))

variable {loads} {pending stream more : Bytes} {outcome : Outcome}

/-- A frame that is complete or too long stays so when the stream goes on. -/
theorem behindPrefix_append (known : behindPrefix loads stream = some outcome) (more : Bytes) :
    behindPrefix loads (stream ++ more) = some outcome := by
  unfold behindPrefix at known
  split at known
  · next none =>
    split at known
    · next long =>
      cases Option.some.inj known
      unfold behindPrefix
      split
      · rw [if_pos (lt_of_lt_of_le long (by simp))]
      · next n found =>
        -- The newline is not in the front, so the frame has all of the front.
        have late : stream.length ≤ n := by
          by_contra early
          obtain ⟨-, here, -⟩ := find_eq_some_iff.mp found
          rw [List.drop_append_of_le_length (by omega)] at here
          refine find_eq_none_iff.mp none n (by omega) (prefix_of_prefix_append ?_ here)
          rw [List.length_drop]
          exact Nat.sub_pos_of_lt (not_le.mp early)
        rw [frameOutcome, if_pos]
        rw [List.length_take, List.length_append]
        obtain ⟨small, -, -⟩ := find_eq_some_iff.mp found
        rw [List.length_append] at small
        omega
    · nomatch known
  · next n found =>
    unfold behindPrefix
    obtain ⟨small, -, -⟩ := find_eq_some_iff.mp found
    rw [find_append found more]
    dsimp only
    rw [List.take_append_of_le_length small]
    exact known

theorem streamOutcome_of_find {n : ℕ} (found : find PROBE_RESULT_PREFIX stream = some n) :
    streamOutcome loads stream =
      behindPrefix loads (stream.drop (n + PROBE_RESULT_PREFIX.length)) := by
  rw [streamOutcome, found, Option.bind_some]

/-- A front in which no prefix begins says nothing. -/
theorem streamOutcome_append {front : Bytes}
    (none : ∀ i < front.length, ¬ PROBE_RESULT_PREFIX <+: (front ++ stream).drop i) :
    streamOutcome loads (front ++ stream) = streamOutcome loads stream := by
  unfold streamOutcome
  rw [find_append_of_none none]
  cases find PROBE_RESULT_PREFIX stream with
  | none => rfl
  | some n =>
    rw [Option.map_some, Option.bind_some, Option.bind_some]
    congr 1
    rw [show n + front.length + PROBE_RESULT_PREFIX.length =
      front.length + (n + PROBE_RESULT_PREFIX.length) by omega, ← List.drop_drop, List.drop_left]

/-! ## One scan -/

theorem consume_found {n : ℕ} (found : find PROBE_RESULT_PREFIX pending = some n) :
    (consumeResultLines loads pending).2 =
        behindPrefix loads (pending.drop (n + PROBE_RESULT_PREFIX.length)) ∧
      ((consumeResultLines loads pending).2 = none →
        (consumeResultLines loads pending).1 = pending.drop n) := by
  obtain ⟨behind, split⟩ : ∃ behind, pending.drop (n + PROBE_RESULT_PREFIX.length) = behind :=
    ⟨_, rfl⟩
  have here : pending.drop n = PROBE_RESULT_PREFIX ++ behind := split ▸ find_drop found
  unfold consumeResultLines behindPrefix findFrom
  rw [found]
  dsimp only
  rw [here, split, List.drop_left]
  cases find newline behind with
  | none =>
    dsimp only [Option.map_none]
    refine ⟨?_, fun _ => rfl⟩
    rw [List.length_append, Nat.add_comm PROBE_RESULT_PREFIX.length,
      if_congr Nat.add_lt_add_iff_right rfl rfl]
  | some m =>
    dsimp only [Option.map_some]
    refine ⟨?_, nofun⟩
    rw [Nat.add_comm m, List.take_length_add_append, List.drop_left]

theorem consume_missing (missing : find PROBE_RESULT_PREFIX pending = none) :
    consumeResultLines loads pending =
      (pending.drop (pending.length - PROBE_RESULT_PREFIX.length), none) := by
  unfold consumeResultLines
  rw [missing]
  dsimp only
  split
  · rfl
  · next short =>
    rw [Nat.sub_eq_zero_of_le (not_lt.mp short), List.drop_zero]

/-- A scan that ends the reading gives the outcome of every stream that begins so. -/
theorem consume_some (ended : (consumeResultLines loads pending).2 = some outcome)
    (more : Bytes) : streamOutcome loads (pending ++ more) = some outcome := by
  cases found : find PROBE_RESULT_PREFIX pending with
  | none =>
    rw [consume_missing found] at ended
    nomatch ended
  | some n =>
    rw [(consume_found found).1] at ended
    rw [streamOutcome_of_find (find_append found more), List.drop_append_of_le_length]
    · exact behindPrefix_append ended more
    · have fits := congrArg List.length (find_drop found)
      obtain ⟨small, -, -⟩ := find_eq_some_iff.mp found
      simp only [List.length_drop, List.length_append] at fits
      omega

/-- What a scan keeps says as much as what it got, and is bounded. -/
structure Keeps (loads : Bytes → Option Json) (pending kept : Bytes) : Prop where
  same : ∀ more, streamOutcome loads (pending ++ more) = streamOutcome loads (kept ++ more)
  silent : streamOutcome loads kept = none
  bounded : kept.length ≤ PROBE_RESULT_MAX_BYTES + PROBE_RESULT_PREFIX.length

theorem consume_none (ended : (consumeResultLines loads pending).2 = none) :
    Keeps loads pending (consumeResultLines loads pending).1 := by
  cases found : find PROBE_RESULT_PREFIX pending with
  | none =>
    rw [consume_missing found]
    obtain ⟨front, cut⟩ : ∃ n, pending.length - PROBE_RESULT_PREFIX.length = n := ⟨_, rfl⟩
    have absent := find_eq_none_iff.mp found
    dsimp only
    rw [cut]
    refine ⟨fun more => ?_, ?_, ?_⟩
    · -- A prefix that begins in the part that goes would be in the pending bytes as a whole.
      have early : ∀ i < (pending.take front).length, ¬ PROBE_RESULT_PREFIX <+:
          (pending.take front ++ (pending.drop front ++ more)).drop i := by
        intro i small here
        rw [← List.append_assoc, List.take_append_drop] at here
        rw [List.length_take] at small
        rw [List.drop_append_of_le_length (by omega)] at here
        refine absent i (by omega) (prefix_of_prefix_append ?_ here)
        rw [List.length_drop]
        omega
      have whole : streamOutcome loads (pending.take front ++ (pending.drop front ++ more)) =
          streamOutcome loads (pending.drop front ++ more) := streamOutcome_append early
      rwa [← List.append_assoc, List.take_append_drop] at whole
    · have none : find PROBE_RESULT_PREFIX (pending.drop front) = none := by
        refine find_eq_none_iff.mpr fun i small here => absent (front + i) ?_ ?_
        · rw [List.length_drop] at small
          omega
        · rwa [← List.drop_drop]
      rw [streamOutcome, none]
      rfl
    · rw [List.length_drop]
      omega
  | some n =>
    have kept := (consume_found found).2 ended
    have silent := ended
    rw [(consume_found found).1] at silent
    have front : PROBE_RESULT_PREFIX <+: pending.drop n := (find_eq_some_iff.mp found).2.1
    have again : find PROBE_RESULT_PREFIX (pending.drop n) = some 0 :=
      find_eq_some_iff.mpr ⟨Nat.zero_le _, front, nofun⟩
    rw [kept]
    refine ⟨fun more => ?_, ?_, ?_⟩
    · have long := front.length_le
      rw [List.length_drop] at long
      rw [streamOutcome_of_find (find_append found more),
        streamOutcome_of_find (find_append again more), Nat.zero_add]
      obtain ⟨small, -, -⟩ := find_eq_some_iff.mp found
      rw [List.drop_append_of_le_length (by omega), List.drop_append_of_le_length (by simp; omega),
        List.drop_drop]
    · rw [streamOutcome_of_find again, List.drop_drop, Nat.zero_add]
      exact silent
    · unfold behindPrefix at silent
      split at silent
      · split at silent
        · nomatch silent
        · next short =>
          rw [List.length_drop] at short ⊢
          omega
      · nomatch silent

/-! ## The whole stream -/

theorem Reader.read_ended {reader : Reader} (ended : reader.outcome.isSome) (chunks : List Bytes) :
    reader.read loads chunks = reader := by
  induction chunks with
  | nil => rfl
  | cons chunk chunks ih =>
    rw [Reader.read]
    split
    · rfl
    · rw [Reader.readChunk, if_pos ended, ih]

theorem Reader.readChunk_waiting (chunk : Bytes) :
    (Reader.mk pending none).readChunk loads chunk =
      ⟨(consumeResultLines loads (pending ++ chunk)).1,
        (consumeResultLines loads (pending ++ chunk)).2⟩ := rfl

theorem Reader.read_eq {chunks : List Bytes} (some : ∀ chunk ∈ chunks, chunk ≠ [])
    (silent : streamOutcome loads pending = none) :
    ((Reader.mk pending none).read loads chunks).outcome =
      streamOutcome loads (pending ++ chunks.flatten) := by
  induction chunks generalizing pending with
  | nil =>
    rw [List.flatten_nil, List.append_nil]
    exact silent.symm
  | cons chunk chunks ih =>
    obtain ⟨here, later⟩ := List.forall_mem_cons.mp some
    rw [Reader.read, if_neg here, Reader.readChunk_waiting, List.flatten_cons, ← List.append_assoc]
    cases ended : (consumeResultLines loads (pending ++ chunk)).2 with
    | some outcome =>
      rw [Reader.read_ended rfl]
      exact (consume_some ended chunks.flatten).symm
    | none =>
      have kept := consume_none ended
      rw [ih later kept.silent, kept.same]

/-- The bytes that a reader holds. -/
def Reader.Bounded (reader : Reader) : Prop :=
  reader.pending.length ≤ PROBE_RESULT_MAX_BYTES + PROBE_RESULT_PREFIX.length + CHUNK_BYTES ∧
    (reader.outcome = none →
      reader.pending.length ≤ PROBE_RESULT_MAX_BYTES + PROBE_RESULT_PREFIX.length)

theorem consume_length (pending : Bytes) :
    (consumeResultLines loads pending).1.length ≤ pending.length := by
  unfold consumeResultLines
  split
  · dsimp only
    split
    · exact (List.drop_sublist ..).length_le
    · exact le_rfl
  · dsimp only
    split
    · exact (List.drop_sublist ..).length_le
    · exact ((List.drop_sublist ..).trans (List.drop_sublist ..)).length_le

theorem Reader.Bounded.readChunk {reader : Reader} (bounded : reader.Bounded) {chunk : Bytes}
    (small : chunk.length ≤ CHUNK_BYTES) : (reader.readChunk loads chunk).Bounded := by
  obtain ⟨pending, outcome⟩ := reader
  cases outcome with
  | some outcome => exact bounded
  | none =>
    have held : pending.length ≤ PROBE_RESULT_MAX_BYTES + PROBE_RESULT_PREFIX.length :=
      bounded.2 rfl
    rw [Reader.readChunk_waiting]
    refine ⟨(consume_length _).trans ?_, fun ended => (consume_none ended).bounded⟩
    rw [List.length_append]
    omega

theorem Reader.Bounded.read {reader : Reader} (bounded : reader.Bounded) {chunks : List Bytes}
    (small : ∀ chunk ∈ chunks, chunk.length ≤ CHUNK_BYTES) :
    (reader.read loads chunks).Bounded := by
  induction chunks generalizing reader with
  | nil => exact bounded
  | cons chunk chunks ih =>
    obtain ⟨here, later⟩ := List.forall_mem_cons.mp small
    rw [Reader.read]
    split
    · exact bounded
    · exact ih (bounded.readChunk here) later

/-- However the output of a probe is cut into chunks, the reader ends with what the first frame of
the whole output says, as it does when all comes at once. Before the scan of any chunk, and after
it, the pending bytes are bounded. -/
theorem probe_framing (loads : Bytes → Option Json) {chunks : List Bytes}
    (some : ∀ chunk ∈ chunks, chunk ≠ []) (small : ∀ chunk ∈ chunks, chunk.length ≤ CHUNK_BYTES) :
    (Reader.start.read loads chunks).outcome = streamOutcome loads chunks.flatten ∧
      (Reader.start.read loads chunks).outcome =
        (Reader.start.read loads [chunks.flatten]).outcome ∧
      ∀ before chunk after, chunks = before ++ chunk :: after →
        (Reader.start.read loads before).pending.length ≤
            PROBE_RESULT_MAX_BYTES + PROBE_RESULT_PREFIX.length + CHUNK_BYTES ∧
          ((Reader.start.read loads before).outcome = none →
            ((Reader.start.read loads before).pending ++ chunk).length ≤
              PROBE_RESULT_MAX_BYTES + PROBE_RESULT_PREFIX.length + CHUNK_BYTES) := by
  have silent : streamOutcome loads [] = none := rfl
  have whole : (Reader.start.read loads chunks).outcome = streamOutcome loads chunks.flatten :=
    Reader.read_eq some silent
  refine ⟨whole, ?_, ?_⟩
  · rcases eq_or_ne chunks.flatten [] with empty | filled
    · rw [whole, empty]
      rfl
    · have piece : ∀ chunk ∈ [chunks.flatten], chunk ≠ [] := List.forall_mem_singleton.mpr filled
      have once : (Reader.start.read loads [chunks.flatten]).outcome =
          streamOutcome loads [chunks.flatten].flatten := Reader.read_eq piece silent
      rw [whole, once, List.flatten_singleton]
  · rintro before chunk after rfl
    have start : Reader.start.Bounded := ⟨Nat.zero_le _, fun _ => Nat.zero_le _⟩
    have bounded : (Reader.start.read loads before).Bounded :=
      start.read fun chunk member => small chunk (List.mem_append_left _ member)
    have last := small chunk (List.mem_append_right _ List.mem_cons_self)
    refine ⟨bounded.1, fun waiting => ?_⟩
    have held := bounded.2 waiting
    rw [List.length_append]
    omega

/-- A prefix that is split between two chunks. -/
def sampleChunks : List Bytes :=
  [PROBE_RESULT_PREFIX.take 9, PROBE_RESULT_PREFIX.drop 9 ++ [123, 125, 10]]

theorem probe_framing_split :
    (∀ chunk ∈ sampleChunks, chunk ≠ []) ∧ (∀ chunk ∈ sampleChunks, chunk.length ≤ CHUNK_BYTES) ∧
      (Reader.start.read (fun _ => some (.object [])) sampleChunks).outcome =
        streamOutcome (fun _ => some (.object [])) sampleChunks.flatten :=
  have some : ∀ chunk ∈ sampleChunks, chunk ≠ [] := by decide
  have small : ∀ chunk ∈ sampleChunks, chunk.length ≤ CHUNK_BYTES := by decide
  ⟨some, small, (probe_framing _ some small).1⟩

end ProbeFraming
