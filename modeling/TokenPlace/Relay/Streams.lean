import TokenPlace.Lib.OrderedDict
import TokenPlace.Lib.Schedules

/-!
# Streaming sessions

The sessions behind `/stream/source` and `/stream/retrieve`. Every function works in one region
under `stream_lock`, so an event is one call. Chunks wait in the session until its client fetches
them; a session ends when it was closed and is fetched, when its client gets another one, or when
its server is removed.

As long as a session lasts, no chunk is lost, repeated or given to another client, and one that
was closed has been given as a whole (`chunks_delivered`).
-/

namespace Streaming

variable {Id Chunk : Type} [DecidableEq Id]

/-! ## Calls -/

/-- A session. `closed` is the status. -/
structure Session (Id Chunk : Type) where
  sessionId : Id
  serverPublicKey : String
  clientPublicKey : String
  chunks : List Chunk
  closed : Bool

structure Sessions (Id Chunk : Type) where
  streamingSessions : OrderedDict Id (Session Id Chunk)
  streamingSessionsByClient : OrderedDict String Id

/-- What is left without the session of a client. -/
def Sessions.others (s : Sessions Id Chunk) (client : String) : OrderedDict Id (Session Id Chunk) :=
  match s.streamingSessionsByClient.get? client with
  | some existing => s.streamingSessions.erase existing
  | none => s.streamingSessions

/-- `_register_stream_session`, with the id that it draws. -/
def registerStreamSession (server client : String) (id : Id) (s : Sessions Id Chunk) :
    Option (Session Id Chunk) × Sessions Id Chunk :=
  if client = "" then (none, s)
  else
    let session := ⟨id, server, client, [], false⟩
    (some session, ⟨(s.others client).set id session, s.streamingSessionsByClient.set client id⟩)

/-- `_append_stream_chunk`. -/
def appendStreamChunk (id : Id) (chunk : Chunk) (final : Bool) (s : Sessions Id Chunk) :
    Bool × Sessions Id Chunk :=
  match s.streamingSessions.get? id with
  | none => (false, s)
  | some session =>
    let session :=
      { session with chunks := session.chunks ++ [chunk], closed := session.closed || final }
    (true, { s with streamingSessions := s.streamingSessions.set id session })

/-- `_pop_stream_chunks_for_client`. -/
def popStreamChunksForClient (client : String) (s : Sessions Id Chunk) :
    Option (Id × List Chunk × Bool) × Sessions Id Chunk :=
  match s.streamingSessionsByClient.get? client with
  | none => (none, s)
  | some id =>
    match s.streamingSessions.get? id with
    | none =>
      (none, { s with streamingSessionsByClient := s.streamingSessionsByClient.erase client })
    | some session =>
      let sessions := s.streamingSessions.set id { session with chunks := [] }
      (some (id, session.chunks, session.closed),
        if session.closed then ⟨sessions.erase id, s.streamingSessionsByClient.erase client⟩
        else { s with streamingSessions := sessions })

/-- One turn of the loop of `_unregister_server`. -/
def dropSession (s : Sessions Id Chunk) (id : Id) : Sessions Id Chunk :=
  match s.streamingSessions.get? id with
  | none => s
  | some session =>
    ⟨s.streamingSessions.erase id,
      if s.streamingSessionsByClient.get? session.clientPublicKey = some id then
        s.streamingSessionsByClient.erase session.clientPublicKey
      else s.streamingSessionsByClient⟩

/-- The region of `_unregister_server`. -/
def unregisterServer (server : String) (s : Sessions Id Chunk) : Sessions Id Chunk :=
  let stale := (s.streamingSessions.filter fun _ session => session.serverPublicKey = server).keys
  stale.foldl dropSession s

/-! ## Runs -/

inductive Event (Id Chunk : Type)
  | register (server client : String) (id : Id)
  | append (id : Id) (chunk : Chunk) (final : Bool)
  | pop (client : String)
  | unregister (server : String)

/-- The sessions, and logs of what the calls have answered: the ids of new sessions with their
clients, the chunks that were accepted for an id, those that were fetched under it, by whom, and
the sessions that were fetched to the end. -/
structure Traffic (Id Chunk : Type) where
  sessions : Sessions Id Chunk
  drawn : List (Id × String)
  accepted : Id → List Chunk
  fetched : Id → List (String × Chunk)
  finished : List Id

def noTraffic : Traffic Id Chunk := ⟨⟨.empty, .empty⟩, [], fun _ => [], fun _ => [], []⟩

def step : Event Id Chunk → Traffic Id Chunk → Traffic Id Chunk
  | .register server client id, s =>
    match registerStreamSession server client id s.sessions with
    | (none, sessions) => { s with sessions }
    | (some session, sessions) =>
      { s with sessions, drawn := (session.sessionId, client) :: s.drawn }
  | .append id chunk final, s =>
    match appendStreamChunk id chunk final s.sessions with
    | (false, sessions) => { s with sessions }
    | (true, sessions) =>
      { s with sessions, accepted := Function.update s.accepted id (s.accepted id ++ [chunk]) }
  | .pop client, s =>
    match popStreamChunksForClient client s.sessions with
    | (none, sessions) => { s with sessions }
    | (some (id, chunks, final), sessions) =>
      { s with
        sessions
        fetched := Function.update s.fetched id (s.fetched id ++ chunks.map fun c => (client, c))
        finished := if final then id :: s.finished else s.finished }
  | .unregister server, s => { s with sessions := unregisterServer server s.sessions }

/-- An id is drawn once. -/
def Fresh : Event Id Chunk → Traffic Id Chunk → Prop
  | .register _ _ id, s => id ∉ s.drawn.map Prod.fst
  | _, _ => True

instance : (ev : Event Id Chunk) → (s : Traffic Id Chunk) → Decidable (Fresh ev s)
  | .register _ _ id, s => inferInstanceAs (Decidable (id ∉ s.drawn.map Prod.fst))
  | .append .., _ | .pop _, _ | .unregister _, _ => .isTrue trivial

/-! ## Delivery -/

/-- A client has the session that the index names, and no other one. -/
def Sessions.Paired (s : Sessions Id Chunk) : Prop :=
  ∀ client id, s.streamingSessionsByClient.get? client = some id ↔
    ∃ session, s.streamingSessions.get? id = some session ∧ session.clientPublicKey = client

structure Delivered (s : Traffic Id Chunk) : Prop where
  paired : s.sessions.Paired
  known : ∀ id session, s.sessions.streamingSessions.get? id = some session →
    (id, session.clientPublicKey) ∈ s.drawn
  whole : ∀ id session, s.sessions.streamingSessions.get? id = some session →
    (s.fetched id).map Prod.snd ++ session.chunks = s.accepted id
  front : ∀ id, ((s.fetched id).map Prod.snd).IsPrefix (s.accepted id)
  own : ∀ id, ∀ x ∈ s.fetched id, (id, x.1) ∈ s.drawn
  once : (s.drawn.map Prod.fst).Nodup
  undrawn : ∀ id, id ∉ s.drawn.map Prod.fst → s.accepted id = []
  ended : ∀ id ∈ s.finished, id ∈ s.drawn.map Prod.fst ∧
    s.sessions.streamingSessions.get? id = none ∧ (s.fetched id).map Prod.snd = s.accepted id

theorem noTraffic_delivered : Delivered (noTraffic : Traffic Id Chunk) := by
  constructor <;> simp [noTraffic, Sessions.Paired]

namespace Delivered

variable {s : Traffic Id Chunk}

theorem register (h : Delivered s) {server client : String} {id : Id}
    (fresh : id ∉ s.drawn.map Prod.fst) : Delivered (step (.register server client id) s) := by
  by_cases anonymous : client = ""
  · simpa only [step, registerStreamSession, if_pos anonymous] using h
  simp only [step, registerStreamSession, if_neg anonymous]
  have unused : s.sessions.streamingSessions.get? id = none := by
    cases found : s.sessions.streamingSessions.get? id with
    | none => rfl
    | some session => exact absurd (List.mem_map_of_mem (h.known id session found)) fresh
  have left (k : Id) (session : Session Id Chunk) :
      (s.sessions.others client).get? k = some session ↔
        s.sessions.streamingSessions.get? k = some session ∧ session.clientPublicKey ≠ client := by
    have paired := h.paired client k
    unfold Sessions.others
    split <;> grind [OrderedDict.get?_erase]
  have empty := h.undrawn id fresh
  have nothing : s.fetched id = [] := by
    have front := h.front id
    rw [empty, List.prefix_nil, List.map_eq_nil_iff] at front
    exact front
  constructor
  · intro c k
    have paired := h.paired c k
    simp only [OrderedDict.get?_set]
    rcases eq_or_ne c client with rfl | same
    · rcases eq_or_ne k id with rfl | new
      · simp
      · simp only [if_true, if_neg new, left]
        constructor
        · exact fun eq => absurd (Option.some.inj eq).symm new
        · rintro ⟨_, ⟨_, other⟩, eq⟩
          exact absurd eq other
    · rcases eq_or_ne k id with rfl | new
      · rw [if_neg same, paired, if_pos rfl, unused]
        simp [same.symm]
      · simp only [if_neg same, if_neg new, left, paired]
        constructor
        · rintro ⟨session, found, rfl⟩
          exact ⟨session, ⟨found, same⟩, rfl⟩
        · rintro ⟨session, ⟨found, _⟩, eq⟩
          exact ⟨session, found, eq⟩
  · intro k session found
    have known := h.known k
    simp only [OrderedDict.get?_set] at found
    grind
  · intro k session found
    have whole := h.whole k
    simp only [OrderedDict.get?_set] at found
    grind
  · exact h.front
  · exact fun k x mem => List.mem_cons_of_mem _ (h.own k x mem)
  · exact List.nodup_cons.mpr ⟨fresh, h.once⟩
  · intro k new
    exact h.undrawn k fun old => new (List.mem_cons_of_mem _ old)
  · intro k mem
    obtain ⟨old, gone, all⟩ := h.ended k mem
    have other : k ≠ id := by
      rintro rfl
      exact fresh old
    refine ⟨List.mem_cons_of_mem _ old, ?_, all⟩
    rw [OrderedDict.get?_set, if_neg other, Option.eq_none_iff_forall_ne_some]
    intro session found
    cases gone.symm.trans ((left k session).mp found).1

theorem remove (h : Delivered s) {id : Id} {session : Session Id Chunk}
    (found : s.sessions.streamingSessions.get? id = some session) :
    Delivered { s with sessions := ⟨s.sessions.streamingSessions.erase id,
      s.sessions.streamingSessionsByClient.erase session.clientPublicKey⟩ } := by
  have left {k : Id} {other : Session Id Chunk}
      (there : (s.sessions.streamingSessions.erase id).get? k = some other) :
      s.sessions.streamingSessions.get? k = some other := by
    rw [OrderedDict.get?_erase] at there
    grind
  refine ⟨?_, fun k other there => h.known k other (left there),
    fun k other there => h.whole k other (left there), h.front, h.own, h.once, h.undrawn, ?_⟩
  · intro c k
    have paired := h.paired c k
    have named := (h.paired session.clientPublicKey id).mpr ⟨session, found, rfl⟩
    simp only [OrderedDict.get?_erase]
    grind
  · intro k mem
    obtain ⟨old, gone, all⟩ := h.ended k mem
    exact ⟨old, by simp [gone], all⟩

/-- A session that takes what is given and of which its client takes some. -/
theorem change (h : Delivered s) {id : Id} {session : Session Id Chunk}
    (found : s.sessions.streamingSessions.get? id = some session) (session' : Session Id Chunk)
    (given : List Chunk) (taken : List (String × Chunk))
    (same : session'.clientPublicKey = session.clientPublicKey)
    (own : ∀ x ∈ taken, x.1 = session.clientPublicKey)
    (whole : taken.map Prod.snd ++ session'.chunks = session.chunks ++ given) :
    Delivered { s with
      sessions := { s.sessions with
        streamingSessions := s.sessions.streamingSessions.set id session' }
      accepted := Function.update s.accepted id (s.accepted id ++ given)
      fetched := Function.update s.fetched id (s.fetched id ++ taken) } := by
  have known := h.known id session found
  have all : (s.fetched id ++ taken).map Prod.snd ++ session'.chunks = s.accepted id ++ given := by
    rw [List.map_append, List.append_assoc, whole, ← List.append_assoc, h.whole id session found]
  constructor
  · intro c k
    have paired := h.paired c k
    simp only [OrderedDict.get?_set]
    grind
  · intro k other there
    have known := h.known k
    simp only [OrderedDict.get?_set] at there
    grind
  · intro k other there
    simp only [OrderedDict.get?_set] at there
    rcases eq_or_ne k id with rfl | apart
    · cases (if_pos rfl).symm.trans there
      simpa only [Function.update_self] using all
    · simpa [apart] using h.whole k other ((if_neg apart).symm.trans there)
  · intro k
    rcases eq_or_ne k id with rfl | apart
    · simpa only [Function.update_self] using ⟨_, all⟩
    · simpa [apart] using h.front k
  · intro k x mem
    rcases eq_or_ne k id with rfl | apart
    · simp only [Function.update_self] at mem
      rcases List.mem_append.mp mem with before | after
      · exact h.own k x before
      · exact own x after ▸ known
    · exact h.own k x (by simpa [apart] using mem)
  · exact h.once
  · intro k new
    have other : k ≠ id := by
      rintro rfl
      exact new (List.mem_map_of_mem known)
    simpa [other] using h.undrawn k new
  · intro k mem
    obtain ⟨old, gone, all⟩ := h.ended k mem
    have other : k ≠ id := by
      rintro rfl
      cases found.symm.trans gone
    simpa [OrderedDict.get?_set, other] using And.intro old ⟨gone, all⟩

theorem append (h : Delivered s) {id : Id} {chunk : Chunk} {final : Bool} :
    Delivered (step (.append id chunk final) s) := by
  cases found : s.sessions.streamingSessions.get? id with
  | none => simpa only [step, appendStreamChunk, found] using h
  | some session =>
    have appended := h.change found
      { session with chunks := session.chunks ++ [chunk], closed := session.closed || final }
      [chunk] [] rfl (by simp) rfl
    simpa [step, appendStreamChunk, found] using appended

theorem finish (h : Delivered s) {id : Id} (old : id ∈ s.drawn.map Prod.fst)
    (gone : s.sessions.streamingSessions.get? id = none)
    (all : (s.fetched id).map Prod.snd = s.accepted id) :
    Delivered { s with finished := id :: s.finished } :=
  ⟨h.paired, h.known, h.whole, h.front, h.own, h.once, h.undrawn, fun k mem => by
    rcases List.mem_cons.mp mem with rfl | mem
    · exact ⟨old, gone, all⟩
    · exact h.ended k mem⟩

theorem pop (h : Delivered s) {client : String} : Delivered (step (.pop client) s) := by
  cases named : s.sessions.streamingSessionsByClient.get? client with
  | none => simpa only [step, popStreamChunksForClient, named] using h
  | some id =>
    obtain ⟨session, found, rfl⟩ := (h.paired client id).mp named
    have fetched := h.change found { session with chunks := [] } []
      (session.chunks.map fun chunk => (session.clientPublicKey, chunk)) rfl (by simp)
      (by simp [Function.comp_def])
    simp only [List.append_nil, Function.update_eq_self] at fetched
    have there := OrderedDict.get?_set s.sessions.streamingSessions id id
      { session with chunks := [] }
    rw [if_pos rfl] at there
    by_cases closed : session.closed
    · have old : id ∈ s.drawn.map Prod.fst := List.mem_map_of_mem (h.known id session found)
      have removed := (fetched.remove there).finish old (by simp)
        (by simpa using fetched.whole id _ there)
      simpa only [step, popStreamChunksForClient, named, found, if_pos closed] using removed
    · simpa only [step, popStreamChunksForClient, named, found, if_neg closed] using fetched

theorem dropSession (h : Delivered s) (id : Id) :
    Delivered { s with sessions := dropSession s.sessions id } := by
  unfold Streaming.dropSession
  split
  · exact h
  next session found =>
  rw [if_pos ((h.paired _ _).mpr ⟨session, found, rfl⟩)]
  exact h.remove found

theorem unregister (h : Delivered s) {server : String} :
    Delivered (step (.unregister server) s) := by
  unfold step unregisterServer
  exact List.foldlRecOn (motive := fun sessions => Delivered { s with sessions }) _ _ h
    fun _ h id _ => h.dropSession id

theorem step (ev : Event Id Chunk) (s : Traffic Id Chunk) (fresh : Fresh ev s)
    (h : Delivered s) : Delivered (step ev s) := by
  cases ev with
  | register server client id => exact h.register fresh
  | append id chunk final => exact h.append
  | pop client => exact h.pop
  | unregister server => exact h.unregister

end Delivered

/-- Where ids are drawn once, an id belongs to one client, who fetches what was accepted for it in
order and up to what still waits. A session that was fetched to the end was fetched as a whole. -/
theorem chunks_delivered {events : List (Event Id Chunk)}
    (fresh : Schedules.Along step Fresh events noTraffic) :
    let s := Schedules.runs step events noTraffic
    (s.drawn.map Prod.fst).Nodup ∧
    (∀ id, ((s.fetched id).map Prod.snd).IsPrefix (s.accepted id) ∧
      ∀ x ∈ s.fetched id, (id, x.1) ∈ s.drawn) ∧
    (∀ id session, s.sessions.streamingSessions.get? id = some session →
      s.sessions.streamingSessionsByClient.get? session.clientPublicKey = some id ∧
      (s.fetched id).map Prod.snd ++ session.chunks = s.accepted id) ∧
    ∀ id ∈ s.finished, s.sessions.streamingSessions.get? id = none ∧
      (s.fetched id).map Prod.snd = s.accepted id := by
  have h := Schedules.along_runs Delivered.step fresh noTraffic_delivered
  exact ⟨h.once, fun id => ⟨h.front id, h.own id⟩,
    fun id session found => ⟨(h.paired _ _).mpr ⟨session, found, rfl⟩, h.whole id session found⟩,
    fun id mem => (h.ended id mem).2⟩

/-- Two clients, of whom the first replaces a session that was half fetched. -/
def twoStreams : List (Event ℕ String) :=
  [.register "x" "a" 0, .append 0 "t" false, .pop "a", .append 0 "u" false,
    .register "y" "b" 1, .register "y" "a" 2, .append 0 "v" false, .append 1 "w" true,
    .append 2 "z" false, .pop "b", .unregister "y"]

theorem chunks_delivered_sample :
    let s := Schedules.runs step twoStreams noTraffic
    s.fetched 0 = [("a", "t")] ∧ s.accepted 0 = ["t", "u"] ∧ s.finished = [1] ∧
      (s.fetched 1).map Prod.snd = s.accepted 1 := by
  have delivered := chunks_delivered (by decide : Schedules.Along step Fresh twoStreams noTraffic)
  exact ⟨by decide, by decide, by decide, (delivered.2.2.2 1 (by decide)).2⟩

end Streaming
