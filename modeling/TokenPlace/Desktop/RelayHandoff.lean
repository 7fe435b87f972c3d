import TokenPlace.Desktop.StopCleanup
import TokenPlace.Lib.FirstOccurrences

/-!
# The hand-off of the relay list

`normalize_relay_base_urls` of `config.rs`, the arguments that `start_compute_node` passes to the
bridge for its relays, and what `_normalize_relay_urls` of the bridge makes of them. What
`json.loads` gives, and which texts `argparse` does not take for an option, are those of the
Python library, so they are arguments.

Results:
1. `normalizeRelayBaseUrls_normal`: the list of the desktop keeps first occurrences, and is
   normal.
2. `relay_list_survives_iff`: the bridge reads the same list back exactly when each of its texts
   is read back as itself.
-/

namespace Operator

open FirstOccurrences

/-! ## The list of the desktop -/

/-- `char::is_whitespace`. -/
def isWhitespace (c : Char) : Bool :=
  let n := c.toNat
  (9 ≤ n && n ≤ 13) || n == 0x20 || n == 0x85 || n == 0xA0 || n == 0x1680 ||
    (0x2000 ≤ n && n ≤ 0x200A) || n == 0x2028 || n == 0x2029 || n == 0x202F || n == 0x205F ||
    n == 0x3000

/-- `str::trim`. -/
def trim (s : String) : String :=
  String.ofList ((s.toList.dropWhile isWhitespace).rdropWhile isWhitespace)

/-- `MAX_RELAY_BASE_URLS`. -/
def maxRelayBaseUrls : Nat := 10

/-- `DEFAULT_RELAY_BASE_URL`. -/
def defaultRelayBaseUrl : String := "https://token.place"

/-- The loop of `normalize_relay_base_urls`. -/
def pushRelayUrls : List String → List String → List String
  | [], normalized => normalized
  | relayUrl :: relayBaseUrls, normalized =>
    let trimmed := trim relayUrl
    if trimmed = "" ∨ trimmed ∈ normalized then pushRelayUrls relayBaseUrls normalized
    else if maxRelayBaseUrls ≤ (normalized ++ [trimmed]).length then normalized ++ [trimmed]
    else pushRelayUrls relayBaseUrls (normalized ++ [trimmed])

/-- `normalize_relay_base_urls`. -/
def normalizeRelayBaseUrls (relayBaseUrls : List String) (legacyRelayBaseUrl : String) :
    List String :=
  let normalized := pushRelayUrls relayBaseUrls []
  if normalized = [] then
    let legacy := trim legacyRelayBaseUrl
    [if legacy = "" then defaultRelayBaseUrl else legacy]
  else normalized

/-! ## The arguments of the bridge -/

/-- What the Python library does with the texts of a bridge: the items of the list that
`json.loads` gives, if it gives one, `none` for those that are no text, and which arguments
`argparse` takes for the value of an option. -/
structure PythonLibrary where
  loadsList : String → Option (List (Option String))
  isArgument : String → Bool

/-- Every text in a JSON array is shorter than the array. -/
def PythonLibrary.ItemsShorter (library : PythonLibrary) : Prop :=
  ∀ text items, library.loadsList text = some items →
    ∀ item, some item ∈ items → item.length < text.length

/-- `_expand_relay_url_candidate`. -/
def expandRelayUrlCandidate (library : PythonLibrary) (candidate : String) : List String :=
  let trimmed := stripText candidate
  if trimmed = "" then []
  else
    match if "[".toList <+: trimmed.toList then library.loadsList trimmed else none with
    | some items => items.filterMap id
    | none =>
      if ',' ∈ trimmed.toList then
        ((trimmed.toList.splitOn ',').map fun item => stripText (String.ofList item)).filter
          (· ≠ "")
      else [trimmed]

/-- The `--relay-url` arguments of the bridge, when it can be spawned with them: an argument
cannot hold a NUL. -/
def relayUrlArguments (relayBaseUrls : List String) : Option (List String) :=
  if ∀ url ∈ relayBaseUrls, '\x00' ∉ url.toList then
    some (relayBaseUrls.flatMap fun url => ["--relay-url", url])
  else none

/-- `parse_args` on these arguments: the `relay_url` that `action="append"` collects. -/
def parseRelayUrls (library : PythonLibrary) : List String → Option (List String)
  | [] => some []
  | [_] => none
  | flag :: value :: arguments =>
    if flag = "--relay-url" ∧ library.isArgument value then
      (parseRelayUrls library arguments).map (value :: ·)
    else none

/-- What `_normalize_relay_urls` gives in the bridge that is started for these relays. -/
def bridgeRelayUrls (library : PythonLibrary) (relayBaseUrls : List String) :
    Option (List String) :=
  ((relayUrlArguments relayBaseUrls).bind (parseRelayUrls library)).map fun relayUrl =>
    normalizeRelayUrls (relayUrl.flatMap (expandRelayUrlCandidate library))

/-! ## The list of the desktop is normal -/

variable {urls : List String}

/-- A list that needs no normalization. -/
structure NormalRelays (relays : List String) : Prop where
  nonempty : relays ≠ []
  nodup : relays.Nodup
  trimmed : ∀ url ∈ relays, url ≠ "" ∧ trim url = url
  capped : relays.length ≤ maxRelayBaseUrls

theorem stops_rdropWhile {p : Char → Bool} {s : List Char} (stops : Text.Stops p s) :
    Text.Stops p (s.rdropWhile p) := by
  obtain ⟨t, split⟩ := List.rdropWhile_prefix p (l := s)
  by_cases empty : s.rdropWhile p = []
  · rw [empty]
    exact Text.stops_nil
  · exact Text.Stops.of_append empty (by rwa [split])

theorem trim_trim (s : String) : trim (trim s) = trim s := by
  have front := stops_rdropWhile (Text.dropWhile_stops isWhitespace s.toList)
  have same : (trim s).toList.dropWhile isWhitespace = (trim s).toList := by
    rw [trim, String.toList_ofList]
    exact Text.dropWhile_append_of_stops (List.forall_mem_nil _) front
  rw [trim, String.toList_ofList] at same
  simp only [trim, String.toList_ofList, same, List.rdropWhile_idempotent]

theorem pushRelayUrls_eq (urls normalized : List String)
    (room : normalized.length < maxRelayBaseUrls) :
    pushRelayUrls urls normalized =
      (normalized ++ (((urls.map trim).filter (· ≠ "")).filter (· ∉ normalized)).eraseDups).take
        maxRelayBaseUrls := by
  induction urls generalizing normalized with
  | nil => simp [pushRelayUrls, List.take_of_length_le (Nat.le_of_lt room)]
  | cons url urls ih =>
    simp only [pushRelayUrls, List.map_cons]
    by_cases empty : trim url = ""
    · simp only [empty, true_or, if_true]
      rw [ih normalized room, List.filter_cons_of_neg (by simp)]
    · rw [List.filter_cons_of_pos (by simpa using empty)]
      by_cases seen : trim url ∈ normalized
      · rw [if_pos (.inr seen), ih normalized room, List.filter_cons_of_neg (by simpa using seen)]
      · rw [if_neg (by simp [empty, seen]), eraseDups_filter_cons seen]
        split
        · next full =>
          have length : (normalized ++ [trim url]).length = maxRelayBaseUrls := by
            simp at full ⊢
            omega
          rw [List.append_cons normalized (trim url) (List.eraseDups _), ← length, List.take_left]
        · next room' =>
          rw [ih _ (Nat.lt_of_not_le room'), List.append_assoc, List.singleton_append]

theorem pushRelayUrls_nil (urls : List String) :
    pushRelayUrls urls [] =
      (((urls.map trim).filter (· ≠ "")).eraseDups).take maxRelayBaseUrls := by
  rw [pushRelayUrls_eq urls [] (by decide), List.nil_append,
    List.filter_eq_self.mpr fun _ _ => by simp]

theorem normalizeRelayBaseUrls_normal (urls : List String) (legacy : String) :
    NormalRelays (normalizeRelayBaseUrls urls legacy) := by
  simp only [normalizeRelayBaseUrls]
  split
  · refine ⟨nofun, List.nodup_singleton _, ?_, Nat.le_add_left 1 9⟩
    intro url member
    obtain rfl := List.mem_singleton.mp member
    split
    · decide +kernel
    · next full => exact ⟨full, trim_trim legacy⟩
  · next full =>
    rw [pushRelayUrls_nil]
    refine ⟨by rwa [pushRelayUrls_nil] at full, ?_, ?_, List.length_take_le _ _⟩
    · exact (nodup_eraseDups _).sublist (List.take_sublist _ _)
    · intro url member
      have kept := List.mem_eraseDups.mp (List.mem_of_mem_take member)
      obtain ⟨mapped, full⟩ := List.mem_filter.mp kept
      obtain ⟨raw, -, rfl⟩ := List.mem_map.mp mapped
      exact ⟨by simpa using full, trim_trim raw⟩

variable {relays : List String}

theorem NormalRelays.fixed (normal : NormalRelays relays)
    (legacy : String) : normalizeRelayBaseUrls relays legacy = relays := by
  have same : relays.map trim = relays := by
    rw [List.map_congr_left fun url member => (normal.trimmed url member).2, List.map_id']
  have loop : pushRelayUrls relays [] = relays := by
    rw [pushRelayUrls_nil, same, List.filter_eq_self.mpr, eraseDups_of_nodup normal.nodup,
      List.take_of_length_le normal.capped]
    exact fun url member => by simpa using (normal.trimmed url member).1
  simp only [normalizeRelayBaseUrls, loop, if_neg normal.nonempty]

/-! ## What the bridge reads -/

theorem stripText_length_le (s : String) : (stripText s).length ≤ s.length := by
  simp only [stripText, ← String.length_toList, String.toList_ofList]
  exact ((List.rdropWhile_prefix _ _).length_le).trans (List.dropWhile_suffix _).length_le

theorem stripText_length_lt {s : String} (changed : stripText s ≠ s) :
    (stripText s).length < s.length := by
  refine Nat.lt_of_le_of_ne (stripText_length_le s) fun same => changed ?_
  have front : (Text.lstrip s.toList).length ≤ s.toList.length :=
    (List.dropWhile_suffix _).length_le
  have back : (Text.strip s.toList).length ≤ (Text.lstrip s.toList).length :=
    (List.rdropWhile_prefix _ _).length_le
  simp only [stripText, ← String.length_toList, String.toList_ofList] at same
  have hfront : Text.lstrip s.toList = s.toList :=
    (List.dropWhile_suffix _).eq_of_length (Nat.le_antisymm front (same ▸ back))
  have hback : Text.strip s.toList = Text.lstrip s.toList :=
    (List.rdropWhile_prefix _ _).eq_of_length (Nat.le_antisymm back (same ▸ front))
  rw [stripText, hback, hfront, String.ofList_toList]

theorem normalizeRelayUrls_eq (candidates : List String) :
    normalizeRelayUrls candidates =
      let normalized := ((candidates.map stripText).filter (· ≠ "")).eraseDups
      if normalized = [] then ["https://token.place"] else normalized := by
  have loop := foldl_push ((candidates.map stripText).filter (· ≠ "")) []
  rw [List.foldl_filter, List.foldl_map, List.nil_append,
    List.filter_eq_self.mpr fun _ _ => by simp] at loop
  have same_step : (fun (acc : List String) candidate =>
        let trimmed := stripText candidate
        if trimmed ≠ "" ∧ trimmed ∉ acc then acc ++ [trimmed] else acc) =
      fun acc candidate => if decide (stripText candidate ≠ "") = true then
        if stripText candidate ∉ acc then acc ++ [stripText candidate] else acc else acc := by
    funext acc candidate
    by_cases empty : stripText candidate = "" <;> simp [empty]
  simp only [normalizeRelayUrls, same_step, loop]

/-- A text that the bridge does not take for several. -/
structure Single (library : PythonLibrary) (url : String) : Prop where
  stripped : stripText url = url
  no_list : ¬ ("[".toList <+: url.toList ∧ (library.loadsList url).isSome)
  no_comma : ',' ∉ url.toList

instance (library : PythonLibrary) (url : String) : Decidable (Single library url) :=
  decidable_of_iff (stripText url = url ∧
      ¬ ("[".toList <+: url.toList ∧ (library.loadsList url).isSome) ∧ ',' ∉ url.toList)
    ⟨fun ⟨stripped, no_list, no_comma⟩ => ⟨stripped, no_list, no_comma⟩,
      fun ⟨stripped, no_list, no_comma⟩ => ⟨stripped, no_list, no_comma⟩⟩

theorem splitOn_length (s : List Char) :
    ∀ part ∈ s.splitOn ',', part.length ≤ s.length ∧ (',' ∈ s → part.length < s.length) := by
  induction s with
  | nil => simp [List.splitOn_nil]
  | cons c s ih =>
    intro part member
    rw [List.splitOn, List.splitOnP_cons_eq_if_modifyHead] at member
    split at member
    · obtain rfl | member := List.mem_cons.mp member
      · simp
      · have := (ih part member).1
        simp only [List.length_cons]
        omega
    · next other =>
      have comma : ',' ∈ c :: s → ',' ∈ s := by
        intro h
        exact (List.mem_cons.mp h).resolve_left fun same => other (by simp [← same])
      cases parts : s.splitOnP (· == ',') with
      | nil => simp [parts] at member
      | cons first rest =>
        rw [parts, List.modifyHead_cons] at member
        obtain rfl | member := List.mem_cons.mp member
        · have := ih first (by rw [List.splitOn, parts]; exact List.mem_cons_self)
          simp only [List.length_cons]
          exact ⟨by omega, fun h => by have := this.2 (comma h); omega⟩
        · have := ih part (by rw [List.splitOn, parts]; exact List.mem_cons_of_mem _ member)
          simp only [List.length_cons]
          exact ⟨by omega, fun h => by have := this.2 (comma h); omega⟩

variable {library : PythonLibrary} {url candidate : String}

theorem expand_single (single : Single library url) (full : url ≠ "") :
    expandRelayUrlCandidate library url = [url] := by
  have no_list : (if "[".toList <+: url.toList then library.loadsList url else none) = none := by
    split
    · next opens =>
      exact Option.not_isSome_iff_eq_none.mp fun loaded => single.no_list ⟨opens, loaded⟩
    · rfl
  simp only [expandRelayUrlCandidate, single.stripped, if_neg full, no_list,
    if_neg single.no_comma]

theorem expand_shorter (shorter : library.ItemsShorter) (several : ¬ Single library url)
    (member : candidate ∈ expandRelayUrlCandidate library url) : candidate.length < url.length := by
  have trimmed := stripText_length_le url
  simp only [expandRelayUrlCandidate] at member
  split at member
  · simp at member
  · split at member
    · next items loaded =>
      obtain ⟨item, member, hitem⟩ := List.mem_filterMap.mp member
      split at loaded
      · obtain rfl : item = some candidate := hitem
        exact Nat.lt_of_lt_of_le (shorter _ items loaded candidate member) trimmed
      · simp at loaded
    · next no_list =>
      split at member
      · next comma =>
        obtain ⟨mapped, -⟩ := List.mem_filter.mp member
        obtain ⟨part, hpart, rfl⟩ := List.mem_map.mp mapped
        have := (splitOn_length _ part hpart).2 comma
        have := stripText_length_le (String.ofList part)
        simp only [String.length_ofList, String.length_toList] at *
        omega
      · next no_comma =>
        obtain rfl := List.mem_singleton.mp member
        refine stripText_length_lt fun same => several ⟨same, ?_, by rwa [same] at no_comma⟩
        rintro ⟨opens, loaded⟩
        rw [same, if_pos opens] at no_list
        simp [no_list] at loaded

theorem single_default (library : PythonLibrary) : Single library "https://token.place" where
  stripped := by decide +kernel
  no_list read := absurd read.1 (by decide +kernel)
  no_comma := by decide +kernel

/-- A text of the list that is taken for several can only come out of a longer one. -/
theorem exists_longer (shorter : library.ItemsShorter) (normal : NormalRelays relays)
    (same : normalizeRelayUrls (relays.flatMap (expandRelayUrlCandidate library)) = relays)
    (member : url ∈ relays) (several : ¬ Single library url) :
    ∃ longer ∈ relays, ¬ Single library longer ∧ url.length < longer.length := by
  rw [← same, normalizeRelayUrls_eq] at member
  simp only at member
  split at member
  · obtain rfl := List.mem_singleton.mp member
    exact absurd (single_default library) several
  · obtain ⟨mapped, -⟩ := List.mem_filter.mp (List.mem_eraseDups.mp member)
    obtain ⟨candidate, expanded, rfl⟩ := List.mem_map.mp mapped
    obtain ⟨longer, hlonger, expanded⟩ := List.mem_flatMap.mp expanded
    have several' : ¬ Single library longer := by
      intro single
      rw [expand_single single (normal.trimmed longer hlonger).1] at expanded
      obtain rfl := List.mem_singleton.mp expanded
      exact several (single.stripped.symm ▸ single)
    exact ⟨longer, hlonger, several', Nat.lt_of_le_of_lt (stripText_length_le candidate)
      (expand_shorter shorter several' expanded)⟩

/-- The bridge reads a normal list back exactly when it takes none of its texts for several. -/
theorem normalizeRelayUrls_expand_iff (shorter : library.ItemsShorter)
    (normal : NormalRelays relays) :
    normalizeRelayUrls (relays.flatMap (expandRelayUrlCandidate library)) = relays ↔
      ∀ url ∈ relays, Single library url := by
  constructor
  · -- The longest of the texts that are taken for several has no place to come from.
    classical
    intro same
    by_contra some_several
    obtain ⟨url, member, several⟩ : ∃ url ∈ relays, ¬ Single library url := by
      simpa using some_several
    obtain ⟨longest, found, longest_le⟩ := Finset.exists_max_image
      (relays.toFinset.filter fun url => ¬ Single library url) String.length
      ⟨url, by simp [member, several]⟩
    simp only [Finset.mem_filter, List.mem_toFinset] at found longest_le
    obtain ⟨longer, hlonger, several', lt⟩ := exists_longer shorter normal same found.1 found.2
    exact absurd (longest_le longer ⟨hlonger, several'⟩) (Nat.not_le_of_lt lt)
  · intro single
    have expanded : relays.flatMap (expandRelayUrlCandidate library) = relays := by
      rw [List.flatMap_congr fun url member =>
        expand_single (single url member) (normal.trimmed url member).1]
      simp
    have stripped : relays.map stripText = relays := by
      rw [List.map_congr_left fun url member => (single url member).stripped, List.map_id']
    have full : relays.filter (· ≠ "") = relays :=
      List.filter_eq_self.mpr fun url member => by simpa using (normal.trimmed url member).1
    simp only [normalizeRelayUrls_eq, expanded, stripped, full, eraseDups_of_nodup normal.nodup,
      if_neg normal.nonempty]

/-! ## The hand-off -/

theorem parseRelayUrls_arguments (library : PythonLibrary) (relays : List String) :
    parseRelayUrls library (relays.flatMap fun url => ["--relay-url", url]) =
      if ∀ url ∈ relays, library.isArgument url then some relays else none := by
  induction relays with
  | nil => rfl
  | cons url relays ih =>
    simp only [List.flatMap_cons, List.cons_append, List.nil_append, parseRelayUrls, true_and, ih,
      List.forall_mem_cons]
    by_cases argument : library.isArgument url <;>
      by_cases rest : ∀ url ∈ relays, library.isArgument url <;> simp [argument, rest]

/-- A text that reaches the bridge, and that the bridge does not take for several. -/
structure ReadBack (library : PythonLibrary) (url : String) : Prop where
  no_nul : '\x00' ∉ url.toList
  argument : library.isArgument url
  single : Single library url

instance (library : PythonLibrary) (url : String) : Decidable (ReadBack library url) :=
  decidable_of_iff ('\x00' ∉ url.toList ∧ library.isArgument url ∧ Single library url)
    ⟨fun ⟨no_nul, argument, single⟩ => ⟨no_nul, argument, single⟩,
      fun ⟨no_nul, argument, single⟩ => ⟨no_nul, argument, single⟩⟩

theorem bridgeRelayUrls_iff (shorter : library.ItemsShorter) (normal : NormalRelays relays) :
    bridgeRelayUrls library relays = some relays ↔ ∀ url ∈ relays, ReadBack library url := by
  simp only [bridgeRelayUrls, relayUrlArguments]
  constructor
  · intro same
    split at same
    · next no_nul =>
      rw [Option.bind_some, parseRelayUrls_arguments] at same
      split at same
      · next argument =>
        have single := (normalizeRelayUrls_expand_iff shorter normal).mp (Option.some_inj.mp same)
        exact fun url member => ⟨no_nul url member, argument url member, single url member⟩
      · simp at same
    · simp at same
  · intro read
    rw [if_pos fun url member => (read url member).no_nul, Option.bind_some,
      parseRelayUrls_arguments, if_pos fun url member => (read url member).argument,
      Option.map_some,
      (normalizeRelayUrls_expand_iff shorter normal).mpr fun url member => (read url member).single]

/-- A library for texts that are no JSON arrays. -/
def plainLibrary : PythonLibrary where
  loadsList _ := none
  isArgument text := !"-".toList.isPrefixOf text.toList

end Operator
