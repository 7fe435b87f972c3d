import TokenPlace.Node.Output

/-!
# Think tags and empty think wrappers

The texts that the two patterns match, and how they behave when texts are joined: a tag stays a
tag where no word continues, and nothing without its last letter can complete one. The loop that
strips the wrappers in front strips exactly those.
-/

namespace ComputeNode

/-! ## What the patterns match -/

open Text (Spaces Stops EndsTrimmed)

variable {isWord : Char → Bool}

/-- The word `think` in any letter case. -/
def IsThink (t : List Char) : Prop := List.Forall₂ (fun c cls => c ∈ cls) t thinkLetters

/-- An empty think wrapper. -/
def IsEmptyThinkWrapper (w : List Char) : Prop :=
  ∃ s₁ t₁ s₂ s₃ s₄ s₅ t₂ s₆, Spaces s₁ ∧ IsThink t₁ ∧ Spaces s₂ ∧ Spaces s₃ ∧ Spaces s₄ ∧
    Spaces s₅ ∧ IsThink t₂ ∧ Spaces s₆ ∧
    w = '<' :: (s₁ ++ (t₁ ++ (s₂ ++ '>' :: (s₃ ++ '<' :: (s₄ ++ '/' :: (s₅ ++ (t₂ ++
      (s₆ ++ ['>'])))))))) 

variable (isWord) in
/-- A text that begins with an opening or a closing think tag. -/
def BeginsThinkTag (s : List Char) : Prop :=
  ∃ s₁ slash s₂ t r, Spaces s₁ ∧ (slash = [] ∨ slash = ['/']) ∧ Spaces s₂ ∧ IsThink t ∧
    s = '<' :: (s₁ ++ (slash ++ (s₂ ++ (t ++ r)))) ∧ Stops isWord r

theorem letters_eq_some {classes : List (List Char)} {s rest : List Char} :
    letters classes s = some rest ↔
      ∃ w, List.Forall₂ (fun c cls => c ∈ cls) w classes ∧ s = w ++ rest := by
  induction classes generalizing s with
  | nil =>
    constructor
    · rintro ⟨⟩
      exact ⟨[], .nil, rfl⟩
    · rintro ⟨w, all, rfl⟩
      cases all
      rfl
  | cons cls classes ih =>
    cases s with
    | nil =>
      constructor
      · nofun
      · rintro ⟨w, all, split⟩
        cases all
        cases split
    | cons c s =>
      simp only [letters]
      constructor
      · intro matched
        split at matched
        · next member =>
          obtain ⟨w, all, rfl⟩ := ih.mp matched
          exact ⟨c :: w, .cons member all, rfl⟩
        · cases matched
      · rintro ⟨w, all, split⟩
        cases all with
        | cons member all =>
          obtain ⟨rfl, rfl⟩ := List.cons.inj split
          rw [if_pos member]
          exact ih.mpr ⟨_, all, rfl⟩

theorem letters_append {t s : List Char} (think : IsThink t) :
    letters thinkLetters (t ++ s) = some s := letters_eq_some.mpr ⟨t, think, rfl⟩

theorem IsThink.ends {t : List Char} (think : IsThink t) :
    (∃ c t', t = c :: t' ∧ c ∈ ['t', 'T']) ∧ ∃ t' c, t = t' ++ [c] ∧ c ∈ ['k', 'K', '\u212a'] := by
  unfold IsThink thinkLetters at think
  cases think with
  | @cons c₁ _ _ _ first think =>
  cases think with
  | @cons c₂ _ _ _ _ think =>
  cases think with
  | @cons c₃ _ _ _ _ think =>
  cases think with
  | @cons c₄ _ _ _ _ think =>
  cases think with
  | @cons c₅ _ _ _ last think =>
  cases think
  exact ⟨⟨c₁, _, rfl, first⟩, [c₁, c₂, c₃, c₄], c₅, rfl, last⟩

theorem IsThink.stops {t s : List Char} (think : IsThink t) : Stops Text.isSpace (t ++ s) := by
  obtain ⟨c, t', rfl, letter⟩ := think.ends.1
  refine Text.stops_cons.mpr ?_
  simp only [List.mem_cons, List.not_mem_nil, or_false] at letter
  obtain rfl | rfl := letter <;> decide

theorem lstrip_spaces_cons {s t : List Char} {c : Char} (spaces : Spaces s)
    (solid : Text.isSpace c = false) : Text.lstrip (s ++ c :: t) = c :: t :=
  Text.lstrip_append spaces (Text.stops_cons.mpr solid)

theorem letters_lstrip {s t rest : List Char} (spaces : Spaces s) (think : IsThink t) :
    letters thinkLetters (Text.lstrip (s ++ (t ++ rest))) = some rest := by
  rw [Text.lstrip_append spaces think.stops, letters_append think]

theorem emptyThinkWrapper_eq_some {s rest : List Char} :
    emptyThinkWrapper s = some rest ↔ ∃ w, IsEmptyThinkWrapper w ∧ s = w ++ rest := by
  simp only [emptyThinkWrapper, Option.bind_eq_bind, Option.bind_eq_some_iff,
    Text.literal_eq_some]
  constructor
  · rintro ⟨r₁, rfl, r₂, first, r₃, h₃, r₄, h₄, r₅, h₅, r₆, second, h₆⟩
    obtain ⟨s₁, spaces₁, e₁, _⟩ := Text.lstrip_eq r₁
    obtain ⟨s₂, spaces₂, e₂, _⟩ := Text.lstrip_eq r₂
    obtain ⟨s₃, spaces₃, e₃, _⟩ := Text.lstrip_eq r₃
    obtain ⟨s₄, spaces₄, e₄, _⟩ := Text.lstrip_eq r₄
    obtain ⟨s₅, spaces₅, e₅, _⟩ := Text.lstrip_eq r₅
    obtain ⟨s₆, spaces₆, e₆, _⟩ := Text.lstrip_eq r₆
    obtain ⟨t₁, think₁, f₁⟩ := letters_eq_some.mp first
    obtain ⟨t₂, think₂, f₂⟩ := letters_eq_some.mp second
    refine ⟨_, ⟨s₁, t₁, s₂, s₃, s₄, s₅, t₂, s₆, spaces₁, think₁, spaces₂, spaces₃, spaces₄,
      spaces₅, think₂, spaces₆, rfl⟩, ?_⟩
    rw [e₁, f₁, e₂, h₃, e₃, h₄, e₄, h₅, e₅, f₂, e₆, h₆]
    simp only [List.cons_append, List.nil_append, List.append_assoc]
  · rintro ⟨w, ⟨s₁, t₁, s₂, s₃, s₄, s₅, t₂, s₆, spaces₁, think₁, spaces₂, spaces₃, spaces₄,
      spaces₅, think₂, spaces₆, rfl⟩, rfl⟩
    simp only [List.cons_append, List.append_assoc, List.nil_append]
    exact ⟨_, rfl, _, letters_lstrip spaces₁ think₁, _,
      lstrip_spaces_cons spaces₂ (by decide), _, lstrip_spaces_cons spaces₃ (by decide), _,
      lstrip_spaces_cons spaces₄ (by decide), _, letters_lstrip spaces₅ think₂,
      lstrip_spaces_cons spaces₆ (by decide)⟩

theorem optionalSlash_eq (s : List Char) :
    ∃ slash, (slash = [] ∨ slash = ['/']) ∧ s = slash ++ optionalSlash s := by
  unfold optionalSlash
  split
  · exact ⟨['/'], .inr rfl, rfl⟩
  · exact ⟨[], .inl rfl, rfl⟩

theorem optionalSlash_think {t rest : List Char} (think : IsThink t) :
    optionalSlash (t ++ rest) = t ++ rest := by
  obtain ⟨c, t', rfl, letter⟩ := think.ends.1
  simp only [List.mem_cons, List.not_mem_nil, or_false] at letter
  obtain rfl | rfl := letter <;> rfl

theorem thinkTagAt_iff {s : List Char} : thinkTagAt isWord s ↔ BeginsThinkTag isWord s := by
  unfold thinkTagAt BeginsThinkTag
  constructor
  · intro tagged
    split at tagged
    · cases tagged
    · next r₁ opened =>
      rw [Text.literal_eq_some] at opened
      subst opened
      obtain ⟨s₁, spaces₁, e₁, _⟩ := Text.lstrip_eq r₁
      obtain ⟨slash, isSlash, e₂⟩ := optionalSlash_eq (Text.lstrip r₁)
      obtain ⟨s₂, spaces₂, e₃, _⟩ := Text.lstrip_eq (optionalSlash (Text.lstrip r₁))
      split at tagged
      · cases tagged
      · next matched =>
        obtain ⟨t, think, e₄⟩ := letters_eq_some.mp matched
        refine ⟨s₁, slash, s₂, t, [], spaces₁, isSlash, spaces₂, think, ?_, Text.stops_nil⟩
        rw [← e₄, ← e₃, ← e₂, ← e₁]
        rfl
      · next c r matched =>
        obtain ⟨t, think, e₄⟩ := letters_eq_some.mp matched
        refine ⟨s₁, slash, s₂, t, c :: r, spaces₁, isSlash, spaces₂, think, ?_, ?_⟩
        · rw [← e₄, ← e₃, ← e₂, ← e₁]
          rfl
        · exact Text.stops_cons.mpr (by simpa using tagged)
  · rintro ⟨s₁, slash, s₂, t, r, spaces₁, isSlash, spaces₂, think, rfl, ends⟩
    have found : letters thinkLetters
        (Text.lstrip (optionalSlash (Text.lstrip (s₁ ++ (slash ++ (s₂ ++ (t ++ r))))))) =
          some r := by
      obtain rfl | rfl := isSlash
      · rw [List.nil_append, ← List.append_assoc,
          Text.lstrip_append (spaces₁.append spaces₂) think.stops, optionalSlash_think think,
          Text.lstrip_of_stops think.stops, letters_append think]
      · rw [List.cons_append, lstrip_spaces_cons spaces₁ (by decide)]
        exact letters_lstrip spaces₂ think
    simp only [Text.literal, if_true, found]
    cases r with
    | nil => rfl
    | cons c r => simpa using Text.stops_cons.mp ends

/-! ## Tags in a text -/

theorem hasThinkTag_iff {s : List Char} :
    hasThinkTag isWord s ↔ ∃ b, b <:+ s ∧ BeginsThinkTag isWord b := by
  induction s with
  | nil =>
    constructor
    · nofun
    · rintro ⟨b, suffix, s₁, slash, s₂, t, r, _, _, _, _, rfl, _⟩
      cases List.suffix_nil.mp suffix
  | cons c s ih =>
    simp only [hasThinkTag, Bool.or_eq_true, ih, thinkTagAt_iff, List.suffix_cons_iff]
    constructor
    · rintro (here | ⟨b, suffix, begins⟩)
      · exact ⟨_, .inl rfl, here⟩
      · exact ⟨b, .inr suffix, begins⟩
    · rintro ⟨b, rfl | suffix, begins⟩
      · exact .inl begins
      · exact .inr ⟨b, suffix, begins⟩

theorem hasThinkTag_append {s t : List Char} (ends : Stops isWord t)
    (tagged : hasThinkTag isWord s) : hasThinkTag isWord (s ++ t) := by
  obtain ⟨b, ⟨pre, rfl⟩, s₁, slash, s₂, w, r, spaces₁, isSlash, spaces₂, think, rfl, ends'⟩ :=
    hasThinkTag_iff.mp tagged
  refine hasThinkTag_iff.mpr ⟨_, ⟨pre, (List.append_assoc ..).symm⟩, s₁, slash, s₂, w, r ++ t,
    spaces₁, isSlash, spaces₂, think, ?_, ?_⟩
  · simp only [List.cons_append, List.append_assoc]
  · cases r with
    | nil => exact ends
    | cons c r => exact ends'

/-- What is appended cannot complete a tag if it does not have its last letter. -/
theorem hasThinkTag_of_append {s t : List Char}
    (letterless : ∀ c ∈ t, c ∉ ['k', 'K', '\u212a']) (tagged : hasThinkTag isWord (s ++ t)) :
    hasThinkTag isWord s := by
  obtain ⟨b, ⟨pre, split⟩, s₁, slash, s₂, w, r, spaces₁, isSlash, spaces₂, think, rfl, ends⟩ :=
    hasThinkTag_iff.mp tagged
  obtain ⟨w', k, rfl, last⟩ := think.ends.2
  obtain ⟨mid, rfl, inside⟩ | ⟨mid, rfl, inside⟩ := List.append_eq_append_iff.mp split
  · have regroup : '<' :: (s₁ ++ (slash ++ (s₂ ++ (w' ++ [k] ++ r)))) =
        ('<' :: (s₁ ++ (slash ++ (s₂ ++ w'))) ++ [k]) ++ r := by
      simp only [List.cons_append, List.append_assoc]
    rw [regroup] at inside
    obtain ⟨m, same, rest⟩ | ⟨m, same, rest⟩ := List.append_eq_append_iff.mp inside
    · refine hasThinkTag_iff.mpr ⟨mid, ⟨pre, rfl⟩, s₁, slash, s₂, w' ++ [k], m, spaces₁, isSlash,
        spaces₂, think, ?_, ?_⟩
      · rw [same]
        simp only [List.cons_append, List.append_assoc]
      · cases m with
        | nil => exact Text.stops_nil
        | cons c m =>
          rw [rest] at ends
          exact ends
    · obtain rfl | ⟨m, k', rfl⟩ := m.eq_nil_or_concat
      · refine hasThinkTag_iff.mpr ⟨mid, ⟨pre, rfl⟩, s₁, slash, s₂, w' ++ [k], [], spaces₁,
          isSlash, spaces₂, think, ?_, Text.stops_nil⟩
        rw [List.append_nil] at same
        rw [← same]
        simp only [List.cons_append, List.append_assoc, List.append_nil]
      · rw [List.concat_eq_append, ← List.append_assoc mid] at same
        have tails : [k] = [k'] := List.append_inj_right' same rfl
        cases tails
        have member : k ∈ t := by
          rw [rest]
          simp
        exact absurd last (letterless k member)
  · have member : k ∈ t := by
      rw [inside]
      simp
    exact absurd last (letterless k member)

theorem IsEmptyThinkWrapper.beginsThinkTag {w rest : List Char} (angle : isWord '>' = false)
    (space : ∀ c, Text.isSpace c → isWord c = false) (wrapper : IsEmptyThinkWrapper w) :
    BeginsThinkTag isWord (w ++ rest) := by
  obtain ⟨s₁, t₁, s₂, s₃, s₄, s₅, t₂, s₆, spaces₁, think₁, spaces₂, _, _, _, _, _, rfl⟩ := wrapper
  refine ⟨s₁, [], [], t₁,
    s₂ ++ '>' :: (s₃ ++ '<' :: (s₄ ++ '/' :: (s₅ ++ (t₂ ++ (s₆ ++ '>' :: rest))))),
    spaces₁, .inl rfl, Text.spaces_nil, think₁, ?_, ?_⟩
  · simp only [List.cons_append, List.append_assoc, List.nil_append]
  · cases s₂ with
    | nil => exact Text.stops_cons.mpr angle
    | cons c s₂ => exact Text.stops_cons.mpr (space c (spaces₂ c List.mem_cons_self))

/-! ## The wrappers in front -/

/-- Empty think wrappers, each with the whitespace after it. -/
inductive ThinkWrappers : List Char → Prop
  | nil : ThinkWrappers []
  | cons {w s rest : List Char} (wrapper : IsEmptyThinkWrapper w) (spaces : Spaces s)
    (more : ThinkWrappers rest) : ThinkWrappers (w ++ (s ++ rest))

theorem stripThinkWrappers_none {s : List Char} {stripped : Bool}
    (done : emptyThinkWrapper s = none) :
    stripThinkWrappers s stripped = (s, stripped) := by
  rw [stripThinkWrappers]
  split
  · rfl
  · next matched =>
    rw [done] at matched
    cases matched

theorem stripThinkWrappers_some {s rest : List Char} {stripped : Bool}
    (found : emptyThinkWrapper s = some rest) :
    stripThinkWrappers s stripped = stripThinkWrappers (Text.lstrip rest) true := by
  rw [stripThinkWrappers]
  split
  · next matched =>
    rw [found] at matched
    cases matched
  · next matched =>
    rw [found] at matched
    cases matched
    rfl

theorem IsEmptyThinkWrapper.stops {w rest : List Char} (wrapper : IsEmptyThinkWrapper w) :
    Stops Text.isSpace (w ++ rest) := by
  obtain ⟨_, _, _, _, _, _, _, _, _, _, _, _, _, _, _, _, rfl⟩ := wrapper
  exact Text.stops_cons.mpr (by decide)

theorem ThinkWrappers.stops {run rest : List Char} (wrappers : ThinkWrappers run)
    (stops : Stops Text.isSpace rest) : Stops Text.isSpace (run ++ rest) := by
  cases wrappers with
  | nil => exact stops
  | cons wrapper _ _ =>
    rw [List.append_assoc]
    exact wrapper.stops

theorem stripThinkWrappers_spec (s : List Char) (stripped : Bool) (stops : Stops Text.isSpace s) :
    ∃ run, ThinkWrappers run ∧ s = run ++ (stripThinkWrappers s stripped).1 ∧
      Stops Text.isSpace (stripThinkWrappers s stripped).1 := by
  induction s, stripped using stripThinkWrappers.induct with
  | case1 s stripped done =>
    rw [stripThinkWrappers_none done]
    exact ⟨[], .nil, rfl, stops⟩
  | case2 s stripped rest found ih =>
    rw [stripThinkWrappers_some found]
    obtain ⟨w, wrapper, rfl⟩ := emptyThinkWrapper_eq_some.mp found
    obtain ⟨sp, spaces, split, starts⟩ := Text.lstrip_eq rest
    obtain ⟨run, wrappers, left, ends⟩ := ih starts
    refine ⟨w ++ (sp ++ run), .cons wrapper spaces wrappers, ?_, ends⟩
    rw [List.append_assoc, List.append_assoc, ← left, ← split]

theorem stripThinkWrappers_append {run rest : List Char} (wrappers : ThinkWrappers run)
    (done : emptyThinkWrapper rest = none) (stops : Stops Text.isSpace rest) (stripped : Bool) :
    (stripThinkWrappers (run ++ rest) stripped).1 = rest := by
  induction wrappers generalizing stripped with
  | nil => rw [List.nil_append, stripThinkWrappers_none done]
  | @cons w s run wrapper spaces more ih =>
    have found : emptyThinkWrapper (w ++ (s ++ run) ++ rest) = some (s ++ (run ++ rest)) :=
      emptyThinkWrapper_eq_some.mpr ⟨w, wrapper, by simp only [List.append_assoc]⟩
    rw [stripThinkWrappers_some found, Text.lstrip_append spaces (more.stops stops)]
    exact ih true

end ComputeNode
