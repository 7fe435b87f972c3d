import TokenPlace.Worker.PlainCompletion

/-!
# Two filters for think tags

What the filter of the relay client makes of a text, as a function of the text, and what the
filter of the worker leaves of it. The worker takes one exact empty wrapper off and knows no other
spelling of a tag than the exact ones.

Results:
1. `filtered_by_worker`: a text that went through the worker gives what it gives without, if no
   exact tag is left in it behind one exact wrapper, with one more end marker taken off.
-/

namespace PlainCompletion

open Text (Spaces Stops EndsTrimmed)
open ComputeNode

/-! ## The filter of the relay client -/

/-- What is left of a text without the wrappers in front and the whitespace around. -/
def core (s : List Char) : List Char :=
  Text.strip (stripThinkWrappers (Text.lstrip s) false).1

/-- The content that the filter of the relay client accepts. -/
def accepted (isWord : Char → Bool) (s : List Char) : Option (List Char) :=
  if core s = [] then none
  else if hasThinkTag isWord (core s) then none
  else if dropImEnd (core s) = [] then none
  else some (dropImEnd (core s))

variable {isWord : Char → Bool} {s t w b run : List Char}

theorem normalizeQwen_eq {profile : Json} (required : qwenNonThinkingRequired profile = true)
    (raw : String) :
    (normalizeQwenNonThinkingContent isWord profile (.string raw)).toOption =
      (accepted isWord raw.toList).map String.ofList := by
  have folded : Text.strip (stripThinkWrappers (Text.lstrip raw.toList) false).1 =
      core raw.toList := rfl
  simp only [normalizeQwenNonThinkingContent, required, Bool.not_true, Bool.false_eq_true,
    if_false, folded, accepted]
  split
  · rfl
  · split
    · rfl
    · split <;> rfl

theorem stripThinkWrappers_flag (s : List Char) (flag flag' : Bool) :
    (stripThinkWrappers s flag).1 = (stripThinkWrappers s flag').1 := by
  cases found : emptyThinkWrapper s with
  | none => rw [stripThinkWrappers_none found, stripThinkWrappers_none found]
  | some rest => rw [stripThinkWrappers_some found, stripThinkWrappers_some found]

theorem stripThinkWrappers_done (s : List Char) (flag : Bool) :
    emptyThinkWrapper (stripThinkWrappers s flag).1 = none := by
  induction s, flag using stripThinkWrappers.induct with
  | case1 s flag done => rwa [stripThinkWrappers_none done]
  | case2 s flag rest found ih => rwa [stripThinkWrappers_some found]

theorem core_spaces (spaces : Spaces w) : core (w ++ s) = core s := by
  unfold core Text.lstrip
  rw [List.dropWhile_append_of_pos spaces]

theorem core_wrapper (wrapper : IsEmptyThinkWrapper w) : core (w ++ s) = core s := by
  unfold core
  rw [Text.lstrip_of_stops wrapper.stops,
    stripThinkWrappers_some (emptyThinkWrapper_eq_some.mpr ⟨w, wrapper, rfl⟩),
    stripThinkWrappers_flag _ true false]

theorem core_wrappers (wrappers : ThinkWrappers run) : core (run ++ s) = core s := by
  induction wrappers with
  | nil => rfl
  | cons wrapper spaces _ ih =>
    rw [List.append_assoc, List.append_assoc, core_wrapper wrapper, core_spaces spaces, ih]

theorem core_of_done (starts : Stops Text.isSpace s) (done : emptyThinkWrapper s = none) :
    core s = Text.rstrip s := by
  unfold core
  rw [Text.lstrip_of_stops starts, stripThinkWrappers_none done, Text.strip,
    Text.lstrip_of_stops starts]

theorem core_of_spaces (spaces : Spaces s) : core s = [] := by
  have := core_spaces (s := []) spaces
  rw [List.append_nil] at this
  rw [this, core_of_done Text.stops_nil (by decide +kernel)]
  rfl

/-! ## Where a wrapper ends -/

theorem IsEmptyThinkWrapper.last (wrapper : IsEmptyThinkWrapper w) : ∃ pre, w = pre ++ ['>'] := by
  obtain ⟨s₁, t₁, s₂, s₃, s₄, s₅, t₂, s₆, _, _, _, _, _, _, _, _, rfl⟩ := wrapper
  exact ⟨'<' :: (s₁ ++ (t₁ ++ (s₂ ++ '>' :: (s₃ ++ '<' :: (s₄ ++ '/' :: (s₅ ++ (t₂ ++ s₆))))))),
    by simp only [List.cons_append, List.append_assoc]⟩

theorem IsThink.no_bar (think : IsThink t) : '|' ∉ t := by
  have none : ∀ cls ∈ thinkLetters, '|' ∉ cls := by decide
  unfold IsThink at think
  generalize thinkLetters = classes at think none
  induction think with
  | nil => nofun
  | cons letter _ ih =>
    rw [List.mem_cons, not_or]
    refine ⟨?_, ih fun cls member => none cls (List.mem_cons_of_mem _ member)⟩
    rintro rfl
    exact none _ List.mem_cons_self letter

theorem IsEmptyThinkWrapper.no_bar (wrapper : IsEmptyThinkWrapper w) : '|' ∉ w := by
  obtain ⟨s₁, t₁, s₂, s₃, s₄, s₅, t₂, s₆, spaces₁, think₁, spaces₂, spaces₃, spaces₄, spaces₅,
    think₂, spaces₆, rfl⟩ := wrapper
  have space : ∀ {s}, Spaces s → '|' ∉ s := fun spaces member =>
    absurd (spaces _ member) (by decide)
  simp only [List.mem_cons, List.mem_append, List.not_mem_nil, or_false, space spaces₁,
    space spaces₂, space spaces₃, space spaces₄, space spaces₅, space spaces₆,
    IsThink.no_bar think₁, IsThink.no_bar think₂, false_or]
  decide

/-- A text that cannot complete a wrapper: whatever part of it comes first, with a `>` at its end,
has a `|` before that. -/
def Incomplete (t : List Char) : Prop :=
  ∀ pre rest, t = pre ++ ['>'] ++ rest → '|' ∈ pre

theorem incomplete_of_spaces (spaces : Spaces t) : Incomplete t := by
  rintro pre rest rfl
  exact absurd (spaces '>' (by simp)) (by decide)

theorem incomplete_marker (spaces : Spaces t) : Incomplete (t ++ imEnd) := by
  intro pre rest split
  have marked : t ++ imEnd = (t ++ "<|im_end|".toList) ++ ['>'] := by
    rw [List.append_assoc]
    rfl
  rw [marked, List.append_assoc pre] at split
  obtain ⟨mid, whole, _⟩ | ⟨mid, whole, tail⟩ := List.append_eq_append_iff.mp split
  · rw [whole]
    simp
  · cases mid with
    | nil =>
      rw [List.append_nil] at whole
      rw [← whole]
      simp
    | cons c mid =>
      obtain rfl : '>' = c := (List.cons.inj tail).1
      have member : '>' ∈ t ++ "<|im_end|".toList := by rw [whole]; simp
      obtain inT | inMarker := List.mem_append.mp member
      · exact absurd (spaces '>' inT) (by decide)
      · exact absurd inMarker (by decide)

/-- Such a text after one without a wrapper in front makes none. -/
theorem done_append (incomplete : Incomplete t) (done : emptyThinkWrapper s = none) :
    emptyThinkWrapper (s ++ t) = none := by
  refine Option.eq_none_iff_forall_ne_some.mpr fun rest found => ?_
  obtain ⟨w, wrapper, split⟩ := emptyThinkWrapper_eq_some.mp found
  obtain ⟨mid, rfl, tail⟩ | ⟨mid, rfl, _⟩ := List.append_eq_append_iff.mp split
  · obtain rfl | ⟨front, c, rfl⟩ := mid.eq_nil_or_concat
    · rw [List.append_nil] at wrapper
      rw [emptyThinkWrapper_eq_some.mpr ⟨s, wrapper, (List.append_nil s).symm⟩] at done
      cases done
    · rw [List.concat_eq_append] at wrapper tail
      obtain ⟨pre, same⟩ := IsEmptyThinkWrapper.last wrapper
      rw [← List.append_assoc] at same
      obtain ⟨_, last⟩ := List.append_inj' same rfl
      cases last
      refine IsEmptyThinkWrapper.no_bar wrapper ?_
      simp [incomplete front rest tail]
  · rw [emptyThinkWrapper_eq_some.mpr ⟨w, wrapper, rfl⟩] at done
    cases done

theorem done_of_append (done : emptyThinkWrapper (s ++ t) = none) : emptyThinkWrapper s = none := by
  refine Option.eq_none_iff_forall_ne_some.mpr fun rest found => ?_
  obtain ⟨w, wrapper, rfl⟩ := emptyThinkWrapper_eq_some.mp found
  rw [List.append_assoc, emptyThinkWrapper_eq_some.mpr ⟨w, wrapper, rfl⟩] at done
  cases done

/-! ## One more end marker -/

theorem core_eq (s : List Char) :
    ∃ lead run b, Spaces lead ∧ ThinkWrappers run ∧ Spaces b ∧ s = lead ++ (run ++ (core s ++ b)) ∧
      Stops Text.isSpace (core s) ∧ EndsTrimmed (core s) ∧ emptyThinkWrapper (core s) = none := by
  obtain ⟨lead, spacesLead, splitLead, starts⟩ := Text.lstrip_eq s
  obtain ⟨run, wrappers, splitRun, starts⟩ := stripThinkWrappers_spec (Text.lstrip s) false starts
  have done := stripThinkWrappers_done (Text.lstrip s) false
  obtain ⟨b, spacesB, splitB, ends⟩ :=
    Text.rstrip_eq (stripThinkWrappers (Text.lstrip s) false).1
  have same : Text.rstrip (stripThinkWrappers (Text.lstrip s) false).1 = core s := by
    rw [core, Text.strip, Text.lstrip_of_stops starts]
  rw [same] at splitB ends
  refine ⟨lead, run, b, spacesLead, wrappers, spacesB, ?_, ?_, ends, ?_⟩
  · rw [← splitB, ← splitRun, ← splitLead]
  · by_cases empty : core s = []
    · rw [empty]
      exact Text.stops_nil
    · rw [splitB] at starts
      exact starts.of_append empty
  · rw [splitB] at done
    exact done_of_append done

theorem core_of_parts {lead run b r : List Char} (spacesLead : Spaces lead)
    (wrappers : ThinkWrappers run) (spacesB : Spaces b) (starts : Stops Text.isSpace r)
    (ends : EndsTrimmed r) (done : emptyThinkWrapper r = none) :
    core (lead ++ (run ++ (r ++ b))) = r := by
  rw [core_spaces spacesLead, core_wrappers wrappers]
  by_cases empty : r = []
  · rw [empty]
    exact core_of_spaces spacesB
  · rw [core_of_done (starts.append empty) (done_append (incomplete_of_spaces spacesB) done),
      Text.rstrip_append ends spacesB]

/-- What a second `dropImEnd` makes of a content. -/
def again (content : List Char) : Option (List Char) :=
  if dropImEnd content = [] then none else some (dropImEnd content)

theorem dropImEnd_of_not (open_ : ¬ imEnd <:+ s) : dropImEnd s = s := if_neg open_

variable {o : List Char} {c x : Char} {d a : List Char} {i : ℕ}

theorem core_marker (spaces : Spaces a) :
    ∃ a', Spaces a' ∧ (core d = [] → a' = []) ∧
      core (d ++ (a ++ imEnd)) = core d ++ (a' ++ imEnd) := by
  obtain ⟨lead, run, b, spacesLead, wrappers, spacesB, split, starts, ends, done⟩ := core_eq d
  have spacesBA := spacesB.append spaces
  have peeled : core (d ++ (a ++ imEnd)) = core (core d ++ ((b ++ a) ++ imEnd)) := by
    nth_rewrite 1 [split]
    simp only [List.append_assoc]
    rw [core_spaces spacesLead, core_wrappers wrappers]
  have solid : Stops Text.isSpace imEnd := by decide +kernel
  by_cases empty : core d = []
  · refine ⟨[], Text.spaces_nil, fun _ => rfl, ?_⟩
    rw [peeled, empty, List.nil_append, core_spaces spacesBA]
    decide +kernel
  · refine ⟨b ++ a, spacesBA, fun none => absurd none empty, ?_⟩
    rw [peeled, core_of_done (starts.append empty) (done_append (incomplete_marker spacesBA) done)]
    have closed : EndsTrimmed (core d ++ ((b ++ a) ++ imEnd)) := by
      rw [← List.append_assoc]
      intro c last
      rw [List.getLast?_append_of_ne_nil _ (by decide)] at last
      obtain rfl : '>' = c := Option.some.inj last
      decide
    have := Text.rstrip_append closed Text.spaces_nil
    rwa [List.append_nil] at this

/-- A tag is there with the marker exactly if it is there without. -/
theorem hasThinkTag_marker {a : List Char} (angle : isWord '<' = false)
    (space : ∀ c, Text.isSpace c → isWord c = false) (spaces : Spaces a) :
    hasThinkTag isWord (s ++ (a ++ imEnd)) = hasThinkTag isWord s := by
  refine Bool.eq_iff_iff.mpr ⟨fun tagged => hasThinkTag_of_append ?_ tagged, fun tagged =>
    hasThinkTag_append (stops_marker angle space spaces (.inr rfl)) tagged⟩
  simpa using letterless_marker spaces Text.spaces_nil (.inr rfl)

theorem accepted_marker (angle : isWord '<' = false)
    (space : ∀ c, Text.isSpace c → isWord c = false) (spaces : Spaces a) :
    (accepted isWord (d ++ (a ++ imEnd))).bind again = accepted isWord d := by
  obtain ⟨a', spaces', short, full⟩ := core_marker (d := d) spaces
  obtain ⟨_, _, _, _, _, _, _, _, ends, _⟩ := core_eq d
  have dropped := dropImEnd_append ends spaces'
  have solid : core d ++ (a' ++ imEnd) ≠ [] := by
    simp only [ne_eq, List.append_eq_nil_iff, not_and]
    exact fun _ _ => by decide
  unfold accepted
  rw [full, if_neg solid, hasThinkTag_marker angle space spaces', dropped]
  by_cases empty : core d = []
  · rw [if_pos empty, if_pos empty]
    split <;> rfl
  · rw [if_neg empty, if_neg empty]
    split
    · rfl
    · rfl

/-- The worker has taken a marker off, if there was one. -/
theorem accepted_dropImEnd (angle : isWord '<' = false)
    (space : ∀ c, Text.isSpace c → isWord c = false) (ends : EndsTrimmed s) :
    accepted isWord (dropImEnd s) = (accepted isWord s).bind again := by
  by_cases marked : imEnd <:+ s
  · obtain ⟨pre, rfl⟩ := marked
    obtain ⟨a, spaces, cut, _⟩ := Text.rstrip_eq pre
    have dropped : dropImEnd (pre ++ imEnd) = Text.rstrip pre := by
      rw [dropImEnd, if_pos (List.suffix_append ..), List.length_append, Nat.add_sub_cancel,
        List.take_left]
    rw [dropped]
    nth_rewrite 2 [cut]
    rw [List.append_assoc, accepted_marker angle space spaces]
  · rw [dropImEnd_of_not marked]
    cases content : accepted isWord s with
    | none => rfl
    | some c =>
      have kept : core s <:+ s := by
        obtain ⟨lead, run, b, _, _, spacesB, split, _, _, _⟩ := core_eq s
        obtain rfl | ⟨front, x, rfl⟩ := b.eq_nil_or_concat
        · exact ⟨lead ++ run, by rw [List.append_nil] at split; rw [List.append_assoc, ← split]⟩
        · rw [List.concat_eq_append] at split spacesB
          have last : x ∈ s.getLast? := by
            rw [split, ← List.append_assoc, ← List.append_assoc, ← List.append_assoc,
              List.getLast?_concat]
            rfl
          have := ends x last
          rw [spacesB x (by simp)] at this
          cases this
      have unmarked : ¬ imEnd <:+ core s := fun inCore => marked (inCore.trans kept)
      unfold accepted at content
      rw [dropImEnd_of_not unmarked] at content
      split at content
      · cases content
      · next full =>
        split at content
        · cases content
        · cases content
          rw [Option.bind_some, again, dropImEnd_of_not unmarked, if_neg full]

/-! ## The exact tags -/

/-- An exact wrapper, in any case of its letters. -/
def ExactWrapper (w : List Char) : Prop :=
  ∃ o body c, lower o = openTag ∧ Spaces body ∧ lower c = closeTag ∧ w = o ++ (body ++ c)

/-- Behind whitespace and at most one exact wrapper there is no exact tag. -/
def OneWrapper (s : List Char) : Prop :=
  ∃ lead w e, Spaces lead ∧ (w = [] ∨ ExactWrapper w) ∧ ThinkFree e ∧ s = lead ++ (w ++ e)

@[simp] theorem lower_nil : lower [] = [] := rfl

@[simp] theorem lower_cons (c : Char) : lower (c :: s) = lowerChar c ++ lower s := rfl

theorem lowerChar_eq (lowered : lowerChar c = [x]) :
    c = x ∨ (c = '\u212a' ∧ x = 'k') ∨ (65 ≤ c.toNat ∧ c.toNat ≤ 90 ∧ c.toNat + 32 = x.toNat) := by
  unfold lowerChar at lowered
  split at lowered
  · cases lowered
  · split at lowered
    · next kelvin =>
      cases lowered
      exact .inr (.inl ⟨kelvin, rfl⟩)
    · obtain rfl : c.toLower = x := (List.cons.inj lowered).1
      unfold Char.toLower
      split
      · next upper =>
        have low : 65 ≤ c.toNat := UInt32.le_iff_toNat_le.mp upper.1
        have high : c.toNat ≤ 90 := UInt32.le_iff_toNat_le.mp upper.2
        refine .inr (.inr ⟨low, high, ?_⟩)
        have : (c.val + ('a'.val - 'A'.val)).toNat = (c.val.toNat + 32) % 2 ^ 32 := by
          rw [UInt32.toNat_add]
          rfl
        have isNat : c.toNat = c.val.toNat := rfl
        show c.toNat + 32 = (c.val + ('a'.val - 'A'.val)).toNat
        omega
      · exact .inl rfl

theorem lowerChar_space {c : Char} (space : Text.isSpace c) : lowerChar c = [c] := by
  have dotted : c ≠ '\u0130' := by
    rintro rfl
    exact absurd space (by decide)
  have kelvin : c ≠ '\u212a' := by
    rintro rfl
    exact absurd space (by decide)
  have upper : ¬ (c.val ≥ 'A'.val ∧ c.val ≤ 'Z'.val) := by
    rintro ⟨low, high⟩
    have low : 65 ≤ c.toNat := UInt32.le_iff_toNat_le.mp low
    have high : c.toNat ≤ 90 := UInt32.le_iff_toNat_le.mp high
    simp only [Text.isSpace, Bool.or_eq_true, Bool.and_eq_true, decide_eq_true_eq,
      beq_iff_eq] at space
    omega
  rw [lowerChar, if_neg dotted, if_neg kelvin, Char.toLower, dif_neg upper]

theorem lower_spaces (spaces : Spaces s) : lower s = s := by
  induction s with
  | nil => rfl
  | cons c s ih =>
    rw [lower_cons, lowerChar_space (spaces c List.mem_cons_self),
      ih fun x member => spaces x (List.mem_cons_of_mem _ member)]
    rfl

theorem lower_prefix {w s : List Char} (begins : w <+: lower s) (undotted : '\u0307' ∉ w)
    (last : w.getLast? ≠ some 'i') : ∃ a b, s = a ++ b ∧ lower a = w := by
  induction w generalizing s with
  | nil => exact ⟨[], s, rfl, rfl⟩
  | cons x w ih =>
    rw [List.mem_cons, not_or] at undotted
    cases s with
    | nil => exact absurd (List.prefix_nil.mp begins) (List.cons_ne_nil x w)
    | cons c s =>
      rw [lower_cons] at begins
      have single : ∀ y, lowerChar c = [y] → ∃ a b, c :: s = a ++ b ∧ lower a = x :: w := by
        intro y letter
        rw [letter] at begins
        obtain ⟨rfl, tail⟩ := List.cons_prefix_cons.mp begins
        have last' : w.getLast? ≠ some 'i' := by
          cases w with
          | nil => nofun
          | cons z w => rwa [List.getLast?_cons_cons] at last
        obtain ⟨a, b, rfl, same⟩ := ih tail undotted.2 last'
        exact ⟨c :: a, b, rfl, by rw [lower_cons, letter, same]; rfl⟩
      -- a dotted capital I becomes two characters, of which no tag has the second
      by_cases dotted : c = '\u0130'
      · rw [dotted] at begins
        obtain ⟨rfl, tail⟩ := List.cons_prefix_cons.mp begins
        cases w with
        | nil => exact absurd rfl last
        | cons z w =>
          obtain ⟨same, _⟩ := List.cons_prefix_cons.mp tail
          exact absurd (same ▸ List.mem_cons_self) undotted.2
      · rw [lowerChar, if_neg dotted] at single
        by_cases kelvin : c = '\u212a'
        · exact single 'k' (if_pos kelvin)
        · exact single c.toLower (if_neg kelvin)

theorem lower_eq_cons {x : Char} {a w : List Char} (lowered : lower a = x :: w)
    (undotted : w.head? ≠ some '\u0307') :
    ∃ c a', a = c :: a' ∧ lowerChar c = [x] ∧ lower a' = w := by
  cases a with
  | nil => cases lowered
  | cons c a =>
    rw [lower_cons] at lowered
    have single : ∀ y, lowerChar c = [y] → lowerChar c = [x] ∧ lower a = w := by
      intro y letter
      rw [letter] at lowered ⊢
      obtain ⟨rfl, rest⟩ := List.cons.inj lowered
      exact ⟨rfl, rest⟩
    refine ⟨c, a, rfl, ?_⟩
    by_cases dotted : c = '\u0130'
    · rw [dotted] at lowered
      obtain ⟨_, rest⟩ := List.cons.inj lowered
      rw [← rest] at undotted
      exact absurd rfl undotted
    · rw [lowerChar, if_neg dotted] at single ⊢
      by_cases kelvin : c = '\u212a'
      · exact single 'k' (if_pos kelvin)
      · exact single c.toLower (if_neg kelvin)

theorem eq_of_toNat {c d : Char} (same : c.toNat = d.toNat) : c = d := by
  rw [← Char.ofNat_toNat c, same, Char.ofNat_toNat]

theorem lower_eq_nil {a : List Char} (lowered : lower a = []) : a = [] := by
  cases a with
  | nil => rfl
  | cons c a =>
    have nonempty : lowerChar c ≠ [] := by
      unfold lowerChar
      split
      · nofun
      · split <;> nofun
    exact absurd (List.append_eq_nil_iff.mp lowered).1 nonempty

theorem undotted_cons {x : Char} {w : List Char} (ne : x ≠ '\u0307') :
    (x :: w).head? ≠ some '\u0307' := fun same => ne (Option.some.inj same)

theorem lowerChar_symbol (lowered : lowerChar c = [x]) (symbol : x.toNat < 97) : c = x := by
  obtain rfl | ⟨_, rfl⟩ | ⟨low, _, same⟩ := lowerChar_eq lowered
  · rfl
  · exact absurd symbol (by decide)
  · omega

theorem lowerChar_letter (upper : Char) (lowered : lowerChar c = [x]) (ne : x ≠ 'k')
    (same : upper.toNat + 32 = x.toNat) : c ∈ [x, upper] := by
  obtain rfl | ⟨_, rfl⟩ | ⟨_, _, lifted⟩ := lowerChar_eq lowered
  · exact List.mem_cons_self
  · exact absurd rfl ne
  · have : c = upper := eq_of_toNat (by omega)
    rw [this]
    simp

theorem lower_think {a w : List Char} (lowered : lower a = 't' :: 'h' :: 'i' :: 'n' :: 'k' :: w)
    (undotted : w.head? ≠ some '\u0307') : ∃ t a', a = t ++ a' ∧ IsThink t ∧ lower a' = w := by
  obtain ⟨c₁, _, rfl, h₁, lowered⟩ := lower_eq_cons lowered (undotted_cons (by decide))
  obtain ⟨c₂, _, rfl, h₂, lowered⟩ := lower_eq_cons lowered (undotted_cons (by decide))
  obtain ⟨c₃, _, rfl, h₃, lowered⟩ := lower_eq_cons lowered (undotted_cons (by decide))
  obtain ⟨c₄, _, rfl, h₄, lowered⟩ := lower_eq_cons lowered (undotted_cons (by decide))
  obtain ⟨c₅, rest, rfl, h₅, lowered⟩ := lower_eq_cons lowered undotted
  have i : c₃ ∈ ['i', 'I'] := lowerChar_letter 'I' h₃ (by decide) (by decide)
  have k : c₅ ∈ ['k', 'K', '\u212a'] := by
    obtain rfl | ⟨rfl, _⟩ | ⟨_, _, lifted⟩ := lowerChar_eq h₅
    · decide
    · decide
    · have : c₅ = 'K' := eq_of_toNat (by
        have : 'k'.toNat = 107 := rfl
        have : 'K'.toNat = 75 := rfl
        omega)
      rw [this]
      decide
  refine ⟨[c₁, c₂, c₃, c₄, c₅], rest, rfl, ?_, lowered⟩
  refine .cons (lowerChar_letter 'T' h₁ (by decide) (by decide)) (.cons
    (lowerChar_letter 'H' h₂ (by decide) (by decide)) (.cons (List.mem_append_left _ i) (.cons
      (lowerChar_letter 'N' h₄ (by decide) (by decide)) (.cons k .nil))))

theorem lower_openTag (tag : lower o = openTag) :
    ∃ t, IsThink t ∧ o = '<' :: (t ++ ['>']) := by
  obtain ⟨c, _, rfl, left, lowered₁⟩ := lower_eq_cons tag (by decide)
  obtain ⟨t, _, rfl, think, lowered₂⟩ := lower_think lowered₁ (by decide)
  obtain ⟨d, _, rfl, right, lowered₃⟩ := lower_eq_cons lowered₂ (by decide)
  obtain rfl := lowerChar_symbol left (by decide)
  obtain rfl := lowerChar_symbol right (by decide)
  obtain rfl := lower_eq_nil lowered₃
  exact ⟨t, think, rfl⟩

theorem lower_closeTag (tag : lower o = closeTag) :
    ∃ t, IsThink t ∧ o = '<' :: '/' :: (t ++ ['>']) := by
  obtain ⟨c, _, rfl, left, lowered₁⟩ := lower_eq_cons tag (by decide)
  obtain ⟨c', _, rfl, slash, lowered₂⟩ := lower_eq_cons lowered₁ (by decide)
  obtain ⟨t, _, rfl, think, lowered₃⟩ := lower_think lowered₂ (by decide)
  obtain ⟨d, _, rfl, right, lowered₄⟩ := lower_eq_cons lowered₃ (by decide)
  obtain rfl := lowerChar_symbol left (by decide)
  obtain rfl := lowerChar_symbol slash (by decide)
  obtain rfl := lowerChar_symbol right (by decide)
  obtain rfl := lower_eq_nil lowered₄
  exact ⟨t, think, rfl⟩

theorem IsThink.length (think : IsThink t) : t.length = 5 := by
  unfold IsThink at think
  exact List.Forall₂.length_eq think

theorem length_openTag (tag : lower o = openTag) : o.length = 7 := by
  obtain ⟨t, think, rfl⟩ := lower_openTag tag
  simp [IsThink.length think]

theorem length_closeTag (tag : lower o = closeTag) : o.length = 8 := by
  obtain ⟨t, think, rfl⟩ := lower_closeTag tag
  simp [IsThink.length think]

theorem ExactWrapper.isEmpty (wrapper : ExactWrapper w) : IsEmptyThinkWrapper w := by
  obtain ⟨o, body, c, opens, spaces, closes, rfl⟩ := wrapper
  obtain ⟨t₁, think₁, rfl⟩ := lower_openTag opens
  obtain ⟨t₂, think₂, rfl⟩ := lower_closeTag closes
  refine ⟨[], t₁, [], body, [], [], t₂, [], Text.spaces_nil, think₁, Text.spaces_nil, spaces,
    Text.spaces_nil, Text.spaces_nil, think₂, Text.spaces_nil, ?_⟩
  simp only [List.cons_append, List.append_assoc, List.nil_append]

/-! ## What the worker skips -/

theorem find_eq_some {w s : List Char} (found : find w s = some i) : w <+: s.drop i := by
  unfold find at found
  exact of_decide_eq_true (List.find?_range_eq_some.mp found).1

theorem closeTag_after_openTag (begins : closeTag <+: (openTag ++ s).drop i) : 7 ≤ i := by
  by_contra inside
  have cases_ : i = 0 ∨ i = 1 ∨ i = 2 ∨ i = 3 ∨ i = 4 ∨ i = 5 ∨ i = 6 := by omega
  obtain rfl | rfl | rfl | rfl | rfl | rfl | rfl := cases_ <;>
    simp [openTag, closeTag, List.cons_prefix_cons] at begins

theorem find_closeTag {body rest : List Char} (spaces : Spaces body) :
    find closeTag (openTag ++ (body ++ (closeTag ++ rest))) = some (7 + body.length) := by
  unfold find
  refine List.find?_range_eq_some.mpr ⟨?_, ?_, fun j before => ?_⟩
  · have size : (openTag ++ body).length = 7 + body.length := List.length_append
    rw [← List.append_assoc, List.drop_left' size]
    exact decide_eq_true (List.prefix_append ..)
  · simp only [List.mem_range, List.length_append, openTag, List.length_cons, List.length_nil]
    omega
  · refine Bool.not_eq_true' _ ▸ decide_eq_false fun begins => ?_
    obtain ⟨k, rfl⟩ := Nat.exists_eq_add_of_le (closeTag_after_openTag begins)
    have inBody : k < body.length := by omega
    rw [← List.drop_drop, List.drop_left' (show openTag.length = 7 by rfl),
      List.drop_append_of_le_length inBody.le, List.drop_eq_getElem_cons inBody] at begins
    obtain ⟨same, _⟩ := List.cons_prefix_cons.mp begins
    have space := spaces _ (List.getElem_mem inBody)
    rw [← same] at space
    exact absurd space (by decide)

theorem skipThinkWrapper_some (skipped : skipThinkWrapper s = some t) :
    (t = s ∧ ¬ openTag <+: lower s) ∨
      ∃ w sp, ExactWrapper w ∧ Spaces sp ∧ s = w ++ (sp ++ t) := by
  unfold skipThinkWrapper at skipped
  split at skipped
  · next begins =>
    obtain ⟨o, rest, rfl, opens⟩ := lower_prefix begins (by decide) (by decide)
    have size := length_openTag opens
    rw [lower_append, opens] at skipped
    split at skipped
    · next stop found =>
      have here := find_eq_some found
      obtain ⟨k, rfl⟩ := Nat.exists_eq_add_of_le (closeTag_after_openTag here)
      rw [← List.drop_drop, List.drop_left' (show openTag.length = 7 by rfl)] at here
      split at skipped
      · next blank =>
        have taken : ((o ++ rest).take (7 + k)).drop openTag.length = rest.take k := by
          rw [← size, List.take_length_add_append]
          exact List.drop_left' size
        rw [taken] at blank
        have spaces := Text.spaces_of_strip_eq_nil blank
        -- what is skipped is blank, so its places are those of the lowered text
        have cut : (lower rest).drop k = lower (rest.drop k) := by
          conv_lhs => rw [← List.take_append_drop k rest, lower_append, lower_spaces spaces]
          by_cases long : k ≤ rest.length
          · exact List.drop_left' (List.length_take_of_le long)
          · rw [List.drop_eq_nil_of_le (by omega : rest.length ≤ k), lower_nil, List.append_nil]
            exact List.drop_eq_nil_of_le (List.length_take_le ..)
        rw [cut] at here
        obtain ⟨c, left, split, closes⟩ := lower_prefix here (by decide) (by decide)
        have size' := length_closeTag closes
        obtain ⟨sp, spacesSp, splitSp, _⟩ := Text.lstrip_eq left
        have behind : (o ++ rest).drop (7 + k + closeTag.length) = left := by
          rw [Nat.add_assoc, ← List.drop_drop, List.drop_left' size, ← List.drop_drop, split]
          exact List.drop_left' size'
        rw [behind] at skipped
        cases skipped
        refine .inr ⟨o ++ (rest.take k ++ c), sp, ⟨o, rest.take k, c, opens, spaces, closes, rfl⟩,
          spacesSp, ?_⟩
        rw [List.append_assoc, List.append_assoc, ← splitSp, ← split, List.take_append_drop]
      · cases skipped
    · cases skipped
  · next begins =>
    obtain rfl := Option.some.inj skipped
    exact .inl ⟨rfl, begins⟩

theorem skipThinkWrapper_wrapper (wrapper : ExactWrapper w) :
    skipThinkWrapper (w ++ s) = some (Text.lstrip s) := by
  obtain ⟨o, body, c, opens, spaces, closes, rfl⟩ := wrapper
  have size := length_openTag opens
  have size' := length_closeTag closes
  have lowered : lower (o ++ (body ++ c) ++ s) = openTag ++ (body ++ (closeTag ++ lower s)) := by
    simp only [lower_append, opens, closes, lower_spaces spaces, List.append_assoc]
  have taken : ((o ++ (body ++ c) ++ s).take (7 + body.length)).drop openTag.length = body := by
    rw [List.append_assoc, List.append_assoc, ← size, List.take_length_add_append,
      List.take_left]
    exact List.drop_left' size
  have behind : (o ++ (body ++ c) ++ s).drop (7 + body.length + closeTag.length) = s := by
    refine List.drop_left' ?_
    simp only [List.length_append, size, size', closeTag, List.length_cons, List.length_nil]
    omega
  unfold skipThinkWrapper
  rw [lowered, if_pos (List.prefix_append ..), find_closeTag spaces]
  dsimp only
  have blank : Text.strip body = [] := by
    rw [Text.strip, ← List.append_nil body, Text.lstrip_append spaces Text.stops_nil]
    rfl
  rw [taken, behind, if_pos blank]

/-! ## Texts with at most one exact wrapper -/

theorem infix_of_append {w x y : List Char} (nonempty : w ≠ []) (foreign : ∀ c ∈ y, c ∉ w)
    (inside : w <:+: x ++ y) : w <:+: x := by
  obtain ⟨pre, post, split⟩ := inside
  obtain ⟨front, c, rfl⟩ := (List.eq_nil_or_concat w).resolve_left nonempty
  rw [List.concat_eq_append] at *
  obtain ⟨mid, rfl, _⟩ | ⟨mid, whole, _⟩ := List.append_eq_append_iff.mp split
  · exact ⟨pre, mid, rfl⟩
  · obtain rfl | ⟨mid', d, rfl⟩ := mid.eq_nil_or_concat
    · exact ⟨pre, [], by rw [List.append_nil, whole, List.append_nil]⟩
    · rw [List.concat_eq_append, ← List.append_assoc, ← List.append_assoc] at whole
      obtain ⟨_, same⟩ := List.append_inj' whole rfl
      cases same
      have there : c ∈ y := by
        rw [‹y = _›]
        simp
      exact absurd (List.mem_append_right _ List.mem_cons_self) (foreign c there)

theorem infix_of_append_left {w x y : List Char} (nonempty : w ≠ []) (foreign : ∀ c ∈ x, c ∉ w)
    (inside : w <:+: x ++ y) : w <:+: y := by
  rw [← List.reverse_infix, List.reverse_append] at inside
  rw [← List.reverse_infix]
  refine infix_of_append (List.reverse_ne_nil_iff.mpr nonempty) (fun c member => ?_) inside
  rw [List.mem_reverse]
  exact foreign c (List.mem_reverse.mp member)

theorem spaces_foreign (spaces : Spaces s) : ∀ c ∈ s, c ∉ openTag ∧ c ∉ closeTag := by
  intro c member
  have space := spaces c member
  constructor <;> intro inTag <;>
    simp only [openTag, closeTag, List.mem_cons, List.not_mem_nil, or_false] at inTag
  · obtain rfl | rfl | rfl | rfl | rfl | rfl | rfl := inTag <;> exact absurd space (by decide)
  · obtain rfl | rfl | rfl | rfl | rfl | rfl | rfl | rfl := inTag <;>
      exact absurd space (by decide)

theorem ThinkFree.append_spaces (free : ThinkFree s) (spaces : Spaces t) : ThinkFree (s ++ t) := by
  unfold ThinkFree at *
  rw [lower_append, lower_spaces spaces]
  have foreign := spaces_foreign spaces
  refine ⟨fun inside => free.1 ?_, fun inside => free.2 ?_⟩
  · exact infix_of_append (by decide) (fun c m => (foreign c m).1) inside
  · exact infix_of_append (by decide) (fun c m => (foreign c m).2) inside

theorem ThinkFree.spaces_append (free : ThinkFree s) (spaces : Spaces t) : ThinkFree (t ++ s) := by
  unfold ThinkFree at *
  rw [lower_append, lower_spaces spaces]
  have foreign := spaces_foreign spaces
  refine ⟨fun inside => free.1 ?_, fun inside => free.2 ?_⟩
  · exact infix_of_append_left (by decide) (fun c m => (foreign c m).1) inside
  · exact infix_of_append_left (by decide) (fun c m => (foreign c m).2) inside

theorem ThinkFree.of_append_right (free : ThinkFree (s ++ t)) : ThinkFree t := by
  unfold ThinkFree at free
  rw [lower_append] at free
  exact ⟨fun inside => free.1 (inside.trans (List.suffix_append ..).isInfix),
    fun inside => free.2 (inside.trans (List.suffix_append ..).isInfix)⟩

theorem strip_parts (s : List Char) :
    ∃ lead b, Spaces lead ∧ Spaces b ∧ s = lead ++ (Text.strip s ++ b) := by
  obtain ⟨lead, spacesLead, splitLead, _⟩ := Text.lstrip_eq s
  obtain ⟨b, spacesB, splitB, _⟩ := Text.rstrip_eq (Text.lstrip s)
  exact ⟨lead, b, spacesLead, spacesB, by rw [Text.strip, ← splitB, ← splitLead]⟩

theorem ThinkFree.strip (free : ThinkFree s) : ThinkFree (Text.strip s) := by
  obtain ⟨lead, b, _, _, split⟩ := strip_parts s
  rw [split] at free
  exact free.of_append_right.of_append

/-- What the worker leaves has at most one exact wrapper in front of it. -/
theorem oneWrapper_of_skip (skipped : skipThinkWrapper (Text.strip s) = some t)
    (free : ThinkFree t) : OneWrapper s := by
  obtain ⟨lead, b, spacesLead, spacesB, split⟩ := strip_parts s
  obtain ⟨rfl, _⟩ | ⟨w, sp, wrapper, spacesSp, whole⟩ := skipThinkWrapper_some skipped
  · exact ⟨lead, [], _, spacesLead, .inl rfl, free.append_spaces spacesB, split⟩
  · refine ⟨lead, w, (sp ++ t) ++ b, spacesLead, .inr wrapper,
      (free.spaces_append spacesSp).append_spaces spacesB, ?_⟩
    rw [← List.append_assoc w, ← whole]
    exact split

theorem OneWrapper.skip (one : OneWrapper s) :
    ∃ t, skipThinkWrapper (Text.strip s) = some t ∧ ThinkFree t := by
  obtain ⟨lead, w, e, spacesLead, rfl | wrapper, free, split⟩ := one
  · have free' : ThinkFree (Text.strip s) := by
      rw [split]
      exact (free.spaces_append spacesLead).strip
    refine ⟨Text.strip s, if_neg fun begins => free'.1 begins.isInfix, free'⟩
  · have stops : Stops Text.isSpace (w ++ e) := wrapper.isEmpty.stops
    obtain ⟨b, spacesB, splitB, ends⟩ := Text.rstrip_eq e
    have trimmed : EndsTrimmed (w ++ Text.rstrip e) := by
      by_cases empty : Text.rstrip e = []
      · obtain ⟨pre, last⟩ := IsEmptyThinkWrapper.last wrapper.isEmpty
        rw [empty, List.append_nil, last]
        intro c isLast
        rw [List.getLast?_concat] at isLast
        obtain rfl : '>' = c := Option.some.inj isLast
        decide
      · intro c isLast
        rw [List.getLast?_append_of_ne_nil _ empty] at isLast
        exact ends c isLast
    have stripped : Text.strip s = w ++ Text.rstrip e := by
      rw [Text.strip, split, Text.lstrip_append spacesLead stops]
      nth_rewrite 1 [splitB]
      rw [← List.append_assoc, Text.rstrip_append trimmed spacesB]
    refine ⟨Text.lstrip (Text.rstrip e), ?_, ?_⟩
    · rw [stripped, skipThinkWrapper_wrapper wrapper]
    · rw [splitB] at free
      obtain ⟨sp, _, splitSp, _⟩ := Text.lstrip_eq (Text.rstrip e)
      have front := free.of_append
      rw [splitSp] at front
      exact front.of_append_right

theorem core_append_spaces (spaces : Spaces t) : core (s ++ t) = core s := by
  obtain ⟨lead, run, b, spacesLead, wrappers, spacesB, split, starts, ends, done⟩ := core_eq s
  nth_rewrite 1 [split]
  simp only [List.append_assoc]
  exact core_of_parts spacesLead wrappers (spacesB.append spaces) starts ends done

theorem core_skip (skipped : skipThinkWrapper (Text.strip s) = some t) : core t = core s := by
  obtain ⟨lead, b, spacesLead, spacesB, split⟩ := strip_parts s
  have peeled : core s = core (Text.strip s) := by
    nth_rewrite 1 [split]
    rw [core_spaces spacesLead, core_append_spaces spacesB]
  obtain ⟨rfl, _⟩ | ⟨w, sp, wrapper, spacesSp, whole⟩ := skipThinkWrapper_some skipped
  · exact peeled.symm
  · rw [peeled, whole, core_wrapper wrapper.isEmpty, core_spaces spacesSp]

theorem accepted_congr (same : core s = core t) : accepted isWord s = accepted isWord t := by
  unfold accepted
  rw [same]

/-- What the relay client makes of a text that went through the worker. -/
def filteredByWorker (isWord : Char → Bool) (text : String) : Option (List Char) :=
  (normalizeText text).toOption.bind fun content => accepted isWord content.toList

/-- The worker takes one more end marker off, and rejects what has a second wrapper or a tag. -/
theorem filteredByWorker_eq_some {content : List Char} (angle : isWord '<' = false)
    (space : ∀ c, Text.isSpace c → isWord c = false) (text : String) :
    filteredByWorker isWord text = some content ↔
      OneWrapper text.toList ∧ (accepted isWord text.toList).bind again = some content := by
  unfold filteredByWorker normalizeText
  cases skipped : skipThinkWrapper (Text.strip text.toList) with
  | none =>
    refine iff_of_false nofun fun ⟨one, _⟩ => ?_
    obtain ⟨t, other, _⟩ := one.skip
    cases skipped.symm.trans other
  | some cleaned =>
    dsimp only
    by_cases free : ThinkFree cleaned
    · have one := oneWrapper_of_skip skipped free
      obtain ⟨_, ends⟩ := skipThinkWrapper_trimmed skipped (strip_trimmed _).1 (strip_trimmed _).2
      have same : accepted isWord (dropImEnd cleaned) =
          (accepted isWord text.toList).bind again := by
        rw [accepted_dropImEnd angle space ends, accepted_congr (core_skip skipped)]
      rw [if_pos free, ← same]
      by_cases empty : dropImEnd cleaned = []
      · have nothing : accepted isWord ([] : List Char) = none := by
          unfold accepted
          rw [if_pos (core_of_spaces Text.spaces_nil)]
        rw [if_pos empty, empty, nothing]
        exact iff_of_false nofun fun ⟨_, given⟩ => nomatch given
      · rw [if_neg empty]
        simp only [Except.toOption, Option.bind_some, String.toList_ofList, one, true_and]
    · rw [if_neg free]
      refine iff_of_false nofun fun ⟨one, _⟩ => free ?_
      obtain ⟨t, other, free'⟩ := one.skip
      obtain rfl := Option.some.inj (skipped.symm.trans other)
      exact free'

end PlainCompletion
