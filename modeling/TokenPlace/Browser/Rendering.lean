import TokenPlace.Browser.Markup

/-!
# Rendering, token by token

What each step of `renderMarkdown` does to the tokens of its text.

Results:
1. `escapeHtml_tokens`, `replaceBlocks_tokens`, `applyInline_tokens`, `splitLines_tokens`,
   `htmlParts_tokens`, `tidy_tokens`: one for each step.
2. `renderMarkdown_markup`: what is rendered consists of tokens.
-/

namespace Markdown

open JsText (Units units isSpaceUnit isLineTerminator trimBy)
open PrefixCode (Code Marks flat flat_cons flat_append flat_nil)
open Rewriting (replaceAll replaceAll_rel before before_eq_some)

variable {tokens tokens' : List Token} {front s t : Units} {x y : Token} {c : UInt16}

@[simp] theorem html_nil : html [] = [] := rfl

@[simp] theorem html_cons (x : Token) (tokens : List Token) :
    html (x :: tokens) = x.text ++ html tokens := flat_cons x

@[simp] theorem html_append (tokens tokens' : List Token) :
    html (tokens ++ tokens') = html tokens ++ html tokens' := flat_append

/-! ## Escaping -/

/-- The token of an escaped character. -/
def escapeToken (c : UInt16) : Token :=
  if c = ampersand then .entity .amp
  else if c = lessThan then .entity .lt
  else if c = greaterThan then .entity .gt
  else if c = quote then .entity .quot
  else if c = apostrophe then .entity .apos
  else if isPlain : Plain c then .plain c isPlain
  else .entity .amp

/-- Neither a tag nor a comment. -/
def Token.isText : Token → Bool
  | entity _ | plain _ _ => true
  | _ => false

theorem replaceUnit_append (replacement : Units) :
    replaceUnit c replacement (s ++ t) =
      replaceUnit c replacement s ++ replaceUnit c replacement t :=
  List.flatMap_append

theorem escapeHtml_append : escapeHtml (s ++ t) = escapeHtml s ++ escapeHtml t := by
  simp only [escapeHtml, replaceUnit_append]

theorem escapeToken_plain (isPlain : Plain c) : escapeToken c = .plain c isPlain := by
  have others := isPlain
  simp only [Plain, List.mem_cons, not_or] at others
  obtain ⟨lt, gt, amp, quot, apos, -⟩ := others
  rw [escapeToken, if_neg amp, if_neg lt, if_neg gt, if_neg quot, if_neg apos, dif_pos isPlain]

theorem escapeHtml_singleton (c : UInt16) : escapeHtml [c] = (escapeToken c).text := by
  by_cases special : c ∈ [lessThan, greaterThan, ampersand, quote, apostrophe]
  · simp only [List.mem_cons, List.not_mem_nil, or_false] at special
    rcases special with rfl | rfl | rfl | rfl | rfl <;> decide +kernel
  · rw [escapeToken_plain special]
    simp only [List.mem_cons, not_or] at special
    obtain ⟨lt, gt, amp, quot, apos, -⟩ := special
    have other {d w} (differs : ¬ c = d) : replaceUnit d w [c] = [c] := by
      simp [replaceUnit, differs]
    rw [escapeHtml, other amp, other lt, other gt, other quot, other apos]
    rfl

theorem escapeHtml_tokens (s : Units) : escapeHtml s = html (s.map escapeToken) := by
  induction s with
  | nil => rfl
  | cons c s ih =>
    rw [← List.singleton_append, escapeHtml_append, escapeHtml_singleton, ih, List.map_append]
    rfl

theorem escapeToken_isText (c : UInt16) : (escapeToken c).isText = true := by
  unfold escapeToken
  split_ifs <;> rfl

theorem escapeToken_absent (c : UInt16) : lessThan ∉ (escapeToken c).text := by
  by_cases special : c ∈ [lessThan, greaterThan, ampersand, quote, apostrophe]
  · simp only [List.mem_cons, List.not_mem_nil, or_false] at special
    rcases special with rfl | rfl | rfl | rfl | rfl <;> decide +kernel
  · rw [escapeToken_plain special]
    intro member
    have same : lessThan = c := List.mem_singleton.mp member
    exact special (same ▸ List.mem_cons_self)

/-! ## Marks -/

/-- A character that the rules look for: it is plain and stands in no token but as itself. -/
def isMark (c : UInt16) : Prop := Plain c ∧ isWord c = false ∧ isSpaceUnit c = false

instance : DecidablePred isMark := fun _ => inferInstanceAs (Decidable (_ ∧ _ ∧ _))

/-- Tokens that are a mark. -/
def MarkTokens (mark : Units) (tokens : List Token) : Prop :=
  html tokens = mark ∧ ∀ x ∈ tokens, ∃ c isPlain, x = .plain c isPlain ∧ c ∈ mark

variable {line : List Token} {mark : Units} {blocks : List (List Token)} {tokens'' : List Token}
  {rule : InlineRule} {inner : Units} {w : Units} {n : Nat}

theorem split_first_run (plain : ∀ c ∈ w, Plain c) (same : html tokens = w ++ s) :
    ∃ run rest, tokens = run ++ rest ∧ MarkTokens w run ∧ html rest = s := by
  induction w generalizing tokens with
  | nil => exact ⟨[], tokens, rfl, ⟨rfl, nofun⟩, same⟩
  | cons c w ih =>
    obtain ⟨here, later⟩ := List.forall_mem_cons.mp plain
    obtain ⟨rest, rfl, rest_html⟩ := code.split_first (d := .plain c here) same
    obtain ⟨run, rest, rfl, ⟨is, members⟩, rest_html⟩ := ih later rest_html
    refine ⟨.plain c here :: run, rest, rfl, ⟨?_, ?_⟩, rest_html⟩
    · rw [html_cons, is]
      rfl
    · intro x member
      rcases List.mem_cons.mp member with rfl | among
      · exact ⟨c, here, rfl, List.mem_cons_self⟩
      · obtain ⟨d, isPlain, same, within⟩ := members x among
        exact ⟨d, isPlain, same, List.mem_cons_of_mem _ within⟩

theorem split_mark (some : mark ≠ []) (marks : ∀ c ∈ mark, isMark c)
    (same : html tokens = front ++ (mark ++ s)) :
    ∃ before run after, tokens = before ++ (run ++ after) ∧ html before = front ∧
      MarkTokens mark run ∧ html after = s := by
  cases mark with
  | nil => exact absurd rfl some
  | cons c mark =>
    obtain ⟨⟨isPlain, other, -⟩, later⟩ := List.forall_mem_cons.mp marks
    obtain ⟨before, after, rfl, before_html, after_html⟩ :=
      code.split (plain_marks isPlain other) same
    obtain ⟨run, rest, rfl, ⟨is, members⟩, rest_html⟩ :=
      split_first_run (fun d member => (later d member).1) after_html
    refine ⟨before, .plain c isPlain :: run, rest, by simp, before_html, ⟨?_, ?_⟩, rest_html⟩
    · rw [html_cons, is]
      rfl
    · intro x member
      rcases List.mem_cons.mp member with rfl | among
      · exact ⟨c, isPlain, rfl, List.mem_cons_self⟩
      · obtain ⟨d, isPlain, same, within⟩ := members x among
        exact ⟨d, isPlain, same, List.mem_cons_of_mem _ within⟩

theorem split_delimited {mark inner rest : Units} (some : mark ≠ [])
    (marks : ∀ c ∈ mark, isMark c)
    (same : html tokens = front ++ (mark ++ (inner ++ (mark ++ rest)))) :
    ∃ before opening between closing after,
      tokens = before ++ (opening ++ (between ++ (closing ++ after))) ∧
      html before = front ∧ MarkTokens mark opening ∧ html between = inner ∧
      MarkTokens mark closing ∧ html after = rest := by
  obtain ⟨before, opening, others, rfl, before_html, opens, others_html⟩ :=
    split_mark some marks same
  obtain ⟨between, closing, after, rfl, between_html, closes, after_html⟩ :=
    split_mark some marks others_html
  exact ⟨before, opening, between, closing, after, rfl, before_html, opens, between_html, closes,
    after_html⟩

/-! ## Code blocks -/

/-- The numbers of the comments. -/
def comments (tokens : List Token) : List Nat :=
  tokens.filterMap fun
    | .comment n => some n
    | _ => none

@[simp] theorem comments_append :
    comments (tokens ++ tokens') = comments tokens ++ comments tokens' :=
  List.filterMap_append

/-- Neither a tag nor a comment among the tokens. -/
def IsText (tokens : List Token) : Prop := ∀ x ∈ tokens, x.isText = true

/-- No tag among the tokens. -/
def NoTag (tokens : List Token) : Prop := ∀ t, .tag t ∉ tokens

theorem IsText.comments (text : IsText tokens) : comments tokens = [] := by
  rw [Markdown.comments, List.filterMap_eq_nil_iff]
  intro x member
  have isText := text x member
  cases x <;> first | rfl | cases isText

theorem isText_of_absent (absent : lessThan ∉ html tokens) : IsText tokens := by
  intro x member
  have within {y : Token} (enclosed : Enclosed lessThan greaterThan y.text) : y ∉ tokens := by
    intro among
    obtain ⟨body, same, -⟩ := enclosed
    refine absent (List.mem_flatMap.mpr ⟨y, among, ?_⟩)
    rw [same]
    exact List.mem_cons_self
  cases x with
  | tag t => exact absurd member (within t.enclosed)
  | comment n => exact absurd member (within (placeholder_enclosed n))
  | _ => rfl

/-- The tokens of the element of a code. -/
def blockTokens (code : List Token) : List Token :=
  .tag .pre :: .tag .code :: (code ++ [.tag .codeEnd, .tag .preEnd])

theorem html_blockTokens (code : List Token) :
    html (blockTokens code) =
      units "<pre>" ++ units "<code>" ++ html code ++ units "</code>" ++ units "</pre>" := by
  simp [blockTokens, Token.text, Tag.text]

theorem split_last (isPlain : Plain c) (other : isWord c = false) (text : IsText tokens)
    (same : html tokens = s ++ [c]) : ∃ init, IsText init ∧ html init = s := by
  obtain ⟨before, after, rfl, before_html, -⟩ := code.split (plain_marks isPlain other) same
  exact ⟨before, fun x member => text x (List.mem_append_left _ member), before_html⟩

theorem dropLineEnd_tokens (text : IsText tokens) :
    ∃ code, IsText code ∧ html code = dropLineEnd (html tokens) := by
  unfold dropLineEnd
  split_ifs with both one
  · obtain ⟨init, same⟩ := both
    obtain ⟨code, code_text, code_html⟩ := split_last (s := init ++ [carriageReturn])
      (c := lineFeed) (by decide) (by decide) text (by rw [← same]; simp)
    obtain ⟨code', code_text', code_html'⟩ :=
      split_last (c := carriageReturn) (by decide) (by decide) code_text code_html
    refine ⟨code', code_text', ?_⟩
    rw [code_html', ← same]
    simp
  · obtain ⟨init, same⟩ := one
    obtain ⟨code, code_text, code_html⟩ :=
      split_last (c := lineFeed) (by decide) (by decide) text same.symm
    refine ⟨code, code_text, ?_⟩
    rw [code_html, ← same]
    simp
  · exact ⟨tokens, text, rfl⟩

theorem fencedCode_eq_some (found : fencedCode s = some inner) :
    ∃ rest, s = fence ++ (inner ++ (fence ++ rest)) := by
  unfold fencedCode at found
  split at found
  · next begins =>
    obtain ⟨after, rfl⟩ := begins
    obtain ⟨rest, same, -⟩ := before_eq_some found
    rw [show (fence ++ after).drop 3 = after from rfl] at same
    exact ⟨rest, by rw [same]⟩
  · cases found

theorem replaceBlocksFrom_eq (skip n : Nat) (s : Units) :
    replaceBlocksFrom skip n s = replaceBlocksFrom 0 n (s.drop skip) := by
  induction s generalizing skip with
  | nil =>
    rw [List.drop_nil]
    cases skip <;> rfl
  | cons c s ih =>
    cases skip with
    | zero => rfl
    | succ skip =>
      rw [replaceBlocksFrom, ih]
      rfl

theorem fence_mark : ∀ c ∈ fence, isMark c := List.all_iff_forall_prop.mp (by decide)

theorem MarkTokens.isText (marks : MarkTokens mark tokens) : IsText tokens := by
  intro x member
  obtain ⟨_, _, rfl, _⟩ := marks.2 x member
  rfl

theorem NoTag.append_iff : NoTag (tokens ++ tokens') ↔ NoTag tokens ∧ NoTag tokens' := by
  simp only [NoTag, List.mem_append, not_or, forall_and]

theorem replaceBlock_tokens (n : Nat) {inner rest : Units} (free : NoTag tokens)
    (absent : lessThan ∉ fence ++ (inner ++ (fence ++ rest)))
    (same : html tokens = front ++ (fence ++ (inner ++ (fence ++ rest)))) :
    ∃ tokens' code, html tokens' = (front ++ placeholder n) ++ rest ∧ NoTag tokens' ∧
      codeBlock inner = html (blockTokens code) ∧ IsText code ∧
      comments tokens' = comments tokens ++ [n] := by
  obtain ⟨before, opening, between, closing, after, rfl, rfl, opens, rfl, closes, rfl⟩ :=
    split_delimited (by decide) fence_mark same
  simp only [List.mem_append, not_or] at absent
  have between_text : IsText between := isText_of_absent absent.2.1
  have after_text : IsText after := isText_of_absent absent.2.2.2
  obtain ⟨code, code_text, code_html⟩ := dropLineEnd_tokens between_text
  simp only [NoTag.append_iff] at free
  refine ⟨before ++ (.comment n :: after), code, ?_, ?_, ?_, code_text, ?_⟩
  · simp [Token.text]
  · refine NoTag.append_iff.mpr ⟨free.1, fun t member => ?_⟩
    rcases List.mem_cons.mp member with other | among
    · cases other
    · exact free.2.2.2.2 t among
  · rw [html_blockTokens, code_html, codeBlock]
  · have single : comments (.comment n :: after) = n :: comments after := rfl
    simp [single, opens.isText.comments, between_text.comments, closes.isText.comments,
      after_text.comments]

theorem replaceBlocks_tokens (n : Nat) (absent : lessThan ∉ s) (free : NoTag tokens)
    (same : html tokens = front ++ s) : ∃ (tokens' : List Token) (codes : List (List Token)),
      html tokens' = front ++ (replaceBlocksFrom 0 n s).1 ∧ NoTag tokens' ∧
      (replaceBlocksFrom 0 n s).2 = codes.map (fun code => html (blockTokens code)) ∧
      (∀ code ∈ codes, IsText code) ∧
      comments tokens' = comments tokens ++ List.range' n codes.length := by
  induction length : s.length using Nat.strongRecOn generalizing n s tokens front with
  | ind k ih =>
    cases s with
    | nil => exact ⟨tokens, [], same, free, rfl, nofun, by simp⟩
    | cons c s =>
      rw [replaceBlocksFrom]
      cases found : fencedCode (c :: s) with
      | none =>
        have shorter : s.length < k := by
          rw [← length]
          exact Nat.lt_succ_self _
        have same' : html tokens = (front ++ [c]) ++ s := by rw [same, List.append_cons]
        obtain ⟨tokens', codes, is, rest⟩ := ih _ shorter n
          (fun member => absent (List.mem_cons_of_mem _ member)) free same' rfl
        exact ⟨tokens', codes, by rw [is]; simp, rest⟩
      | some inner =>
        obtain ⟨rest, whole⟩ := fencedCode_eq_some found
        have behind : s.drop (inner.length + 5) = rest := by
          have dropped : (c :: s).drop (inner.length + 6) = rest := by
            rw [whole, ← List.append_assoc, ← List.append_assoc]
            exact List.drop_left' (by simp [fence])
          rwa [List.drop_succ_cons] at dropped
        have shorter : rest.length < k := by
          rw [← behind, ← length, List.length_drop, List.length_cons]
          omega
        rw [whole] at same absent
        obtain ⟨tokens', code, is, free', block, code_text, numbered⟩ :=
          replaceBlock_tokens n free absent same
        have absent' : lessThan ∉ rest := fun member => absent (by simp [member])
        obtain ⟨tokens'', codes, is', free'', blocks, texts, numbered'⟩ :=
          ih _ shorter (n + 1) absent' free' is rfl
        simp only [replaceBlocksFrom_eq (inner.length + 5), behind]
        refine ⟨tokens'', code :: codes, ?_, free'', ?_, ?_, ?_⟩
        · rw [is', List.append_assoc]
        · rw [block, blocks, List.map_cons]
        · exact List.forall_mem_cons.mpr ⟨code_text, texts⟩
        · rw [numbered', numbered, List.length_cons, List.range'_succ]
          simp

/-! ## Inline rules -/

/-- A token that `trim` may cut off or that a line may consist of besides: whitespace, a comment. -/
def Token.isBlank : Token → Bool
  | comment _ => true
  | plain c _ => isSpaceUnit c
  | _ => false

/-- The end of a line. -/
def Token.isLineFeed : Token → Bool
  | plain c _ => c = lineFeed
  | _ => false

/-- Of every line the comments, and whether there is nothing else but whitespace. -/
def summary : List Token → List (List Nat × Bool)
  | [] => [([], true)]
  | x :: tokens =>
    if x.isLineFeed then ([], true) :: summary tokens
    else (summary tokens).modifyHead fun line => (comments [x] ++ line.1, x.isBlank && line.2)

/-- Tokens with the same lines, as far as comments go, and no `pre` that was not there. -/
def SameLines (tokens tokens' : List Token) : Prop :=
  summary tokens = summary tokens' ∧ (.tag .pre ∉ tokens → .tag .pre ∉ tokens')

/-- Tokens that are neither blank nor a comment. -/
def Solid (tokens : List Token) : Prop :=
  ∀ x ∈ tokens, x.isLineFeed = false ∧ x.isBlank = false

theorem summary_append_congr (same : summary tokens = summary tokens') (before : List Token) :
    summary (before ++ tokens) = summary (before ++ tokens') := by
  induction before with
  | nil => exact same
  | cons x before ih => rw [List.cons_append, List.cons_append, summary, summary, ih]

theorem comments_singleton_of_not_blank (other : x.isBlank = false) : comments [x] = [] := by
  cases x <;> first | rfl | cases other

theorem summary_solid {solid : List Token} (isSolid : Solid solid) (some : solid ≠ []) :
    summary (solid ++ tokens) = (summary tokens).modifyHead fun line => (line.1, false) := by
  induction solid with
  | nil => exact absurd rfl some
  | cons x solid ih =>
    obtain ⟨⟨sameLine, other⟩, later⟩ := List.forall_mem_cons.mp isSolid
    rw [List.cons_append, summary, if_neg (by rw [sameLine]; decide),
      comments_singleton_of_not_blank other, other]
    cases solid with
    | nil => simp
    | cons y solid =>
      rw [ih later (List.cons_ne_nil _ _), List.modifyHead_modifyHead]
      rfl

theorem tag_solid (t : Tag) : Solid [.tag t] := by
  intro x member
  rw [List.mem_singleton] at member
  subst member
  exact ⟨rfl, rfl⟩

theorem MarkTokens.solid (marks : ∀ c ∈ mark, isMark c)
    (is : MarkTokens mark tokens) : Solid tokens := by
  intro x member
  obtain ⟨c, isPlain, rfl, among⟩ := is.2 x member
  obtain ⟨-, -, noSpace⟩ := marks c among
  refine ⟨?_, noSpace⟩
  rw [Token.isLineFeed, decide_eq_false_iff_not]
  rintro rfl
  exact absurd noSpace (by decide)

theorem sameLines_tag {before run after : List Token} (some : mark ≠ [])
    (marks : ∀ c ∈ mark, isMark c) (is : MarkTokens mark run) {t : Tag} (other : t ≠ .pre) :
    SameLines (before ++ (run ++ after)) (before ++ (.tag t :: after)) := by
  constructor
  · apply summary_append_congr
    have someRun : run ≠ [] := by
      rintro rfl
      exact some is.1.symm
    rw [summary_solid (is.solid marks) someRun, ← List.singleton_append,
      summary_solid (tag_solid t) (List.cons_ne_nil _ _)]
  · intro absent
    simp only [List.mem_append, List.mem_cons, not_or] at absent ⊢
    refine ⟨absent.1, ?_, absent.2.2⟩
    intro same
    exact other (Token.tag.inj same).symm

theorem SameLines.refl (tokens : List Token) : SameLines tokens tokens := ⟨rfl, id⟩

theorem SameLines.trans (one : SameLines tokens tokens')
    (two : SameLines tokens' tokens'') : SameLines tokens tokens'' :=
  ⟨one.1.trans two.1, two.2 ∘ one.2⟩

/-- What is known of a rule: its marks, and its tags. -/
structure InlineRule.Sound (rule : InlineRule) : Prop where
  some : rule.mark ≠ []
  marks : ∀ c ∈ rule.mark, isMark c
  tags : ∃ opening closing : Tag, rule.opening = opening.text ∧ rule.closing = closing.text ∧
    opening ≠ .pre ∧ closing ≠ .pre

theorem InlineRule.inner_eq_some (found : rule.inner s = some inner) :
    ∃ rest, s = rule.mark ++ (inner ++ (rule.mark ++ rest)) := by
  unfold InlineRule.inner at found
  split at found
  · next begins =>
    obtain ⟨after, rfl⟩ := begins
    rw [List.drop_left] at found
    split at found
    · cases found
    · next c rest =>
      split at found
      · obtain ⟨inner', found', rfl⟩ := Option.map_eq_some_iff.mp found
        obtain ⟨rest, rfl, -⟩ := before_eq_some found'
        exact ⟨rest, rfl⟩
      · cases found
  · cases found

/-- A relation of texts whose tokens have the same lines. -/
def HtmlSameLines (s t : Units) : Prop :=
  ∀ tokens, html tokens = s → ∃ tokens', html tokens' = t ∧ SameLines tokens tokens'

theorem InlineRule.Sound.apply_tokens (sound : rule.Sound) (s : Units) :
    HtmlSameLines s (rule.apply s) := by
  refine replaceAll_rel (R := HtmlSameLines) ?_ ?_ ?_ [] s
  · exact fun s tokens same => ⟨tokens, same, .refl _⟩
  · intro s t u one two tokens same
    obtain ⟨tokens', same', lines⟩ := one tokens same
    obtain ⟨tokens'', same'', lines'⟩ := two tokens' same'
    exact ⟨tokens'', same'', lines.trans lines'⟩
  · intro front s replacement length found
    obtain ⟨inner, found', is⟩ := Option.map_eq_some_iff.mp found
    cases is
    obtain ⟨rest, rfl⟩ := InlineRule.inner_eq_some found'
    have long : 0 < rule.mark.length := List.length_pos_of_ne_nil sound.some
    refine ⟨by omega, fun tokens same => ?_⟩
    have behind : (rule.mark ++ (inner ++ (rule.mark ++ rest))).drop
        (2 * rule.mark.length + inner.length) = rest := by
      rw [← List.append_assoc, ← List.append_assoc]
      exact List.drop_left' (by
        simp only [List.length_append]
        omega)
    obtain ⟨opening, closing, opens, closes, noPre, noPre'⟩ := sound.tags
    obtain ⟨before, opened, between, closed, after, rfl, rfl, isOpened, rfl, isClosed, rfl⟩ :=
      split_delimited sound.some sound.marks same
    refine ⟨before ++ (.tag opening :: (between ++ (.tag closing :: after))), ?_, ?_⟩
    · rw [behind, opens, closes]
      simp [Token.text]
    · have first : SameLines (before ++ (opened ++ (between ++ (closed ++ after))))
          (before ++ (.tag opening :: (between ++ (closed ++ after)))) :=
        sameLines_tag sound.some sound.marks isOpened noPre
      have second : SameLines ((before ++ .tag opening :: between) ++ (closed ++ after))
          ((before ++ .tag opening :: between) ++ (.tag closing :: after)) :=
        sameLines_tag sound.some sound.marks isClosed noPre'
      refine first.trans ?_
      simpa using second

theorem inlineRules_sound : ∀ rule ∈ inlineRules, rule.Sound := by
  intro rule member
  simp only [inlineRules, List.mem_cons, List.not_mem_nil, or_false] at member
  rcases member with rfl | rfl | rfl | rfl | rfl <;>
    refine ⟨by decide, List.all_iff_forall_prop.mp (by decide), ?_⟩
  · exact ⟨.code, .codeEnd, rfl, rfl, by decide, by decide⟩
  · exact ⟨.strong, .strongEnd, rfl, rfl, by decide, by decide⟩
  · exact ⟨.strong, .strongEnd, rfl, rfl, by decide, by decide⟩
  · exact ⟨.em, .emEnd, rfl, rfl, by decide, by decide⟩
  · exact ⟨.em, .emEnd, rfl, rfl, by decide, by decide⟩

theorem applyInline_tokens (tokens : List Token) : ∃ tokens',
    html tokens' = applyInline (html tokens) ∧ SameLines tokens tokens' := by
  have all : ∀ (rules : List InlineRule) (tokens : List Token), (∀ rule ∈ rules, rule.Sound) →
      ∃ tokens', html tokens' = rules.foldl (fun s rule => rule.apply s) (html tokens) ∧
        SameLines tokens tokens' := by
    intro rules
    induction rules with
    | nil => exact fun tokens _ => ⟨tokens, rfl, .refl _⟩
    | cons rule rules ih =>
      intro tokens sound
      obtain ⟨here, later⟩ := List.forall_mem_cons.mp sound
      obtain ⟨tokens', is, lines⟩ := here.apply_tokens (html tokens) tokens rfl
      obtain ⟨tokens'', is', lines'⟩ := ih tokens' later
      exact ⟨tokens'', by rw [is', is, List.foldl_cons], lines.trans lines'⟩
  exact all inlineRules tokens inlineRules_sound

/-! ## Lines -/

/-- A carriage return. -/
def Token.isReturn : Token → Bool
  | plain c _ => c = carriageReturn
  | _ => false

/-- The lines of some tokens. -/
def lines : List Token → List (List Token)
  | [] => [[]]
  | x :: tokens =>
    if x.isLineFeed then [] :: lines tokens
    else if x.isReturn ∧ tokens.head?.any Token.isLineFeed then lines tokens
    else (lines tokens).modifyHead (x :: ·)

theorem enclosed_unbroken {first last : UInt16} (enclosed : Enclosed first last s)
    (ends : first = lessThan ∧ last = greaterThan ∨ first = ampersand ∧ last = semicolon) :
    ∀ c ∈ s, c ≠ lineFeed ∧ c ≠ carriageReturn := by
  obtain ⟨body, rfl, words, -⟩ := enclosed
  intro c member
  rcases List.mem_cons.mp member with rfl | later
  · rcases ends with ⟨rfl, -⟩ | ⟨rfl, -⟩ <;> decide
  · rcases List.mem_append.mp later with among | single
    · have word := words c among
      constructor <;> rintro rfl <;> exact absurd word (by decide)
    · rw [List.mem_singleton] at single
      subst single
      rcases ends with ⟨-, rfl⟩ | ⟨-, rfl⟩ <;> decide

theorem splitLines_unbroken (unbroken : ∀ c ∈ w, c ≠ lineFeed ∧ c ≠ carriageReturn)
    (s : Units) : splitLines (w ++ s) = (splitLines s).modifyHead (w ++ ·) := by
  induction w with
  | nil =>
    rw [List.nil_append]
    cases splitLines s <;> rfl
  | cons c w ih =>
    obtain ⟨⟨feed, ret⟩, later⟩ := List.forall_mem_cons.mp unbroken
    rw [List.cons_append, splitLines, if_neg feed, if_neg (fun both => ret both.1), ih later,
      List.modifyHead_modifyHead]
    rfl

theorem head_html_lineFeed (tokens : List Token) :
    (html tokens).head? = some lineFeed ↔ tokens.head?.any Token.isLineFeed = true := by
  cases tokens with
  | nil => simp
  | cons x tokens =>
    have other {first last} (enclosed : Enclosed first last x.text) (differs : first ≠ lineFeed) :
        (html (x :: tokens)).head? ≠ some lineFeed := by
      obtain ⟨body, same, -⟩ := enclosed
      rw [html_cons, same]
      simpa using differs
    cases x with
    | tag t => simpa [Token.isLineFeed] using other t.enclosed (by decide)
    | comment n => simpa [Token.isLineFeed] using other (placeholder_enclosed n) (by decide)
    | entity e => simpa [Token.isLineFeed] using other e.enclosed (by decide)
    | plain c => simp [Token.isLineFeed, Token.text]

theorem splitLines_tokens (tokens : List Token) :
    splitLines (html tokens) = (lines tokens).map html := by
  induction tokens with
  | nil => rfl
  | cons x tokens ih =>
    have whole {first last} (enclosed : Enclosed first last x.text)
        (ends : first = lessThan ∧ last = greaterThan ∨ first = ampersand ∧ last = semicolon)
        (feed : x.isLineFeed = false) (ret : x.isReturn = false) :
        splitLines (html (x :: tokens)) = (lines (x :: tokens)).map html := by
      rw [html_cons, splitLines_unbroken (enclosed_unbroken enclosed ends), ih, lines,
        if_neg (by rw [feed]; decide),
        if_neg (by rw [ret]; exact fun both => absurd both.1 (by decide))]
      cases lines tokens <;> simp
    cases x with
    | tag t => exact whole t.enclosed (.inl ⟨rfl, rfl⟩) rfl rfl
    | comment n => exact whole (placeholder_enclosed n) (.inl ⟨rfl, rfl⟩) rfl rfl
    | entity e => exact whole e.enclosed (.inr ⟨rfl, rfl⟩) rfl rfl
    | plain c isPlain =>
      have cons : html (.plain c isPlain :: tokens) = c :: html tokens := rfl
      rw [cons, splitLines, lines]
      simp only [Token.isLineFeed, Token.isReturn, decide_eq_true_eq, head_html_lineFeed]
      split
      · rw [ih]
        rfl
      · split
        · exact ih
        · rw [ih]
          cases lines tokens <;> rfl

theorem summary_eq (tokens : List Token) :
    summary tokens = (lines tokens).map fun line => (comments line, line.all Token.isBlank) := by
  induction tokens with
  | nil => rfl
  | cons x tokens ih =>
    rw [summary, lines, ih]
    split
    · rfl
    · split
      · next both =>
        have blank : x.isBlank = true ∧ comments [x] = [] := by
          cases x with
          | plain c =>
            have same : c = carriageReturn := by simpa [Token.isReturn] using both.1
            subst same
            exact ⟨show isSpaceUnit carriageReturn = true by decide, rfl⟩
          | _ => cases both.1
        rw [blank.1, blank.2]
        cases lines tokens <;> simp
      · cases lines tokens with
        | nil => rfl
        | cons line lines =>
          have split : comments (x :: line) = comments [x] ++ comments line :=
            @comments_append [x] line
          simp [split]

/-! ## Trimming -/

/-- Whitespace. -/
def Token.isSpace : Token → Bool
  | plain c _ => isSpaceUnit c
  | _ => false

/-- A line of tokens without the whitespace at its ends. -/
def trimTokens (line : List Token) : List Token := trimBy Token.isSpace line

theorem ends_of_not_space (other : x.isSpace = false) :
    (∃ c s, x.text = c :: s ∧ isSpaceUnit c = false) ∧
      ∃ s c, x.text = s ++ [c] ∧ isSpaceUnit c = false := by
  have ends {first last} (enclosed : Enclosed first last x.text)
      (noSpace : isSpaceUnit first = false ∧ isSpaceUnit last = false) :
      (∃ c s, x.text = c :: s ∧ isSpaceUnit c = false) ∧
        ∃ s c, x.text = s ++ [c] ∧ isSpaceUnit c = false := by
    obtain ⟨body, same, -⟩ := enclosed
    exact ⟨⟨first, _, same, noSpace.1⟩, first :: body, last, by rw [same]; rfl, noSpace.2⟩
  cases x with
  | tag t => exact ends t.enclosed (by decide)
  | comment n => exact ends (placeholder_enclosed n) (by decide)
  | entity e => exact ends e.enclosed (by decide)
  | plain c => exact ⟨⟨c, [], rfl, other⟩, [], c, rfl, other⟩

theorem dropWhile_html (tokens : List Token) :
    (html tokens).dropWhile isSpaceUnit = html (tokens.dropWhile Token.isSpace) := by
  induction tokens with
  | nil => rfl
  | cons x tokens ih =>
    cases space : x.isSpace with
    | true =>
      cases x with
      | plain c =>
        have here : isSpaceUnit c = true := space
        rw [List.dropWhile_cons_of_pos space, ← ih, html_cons]
        exact List.dropWhile_cons_of_pos here
      | _ => cases space
    | false =>
      obtain ⟨⟨c, s, same, noSpace⟩, -⟩ := ends_of_not_space space
      rw [List.dropWhile_cons_of_neg (by rw [space]; decide), html_cons, same, List.cons_append,
        List.dropWhile_cons_of_neg (by rw [noSpace]; decide)]

theorem rdropWhile_html (tokens : List Token) :
    (html tokens).rdropWhile isSpaceUnit = html (tokens.rdropWhile Token.isSpace) := by
  induction tokens using List.reverseRecOn with
  | nil => rfl
  | append_singleton tokens x ih =>
    rw [html_append, html_cons, html_nil, List.append_nil]
    cases space : x.isSpace with
    | true =>
      cases x with
      | plain c =>
        rw [List.rdropWhile_concat_pos _ _ _ space, ← ih]
        exact List.rdropWhile_concat_pos _ _ _ space
      | _ => cases space
    | false =>
      obtain ⟨-, s, c, same, noSpace⟩ := ends_of_not_space space
      rw [List.rdropWhile_concat_neg _ _ _ (by rw [space]; decide), same, ← List.append_assoc,
        List.rdropWhile_concat_neg _ _ _ (by rw [noSpace]; decide), html_append, html_cons, same,
        html_nil, List.append_nil, List.append_assoc]

theorem trim_html (line : List Token) : trim (html line) = html (trimTokens line) := by
  rw [trim, trimBy, dropWhile_html, rdropWhile_html]
  rfl

theorem trimTokens_eq (line : List Token) : ∃ before after,
    line = before ++ (trimTokens line ++ after) ∧ (∀ x ∈ before, x.isSpace = true) ∧ ∀ x ∈ after, x.isSpace = true := by
  refine ⟨line.takeWhile Token.isSpace, (line.dropWhile Token.isSpace).rtakeWhile Token.isSpace,
    ?_, fun x => List.mem_takeWhile_imp, fun x => List.mem_rtakeWhile_imp⟩
  rw [trimTokens, trimBy, List.rdropWhile_append_rtakeWhile, List.takeWhile_append_dropWhile]

theorem comments_of_spaces (spaces : ∀ x ∈ tokens, x.isSpace = true) : comments tokens = [] := by
  rw [comments, List.filterMap_eq_nil_iff]
  intro x member
  have space := spaces x member
  cases x <;> first | rfl | cases space

theorem comments_trimTokens (line : List Token) : comments (trimTokens line) = comments line := by
  obtain ⟨before, after, same, spaces, spaces'⟩ := trimTokens_eq line
  rw [congrArg comments same]
  simp [comments_of_spaces spaces, comments_of_spaces spaces']

/-! ## Matches of a line -/

theorem placeholderDigits_isDigit (n : Nat) : ∀ c ∈ placeholderDigits n, isDigit c = true := by
  intro c member
  obtain ⟨lower, upper⟩ := digit_unit member
  simp only [isDigit, Bool.and_eq_true, decide_eq_true_eq, UInt16.le_iff_toNat_le]
  exact ⟨lower, upper⟩

theorem placeholderDigits_ne_nil (n : Nat) : placeholderDigits n ≠ [] := by
  rw [placeholderDigits, Ne, List.map_eq_nil_iff]
  exact Nat.toDigits_ne_nil

theorem placeholderMatch_placeholder (n : Nat) (s : Units) :
    placeholderMatch (placeholder n ++ s) = if s = [] then some n else none := by
  have split : placeholder n ++ s =
      units "<!--tokenplacecodeblock" ++ (placeholderDigits n ++ (units "-->" ++ s)) := by
    rw [placeholder_eq]
    simp only [List.append_assoc]
  have stops : (units "-->" ++ s).head?.all (!isDigit ·) = true := rfl
  have digits : (placeholderDigits n ++ (units "-->" ++ s)).takeWhile isDigit =
      placeholderDigits n := by
    rw [List.takeWhile_append_of_pos (placeholderDigits_isDigit n)]
    have none' : (units "-->" ++ s).takeWhile isDigit = [] := rfl
    rw [none', List.append_nil]
  have behind : (placeholderDigits n ++ (units "-->" ++ s)).dropWhile isDigit =
      units "-->" ++ s := by
    rw [List.dropWhile_append_of_pos (placeholderDigits_isDigit n)]
    rfl
  rw [placeholderMatch, split]
  simp only [List.prefix_append, if_true, List.drop_left, digits, behind, ne_eq,
    placeholderDigits_ne_nil, not_false_eq_true, true_and, List.append_right_eq_self]
  split
  · exact congrArg some (digitsValue_placeholderDigits n)
  · rfl

theorem not_placeholder_start (other : ∀ n, x ≠ .comment n) (s : Units) :
    ¬ units "<!--tokenplacecodeblock" <+: x.text ++ s := by
  rintro ⟨rest, same⟩
  have first : (x.text ++ s)[0]? = some lessThan := by
    rw [← same]
    rfl
  have second : (x.text ++ s)[1]? = some 0x21 := by
    rw [← same]
    rfl
  cases x with
  | tag t => exact t.second s second
  | comment n => exact other n rfl
  | entity e =>
    obtain ⟨body, text, -⟩ := e.enclosed
    rw [show (Token.entity e).text = e.text from rfl, text] at first
    exact absurd (Option.some.inj first) (by decide)
  | plain c isPlain =>
    have special : c = lessThan := Option.some.inj first
    subst special
    exact absurd isPlain (by decide)

theorem placeholderMatch_html (tokens : List Token) :
    placeholderMatch (html tokens) = match tokens with
      | [.comment n] => some n
      | _ => none := by
  cases tokens with
  | nil => decide +kernel
  | cons x rest =>
    by_cases comment : ∃ n, x = .comment n
    · obtain ⟨n, rfl⟩ := comment
      rw [html_cons, Token.text, placeholderMatch_placeholder]
      cases rest with
      | nil => rfl
      | cons y rest =>
        have some : html (y :: rest) ≠ [] := by
          rw [html_cons]
          exact List.append_ne_nil_of_left_ne_nil (code.some y) _
        rw [if_neg some]
    · have other : ∀ n, x ≠ .comment n := fun n same => comment ⟨n, same⟩
      rw [html_cons, placeholderMatch, if_neg (not_placeholder_start other _)]
      cases x with
      | comment n => exact absurd rfl (other n)
      | _ => rfl

theorem listMatch_html {item : Units} (found : listMatch (html tokens) = some item) :
    ∃ rest, html rest = item ∧ comments rest = comments tokens ∧
      (.tag .pre ∉ tokens → .tag .pre ∉ rest) := by
  cases same : html tokens with
  | nil =>
    rw [same] at found
    cases found
  | cons c s =>
    rw [same, listMatch] at found
    split at found
    · next both =>
      have isPlain : Plain c := by
        rcases both.1 with rfl | rfl <;> decide
      obtain ⟨line, rfl, rfl⟩ := code.split_first (d := .plain c isPlain) same
      have item_html := Option.some.inj found
      rw [dropWhile_html] at item_html
      refine ⟨line.dropWhile Token.isSpace, item_html, ?_, ?_⟩
      · have whole := congrArg comments (List.takeWhile_append_dropWhile (p := Token.isSpace)
          (l := line))
        rw [comments_append, comments_of_spaces fun x => List.mem_takeWhile_imp] at whole
        exact whole
      · exact fun absent member =>
          absent (List.mem_cons_of_mem _ ((List.dropWhile_suffix _).mem member))
    · cases found

/-! ## The parts of a message -/

/-- The comments of a line that are left in what it is rendered to. -/
def leftover (line : List Token) : List Nat :=
  match trimTokens line with
  | [.comment _] => []
  | _ => comments line

/-- `flushList`, on tokens. -/
def flushTokens (items : List (List Token)) : List (List Token) :=
  if items.isEmpty then []
  else [.tag .ul :: (items.flatMap fun item => .tag .li :: (item ++ [.tag .liEnd])) ++
    [.tag .ulEnd]]

/-- The parts, each behind a break. -/
def behindBreaks (parts : List (List Token)) : List Token := parts.flatMap (.tag .br :: ·)

/-- Some blocks in their order, and no other `pre` between them. -/
inductive Blocks : List (List Token) → List Token → Prop
  | gap {gap : List Token} (free : .tag .pre ∉ gap) : Blocks [] gap
  | block {gap block rest : List Token} {blocks : List (List Token)} (free : .tag .pre ∉ gap)
    (more : Blocks blocks rest) : Blocks (block :: blocks) (gap ++ (block ++ rest))

theorem Blocks.prepend {rest : List Token} (more : Blocks blocks rest)
    {gap : List Token} (free : .tag .pre ∉ gap) : Blocks blocks (gap ++ rest) := by
  cases more with
  | gap free' => exact .gap (by simp [free, free'])
  | block free' more =>
    rw [← List.append_assoc]
    exact .block (by simp [free, free']) more

theorem flushList_html (items : List (List Token)) :
    flushList (items.map html) = (flushTokens items).map html := by
  cases items with
  | nil => rfl
  | cons item items =>
    have inner : ((item :: items).map html).flatMap
        (fun item => units "<li>" ++ item ++ units "</li>") =
        html ((item :: items).flatMap fun item => .tag .li :: (item ++ [.tag .liEnd])) := by
      generalize item :: items = all
      induction all with
      | nil => rfl
      | cons item all ih =>
        rw [List.map_cons, List.flatMap_cons, ih, List.flatMap_cons]
        simp [Token.text, Tag.text]
    rw [flushList, if_neg (by simp), inner, flushTokens, if_neg (by simp), List.map_singleton]
    simp only [List.cons_append, html_cons, html_append, html_nil, Token.text, Tag.text,
      List.append_nil, List.append_assoc]

theorem comments_flushTokens (items : List (List Token)) :
    (flushTokens items).flatMap comments = items.flatMap comments := by
  cases items with
  | nil => rfl
  | cons item items =>
    have inner : comments
        ((item :: items).flatMap fun item => .tag .li :: (item ++ [.tag .liEnd])) =
        (item :: items).flatMap comments := by
      generalize item :: items = all
      induction all with
      | nil => rfl
      | cons item all ih =>
        have single : comments (.tag .li :: (item ++ [.tag .liEnd])) = comments item :=
          comments_append.trans (List.append_nil _)
        rw [List.flatMap_cons, comments_append, single, ih, List.flatMap_cons]
    rw [← inner, flushTokens, if_neg (by simp), List.flatMap_singleton]
    exact comments_append.trans (List.append_nil _)

theorem flushTokens_free {items : List (List Token)} (free : ∀ item ∈ items, .tag .pre ∉ item) :
    .tag .pre ∉ behindBreaks (flushTokens items) := by
  unfold flushTokens behindBreaks
  split
  · nofun
  · simp only [List.flatMap_singleton, List.mem_cons, List.mem_append, List.mem_flatMap,
      List.cons_append]
    rintro (same | same | ⟨item, among, same | inside | same⟩ | same)
    · cases same
    · cases same
    · cases same
    · exact free item among inside
    · cases List.mem_singleton.mp (List.mem_cons.mpr same)
    · cases List.mem_singleton.mp (List.mem_cons.mpr same)

theorem html_eq_nil : html tokens = [] ↔ tokens = [] := by
  constructor
  · intro empty
    cases tokens with
    | nil => rfl
    | cons x tokens => exact absurd (List.append_eq_nil_iff.mp empty).1 (code.some x)
  · rintro rfl
    rfl

theorem trimTokens_sublist (line : List Token) : trimTokens line ⊆ line :=
  fun _ member => (List.dropWhile_suffix _).mem ((List.rdropWhile_prefix _ _).mem member)

theorem behindBreaks_append (parts parts' : List (List Token)) :
    behindBreaks (parts ++ parts') = behindBreaks parts ++ behindBreaks parts' :=
  List.flatMap_append

theorem leftover_exact (exact : trimTokens line = [.comment n]) :
    placeholderMatch (trim (html line)) = some n ∧ leftover line = [] ∧ comments line = [n] := by
  rw [trim_html, placeholderMatch_html, leftover, ← comments_trimTokens, exact]
  exact ⟨rfl, rfl, rfl⟩

theorem leftover_other (other : ∀ n, trimTokens line ≠ [.comment n]) :
    placeholderMatch (trim (html line)) = none ∧ leftover line = comments line := by
  rw [trim_html, placeholderMatch_html, leftover]
  split
  · next n same => exact absurd same (other n)
  · exact ⟨rfl, rfl⟩

/-- What the lines of a message are rendered to. A line that is a placeholder gives its block; what
else there is of comments stays. -/
theorem htmlParts_tokens (blocks : List (List Token))
    (plain : ∀ block ∈ blocks, comments block = [])
    (all items : List (List Token)) : ∃ parts : List (List Token),
      htmlParts (blocks.map html) (all.map html) (items.map html) = parts.map html ∧
      parts.flatMap comments = items.flatMap comments ++ all.flatMap leftover ∧
      ((∀ line ∈ all, leftover line = [] ∧ .tag .pre ∉ line) →
        (∀ item ∈ items, .tag .pre ∉ item) →
        Blocks ((all.flatMap comments).map fun n => blocks[n]?.getD []) (behindBreaks parts)) := by
  induction all generalizing items with
  | nil =>
    refine ⟨flushTokens items, flushList_html items, ?_, fun _ free => ?_⟩
    · rw [comments_flushTokens, List.flatMap_nil, List.append_nil]
    · exact .gap (flushTokens_free free)
  | cons line all ih =>
    by_cases exact : ∃ n, trimTokens line = [.comment n]
    · obtain ⟨n, exact⟩ := exact
      obtain ⟨matched, none', single⟩ := leftover_exact exact
      obtain ⟨parts, is, left, order⟩ := ih []
      have block : (blocks.map html)[n]?.getD [] = html (blocks[n]?.getD []) := by
        rw [List.getElem?_map]
        cases blocks[n]? <;> rfl
      have silent : comments (blocks[n]?.getD []) = [] := by
        cases found : blocks[n]? with
        | none => rfl
        | some block => exact plain block (List.mem_of_getElem? found)
      refine ⟨flushTokens items ++ blocks[n]?.getD [] :: parts, ?_, ?_, fun lone free => ?_⟩
      · rw [List.map_cons, htmlParts, matched]
        simp only [List.map_append, List.map_cons, flushList_html, block]
        rw [show ([] : List Units) = ([] : List (List Token)).map html from rfl, is]
      · rw [List.flatMap_append, List.flatMap_cons, comments_flushTokens, silent, left,
          List.flatMap_cons, none', List.flatMap_nil]
        rfl
      · obtain ⟨-, later⟩ := List.forall_mem_cons.mp lone
        have rest := order later nofun
        have shape : behindBreaks (flushTokens items ++ blocks[n]?.getD [] :: parts) =
            (behindBreaks (flushTokens items) ++ [.tag .br]) ++
              (blocks[n]?.getD [] ++ behindBreaks parts) := by
          rw [behindBreaks_append]
          simp [behindBreaks]
        rw [List.flatMap_cons, single, shape]
        exact .block (by simp [flushTokens_free free]) rest
    · have other : ∀ n, trimTokens line ≠ [.comment n] := fun n same => exact ⟨n, same⟩
      obtain ⟨unmatched, stays⟩ := leftover_other other
      cases listed : listMatch (trim (html line)) with
      | some item =>
        rw [trim_html] at listed
        obtain ⟨rest, rfl, same, free'⟩ := listMatch_html listed
        rw [comments_trimTokens] at same
        obtain ⟨parts, is, left, order⟩ := ih (items ++ [rest])
        refine ⟨parts, ?_, ?_, fun lone free => ?_⟩
        · rw [List.map_cons, htmlParts, unmatched, trim_html]
          simp only [listed]
          rw [← is, List.map_append, List.map_singleton]
        · rw [left, List.flatMap_append, List.flatMap_singleton, List.flatMap_cons, stays, same,
            List.append_assoc]
        · obtain ⟨⟨nothing, noPre⟩, later⟩ := List.forall_mem_cons.mp lone
          rw [stays] at nothing
          rw [List.flatMap_cons, nothing, List.nil_append]
          refine order later (List.forall_mem_append.mpr ⟨free, ?_⟩)
          intro item member
          rw [List.mem_singleton.mp member]
          exact free' fun among => noPre (trimTokens_sublist line among)
      | none =>
        obtain ⟨parts, is, left, order⟩ := ih []
        have empty : trim (html line) = [] ↔ trimTokens line = [] := by
          rw [trim_html]
          exact html_eq_nil
        have part : (if trim (html line) = [] then units "<br>" else trim (html line)) =
            html (if trimTokens line = [] then [.tag .br] else trimTokens line) := by
          simp only [empty]
          split
          · rfl
          · exact trim_html line
        have kept : comments (if trimTokens line = [] then [.tag .br] else trimTokens line) =
            comments line := by
          split
          · next nothing =>
            rw [← comments_trimTokens line, nothing]
            rfl
          · exact comments_trimTokens line
        refine ⟨flushTokens items ++
          (if trimTokens line = [] then [.tag .br] else trimTokens line) :: parts,
          ?_, ?_, fun lone free => ?_⟩
        · rw [List.map_cons, htmlParts, unmatched]
          simp only [listed, part, List.map_append, List.map_cons, flushList_html]
          rw [show ([] : List Units) = ([] : List (List Token)).map html from rfl, is]
        · rw [List.flatMap_append, List.flatMap_cons, comments_flushTokens, kept, left,
            List.flatMap_cons, stays, List.flatMap_nil, List.nil_append]
        · obtain ⟨⟨nothing, noPre⟩, later⟩ := List.forall_mem_cons.mp lone
          rw [stays] at nothing
          have rest := order later nofun
          have free' : .tag .pre ∉ behindBreaks (flushTokens items) ++ (.tag .br ::
              if trimTokens line = [] then [.tag .br] else trimTokens line) := by
            simp only [List.mem_append, List.mem_cons, not_or]
            refine ⟨flushTokens_free free, nofun, ?_⟩
            split
            · decide
            · exact fun among => noPre (trimTokens_sublist line among)
          have shape : behindBreaks (flushTokens items ++
              (if trimTokens line = [] then [.tag .br] else trimTokens line) :: parts) =
              (behindBreaks (flushTokens items) ++ (.tag .br ::
                if trimTokens line = [] then [.tag .br] else trimTokens line)) ++
                behindBreaks parts := by
            rw [behindBreaks_append]
            simp [behindBreaks]
          rw [List.flatMap_cons, nothing, List.nil_append, shape]
          exact rest.prepend free'

/-! ## Superfluous breaks -/

/-- Some breaks are left out. -/
inductive Thinned : List Token → List Token → Prop
  | nil : Thinned [] []
  | keep (x : Token) {tokens tokens' : List Token} (more : Thinned tokens tokens') :
    Thinned (x :: tokens) (x :: tokens')
  | drop {tokens tokens' : List Token} (more : Thinned tokens tokens') :
    Thinned (.tag .br :: tokens) tokens'

theorem Thinned.refl (tokens : List Token) : Thinned tokens tokens := by
  induction tokens with
  | nil => exact .nil
  | cons x tokens ih => exact .keep x ih

theorem Thinned.trans (one : Thinned tokens tokens')
    (two : Thinned tokens' tokens'') : Thinned tokens tokens'' := by
  induction one generalizing tokens'' with
  | nil => exact two
  | keep x more ih =>
    cases two with
    | keep _ more' => exact .keep x (ih more')
    | drop more' => exact .drop (ih more')
  | drop more ih => exact .drop (ih two)

theorem Thinned.append_left (thinned : Thinned tokens tokens') (before : List Token) :
    Thinned (before ++ tokens) (before ++ tokens') := by
  induction before with
  | nil => exact thinned
  | cons x before ih => exact .keep x ih

theorem Thinned.comments (thinned : Thinned tokens tokens') :
    comments tokens' = comments tokens := by
  induction thinned with
  | nil => rfl
  | @keep x tokens tokens' more ih =>
    have split (rest : List Token) : Markdown.comments (x :: rest) =
        Markdown.comments [x] ++ Markdown.comments rest := @comments_append [x] rest
    rw [split tokens', split tokens, ih]
  | drop more ih => exact ih

theorem Thinned.subset (thinned : Thinned tokens tokens') : tokens' ⊆ tokens := by
  induction thinned with
  | nil => exact fun _ member => member
  | keep x more ih => exact List.cons_subset_cons x ih
  | drop more ih => exact List.subset_cons_of_subset _ ih

theorem Thinned.split {after : List Token} (thinned : Thinned (tokens ++ after) tokens') :
    ∃ one two, tokens' = one ++ two ∧ Thinned tokens one ∧ Thinned after two := by
  induction tokens generalizing tokens' with
  | nil => exact ⟨[], tokens', rfl, .nil, thinned⟩
  | cons x tokens ih =>
    rw [List.cons_append] at thinned
    cases thinned with
    | keep _ more =>
      obtain ⟨one, two, rfl, first, second⟩ := ih more
      exact ⟨x :: one, two, rfl, .keep x first, second⟩
    | drop more =>
      obtain ⟨one, two, rfl, first, second⟩ := ih more
      exact ⟨one, two, rfl, .drop first, second⟩

theorem Thinned.eq_of_free (thinned : Thinned tokens tokens') (free : .tag .br ∉ tokens) :
    tokens' = tokens := by
  induction thinned with
  | nil => rfl
  | keep x more ih => rw [ih fun member => free (List.mem_cons_of_mem _ member)]
  | drop more => exact absurd List.mem_cons_self free

theorem Blocks.thinned (all : Blocks blocks tokens)
    (whole : ∀ block ∈ blocks, .tag .br ∉ block) (thinned : Thinned tokens tokens') :
    Blocks blocks tokens' := by
  induction all generalizing tokens' with
  | gap free => exact .gap fun member => free (thinned.subset member)
  | block free more ih =>
    obtain ⟨here, later⟩ := List.forall_mem_cons.mp whole
    obtain ⟨one, others, rfl, first, more'⟩ := thinned.split
    obtain ⟨two, three, rfl, second, third⟩ := more'.split
    rw [second.eq_of_free here]
    exact .block (fun member => free (first.subset member)) (ih later third)

/-- A relation of texts whose tokens are thinned. -/
def HtmlThinned (s t : Units) : Prop :=
  ∀ tokens, html tokens = s → ∃ tokens', html tokens' = t ∧ Thinned tokens tokens'

theorem HtmlThinned.refl (s : Units) : HtmlThinned s s := fun tokens same => ⟨tokens, same, .refl _⟩

theorem HtmlThinned.trans (s t u : Units) (one : HtmlThinned s t) (two : HtmlThinned t u) :
    HtmlThinned s u := by
  intro tokens same
  obtain ⟨tokens', same', thinned⟩ := one tokens same
  obtain ⟨tokens'', same'', thinned'⟩ := two tokens' same'
  exact ⟨tokens'', same'', thinned.trans thinned'⟩

theorem split_tags {t t' : Tag} (same : html tokens = front ++ (t.text ++ (t'.text ++ s))) :
    ∃ before after, tokens = before ++ .tag t :: .tag t' :: after ∧ html before = front ∧
      html after = s := by
  obtain ⟨before, others, rfl, before_html, others_html⟩ := code.split (tag_marks t) same
  obtain ⟨after, rfl, after_html⟩ := code.split_first (d := .tag t') others_html
  exact ⟨before, after, rfl, before_html, after_html⟩

theorem pair_thinned {t t' kept : Tag} (leaves : ∀ after : List Token,
    Thinned (.tag t :: .tag t' :: after) (.tag kept :: after)) (s : Units) :
    HtmlThinned s (replaceAll (pair t.text t'.text kept.text) s) := by
  refine replaceAll_rel (R := HtmlThinned) HtmlThinned.refl HtmlThinned.trans ?_ [] s
  intro front s replacement length found
  unfold pair at found
  split at found
  · next begins =>
    cases found
    obtain ⟨rest, rfl⟩ := begins
    have some : 0 < (t.text ++ t'.text).length :=
      List.length_pos_of_ne_nil (List.append_ne_nil_of_left_ne_nil (code.some (.tag t)) _)
    refine ⟨some, fun tokens same => ?_⟩
    rw [List.append_assoc] at same
    obtain ⟨before, after, rfl, rfl, rfl⟩ := split_tags same
    rw [List.drop_left]
    exact ⟨before ++ .tag kept :: after, by simp [Token.text], (leaves after).append_left before⟩
  · cases found

theorem repeats_spec (w : Units) (fuel : Nat) (s : Units) :
    ∃ rest, s = (List.replicate (repeats w fuel s) w).flatten ++ rest := by
  induction fuel generalizing s with
  | zero => exact ⟨s, rfl⟩
  | succ fuel ih =>
    rw [repeats]
    split
    · next begins =>
      obtain ⟨after, rfl⟩ := begins
      rw [List.drop_left]
      obtain ⟨rest, same⟩ := ih after
      refine ⟨rest, ?_⟩
      rw [List.replicate_succ, List.flatten_cons, List.append_assoc, ← same]
    · exact ⟨s, rfl⟩

theorem split_breaks (same : html tokens = (List.replicate n (units "<br>")).flatten ++ s) :
    ∃ after, tokens = List.replicate n (.tag .br) ++ after ∧ html after = s := by
  induction n generalizing tokens with
  | zero => exact ⟨tokens, rfl, same⟩
  | succ n ih =>
    rw [List.replicate_succ, List.flatten_cons, List.append_assoc] at same
    obtain ⟨others, rfl, others_html⟩ := code.split_first (d := .tag .br) same
    obtain ⟨after, rfl, after_html⟩ := ih others_html
    exact ⟨after, rfl, after_html⟩

theorem thinned_replicate (n : Nat) (after : List Token) :
    Thinned (List.replicate n (.tag .br) ++ after) after := by
  induction n with
  | zero => exact .refl after
  | succ n ih => exact .drop ih

theorem breaks_thinned (s : Units) : HtmlThinned s (replaceAll breaks s) := by
  refine replaceAll_rel (R := HtmlThinned) HtmlThinned.refl HtmlThinned.trans ?_ [] s
  intro front s replacement length found
  unfold breaks at found
  dsimp only at found
  split at found
  · next positive =>
    cases found
    obtain ⟨rest, same⟩ := repeats_spec (units "<br>") s.length s
    obtain ⟨n, is⟩ := Nat.exists_eq_succ_of_ne_zero (Nat.pos_iff_ne_zero.mp positive)
    rw [is] at same ⊢
    refine ⟨Nat.mul_pos (Nat.succ_pos n) (by decide +kernel), fun tokens whole => ?_⟩
    have behind : s.drop (n.succ * (units "<br>").length) = rest := by
      rw [same]
      exact List.drop_left' (by simp)
    rw [same, List.replicate_succ, List.flatten_cons, List.append_assoc] at whole
    obtain ⟨before, others, rfl, rfl, others_html⟩ := code.split (tag_marks .br) whole
    obtain ⟨after, rfl, rfl⟩ := split_breaks others_html
    rw [behind]
    exact ⟨before ++ .tag .br :: after, by simp [Token.text, Tag.text],
      (Thinned.keep _ (thinned_replicate n after)).append_left before⟩
  · cases found

theorem tidy_tokens (s : Units) : HtmlThinned s (tidy s) := by
  have last (kept : Tag) (after : List Token) :
      Thinned (.tag kept :: .tag .br :: after) (.tag kept :: after) := .keep _ (.drop (.refl after))
  have first (kept : Tag) (after : List Token) :
      Thinned (.tag .br :: .tag kept :: after) (.tag kept :: after) := .drop (.refl _)
  have one := breaks_thinned s
  have two := one.trans _ _ _ (pair_thinned (first .ul) _)
  have three := two.trans _ _ _ (pair_thinned (last .ulEnd) _)
  have four := three.trans _ _ _ (pair_thinned (first .pre) _)
  exact four.trans _ _ _ (pair_thinned (last .preEnd) _)

theorem join_tokens (parts : List (List Token)) : ∃ joined,
    html joined = (units "<br>").intercalate (parts.map html) ∧
      Thinned (behindBreaks parts) joined := by
  cases parts with
  | nil => exact ⟨[], rfl, .nil⟩
  | cons part parts =>
    refine ⟨part ++ behindBreaks parts, ?_, .drop (.refl _)⟩
    induction parts generalizing part with
    | nil => simp [behindBreaks]
    | cons next parts ih =>
      rw [List.map_cons, List.map_cons, List.intercalate_cons_cons, ← List.map_cons, ← ih next]
      simp [behindBreaks, Token.text, Tag.text]

/-! ## A whole message -/

theorem lines_subset (member : line ∈ lines tokens) : line ⊆ tokens := by
  induction tokens generalizing line with
  | nil =>
    rw [lines, List.mem_singleton] at member
    rw [member]
    exact List.nil_subset _
  | cons x tokens ih =>
    rw [lines] at member
    split at member
    · rcases List.mem_cons.mp member with rfl | later
      · exact List.nil_subset _
      · exact List.subset_cons_of_subset _ (ih later)
    · split at member
      · exact List.subset_cons_of_subset _ (ih member)
      · cases shape : lines tokens with
        | nil =>
          rw [shape] at member
          cases member
        | cons first others =>
          rw [shape, List.modifyHead_cons] at member
          rcases List.mem_cons.mp member with rfl | later
          · exact List.cons_subset_cons x (ih (by rw [shape]; exact List.mem_cons_self))
          · have among : line ∈ lines tokens := by
              rw [shape]
              exact List.mem_cons_of_mem _ later
            exact List.subset_cons_of_subset _ (ih among)

theorem comments_cons (x : Token) (tokens : List Token) :
    comments (x :: tokens) = comments [x] ++ comments tokens := @comments_append [x] tokens

theorem summary_ne_nil (tokens : List Token) : summary tokens ≠ [] := by
  induction tokens with
  | nil => exact List.cons_ne_nil _ _
  | cons x tokens ih =>
    rw [summary]
    split
    · exact List.cons_ne_nil _ _
    · rwa [Ne, List.modifyHead_eq_nil_iff]

theorem comments_summary (tokens : List Token) :
    (summary tokens).flatMap (·.1) = comments tokens := by
  induction tokens with
  | nil => rfl
  | cons x tokens ih =>
    rw [summary, comments_cons x tokens, ← ih]
    split
    · next feed =>
      cases x with
      | plain c => rfl
      | _ => cases feed
    · cases shape : summary tokens with
      | nil => exact absurd shape (summary_ne_nil tokens)
      | cons line lines => simp

theorem comments_lines (tokens : List Token) :
    (lines tokens).flatMap comments = comments tokens := by
  rw [← comments_summary, summary_eq, List.flatMap_map]

theorem comments_behindBreaks (parts : List (List Token)) :
    comments (behindBreaks parts) = parts.flatMap comments := by
  induction parts with
  | nil => rfl
  | cons part parts ih =>
    rw [List.flatMap_cons, ← ih]
    exact @comments_append (.tag .br :: part) _

theorem map_range'_getElem? (blocks : List (List Token)) :
    (List.range' 0 blocks.length).map (fun n => blocks[n]?.getD []) = blocks := by
  refine List.ext_getElem (by simp) fun i _ within => ?_
  simp [within]

/-- The steps of `renderMarkdown` on the tokens of a message: `text` is what replacing the blocks
leaves, and `styled` what the inline rules make of it. -/
theorem renderMarkdown_tokens (content : Units) : ∃ (text styled rendered : List Token)
    (codes : List (List Token)),
      html text = (replaceBlocks (escapeHtml content)).1 ∧
      (replaceBlocks (escapeHtml content)).2 = codes.map (fun code => html (blockTokens code)) ∧
      summary text = summary styled ∧ html rendered = renderMarkdown content ∧
      comments rendered = (lines styled).flatMap leftover ∧
      ((∀ line ∈ lines styled, leftover line = []) →
        Blocks (codes.map blockTokens) rendered) := by
  have absent : lessThan ∉ escapeHtml content := by
    rw [escapeHtml_tokens]
    intro member
    obtain ⟨x, among, inside⟩ := List.mem_flatMap.mp member
    obtain ⟨c, -, rfl⟩ := List.mem_map.mp among
    exact escapeToken_absent c inside
  have free : NoTag (content.map escapeToken) := by
    intro t member
    obtain ⟨c, -, same⟩ := List.mem_map.mp member
    have isText := escapeToken_isText c
    rw [same] at isText
    cases isText
  have escaped : html (content.map escapeToken) = [] ++ escapeHtml content :=
    (escapeHtml_tokens content).symm
  obtain ⟨text, codes, text_html, text_free, blocks, code_texts, numbered⟩ :=
    replaceBlocks_tokens 0 absent free escaped
  obtain ⟨styled, styled_html, same, noPre⟩ := applyInline_tokens text
  have silent : ∀ block ∈ codes.map blockTokens, comments block = [] ∧ .tag .br ∉ block := by
    intro block member
    obtain ⟨code, among, rfl⟩ := List.mem_map.mp member
    have isText := code_texts code among
    constructor
    · have inner : comments (blockTokens code) = comments code ++ [] := comments_append
      rw [inner, isText.comments, List.append_nil]
    · simp only [blockTokens, List.mem_cons, List.mem_append, List.not_mem_nil, or_false]
      rintro (same | same | inside | same | same)
      · cases same
      · cases same
      · cases isText _ inside
      · cases same
      · cases same
  obtain ⟨parts, parts_html, left, order⟩ := htmlParts_tokens (codes.map blockTokens)
    (fun block member => (silent block member).1) (lines styled) []
  obtain ⟨joined, joined_html, thinned⟩ := join_tokens parts
  obtain ⟨rendered, rendered_html, thinned'⟩ := tidy_tokens _ joined joined_html
  have thin := thinned.trans thinned'
  refine ⟨text, styled, rendered, codes, text_html, blocks, same, ?_, ?_, fun lone => ?_⟩
  · rw [rendered_html, ← parts_html, ← splitLines_tokens, styled_html, text_html, renderMarkdown,
      List.map_map]
    simp only [replaceBlocks, blocks]
    rfl
  · rw [thin.comments, comments_behindBreaks, left]
    rfl
  · have noPre' : ∀ line ∈ lines styled, .tag .pre ∉ line :=
      fun line member inside => noPre (text_free .pre) (lines_subset member inside)
    have placed := order (fun line member => ⟨lone line member, noPre' line member⟩) nofun
    have numbers : (lines styled).flatMap comments = List.range' 0 codes.length := by
      rw [comments_lines, ← comments_summary, ← same, comments_summary, numbered]
      have none' : comments (content.map escapeToken) = [] := by
        apply IsText.comments
        intro x member
        obtain ⟨c, -, rfl⟩ := List.mem_map.mp member
        exact escapeToken_isText c
      rw [none', List.nil_append]
    have found := map_range'_getElem? (codes.map blockTokens)
    rw [List.length_map] at found
    rw [numbers, found] at placed
    exact placed.thinned (fun block member => (silent block member).2) thin

/-- What is rendered consists of tags without attributes, placeholder comments, entities and
characters that need no escape. -/
theorem renderMarkdown_markup (content : Units) :
    ∃ tokens, renderMarkdown content = html tokens := by
  obtain ⟨_, _, rendered, _, _, _, _, same, _⟩ := renderMarkdown_tokens content
  exact ⟨rendered, same.symm⟩

end Markdown
