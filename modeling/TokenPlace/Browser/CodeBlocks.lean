import TokenPlace.Browser.Rendering

/-!
# Code blocks of rendered messages

Results:
1. `blocks_restored_iff`: all code blocks stand in what is rendered, in their order and as they are,
   and no placeholder is left, just if every placeholder stands alone on its line.
2. `block_behind_text`: behind a text on its line a block is lost.
-/

namespace Markdown

open JsText (Units units isSpaceUnit)
open PrefixCode (Code Marks)

variable {tokens tokens' line : List Token} {s : Units}

/-! ## The property -/

/-- Some texts in their order, and no other `<pre>` between them. -/
inductive Restored : List Units → Units → Prop
  | gap {gap : Units} (free : ¬ units "<pre>" <:+: gap) : Restored [] gap
  | block {gap block rest : Units} {blocks : List Units} (free : ¬ units "<pre>" <:+: gap)
    (more : Restored blocks rest) : Restored (block :: blocks) (gap ++ (block ++ rest))

/-- Every line with a placeholder, once the blocks are replaced, is nothing else but it. -/
def Lone (content : Units) : Prop :=
  ∀ line ∈ splitLines (replaceBlocks (escapeHtml content)).1, ∀ n, placeholder n <:+: line →
    ∃ m, trim line = placeholder m

/-! ## Tokens of a line -/

theorem infix_html {x : Token} (marks : Marks Token.text x) :
    x.text <:+: html tokens ↔ x ∈ tokens := by
  constructor
  · rintro ⟨front, rest, same⟩
    rw [List.append_assoc] at same
    obtain ⟨before, after, rfl, -, -⟩ := code.split marks same.symm
    exact List.mem_append_right _ List.mem_cons_self
  · intro member
    obtain ⟨before, after, rfl⟩ := List.append_of_mem member
    exact ⟨html before, html after, by simp⟩

theorem mem_comments {n : Nat} : n ∈ comments tokens ↔ .comment n ∈ tokens := by
  rw [comments, List.mem_filterMap]
  constructor
  · rintro ⟨x, member, same⟩
    cases x with
    | comment m =>
      cases same
      exact member
    | _ => cases same
  · exact fun member => ⟨_, member, rfl⟩

theorem no_placeholder_iff : (∀ n, ¬ placeholder n <:+: html tokens) ↔ comments tokens = [] := by
  rw [List.eq_nil_iff_forall_not_mem]
  exact forall_congr' fun n => not_congr ((infix_html (comment_marks n)).trans mem_comments.symm)

theorem spaces_of_blank (blank : ∀ x ∈ tokens, x.isBlank = true) (none' : comments tokens = []) :
    ∀ x ∈ tokens, x.isSpace = true := by
  intro x member
  have isBlank := blank x member
  cases x with
  | comment n =>
    rw [← mem_comments, none'] at member
    cases member
  | plain c => exact isBlank
  | _ => cases isBlank

theorem trimTokens_around {before after : List Token} {n : Nat}
    (spaces : ∀ x ∈ before, x.isSpace = true) (spaces' : ∀ x ∈ after, x.isSpace = true) :
    trimTokens (before ++ .comment n :: after) = [.comment n] := by
  have front : (before ++ .comment n :: after).dropWhile Token.isSpace = .comment n :: after := by
    rw [List.dropWhile_append_of_pos spaces]
    exact List.dropWhile_cons_of_neg Bool.false_ne_true
  rw [trimTokens, JsText.trimBy, front]
  induction after using List.reverseRecOn with
  | nil => exact List.rdropWhile_concat_neg _ [] _ Bool.false_ne_true
  | append_singleton after x ih =>
    rw [← List.cons_append, List.rdropWhile_concat_pos _ _ _ (spaces' x (by simp))]
    exact ih (fun y member => spaces' y (by simp [member])) (by
      rw [List.dropWhile_append_of_pos spaces]
      exact List.dropWhile_cons_of_neg Bool.false_ne_true)

theorem exact_of_blank {line : List Token} (one : (comments line).length = 1)
    (blank : line.all Token.isBlank = true) : ∃ n, trimTokens line = [.comment n] := by
  obtain ⟨n, single⟩ := List.length_eq_one_iff.mp one
  have member : Token.comment n ∈ line := mem_comments.mp (by rw [single]; exact List.mem_cons_self)
  obtain ⟨before, after, rfl⟩ := List.append_of_mem member
  rw [comments_append, comments_cons] at single
  have lengths := congrArg List.length single
  have here : (comments [Token.comment n]).length = 1 := rfl
  simp only [List.length_append, here, List.length_singleton] at lengths
  have none₁ : comments before = [] := List.eq_nil_of_length_eq_zero (by omega)
  have none₂ : comments after = [] := List.eq_nil_of_length_eq_zero (by omega)
  simp only [List.all_append, List.all_cons, Bool.and_eq_true, List.all_eq_true] at blank
  exact ⟨n, trimTokens_around (spaces_of_blank blank.1 none₁) (spaces_of_blank blank.2.2 none₂)⟩

theorem leftover_eq_nil_iff (line : List Token) : leftover line = [] ↔ comments line = [] ∨
    (comments line).length = 1 ∧ line.all Token.isBlank = true := by
  by_cases exact : ∃ n, trimTokens line = [.comment n]
  · obtain ⟨n, exact⟩ := exact
    obtain ⟨-, nothing, single⟩ := leftover_exact exact
    refine iff_of_true nothing (.inr ⟨by rw [single]; rfl, ?_⟩)
    obtain ⟨before, after, same, spaces, spaces'⟩ := trimTokens_eq line
    have blank : ∀ x : Token, x.isSpace = true → x.isBlank = true := by
      intro x space
      cases x <;> first | exact space | cases space
    rw [same, exact]
    simp only [List.all_append, List.all_cons, List.all_nil, Bool.and_true, Bool.and_eq_true,
      List.all_eq_true]
    exact ⟨fun x member => blank x (spaces x member), rfl,
      fun x member => blank x (spaces' x member)⟩
  · have other : ∀ n, trimTokens line ≠ [.comment n] := fun n same => exact ⟨n, same⟩
    rw [(leftover_other other).2]
    constructor
    · exact .inl
    · rintro (nothing | ⟨one, blank⟩)
      · exact nothing
      · exact absurd (exact_of_blank one blank) exact

theorem leftover_eq_nil_iff_text (line : List Token) : leftover line = [] ↔
    ∀ n, placeholder n <:+: html line → ∃ m, trim (html line) = placeholder m := by
  have found (n : Nat) : placeholder n <:+: html line ↔ n ∈ comments line :=
    (infix_html (comment_marks n)).trans mem_comments.symm
  have alone (m : Nat) : trim (html line) = placeholder m ↔ trimTokens line = [.comment m] := by
    have single : placeholder m = html [.comment m] := by simp [Token.text]
    rw [trim_html, single]
    exact ⟨fun same => code.flat_injective same, congrArg html⟩
  simp only [found, alone]
  constructor
  · intro nothing n member
    -- A line with comments leaves none only if it is one of them.
    by_contra none'
    rw [(leftover_other fun m same => none' ⟨m, same⟩).2] at nothing
    rw [nothing] at member
    cases member
  · intro all
    cases numbers : comments line with
    | nil => exact (leftover_eq_nil_iff line).mpr (.inl numbers)
    | cons n others =>
      obtain ⟨m, same⟩ := all n (by rw [numbers]; exact List.mem_cons_self)
      exact (leftover_exact same).2.1

theorem leftover_lines_congr (same : summary tokens = summary tokens') :
    (∀ line ∈ lines tokens, leftover line = []) ↔ ∀ line ∈ lines tokens', leftover line = [] := by
  have all (tokens : List Token) : (∀ line ∈ lines tokens, leftover line = []) ↔
      ∀ entry ∈ summary tokens, entry.1 = [] ∨ entry.1.length = 1 ∧ entry.2 = true := by
    rw [summary_eq, List.forall_mem_map]
    exact forall₂_congr fun line _ => leftover_eq_nil_iff line
  rw [all, all, same]

theorem lone_iff {content : Units} (same : html tokens = (replaceBlocks (escapeHtml content)).1) :
    Lone content ↔ ∀ line ∈ lines tokens, leftover line = [] := by
  rw [Lone, ← same, splitLines_tokens, List.forall_mem_map]
  exact forall₂_congr fun line _ => (leftover_eq_nil_iff_text line).symm

theorem Blocks.restored {blocks : List (List Token)} (all : Blocks blocks tokens) :
    Restored (blocks.map html) (html tokens) := by
  have free {gap : List Token} (absent : .tag .pre ∉ gap) : ¬ units "<pre>" <:+: html gap :=
    fun found => absent ((infix_html (tag_marks .pre)).mp found)
  induction all with
  | gap absent => exact .gap (free absent)
  | block absent more ih =>
    rw [html_append, html_append]
    exact .block (free absent) ih

/-- All code blocks stand in what is rendered, in their order and as they are, and no placeholder is
left, just if every placeholder stands alone on its line. -/
theorem blocks_restored_iff (content : Units) :
    (Restored (replaceBlocks (escapeHtml content)).2 (renderMarkdown content) ∧
      ∀ n, ¬ placeholder n <:+: renderMarkdown content) ↔ Lone content := by
  obtain ⟨text, styled, rendered, codes, text_html, blocks, same, rendered_html, left, placed⟩ :=
    renderMarkdown_tokens content
  rw [lone_iff text_html, leftover_lines_congr same, blocks, ← rendered_html, no_placeholder_iff,
    left, List.flatMap_eq_nil_iff]
  constructor
  · exact And.right
  · intro lone
    have restored := (placed lone).restored
    rw [List.map_map] at restored
    exact ⟨restored, lone⟩

/-- Behind a text on its line a block is lost: it is not in what is rendered, and its placeholder
is. -/
theorem block_behind_text :
    renderMarkdown (units "run ```ls```") = units "run <!--tokenplacecodeblock0-->" ∧
      (replaceBlocks (escapeHtml (units "run ```ls```"))).2 =
        [units "<pre><code>ls</code></pre>"] ∧
      ¬ (Restored (replaceBlocks (escapeHtml (units "run ```ls```"))).2
          (renderMarkdown (units "run ```ls```")) ∧
        ∀ n, ¬ placeholder n <:+: renderMarkdown (units "run ```ls```")) := by
  have rendered : renderMarkdown (units "run ```ls```") =
      units "run <!--tokenplacecodeblock0-->" := by decide +kernel
  refine ⟨rendered, by decide +kernel, fun ⟨_, free⟩ => free 0 ?_⟩
  rw [rendered]
  exact ⟨units "run ", [], by decide +kernel⟩

end Markdown
