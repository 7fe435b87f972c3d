import TokenPlace.Browser.Markdown
import TokenPlace.Lib.PrefixCode

/-!
# Tokens of rendered messages

What rendered text consists of: tags without attributes, placeholder comments, entities, and plain
characters. Their texts are a prefix code, and the first characters of tags, comments and of the
marks that the rules look for stand nowhere else in them.
-/

namespace Markdown

open JsText (Units units isSpaceUnit isLineTerminator)
open PrefixCode (Code Marks flat)

/-- The tags. -/
inductive Tag
  | pre | preEnd | code | codeEnd | strong | strongEnd | em | emEnd | ul | ulEnd | li | liEnd | br
deriving DecidableEq

def Tag.text : Tag → Units
  | pre => units "<pre>"
  | preEnd => units "</pre>"
  | code => units "<code>"
  | codeEnd => units "</code>"
  | strong => units "<strong>"
  | strongEnd => units "</strong>"
  | em => units "<em>"
  | emEnd => units "</em>"
  | ul => units "<ul>"
  | ulEnd => units "</ul>"
  | li => units "<li>"
  | liEnd => units "</li>"
  | br => units "<br>"

/-- The entities that `escapeHtml` writes. -/
inductive Entity
  | amp | lt | gt | quot | apos
deriving DecidableEq

def Entity.text : Entity → Units
  | amp => units "&amp;"
  | lt => units "&lt;"
  | gt => units "&gt;"
  | quot => units "&quot;"
  | apos => units "&#39;"

/-- None of the characters that `escapeHtml` replaces. -/
def Plain (c : UInt16) : Prop :=
  c ∉ [lessThan, greaterThan, ampersand, quote, apostrophe]

instance : DecidablePred Plain := fun _ => inferInstanceAs (Decidable (_ ∉ _))

/-- A token of rendered text. -/
inductive Token
  | tag (tag : Tag)
  | comment (n : Nat)
  | entity (entity : Entity)
  | plain (c : UInt16) (isPlain : Plain c)
deriving DecidableEq

def Token.text : Token → Units
  | tag t => t.text
  | comment n => placeholder n
  | entity e => e.text
  | plain c _ => [c]

/-- The text of some tokens. -/
abbrev html (tokens : List Token) : Units := flat Token.text tokens

/-! ## A prefix code -/

/-- What tokens consist of behind their first character. -/
def isWord (c : UInt16) : Bool :=
  let n := c.toNat
  n == 0x21 || n == 0x23 || n == 0x2D || n == 0x2F || (0x30 ≤ n && n ≤ 0x39) || n == 0x3B ||
    n == 0x3E || (0x61 ≤ n && n ≤ 0x7A)

/-- A text up to the first occurrence of a character. -/
def upTo (c : UInt16) : Units → Units
  | [] => []
  | d :: s => if d = c then [d] else d :: upTo c s

/-- The first token of a text, read off its characters. -/
def firstToken : Units → Units
  | [] => []
  | c :: s =>
    if c = lessThan then upTo greaterThan (c :: s)
    else if c = ampersand then upTo semicolon (c :: s)
    else [c]

variable {c : UInt16} {w s t : Units} {x y : Token}

theorem upTo_append (absent : c ∉ w) (s : Units) : upTo c (w ++ c :: s) = w ++ [c] := by
  induction w with
  | nil => exact if_pos rfl
  | cons d w ih =>
    rw [List.mem_cons, not_or] at absent
    rw [List.cons_append, upTo, if_neg (Ne.symm absent.1), ih absent.2, List.cons_append]

/-- A text from a first character up to the first occurrence of a last one, and words between. -/
def Enclosed (first last : UInt16) (text : Units) : Prop :=
  ∃ body, text = first :: (body ++ [last]) ∧ (∀ c ∈ body, isWord c = true) ∧ last ∉ body

theorem Tag.enclosed (t : Tag) : Enclosed lessThan greaterThan t.text := by
  refine ⟨t.text.tail.dropLast, ?_, List.all_eq_true.mp ?_, ?_⟩ <;> cases t <;> decide +kernel

theorem Entity.enclosed (e : Entity) : Enclosed ampersand semicolon e.text := by
  refine ⟨e.text.tail.dropLast, ?_, List.all_eq_true.mp ?_, ?_⟩ <;> cases e <;> decide +kernel

theorem digit_unit {n : Nat} {c : UInt16}
    (member : c ∈ (Nat.toDigits 10 n).map fun c => UInt16.ofNat c.toNat) :
    0x30 ≤ c.toNat ∧ c.toNat ≤ 0x39 := by
  obtain ⟨d, among, rfl⟩ := List.mem_map.mp member
  have digit := Nat.isDigit_of_mem_toDigits (by decide) (by decide) among
  simp only [Char.isDigit, Bool.and_eq_true, decide_eq_true_eq] at digit
  have lower : 0x30 ≤ d.toNat := digit.1
  have upper : d.toNat ≤ 0x39 := digit.2
  simp only [UInt16.toNat_ofNat']
  omega

/-- The digits of a placeholder. -/
def placeholderDigits (n : Nat) : Units :=
  (Nat.toDigits 10 n).map fun c => UInt16.ofNat c.toNat

theorem placeholder_enclosed (n : Nat) : Enclosed lessThan greaterThan (placeholder n) := by
  have start : units "<!--tokenplacecodeblock" = lessThan :: units "!--tokenplacecodeblock" := by
    decide +kernel
  have stop : units "-->" = units "--" ++ [greaterThan] := by decide +kernel
  refine ⟨units "!--tokenplacecodeblock" ++ placeholderDigits n ++ units "--", ?_, ?_, ?_⟩
  · rw [placeholder, start, stop]
    simp [placeholderDigits]
  · refine List.forall_mem_append.mpr ⟨List.forall_mem_append.mpr
      ⟨List.all_eq_true.mp (by decide +kernel), ?_⟩, List.all_eq_true.mp (by decide +kernel)⟩
    intro c member
    have digit := digit_unit member
    simp [isWord, digit]
  · simp only [List.mem_append, not_or]
    refine ⟨⟨by decide +kernel, fun member => ?_⟩, by decide +kernel⟩
    exact absurd (digit_unit member).2 (by decide)

theorem Token.enclosed (x : Token) :
    Enclosed lessThan greaterThan x.text ∨ Enclosed ampersand semicolon x.text ∨
      ∃ c, Plain c ∧ x.text = [c] := by
  cases x with
  | tag t => exact .inl t.enclosed
  | comment n => exact .inl (placeholder_enclosed n)
  | entity e => exact .inr (.inl e.enclosed)
  | plain c isPlain => exact .inr (.inr ⟨c, isPlain, rfl⟩)

theorem firstToken_append (x : Token) (s : Units) : firstToken (x.text ++ s) = x.text := by
  have closes {first last : UInt16} {body : Units} (other : first ≠ last) (absent : last ∉ body) :
      upTo last (first :: (body ++ [last]) ++ s) = first :: (body ++ [last]) := by
    have whole := upTo_append (c := last) (w := first :: body) (by simp [other.symm, absent]) s
    simpa using whole
  rcases x.enclosed with ⟨body, same, -, absent⟩ | ⟨body, same, -, absent⟩ | ⟨c, isPlain, same⟩
  · rw [same, List.cons_append, firstToken, if_pos rfl]
    exact closes (by decide) absent
  · rw [same, List.cons_append, firstToken, if_neg (by decide), if_pos rfl]
    exact closes (by decide) absent
  · simp only [Plain, List.mem_cons, not_or] at isPlain
    rw [same, List.singleton_append, firstToken, if_neg isPlain.1, if_neg isPlain.2.2.1]

theorem Token.tail_word (x : Token) (member : c ∈ x.text.tail) : isWord c = true := by
  rcases x.enclosed with ⟨body, same, words, -⟩ | ⟨body, same, words, -⟩ | ⟨d, -, same⟩
  · rw [same, List.tail_cons, List.mem_append, List.mem_singleton] at member
    rcases member with among | rfl
    · exact words c among
    · decide
  · rw [same, List.tail_cons, List.mem_append, List.mem_singleton] at member
    rcases member with among | rfl
    · exact words c among
    · decide
  · rw [same] at member
    cases member

/-- The number of some digits. -/
def digitsValue (digits : Units) : Nat :=
  Nat.ofDigitChars 10 (digits.map fun c => Char.ofNat c.toNat) 0

theorem digitsValue_placeholderDigits (n : Nat) : digitsValue (placeholderDigits n) = n := by
  have back : (placeholderDigits n).map (fun c => Char.ofNat c.toNat) = Nat.toDigits 10 n := by
    rw [placeholderDigits, List.map_map]
    refine (List.map_congr_left fun d among => ?_).trans (List.map_id _)
    have small := (digit_unit (List.mem_map_of_mem among)).2
    have digit := Nat.isDigit_of_mem_toDigits (by decide) (by decide) among
    simp only [Char.isDigit, Bool.and_eq_true, decide_eq_true_eq] at digit
    have upper : d.toNat ≤ 0x39 := digit.2
    have same : (UInt16.ofNat d.toNat).toNat = d.toNat := by
      rw [UInt16.toNat_ofNat']
      omega
    rw [Function.comp_apply, same, Char.ofNat_toNat, id]
  rw [digitsValue, back, Nat.ofDigitChars_ten_toDigits]

theorem placeholder_eq (n : Nat) : placeholder n =
    units "<!--tokenplacecodeblock" ++ placeholderDigits n ++ units "-->" := rfl

theorem placeholder_injective {m n : Nat} (same : placeholder m = placeholder n) : m = n := by
  rw [placeholder_eq, placeholder_eq, List.append_left_inj, List.append_right_inj] at same
  rw [← digitsValue_placeholderDigits m, same, digitsValue_placeholderDigits]

/-- The tag of a text. -/
def tagOf (text : Units) : Option Tag :=
  [Tag.pre, Tag.preEnd, Tag.code, Tag.codeEnd, Tag.strong, Tag.strongEnd, Tag.em, Tag.emEnd,
    Tag.ul, Tag.ulEnd, Tag.li, Tag.liEnd, Tag.br].find? (·.text = text)

theorem tagOf_text (t : Tag) : tagOf t.text = some t := by cases t <;> decide +kernel

/-- The entity of a text. -/
def entityOf (text : Units) : Option Entity :=
  [Entity.amp, Entity.lt, Entity.gt, Entity.quot, Entity.apos].find? (·.text = text)

theorem entityOf_text (e : Entity) : entityOf e.text = some e := by cases e <;> decide +kernel

theorem Tag.second (t : Tag) (s : Units) : (t.text ++ s)[1]? ≠ some 0x21 := by
  have long : 1 < t.text.length := by cases t <;> decide +kernel
  rw [List.getElem?_append_left long]
  cases t <;> decide +kernel

theorem tagOf_placeholder (t : Tag) (n : Nat) : t.text ≠ placeholder n := by
  intro same
  have second : (placeholder n ++ [])[1]? = some 0x21 := rfl
  rw [← same] at second
  exact t.second [] second

/-- What is enclosed in one way is not so in another, nor a plain character. -/
theorem Enclosed.differs (one : Enclosed lessThan greaterThan s)
    (other : Enclosed ampersand semicolon t) (same : s = t) : False := by
  obtain ⟨_, rfl, _⟩ := one
  obtain ⟨_, rfl, _⟩ := other
  exact absurd (List.cons.inj same).1 (by decide)

theorem Enclosed.not_single {first last : UInt16} (enclosed : Enclosed first last s)
    (same : s = [c]) : False := by
  obtain ⟨_, rfl, _⟩ := enclosed
  simp at same

theorem Token.text_injective (same : x.text = y.text) : x = y := by
  cases x with
  | tag t =>
    cases y with
    | tag t' =>
      have tags := congrArg tagOf same
      simp only [Token.text, tagOf_text, Option.some.injEq] at tags
      rw [tags]
    | comment n => exact absurd same (tagOf_placeholder t n)
    | entity e => exact (t.enclosed.differs e.enclosed same).elim
    | plain c => exact (t.enclosed.not_single same).elim
  | comment n =>
    cases y with
    | tag t => exact absurd same.symm (tagOf_placeholder t n)
    | comment m => exact congrArg _ (placeholder_injective same)
    | entity e => exact ((placeholder_enclosed n).differs e.enclosed same).elim
    | plain c => exact ((placeholder_enclosed n).not_single same).elim
  | entity e =>
    cases y with
    | tag t => exact (t.enclosed.differs e.enclosed same.symm).elim
    | comment n => exact ((placeholder_enclosed n).differs e.enclosed same.symm).elim
    | entity e' =>
      have entities := congrArg entityOf same
      simp only [Token.text, entityOf_text, Option.some.injEq] at entities
      rw [entities]
    | plain c => exact (e.enclosed.not_single same).elim
  | plain c =>
    cases y with
    | tag t => exact (t.enclosed.not_single same.symm).elim
    | comment n => exact ((placeholder_enclosed n).not_single same.symm).elim
    | entity e => exact (e.enclosed.not_single same.symm).elim
    | plain d =>
      cases same
      rfl

theorem code : Code Token.text where
  some x := by
    rcases x.enclosed with ⟨_, same, _⟩ | ⟨_, same, _⟩ | ⟨_, _, same⟩ <;>
      exact same ▸ List.cons_ne_nil _ _
  unique {x y s t} same := by
    have first := congrArg firstToken same
    rw [firstToken_append, firstToken_append] at first
    exact Token.text_injective first

theorem plain_marks (isPlain : Plain c) (other : isWord c = false) :
    Marks Token.text (.plain c isPlain) := by
  rintro d ⟨⟩ x member
  rw [x.tail_word member] at other
  cases other

theorem enclosed_marks (enclosed : Enclosed lessThan greaterThan x.text) :
    Marks Token.text x := by
  obtain ⟨body, same, -⟩ := enclosed
  intro c first y member
  rw [same] at first
  cases first
  exact absurd (y.tail_word member) (by decide)

theorem tag_marks (t : Tag) : Marks Token.text (.tag t) := enclosed_marks t.enclosed

theorem comment_marks (n : Nat) : Marks Token.text (.comment n) :=
  enclosed_marks (placeholder_enclosed n)

end Markdown
