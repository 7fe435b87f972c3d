import TokenPlace.Lib.JsText
import TokenPlace.Lib.Rewriting

/-!
# Rendering of messages

`escapeHtml` and `renderMarkdown` of the chat page, on the code units of a string. The regular
expressions of the source are patterns of `Rewriting`.
-/

namespace Markdown

open JsText (Units units isSpaceUnit isLineTerminator trimBy)
open Rewriting (Pattern replaceAll before)

def lineFeed : UInt16 := 0x0A
def carriageReturn : UInt16 := 0x0D
def hash : UInt16 := 0x23
def star : UInt16 := 0x2A
def dash : UInt16 := 0x2D
def lessThan : UInt16 := 0x3C
def greaterThan : UInt16 := 0x3E
def underscore : UInt16 := 0x5F
def backtick : UInt16 := 0x60
def ampersand : UInt16 := 0x26
def quote : UInt16 := 0x22
def apostrophe : UInt16 := 0x27
def semicolon : UInt16 := 0x3B

/-! ## Escaping -/

/-- The replacement of one character. -/
def replaceUnit (c : UInt16) (replacement : Units) (s : Units) : Units :=
  s.flatMap fun d => if d = c then replacement else [d]

/-- `escapeHtml`. -/
def escapeHtml (s : Units) : Units :=
  replaceUnit apostrophe (units "&#39;") <| replaceUnit quote (units "&quot;") <|
    replaceUnit greaterThan (units "&gt;") <| replaceUnit lessThan (units "&lt;") <|
      replaceUnit ampersand (units "&amp;") s

/-! ## Code blocks -/

def fence : Units := [backtick, backtick, backtick]

/-- The code of a block at the beginning of a text, a match of the triple-backtick pattern. -/
def fencedCode (s : Units) : Option Units :=
  if fence <+: s then before fence (fun _ => true) (s.drop 3) else none

/-- The placeholder of a block. -/
def placeholder (n : Nat) : Units :=
  units "<!--tokenplacecodeblock" ++ (Nat.toDigits 10 n).map (fun c => UInt16.ofNat c.toNat) ++
    units "-->"

/-- The line end at the end of a code is cut off. -/
def dropLineEnd (code : Units) : Units :=
  if [carriageReturn, lineFeed] <:+ code then code.dropLast.dropLast
  else if [lineFeed] <:+ code then code.dropLast
  else code

/-- The element of a code. -/
def codeBlock (code : Units) : Units :=
  units "<pre>" ++ units "<code>" ++ dropLineEnd code ++ units "</code>" ++ units "</pre>"

/-- Every block is replaced by its placeholder; the text and the elements. Some letters may still be
part of a match, and `n` blocks came before. -/
def replaceBlocksFrom : Nat → Nat → Units → Units × List Units
  | _, _, [] => ([], [])
  | skip + 1, n, _ :: s => replaceBlocksFrom skip n s
  | 0, n, c :: s =>
    match fencedCode (c :: s) with
    | some code =>
      -- Two fences and the code, less the letter that is gone already.
      let (text, blocks) := replaceBlocksFrom (code.length + 5) (n + 1) s
      (placeholder n ++ text, codeBlock code :: blocks)
    | none =>
      let (text, blocks) := replaceBlocksFrom 0 n s
      (c :: text, blocks)

def replaceBlocks (s : Units) : Units × List Units := replaceBlocksFrom 0 0 s

/-! ## Inline rules -/

/-- A rule that replaces a pair of marks around a text by tags. Between the marks stands at least
one letter; the first one may be restricted. -/
structure InlineRule where
  mark : Units
  first : UInt16 → Bool
  allowed : UInt16 → Bool
  opening : Units
  closing : Units

/-- The text between two marks at the beginning of a text. -/
def InlineRule.inner (rule : InlineRule) (s : Units) : Option Units :=
  if rule.mark <+: s then
    match s.drop rule.mark.length with
    | [] => none
    | c :: rest =>
      -- The first letter is inside even where the mark begins with it.
      if rule.first c && rule.allowed c then (before rule.mark rule.allowed rest).map (c :: ·)
      else none
  else none

def InlineRule.pattern (rule : InlineRule) : Pattern UInt16 := fun s =>
  (rule.inner s).map fun inner =>
    (rule.opening ++ inner ++ rule.closing, 2 * rule.mark.length + inner.length)

def InlineRule.apply (rule : InlineRule) (s : Units) : Units := replaceAll rule.pattern s

/-- A run of backticks' insides, `[^…]+`, is as long as possible; the mark behind it is the next. -/
def inlineCode : InlineRule where
  mark := [backtick]
  first _ := true
  allowed c := c ≠ backtick
  opening := units "<code>"
  closing := units "</code>"

def strongStars : InlineRule where
  mark := [star, star]
  first _ := true
  allowed c := !isLineTerminator c
  opening := units "<strong>"
  closing := units "</strong>"

def strongUnderscores : InlineRule where
  mark := [underscore, underscore]
  first _ := true
  allowed c := !isLineTerminator c
  opening := units "<strong>"
  closing := units "</strong>"

def emStars : InlineRule where
  mark := [star]
  first c := !isSpaceUnit c
  allowed c := c ≠ star
  opening := units "<em>"
  closing := units "</em>"

def emUnderscores : InlineRule where
  mark := [underscore]
  first c := !isSpaceUnit c
  allowed c := c ≠ underscore
  opening := units "<em>"
  closing := units "</em>"

/-- The rules in their order. -/
def inlineRules : List InlineRule :=
  [inlineCode, strongStars, strongUnderscores, emStars, emUnderscores]

/-- All inline rules, one behind the other. -/
def applyInline (s : Units) : Units := inlineRules.foldl (fun s rule => rule.apply s) s

/-! ## Lines -/

/-- The lines of a text. A carriage return before a line feed belongs to it. -/
def splitLines : Units → List Units
  | [] => [[]]
  | c :: s =>
    if c = lineFeed then [] :: splitLines s
    else if c = carriageReturn ∧ s.head? = some lineFeed then splitLines s
    else (splitLines s).modifyHead (c :: ·)

def trim (line : Units) : Units := trimBy isSpaceUnit line

def isDigit (c : UInt16) : Bool := 0x30 ≤ c && c ≤ 0x39

/-- `placeholderMatch`: the number in a line that is a placeholder. -/
def placeholderMatch (line : Units) : Option Nat :=
  let start := units "<!--tokenplacecodeblock"
  if start <+: line then
    let rest := line.drop start.length
    let digits := rest.takeWhile isDigit
    if digits ≠ [] ∧ rest.dropWhile isDigit = units "-->" then
      some (Nat.ofDigitChars 10 (digits.map fun c => Char.ofNat c.toNat) 0)
    else none
  else none

/-- `listMatch`: the text of a list item. -/
def listMatch : Units → Option Units
  | [] => none
  | c :: s =>
    let item := s.dropWhile isSpaceUnit
    if (c = dash ∨ c = star) ∧ s.takeWhile isSpaceUnit ≠ [] ∧ item.all (!isLineTerminator ·) then
      some item
    else none

/-- `flushList`: the list of the items so far. -/
def flushList (items : List Units) : List Units :=
  if items.isEmpty then []
  else [units "<ul>" ++ (items.flatMap fun item => units "<li>" ++ item ++ units "</li>") ++
    units "</ul>"]

/-- `htmlParts`, from a line on, where some items of a list are not written yet. -/
def htmlParts (codeBlocks : List Units) : List Units → List Units → List Units
  | [], items => flushList items
  | line :: lines, items =>
    match placeholderMatch (trim line) with
    | some n => flushList items ++ codeBlocks[n]?.getD [] :: htmlParts codeBlocks lines []
    | none =>
      match listMatch (trim line) with
      | some item => htmlParts codeBlocks lines (items ++ [item])
      | none =>
        flushList items ++ (if trim line = [] then units "<br>" else trim line) ::
          htmlParts codeBlocks lines []

/-! ## The whole -/

/-- How often a word is repeated at the beginning of a text, at most `fuel` times. -/
def repeats (w : Units) : Nat → Units → Nat
  | 0, _ => 0
  | fuel + 1, s => if w <+: s then repeats w fuel (s.drop w.length) + 1 else 0

/-- `(<br>)+`, replaced by one. -/
def breaks : Pattern UInt16 := fun s =>
  let n := repeats (units "<br>") s.length s
  if 0 < n then some (units "<br>", n * (units "<br>").length) else none

/-- Two words, replaced by one of them. -/
def pair (first second replacement : Units) : Pattern UInt16 := fun s =>
  if first ++ second <+: s then some (replacement, (first ++ second).length) else none

/-- The breaks that the elements make superfluous. -/
def tidy (html : Units) : Units :=
  replaceAll (pair (units "</pre>") (units "<br>") (units "</pre>")) <|
    replaceAll (pair (units "<br>") (units "<pre>") (units "<pre>")) <|
      replaceAll (pair (units "</ul>") (units "<br>") (units "</ul>")) <|
        replaceAll (pair (units "<br>") (units "<ul>") (units "<ul>")) <|
          replaceAll breaks html

/-- `renderMarkdown` of a string. -/
def renderMarkdown (content : Units) : Units :=
  let (text, codeBlocks) := replaceBlocks (escapeHtml content)
  tidy ((units "<br>").intercalate (htmlParts codeBlocks (splitLines (applyInline text)) []))

end Markdown
