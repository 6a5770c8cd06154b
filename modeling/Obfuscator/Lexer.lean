import Obfuscator.Text.Utf8
import Obfuscator.Text.CharClass
import Obfuscator.Language
/-!
# The lexer

What the passes know of a source text, all of it found by scanning the text from the left:
spans of bytes and splicing new texts over them, whole words, quoted literals and the holes of
interpolating ones, the line layout that minifying works on, and the statements that name a
module by a quoted path. A `Source` is a text with its language, and answers the queries that
depend on the language: which literals interpolate, and which occurrences of a word stand in code.

## Spans and splicing

A span is a half-open range of byte offsets. Splicing replaces spans of a text by new texts:
the pieces between the spans are cut from the text, from the end of one span to the start of
the next, and the replacements stand where the spans were. Each cut must start no later than it
ends and fall on character boundaries; otherwise the splice is refused.
-/

namespace Obfuscator

/-- A half-open range of byte offsets into a text. -/
structure Span where
  start : Nat
  stop : Nat
  deriving DecidableEq, Repr, Inhabited

namespace Span

def within (inner outer : Span) : Bool := outer.start ≤ inner.start && inner.stop ≤ outer.stop

def strictlyInside (inner outer : Span) : Bool := outer.start < inner.start && inner.stop < outer.stop

def shift (s : Span) (n : Nat) : Span := ⟨s.start + n, s.stop + n⟩

end Span

/-- A span of a text and the text that takes its place. -/
structure Edit where
  span : Span
  text : List Char
  deriving DecidableEq, Repr

namespace Text

def spliceFrom (source : List Char) : Nat → List Edit → Option (List Char)
  | cursor, [] => dropBytes? source cursor
  | cursor, e :: es => do
    let piece ← slice? source cursor e.span.start
    let rest ← spliceFrom source e.span.stop es
    pure (piece ++ e.text ++ rest)

/-- Replaces each span by its text; `none` when the spans are out of order or cut a
character. -/
def splice (source : List Char) (edits : List Edit) : Option (List Char) :=
  spliceFrom source 0 edits

end Text

/-!
## Scanning a text for matches

A match rule looks at a position of a text, given the character before it, and says how many
characters a match starting there takes, if any. Scanning finds matches from the left: at each
position the rule is asked, a match is recorded and the scan goes on after it, and otherwise the
scan moves one character on. A rule that takes no characters matches nothing, so matches never
overlap and always make progress.
-/

namespace Lexer

open Text

/-- How many characters a match at this position takes, given the character before it. -/
abbrev Rule := Option Char → List Char → Option Nat

/-- The matches of the rule in `text`, which starts at byte `offset` after `prev`. -/
def spansFrom (rule : Rule) : Option Char → Nat → List Char → List Span
  | _, _, [] => []
  | prev, offset, c :: cs =>
    match rule prev (c :: cs) with
    | some (k + 1) =>
      let taken := (c :: cs).take (k + 1)
      let stop := offset + byteSize taken
      ⟨offset, stop⟩ :: spansFrom rule taken.getLast? stop ((c :: cs).drop (k + 1))
    | _ => spansFrom rule (some c) (offset + c.utf8Size) cs
termination_by _ _ text => text.length
decreasing_by
  · simp only [List.length_drop, List.length_cons]; omega
  · simp

def spans (rule : Rule) (text : List Char) : List Span := spansFrom rule none 0 text

/-!
### Whole words

An occurrence of a word is whole when a word boundary lies at both of its ends: the character
before its first character, and the character after its last, each differ from the character
next to them in being a word character (the ends of the text count as non-word). Occurrences are
found from the left, and the search goes on after the end of each one, so they never overlap.
The empty word has no occurrences.
-/

def boundary (prev next : Option Char) : Bool :=
  (prev.map isWordChar).getD false != (next.map isWordChar).getD false

/-- A whole occurrence of `word` starts here: the text starts with it, and boundaries lie before
and after it. -/
def wordRule (word : List Char) : Rule := fun prev text =>
  if word.isPrefixOf text && boundary prev word.head? &&
      boundary word.getLast? (text.drop word.length).head? then
    some word.length
  else
    none

def wordSpans (text word : List Char) : List Span := spans (wordRule word) text

end Lexer

/-!
## Quoted literals

A quoted literal is a single- or double-quoted stretch of one line. The text is read from the
left: a quote opens a literal when the same quote appears again before the end of its line, and
the literal closes at the first such quote; a quote with no partner on its line is passed over
as an ordinary character. The search goes on after each closing quote, so literals never
overlap and a quote of the other kind inside a literal is part of its content.

Some languages mark interpolating literals by a short letter prefix (`f"…"`): such a literal has
holes, written between braces, whose contents are code. Doubled braces stand for a brace and
open no hole, and an opening brace with no closing brace after it ends the search for holes.
-/

/-- A quoted literal: its quote, the span from quote to quote, and its content between. -/
structure Literal where
  quote : Char
  span : Span
  content : Span
  text : List Char
  deriving DecidableEq, Repr

namespace Literal

def contentLength (l : Literal) : Nat := l.text.length

def concealable (l : Literal) : Bool := 2 ≤ l.contentLength

end Literal

namespace Lexer

open Text

def isQuote (c : Char) : Bool := c == '"' || c == '\''

/-- The content of a literal opened by quote `q`, and the text after its closing quote, when the
same quote follows on the same line. -/
def closeLiteral (q : Char) (cs : List Char) : Option (List Char × List Char) :=
  let body := cs.takeWhile fun c => c != q && c != '\n'
  match cs.drop body.length with
  | c :: rest => if c == q then some (body, rest) else none
  | [] => none

theorem closeLiteral_rest_length {q : Char} {cs body rest : List Char}
    (h : closeLiteral q cs = some (body, rest)) : rest.length < cs.length := by
  unfold closeLiteral at h
  dsimp only at h
  split at h
  · rename_i c rest' hd
    split at h
    · simp only [Option.some.injEq, Prod.mk.injEq] at h
      obtain ⟨_, rfl⟩ := h
      have := congrArg List.length hd
      simp only [List.length_drop, List.length_cons] at this
      omega
    · simp at h
  · simp at h

/-- The literals of `text`, which starts at byte `offset`, from the left. -/
def literalsFrom : Nat → List Char → List Literal
  | _, [] => []
  | offset, c :: cs =>
    if isQuote c then
      match hc : closeLiteral c cs with
      | some (body, rest) =>
        let contentStart := offset + c.utf8Size
        let contentStop := contentStart + byteSize body
        { quote := c, span := ⟨offset, contentStop + c.utf8Size⟩,
          content := ⟨contentStart, contentStop⟩, text := body } ::
          literalsFrom (contentStop + c.utf8Size) rest
      | none => literalsFrom (offset + c.utf8Size) cs
    else
      literalsFrom (offset + c.utf8Size) cs
termination_by _ text => text.length
decreasing_by
  · have := closeLiteral_rest_length hc
    simp only [List.length_cons]
    omega
  · simp
  · simp

def literals (text : List Char) : List Literal := literalsFrom 0 text

def isPrefixLetter (c : Char) : Bool := "rRbBuUfF".toList.contains c

/-- Whether a literal whose opening quote follows `before` (given last character first) carries
an interpolation prefix for `marker`: one or two ASCII letters right before the quote, not
themselves preceded by an ASCII letter, digit or underscore, all of them prefix letters, and one
of them the marker in either case. -/
def hasInterpolationPrefix (marker : Char) (beforeRev : List Char) : Bool :=
  let letters := beforeRev.takeWhile fun c => c.isAlpha
  let preceding := (beforeRev.drop letters.length).head?
  (letters.length == 1 || letters.length == 2) &&
    (preceding.all fun c => !(c.isAlphanum || c == '_')) &&
    letters.all isPrefixLetter &&
    letters.any fun c => c.toLower == marker.toLower

/-- The holes of an interpolating literal's content, which starts at byte `offset`. -/
def holesFrom : Nat → List Char → List Span
  | _, [] => []
  | offset, '\x7b' :: '\x7b' :: rest => holesFrom (offset + 2) rest
  | offset, '\x7d' :: '\x7d' :: rest => holesFrom (offset + 2) rest
  | offset, '\x7b' :: cs =>
    let inner := cs.takeWhile (· != '\x7d')
    match h : cs.drop inner.length with
    | _ :: rest =>
      let start := offset + 1
      ⟨start, start + byteSize inner⟩ :: holesFrom (start + byteSize inner + 1) rest
    | [] => []
  | offset, c :: cs => holesFrom (offset + c.utf8Size) cs
termination_by _ text => text.length
decreasing_by
  · simp only [List.length_cons]; omega
  · simp only [List.length_cons]; omega
  · have := congrArg List.length h
    simp only [List.length_drop, List.length_cons] at this ⊢
    omega
  · simp

/-!
## Line layout

The line structure that minifying works on. An indented break is a line break with the blanks
that follow it, line breaks among them; a blank run is a line break followed by one or more
lines that hold only spaces, tabs and carriage returns, each ended by its own line break. The
line before a position is the text from the last line break before it up to the position.
-/

/-- A line break followed by at least one blank, taking all the blanks that follow. -/
def indentedBreakRule : Rule
  | _, '\n' :: cs =>
    let k := (cs.takeWhile isBlank).length
    if k = 0 then none else some (k + 1)
  | _, _ => none

def isInlineBlank (c : Char) : Bool := c == ' ' || c == '\t' || c == '\r'

def blankLinesLength (cs : List Char) : Nat :=
  let inline := cs.takeWhile isInlineBlank
  match h : cs.drop inline.length with
  | '\n' :: rest => inline.length + 1 + blankLinesLength rest
  | _ => 0
termination_by cs.length
decreasing_by
  have := congrArg List.length h
  simp only [List.length_drop, List.length_cons] at this
  omega

/-- A line break followed by as many blank lines as there are, at least one. -/
def blankRunRule : Rule
  | _, '\n' :: cs =>
    let k := blankLinesLength cs
    if k = 0 then none else some (k + 1)
  | _, _ => none

def indentedBreaks (text : List Char) : List Span := spans indentedBreakRule text

def blankRuns (text : List Char) : List Span := spans blankRunRule text

/-- The text of the line before byte `stop`: from just after the last line break before it up
to it; `none` when `stop` is past the end or inside a character. -/
def lineBefore? (text : List Char) (stop : Nat) : Option (List Char) :=
  (slice? text 0 stop).map fun before => (before.reverse.takeWhile (· != '\n')).reverse

/-!
## Module paths

Statements that name a module by a quoted path, whose literals must stay as they are. Two
families of languages write them differently.

* Import-and-require style: `import` and a blank, then anything but `;` and line breaks, as
  little as possible, up to a quoted path; or `import (` or `require (` with a quoted path, blanks
  allowed around the parenthesis; or `from` and a quoted path. The quotes of a path may be of
  either kind and the path holds no quote and no line break.
* Import-block style: `import` and blanks, then either a parenthesised list running to the first
  closing parenthesis, or a double-quoted path, possibly after an alias of letters, digits, `_`
  and `.` and blanks.

Each statement starts at a word boundary, and statements are found from the left without
overlap.
-/

def runLength (p : Char → Bool) (cs : List Char) : Nat := (cs.takeWhile p).length

def quotedPath (isQ : Char → Bool) : List Char → Option Nat
  | q :: rest =>
    if isQ q then
      let k := runLength (fun c => !isQ c && c != '\n') rest
      match rest.drop k with
      | c :: _ => if isQ c then some (k + 2) else none
      | [] => none
    else none
  | [] => none

def eitherQuote (c : Char) : Bool := c == '"' || c == '\''

/-- As few characters other than `;` and line breaks as possible, then a quoted path. -/
def lazyThenPath : List Char → Option Nat
  | [] => none
  | c :: cs =>
    match quotedPath eitherQuote (c :: cs) with
    | some k => some k
    | none => if c == ';' || c == '\n' then none else (lazyThenPath cs).map (· + 1)

def keywordThen (kw : String) (after : List Char → Option Nat) (cs : List Char) : Option Nat :=
  if kw.toList.isPrefixOf cs then (after (cs.drop kw.length)).map (· + kw.length) else none

def blanksThen (after : List Char → Option Nat) (cs : List Char) : Option Nat :=
  let k := runLength isBlank cs
  (after (cs.drop k)).map (· + k)

def charThen (c : Char) (after : List Char → Option Nat) : List Char → Option Nat
  | d :: rest => if d == c then (after rest).map (· + 1) else none
  | [] => none

def blankThen (after : List Char → Option Nat) : List Char → Option Nat
  | d :: rest => if isBlank d then (after rest).map (· + 1) else none
  | [] => none

def importOrRequireAt (cs : List Char) : Option Nat :=
  keywordThen "import" (blankThen lazyThenPath) cs <|>
  keywordThen "import" (blanksThen (charThen '(' (blanksThen (quotedPath eitherQuote)))) cs <|>
  keywordThen "require" (blanksThen (charThen '(' (blanksThen (quotedPath eitherQuote)))) cs <|>
  keywordThen "from" (blanksThen (quotedPath eitherQuote)) cs

def isAliasChar (c : Char) : Bool := (c.isAlphanum && c.toNat < 0x80) || c == '_' || c == '.'

/-- A parenthesised list running to the first closing parenthesis. -/
def parenthesised : List Char → Option Nat
  | '(' :: rest =>
    let k := runLength (· != ')') rest
    match rest.drop k with
    | _ :: _ => some (k + 2)
    | [] => none
  | _ => none

def aliasThenPath (cs : List Char) : Option Nat :=
  let a := runLength isAliasChar cs
  let b := runLength isBlank (cs.drop a)
  if a = 0 || b = 0 then none
  else (quotedPath (· == '"') (cs.drop (a + b))).map (· + a + b)

def importBlockAt (cs : List Char) : Option Nat :=
  keywordThen "import" (blanksThen fun rest =>
    parenthesised rest <|> aliasThenPath rest <|> quotedPath (· == '"') rest) cs

/-- The rule as a match rule: a statement starts where no word character stands before it. -/
def ModulePathRule.toRule (r : ModulePathRule) : Rule := fun prev cs =>
  if (prev.map isWordChar).getD false then none
  else
    match r with
    | .importOrRequire => importOrRequireAt cs
    | .importBlock => importBlockAt cs

def modulePathSpans (r : ModulePathRule) (text : List Char) : List Span := spans r.toRule text

end Lexer

/-!
## Source texts

A source text together with its language: the queries that depend on the language live here.
A literal interpolates when the language has an interpolation marker and the literal carries a
prefix with it. A code word is a whole word that is not hidden in a literal: a hit strictly
inside the span of a literal counts only when it lies in one of that literal's holes, and the
first literal whose span strictly contains the hit decides.
-/

/-- A source text in a language. -/
structure Source where
  language : Language
  text : List Char

namespace Source

open Text Lexer

def profile (s : Source) : Profile := s.language.profile

def literals (s : Source) : List Literal := Lexer.literals s.text

/-- Whether the literal interpolates, told by the letters before its opening quote. -/
def isInterpolated (s : Source) (l : Literal) : Bool :=
  match s.profile.interpolationMarker, slice? s.text 0 l.span.start with
  | some marker, some before => hasInterpolationPrefix marker before.reverse
  | _, _ => false

def holes (s : Source) (l : Literal) : List Span :=
  if s.isInterpolated l then holesFrom l.content.start l.text else []

def wordSpans (s : Source) (word : List Char) : List Span := Lexer.wordSpans s.text word

def containsWord (s : Source) (word : List Char) : Bool := !(s.wordSpans word).isEmpty

/-- Whether a hit of a word counts as code: the first literal that strictly contains it must
have a hole around it, and a hit in no literal counts. -/
def isCodeHit (s : Source) (hit : Span) : Bool :=
  match s.literals.find? fun l => hit.strictlyInside l.span with
  | none => true
  | some l => (s.holes l).any fun hole => hit.within hole

/-- The occurrences of a word that stand in code. -/
def codeWordSpans (s : Source) (word : List Char) : List Span :=
  (s.wordSpans word).filter s.isCodeHit

def modulePathSpans (s : Source) : List Span :=
  match s.profile.modulePaths with
  | some rule => Lexer.modulePathSpans rule s.text
  | none => []

end Source
end Obfuscator
