import Obfuscator.Lexer
import Obfuscator.Random
/-!
# The passes

The four passes of the local pipeline, each a function of a text and its language: renaming
identifiers, recoding string literals, adding decoy code and minifying. Renaming also reads a
stream of draws, for the names it makes. A pass that would cut a character or splice spans out
of order gives `none`.

## Renaming identifiers

Renaming gives each candidate identifier that stands in code a generated name and writes the
name at every place where the identifier stands in code. Candidates are taken in order; one is
passed over when it is excluded, reserved in the language, already renamed, or has no code
occurrence in the text as renamed so far. A generated name is the language's prefix and four
lowercase hexadecimal digits of the next draw; a draw is refused while its name was already
generated or stands as a whole word in the current text.

The table of names is kept sorted by the original identifier. Languages that do not rename
leave the text and the table empty-handed, unless the candidates are given explicitly.
-/

namespace Obfuscator

/-- Generated names by original identifier, sorted by the original. -/
structure RenameMap where
  entries : List (String × String) := []
  deriving DecidableEq, Repr, Inhabited

namespace RenameMap

def get? (m : RenameMap) (original : String) : Option String :=
  (m.entries.find? fun e => e.1 == original).map Prod.snd

def size (m : RenameMap) : Nat := m.entries.length

def isEmpty (m : RenameMap) : Bool := m.entries.isEmpty

def isGenerated (m : RenameMap) (name : String) : Bool := m.entries.any fun e => e.2 == name

def insertSorted (e : String × String) : List (String × String) → List (String × String)
  | [] => [e]
  | x :: xs => if e.1 < x.1 then e :: x :: xs else x :: insertSorted e xs

def insert (m : RenameMap) (original generated : String) : RenameMap :=
  { entries := insertSorted (original, generated) m.entries }

end RenameMap

namespace Rename

def hex4 (x : UInt16) : String :=
  let ds := Text.hexDigits x.toNat
  String.ofList (List.replicate (4 - ds.length) '0' ++ ds)

/-- The first name from the draws that is neither generated yet nor a whole word of the text,
with the draws after it; at most `budget` draws are made. -/
def freshName (namePrefix : String) (src : Source) (m : RenameMap) :
    Nat → Draws → Option (String × Draws)
  | 0, _ => none
  | budget + 1, d =>
    let (x, d) := d.next
    let name := namePrefix ++ hex4 x
    if m.isGenerated name || src.containsWord name.toList then freshName namePrefix src m budget d
    else some (name, d)

def drawBudget : Nat := 1 <<< 24

/-- A renaming in progress: the text so far, the table so far, and the draws left. -/
structure State where
  code : List Char
  names : RenameMap
  draws : Draws

/-- Renames one candidate, or passes it over. -/
def step (language : Language) (excluded : List String) (s : State) (candidate : String) :
    Option State :=
  let p := language.profile
  if excluded.contains candidate || p.isReserved candidate || (s.names.get? candidate).isSome then
    some s
  else
    let src : Source := { language, text := s.code }
    match src.codeWordSpans candidate.toList with
    | [] => some s
    | hits => do
      let (name, draws) ← freshName p.renamePrefix src s.names drawBudget s.draws
      let code ← Text.splice s.code (hits.map fun h => { span := h, text := name.toList })
      pure { code, names := s.names.insert candidate name, draws }

/-- Renames the candidates in order. -/
def candidates (language : Language) (excluded : List String) (draws : Draws)
    (names : List String) (code : List Char) : Option (List Char × RenameMap) :=
  let start : State := { code, names := {}, draws }
  (names.foldlM (step language excluded) start).map fun s => (s.code, s.names)

/-- Renames the language's own candidates; a language that does not rename keeps the text. -/
def run (language : Language) (excluded : List String) (draws : Draws) (code : List Char) :
    Option (List Char × RenameMap) :=
  let p := language.profile
  if p.renames then candidates language excluded draws p.renameCandidates code
  else some (code, {})

end Rename

/-!
## Recoding string literals

Recoding hides the text of string literals: each literal of at least two characters is replaced,
quotes included, by the language's decode expression for the payload of its content. A literal
is kept as it is when it interpolates, when it lies within a module-naming statement, or when
its content cannot be encoded (a Latin-1 payload for a character above U+00FF); the kept ones
that could not be encoded are counted as failures.
-/

/-- The outcome of recoding: the new text and how many literals were recoded or failed. -/
structure Recoding where
  code : List Char
  recoded : Nat
  failed : Nat
  deriving DecidableEq, Repr

namespace Recode

/-- What recoding does with one literal. -/
inductive Choice where
  | keep
  | replace (expression : String)
  | fail

/-- What recoding does with one literal of a source, given its module-naming statements. -/
def choose (src : Source) (paths : List Span) (l : Literal) : Choice :=
  if !l.concealable || src.isInterpolated l || paths.any (fun p => l.span.within p) then .keep
  else
    match src.profile.charset.encode l.text with
    | .ok payload => .replace (src.profile.decodeExpression (String.ofList payload))
    | .error _ => .fail

/-- Recodes the literals of a text. -/
def run (language : Language) (code : List Char) : Option Recoding :=
  let src : Source := { language, text := code }
  let paths := src.modulePathSpans
  let choices := src.literals.map fun l => (l, choose src paths l)
  let edits := choices.filterMap fun
    | (l, .replace e) => some { span := l.span, text := e.toList }
    | _ => none
  let failed := (choices.filter fun | (_, .fail) => true | _ => false).length
  (Text.splice code edits).map fun out =>
    { code := out, recoded := edits.length, failed }

end Recode

/-!
## Decoy code

The decoy block of a language goes in front of the text. In a language whose files open with a
tag, a text that starts with the tag (blanks before it allowed) keeps the tag first: the blanks
and the tag, a line break, the block, then the rest of the text less one line break right after
the tag.
-/

namespace DeadCode

/-- The text with the language's decoy block. -/
def inject (language : Language) (code : List Char) : List Char :=
  let p := language.profile
  let block := p.deadCode.toList
  let prepended := block ++ code
  match p.openTag with
  | none => prepended
  | some tag =>
    let trimmed := Text.trimStart code
    if tag.toList.isPrefixOf trimmed then
      let lead := code.take (code.length - trimmed.length)
      let rest := trimmed.drop tag.length
      let rest := match rest with
        | '\n' :: r => r
        | r => r
      lead ++ tag.toList ++ ['\n'] ++ block ++ rest
    else prepended

end DeadCode

/-!
## Minifying

In a language where layout carries meaning, minifying only collapses each run of blank lines to
a single line break. Elsewhere every indented break becomes a single space, except that it stays
one line break when the line before it holds a line-comment marker, so that no code is pulled
into a comment.
-/

namespace Minify

def containsText (hay needle : List Char) : Bool :=
  (List.range (hay.length + 1)).any fun i => needle.isPrefixOf (hay.drop i)

/-- What an indented break becomes, given the line before it. -/
def joiner (p : Profile) (line : List Char) : List Char :=
  if p.lineCommentMarkers.any fun m => containsText line m.toList then ['\n'] else [' ']

/-- The minified text. -/
def run (language : Language) (code : List Char) : Option (List Char) :=
  let p := language.profile
  if p.whitespaceSensitive then
    Text.splice code ((Lexer.blankRuns code).map fun r => { span := r, text := ['\n'] })
  else do
    let edits ← (Lexer.indentedBreaks code).mapM fun r =>
      (Lexer.lineBefore? code r.start).map fun line => { span := r, text := joiner p line }
    Text.splice code edits

end Minify
end Obfuscator
