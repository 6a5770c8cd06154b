import Obfuscator.Text.CharClass
import Obfuscator.Payload
/-!
# Languages

The five source languages the obfuscator knows, how their names are read, and how a language
is told from a file extension or a path. Names are read after trimming blanks and folding ASCII
case; the table of extensions folds ASCII case as well. Each language has a profile, which holds
everything the passes need to know about it.
-/

namespace Obfuscator

/-- A source language the obfuscator can treat. -/
inductive Language where
  | javaScript
  | python
  | php
  | go
  | java
  deriving DecidableEq, Repr, Inhabited

namespace Language

def all : List Language := [javaScript, python, php, go, java]

def name : Language → String
  | javaScript => "JavaScript"
  | python => "Python"
  | php => "PHP"
  | go => "Go"
  | java => "Java"

def extension : Language → String
  | javaScript => "js"
  | python => "py"
  | php => "php"
  | go => "go"
  | java => "java"

def ofName? (s : String) : Option Language :=
  all.find? fun l => l.name == s

def asciiLower (cs : List Char) : List Char := cs.map Char.toLower

/-- The language that a loosely written name stands for: blanks around it are ignored, ASCII
case is folded, and the usual short names are accepted. -/
def parse? (text : String) : Option Language :=
  match String.ofList (asciiLower (Text.trim text.toList)) with
  | "javascript" | "js" | "node" => some javaScript
  | "python" | "py" => some python
  | "php" => some php
  | "go" | "golang" => some go
  | "java" => some java
  | _ => none

def ofExtension? (ext : String) : Option Language :=
  match String.ofList (asciiLower ext.toList) with
  | "js" | "mjs" | "cjs" => some javaScript
  | "py" | "pyw" => some python
  | "php" | "phtml" => some php
  | "go" => some go
  | "java" => some java
  | _ => none

/-- The last component of a slash-separated path: empty and `.` components are skipped, and a
last component `..` names no file. -/
def fileName? (path : String) : Option String :=
  let parts := (path.splitOn "/").filter fun p => p != "" && p != "."
  match parts.getLast? with
  | none => none
  | some ".." => none
  | some p =>
    -- a path that is only a root, or only the current directory, names no file
    some p

/-- The extension of a file name: what follows its last dot, unless that dot is the first
character or the name is `..`. -/
def extensionOf? (file : String) : Option String :=
  if file == ".." then none
  else
    match (file.splitOn ".").reverse with
    | ext :: before :: rest =>
      if before == "" && rest.isEmpty then none else some ext
    | _ => none

def ofPath? (path : String) : Option Language :=
  (fileName? path).bind extensionOf? |>.bind ofExtension?

end Language

/-!
## Language profiles

Everything the obfuscator needs to know about a language, as one record per language: how
comments are written, how a hidden string is decoded at run time, which identifiers may be
renamed and which words are reserved, the block of decoy code, the tag that opens a source file,
the letter that marks an interpolating literal, and the rule for module-naming statements,
kept with its text as a regular expression.
-/

/-- An expression with one hole, where the payload goes. -/
structure Template where
  before : String
  after : String
  deriving DecidableEq, Repr

namespace Template

def fill (t : Template) (payload : String) : String := t.before ++ payload ++ t.after

def text (t : Template) : String := t.before ++ "\x7bpayload\x7d" ++ t.after

end Template

namespace Lexer

/-- The rule by which a language's module-naming statements are found. -/
inductive ModulePathRule where
  | importOrRequire
  | importBlock
  deriving DecidableEq, Repr

def ModulePathRule.pattern : ModulePathRule → String
  | .importOrRequire =>
    "\\bimport\\s[^;\\n]*?[\"'][^\"'\\n]*[\"']|\\bimport\\s*\\(\\s*[\"'][^\"'\\n]*[\"']|" ++
      "\\brequire\\s*\\(\\s*[\"'][^\"'\\n]*[\"']|\\bfrom\\s*[\"'][^\"'\\n]*[\"']"
  | .importBlock => "\\bimport\\s*(?:\\([^)]*\\)|(?:[A-Za-z0-9_.]+\\s+)?\"[^\"\\n]*\")"

end Lexer

/-- What the obfuscator knows about one language. -/
structure Profile where
  language : Language
  renames : Bool
  whitespaceSensitive : Bool
  lineComment : String
  altLineComment : Option String
  blockComment : Option (String × String)
  decodeTemplate : Template
  charset : Charset
  renamePrefix : String
  renameCandidates : List String
  reservedWords : List String
  deadCode : String
  openTag : Option String
  interpolationMarker : Option Char
  modulePaths : Option Lexer.ModulePathRule

namespace Profile

/-- A comment of one line holding `text`. A language with an opening tag gets a tag pair of its
own around the comment, so the comment emits nothing. -/
def commentLine (p : Profile) (text : String) : String :=
  match p.openTag, p.blockComment with
  | some tag, some (opening, closing) => s!"{tag} {opening} {text} {closing} ?>"
  | some tag, none => s!"{tag} {p.lineComment} {text} ?>"
  | none, _ => s!"{p.lineComment} {text}"

def lineCommentMarkers (p : Profile) : List String := p.lineComment :: p.altLineComment.toList

def isReserved (p : Profile) (word : String) : Bool := p.reservedWords.contains word

def decodeExpression (p : Profile) (payload : String) : String := p.decodeTemplate.fill payload

end Profile

def braceDeadCode : String := "/* Protected by CodeShield */\n/* _0x4f2a1b check integrity */\n"

namespace Language

/-- The profile of each language. -/
def profile : Language → Profile
  | javaScript =>
    { language := javaScript, renames := true, whitespaceSensitive := false,
      lineComment := "//", altLineComment := none, blockComment := some ("/*", "*/"),
      decodeTemplate := ⟨"atob(\"", "\")"⟩, charset := .latin1, renamePrefix := "_0x",
      renameCandidates := ["total", "price", "tax", "count", "index", "data", "result", "value"],
      reservedWords := ["await", "break", "case", "catch", "class", "const", "continue",
        "debugger", "default", "delete", "do", "else", "export", "extends", "false", "finally",
        "for", "function", "if", "import", "in", "instanceof", "let", "new", "null", "return",
        "super", "switch", "this", "throw", "true", "try", "typeof", "var", "void", "while",
        "with", "yield", "arguments", "undefined", "NaN", "Infinity"],
      deadCode := braceDeadCode, openTag := none, interpolationMarker := none,
      modulePaths := some .importOrRequire }
  | python =>
    { language := python, renames := true, whitespaceSensitive := true,
      lineComment := "#", altLineComment := none, blockComment := none,
      decodeTemplate := ⟨"__import__('base64').b64decode(\"", "\").decode('utf-8')"⟩,
      charset := .utf8, renamePrefix := "_var_",
      renameCandidates := ["total", "price", "tax", "count", "data"],
      reservedWords := ["False", "None", "True", "and", "as", "assert", "async", "await",
        "break", "class", "continue", "def", "del", "elif", "else", "except", "finally", "for",
        "from", "global", "if", "import", "in", "is", "lambda", "nonlocal", "not", "or", "pass",
        "raise", "return", "try", "while", "with", "yield", "self"],
      deadCode := "# Protected by CodeShield\n# _0x4f2a1b check integrity\nif False: pass\n",
      openTag := none, interpolationMarker := some 'f', modulePaths := none }
  | php =>
    { language := php, renames := false, whitespaceSensitive := false,
      lineComment := "//", altLineComment := some "#", blockComment := some ("/*", "*/"),
      decodeTemplate := ⟨"base64_decode(\"", "\")"⟩, charset := .utf8, renamePrefix := "_0x",
      renameCandidates := [],
      reservedWords := ["abstract", "and", "array", "as", "break", "case", "catch", "class",
        "clone", "const", "continue", "declare", "default", "do", "echo", "else", "elseif",
        "empty", "extends", "final", "finally", "fn", "for", "foreach", "function", "global",
        "if", "implements", "include", "instanceof", "interface", "isset", "list", "match",
        "namespace", "new", "or", "print", "private", "protected", "public", "require",
        "return", "static", "switch", "this", "throw", "trait", "try", "unset", "use", "var",
        "while", "yield"],
      deadCode := braceDeadCode, openTag := some "<?php", interpolationMarker := none,
      modulePaths := none }
  | go =>
    { language := go, renames := false, whitespaceSensitive := false,
      lineComment := "//", altLineComment := none, blockComment := some ("/*", "*/"),
      decodeTemplate := ⟨"func() string \x7b b, _ := base64.StdEncoding.DecodeString(\"",
        "\"); return string(b) \x7d()"⟩,
      charset := .utf8, renamePrefix := "_0x", renameCandidates := [],
      reservedWords := ["break", "case", "chan", "const", "continue", "default", "defer",
        "else", "fallthrough", "for", "func", "go", "goto", "if", "import", "interface", "map",
        "package", "range", "return", "select", "struct", "switch", "type", "var", "nil",
        "true", "false"],
      deadCode := braceDeadCode, openTag := none, interpolationMarker := none,
      modulePaths := some .importBlock }
  | java =>
    { language := java, renames := false, whitespaceSensitive := false,
      lineComment := "//", altLineComment := none, blockComment := some ("/*", "*/"),
      decodeTemplate := ⟨"new String(java.util.Base64.getDecoder().decode(\"",
        "\"), java.nio.charset.StandardCharsets.UTF_8)"⟩,
      charset := .utf8, renamePrefix := "_0x", renameCandidates := [],
      reservedWords := ["abstract", "assert", "boolean", "break", "byte", "case", "catch",
        "char", "class", "const", "continue", "default", "do", "double", "else", "enum",
        "extends", "final", "finally", "float", "for", "goto", "if", "implements", "import",
        "instanceof", "int", "interface", "long", "native", "new", "package", "private",
        "protected", "public", "return", "short", "static", "strictfp", "super", "switch",
        "synchronized", "this", "throw", "throws", "transient", "try", "void", "volatile",
        "while", "var", "null", "true", "false"],
      deadCode := braceDeadCode, openTag := none, interpolationMarker := none,
      modulePaths := none }

end Language
end Obfuscator
