import Obfuscator.Settings.Basic
import Obfuscator.Json.Reader
/-!
# The rewriting service

A rewriting service obfuscates code remotely: it is sent the code, the settings and the
credential, and answers with the new code or a failure. The request to a chat-completions
service carries a fixed system prompt and a user prompt that spells out every setting. Its
reply is read as the first choice's message content; a failed status is described by the
service's own message when the body has one.

Replies often come wrapped in a fenced code block: stripping the fences keeps what lies between
an opening fence line and a closing fence, and leaves any other text trimmed.
-/

namespace Obfuscator

/-- Why the rewriting service gave no code. -/
inductive DelegateError where
  | transport
  | invalidResponse
  | emptyResponse
  | service (message : String)
  deriving DecidableEq, Repr

namespace DelegateError

def kind : DelegateError → String
  | transport => "Http"
  | invalidResponse => "InvalidResponse"
  | emptyResponse => "EmptyResponse"
  | service _ => "Service"

def message? : DelegateError → Option String
  | transport => none
  | invalidResponse => some "invalid response"
  | emptyResponse => some "empty response from rewriting service"
  | service m => some m

end DelegateError

/-- What is sent to the rewriting service. -/
structure DelegateRequest where
  code : String
  settings : Settings
  credential : String
  deriving DecidableEq, Repr

abbrev RewritingService := DelegateRequest → Except DelegateError String

def RewritingService.unreachable : RewritingService := fun _ => .error .transport

namespace Delegate

def yesNo (b : Bool) : String := if b then "Yes" else "No"

/-- The prompt that asks for the obfuscation, with every setting spelled out. -/
def buildPrompt (code : String) (s : Settings) : String :=
  s!"Obfuscate the following {s.language.name} code using these parameters:\n" ++
  s!"- Intensity: {s.intensity.description}\n" ++
  s!"- Rename Variables: {yesNo s.renameVariables}\n" ++
  s!"- String Encryption/Hiding: {yesNo s.stringEncryption}\n" ++
  s!"- Control Flow Flattening: {yesNo s.controlFlowFlattening}\n" ++
  s!"- Dead Code Injection: {yesNo s.deadCodeInjection}\n" ++
  s!"- Target: {s.targetEnvironment}\n" ++
  s!"- Exclusions (Do not rename these): {s.exclusions}\n" ++
  "\n" ++
  "Respond ONLY with the obfuscated code. Do not include markdown code blocks or explanations.\n" ++
  "Code to obfuscate:\n" ++
  code ++ "\n"

def fence : List Char := ['`', '`', '`']

/-- The reply without its code fences: when the trimmed reply opens with a fence line and, less
trailing blanks, ends with a fence, what lies between, without trailing line breaks; otherwise
the trimmed reply. -/
def stripCodeFences (text : String) : String :=
  let trimmed := Text.trim text.toList
  let result :=
    if fence.isPrefixOf trimmed then
      let afterOpen := trimmed.drop 3
      match afterOpen.dropWhile (· != '\n') with
      | '\n' :: body =>
        let body := Text.trimEnd body
        if fence.reverse.isPrefixOf body.reverse then
          let inner := body.take (body.length - 3)
          (inner.reverse.dropWhile (fun c => c == '\n' || c == '\r')).reverse
        else trimmed
      | _ => trimmed
    else trimmed
  String.ofList result

def systemPrompt : String :=
  "You are a source code obfuscation engine. You return only code that behaves exactly like the input."

def defaultEndpoint : String := "https://api.openai.com/v1/chat/completions"

def defaultModel : String := "gpt-4o-mini"

def requestBody (model : String) (r : DelegateRequest) : Json :=
  .obj [("model", .str model),
    ("messages", .arr [
      .obj [("role", .str "system"), ("content", .str systemPrompt)],
      .obj [("role", .str "user"), ("content", .str (buildPrompt r.code r.settings))]]),
    ("temperature", .num (.float (Binary64.ofDecimal false 1 (-1)))),
    ("top_p", .num (.float (Binary64.ofNat 1)))]

/-- The content of the first choice of a successful reply: `none` when the reply has no
choices or the first has no content, an error when the reply does not have the expected
shape. -/
def replyContent (j : Json) : Except Unit (Option String) :=
  match j.field? "choices" with
  | some (.arr choices) =>
    let checked : Except Unit (List (Option String)) := choices.mapM fun c =>
      match c.field? "message" with
      | some m@(.obj _) =>
        match m.field? "content" with
        | none | some .null => .ok none
        | some (.str s) => .ok (some s)
        | some _ => .error ()
      | _ => .error ()
    checked.map fun contents => contents.head?.bind id
  | _ => .error ()

/-- The message that describes a refused request: the service's own message when the body is
JSON with one, else the trimmed body, else the status line. -/
def serviceMessage (statusLine : String) (body : String) : String :=
  let fromJson := match Json.parse body.toList with
    | .ok v =>
      let e := (v.field? "error").getD v
      match e.field? "message", e with
      | some (.str m), _ => some m
      | _, .str m => some m
      | _, _ => none
    | .error _ => none
  match fromJson with
  | some m => m
  | none =>
    let t := String.ofList (Text.trim body.toList)
    if t.isEmpty then statusLine else t

end Delegate
end Obfuscator
