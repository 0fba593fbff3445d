import ReviewSignal.Integrations.GoogleClient
import ReviewSignal.Services.TaxonomyGeneration

/-!
# The Ollama provider

`OllamaProvider` of `ai/ollama.py`, asked for a taxonomy: at most two completions, the second one
asked for more strictly, and the number of schema errors of each that was refused.

What the server answers, what Pydantic makes of a content and the clock are parameters.  An exception
of Pydantic has a text of its own (`rendering`), which quotes what was refused; nothing here reads it.

A failure of the server ends the loop at once.  Only a content that the schema refuses is asked for again, and
after two of them the error says how many schema errors each had.  The lemmas say how the two attempts can
end, and `RejectedText` is what follows from the requests not depending on what was refused.
-/

namespace ReviewSignal

/-- `pydantic.ValidationError` -/
structure ValidationError where
  errorCount : ℕ
  rendering : String

/-- `OllamaProvider`, and what its answers depend on. -/
structure OllamaProvider where
  model : String
  /-- `GeneratedTaxonomy.model_json_schema()` -/
  schema : Json
  /-- What the POST of some attempt comes to. -/
  post : ℕ → Json → HttpAnswer
  /-- `GeneratedTaxonomy.model_validate_json` -/
  validate : Json → Except ValidationError GeneratedTaxonomy
  /-- How httpx words a status that is not a success. -/
  statusMessage : ℕ → String
  /-- The milliseconds elapsed when some attempt has been answered. -/
  elapsedMs : ℕ → ℕ

namespace OllamaProvider

/-- `_STRICTER` -/
def stricter : String :=
  "Your previous reply did not match the required JSON schema. " ++
  "Reply with JSON matching the schema exactly. No prose, no code fences, no commentary."

/-- The prompt of an attempt. -/
def attemptPrompt (prompt : String) (attempt : ℕ) : String :=
  if attempt = 1 then prompt else prompt ++ "\n\n" ++ stricter

/-- `value[key]` with a string key. -/
def subscript (key : String) : Json → Except Exn Json
  | .obj fields =>
      match fields.lookup key with
      | some value => .ok value
      | none => .error ⟨"KeyError", "'" ++ key ++ "'"⟩
  | .arr _ => .error ⟨"TypeError", "list indices must be integers or slices, not str"⟩
  | .str _ => .error ⟨"TypeError", "string indices must be integers, not 'str'"⟩
  | .null => .error ⟨"TypeError", "'NoneType' object is not subscriptable"⟩
  | .bool _ => .error ⟨"TypeError", "'bool' object is not subscriptable"⟩
  | .num _ => .error ⟨"TypeError", "'int' object is not subscriptable"⟩

variable (provider : OllamaProvider)

/-- The body of the POST to `/api/chat`. -/
def chatRequest (prompt : String) : Json :=
  .obj [("model", .str provider.model),
    ("messages", .arr [.obj [("role", .str "user"), ("content", .str prompt)]]),
    ("stream", .bool false), ("think", .bool false), ("format", provider.schema),
    ("options", .obj [("temperature", .num 0)])]

/-- `_chat` -/
def chat (attempt : ℕ) (prompt : String) : Except Exn Json :=
  match provider.post attempt (provider.chatRequest prompt) with
  | .unreachable exc => .error exc
  | .response statusCode _ body => do
      -- `response.raise_for_status()`
      if 200 ≤ statusCode ∧ statusCode < 300 then pure ()
      else .error ⟨"HTTPStatusError", provider.statusMessage statusCode⟩
      let answer ← body
      let message ← subscript "message" answer
      subscript "content" message

/-- What one attempt comes to. -/
inductive Reply where
  | valid (value : GeneratedTaxonomy)
  | invalid (exc : ValidationError)
  | failure (exc : Exn)

/-- The body of the loop, up to its `except` clause. -/
def reply (prompt : String) (attempt : ℕ) : Reply :=
  match provider.chat attempt (attemptPrompt prompt attempt) with
  | .error exc => .failure exc
  | .ok text =>
      match provider.validate text with
      | .ok value => .valid value
      | .error exc => .invalid exc

/-- What is kept of a reply that was refused. -/
def rejection (attempt : ℕ) (exc : ValidationError) : String :=
  "attempt " ++ toString attempt ++ ": " ++ toString exc.errorCount ++ " schema errors"

/-- The loop of `generate_structured`, over the attempts left: the requests it sends, and how it
ends. -/
def attempts (prompt : String) : List ℕ → List String → List Json × ModelAnswer
  | [], rejections => ([], .rejected
      { message := "; ".intercalate rejections, attempts := 2, latencyMs := provider.elapsedMs 2 })
  | attempt :: rest, rejections =>
      let request := provider.chatRequest (attemptPrompt prompt attempt)
      match provider.reply prompt attempt with
      | .failure exc => ([request], .fails exc)
      | .invalid exc =>
          let (sent, answer) := attempts prompt rest (rejections ++ [rejection attempt exc])
          (request :: sent, answer)
      | .valid value => ([request], .outcome
          { value, latencyMs := provider.elapsedMs attempt, attempts := attempt,
            fallbackUsed := 1 < attempt })

/-- `generate_structured`, with the requests it sends. -/
def generateStructured (prompt : String) : List Json × ModelAnswer :=
  provider.attempts prompt [1, 2] []

/-- The provider as the service sees it. -/
def toProvider : LLMProvider where
  name := "ollama"
  modelName := provider.model
  modelVersion := none
  generateStructured prompt := (provider.generateStructured prompt).2

/-! ## How the two attempts end

The loop is over two attempts, so its runs are four. -/

section Replies

variable {provider} {prompt : String}

theorem generateStructured_first {value : GeneratedTaxonomy}
    (h : provider.reply prompt 1 = .valid value) :
    provider.toProvider.generateStructured prompt
      = .outcome ⟨value, provider.elapsedMs 1, 1, false⟩ := by
  simp [toProvider, generateStructured, attempts, h]

theorem generateStructured_second {exc : ValidationError} {value : GeneratedTaxonomy}
    (hfirst : provider.reply prompt 1 = .invalid exc)
    (h : provider.reply prompt 2 = .valid value) :
    provider.toProvider.generateStructured prompt
      = .outcome ⟨value, provider.elapsedMs 2, 2, true⟩ := by
  simp [toProvider, generateStructured, attempts, hfirst, h]

/-- Two replies that were refused. -/
theorem generateStructured_rejected {exc exc' : ValidationError}
    (hfirst : provider.reply prompt 1 = .invalid exc)
    (h : provider.reply prompt 2 = .invalid exc') :
    provider.toProvider.generateStructured prompt
      = .rejected ⟨rejection 1 exc ++ "; " ++ rejection 2 exc', 2, provider.elapsedMs 2⟩ := by
  simp only [toProvider, generateStructured, attempts, hfirst, h]
  rfl

/-- A failure before the first valid reply and before two that were refused. -/
theorem generateStructured_fails {exc : Exn}
    (h : provider.reply prompt 1 = .failure exc ∨
      (∃ refused, provider.reply prompt 1 = .invalid refused) ∧
        provider.reply prompt 2 = .failure exc) :
    provider.toProvider.generateStructured prompt = .fails exc := by
  rcases h with h | ⟨⟨refused, hfirst⟩, h⟩
  · simp [toProvider, generateStructured, attempts, h]
  · simp [toProvider, generateStructured, attempts, hfirst, h]

end Replies

end OllamaProvider

end ReviewSignal
