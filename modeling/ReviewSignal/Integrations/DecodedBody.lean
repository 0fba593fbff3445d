import ReviewSignal.Foundations.Builtins
import ReviewSignal.Foundations.Meets
import ReviewSignal.Integrations.GoogleClient

/-!
# The values of a decoded body

What the code does with a value of a JSON body whose type it has not checked: it calls `get` on it or a
method of strings, makes a number or a duration of it.  Each raises on a value of another type, and never
an exception of the application (`Exn.Known`).

Each operation has its exact lemma: it raises what the caller allows, and returns what the caller asks for,
if and only if the value has the type the operation is for and what it returns is as asked.  What the caller
allows is a class of kinds of exceptions (`Exn.Ours`), so that the lemmas serve the routes, whose documented
errors are few, and the mapping, which may raise one.

`int` and `timedelta` follow Python: a number of seconds may be a float, a text of digits is a number for the
first and none for the second.
-/

namespace ReviewSignal

/-- One of the exceptions the integration layer and the API raise for Google. -/
def Exn.Known (exc : Exn) : Prop :=
  exc.typeName ∈ ["SourceFetchError", "SourceNotConnectedError", "GoogleApiError",
    "GoogleNotConnectedError"]

instance (exc : Exn) : Decidable exc.Known := inferInstanceAs (Decidable (_ ∈ _))

/-- The kind holds exceptions of the application only. -/
class Exn.Ours (raises : Exn → Prop) : Prop where
  known : ∀ exc, raises exc → exc.Known

instance : Exn.Ours Exn.Known := ⟨fun _ => id⟩

instance : Exn.Ours fun _ => False := ⟨fun _ => False.elim⟩

theorem Exn.Ours.foreign (raises : Exn → Prop) [Exn.Ours raises] {typeName message : String}
    (h : typeName ∉ ["SourceFetchError", "SourceNotConnectedError", "GoogleApiError",
      "GoogleNotConnectedError"]) : ¬ raises ⟨typeName, message⟩ :=
  fun hraises => h (Exn.Ours.known _ hraises)

/-- What decoding the body raises, if it does, is no exception of the application. -/
def HttpAnswer.Foreign : HttpAnswer → Prop
  | .unreachable _ => True
  | .response _ _ body => ∀ exc, body = .error exc → ¬ exc.Known

/-- The body of a 200 answer, as `response.json()` takes it. -/
def HttpAnswer.delivered : HttpAnswer → Option (Except Exn Json)
  | .unreachable _ => none
  | .response statusCode _ body => if statusCode = 200 then some body else none

namespace Json

def isObj : Json → Bool
  | .obj _ => true
  | _ => false

def isStr : Json → Bool
  | .str _ => true
  | _ => false

def isArr : Json → Bool
  | .arr _ => true
  | _ => false

/-- The items of an array. -/
def items : Json → List Json
  | .arr items => items
  | _ => []

/-- The text of a string. -/
def text : Json → String
  | .str value => value
  | _ => ""

/-- `body.get(key, absent)` of a dictionary. -/
def getD (body : Json) (key : String) (absent : Json) : Json := (body.get? key).getD absent

/-- `body.get(key, absent)` -/
def field (body : Json) (key : String) (absent : Json) : Except Exn Json :=
  if body.isObj then .ok (body.getD key absent)
  else .error ⟨"AttributeError", "object has no attribute 'get'"⟩

/-- The value itself, where a method of strings is called on it. -/
def method (name : String) (value : Json) : Except Exn String :=
  if value.isStr then .ok value.text
  else .error ⟨"AttributeError", "object has no attribute '" ++ name ++ "'"⟩

/-- `timedelta(seconds=value)`, in microseconds; whether it is too long is for its first use to say. -/
def duration : Json → Option ℤ
  | .num value => some (Python.round (value * 1000000))
  | .bool value => some (if value then 1000000 else 0)
  | _ => none

/-- `timedelta(seconds=value)` -/
def toDuration (value : Json) : Except Exn ℤ :=
  match value.duration with
  | some duration => .ok duration
  | none => .error ⟨"TypeError", "unsupported type for timedelta seconds component"⟩

/-- The whole number `int(value)` is, if it is one. -/
def int (unicode : Python.Unicode) : Json → Option ℤ
  | .num value => some (Python.truncate value)
  | .bool value => some (if value then 1 else 0)
  | .str text => Python.parseInt unicode text
  | _ => none

/-- `int(value)` -/
def toInt (unicode : Python.Unicode) (value : Json) : Except Exn ℤ :=
  match value.int unicode with
  | some n => .ok n
  | none =>
      if value.isStr then .error ⟨"ValueError", "invalid literal for int() with base 10"⟩
      else .error ⟨"TypeError", "int() argument must be a string or a real number"⟩

end Json

theorem known_sourceFetchError (message : String) : (sourceFetchError message).Known := by
  simp [Exn.Known, sourceFetchError]

theorem known_sourceNotConnectedError (message : String) :
    (sourceNotConnectedError message).Known := by
  simp [Exn.Known, sourceNotConnectedError]

/-- Something of one answer, said of every answer it is. -/
theorem HttpAnswer.forall_response {statusCode : ℕ} {text : String} {body : Except Exn Json}
    {p : ℕ → String → Except Exn Json → Prop} :
    (∀ statusCode' text' body', HttpAnswer.response statusCode text body
      = .response statusCode' text' body' → p statusCode' text' body') ↔ p statusCode text body := by
  constructor
  · intro h
    exact h _ _ _ rfl
  · rintro h _ _ _ ⟨rfl, rfl, rfl⟩
    exact h

section Rules

variable {raises : Exn → Prop} [Exn.Ours raises]

theorem meets_field {body : Json} {key : String} {absent : Json} {returns : Json → Prop} :
    Meets returns raises (body.field key absent)
      ↔ body.isObj = true ∧ returns (body.getD key absent) := by
  rw [Json.field]
  split_ifs with h
  · simp [h]
  · simp [h, Exn.Ours.foreign raises]

theorem meets_method {name : String} {value : Json} {returns : String → Prop} :
    Meets returns raises (value.method name)
      ↔ value.isStr = true ∧ returns value.text := by
  rw [Json.method]
  split_ifs with h
  · simp [h]
  · simp [h, Exn.Ours.foreign raises]

theorem meets_addDuration {date duration : ℤ} {returns : ℤ → Prop} :
    Meets returns raises (Python.addDuration date duration)
      ↔ Python.Fits date duration ∧ returns (date + duration) := by
  rw [Python.addDuration, Python.Fits]
  split_ifs with hduration hdate
  · simp [hduration, hdate]
  · simp [hdate, Exn.Ours.foreign raises]
  · simp [hduration, Exn.Ours.foreign raises]

theorem meets_toDuration {value : Json} {returns : ℤ → Prop} :
    Meets returns raises value.toDuration
      ↔ ∃ duration, value.duration = some duration ∧ returns duration := by
  rw [Json.toDuration]
  cases value.duration <;> simp [Exn.Ours.foreign raises]

theorem meets_toInt {unicode : Python.Unicode} {value : Json} {returns : ℤ → Prop} :
    Meets returns raises (value.toInt unicode)
      ↔ ∃ n, value.int unicode = some n ∧ returns n := by
  rw [Json.toInt]
  cases value.int unicode <;> simp [meets_ite, Exn.Ours.foreign raises]

end Rules

/-- A 200 answer passes, and any other is translated. -/
theorem meets_raiseForStatus {str : Json → String} {statusCode : ℕ} {text what : String}
    {body : Except Exn Json} {returns : Unit → Prop} :
    Meets returns Exn.Known (Google.raiseForStatus str statusCode text body what)
      ↔ (statusCode = 200 → returns ()) := by
  rw [Google.raiseForStatus]
  split_ifs with hrejected hother
  · simp only [meets_error, known_sourceNotConnectedError, true_iff]
    omega
  · simp [known_sourceFetchError, hother]
  · simp [not_not.mp hother]

end ReviewSignal
