import Mathlib.Data.List.Forall2
import ReviewSignal.Foundations.Json

/-!
# Records in JSON

Decoders for documents that are checked rather than coerced: an object may be refused for a member too many
or too few, and a member for its type.  Of several members with one name the last one counts.

Each decoder comes with the documents it accepts as a value (`_eq_some_iff`).  They are equivalences, so that
the documents a whole record is decoded from can be computed from those of its members, and a decoder is
described without a word about decoding.
-/

namespace ReviewSignal.JsonRecord

/-- What a document is read as; nothing where it is refused. -/
abbrev Decoder (α : Type) := Json → Option α

variable {α : Type}

/-- The members of an object. -/
def members : Json → List (String × Json)
  | .obj fields => fields
  | _ => []

/-- The member of a name. -/
def member (fields : List (String × Json)) (name : String) : Option Json := fields.reverse.lookup name

/-- The members of an object that has no others than these. -/
def strict (names : List String) : Decoder (List (String × Json))
  | .obj fields => if ∀ field ∈ fields, field.1 ∈ names then some fields else none
  | _ => none

/-- A member that must be there. -/
def required (decode : Decoder α) (name : String) (fields : List (String × Json)) : Option α :=
  (member fields name).bind decode

/-- A member with a default. -/
def optional (default : α) (decode : Decoder α) (name : String) (fields : List (String × Json)) : Option α :=
  match member fields name with
  | some json => decode json
  | none => some default

def string : Decoder String
  | .str value => some value
  | _ => none

/-- A string or null. -/
def nullableString : Decoder (Option String)
  | .null => some none
  | .str value => some (some value)
  | _ => none

/-- An array of any length. -/
def tuple (decode : Decoder α) : Decoder (List α)
  | .arr items => items.mapM decode
  | _ => none

variable {decode : Decoder α} {json : Json} {fields : List (String × Json)} {names : List String}
variable {name : String}

theorem strict_eq_some_iff : strict names json = some fields
    ↔ json = .obj fields ∧ ∀ field ∈ fields, field.1 ∈ names := by
  cases json with
  | obj members =>
      rw [strict]
      constructor
      · intro h
        split_ifs at h with hnames
        cases h
        exact ⟨rfl, hnames⟩
      · rintro ⟨h, hnames⟩
        cases h
        exact if_pos hnames
  | _ => simp [strict]

theorem required_eq_some_iff {value : α} : required decode name fields = some value
    ↔ ∃ json, member fields name = some json ∧ decode json = some value :=
  Option.bind_eq_some_iff

theorem string_eq_some_iff {value : String} : string json = some value ↔ json = .str value := by
  cases json <;> simp [string]

theorem required_string_eq_some_iff {value : String} : required string name fields = some value
    ↔ member fields name = some (.str value) := by
  rw [required_eq_some_iff]
  simp [string_eq_some_iff]

theorem nullableString_eq_some_iff {value : Option String} : nullableString json = some value
    ↔ json = Json.ofOption value := by
  cases json <;> cases value <;> simp [nullableString, Json.ofOption]

theorem optional_nullableString_eq_some_iff {value : Option String} :
    optional none nullableString name fields = some value
      ↔ (member fields name).getD .null = Json.ofOption value := by
  rw [optional]
  cases member fields name with
  | none => cases value <;> simp [Json.ofOption]
  | some json => exact nullableString_eq_some_iff

theorem mapM_eq_some_iff {items : List Json} {values : List α} : items.mapM decode = some values
    ↔ List.Forall₂ (fun item value => decode item = some value) items values := by
  induction items generalizing values with
  | nil => cases values <;> simp
  | cons item items ih =>
      rw [List.mapM_cons]
      cases values with
      | nil => simp [Option.bind_eq_some_iff]
      | cons value values =>
          simp only [Option.bind_eq_bind, Option.bind_eq_some_iff, Option.pure_def, Option.some.injEq,
            List.cons.injEq, List.forall₂_cons, ← ih]
          constructor
          · rintro ⟨_, hvalue, _, hvalues, rfl, rfl⟩
            exact ⟨hvalue, hvalues⟩
          · rintro ⟨hvalue, hvalues⟩
            exact ⟨value, hvalue, values, hvalues, rfl, rfl⟩

theorem tuple_eq_some_iff {values : List α} : tuple decode json = some values
    ↔ ∃ items, json = .arr items ∧
      List.Forall₂ (fun item value => decode item = some value) items values := by
  cases json with
  | arr items => simp [tuple, mapM_eq_some_iff]
  | _ => simp [tuple]

end ReviewSignal.JsonRecord
