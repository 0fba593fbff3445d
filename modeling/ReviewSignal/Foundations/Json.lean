import Mathlib.Data.Rat.Defs

/-!
# JSON values

The values a `JSONB` column can hold and a decoded HTTP body can be.  An object is the list of
its fields, so two objects that differ only in the order of their fields are different here.

Numbers are rationals and texts are sequences of Unicode scalar values.  A decoder that lets more through,
infinite numbers or lone surrogates, has values this type does not; where they matter, a predicate on the
numbers and the texts stands for them.
-/

namespace ReviewSignal

/-- A decoded JSON document. -/
inductive Json where
  | null
  | bool (value : Bool)
  | num (value : ℚ)
  | str (value : String)
  | arr (items : List Json)
  | obj (fields : List (String × Json))
  deriving Inhabited

namespace Json

/-! ## Decidable equality

`Json` nests through `List`, which the deriving handler does not reach, so the three mutually
recursive comparisons are written out.
-/

mutual

def decEq : (a b : Json) → Decidable (a = b)
  | .null, .null => isTrue rfl
  | .bool a, .bool b => decidable_of_iff (a = b) (by simp)
  | .num a, .num b => decidable_of_iff (a = b) (by simp)
  | .str a, .str b => decidable_of_iff (a = b) (by simp)
  | .arr a, .arr b =>
      have := decEqItems a b
      decidable_of_iff (a = b) (by simp)
  | .obj a, .obj b =>
      have := decEqFields a b
      decidable_of_iff (a = b) (by simp)
  | .null, .bool _ | .null, .num _ | .null, .str _ | .null, .arr _ | .null, .obj _
  | .bool _, .null | .bool _, .num _ | .bool _, .str _ | .bool _, .arr _ | .bool _, .obj _
  | .num _, .null | .num _, .bool _ | .num _, .str _ | .num _, .arr _ | .num _, .obj _
  | .str _, .null | .str _, .bool _ | .str _, .num _ | .str _, .arr _ | .str _, .obj _
  | .arr _, .null | .arr _, .bool _ | .arr _, .num _ | .arr _, .str _ | .arr _, .obj _
  | .obj _, .null | .obj _, .bool _ | .obj _, .num _ | .obj _, .str _ | .obj _, .arr _ =>
      isFalse (by simp)

def decEqItems : (a b : List Json) → Decidable (a = b)
  | [], [] => isTrue rfl
  | a :: as, b :: bs =>
      have := decEq a b
      have := decEqItems as bs
      decidable_of_iff (a = b ∧ as = bs) (by simp)
  | [], _ :: _ => isFalse (by simp)
  | _ :: _, [] => isFalse (by simp)

def decEqFields : (a b : List (String × Json)) → Decidable (a = b)
  | [], [] => isTrue rfl
  | (k, a) :: as, (l, b) :: bs =>
      have := decEq a b
      have := decEqFields as bs
      decidable_of_iff (k = l ∧ a = b ∧ as = bs) (by simp [and_assoc])
  | [], _ :: _ => isFalse (by simp)
  | _ :: _, [] => isFalse (by simp)

end

instance : DecidableEq Json := decEq

/-- A nullable string as JSON: Python's `None` is `null`. -/
def ofOption : Option String → Json
  | none => .null
  | some value => .str value

/-- `dict.get(key)` on an object; anything that is not an object has no fields. -/
def get? (key : String) : Json → Option Json
  | .obj fields => fields.lookup key
  | _ => none

end Json

end ReviewSignal
