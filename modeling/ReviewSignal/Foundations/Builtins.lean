import ReviewSignal.Foundations.Faulty
import Mathlib.Algebra.Order.Field.Rat
import Mathlib.Logic.Function.Basic

/-!
# Built-in operations that raise

The built-in operations of Python that are partial: a division, a strict `zip`, a subscript of a
dictionary or of a list, the sum of a date and a duration.  Each comes with the condition under which
it does not raise.  A dictionary is the list of its entries.

An index may be negative and then counts from the end, and a key may be missing; a program that relies on
neither happening is one whose loops keep an invariant, and the lemmas on tables (`item_table`,
`setItem_table`, `listItem_eq`, `modifyItem_eq`) are what such an invariant is used through.

Numbers are exact: a float is a rational here.
-/

namespace ReviewSignal

namespace Python

variable {α β κ ν : Type}

/-- `a / b` -/
def div (a b : ℚ) : Except Exn ℚ :=
  if b = 0 then .error ⟨"ZeroDivisionError", "division by zero"⟩ else .ok (a / b)

/-- `a / b if b else 0.0` -/
def ratio (a b : ℚ) : Except Exn ℚ := if b ≠ 0 then div a b else .ok 0

/-- `zip(xs, ys, strict=True)` -/
def zipStrict (xs : List α) (ys : List β) : Except Exn (List (α × β)) :=
  if xs.length = ys.length then .ok (xs.zip ys)
  else .error ⟨"ValueError", if ys.length < xs.length then "zip() argument 2 is shorter than argument 1"
    else "zip() argument 2 is longer than argument 1"⟩

/-- `fields[key]` of a dictionary. -/
def item [DecidableEq κ] (fields : List (κ × ν)) (key : κ) : Except Exn ν :=
  match fields.find? (·.1 = key) with
  | some field => .ok field.2
  | none => .error ⟨"KeyError", ""⟩

/-- `fields.get(key)` -/
def get [DecidableEq κ] (fields : List (κ × ν)) (key : κ) : Option ν :=
  (fields.find? (·.1 = key)).map (·.2)

/-- `fields[key] = value` -/
def setItem [DecidableEq κ] (fields : List (κ × ν)) (key : κ) (value : ν) : List (κ × ν) :=
  if key ∈ fields.map (·.1) then
    fields.map fun field => if field.1 = key then (key, value) else field
  else fields ++ [(key, value)]

/-- The position `items[index]` refers to: negative ones count from the end. -/
def position (length : ℕ) (index : ℤ) : Except Exn ℕ :=
  if 0 ≤ index ∧ index < length then .ok index.toNat
  else if -length ≤ index ∧ index < 0 then .ok (index + length).toNat
  else .error ⟨"IndexError", "list index out of range"⟩

/-- `items[index]` -/
def listItem (items : List α) (index : ℤ) : Except Exn α := do
  let i ← position items.length index
  match items[i]? with
  | some value => .ok value
  | none => .error ⟨"IndexError", "list index out of range"⟩

/-- `items[index] = f(items[index])` -/
def modifyItem (items : List α) (index : ℤ) (f : α → α) : Except Exn (List α) := do
  let i ← position items.length index
  pure (items.modify i f)

/-- `repr` of a string and of a number.  Which characters are printable is for Unicode to say. -/
structure Repr where
  str : String → String
  float : ℚ → String

/-! ### Numbers from texts

`int()` takes more texts than are printed: white space around, a sign, underscores between. -/

/-- What Unicode says of a character: whether it is white space, and its value as a decimal digit. -/
structure Unicode where
  isSpace : Char → Bool
  decimal : Char → Option ℕ

/-- `text.strip()` -/
def strip (unicode : Unicode) (text : List Char) : List Char :=
  ((text.dropWhile unicode.isSpace).reverse.dropWhile unicode.isSpace).reverse

/-- The values of some digits, which single underscores may separate. -/
def digits (unicode : Unicode) : List Char → Option (List ℕ)
  | [] => none
  | [c] => (unicode.decimal c).map ([·])
  | c :: '_' :: rest => do
      let value ← unicode.decimal c
      let values ← digits unicode rest
      some (value :: values)
  | c :: rest => do
      let value ← unicode.decimal c
      let values ← digits unicode rest
      some (value :: values)

/-- The number some digits spell, if they are not too many. -/
def natural (unicode : Unicode) (text : List Char) : Option ℕ := do
  let values ← digits unicode text
  if values.length ≤ 4300 then some (values.foldl (10 * · + ·) 0) else none

/-- `int(text)`, or nothing where it raises a `ValueError`. -/
def parseInt (unicode : Unicode) (text : String) : Option ℤ :=
  match strip unicode text.toList with
  | '+' :: rest => (natural unicode rest).map Int.ofNat
  | '-' :: rest => (natural unicode rest).map fun n => -Int.ofNat n
  | rest => (natural unicode rest).map Int.ofNat

/-- `text.split()` -/
def split (unicode : Unicode) (text : String) : List String :=
  ((text.toList.splitOnP unicode.isSpace).filter (· ≠ [])).map String.ofList

/-- `int(x)` of a number: the fraction is cut off. -/
def truncate (x : ℚ) : ℤ := x.num.tdiv x.den

/-- `round(x)`: a half goes to the even side. -/
def round (x : ℚ) : ℤ :=
  let below := x.num / x.den
  let rest := x - below
  if rest < 1 / 2 ∨ rest = 1 / 2 ∧ below % 2 = 0 then below else below + 1

/-! ### Dates and durations

In microseconds, dates from the epoch on.
-/

/-- A `timedelta` can hold the duration. -/
def durationFits (duration : ℤ) : Bool :=
  -999999999 ≤ duration / 86400000000 ∧ duration / 86400000000 ≤ 999999999

/-- A `datetime` can hold the date: it is of the years 1 to 9999. -/
def isDate (date : ℤ) : Bool := -62135596800000000 ≤ date ∧ date ≤ 253402300799999999

/-- `date + timedelta(microseconds=duration)` -/
def addDuration (date duration : ℤ) : Except Exn ℤ :=
  if ¬ durationFits duration then
    .error ⟨"OverflowError", "days must have magnitude <= 999999999"⟩
  else if ¬ isDate (date + duration) then .error ⟨"OverflowError", "date value out of range"⟩
  else .ok (date + duration)

/-- The sum of the date and the duration is a date. -/
def Fits (date duration : ℤ) : Prop := durationFits duration ∧ isDate (date + duration)

instance (date duration : ℤ) : Decidable (Fits date duration) := inferInstanceAs (Decidable (_ ∧ _))

/-! ### Where they do not raise

Tables over a list of keys, and the positions of a list. -/

theorem round_intCast (n : ℤ) : round n = n := by
  simp [round]

theorem addDuration_of_fits {date duration : ℤ} (h : Fits date duration) :
    addDuration date duration = .ok (date + duration) := by
  simp [addDuration, h.1, h.2]

/-- A sum that is no date raises. -/
theorem addDuration_of_not_fits {date duration : ℤ} (h : ¬ Fits date duration) :
    ∃ message, addDuration date duration = .error ⟨"OverflowError", message⟩ := by
  by_cases hduration : durationFits duration = true
  · have hdate : ¬ isDate (date + duration) = true := fun hdate => h ⟨hduration, hdate⟩
    exact ⟨"date value out of range", by simp [addDuration, hduration, hdate]⟩
  · exact ⟨"days must have magnitude <= 999999999", by simp [addDuration, hduration]⟩

/-- A ratio never divides by zero. -/
theorem ratio_eq (a b : ℚ) : ratio a b = .ok (a / b) := by
  rw [ratio]
  split_ifs with h
  · rw [div, if_neg h]
  · simp [not_ne_iff.mp h]

theorem div_eq {a b : ℚ} (h : b ≠ 0) : div a b = .ok (a / b) := if_neg h

theorem zipStrict_eq {xs : List α} {ys : List β} (h : xs.length = ys.length) :
    zipStrict xs ys = .ok (xs.zip ys) := if_pos h

theorem position_eq {length index : ℕ} (h : index < length) : position length index = .ok index := by
  simp [position, h]

/-- Where keys are distinct, a key is that of one element. -/
theorem filter_key [DecidableEq κ] {key : α → κ} {l : List α} (hnodup : (l.map key).Nodup) {a : α}
    (ha : a ∈ l) : l.filter (key · = key a) = [a] := by
  induction l with
  | nil => cases ha
  | cons b l ih =>
      rw [List.map_cons, List.nodup_cons] at hnodup
      rcases List.mem_cons.mp ha with rfl | htail
      · have hrest : l.filter (key · = key a) = [] := by
          rw [List.filter_eq_nil_iff]
          intro c hc hkey
          exact hnodup.1 (List.mem_map.mpr ⟨c, hc, by simpa using hkey⟩)
        simp [hrest]
      · have hhead : key b ≠ key a := fun heq =>
          hnodup.1 (heq ▸ List.mem_map.mpr ⟨a, htail, rfl⟩)
        simp [hhead, ih hnodup.2 htail]

/-- A dictionary with an entry for each element of a list. -/
theorem find_entry [DecidableEq κ] {key : α → κ} {value : α → ν} {l : List α}
    (hnodup : (l.map key).Nodup) {a : α} (ha : a ∈ l) :
    (l.map fun a => (key a, value a)).find? (·.1 = key a) = some (key a, value a) := by
  rw [List.find?_map, ← List.head?_filter]
  have hfilter := filter_key hnodup ha
  simp only [Function.comp_def, hfilter]
  rfl

theorem item_entry [DecidableEq κ] {key : α → κ} {value : α → ν} {l : List α}
    (hnodup : (l.map key).Nodup) {a : α} (ha : a ∈ l) :
    item (l.map fun a => (key a, value a)) (key a) = .ok (value a) := by
  rw [item, find_entry hnodup ha]

theorem find_table [DecidableEq κ] {keys : List κ} {f : κ → ν} {key : κ} (h : key ∈ keys) :
    (keys.map fun key => (key, f key)).find? (·.1 = key) = some (key, f key) := by
  induction keys with
  | nil => cases h
  | cons head keys ih =>
      by_cases hhead : head = key
      · simp [hhead]
      · simp [hhead, ih ((List.mem_cons.mp h).resolve_left (Ne.symm hhead))]

/-- A table over some keys has each of them. -/
theorem item_table [DecidableEq κ] {keys : List κ} {f : κ → ν} {key : κ} (h : key ∈ keys) :
    item (keys.map fun key => (key, f key)) key = .ok (f key) := by
  rw [item, find_table h]

theorem get_table [DecidableEq κ] {keys : List κ} {f : κ → ν} {key : κ} (h : key ∈ keys) :
    get (keys.map fun key => (key, f key)) key = some (f key) := by
  rw [get, find_table h]
  rfl

theorem mem_keys_setItem [DecidableEq κ] {fields : List (κ × ν)} {key k : κ} {value : ν} :
    k ∈ (setItem fields key value).map (·.1) ↔ k ∈ fields.map (·.1) ∨ k = key := by
  rw [setItem]
  split_ifs with h
  · have hkeys : (fields.map fun field => if field.1 = key then (key, value) else field).map (·.1)
        = fields.map (·.1) := by
      rw [List.map_map]
      refine List.map_congr_left fun field _ => ?_
      by_cases hfield : field.1 = key <;> simp [hfield]
    rw [hkeys]
    exact ⟨.inl, fun hk => hk.elim id fun hk => hk ▸ h⟩
  · simp

theorem setItem_table [DecidableEq κ] {keys : List κ} (f : κ → ν) {key : κ} (value : ν)
    (h : key ∈ keys) :
    setItem (keys.map fun key => (key, f key)) key value
      = keys.map fun k => (k, Function.update f key value k) := by
  rw [setItem, if_pos (by simpa using h), List.map_map]
  refine List.map_congr_left fun k _ => ?_
  by_cases hk : k = key
  · simp [hk]
  · simp [hk]

theorem listItem_eq {items : List α} {index : ℕ} (h : index < items.length) :
    listItem items index = .ok items[index] := by
  simp [listItem, position_eq h, bind, Except.bind, h]

theorem modifyItem_eq {items : List α} {index : ℕ} (f : α → α) (h : index < items.length) :
    modifyItem items index f = .ok (items.modify index f) := by
  rw [modifyItem, position_eq h]
  rfl

end Python

/-! ## Loops that do not raise

A loop in `Except` whose body returns on everything it meets is the pure loop. -/

/-- A loop whose body never raises. -/
theorem foldlM_ok {α β : Type} {f : β → α → Except Exn β} {g : β → α → β} {l : List α}
    (h : ∀ b, ∀ a ∈ l, f b a = .ok (g b a)) (b : β) : l.foldlM f b = .ok (l.foldl g b) := by
  induction l generalizing b with
  | nil => rfl
  | cons a l ih =>
      rw [List.foldlM_cons, h b a List.mem_cons_self]
      exact ih (fun b a ha => h b a (List.mem_cons_of_mem _ ha)) (g b a)

/-- A finite check over a list. -/
theorem forall_mem_of_all {α : Type} {p : α → Prop} [DecidablePred p] {l : List α}
    (h : l.all (p ·) = true) : ∀ a ∈ l, p a := by
  simpa using h

theorem mapM_ok {α β : Type} {f : α → Except Exn β} {g : α → β} {l : List α}
    (h : ∀ a ∈ l, f a = .ok (g a)) : l.mapM f = .ok (l.map g) := by
  induction l with
  | nil => rfl
  | cons a l ih =>
      rw [List.mapM_cons, h a List.mem_cons_self, ih fun a ha => h a (List.mem_cons_of_mem _ ha)]
      rfl

/-- A loop that only checks. -/
theorem forM_eq_ok {α : Type} {f : α → Except Exn Unit} {l : List α} :
    forM l f = .ok () ↔ ∀ a ∈ l, f a = .ok () := by
  induction l with
  | nil => simp [pure, Except.pure]
  | cons a l ih =>
      rw [List.forM_cons, List.forall_mem_cons, ← ih]
      rcases f a with exc | ⟨⟩ <;> simp [bind, Except.bind]

end ReviewSignal
