import ReviewSignal.Foundations.Builtins
import Mathlib.Algebra.Order.Ring.Int
import Mathlib.Data.List.DropRight

/-!
# Texts that are put together and taken apart

`partition` undoes a concatenation around a separator that the first part does not contain
(`partition_append`), and `int` reads back what `str` wrote of a number (`parseInt_str`).  The second needs
two facts of Unicode, stated as `Unicode.KnowsAscii`: the ASCII digits are digits, and neither they nor the
minus sign is white space.

Neither is a bijection.  A text taken apart at its first separator can be put together again
(`eq_append_of_partition`), but `int` reads many texts as one number, so a program that compares numbers it
has read accepts more texts than it has written.
-/

namespace ReviewSignal

namespace Python

/-- `text.isascii()` -/
def IsAscii (text : String) : Prop := ∀ c ∈ text.toList, c.toNat < 128

instance (text : String) : Decidable (IsAscii text) :=
  decidable_of_iff (text.toList.all (·.toNat < 128) = true) (by simp [IsAscii])

/-- `text.partition(separator)`, for a separator of one character. -/
def partition (separator : Char) (text : String) : String × String × String :=
  match text.toList.dropWhile (· ≠ separator) with
  | [] => (text, "", "")
  | _ :: after => (String.ofList (text.toList.takeWhile (· ≠ separator)), String.ofList [separator],
      String.ofList after)

/-- `str(number)` -/
def str (number : ℤ) : String := toString number

/-- What Unicode says of the characters of a numeral. -/
structure Unicode.KnowsAscii (unicode : Unicode) : Prop where
  decimal : ∀ c, c.isDigit = true → unicode.decimal c = some (c.toNat - '0'.toNat)
  isSpace : ∀ c, c.isDigit = true ∨ c = '-' → unicode.isSpace c = false

variable {unicode : Unicode} {separator : Char} {text before after : String} {l : List Char} {n : ℕ}

/-! ## Partitions

In both directions. -/

theorem partition_append (h : separator ∉ before.toList) :
    partition separator (before ++ String.ofList [separator] ++ after)
      = (before, String.ofList [separator], after) := by
  have hbefore : ∀ c ∈ before.toList, decide (c ≠ separator) = true := by
    intro c hc
    rw [decide_eq_true_eq]
    rintro rfl
    exact h hc
  have htext : (before ++ String.ofList [separator] ++ after).toList
      = before.toList ++ separator :: after.toList := by
    simp
  have hdrop : (before.toList ++ separator :: after.toList).dropWhile (· ≠ separator)
      = separator :: after.toList := by
    rw [List.dropWhile_append_of_pos hbefore, List.dropWhile_cons_of_neg (by simp)]
  have htake : (before.toList ++ separator :: after.toList).takeWhile (· ≠ separator)
      = before.toList := by
    rw [List.takeWhile_append_of_pos hbefore, List.takeWhile_cons_of_neg (by simp), List.append_nil]
  rw [partition, htext, hdrop, htake]
  simp only [String.ofList_toList]

/-- A partition that found something after the separator takes the text apart. -/
theorem eq_append_of_partition (h : (partition separator text).2.2 ≠ "") :
    text = (partition separator text).1 ++ String.ofList [separator]
      ++ (partition separator text).2.2 := by
  have hsplit : text.toList.takeWhile (· ≠ separator) ++ text.toList.dropWhile (· ≠ separator)
      = text.toList := List.takeWhile_append_dropWhile
  have hnot := List.head?_dropWhile_not (fun c => decide (c ≠ separator)) text.toList
  rw [partition] at h ⊢
  cases hdrop : text.toList.dropWhile (· ≠ separator) with
  | nil =>
      rw [hdrop] at h
      exact absurd rfl h
  | cons c rest =>
      rw [hdrop] at hsplit hnot
      obtain rfl : c = separator := by simpa using hnot
      rw [← String.toList_inj]
      simp only [String.toList_append, String.toList_ofList, List.append_assoc, List.singleton_append]
      exact hsplit.symm

/-! ## White space

When something is left of a text that is stripped. -/

/-- Nothing is left of a text of white space, and of no other. -/
theorem strip_eq_nil : strip unicode l = [] ↔ ∀ c ∈ l, unicode.isSpace c = true := by
  have hall : (∀ c ∈ l.dropWhile unicode.isSpace, unicode.isSpace c = true)
      ↔ ∀ c ∈ l, unicode.isSpace c = true := by
    rw [← List.dropWhile_eq_nil_iff, List.dropWhile_idempotent, List.dropWhile_eq_nil_iff]
  rw [strip, List.reverse_eq_nil_iff, List.dropWhile_eq_nil_iff]
  simp only [List.mem_reverse, hall]

theorem strip_of_no_space (h : ∀ c ∈ l, unicode.isSpace c = false) : strip unicode l = l := by
  have hdrop : ∀ l : List Char, (∀ c ∈ l, unicode.isSpace c = false) →
      l.dropWhile unicode.isSpace = l := by
    intro l hl
    cases l with
    | nil => rfl
    | cons c l => rw [List.dropWhile_cons_of_neg (by simp [hl c List.mem_cons_self])]
  rw [strip, hdrop l h, hdrop l.reverse fun c hc => h c (List.mem_reverse.mp hc), List.reverse_reverse]

/-! ## Numerals

Digit by digit, without a separator. -/

/-- Digits without a separator are read one by one. -/
theorem digits_of_isDigit (hunicode : unicode.KnowsAscii) (hne : l ≠ [])
    (h : ∀ c ∈ l, c.isDigit = true) :
    digits unicode l = some (l.map fun c => c.toNat - '0'.toNat) := by
  induction l with
  | nil => exact absurd rfl hne
  | cons c l ih =>
      have hhead := hunicode.decimal c (h c List.mem_cons_self)
      cases l with
      | nil => simp [digits, hhead]
      | cons d l =>
          have hunderscore : d ≠ '_' := by
            rintro rfl
            exact absurd (h '_' (by simp)) (by decide)
          have htail := ih (by simp) fun c hc => h c (List.mem_cons_of_mem _ hc)
          rw [digits.eq_4 _ _ _ (by simp) (by simp [hunderscore]), hhead, htail]
          rfl

theorem natural_toDigits (hunicode : unicode.KnowsAscii) (h : (Nat.toDigits 10 n).length ≤ 4300) :
    natural unicode (Nat.toDigits 10 n) = some n := by
  have hdigits : ∀ c ∈ Nat.toDigits 10 n, c.isDigit = true := fun c hc =>
    Nat.isDigit_of_mem_toDigits (by decide) (by decide) hc
  have hvalue : ((Nat.toDigits 10 n).map fun c => c.toNat - '0'.toNat).foldl (10 * · + ·) 0 = n := by
    rw [List.foldl_map]
    exact Nat.ofDigitChars_ten_toDigits
  rw [natural, digits_of_isDigit hunicode Nat.toDigits_ne_nil hdigits]
  simp only [Option.bind_eq_bind, Option.bind_some, List.length_map, h, if_true, hvalue]

theorem toList_str_of_nonneg {number : ℤ} (h : 0 ≤ number) :
    (str number).toList = Nat.toDigits 10 number.toNat := by
  rw [str, Int.toString_eq_repr, Int.repr_eq_if, if_pos h, Nat.toList_repr]

theorem toList_str_of_neg {number : ℤ} (h : number < 0) :
    (str number).toList = '-' :: Nat.toDigits 10 (-number).toNat := by
  rw [str, Int.toString_eq_repr, Int.repr_eq_if, if_neg (not_le.mpr h), String.toList_append,
    Nat.toList_repr]
  rfl

/-- A numeral is made of digits and the minus sign. -/
theorem mem_str {number : ℤ} {c : Char} (h : c ∈ (str number).toList) :
    c.isDigit = true ∨ c = '-' := by
  rcases le_or_gt 0 number with hsign | hsign
  · rw [toList_str_of_nonneg hsign] at h
    exact .inl (Nat.isDigit_of_mem_toDigits (by decide) (by decide) h)
  · rw [toList_str_of_neg hsign, List.mem_cons] at h
    rcases h with rfl | h
    · exact .inr rfl
    · exact .inl (Nat.isDigit_of_mem_toDigits (by decide) (by decide) h)

theorem str_ne_empty (number : ℤ) : str number ≠ "" := by
  intro h
  have hnil : (str number).toList = [] := by rw [h]; rfl
  rcases le_or_gt 0 number with hsign | hsign
  · rw [toList_str_of_nonneg hsign] at hnil
    exact Nat.toDigits_ne_nil hnil
  · rw [toList_str_of_neg hsign] at hnil
    cases hnil

/-- **`int` reads back what `str` wrote.** -/
theorem parseInt_str (hunicode : unicode.KnowsAscii) {number : ℤ}
    (h : (Nat.toDigits 10 number.natAbs).length ≤ 4300) :
    parseInt unicode (str number) = some number := by
  have hstrip : strip unicode (str number).toList = (str number).toList :=
    strip_of_no_space fun c hc => hunicode.isSpace c (mem_str hc)
  rw [parseInt, hstrip]
  rcases le_or_gt 0 number with hsign | hsign
  · rw [show number.natAbs = number.toNat by omega] at h
    have hnatural := natural_toDigits hunicode h
    have hdigits := fun c (hc : c ∈ Nat.toDigits 10 number.toNat) =>
      Nat.isDigit_of_mem_toDigits (by decide) (by decide) hc
    rw [toList_str_of_nonneg hsign]
    split
    · rename_i rest heq
      exact absurd (hdigits '+' (by rw [heq]; simp)) (by decide)
    · rename_i rest heq
      exact absurd (hdigits '-' (by rw [heq]; simp)) (by decide)
    · rw [hnatural]
      simp [Int.toNat_of_nonneg hsign]
  · rw [show number.natAbs = (-number).toNat by omega] at h
    have hnatural := natural_toDigits hunicode h
    rw [toList_str_of_neg hsign]
    simp only [hnatural, Option.map_some, Option.some.injEq]
    show -((-number).toNat : ℤ) = number
    omega

end Python

end ReviewSignal
