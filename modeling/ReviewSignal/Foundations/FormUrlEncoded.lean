import Mathlib.Data.List.TakeWhile
import Mathlib.Tactic.Tauto

/-!
# Form-urlencoded texts

The format of a query: pairs of a name and a value, as `name=value&name=value`.

* `serialize` — writes them.  Which characters stand for themselves differs between the writers (`Kept`);
  a space is a plus sign, and of every other character the UTF-8 is written in hex.
* `parse` — reads any ASCII text: what is no escape stands for itself, and what is no UTF-8 is replaced.

**`parse_serialize`**: whatever the names and the values are, they are read back as they were written; and
`query_append`, also out of an address they were put in.  It holds for every writer, because a kept character
is never one of those with a meaning, and the reader does not know who wrote.

Reading is total, and writing is not onto: many texts are read as the same pairs, and what is read from a text
need not be what was written as it.  Of several values of one name the last one counts (`lastValue`), and
`filter_present` is about fields with names of their own.
-/

namespace ReviewSignal

namespace FormUrlEncoded

/-- The characters with a meaning of their own, in the pairs or in an address. -/
def reserved : List Char := ['%', '+', '&', '=', ' ', '#']

/-- The characters a writer leaves as they are. -/
structure Kept where
  keeps : Char → Bool
  ascii : ∀ c, keeps c = true → c.toNat < 128
  not_reserved : ∀ c, keeps c = true → c ∉ reserved

theorem toNat_lt_of_isAlphanum {c : Char} (h : c.isAlphanum = true) : c.toNat < 128 := by
  delta Char.isAlphanum Char.isAlpha Char.isUpper Char.isLower Char.isDigit at h
  simp only [Bool.or_eq_true, Bool.and_eq_true, decide_eq_true_eq, ge_iff_le, UInt32.le_iff_toNat_le] at h
  have hc : c.toNat = c.val.toNat := rfl
  rw [hc]
  rcases h with (⟨_, h⟩ | ⟨_, h⟩) | ⟨_, h⟩ <;> exact Nat.lt_of_le_of_lt h (by decide)

/-- Letters, digits and some marks. -/
def Kept.alphanumAnd (marks : List Char) (hascii : marks.all (·.toNat < 128) = true)
    (hreserved : marks.all (· ∉ reserved) = true) : Kept where
  keeps c := c.isAlphanum || c ∈ marks
  ascii c h := by
    rw [Bool.or_eq_true, decide_eq_true_eq] at h
    rcases h with h | h
    · exact toNat_lt_of_isAlphanum h
    · exact of_decide_eq_true (List.all_eq_true.mp hascii c h)
  not_reserved c h := by
    rw [Bool.or_eq_true, decide_eq_true_eq] at h
    rcases h with h | h
    · intro hc
      have hall : reserved.all (!·.isAlphanum) = true := by decide
      have hnot := List.all_eq_true.mp hall c hc
      rw [h] at hnot
      cases hnot
    · exact of_decide_eq_true (List.all_eq_true.mp hreserved c h)

/-- What `URLSearchParams` keeps. -/
def urlSearchParams : Kept := .alphanumAnd ['*', '-', '.', '_'] (by decide) (by decide)

/-- What `quote_plus` keeps. -/
def quotePlus : Kept := .alphanumAnd ['_', '.', '-', '~'] (by decide) (by decide)

/-! ## Writing

Byte by byte, so that a character is up to four escapes. -/

/-- The digits of a byte in hex. -/
def hexDigits : List Char := "0123456789ABCDEF".toList

/-- A digit in hex. -/
def hex (n : ℕ) : Char := hexDigits.getD n '0'

/-- A byte as it is escaped. -/
def escape (byte : UInt8) : List Char := ['%', hex (byte.toNat / 16), hex (byte.toNat % 16)]

/-- A character as it is written. -/
def encodeChar (kept : Kept) (c : Char) : List Char :=
  if c = ' ' then ['+'] else if kept.keeps c then [c] else (String.utf8EncodeChar c).flatMap escape

/-- A name or a value as it is written. -/
def encode (kept : Kept) (text : String) : List Char := text.toList.flatMap (encodeChar kept)

/-- A pair as it is written. -/
def field (kept : Kept) (pair : String × String) : List Char :=
  encode kept pair.1 ++ '=' :: encode kept pair.2

/-- The pairs as they are written. -/
def serialize (kept : Kept) (pairs : List (String × String)) : String :=
  .ofList (['&'].intercalate (pairs.map (field kept)))

/-! ## Reading

Escapes first, then UTF-8, as the reader does. -/

/-- The value of a digit in hex, of either case. -/
def hexValue (c : Char) : Option ℕ := hexDigits.idxOf? c.toUpper

/-- The byte that is escaped at the front of a text. -/
def escaped : List Char → Option UInt8
  | '%' :: a :: b :: _ => do return UInt8.ofNat (16 * (← hexValue a) + (← hexValue b))
  | _ => none

/-- The bytes of an ASCII text, its escapes replaced. -/
def percentDecode : List Char → List UInt8
  | [] => []
  | c :: rest =>
      match escaped (c :: rest) with
      | some byte => byte :: percentDecode (rest.drop 2)
      | none => UInt8.ofNat c.toNat :: percentDecode rest
termination_by text => text.length
decreasing_by all_goals simp; try omega

/-- How many of the first bytes are replaced together where they are no UTF-8: as many as a character could
begin with. -/
def illFormed : List UInt8 → ℕ
  | lead :: second :: third :: _ =>
      if ¬ Continues lead second then 1
      else if lead < 0xF0 ∨ ¬ (0x80 ≤ third ∧ third ≤ 0xBF) then 2 else 3
  | [lead, second] => if Continues lead second then 2 else 1
  | _ => 1
where
  /-- The byte may follow the first one of a character. -/
  Continues (lead second : UInt8) : Bool :=
    if lead < 0xC2 ∨ 0xF4 < lead then false
    else (if lead = 0xE0 then 0xA0 else if lead = 0xF0 then 0x90 else 0x80) ≤ second
      ∧ second ≤ (if lead = 0xED then 0x9F else if lead = 0xF4 then 0x8F else 0xBF)

/-- `bytes.decode("utf-8", errors="replace")` -/
def decodeUtf8 : List UInt8 → List Char
  | [] => []
  | b :: rest =>
      match ByteArray.utf8DecodeChar? (b :: rest).toByteArray 0 with
      | some c => c :: decodeUtf8 (rest.drop (c.utf8Size - 1))
      | none => '\uFFFD' :: decodeUtf8 (rest.drop (illFormed (b :: rest) - 1))
termination_by bytes => bytes.length
decreasing_by all_goals simp; try omega

/-- A plus sign stands for a space. -/
def plusToSpace (c : Char) : Char := if c = '+' then ' ' else c

/-- A name or a value as it is read. -/
def unquote (text : List Char) : String := .ofList (decodeUtf8 (percentDecode (text.map plusToSpace)))

/-- A pair as it is read, from a text that is not empty: it is cut at the first equals sign. -/
def readField (text : List Char) : Option (String × String) :=
  if text = [] then none
  else some (unquote (text.takeWhile (· ≠ '=')), unquote ((text.dropWhile (· ≠ '=')).drop 1))

/-- The pairs of an ASCII text. -/
def parse (text : String) : List (String × String) := (text.toList.splitOn '&').filterMap readField

/-- The query of an address. -/
def query (address : String) : String :=
  .ofList (((address.toList.takeWhile (· ≠ '#')).dropWhile (· ≠ '?')).drop 1)

/-! ## Fields

What a program asks of the pairs it has read. -/

/-- The fields that have a value. -/
def present (fields : List (String × Option String)) : List (String × String) :=
  fields.filterMap fun field => field.2.map (field.1, ·)

/-- The values of a field. -/
def allValues (pairs : List (String × String)) (name : String) : List String :=
  (pairs.filter (·.1 = name)).map (·.2)

/-- The value of a field: of several, the last. -/
def lastValue (pairs : List (String × String)) (name : String) : Option String :=
  (pairs.filter (·.1 = name)).getLast?.map (·.2)

variable {kept : Kept} {c : Char} {rest : List Char} {text : String}

/-! ## Escapes

The digits of a byte in hex are its two halves. -/

theorem hexValue_hex {n : ℕ} (h : n < 16) : hexValue (hex n) = some n := by
  revert n
  decide

theorem plusToSpace_hex {n : ℕ} (h : n < 16) : plusToSpace (hex n) = hex n := by
  revert n
  decide

theorem hex_not_reserved {n : ℕ} (h : n < 16) : hex n ∉ reserved := by
  revert n
  decide

/-- An escape is read as the byte it was written for. -/
theorem percentDecode_escape (byte : UInt8) :
    percentDecode ((escape byte ++ rest).map plusToSpace)
      = byte :: percentDecode (rest.map plusToSpace) := by
  have hhigh : byte.toNat / 16 < 16 := by
    have := byte.toNat_lt
    omega
  have hlow : byte.toNat % 16 < 16 := Nat.mod_lt _ (by decide)
  have hmap : (escape byte ++ rest).map plusToSpace
      = '%' :: hex (byte.toNat / 16) :: hex (byte.toNat % 16) :: rest.map plusToSpace := by
    show plusToSpace '%' :: plusToSpace (hex _) :: plusToSpace (hex _) :: _ = _
    rw [plusToSpace_hex hhigh, plusToSpace_hex hlow]
    rfl
  have hescaped : escaped ((escape byte ++ rest).map plusToSpace) = some byte := by
    rw [hmap, escaped, hexValue_hex hhigh, hexValue_hex hlow]
    show Option.some (UInt8.ofNat (16 * (byte.toNat / 16) + byte.toNat % 16)) = some byte
    rw [Nat.div_add_mod, UInt8.ofNat_toNat]
  rw [hmap] at hescaped ⊢
  rw [percentDecode, hescaped]
  rfl

theorem percentDecode_escapes (bytes : List UInt8) :
    percentDecode ((bytes.flatMap escape ++ rest).map plusToSpace)
      = bytes ++ percentDecode (rest.map plusToSpace) := by
  induction bytes with
  | nil => rfl
  | cons byte bytes ih =>
      rw [List.flatMap_cons, List.append_assoc, percentDecode_escape, ih, List.cons_append]

/-- What is no percent sign stands for itself. -/
theorem percentDecode_cons (h : c ≠ '%') :
    percentDecode (c :: rest) = UInt8.ofNat c.toNat :: percentDecode rest := by
  rw [percentDecode]
  have hescaped : escaped (c :: rest) = none := by
    rw [escaped]
    rintro a b after ⟨⟩
    exact h rfl
  rw [hescaped]

/-! ## Names and values

A character at a time, and then a text. -/

theorem utf8EncodeChar_of_ascii (h : c.toNat < 128) :
    String.utf8EncodeChar c = [UInt8.ofNat c.toNat] := by
  rw [String.utf8EncodeChar_eq_singleton]
  · rfl
  · rw [Char.utf8Size_eq_one_iff]
    exact UInt32.le_iff_toNat_le.mpr (Nat.lt_succ_iff.mp h)

/-- A character is read as its UTF-8. -/
theorem percentDecode_encodeChar :
    percentDecode ((encodeChar kept c ++ rest).map plusToSpace)
      = String.utf8EncodeChar c ++ percentDecode (rest.map plusToSpace) := by
  rw [encodeChar]
  split_ifs with hspace hkept
  · subst hspace
    rw [utf8EncodeChar_of_ascii (by decide)]
    exact percentDecode_cons (by decide)
  · have hreserved := kept.not_reserved c hkept
    have hplus : plusToSpace c = c := if_neg fun h => hreserved (by rw [h]; decide)
    rw [utf8EncodeChar_of_ascii (kept.ascii c hkept), List.singleton_append, List.map_cons, hplus,
      percentDecode_cons fun h => hreserved (by rw [h]; decide), List.singleton_append]
  · exact percentDecode_escapes _

theorem percentDecode_encode :
    percentDecode ((encode kept text).map plusToSpace) = text.toList.flatMap String.utf8EncodeChar := by
  rw [encode]
  induction text.toList with
  | nil => rw [List.flatMap_nil, List.map_nil, percentDecode, List.flatMap_nil]
  | cons c l ih => rw [List.flatMap_cons, percentDecode_encodeChar, ih, List.flatMap_cons]

theorem decodeUtf8_encodeChar (bytes : List UInt8) :
    decodeUtf8 (String.utf8EncodeChar c ++ bytes) = c :: decodeUtf8 bytes := by
  have hdecode : ByteArray.utf8DecodeChar? (String.utf8EncodeChar c ++ bytes).toByteArray 0 = some c := by
    rw [List.toByteArray_append]
    exact ByteArray.utf8DecodeChar?_utf8EncodeChar_append
  have hlength := String.length_utf8EncodeChar c
  cases hencoded : String.utf8EncodeChar c with
  | nil => exact absurd hencoded String.utf8EncodeChar_ne_nil
  | cons b more =>
      rw [hencoded, List.length_cons] at hlength
      rw [hencoded, List.cons_append] at hdecode
      rw [List.cons_append, decodeUtf8, hdecode]
      show c :: decodeUtf8 ((more ++ bytes).drop (c.utf8Size - 1)) = _
      rw [← hlength, Nat.add_sub_cancel, List.drop_left]

theorem decodeUtf8_encode (l : List Char) : decodeUtf8 (l.flatMap String.utf8EncodeChar) = l := by
  induction l with
  | nil => rw [List.flatMap_nil, decodeUtf8]
  | cons c l ih => rw [List.flatMap_cons, decodeUtf8_encodeChar, ih]

/-- A name or a value is read as it was written. -/
theorem unquote_encode : unquote (encode kept text) = text := by
  rw [unquote, percentDecode_encode, decodeUtf8_encode, String.ofList_toList]

/-! ## Pairs

Neither separator is written as itself within a name or a value. -/

/-- Of the characters with a meaning, only those of a space and of an escape are written. -/
theorem mem_encode (h : c ∈ encode kept text) : c = '+' ∨ c = '%' ∨ c ∉ reserved := by
  obtain ⟨d, -, hc⟩ := List.mem_flatMap.mp h
  rw [encodeChar] at hc
  split_ifs at hc with hspace hkept
  · exact .inl (List.mem_singleton.mp hc)
  · rw [List.mem_singleton.mp hc]
    exact .inr (.inr (kept.not_reserved d hkept))
  · obtain ⟨byte, -, hc⟩ := List.mem_flatMap.mp hc
    have hbyte := byte.toNat_lt
    simp only [escape, List.mem_cons, List.not_mem_nil, or_false] at hc
    rcases hc with rfl | rfl | rfl
    · exact .inr (.inl rfl)
    · exact .inr (.inr (hex_not_reserved (by omega)))
    · exact .inr (.inr (hex_not_reserved (by omega)))

theorem not_mem_encode (hc : c ∈ ['&', '=', '#']) : c ∉ encode kept text := by
  intro h
  rcases mem_encode h with rfl | rfl | hreserved
  · exact absurd hc (by decide)
  · exact absurd hc (by decide)
  · refine hreserved ?_
    revert hc
    simp only [reserved, List.mem_cons, List.not_mem_nil]
    tauto

theorem not_mem_field (hc : c ∈ ['&', '#']) (pair : String × String) : c ∉ field kept pair := by
  have hseparator : c ∈ ['&', '=', '#'] := by
    revert hc
    simp only [List.mem_cons, List.not_mem_nil]
    tauto
  intro h
  rcases List.mem_append.mp h with h | h
  · exact not_mem_encode hseparator h
  · rcases List.mem_cons.mp h with rfl | h
    · exact absurd hc (by decide)
    · exact not_mem_encode hseparator h

/-- A pair is read as it was written. -/
theorem readField_field (pair : String × String) : readField (field kept pair) = some pair := by
  have hname : ∀ c ∈ encode kept pair.1, decide (c ≠ '=') = true := by
    intro c hc
    rw [decide_eq_true_eq]
    rintro rfl
    exact not_mem_encode (by decide) hc
  have htake : (field kept pair).takeWhile (· ≠ '=') = encode kept pair.1 := by
    rw [field, List.takeWhile_append_of_pos hname, List.takeWhile_cons_of_neg (by simp), List.append_nil]
  have hdrop : (field kept pair).dropWhile (· ≠ '=') = '=' :: encode kept pair.2 := by
    rw [field, List.dropWhile_append_of_pos hname, List.dropWhile_cons_of_neg (by simp)]
  rw [readField, if_neg (by simp [field]), htake, hdrop, List.drop_one, List.tail_cons, unquote_encode,
    unquote_encode]

/-- **The pairs are read back as they were written.** -/
theorem parse_serialize (kept : Kept) (pairs : List (String × String)) :
    parse (serialize kept pairs) = pairs := by
  rw [parse, serialize, String.toList_ofList]
  cases pairs with
  | nil => rfl
  | cons pair pairs =>
      have hseparator : ∀ text ∈ (pair :: pairs).map (field kept), '&' ∉ text :=
        List.forall_mem_map.mpr fun pair _ => not_mem_field (by decide) pair
      have hread : readField ∘ field kept = some := funext readField_field
      rw [List.splitOn_intercalate '&' hseparator (by simp), List.filterMap_map, hread, List.filterMap_some]

/-! ## Each field by its name

Fields that are left out when they have no value. -/

theorem filter_present_eq_nil {fields : List (String × Option String)} {name : String}
    (h : name ∉ fields.map (·.1)) : (present fields).filter (·.1 = name) = [] := by
  rw [List.filter_eq_nil_iff]
  intro pair hpair
  obtain ⟨field, hfield, hvalue⟩ := List.mem_filterMap.mp hpair
  obtain ⟨value, -, rfl⟩ := Option.map_eq_some_iff.mp hvalue
  rw [decide_eq_true_eq]
  rintro rfl
  exact h (List.mem_map.mpr ⟨field, hfield, rfl⟩)

/-- Of fields with names of their own, each has the value it was given, or none. -/
theorem filter_present {fields : List (String × Option String)} (hnodup : (fields.map (·.1)).Nodup)
    {name : String} {value : Option String} (h : (name, value) ∈ fields) :
    (present fields).filter (·.1 = name) = value.toList.map (name, ·) := by
  induction fields with
  | nil => cases h
  | cons field fields ih =>
      rw [List.map_cons, List.nodup_cons] at hnodup
      rw [present, List.filterMap_cons]
      rcases List.mem_cons.mp h with rfl | h
      · have hnone := filter_present_eq_nil hnodup.1
        rw [present] at hnone
        cases value <;> simp [hnone]
      · have hne : field.1 ≠ name := by
          intro heq
          exact hnodup.1 (List.mem_map.mpr ⟨_, h, heq.symm⟩)
        have hrest := ih hnodup.2 h
        rw [present] at hrest
        cases field.2 <;> simpa [hne] using hrest

theorem lastValue_present {fields : List (String × Option String)} (hnodup : (fields.map (·.1)).Nodup)
    {name : String} {value : Option String} (h : (name, value) ∈ fields) :
    lastValue (present fields) name = value := by
  rw [lastValue, filter_present hnodup h]
  cases value <;> rfl

theorem allValues_present {fields : List (String × Option String)} (hnodup : (fields.map (·.1)).Nodup)
    {name : String} {value : Option String} (h : (name, value) ∈ fields) :
    allValues (present fields) name = value.toList := by
  rw [allValues, filter_present hnodup h, List.map_map]
  cases value <;> rfl

/-! ## Addresses

The query of an address is what stands between its question mark and its hash sign. -/

theorem hash_not_mem_serialize (pairs : List (String × String)) :
    '#' ∉ (serialize kept pairs).toList := by
  rw [serialize, String.toList_ofList]
  induction pairs with
  | nil => simp
  | cons pair pairs ih =>
      cases pairs with
      | nil => simpa using not_mem_field (by decide) pair
      | cons next pairs =>
          rw [List.map_cons] at ih ⊢
          rw [List.map_cons, List.intercalate_cons_cons]
          simp only [List.mem_append, List.mem_singleton, not_or]
          exact ⟨⟨not_mem_field (by decide) pair, by decide⟩, ih⟩

/-- The query of an address is what was put behind its path. -/
theorem query_append {path : String} (hpath : ∀ c ∈ path.toList, c ≠ '?' ∧ c ≠ '#')
    (pairs : List (String × String)) :
    query (path ++ "?" ++ serialize kept pairs) = serialize kept pairs := by
  have htext : (path ++ "?" ++ serialize kept pairs).toList
      = path.toList ++ '?' :: (serialize kept pairs).toList := by
    simp
  have hhash : ∀ c ∈ path.toList ++ '?' :: (serialize kept pairs).toList, decide (c ≠ '#') = true := by
    intro c hc
    rw [decide_eq_true_eq]
    rcases List.mem_append.mp hc with hc | hc
    · exact (hpath c hc).2
    · rcases List.mem_cons.mp hc with rfl | hc
      · decide
      · rintro rfl
        exact hash_not_mem_serialize pairs hc
  have hquestion : ∀ c ∈ path.toList, decide (c ≠ '?') = true := fun c hc =>
    decide_eq_true (hpath c hc).1
  rw [query, htext, List.takeWhile_eq_self_iff.mpr hhash, List.dropWhile_append_of_pos hquestion,
    List.dropWhile_cons_of_neg (by simp), List.drop_one, List.tail_cons, String.ofList_toList]

end FormUrlEncoded

end ReviewSignal
