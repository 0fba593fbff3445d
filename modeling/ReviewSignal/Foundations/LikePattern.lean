import ReviewSignal.Foundations.Faulty
import Mathlib.Data.List.Infix

/-!
# Patterns of `LIKE` and `ILIKE`

PostgreSQL's pattern language: `%` stands for any text, `_` for any one character, and a backslash for the
character after it.  A pattern is read into a list of `Token`s first, which fails when nothing follows the
last backslash.

`ILIKE` compares what `lower` makes of the text and the pattern, one character at a time (`Folding`).

**`containsPattern_iff`**: around a query, `%` finds exactly the texts that contain it if and only if the
query has none of the three characters.  For a query that has one, `sample` is a text that tells: the pattern
describes it, and it is too short to contain the query or has another character in its place.

A folding maps no other character to one of the three, which is what lets a query be judged before it is
folded.
-/

namespace ReviewSignal

/-- `lower` of a locale that maps characters one by one, and maps to a character of the pattern language
that character alone. -/
structure Folding where
  lower : Char → Char
  lower_eq : ∀ m ∈ ['%', '_', '\\'], ∀ c, lower c = m ↔ c = m

namespace Folding

theorem toNat_toLower (c : Char) :
    c.toLower.toNat = if 65 ≤ c.toNat ∧ c.toNat ≤ 90 then c.toNat + 32 else c.toNat := by
  have hupper : c.val ≥ 'A'.val ∧ c.val ≤ 'Z'.val ↔ 65 ≤ c.toNat ∧ c.toNat ≤ 90 := Iff.rfl
  by_cases h : 65 ≤ c.toNat ∧ c.toNat ≤ 90
  · have hlower : c.toLower.toNat = (c.val.toNat + 32) % 2 ^ 32 :=
      congrArg Char.toNat (dif_pos (hupper.mpr h))
    have hle : c.val.toNat ≤ 90 := h.2
    rw [hlower, if_pos h]
    show _ = c.val.toNat + 32
    omega
  · have hlower : c.toLower = c := dif_neg (mt hupper.mp h)
    rw [hlower, if_neg h]

theorem toLower_eq_iff : ∀ m ∈ ['%', '_', '\\'], ∀ c : Char, c.toLower = m ↔ c = m := by
  intro m hm c
  rw [← Char.toNat_inj, ← Char.toNat_inj, toNat_toLower]
  simp only [List.mem_cons, List.not_mem_nil, or_false] at hm
  rcases hm with rfl | rfl | rfl <;> simp only [Char.reduceToNat] <;> split <;> omega

/-- `lower` of the C locale. -/
def ascii : Folding := ⟨Char.toLower, toLower_eq_iff⟩

end Folding

namespace Like

/-- The characters with a meaning of their own. -/
def metacharacters : List Char := ['%', '_', '\\']

/-- A piece of a pattern. -/
inductive Token where
  | any
  | one
  | lit (c : Char)
  deriving DecidableEq, Repr

/-- The pieces of a pattern. -/
def tokens : List Char → Option (List Token)
  | [] => some []
  | '%' :: pattern => (tokens pattern).map (.any :: ·)
  | '_' :: pattern => (tokens pattern).map (.one :: ·)
  | '\\' :: [] => none
  | '\\' :: c :: pattern => (tokens pattern).map (.lit c :: ·)
  | c :: pattern => (tokens pattern).map (.lit c :: ·)

/-- The pieces describe the whole text. -/
def matchesAll : List Token → List Char → Bool
  | [], text => text.isEmpty
  | .any :: pattern, text => text.tails.any (matchesAll pattern)
  | .one :: pattern, text =>
      match text with
      | [] => false
      | _ :: rest => matchesAll pattern rest
  | .lit c :: pattern, text =>
      match text with
      | [] => false
      | d :: rest => c = d && matchesAll pattern rest

/-- `text ILIKE pattern` -/
def ilike (folding : Folding) (pattern text : String) : Except Exn Bool :=
  match tokens (pattern.toList.map folding.lower) with
  | none => .error ⟨"DataError", "LIKE pattern must not end with escape character"⟩
  | some pattern => .ok (matchesAll pattern (text.toList.map folding.lower))

/-- The text contains the query, whatever the case of its letters. -/
def Contains (folding : Folding) (query text : String) : Prop :=
  query.toList.map folding.lower <:+: text.toList.map folding.lower

instance (folding : Folding) (query text : String) : Decidable (Contains folding query text) :=
  inferInstanceAs (Decidable (_ <:+: _))

variable {folding : Folding} {pattern : List Token} {text query : List Char} {c : Char}

/-! ## Matching

A pattern that is open on both sides is about what a text contains. -/

theorem matchesAll_any : matchesAll (.any :: pattern) text = true ↔
    ∃ before rest, before ++ rest = text ∧ matchesAll pattern rest = true := by
  rw [matchesAll, List.any_eq_true]
  constructor
  · rintro ⟨rest, hrest, hmatch⟩
    obtain ⟨before, hsplit⟩ := (List.mem_tails _ _).mp hrest
    exact ⟨before, rest, hsplit, hmatch⟩
  · rintro ⟨before, rest, hsplit, hmatch⟩
    exact ⟨rest, (List.mem_tails _ _).mpr ⟨before, hsplit⟩, hmatch⟩

/-- Literal characters and an open end: the texts that start with them. -/
theorem matchesAll_append_any (query : List Char) : ∀ text,
    matchesAll (query.map .lit ++ [.any]) text = true ↔ query <+: text := by
  induction query with
  | nil =>
      intro text
      simp only [List.map_nil, List.nil_append, List.nil_prefix, iff_true]
      exact matchesAll_any.mpr ⟨text, [], List.append_nil _, rfl⟩
  | cons c query ih =>
      intro text
      cases text with
      | nil => simp [matchesAll]
      | cons d text =>
          simp only [List.map_cons, List.cons_append, matchesAll, Bool.and_eq_true,
            decide_eq_true_eq, ih, List.cons_prefix_cons]

/-- Open on both sides: the texts that contain them. -/
theorem matchesAll_infix : matchesAll (.any :: (query.map .lit ++ [.any])) text = true ↔
    query <:+: text := by
  rw [matchesAll_any]
  constructor
  · rintro ⟨before, rest, rfl, hmatch⟩
    obtain ⟨after, rfl⟩ := (matchesAll_append_any query rest).mp hmatch
    exact ⟨before, after, by simp⟩
  · rintro ⟨before, after, rfl⟩
    refine ⟨before, query ++ after, by simp, ?_⟩
    exact (matchesAll_append_any query _).mpr (List.prefix_append _ _)

/-! ## Plain queries

Without characters of the language a query reads as itself. -/

/-- A character without a meaning of its own stands for itself. -/
theorem tokens_cons_of_plain (h : c ∉ metacharacters) (pattern : List Char) :
    tokens (c :: pattern) = (tokens pattern).map (.lit c :: ·) := by
  simp only [metacharacters, List.mem_cons, List.not_mem_nil, or_false, not_or] at h
  rw [tokens.eq_6]
  · exact h.1
  · exact h.2.1
  · intro h'; exact absurd h' h.2.2
  · intro c' p h'; exact absurd h' h.2.2

/-- A query without such characters reads as itself. -/
theorem tokens_of_plain (h : ∀ c ∈ query, c ∉ metacharacters) :
    tokens (query ++ ['%']) = some (query.map .lit ++ [.any]) := by
  induction query with
  | nil => rfl
  | cons c query ih =>
      rw [List.forall_mem_cons] at h
      rw [List.cons_append, tokens_cons_of_plain h.1, ih h.2]
      rfl

theorem lower_mem_metacharacters : folding.lower c ∈ metacharacters ↔ c ∈ metacharacters := by
  have hpercent := folding.lower_eq '%' (by simp) c
  have hunderscore := folding.lower_eq '_' (by simp) c
  have hbackslash := folding.lower_eq '\\' (by simp) c
  simp only [metacharacters, List.mem_cons, List.not_mem_nil, or_false, hpercent, hunderscore,
    hbackslash]

theorem lower_percent (folding : Folding) : folding.lower '%' = '%' :=
  (folding.lower_eq '%' (by simp) '%').mpr rfl

theorem lower_underscore (folding : Folding) : folding.lower '_' = '_' :=
  (folding.lower_eq '_' (by simp) '_').mpr rfl

theorem lower_backslash (folding : Folding) : folding.lower '\\' = '\\' :=
  (folding.lower_eq '\\' (by simp) '\\').mpr rfl

/-- The pattern around a query, as `ILIKE` compares it. -/
theorem toList_around (folding : Folding) (query : String) :
    ("%" ++ query ++ "%").toList.map folding.lower
      = '%' :: (query.toList.map folding.lower ++ ['%']) := by
  simp [lower_percent]

/-! ## A text that is found without containing the query

Every percent sign is dropped, an underscore is any character, and a backslash gives way to the next one. -/

/-- A text the pattern around the query describes, with nothing for a `%`. -/
def sample : List Char → List Char
  | [] => []
  | '%' :: query => sample query
  | '_' :: query => 'a' :: sample query
  | '\\' :: [] => ['%']
  | '\\' :: c :: query => c :: sample query
  | c :: query => c :: sample query

theorem length_sample_le (query : List Char) : (sample query).length ≤ query.length := by
  fun_induction sample query <;> simp_all <;> omega

theorem mem_sample (query : List Char) :
    ∀ c ∈ sample query, c ∈ query ∨ c = 'a' ∨ c = '%' := by
  fun_induction sample query with
  | case1 => simp
  | case2 query ih =>
      intro c hc
      exact (ih c hc).imp_left (List.mem_cons_of_mem _)
  | case3 query ih =>
      intro c hc
      rcases List.mem_cons.mp hc with rfl | hc
      · exact .inr (.inl rfl)
      · exact (ih c hc).imp_left (List.mem_cons_of_mem _)
  | case4 => simp
  | case5 d query ih =>
      intro c hc
      rcases List.mem_cons.mp hc with rfl | hc
      · simp
      · exact (ih c hc).imp_left fun h => List.mem_cons_of_mem _ (List.mem_cons_of_mem _ h)
  | case6 d query _ _ _ _ ih =>
      intro c hc
      rcases List.mem_cons.mp hc with rfl | hc
      · simp
      · exact (ih c hc).imp_left (List.mem_cons_of_mem _)

/-- The pattern finds it. -/
theorem matchesAll_sample (folding : Folding) (query : List Char) :
    ∃ pattern, tokens (query.map folding.lower ++ ['%']) = some pattern ∧
      matchesAll pattern ((sample query).map folding.lower) = true := by
  fun_induction sample query with
  | case1 => exact ⟨[.any], rfl, rfl⟩
  | case2 query ih =>
      obtain ⟨pattern, htokens, hmatch⟩ := ih
      refine ⟨.any :: pattern, ?_, matchesAll_any.mpr ⟨[], _, rfl, hmatch⟩⟩
      simp [lower_percent, tokens, htokens]
  | case3 query ih =>
      obtain ⟨pattern, htokens, hmatch⟩ := ih
      refine ⟨.one :: pattern, ?_, hmatch⟩
      simp [lower_underscore, tokens, htokens]
  | case4 =>
      refine ⟨[.lit '%'], ?_, ?_⟩
      · simp [lower_backslash, tokens]
      · simp [lower_percent, matchesAll]
  | case5 d query ih =>
      obtain ⟨pattern, htokens, hmatch⟩ := ih
      refine ⟨.lit (folding.lower d) :: pattern, ?_, ?_⟩
      · simp [lower_backslash, tokens, htokens]
      · simp [matchesAll, hmatch]
  | case6 d query hpercent hunderscore hlast hescape ih =>
      obtain ⟨pattern, htokens, hmatch⟩ := ih
      have hplain : folding.lower d ∉ metacharacters := by
        rw [lower_mem_metacharacters]
        cases query <;> simp_all [metacharacters]
      refine ⟨.lit (folding.lower d) :: pattern, ?_, ?_⟩
      · rw [List.map_cons, List.cons_append, tokens_cons_of_plain hplain, htokens]
        rfl
      · simp [matchesAll, hmatch]

/-- But it contains the query only when the query has no such character. -/
theorem plain_of_sample_eq (h : (sample query).map folding.lower = query.map folding.lower) :
    ∀ c ∈ query, c ∉ metacharacters := by
  fun_induction sample query with
  | case1 => simp
  | case2 query =>
      have hlength := congrArg List.length h
      have hle := length_sample_le query
      simp only [List.length_map, List.length_cons] at hlength
      omega
  | case3 query ih =>
      rw [List.map_cons, List.map_cons, List.cons.injEq, lower_underscore] at h
      exact absurd ((folding.lower_eq '_' (by simp) 'a').mp h.1) (by decide)
  | case4 =>
      rw [List.map_cons, List.map_cons, List.cons.injEq, lower_percent, lower_backslash] at h
      exact absurd h.1 (by decide)
  | case5 d query =>
      have hlength := congrArg List.length h
      have hle := length_sample_le query
      simp only [List.length_map, List.length_cons] at hlength
      omega
  | case6 d query hpercent hunderscore hlast hescape ih =>
      rw [List.map_cons, List.map_cons, List.cons.injEq] at h
      rw [List.forall_mem_cons]
      refine ⟨?_, ih h.2⟩
      cases query <;> simp_all [metacharacters]

theorem plain_of_infix_sample (h : query.map folding.lower <:+: (sample query).map folding.lower) :
    ∀ c ∈ query, c ∉ metacharacters := by
  refine @plain_of_sample_eq folding _ ?_
  refine (h.eq_of_length_le ?_).symm
  simpa using length_sample_le query

/-! ## The pattern around a query

Both directions. -/

section

variable {query : String}

/-- Such a pattern never ends in the escape character alone. -/
theorem ilike_around (folding : Folding) (query : String) :
    ∃ pattern, tokens (("%" ++ query ++ "%").toList.map folding.lower) = some (.any :: pattern) ∧
      matchesAll (.any :: pattern) ((sample query.toList).map folding.lower) = true ∧
      ∀ text : String, ilike folding ("%" ++ query ++ "%") text
        = .ok (matchesAll (.any :: pattern) (text.toList.map folding.lower)) := by
  obtain ⟨pattern, htokens, hmatch⟩ := matchesAll_sample folding query.toList
  have hpattern : tokens (("%" ++ query ++ "%").toList.map folding.lower)
      = some (.any :: pattern) := by
    rw [toList_around, tokens, htokens]
    rfl
  refine ⟨pattern, hpattern, matchesAll_any.mpr ⟨[], _, rfl, hmatch⟩, fun text => ?_⟩
  rw [ilike, hpattern]

/-- A query without such characters finds what contains it. -/
theorem ilike_of_plain (h : ∀ c ∈ query.toList, c ∉ metacharacters) (text : String) :
    ilike folding ("%" ++ query ++ "%") text = .ok (decide (Contains folding query text)) := by
  have hplain : ∀ c ∈ query.toList.map folding.lower, c ∉ metacharacters := by
    intro c hc
    obtain ⟨d, hd, rfl⟩ := List.mem_map.mp hc
    exact fun hmem => h d hd (lower_mem_metacharacters.mp hmem)
  rw [ilike, toList_around, tokens, tokens_of_plain hplain]
  simp only [Option.map_some, Except.ok.injEq]
  rw [Bool.eq_iff_iff, matchesAll_infix, decide_eq_true_eq]
  rfl

/-- Around a query, `%` finds exactly the texts that contain it if and only if the query is plain; the
texts that tell need no character but the query's own, `a` and `%`. -/
theorem containsPattern_iff (folding : Folding) (query : String) :
    (∀ text : String, (∀ c ∈ text.toList, c ∈ query.toList ∨ c = 'a' ∨ c = '%') →
      ilike folding ("%" ++ query ++ "%") text = .ok (decide (Contains folding query text)))
      ↔ ∀ c ∈ query.toList, c ∉ metacharacters := by
  constructor
  · intro h
    obtain ⟨pattern, -, hsample, hilike⟩ := ilike_around folding query
    have htext := h (String.ofList (sample query.toList)) (by simpa using mem_sample query.toList)
    rw [hilike, String.toList_ofList, hsample, Except.ok.injEq, eq_comm, decide_eq_true_eq,
      Contains, String.toList_ofList] at htext
    exact plain_of_infix_sample htext
  · intro h text _
    exact ilike_of_plain h text

end

end Like

end ReviewSignal
