import ReviewSignal.Foundations.WhileLoop
import ReviewSignal.Services.TaxonomyGeneration

/-!
# The slugs of one version

The loop of `_unique_slug` comes to its end after at most one test more than there are used slugs
(`exists_slugLoop`): it tries a new text in every round.  The rounds of `freeSlug` are enough for it
(`slug_of_slugLoop`), so that a slug is one that is not used yet (`uniqueSlug_not_mem`).

A slug is not empty, has no other characters than `[a-z0-9_]` and an underscore at neither end
(`isSlug_uniqueSlug`), so that the width of its column is all that can stand against it
(`refusedText_slug`).

What lower-casing makes of a name is a parameter, and nothing is assumed of it: whatever it returns, what is
not in the alphabet is replaced.  A name without a character of it has a base of its own.
-/

namespace ReviewSignal

/-- What the loop of `_unique_slug` tries in the round of a suffix. -/
def numberedSlug (base : String) (suffix : ℕ) : String := base ++ "_" ++ toString suffix

theorem numberedSlug_injective (base : String) : Function.Injective (numberedSlug base) := by
  intro i j h
  have htext := congrArg String.toList h
  simp only [numberedSlug, String.toList_append] at htext
  have hdigits := congrArg (fun digits => Nat.ofDigitChars 10 digits 0)
    (List.append_cancel_left htext)
  simpa [Nat.toString_eq_ofList_toDigits] using hdigits

theorem ne_numberedSlug (base : String) (suffix : ℕ) : base ≠ numberedSlug base suffix := by
  intro h
  have hlength := congrArg String.length h
  simp only [numberedSlug, String.length_append] at hlength
  have hseparator : "_".length = 1 := rfl
  omega

/-! ## The loop

Its two variables, and the text of each round. -/

/-- The two variables the loop of `_unique_slug` changes. -/
structure SlugState where
  suffix : ℕ
  slug : String

/-- The variables before the loop. -/
def SlugState.first (base : String) : SlugState := ⟨1, base⟩

/-- The body of the loop. -/
def SlugState.next (base : String) (s : SlugState) : SlugState :=
  ⟨s.suffix + 1, numberedSlug base (s.suffix + 1)⟩

/-- The loop of `_unique_slug`, with no bound on its rounds. -/
def SlugLoop (base : String) (used : List String) : SlugState → List SlugState → SlugState → Prop :=
  WhileRun (·.slug ∈ used) (SlugState.next base)

section Loop

variable {base : String} {used : List String} {s s' : SlugState} {tested : List SlugState}

/-- The state after some rounds has the slug of its suffix. -/
theorem iterate_next (base : String) (n : ℕ) :
    (SlugState.next base)^[n + 1] (.first base) = ⟨n + 2, numberedSlug base (n + 2)⟩ := by
  induction n with
  | zero => rfl
  | succ n ih => rw [Function.iterate_succ_apply', ih, SlugState.next]

/-- The loop tries a new text in every round. -/
theorem slug_iterate_injective (base : String) :
    Function.Injective fun n => ((SlugState.next base)^[n] (.first base)).slug := by
  intro i j h
  cases i with
  | zero =>
      cases j with
      | zero => rfl
      | succ j =>
          simp only [iterate_next] at h
          exact absurd h (ne_numberedSlug base _)
  | succ i =>
      cases j with
      | zero =>
          simp only [iterate_next] at h
          exact absurd h.symm (ne_numberedSlug base _)
      | succ j =>
          simp only [iterate_next] at h
          have := numberedSlug_injective base h
          omega

/-- **The loop ends**, after at most one test more than there are used slugs. -/
theorem exists_slugLoop (base : String) (used : List String) :
    ∃ tested s, SlugLoop base used (.first base) tested s ∧
      tested.length ≤ used.toFinset.card + 1 :=
  WhileRun.exists_of_keys (fun _ => List.mem_toFinset.mpr) (slug_iterate_injective base)

/-- With enough rounds `freeSlug` returns what the loop ends with. -/
theorem slug_of_slugLoop (h : SlugLoop base used s tested s') {rounds : ℕ}
    (hrounds : tested.length ≤ rounds + 1) :
    freeSlug base used rounds s.suffix s.slug = s'.slug := by
  induction h generalizing rounds with
  | @leave s hleave =>
      cases rounds with
      | zero => rfl
      | succ rounds => rw [freeSlug, if_neg hleave]
  | @round s s' tested hround rest ih =>
      have hrest := List.length_pos_iff.mpr rest.tested_ne_nil
      rw [List.length_cons] at hrounds
      cases rounds with
      | zero => omega
      | succ rounds =>
          rw [freeSlug, if_pos hround]
          exact ih (Nat.le_of_succ_le_succ hrounds)

/-- **`_unique_slug` returns what its loop ends with.** -/
theorem uniqueSlug_of_slugLoop {lower : String → String} {name : String}
    (h : SlugLoop (slugBase lower name) used (.first (slugBase lower name)) tested s) :
    uniqueSlug lower name used = s.slug ∧ tested.length ≤ used.toFinset.card + 1 := by
  obtain ⟨tested', s', hrun, hlength⟩ := exists_slugLoop (slugBase lower name) used
  obtain ⟨rfl, rfl⟩ := h.unique hrun
  refine ⟨slug_of_slugLoop hrun (hlength.trans ?_), hlength⟩
  exact Nat.succ_le_succ (List.toFinset_card_le used)

end Loop

/-- **A slug is a new one.** -/
theorem uniqueSlug_not_mem (lower : String → String) (name : String) (used : List String) :
    uniqueSlug lower name used ∉ used := by
  obtain ⟨tested, s, hrun, -⟩ := exists_slugLoop (slugBase lower name) used
  rw [(uniqueSlug_of_slugLoop hrun).1]
  exact hrun.not_test

/-- A base that is not used yet is the slug. -/
theorem uniqueSlug_of_not_mem {lower : String → String} {name : String} {used : List String}
    (h : slugBase lower name ∉ used) : uniqueSlug lower name used = slugBase lower name := by
  obtain ⟨tested, s, hrun, -⟩ := exists_slugLoop (slugBase lower name) used
  rw [(uniqueSlug_of_slugLoop hrun).1, hrun.eq_of_not_test h, SlugState.first]

/-! ## Their texts

What stripping and numbering leave of the form of a slug. -/

/-- A text over `[a-z0-9_]`. -/
def IsSlugText (text : List Char) : Prop := ∀ c ∈ text, isSlugChar c ∨ c = '_'

theorem isSlugText_stripChars {p : Char → Bool} {text : List Char} (h : IsSlugText text) :
    IsSlugText (stripChars p text) := by
  intro c hc
  exact h c ((List.dropWhile_sublist p).mem ((List.rdropWhile_prefix p _).sublist.mem hc))

theorem isSlugText_subNonSlug (inRun : Bool) (text : List Char) :
    IsSlugText (subNonSlug inRun text) := by
  induction text generalizing inRun with
  | nil => exact nofun
  | cons c text ih =>
      rw [subNonSlug]
      split_ifs with hc hrun
      · exact List.forall_mem_cons.mpr ⟨.inl hc, ih false⟩
      · exact ih true
      · exact List.forall_mem_cons.mpr ⟨.inr rfl, ih true⟩

theorem isSlugText_numberedSlug {base : String} (h : IsSlugText base.toList) (suffix : ℕ) :
    IsSlugText (numberedSlug base suffix).toList := by
  intro c hc
  simp only [numberedSlug, String.toList_append, List.mem_append] at hc
  rcases hc with (hbase | hsep) | hdigit
  · exact h c hbase
  · exact .inr (by simpa using hsep)
  · rw [Nat.toString_eq_ofList_toDigits, String.toList_ofList] at hdigit
    have := Nat.isDigit_of_mem_toDigits (by omega) (by omega) hdigit
    left
    simpa [isSlugChar, Char.isDigit, Char.le_def] using Or.inr this

/-- What a slug looks like: it is not empty, its characters are in `[a-z0-9_]`, and it has an
underscore at neither end. -/
structure IsSlug (slug : String) : Prop where
  ne_empty : slug ≠ ""
  text : IsSlugText slug.toList
  head_ne : slug.toList.head? ≠ some '_'
  getLast_ne : slug.toList.getLast? ≠ some '_'

theorem head_stripChars {p : Char → Bool} {text : List Char} {c : Char}
    (h : (stripChars p text).head? = some c) : p c = false := by
  obtain ⟨dropped, hdropped⟩ := List.rdropWhile_prefix p (text.dropWhile p)
  have hhead := List.head?_dropWhile_not p text
  rw [stripChars] at h
  rw [← hdropped, List.head?_append, h] at hhead
  exact hhead

theorem getLast_stripChars {p : Char → Bool} {text : List Char} {c : Char}
    (h : (stripChars p text).getLast? = some c) : p c = false := by
  have hne : (text.dropWhile p).rdropWhile p ≠ [] := by
    intro hnil
    rw [stripChars, hnil] at h
    cases h
  rw [stripChars, List.getLast?_eq_some_getLast hne, Option.some.injEq] at h
  rw [← h]
  simpa using List.rdropWhile_last_not p _ hne

theorem isSlug_stripChars {text : List Char} (htext : IsSlugText text)
    (hne : stripChars (· = '_') text ≠ []) : IsSlug (.ofList (stripChars (· = '_') text)) := by
  refine ⟨by simpa using hne, by simpa using isSlugText_stripChars htext, fun h => ?_, fun h => ?_⟩
  · rw [String.toList_ofList] at h
    simpa using head_stripChars h
  · rw [String.toList_ofList] at h
    simpa using getLast_stripChars h

theorem isSlug_slugBase (lower : String → String) (name : String) : IsSlug (slugBase lower name) := by
  rw [slugBase]
  split
  · exact ⟨by decide, by simp [IsSlugText, isSlugChar], by decide, by decide⟩
  · next hne => exact isSlug_stripChars (isSlugText_subNonSlug false _) hne

/-- A number ends in a digit, and what stands before it begins with the base. -/
theorem isSlug_numberedSlug {base : String} (h : IsSlug base) (suffix : ℕ) :
    IsSlug (numberedSlug base suffix) := by
  have hbase : base.toList ≠ [] := by simpa using h.ne_empty
  have hdigits : (toString suffix).toList = Nat.toDigits 10 suffix := by
    rw [Nat.toString_eq_ofList_toDigits, String.toList_ofList]
  refine ⟨fun hempty => ?_, isSlugText_numberedSlug h.text suffix, fun hhead => ?_, fun hlast => ?_⟩
  · have hnil := congrArg String.toList hempty
    simp [numberedSlug] at hnil
  · rw [numberedSlug, String.toList_append, String.toList_append, List.append_assoc,
      List.head?_append_of_ne_nil _ hbase] at hhead
    exact h.head_ne hhead
  · rw [numberedSlug, String.toList_append, hdigits,
      List.getLast?_append_of_ne_nil _ Nat.toDigits_ne_nil] at hlast
    have hdigit := Nat.isDigit_of_mem_toDigits (by omega) (by omega) (List.mem_of_getLast? hlast)
    exact absurd hdigit (by decide)

/-- **Every slug looks like one.** -/
theorem isSlug_uniqueSlug (lower : String → String) (name : String) (used : List String) :
    IsSlug (uniqueSlug lower name used) := by
  obtain ⟨tested, s, hrun, -⟩ := exists_slugLoop (slugBase lower name) used
  have hbase := isSlug_slugBase lower name
  rw [(uniqueSlug_of_slugLoop hrun).1]
  exact hrun.invariant (fun s => IsSlug s.slug) (fun s _ _ => isSlug_numberedSlug hbase _) hbase

end ReviewSignal
