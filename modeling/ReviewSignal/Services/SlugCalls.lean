import ReviewSignal.Services.TaxonomyRows

/-!
# The slugs of names given in turn

`_unique_slug` is called with one set of used slugs for all the names of a version.  `SlugCalls` is
such a sequence of calls, each with its loop run to the end; there is one for every sequence of names
(`exists_slugCalls`, `SlugCalls.unique`), and its slugs are those of the rows (`SlugCalls.map_slug`).

**`slugCalls_distinct`**: for every sequence of names and whatever lower-casing does to them, the calls come
to their end, each after at most one test more than there are used slugs; the slugs are well formed and no two
are the same; and a name whose base is free gets it.

The loop of the source has no bound, so the calls are a relation, and that there is one for every sequence is
part of the result.  The function of the model has a bound, and `SlugCalls.map_slug` says that it is enough.
-/

namespace ReviewSignal

open TaxonomyGenerationService

/-- A call of `_unique_slug`: its name, the slugs used before it, the texts its loop tests and the
slug it returns. -/
structure SlugCall where
  name : String
  used : List String
  tested : List String
  slug : String

/-- Calls on the names in turn, each of which adds its slug to the used ones. -/
inductive SlugCalls (lower : String → String) : List String → List String → List SlugCall → Prop
  | done {used : List String} : SlugCalls lower [] used []
  | call {name : String} {names used : List String} {tested : List SlugState} {s : SlugState}
      {calls : List SlugCall}
      (loop : SlugLoop (slugBase lower name) used (.first (slugBase lower name)) tested s)
      (rest : SlugCalls lower names (s.slug :: used) calls) :
      SlugCalls lower (name :: names) used (⟨name, used, tested.map (·.slug), s.slug⟩ :: calls)

/-- What a call does: its loop ends in time, with a slug that is new and looks like one, and that is
the base itself when the base is not used. -/
structure SlugCall.Correct (lower : String → String) (call : SlugCall) : Prop where
  length_tested_le : call.tested.length ≤ call.used.toFinset.card + 1
  not_mem : call.slug ∉ call.used
  isSlug : IsSlug call.slug
  eq_base : slugBase lower call.name ∉ call.used → call.slug = slugBase lower call.name

variable {lower : String → String}

/-- **Every loop of the calls ends.** -/
theorem exists_slugCalls (lower : String → String) (names used : List String) :
    ∃ calls, SlugCalls lower names used calls := by
  induction names generalizing used with
  | nil => exact ⟨[], .done⟩
  | cons name names ih =>
      obtain ⟨tested, s, hloop, -⟩ := exists_slugLoop (slugBase lower name) used
      obtain ⟨calls, hcalls⟩ := ih (s.slug :: used)
      exact ⟨_, .call hloop hcalls⟩

namespace SlugCalls

variable {names used : List String} {calls : List SlugCall}

theorem unique {others : List SlugCall} (h : SlugCalls lower names used calls)
    (h' : SlugCalls lower names used others) : others = calls := by
  induction h generalizing others with
  | done =>
      cases h'
      rfl
  | call hloop _ ih =>
      cases h' with
      | call hloop' hrest =>
          obtain ⟨rfl, rfl⟩ := hloop.unique hloop'
          rw [ih hrest]

theorem map_name (h : SlugCalls lower names used calls) : calls.map (·.name) = names := by
  induction h with
  | done => rfl
  | call _ _ ih => rw [List.map_cons, ih]

/-- The slugs of the calls are those the rows of a taxonomy have. -/
theorem map_slug (h : SlugCalls lower names used calls) :
    calls.map (·.slug) = slugs lower names used := by
  induction h with
  | done => rfl
  | call hloop _ ih => rw [List.map_cons, ih, slugs, (uniqueSlug_of_slugLoop hloop).1]

theorem correct (h : SlugCalls lower names used calls) : ∀ call ∈ calls, call.Correct lower := by
  induction h with
  | done => exact nofun
  | @call name names used tested s calls hloop _ ih =>
      obtain ⟨hslug, hlength⟩ := uniqueSlug_of_slugLoop hloop
      refine List.forall_mem_cons.mpr ⟨⟨?_, hloop.not_test, ?_, fun hbase => ?_⟩, ih⟩
      · rw [List.length_map]
        exact hlength
      · rw [← hslug]
        exact isSlug_uniqueSlug lower name used
      · exact hslug.symm.trans (uniqueSlug_of_not_mem hbase)

/-- A call finds the slugs of those before it used. -/
theorem used_eq (h : SlugCalls lower names used calls) {before after : List SlugCall}
    {call : SlugCall} (hcalls : calls = before ++ call :: after) :
    call.used = (before.map (·.slug)).reverse ++ used := by
  induction h generalizing before with
  | done => simp at hcalls
  | call _ _ ih =>
      cases before with
      | nil =>
          obtain ⟨rfl, -⟩ := List.cons_eq_cons.mp hcalls
          rfl
      | cons first before =>
          obtain ⟨rfl, hrest⟩ := List.cons_eq_cons.mp hcalls
          simp [ih hrest]

end SlugCalls

/-- **The slugs of names given in turn are distinct and well formed**, whatever lower-casing does: the
calls come to their end, each after at most one test more than there are used slugs, and no name gets
a slug that another one has. -/
theorem slugCalls_distinct (lower : String → String) (names used : List String) :
    ∃ calls, SlugCalls lower names used calls ∧
      (∀ others, SlugCalls lower names used others → others = calls) ∧
      calls.map (·.name) = names ∧
      calls.map (·.slug) = slugs lower names used ∧
      (∀ before call after, calls = before ++ call :: after →
        call.used = (before.map (·.slug)).reverse ++ used) ∧
      (∀ call ∈ calls, call.Correct lower) ∧
      (calls.map (·.slug)).Nodup := by
  obtain ⟨calls, hcalls⟩ := exists_slugCalls lower names used
  refine ⟨calls, hcalls, fun others => hcalls.unique, hcalls.map_name, hcalls.map_slug,
    fun before call after => hcalls.used_eq, hcalls.correct, ?_⟩
  rw [hcalls.map_slug]
  exact (nodup_slugs names used).1

/-- The third name looks like the slug of the second. -/
example : slugs (fun name => .ofList (name.toList.map Char.toLower)) ["Service", "Service", "Service 2"] []
    = ["service", "service_2", "service_2_2"] := by decide +kernel

end ReviewSignal
