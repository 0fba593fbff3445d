import Mathlib.Data.List.Basic

/-!
# Sections of a text that is read line by line

Some lines are headings and have a level, and some of these have a number.  A section ends at the next
heading of its level or a higher one, whether that one has a number or not: what a line stands in is the
`Innermost` section that is still open.  A reader that keeps the number it saw last knows the `Last` one.

* `stale_or_innermost` — the number that came last is the innermost section's, unless its section has ended
  without another number coming (`Stale`);
* **`listed_iff`** — listing items under the number that came last lists what they are in, if and only if the
  items that stand where it is stale are `Harmless`: what they are listed under, and what they are in, are
  listed by other lines.

Lines are of any type, and what makes one a heading or an item is a parameter.  What is read before a line is
a list with the nearest line first.
-/

namespace ReviewSignal.Outline

variable {α β κ : Type}

/-! ## The latest line of a kind

A line that has come, with nothing after it that would end it. -/

/-- The line is the latest of those that meet a condition on a line and what has come since. -/
def Latest (P : α → List α → Prop) (before : List α) (line : α) (since : List α) : Prop :=
  (∃ earlier, before = earlier ++ line :: since) ∧ P line since ∧
    ∀ earlier later more, since = earlier ++ later :: more → ¬ P later more

section Latest

variable {P : α → List α → Prop} {before since since' : List α} {line line' : α}

theorem latest_unique (h : Latest P before line since) (h' : Latest P before line' since') :
    line = line' ∧ since = since' := by
  obtain ⟨⟨earlier, rfl⟩, hP, hlatest⟩ := h
  obtain ⟨⟨earlier', hbefore⟩, hP', hlatest'⟩ := h'
  rcases List.append_eq_append_iff.mp hbefore with ⟨m, -, hm⟩ | ⟨m, -, hm⟩
  · cases m with
    | nil => exact List.cons_eq_cons.mp hm
    | cons y m =>
        obtain ⟨-, hsince⟩ := List.cons_eq_cons.mp hm
        exact absurd hP' (hlatest m line' since' hsince)
  · cases m with
    | nil => exact (List.cons_eq_cons.mp hm).imp Eq.symm Eq.symm
    | cons y m =>
        obtain ⟨-, hsince⟩ := List.cons_eq_cons.mp hm
        exact absurd hP (hlatest' m line since hsince)

/-- Where there is a line of the kind, there is a latest one. -/
theorem exists_latest {earlier since : List α} {line : α} (hP : P line since)
    (hbefore : before = earlier ++ line :: since) : ∃ line since, Latest P before line since := by
  by_cases h : ∃ e later more, since = e ++ later :: more ∧ P later more
  · obtain ⟨e, later, more, hsince, hlater⟩ := h
    have hless : more.length < since.length := by
      simp [hsince]
      omega
    have hbefore' : before = (earlier ++ line :: e) ++ later :: more := by
      simp [hbefore, hsince]
    exact exists_latest hlater hbefore'
  · exact ⟨line, since, ⟨earlier, hbefore⟩, hP, fun e later more hsince hlater =>
      h ⟨e, later, more, hsince, hlater⟩⟩
termination_by since.length

end Latest

/-! ## Sections

What is open, what is last, and when the two are the same. -/

section Sections

variable (level : α → Option ℕ) (number : α → Option β)

/-- No heading of the level of the line or of a higher one has come since. -/
def Open (line : α) (since : List α) : Prop :=
  ∃ l, level line = some l ∧ ∀ x ∈ since, ∀ l', level x = some l' → l < l'

/-- The number that came last. -/
def Last (before : List α) (s : β) : Prop :=
  ∃ line since, Latest (fun line _ => (number line).isSome) before line since ∧ number line = some s

/-- The number that came last, of a section that has ended. -/
def Stale (before : List α) (s : β) : Prop :=
  ∃ line since, Latest (fun line _ => (number line).isSome) before line since ∧ number line = some s ∧
    ¬ Open level line since

/-- The innermost numbered section that has not ended. -/
def Innermost (before : List α) (s : β) : Prop :=
  ∃ line since, Latest (fun line since => (number line).isSome ∧ Open level line since) before line since ∧
    number line = some s

/-- What is listed: the numbers, and the items under the number they are related to. -/
def Listed (item : α → Option κ) (under : β → κ → β) (R : List α → β → Prop) (lines : List α) (n : β) :
    Prop :=
  (∃ line ∈ lines, number line = some n) ∨
    ∃ before line after s k, lines = before ++ line :: after ∧ item line = some k ∧ R before s ∧ n = under s k

/-- The items that stand where the number that came last is stale: both the section they are then listed under
and the one they stand in list the like of them otherwise. -/
def Harmless (item : α → Option κ) (under : β → κ → β) (lines : List α) : Prop :=
  ∀ before line after s k, lines = before ++ line :: after → item line = some k →
    Stale level number before s →
      Listed number item under (Innermost level number) lines (under s k) ∧
        ∀ t, Innermost level number before t → Listed number item under (Last number) lines (under t k)

variable {level number} {before lines : List α} {s t : β}

theorem last_iff : Last number before s ↔ before.reverse.findSome? number = some s := by
  rw [List.findSome?_eq_some_iff]
  constructor
  · rintro ⟨line, since, ⟨⟨earlier, rfl⟩, -, hlatest⟩, hs⟩
    refine ⟨since.reverse, line, earlier.reverse, by simp, hs, fun x hx => ?_⟩
    obtain ⟨e, more, hsince⟩ := List.append_of_mem (List.mem_reverse.mp hx)
    simpa using hlatest e x more hsince
  · rintro ⟨later, line, earlier, hreverse, hs, hnone⟩
    have hbefore : before = earlier.reverse ++ line :: later.reverse := by
      rw [← List.reverse_reverse before, hreverse]
      simp
    refine ⟨line, later.reverse, ⟨⟨_, hbefore⟩, by simp [hs], ?_⟩, hs⟩
    intro e x more hlater hx
    have hmem : x ∈ later := List.mem_reverse.mp (hlater ▸ by simp)
    simp [hnone x hmem] at hx

theorem innermost_unique (h : Innermost level number before s) (h' : Innermost level number before t) :
    s = t := by
  obtain ⟨line, since, hlatest, hs⟩ := h
  obtain ⟨line', since', hlatest', ht⟩ := h'
  obtain ⟨rfl, -⟩ := latest_unique hlatest hlatest'
  exact Option.some.inj (hs.symm.trans ht)

/-- **The number that came last is the innermost section's**, unless it is stale. -/
theorem stale_or_innermost (h : Last number before s) :
    Stale level number before s ∨ Innermost level number before s := by
  obtain ⟨line, since, hlatest, hs⟩ := h
  by_cases hopen : Open level line since
  · refine .inr ⟨line, since, ⟨hlatest.1, ⟨hlatest.2.1, hopen⟩, ?_⟩, hs⟩
    intro earlier later more hsince hlater
    exact hlatest.2.2 earlier later more hsince hlater.1
  · exact .inl ⟨line, since, hlatest, hs, hopen⟩

theorem Stale.last (h : Stale level number before s) : Last number before s := by
  obtain ⟨line, since, hlatest, hs, -⟩ := h
  exact ⟨line, since, hlatest, hs⟩

/-- Inside a section, a number has come. -/
theorem Innermost.exists_last (h : Innermost level number before s) : ∃ t, Last number before t := by
  obtain ⟨line, since, ⟨⟨earlier, hbefore⟩, ⟨hnumber, -⟩, -⟩, -⟩ := h
  obtain ⟨line', since', hlatest⟩ :=
    @exists_latest _ (fun line _ => (number line).isSome) _ _ _ _ hnumber hbefore
  obtain ⟨t, ht⟩ := Option.isSome_iff_exists.mp hlatest.2.1
  exact ⟨t, line', since', hlatest, ht⟩

/-- **Listed under the number that came last is what is listed under the innermost section** if and only if
the items under a stale number are harmless. -/
theorem listed_iff {item : α → Option κ} {under : β → κ → β} :
    (∀ n, Listed number item under (Last number) lines n ↔
        Listed number item under (Innermost level number) lines n)
      ↔ Harmless level number item under lines := by
  constructor
  · intro h before line after s k hlines hitem hstale
    refine ⟨(h _).mp (.inr ⟨before, line, after, s, k, hlines, hitem, hstale.last, rfl⟩), ?_⟩
    intro t ht
    exact (h _).mpr (.inr ⟨before, line, after, t, k, hlines, hitem, ht, rfl⟩)
  · intro h n
    constructor
    · rintro (hheading | ⟨before, line, after, s, k, hlines, hitem, hlast, rfl⟩)
      · exact .inl hheading
      · rcases stale_or_innermost hlast with hstale | hinnermost
        · exact (h before line after s k hlines hitem hstale).1
        · exact .inr ⟨before, line, after, s, k, hlines, hitem, hinnermost, rfl⟩
    · rintro (hheading | ⟨before, line, after, t, k, hlines, hitem, hinnermost, rfl⟩)
      · exact .inl hheading
      · obtain ⟨s, hlast⟩ := hinnermost.exists_last
        rcases stale_or_innermost hlast with hstale | hinnermost'
        · exact (h before line after s k hlines hitem hstale).2 t hinnermost
        · rw [innermost_unique hinnermost hinnermost']
          exact .inr ⟨before, line, after, s, k, hlines, hitem, hlast, rfl⟩

end Sections

end ReviewSignal.Outline
