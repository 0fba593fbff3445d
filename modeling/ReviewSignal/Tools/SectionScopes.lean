import ReviewSignal.Foundations.Outline
import ReviewSignal.Tools.CheckCitations
import Mathlib.Data.List.Induction

/-!
# The sections a Markdown document has

`HasSection` is what a reader means: the numbered headings, and the list items of a section, which ends at
the next heading of its level or a higher one.  `section_titles` keeps the number of the last numbered
heading, also where an unnumbered one has ended its section (`mem_sectionTitles`), and `resolve` looks up what
it has filed.

**`gateExact_iff`** says for which documents the sections accepted are those the document has: the list items
that stand where the last numbered section has ended are harmless, because what they are filed under is a
section anyway.  `gate_accepts_stale_item` is a document for which they are not.

Whatever has been filed, every citation lands in exactly one list (`resolve_lists`), and the lists keep the
order of the citations.
-/

namespace ReviewSignal.CheckCitations

open Regex

variable {alphabet : Alphabet} {line number : List Char}

/-! ## Lines

Headings and items as lines, with the level that decides which section a heading ends. -/

/-- The number of a numbered heading. -/
def headingNumber (alphabet : Alphabet) (line : List Char) : Option (List Char) :=
  ((heading alphabet).matchAt line).map (·.group 1)

/-- The number of a list item that is not indented. -/
def itemNumber (alphabet : Alphabet) (line : List Char) : Option (List Char) :=
  ((listItem alphabet).matchAt line).map (·.group 1)

/-- The level of a heading, with a number or not: one to six signs, and white space or nothing behind them. -/
def headingLevel (alphabet : Alphabet) (line : List Char) : Option ℕ :=
  let level := (line.takeWhile (· = '#')).length
  if 1 ≤ level ∧ level ≤ 6 ∧ (line.drop level).head?.all alphabet.isSpace then some level else none

theorem Alphabet.isSpace_hash : alphabet.isSpace '#' = false := by
  rw [alphabet.isSpace_ascii _ (by decide)]
  rfl

theorem Alphabet.isDigit_hash : alphabet.isDigit '#' = false := by
  rw [isDigit, alphabet.isSome_decimal_ascii _ (by decide)]
  rfl

theorem headingLevel_append {hashes rest : List Char} {c : Char} (hhashes : ∀ c ∈ hashes, c = '#')
    (hlength : 1 ≤ hashes.length ∧ hashes.length ≤ 6) (hc : alphabet.isSpace c = true) :
    headingLevel alphabet (hashes ++ c :: rest) = some hashes.length := by
  have hne : c ≠ '#' := by
    rintro rfl
    rw [Alphabet.isSpace_hash] at hc
    exact Bool.false_ne_true hc
  have htake : (hashes ++ c :: rest).takeWhile (· = '#') = hashes := by
    rw [List.takeWhile_append_of_pos (by simpa using hhashes),
      List.takeWhile_cons_of_neg (by simpa using hne), List.append_nil]
  simp [headingLevel, htake, hlength, hc]

/-- `#{1,6}` -/
theorem matches_hashes {a b : Cursor} : (seq (lit '#') (upTo 5 (lit '#'))).Matches a b
    ↔ Reads (fun word => (∀ c ∈ word, c = '#') ∧ 1 ≤ word.length ∧ word.length ≤ 6) a b := by
  refine (matches_seq (fun _ _ => matches_lit) fun _ _ => matches_upTo_one).trans (reads_congr fun word => ?_)
  constructor
  · rintro ⟨_, more, rfl, ⟨hlength, hmore⟩, rfl⟩
    simp at hmore ⊢
    exact ⟨hmore, by omega⟩
  · rintro ⟨hword, hpos, hlength⟩
    cases word with
    | nil => simp at hpos
    | cons c more =>
        simp at hword hlength
        exact ⟨['#'], more, rfl, ⟨by omega, by simpa using hword.2⟩, by simp [hword.1]⟩

/-- **A numbered heading is a heading**, and its number is one. -/
theorem headingNumber_spec (h : headingNumber alphabet line = some number) :
    (headingLevel alphabet line).isSome ∧ IsNumber alphabet number := by
  obtain ⟨found, hfound, rfl⟩ := Option.map_eq_some_iff.mp h
  obtain ⟨hbefore, rfl, hof⟩ := matchFrom_spec hfound
  obtain ⟨_, ⟨-, rfl⟩, c, hhashes, d, hspaces, e, hstars, f, hnumber, hrest⟩ := hof
  obtain ⟨hashes, rest, ⟨hall, hlength⟩, hline, rfl⟩ := matches_hashes.mp hhashes
  obtain ⟨blank, rest', ⟨hne, hblank⟩, hrest', rfl⟩ := matches_plus_one.mp hspaces
  obtain ⟨word, rest'', hword, -, rfl⟩ := (matches_group fun b => matches_number).mp hnumber
  constructor
  · simp only at hline hrest'
    obtain ⟨c, blank, rfl⟩ := List.exists_cons_of_ne_nil hne
    rw [hline, hrest', List.cons_append, headingLevel_append hall hlength (hblank c List.mem_cons_self)]
    rfl
  · -- the only group behind the number is the second one
    have hlookup := hrest.lookup_eq (show 1 ∉ [2] by decide)
    simp only [List.lookup_cons, beq_self_eq_true] at hlookup
    rw [Found.group, hlookup]
    exact hword

/-- A list item is not a heading. -/
theorem headingLevel_of_itemNumber (h : itemNumber alphabet line = some number) :
    headingLevel alphabet line = none := by
  obtain ⟨found, hfound, rfl⟩ := Option.map_eq_some_iff.mp h
  obtain ⟨hbefore, rfl, hof⟩ := matchFrom_spec hfound
  obtain ⟨_, ⟨-, rfl⟩, c, hnumber, hrest⟩ := hof
  obtain ⟨word, rest, ⟨hne, hdigits⟩, hline, -⟩ := (matches_group fun b => matches_digits).mp hnumber
  obtain ⟨c, word, rfl⟩ := List.exists_cons_of_ne_nil hne
  have hc : c ≠ '#' := by
    rintro rfl
    have hdigit := hdigits '#' List.mem_cons_self
    rw [Alphabet.isDigit_hash] at hdigit
    exact Bool.false_ne_true hdigit
  simp only at hline
  simp [hline, headingLevel, hc]

theorem headingNumber_of_itemNumber (h : itemNumber alphabet line = some number) :
    headingNumber alphabet line = none := by
  rw [Option.eq_none_iff_forall_ne_some]
  intro n hn
  have hlevel := (headingNumber_spec hn).1
  rw [headingLevel_of_itemNumber h] at hlevel
  exact absurd hlevel Bool.false_ne_true

/-! ## Reading a document

What the pass has filed after some lines, and under which number. -/

/-- What a line is filed under, behind a heading of the number. -/
def lineKey (alphabet : Alphabet) (sectionNumber line : List Char) : Option (List Char) :=
  (headingNumber alphabet line).or
    (if sectionNumber = [] then none else (itemNumber alphabet line).map (sectionNumber ++ '.' :: ·))

theorem sectionNumber_readLine {reading : Reading} : (readLine alphabet reading line).sectionNumber
    = (headingNumber alphabet line).getD reading.sectionNumber := by
  rw [readLine, headingNumber]
  cases (heading alphabet).matchAt line with
  | some found => rfl
  | none =>
      cases (listItem alphabet).matchAt line with
      | none => rfl
      | some item => by_cases hnil : reading.sectionNumber = [] <;> simp [hnil]

/-- One line files one key at most. -/
theorem keys_readLine {reading : Reading} {n : List Char} :
    n ∈ (readLine alphabet reading line).titles.map (·.1)
      ↔ n ∈ reading.titles.map (·.1) ∨ lineKey alphabet reading.sectionNumber line = some n := by
  rw [readLine, lineKey, headingNumber, itemNumber]
  cases (heading alphabet).matchAt line with
  | some found => simp [Python.mem_keys_setItem, eq_comm]
  | none =>
      cases (listItem alphabet).matchAt line with
      | none => simp
      | some item =>
          by_cases hnil : reading.sectionNumber = []
          · simp [hnil]
          · simp [hnil, Python.mem_keys_setItem, eq_comm]

/-- The open heading is the last one that has a number. -/
theorem sectionNumber_foldl {lines : List (List Char)} :
    (lines.foldl (readLine alphabet) ⟨[], []⟩).sectionNumber
      = (lines.reverse.findSome? (headingNumber alphabet)).getD [] := by
  induction lines using List.reverseRecOn with
  | nil => rfl
  | append_singleton lines line ih =>
      rw [List.foldl_append, List.foldl_cons, List.foldl_nil, sectionNumber_readLine, ih, List.reverse_append]
      cases h : headingNumber alphabet line <;> simp [h]

theorem keys_foldl {lines : List (List Char)} {n : List Char} :
    n ∈ (lines.foldl (readLine alphabet) ⟨[], []⟩).titles.map (·.1) ↔ ∃ before line after,
      lines = before ++ line :: after ∧
        lineKey alphabet (before.foldl (readLine alphabet) ⟨[], []⟩).sectionNumber line = some n := by
  induction lines using List.reverseRecOn with
  | nil => simp
  | append_singleton lines line ih =>
      rw [List.foldl_append, List.foldl_cons, List.foldl_nil, keys_readLine, ih]
      constructor
      · rintro (⟨before, line', after, rfl, hkey⟩ | hkey)
        · exact ⟨before, line', after ++ [line], by simp, hkey⟩
        · exact ⟨lines, line, [], rfl, hkey⟩
      · rintro ⟨before, line', after, hlines, hkey⟩
        rcases List.eq_nil_or_concat after with rfl | ⟨after, last, rfl⟩
        · obtain ⟨rfl, hline⟩ := List.append_inj' hlines rfl
          obtain rfl := List.singleton_injective hline
          exact .inr hkey
        · rw [List.concat_eq_append, ← List.cons_append, ← List.append_assoc] at hlines
          obtain ⟨rfl, -⟩ := List.append_inj' hlines rfl
          exact .inl ⟨before, line', after, rfl, hkey⟩

/-- Where an item is listed: behind the number of its section. -/
def under (sectionNumber item : List Char) : List Char := sectionNumber ++ '.' :: item

/-- **What the code files**: the numbered headings, and the items under the number that came last. -/
theorem mem_sectionTitles {markdown n : List Char} : n ∈ (sectionTitles alphabet markdown).map (·.1)
    ↔ Outline.Listed (headingNumber alphabet) (itemNumber alphabet) under
      (Outline.Last (headingNumber alphabet)) (splitlines markdown) n := by
  simp only [sectionTitles, keys_foldl, sectionNumber_foldl]
  constructor
  · rintro ⟨before, line, after, hlines, hkey⟩
    rw [lineKey, Option.or_eq_some_iff] at hkey
    rcases hkey with hheading | ⟨-, hitem⟩
    · exact .inl ⟨line, by simp [hlines], hheading⟩
    · rw [Option.ite_none_left_eq_some, Option.map_eq_some_iff] at hitem
      obtain ⟨hne, k, hk, rfl⟩ := hitem
      cases hlast : before.reverse.findSome? (headingNumber alphabet) with
      | none => simp [hlast] at hne
      | some s => exact .inr ⟨before, line, after, s, k, hlines, hk, Outline.last_iff.mpr hlast, rfl⟩
  · rintro (⟨line, hline, hheading⟩ | ⟨before, line, after, s, k, hlines, hk, hlast, rfl⟩)
    · obtain ⟨before, after, hlines⟩ := List.append_of_mem hline
      exact ⟨before, line, after, hlines, by rw [lineKey, hheading, Option.some_or]⟩
    · have hs := Outline.last_iff.mp hlast
      obtain ⟨heading, -, hheading⟩ := List.exists_of_findSome?_eq_some hs
      have hne := (headingNumber_spec hheading).2.ne_nil
      refine ⟨before, line, after, hlines, ?_⟩
      rw [lineKey, headingNumber_of_itemNumber hk, Option.none_or, hs, Option.getD_some, if_neg hne, hk]
      rfl

/-- **The sections a document has**: its numbered headings, and the list items of its sections. -/
def HasSection (alphabet : Alphabet) (markdown n : List Char) : Prop :=
  Outline.Listed (headingNumber alphabet) (itemNumber alphabet) under
    (Outline.Innermost (headingLevel alphabet) (headingNumber alphabet)) (splitlines markdown) n

/-! ## The report

`resolve` files one citation after the other, and never looks back. -/

section Resolve

variable {documents : Documents} {citations : List Citation} {citation : Citation}

/-- The report with one more citation in one of its lists. -/
def Report.add (report : Report) (bucket : Bucket) (citation : Citation) : Report :=
  match bucket with
  | .ok => { report with ok := report.ok ++ [citation] }
  | .broken => { report with broken := report.broken ++ [citation] }
  | .exempt => { report with exempt := report.exempt ++ [citation] }
  | .skipped => { report with skipped := report.skipped ++ [citation] }
  | .unattributed => { report with unattributed := report.unattributed ++ [citation] }

theorem fileCitation_eq {report : Report} :
    fileCitation documents report citation = report.add (bucketOf documents citation) citation := by
  simp only [fileCitation, bucketOf]
  cases citation.document with
  | none => rfl
  | some document =>
      simp only
      cases Python.get documents document with
      | none => by_cases h : document ∈ exemptDocuments <;> simp only [h, Report.add, if_true, if_false]
      | some titles =>
          simp only
          by_cases h : citation.sectionNumber ∉ titles.map (·.1)
          · rw [if_pos h, if_pos h, Report.add]
          · rw [if_neg h, if_neg h, Report.add]

/-- **Every list has the citations that belong there**, in order. -/
theorem resolve_eq : resolve citations documents =
    ⟨citations.filter (bucketOf documents · = .ok), citations.filter (bucketOf documents · = .broken),
      citations.filter (bucketOf documents · = .exempt), citations.filter (bucketOf documents · = .skipped),
      citations.filter (bucketOf documents · = .unattributed)⟩ := by
  induction citations using List.reverseRecOn with
  | nil => rfl
  | append_singleton citations citation ih =>
      rw [resolve] at ih ⊢
      rw [List.foldl_append, ih, List.foldl_cons, List.foldl_nil, fileCitation_eq]
      simp only [List.filter_append, List.filter_singleton]
      cases bucketOf documents citation <;> simp [Report.add]

/-- The lists together. -/
def Report.lists (report : Report) : List (List Citation) :=
  [report.ok, report.broken, report.exempt, report.skipped, report.unattributed]

theorem lists_resolve : (resolve citations documents).lists = [Bucket.ok, .broken, .exempt, .skipped,
    .unattributed].map fun bucket => citations.filter (bucketOf documents · = bucket) := by
  rw [resolve_eq]
  rfl

/-- **Every citation is in exactly one list.** -/
theorem resolve_lists : (resolve citations documents).lists.flatten.Perm citations ∧
    (resolve citations documents).lists.Pairwise List.Disjoint ∧
    (resolve citations documents).total = citations.length := by
  have hcount : ∀ citation bucket, (citations.filter (bucketOf documents · = bucket)).count citation
      = if bucketOf documents citation = bucket then citations.count citation else 0 := by
    intro citation bucket
    split_ifs with h
    · exact List.count_filter (by simp [h])
    · exact List.count_eq_zero.mpr fun hmem => h (by simpa using (List.mem_filter.mp hmem).2)
  have hperm : (resolve citations documents).lists.flatten.Perm citations := by
    rw [lists_resolve, List.perm_iff_count]
    intro citation
    simp only [List.map_cons, List.map_nil, List.flatten_cons, List.flatten_nil, List.count_append,
      List.count_nil, hcount]
    cases bucketOf documents citation <;> simp
  refine ⟨hperm, ?_, ?_⟩
  · rw [lists_resolve, List.pairwise_map]
    have hbuckets : List.Pairwise (· ≠ ·) [Bucket.ok, .broken, .exempt, .skipped, .unattributed] := by decide
    refine hbuckets.imp ?_
    intro bucket bucket' hne citation hmem hmem'
    simp only [List.mem_filter, decide_eq_true_eq] at hmem hmem'
    exact hne (hmem.2.symm.trans hmem'.2)
  · rw [← hperm.length_eq]
    simp [Report.total, Report.lists]
    omega

/-- **What becomes of a citation of a document that is there.** -/
theorem resolve_present {name : List Char} {titles : Titles} (hdocument : citation.document = some name)
    (htitles : Python.get documents name = some titles) (h : citation ∈ citations) :
    (citation ∈ (resolve citations documents).ok ↔ citation.sectionNumber ∈ titles.map (·.1)) ∧
      (citation ∈ (resolve citations documents).broken ↔ citation.sectionNumber ∉ titles.map (·.1)) := by
  have hbucket : bucketOf documents citation
      = if citation.sectionNumber ∉ titles.map (·.1) then .broken else .ok := by
    simp only [bucketOf, hdocument, htitles]
  rw [resolve_eq]
  by_cases hmem : citation.sectionNumber ∈ titles.map (·.1)
  · simp [hbucket, h, hmem]
  · simp [hbucket, h, hmem]

end Resolve

/-! ## The gate

A citation is accepted exactly when its section is, under the condition on the items. -/

/-- The gate accepts the sections the document has and no others. -/
structure GateExact (alphabet : Alphabet) (markdown : List Char) : Prop where
  keys : ∀ n, n ∈ (sectionTitles alphabet markdown).map (·.1) ↔ HasSection alphabet markdown n
  present : ∀ (documents : Documents) (name : List Char),
    Python.get documents name = some (sectionTitles alphabet markdown) →
      ∀ citations : List Citation, ∀ citation ∈ citations, citation.document = some name →
        (citation ∈ (resolve citations documents).ok ↔ HasSection alphabet markdown citation.sectionNumber) ∧
        (citation ∈ (resolve citations documents).broken
          ↔ ¬ HasSection alphabet markdown citation.sectionNumber)
  lists : ∀ (documents : Documents) (citations : List Citation),
    (resolve citations documents).lists.flatten.Perm citations ∧
      (resolve citations documents).lists.Pairwise List.Disjoint ∧
      (resolve citations documents).total = citations.length

/-- **The gate is exact** if and only if the list items that stand where the last numbered section has ended
are harmless. -/
theorem gateExact_iff {markdown : List Char} : GateExact alphabet markdown
    ↔ Outline.Harmless (headingLevel alphabet) (headingNumber alphabet) (itemNumber alphabet) under
      (splitlines markdown) := by
  rw [← Outline.listed_iff]
  constructor
  · intro h n
    rw [← mem_sectionTitles]
    exact h.keys n
  · intro h
    have hkeys : ∀ n, n ∈ (sectionTitles alphabet markdown).map (·.1) ↔ HasSection alphabet markdown n :=
      fun n => mem_sectionTitles.trans (h n)
    refine ⟨hkeys, ?_, fun _ _ => resolve_lists⟩
    intro documents name htitles citations citation hmem hdocument
    rw [← hkeys]
    exact resolve_present hdocument htitles hmem

/-- An item under an unnumbered heading is filed under the section before. -/
theorem gate_accepts_stale_item : ¬ GateExact .ascii "## 1. A\n## Notes\n1. item".toList := by
  intro h
  have hlines : splitlines "## 1. A\n## Notes\n1. item".toList
      = ["## 1. A".toList, "## Notes".toList, "1. item".toList] := by decide
  have hkey : "1.1".toList ∈ (sectionTitles .ascii "## 1. A\n## Notes\n1. item".toList).map (·.1) := by decide
  have hnone : ∀ s, ¬ Outline.Innermost (headingLevel .ascii) (headingNumber .ascii)
      ["## 1. A".toList, "## Notes".toList] s := by
    rintro s ⟨line, since, ⟨⟨earlier, hbefore⟩, ⟨hnumber, l, hl, hopen⟩, -⟩, -⟩
    rcases earlier with _ | ⟨a, _ | ⟨b, earlier⟩⟩
    · obtain ⟨rfl, rfl⟩ := List.cons_eq_cons.mp hbefore
      have hless := hopen "## Notes".toList List.mem_cons_self 2 (by decide)
      have hlevel : headingLevel .ascii "## 1. A".toList = some 2 := by decide
      obtain rfl : 2 = l := Option.some.inj (hlevel.symm.trans hl)
      omega
    · obtain ⟨-, hbefore⟩ := List.cons_eq_cons.mp hbefore
      obtain ⟨rfl, -⟩ := List.cons_eq_cons.mp hbefore
      exact absurd hnumber (by decide)
    · simp at hbefore
  have hheadings : ∀ line ∈ ["## 1. A".toList, "## Notes".toList, "1. item".toList],
      headingNumber .ascii line ≠ some "1.1".toList := by decide
  rcases (h.keys _).mp hkey with ⟨line, hline, hheading⟩ | ⟨before, line, after, s, k, hsplit, hitem, hin, -⟩
  · exact hheadings line (hlines ▸ hline) hheading
  · rw [hlines] at hsplit
    have hsome : (itemNumber .ascii line).isSome := by simp [hitem]
    rcases before with _ | ⟨a, _ | ⟨b, _ | ⟨c, before⟩⟩⟩
    · obtain ⟨rfl, -⟩ := List.cons_eq_cons.mp hsplit
      exact absurd hsome (by decide)
    · obtain ⟨-, htail⟩ := List.cons_eq_cons.mp hsplit
      obtain ⟨rfl, -⟩ := List.cons_eq_cons.mp htail
      exact absurd hsome (by decide)
    · obtain ⟨rfl, htail⟩ := List.cons_eq_cons.mp hsplit
      obtain ⟨rfl, -⟩ := List.cons_eq_cons.mp htail
      exact hnone s hin
    · simp at hsplit

end ReviewSignal.CheckCitations
