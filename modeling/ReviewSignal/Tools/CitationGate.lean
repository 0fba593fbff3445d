import ReviewSignal.Tools.CitationAttribution
import ReviewSignal.Tools.SectionScopes
import Mathlib.Data.Char
import Mathlib.Data.List.Lex
import Mathlib.Data.List.Sort

/-!
# The citation gate

`check` walks the source and resolves every citation against `docs/`; `main` fails when one of them is broken
or names no document.

**The walk:**
* `Checkout`, `SourceGlob.Reaches` — the files, and which of them a glob yields
* `Scanned` — the files a glob reaches that are not excluded
* `citations_perm` — every mark of every scanned file is one citation, and nothing else is.  No two globs
  reach the same file, which is why a mark is not counted twice

**The gate:**
* `Resolves` — a mark is told its document, and the document, if it is in `docs/`, lists the section
* `main_eq_zero_iff` — the gate passes if and only if every mark of every scanned file resolves, and what the
  report counts are these marks

What a mark is, and which document it is told, is the business of `CitationAttribution`; which sections a
document lists, of `SectionScopes`.  A checkout here holds files that can be read: directories whose names end
in `.py` or `.md` and files that are not UTF-8 are left out, and so are the printing of the report and the
`--report` flag, which do not touch the exit code.
-/

namespace ReviewSignal.CheckCitations

/-- A file: the parts of its path below the root, and its text. -/
structure SourceFile where
  parts : List (List Char)
  text : List Char
  deriving DecidableEq

/-- The files of a checkout, and the parts of the path of its root.  No directory is named as a glob wants a
file to be, and what a glob yields is UTF-8: `read_text` raises on anything else, and `main` ends with that
exception. -/
structure Checkout where
  root : List (List Char)
  files : List SourceFile
  paths_nodup : (files.map (·.parts)).Nodup

/-- `directory/**/*suffix` -/
structure SourceGlob where
  directory : List (List Char)
  suffix : List Char
  deriving DecidableEq

/-- `SOURCE_GLOBS` -/
def sourceGlobs : List SourceGlob :=
  [⟨["apps".toList, "api".toList], ".py".toList⟩, ⟨["workers".toList], ".py".toList⟩,
    ⟨["tests".toList], ".py".toList⟩, ⟨["migrations".toList], ".py".toList⟩,
    ⟨["tools".toList], ".py".toList⟩, ⟨["docs".toList], ".md".toList⟩]

/-- The glob reaches the file: its directory holds it at some depth, and its name ends as it says. -/
def SourceGlob.Reaches (glob : SourceGlob) (file : SourceFile) : Prop :=
  glob.directory <+: file.parts ∧ glob.directory.length < file.parts.length ∧
    ∃ name ∈ file.parts.getLast?, glob.suffix <:+ name

instance (glob : SourceGlob) (file : SourceFile) : Decidable (glob.Reaches file) :=
  inferInstanceAs (Decidable (_ ∧ _ ∧ ∃ name ∈ file.parts.getLast?, glob.suffix <:+ name))

/-- `path.relative_to(root).as_posix()` -/
def SourceFile.relative (file : SourceFile) : List Char := ['/'].intercalate file.parts

/-- `EXCLUDED` -/
def excluded : List (List Char) := ["tests/tools/test_check_citations.py".toList]

/-- `"__pycache__" in path.parts or relative in EXCLUDED` -/
def Skips (checkout : Checkout) (file : SourceFile) : Prop :=
  "__pycache__".toList ∈ checkout.root ++ file.parts ∨ file.relative ∈ excluded

instance (checkout : Checkout) : DecidablePred (Skips checkout) :=
  fun _ => inferInstanceAs (Decidable (_ ∨ _))

/-- The file is the document of this name: `(root / "docs").glob("*.md")`. -/
def IsDocument (file : SourceFile) (name : List Char) : Prop :=
  file.parts = ["docs".toList, name] ∧ ".md".toList <:+ name

instance (file : SourceFile) (name : List Char) : Decidable (IsDocument file name) :=
  inferInstanceAs (Decidable (_ ∧ _))

/-- `sorted(paths)` -/
def sorted (files : List SourceFile) : List SourceFile := files.insertionSort fun a b => a.parts ≤ b.parts

/-- The name of a document and its sections. -/
def documentEntry (alphabet : Alphabet) (file : SourceFile) : List Char × Titles :=
  (file.parts.getLastD [], sectionTitles alphabet file.text)

/-- `documents` -/
def documentsOf (alphabet : Alphabet) (checkout : Checkout) : Documents :=
  (sorted (checkout.files.filter fun file => IsDocument file (file.parts.getLastD []))).map
    (documentEntry alphabet)

/-- `path.name if path.name in documents else None` -/
def selfDocument (documents : Documents) (file : SourceFile) : Option (List Char) :=
  if (documents.map (·.1)).contains (file.parts.getLastD []) then some (file.parts.getLastD []) else none

/-- The citations of one file. -/
def citationsOf (alphabet : Alphabet) (documents : Documents) (file : SourceFile) : List Citation :=
  (parseCitations alphabet file.text (selfDocument documents file)).map fun citation =>
    { citation with path := file.relative }

/-- The citations of all the source. -/
def citations (alphabet : Alphabet) (checkout : Checkout) : List Citation :=
  sourceGlobs.flatMap fun glob => (sorted (checkout.files.filter glob.Reaches)).flatMap fun file =>
    if Skips checkout file then [] else citationsOf alphabet (documentsOf alphabet checkout) file

/-- `check` -/
def check (alphabet : Alphabet) (checkout : Checkout) : Report × Documents :=
  (resolve (citations alphabet checkout) (documentsOf alphabet checkout), documentsOf alphabet checkout)

/-- `failed` -/
def Report.failed (report : Report) : Bool := ¬ report.broken.isEmpty ∨ ¬ report.unattributed.isEmpty

/-- The exit code of `main`. -/
def main (alphabet : Alphabet) (checkout : Checkout) : ℕ :=
  if (check alphabet checkout).1.failed then 1 else 0

/-- A file whose citations are checked. -/
def Scanned (checkout : Checkout) (file : SourceFile) : Prop :=
  (∃ glob ∈ sourceGlobs, glob.Reaches file) ∧ ¬ Skips checkout file

instance (checkout : Checkout) : DecidablePred (Scanned checkout) :=
  fun _ => inferInstanceAs (Decidable (_ ∧ _))

/-- The document lists the section: as a numbered heading, or as an item under the number that came last. -/
def ListsSection (alphabet : Alphabet) (markdown n : List Char) : Prop :=
  Outline.Listed (headingNumber alphabet) (itemNumber alphabet) under
    (Outline.Last (headingNumber alphabet)) (splitlines markdown) n

/-- The mark is told a document, and the document of that name, if there is one, lists its section. -/
def Resolves (alphabet : Alphabet) (checkout : Checkout) (file : SourceFile) (mark : Mark) : Prop :=
  ∃ document, documentFor alphabet (selfDocument (documentsOf alphabet checkout) file) mark.previous
      mark.found.before = some document ∧
    ∀ target ∈ checkout.files, IsDocument target document →
      ListsSection alphabet target.text (mark.found.group 1)

variable {alphabet : Alphabet} {checkout : Checkout} {file : SourceFile}

/-! ## What is scanned

The globs and the files they reach, each file by one of them. -/

section Filters

variable {α β π : Type} {l : List α}

theorem perm_filter_append {p q r : α → Bool} (hor : ∀ x, r x = (p x || q x)) (hnot : ∀ x, ¬ (p x ∧ q x)) :
    (l.filter p ++ l.filter q).Perm (l.filter r) := by
  induction l with
  | nil => exact .nil
  | cons x l ih =>
      cases hp : p x with
      | true =>
          have hq : q x = false := Bool.eq_false_iff.mpr fun hq => hnot x ⟨hp, hq⟩
          have hr : r x = true := by rw [hor, hp, Bool.true_or]
          rw [List.filter_cons_of_pos hp, List.filter_cons_of_neg (by simp [hq]), List.filter_cons_of_pos hr]
          exact ih.cons x
      | false =>
          have hr : r x = q x := by rw [hor, hp, Bool.false_or]
          rw [List.filter_cons_of_neg (by simp [hp])]
          cases hq : q x with
          | true =>
              rw [List.filter_cons_of_pos hq, List.filter_cons_of_pos (hr.trans hq)]
              exact List.perm_middle.trans (ih.cons x)
          | false =>
              rw [List.filter_cons_of_neg (by simp [hq]), List.filter_cons_of_neg (by simp [hr, hq])]
              exact ih

/-- What some of several conditions select, of which no two hold at once. -/
theorem perm_flatMap_filter {conditions : List π} {p : π → α → Prop} [∀ a, DecidablePred (p a)]
    (hdisjoint : conditions.Pairwise fun a b => ∀ x, ¬ (p a x ∧ p b x)) :
    (conditions.flatMap fun a => l.filter (p a)).Perm (l.filter fun x => ∃ a ∈ conditions, p a x) := by
  induction conditions with
  | nil =>
      rw [List.flatMap_nil, List.filter_eq_nil_iff.mpr]
      simp
  | cons a conditions ih =>
      obtain ⟨hfirst, hrest⟩ := List.pairwise_cons.mp hdisjoint
      rw [List.flatMap_cons]
      refine ((ih hrest).append_left _).trans (perm_filter_append ?_ ?_)
      · intro x
        simp
      · rintro x ⟨hx, hsome⟩
        obtain ⟨b, hb, hbx⟩ := of_decide_eq_true hsome
        exact hfirst b hb x ⟨of_decide_eq_true hx, hbx⟩

theorem flatMap_unless {p : α → Prop} [DecidablePred p] {f : α → List β} :
    (l.flatMap fun x => if p x then [] else f x) = (l.filter fun x => ¬ p x).flatMap f := by
  induction l with
  | nil => rfl
  | cons x l ih => by_cases hx : p x <;> simp [hx, ih]

end Filters

/-- The first directory tells the glob. -/
theorem prefix_of_reached {glob : SourceGlob} (hglob : glob ∈ sourceGlobs) (h : glob.Reaches file) :
    glob.directory.head? = file.parts.head? := by
  obtain ⟨⟨rest, hparts⟩, -⟩ := h
  rw [← hparts]
  simp only [sourceGlobs, List.mem_cons, List.not_mem_nil, or_false] at hglob
  rcases hglob with rfl | rfl | rfl | rfl | rfl | rfl <;> rfl

theorem globs_disjoint : sourceGlobs.Pairwise fun glob glob' =>
    ∀ file, ¬ (glob.Reaches file ∧ glob'.Reaches file) := by
  have hheads : sourceGlobs.Pairwise fun glob glob' => glob.directory.head? ≠ glob'.directory.head? := by
    decide
  refine (List.Pairwise.and_mem.mp hheads).imp ?_
  rintro glob glob' ⟨hglob, hglob', hne⟩ file ⟨h, h'⟩
  exact hne ((prefix_of_reached hglob h).trans (prefix_of_reached hglob' h').symm)

/-- **Every scanned file is read once.** -/
theorem citations_perm : (citations alphabet checkout).Perm
    ((checkout.files.filter (Scanned checkout)).flatMap
      (citationsOf alphabet (documentsOf alphabet checkout))) := by
  have hreached : (sourceGlobs.flatMap fun glob => sorted (checkout.files.filter glob.Reaches)).Perm
      (checkout.files.filter fun file => ∃ glob ∈ sourceGlobs, glob.Reaches file) := by
    refine List.Perm.trans ?_ (perm_flatMap_filter globs_disjoint)
    exact List.Perm.flatMap_left _ fun glob _ => List.perm_insertionSort _ _
  rw [citations, ← List.flatMap_assoc]
  refine (hreached.flatMap_right _).trans (List.Perm.of_eq ?_)
  rw [flatMap_unless, List.filter_filter]
  refine congrArg (List.flatMap _) (List.filter_congr fun file _ => ?_)
  rw [Bool.eq_iff_iff]
  simp [Scanned, and_comm]

/-- A citation is one of its file's. -/
theorem mem_citations {citation : Citation} : citation ∈ citations alphabet checkout ↔
    ∃ file ∈ checkout.files, Scanned checkout file ∧
      citation ∈ citationsOf alphabet (documentsOf alphabet checkout) file := by
  rw [citations_perm.mem_iff, List.mem_flatMap]
  simp only [List.mem_filter, decide_eq_true_eq, and_assoc]

theorem citationsOf_eq {documents : Documents} : citationsOf alphabet documents file =
    (marks alphabet file.text).map fun mark =>
      { line := mark.number
        sectionNumber := mark.found.group 1
        document := documentFor alphabet (selfDocument documents file) mark.previous mark.found.before
        path := file.relative } := by
  rw [citationsOf, parseCitations_eq, List.map_map]
  rfl

/-! ## What is looked up

A document by its name, in the files of `docs/`. -/

theorem mem_documentsOf {name : List Char} {titles : Titles} :
    (name, titles) ∈ documentsOf alphabet checkout ↔
      ∃ target ∈ checkout.files, IsDocument target name ∧ sectionTitles alphabet target.text = titles := by
  rw [documentsOf, List.mem_map]
  constructor
  · rintro ⟨target, htarget, hentry⟩
    obtain ⟨rfl, rfl⟩ := Prod.mk.inj hentry
    obtain ⟨hmem, hdocument⟩ := List.mem_filter.mp ((List.perm_insertionSort _ _).mem_iff.mp htarget)
    exact ⟨target, hmem, of_decide_eq_true hdocument, rfl⟩
  · rintro ⟨target, hmem, hdocument, rfl⟩
    have hname : target.parts.getLastD [] = name := by
      rw [hdocument.1]
      rfl
    refine ⟨target, (List.perm_insertionSort _ _).mem_iff.mpr (List.mem_filter.mpr ⟨hmem, ?_⟩), ?_⟩
    · rw [decide_eq_true_eq, hname]
      exact hdocument
    · rw [documentEntry, hname]

/-- A file has its path to itself. -/
theorem target_unique {name : List Char} {target target' : SourceFile} (hmem : target ∈ checkout.files)
    (hmem' : target' ∈ checkout.files) (h : IsDocument target name) (h' : IsDocument target' name) :
    target = target' :=
  List.inj_on_of_nodup_map checkout.paths_nodup hmem hmem' (h.1.trans h'.1.symm)

theorem get_documentsOf {name : List Char} {titles : Titles} :
    Python.get (documentsOf alphabet checkout) name = some titles ↔
      ∃ target ∈ checkout.files, IsDocument target name ∧ sectionTitles alphabet target.text = titles := by
  constructor
  · intro h
    obtain ⟨⟨found, titles'⟩, hfind, rfl⟩ := Option.map_eq_some_iff.mp h
    have hname := List.find?_some hfind
    obtain rfl : found = name := of_decide_eq_true hname
    exact mem_documentsOf.mp (List.mem_of_find?_eq_some hfind)
  · rintro ⟨target, hmem, hdocument, rfl⟩
    have hentry : (name, sectionTitles alphabet target.text) ∈ documentsOf alphabet checkout :=
      mem_documentsOf.mpr ⟨target, hmem, hdocument, rfl⟩
    cases hfind : (documentsOf alphabet checkout).find? (·.1 = name) with
    | none =>
        have hnone := List.find?_eq_none.mp hfind _ hentry
        simp at hnone
    | some entry =>
        obtain ⟨found, titles'⟩ := entry
        have hname := List.find?_some hfind
        obtain rfl : found = name := of_decide_eq_true hname
        obtain ⟨target', hmem', hdocument', rfl⟩ := mem_documentsOf.mp (List.mem_of_find?_eq_some hfind)
        rw [Python.get, hfind, target_unique hmem hmem' hdocument hdocument']
        rfl

/-! ## The gate

One citation, then one file, then all of them. -/

/-- Where a citation passes. -/
theorem passes_iff {documents : Documents} {citation : Citation} :
    (bucketOf documents citation ≠ .broken ∧ bucketOf documents citation ≠ .unattributed) ↔
      ∃ document, citation.document = some document ∧ ∀ titles, Python.get documents document = some titles →
        citation.sectionNumber ∈ titles.map (·.1) := by
  rw [bucketOf]
  cases citation.document with
  | none => simp
  | some document =>
      simp only [Option.some.injEq, exists_eq_left']
      cases Python.get documents document with
      | none => by_cases hexempt : document ∈ exemptDocuments <;> simp [hexempt]
      | some titles =>
          simp only [Option.some.injEq, forall_eq']
          by_cases hmem : citation.sectionNumber ∈ titles.map (·.1)
          · rw [if_neg (not_not.mpr hmem)]
            exact iff_of_true ⟨by decide, by decide⟩ hmem
          · rw [if_pos hmem]
            exact iff_of_false (fun h => h.1 rfl) hmem

theorem failed_eq_false {documents : Documents} {found : List Citation} :
    (resolve found documents).failed = false ↔ ∀ citation ∈ found,
      bucketOf documents citation ≠ .broken ∧ bucketOf documents citation ≠ .unattributed := by
  rw [resolve_eq, Report.failed, decide_eq_false_iff_not, not_or, not_not, not_not, List.isEmpty_iff,
    List.isEmpty_iff, List.filter_eq_nil_iff, List.filter_eq_nil_iff]
  simp only [decide_eq_true_eq]
  exact ⟨fun h citation hmem => ⟨h.1 citation hmem, h.2 citation hmem⟩,
    fun h => ⟨fun citation hmem => (h citation hmem).1, fun citation hmem => (h citation hmem).2⟩⟩

/-- A file passes where each of its marks does. -/
theorem file_passes_iff : (∀ citation ∈ citationsOf alphabet (documentsOf alphabet checkout) file,
      bucketOf (documentsOf alphabet checkout) citation ≠ .broken ∧
        bucketOf (documentsOf alphabet checkout) citation ≠ .unattributed) ↔
    ∀ mark ∈ marks alphabet file.text, Resolves alphabet checkout file mark := by
  rw [citationsOf_eq, List.forall_mem_map]
  refine forall₂_congr fun mark _ => ?_
  rw [passes_iff, Resolves]
  refine exists_congr fun document => and_congr_right fun _ => ?_
  simp only [get_documentsOf, ← mem_sectionTitles, ListsSection]
  constructor
  · intro h target hmem hdocument
    exact h _ ⟨target, hmem, hdocument, rfl⟩
  · rintro h titles ⟨target, hmem, hdocument, rfl⟩
    exact h target hmem hdocument

/-- **When the gate passes**: every mark of every scanned file is told its document, and the document, if it
is in `docs/`, lists the section.  What the report counts is these marks, each once. -/
theorem main_eq_zero_iff (alphabet : Alphabet) (checkout : Checkout) :
    (main alphabet checkout = 0 ↔ ∀ file ∈ checkout.files, Scanned checkout file →
        ∀ mark ∈ marks alphabet file.text, Resolves alphabet checkout file mark) ∧
      (check alphabet checkout).1.total
        = ((checkout.files.filter (Scanned checkout)).map fun file =>
            (marks alphabet file.text).length).sum := by
  constructor
  · have hmain : main alphabet checkout = 0 ↔ (check alphabet checkout).1.failed = false := by
      rw [main]
      cases (check alphabet checkout).1.failed <;> simp
    rw [hmain, check, failed_eq_false]
    simp only [mem_citations, ← file_passes_iff]
    constructor
    · intro h file hfile hscanned citation hcitation
      exact h citation ⟨file, hfile, hscanned, hcitation⟩
    · rintro h citation ⟨file, hfile, hscanned, hcitation⟩
      exact h file hfile hscanned citation hcitation
  · rw [check, resolve_lists.2.2, citations_perm.length_eq, List.length_flatMap]
    refine congrArg List.sum (List.map_congr_left fun file _ => ?_)
    rw [citationsOf_eq, List.length_map]

end ReviewSignal.CheckCitations
