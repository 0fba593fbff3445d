import ReviewSignal.Foundations.Builtins
import ReviewSignal.Foundations.Regex

/-!
# The citation linter

`tools/check_citations.py`: the section marks of a text with the document each is attributed to
(`parseCitations`), the sections a Markdown document has (`sectionTitles`), and what becomes of the citations
(`resolve`).  A text is the list of its characters.

The patterns of the source are terms of the regular expressions of `Regex`, under its names, and are searched
for as Python does: the leftmost match, greedy where the pattern is.  What Unicode says of digits, letters and
white space is a parameter (`Alphabet`).

The report has five lists.  Two of them fail the gate, the broken citations and those of no document; which
files are read and what the tool prints and returns is the subject of `CitationGate`.
-/

namespace ReviewSignal.CheckCitations

/-- What Unicode says of the characters the patterns ask about.  ASCII is as it is everywhere, and the section
sign is not a digit. -/
structure Alphabet extends Python.Unicode where
  isAlnum : Char → Bool
  isSpace_ascii : ∀ c, c.toNat < 128 → isSpace c = decide (c.toNat ∈ [9, 10, 11, 12, 13, 28, 29, 30, 31, 32])
  isSome_decimal_ascii : ∀ c, c.toNat < 128 → (decimal c).isSome = c.isDigit
  isAlnum_ascii : ∀ c, c.toNat < 128 → isAlnum c = c.isAlphanum
  decimal_mark : decimal '§' = none

namespace Alphabet

/-- `\d` -/
def isDigit (alphabet : Alphabet) (c : Char) : Bool := (alphabet.decimal c).isSome

/-- `\w` -/
def isWord (alphabet : Alphabet) (c : Char) : Bool := alphabet.isAlnum c || c = '_'

/-- No letter but the ASCII ones. -/
def ascii : Alphabet where
  isSpace c := c.toNat ∈ [9, 10, 11, 12, 13, 28, 29, 30, 31, 32]
  decimal c := if c.isDigit then some (c.toNat - '0'.toNat) else none
  isAlnum := Char.isAlphanum
  isSpace_ascii _ _ := rfl
  isSome_decimal_ascii c _ := by by_cases h : c.isDigit <;> simp [h]
  isAlnum_ascii _ _ := rfl
  decimal_mark := rfl

end Alphabet

/-! ## The patterns

In the order of the source. -/

/-- `[A-Za-z0-9_-]` -/
def isNameChar (c : Char) : Bool := c.isAlphanum || c = '_' || c = '-'

/-- ``[`)\s]`` -/
def isCloser (alphabet : Alphabet) (c : Char) : Bool := c = '`' || c = ')' || alphabet.isSpace c

section Patterns

variable (alphabet : Alphabet)

open Regex

/-- `\d+` -/
def digits : Regex := plus (one alphabet.isDigit)

/-- `\s+` -/
def spaces : Regex := plus (one alphabet.isSpace)

/-- `\d+(?:\.\d+)*` -/
def number : Regex := seq (digits alphabet) (star true (seq (lit '.') (digits alphabet)))

/-- `(.+?)\s*$` -/
def title : Regex := seqs [group 2 (plusLazy (one (· ≠ '\n'))), star true (one alphabet.isSpace), atEnd]

/-- `[A-Za-z0-9_-]+\.md` -/
def documentName : Regex := seq (plus (one isNameChar)) (text ".md")

/-- `_SECTION` -/
def sectionMark : Regex := seq (lit '§') (group 1 (number alphabet))

/-- `_DOCUMENT` -/
def document : Regex := group 1 documentName

/-- `_PRD_SHORTHAND` -/
def prdShorthand : Regex :=
  seqs [boundary alphabet.isWord, text "PRD", star true (one alphabet.isSpace), atEnd]

/-- `_WRAPPED_DOCUMENT` -/
def wrappedDocument : Regex := seqs [group 1 documentName, star true (one (isCloser alphabet)), atEnd]

/-- `_HEADING` -/
def heading : Regex :=
  seqs [atStart, seq (lit '#') (upTo 5 (lit '#')), spaces alphabet, upTo 2 (lit '*'),
    group 1 (number alphabet), optional (lit '\\'), optional (lit '.'), spaces alphabet, title alphabet]

/-- `_LIST_ITEM` -/
def listItem : Regex :=
  seqs [atStart, group 1 (digits alphabet), lit '.', spaces alphabet, title alphabet]

end Patterns

section Numbers

variable {alphabet : Alphabet} {word : List Char} {a b : Cursor}

open Regex

/-- Some digits. -/
def IsDigits (alphabet : Alphabet) (word : List Char) : Prop :=
  word ≠ [] ∧ ∀ c ∈ word, alphabet.isDigit c = true

/-- Digits, and more of them behind dots. -/
def IsNumber (alphabet : Alphabet) (word : List Char) : Prop :=
  ∃ (first : List Char) (words : List (List Char)), IsDigits alphabet first ∧
    (∀ u ∈ words, ∃ more, IsDigits alphabet more ∧ u = '.' :: more) ∧ word = first ++ words.flatten

theorem matches_digits : (digits alphabet).Matches a b ↔ Reads (IsDigits alphabet) a b := matches_plus_one

theorem matches_number : (number alphabet).Matches a b ↔ Reads (IsNumber alphabet) a b := by
  have hbody := fun a b => @matches_seq (lit '.') (digits alphabet) a b _ _
    (fun _ _ => matches_lit) fun _ _ => matches_digits
  refine (matches_seq (fun _ _ => matches_digits) fun _ _ => matches_star hbody).trans
    (reads_congr fun word => ?_)
  constructor
  · rintro ⟨first, _, hfirst, ⟨words, hwords, rfl⟩, rfl⟩
    refine ⟨first, words, hfirst, fun u hu => ?_, rfl⟩
    obtain ⟨⟨_, more, rfl, hmore, rfl⟩, -⟩ := hwords u hu
    exact ⟨more, hmore, rfl⟩
  · rintro ⟨first, words, hfirst, hwords, rfl⟩
    refine ⟨first, _, hfirst, ⟨words, fun u hu => ?_, rfl⟩, rfl⟩
    obtain ⟨more, hmore, rfl⟩ := hwords u hu
    exact ⟨⟨['.'], more, rfl, hmore, rfl⟩, List.cons_ne_nil _ _⟩

theorem IsNumber.ne_nil (h : IsNumber alphabet word) : word ≠ [] := by
  obtain ⟨first, words, ⟨hne, -⟩, -, rfl⟩ := h
  simp [hne]

theorem IsNumber.digit_or_dot (h : IsNumber alphabet word) {c : Char} (hc : c ∈ word) :
    alphabet.isDigit c = true ∨ c = '.' := by
  obtain ⟨first, words, ⟨-, hfirst⟩, hwords, rfl⟩ := h
  rcases List.mem_append.mp hc with hc | hc
  · exact .inl (hfirst c hc)
  · obtain ⟨u, hu, hcu⟩ := List.mem_flatten.mp hc
    obtain ⟨more, ⟨-, hmore⟩, rfl⟩ := hwords u hu
    rcases List.mem_cons.mp hcu with rfl | hcu
    · exact .inr rfl
    · exact .inl (hmore c hcu)

end Numbers

/-! ## Texts

The two methods of strings the tool uses. -/

/-- A character that ends a line. -/
def isLineBreak (c : Char) : Bool :=
  c ∈ ['\n', '\r', '\x0b', '\x0c', '\x1c', '\x1d', '\x1e', '\u0085', '\u2028', '\u2029']

/-- `text.splitlines()` -/
def splitlines : List Char → List (List Char)
  | [] => []
  | '\r' :: '\n' :: rest => [] :: splitlines rest
  | c :: rest =>
      if isLineBreak c then [] :: splitlines rest
      else match splitlines rest with
        | [] => [[c]]
        | line :: lines => (c :: line) :: lines

/-- `text.strip(chars)` -/
def stripChars (chars text : List Char) : List Char :=
  ((text.dropWhile (· ∈ chars)).reverse.dropWhile (· ∈ chars)).reverse

/-! ## Citations

Marks and documents of a line, and the line above for a mark that opens its own. -/

structure Citation where
  line : ℕ
  sectionNumber : List Char
  document : Option (List Char)
  path : List Char
  deriving DecidableEq

/-- `"PRD.md"` -/
def prd : List Char := "PRD.md".toList

/-- The last document named in a text, as a bare filename. -/
def documentIn (text : List Char) : Option (List Char) := (document.findAll text).getLast?

/-- The document of a mark, in the line of the number and behind `before`. -/
def documentOf (alphabet : Alphabet) (lines : List (List Char)) (selfDocument : Option (List Char))
    (number : ℕ) (before : List Char) : Option (List Char) :=
  let document := documentIn before
  let document :=
    if document = none ∧ ((prdShorthand alphabet).search before).isSome then some prd else document
  let document :=
    if document = none ∧ 2 ≤ number ∧ Python.strip alphabet.toUnicode before = [] then
      lines[number - 2]? >>= fun line => ((wrappedDocument alphabet).search line).map (·.group 1)
    else document
  if document = none then selfDocument else document

/-- Find every `§N` and attribute it to the document it belongs to. -/
def parseCitations (alphabet : Alphabet) (text : List Char) (selfDocument : Option (List Char)) :
    List Citation :=
  let lines := splitlines text
  (lines.zipIdx 1).flatMap fun (line, number) => ((sectionMark alphabet).findIter line).map fun found =>
    { line := number
      sectionNumber := found.group 1
      document := documentOf alphabet lines selfDocument number found.before
      path := [] }

/-! ## Sections

A pass over the lines, with the numbered heading that came last. -/

/-- Section number to title. -/
abbrev Titles : Type := List (List Char × List Char)

/-- Section number to title, for each document filename. -/
abbrev Documents : Type := List (List Char × Titles)

/-- The titles so far, and the numbered heading currently open; nothing before the first one. -/
structure Reading where
  titles : Titles
  sectionNumber : List Char

/-- ``text.strip("*` ").strip()`` -/
def cleanTitle (alphabet : Alphabet) (text : List Char) : List Char :=
  Python.strip alphabet.toUnicode (stripChars "*` ".toList text)

/-- One line of `section_titles`. -/
def readLine (alphabet : Alphabet) (reading : Reading) (line : List Char) : Reading :=
  match (heading alphabet).matchAt line with
  | some found =>
      { titles := Python.setItem reading.titles (found.group 1) (cleanTitle alphabet (found.group 2))
        sectionNumber := found.group 1 }
  | none =>
      match (listItem alphabet).matchAt line with
      | none => reading
      | some item =>
          if reading.sectionNumber = [] then reading
          else
            { reading with
              titles := Python.setItem reading.titles (reading.sectionNumber ++ '.' :: item.group 1)
                (cleanTitle alphabet (item.group 2)) }

/-- Map section number to title. -/
def sectionTitles (alphabet : Alphabet) (markdown : List Char) : Titles :=
  ((splitlines markdown).foldl (readLine alphabet) ⟨[], []⟩).titles

/-! ## The report

One list for each thing that can become of a citation. -/

structure Report where
  ok : List Citation
  broken : List Citation
  exempt : List Citation
  skipped : List Citation
  unattributed : List Citation

/-- How many citations there are. -/
def Report.total (report : Report) : ℕ :=
  report.ok.length + report.broken.length + report.exempt.length + report.skipped.length
    + report.unattributed.length

/-- `EXEMPT_DOCUMENTS` -/
def exemptDocuments : List (List Char) := [prd]

/-- One citation of `resolve`. -/
def fileCitation (documents : Documents) (report : Report) (citation : Citation) : Report :=
  match citation.document with
  | none => { report with unattributed := report.unattributed ++ [citation] }
  | some document =>
      match Python.get documents document with
      | none =>
          if document ∈ exemptDocuments then { report with exempt := report.exempt ++ [citation] }
          else { report with skipped := report.skipped ++ [citation] }
      | some titles =>
          if citation.sectionNumber ∉ titles.map (·.1) then
            { report with broken := report.broken ++ [citation] }
          else { report with ok := report.ok ++ [citation] }

/-- Sort citations into ok, broken, exempt, skipped and unattributed. -/
def resolve (citations : List Citation) (documents : Documents) : Report :=
  citations.foldl (fileCitation documents) ⟨[], [], [], [], []⟩

/-- The lists of a report. -/
inductive Bucket where
  | ok | broken | exempt | skipped | unattributed
  deriving DecidableEq

/-- Where a citation belongs. -/
def bucketOf (documents : Documents) (citation : Citation) : Bucket :=
  match citation.document with
  | none => .unattributed
  | some document =>
      match Python.get documents document with
      | none => if document ∈ exemptDocuments then .exempt else .skipped
      | some titles => if citation.sectionNumber ∉ titles.map (·.1) then .broken else .ok

end ReviewSignal.CheckCitations
