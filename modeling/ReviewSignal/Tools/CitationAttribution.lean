import ReviewSignal.Foundations.Texts
import ReviewSignal.Tools.CheckCitations
import Mathlib.Data.List.Forall2
import Mathlib.Order.Lattice.Nat

/-!
# Which document a section mark is attributed to

Before a mark stand references: the names of documents, and the shorthand `PRD` directly before this mark or
an earlier one of the line.  `Attributed` says what a mark is to be attributed to: to the `Nearest` reference;
where there is none, to the document that ends the line above, if nothing but white space precedes the mark;
else to the document the text is.

The code looks for the names first, and for the shorthand only where no document has been named and only
directly before the mark itself.  **`parseCitations_attributes`** says for which texts this comes to the same:
those in which no bare `PRD` that is nearer than the documents is passed over (`ReadsShorthand`).

* **What the patterns find**: `token_spec`, `mark_spec`, `search_prdShorthand` and `search_wrappedDocument`
  say it without regular expressions, `exists_mark` that no mark is missed, and `mark_place` where a mark is.
* **One mark**: `attributed_iff`, by whether a shorthand stands behind the documents.

`parseCitations_passes_over_PRD` is a line that names a document and cites the `PRD` behind it; the number is
looked up in the document.
-/

namespace ReviewSignal.CheckCitations

open Regex

variable {alphabet : Alphabet} {text line head name before word : List Char}

/-! ## Document names

A match of the pattern is a name and its suffix, and a text splits in one way into its end and the rest. -/

/-- A name and its suffix. -/
def IsDocumentName (word : List Char) : Prop :=
  ∃ name, name ≠ [] ∧ (∀ c ∈ name, isNameChar c = true) ∧ word = name ++ ".md".toList

/-- The text does not end in a character of the kind. -/
def EndsOutside (p : Char → Bool) (text : List Char) : Prop := ∀ c ∈ text.getLast?, p c = false

theorem toList_suffix : ".md".toList = ['.', 'm', 'd'] := rfl

theorem toList_shorthand : "PRD".toList = ['P', 'R', 'D'] := rfl

theorem matches_documentName {a b : Cursor} : documentName.Matches a b ↔ Reads IsDocumentName a b := by
  refine (matches_seq (fun _ _ => matches_plus_one) fun _ _ => matches_text).trans
    (reads_congr fun word => ?_)
  constructor
  · rintro ⟨name, _, ⟨hne, hname⟩, rfl, rfl⟩
    exact ⟨name, hne, hname, rfl⟩
  · rintro ⟨name, hne, hname, rfl⟩
    exact ⟨name, _, ⟨hne, hname⟩, rfl, rfl⟩

/-- **Only one way to split** a text into the end that is of the kind and what is before it. -/
theorem append_inj_of_endsOutside {p : Char → Bool} {head' name' : List Char}
    (h : head ++ name = head' ++ name') (hhead : EndsOutside p head) (hname : ∀ c ∈ name, p c = true)
    (hhead' : EndsOutside p head') (hname' : ∀ c ∈ name', p c = true) : head = head' ∧ name = name' := by
  have hdrop : ∀ head name : List Char, EndsOutside p head → (∀ c ∈ name, p c = true) →
      (head ++ name).rdropWhile p = head := by
    intro head name hhead hname
    have hreverse : head.reverse.dropWhile p = head.reverse := by
      cases hcons : head.reverse with
      | nil => rfl
      | cons c rest =>
          have hlast : head.getLast? = some c := by
            rw [← List.head?_reverse, hcons, List.head?_cons]
          rw [List.dropWhile_cons_of_neg (by simp [hhead c hlast])]
    have hname' : ∀ c ∈ name.reverse, p c = true := fun c hc => hname c (List.mem_reverse.mp hc)
    rw [List.rdropWhile, List.reverse_append, List.dropWhile_append_of_pos hname', hreverse,
      List.reverse_reverse]
  have heq : head = head' := by
    rw [← hdrop head name hhead hname, h, hdrop head' name' hhead' hname']
  subst heq
  exact ⟨rfl, List.append_cancel_left h⟩

/-! ## Tokens

The documents of a line, of which the last one counts. -/

theorem token_spec {token : Found} (h : token ∈ document.findIter text) :
    IsDocumentName token.word ∧ token.group 1 = token.word ∧ token.upTo ++ token.after = text := by
  obtain ⟨htext, hof⟩ := findIter_spec h
  obtain ⟨word, rest, hword, hrest, hcursor⟩ := (matches_group fun b => matches_documentName).mp hof
  simp only [Cursor.mk.injEq] at hcursor hrest
  obtain ⟨-, rfl, hgroups⟩ := hcursor
  obtain rfl := List.append_cancel_right hrest
  exact ⟨hword, by simp [Found.group, hgroups], htext⟩

/-- **The last token is the one that ends last.** -/
theorem stop_lt_of_mem {token last : Found} (hlast : (document.findIter text).getLast? = some last)
    (h : token ∈ document.findIter text) (hne : token ≠ last) : token.stop < last.stop := by
  obtain ⟨tokens, htokens⟩ := List.getLast?_eq_some_iff.mp hlast
  have hpairwise := @findIter_pairwise document text
  rw [htokens, List.pairwise_append] at hpairwise
  rw [htokens, List.mem_append, List.mem_singleton, or_iff_left hne] at h
  have hle := hpairwise.2.2 token h last List.mem_cons_self
  have hmem : last ∈ document.findIter text := by
    simp [htokens]
  obtain ⟨name, -, -, hword⟩ := (token_spec hmem).1
  have hlength : last.stop = last.start + last.word.length := List.length_append
  rw [hword, toList_suffix, List.length_append] at hlength
  simp at hlength
  omega

theorem documentIn_eq : documentIn text = ((document.findIter text).map Found.word).getLast? := by
  rw [documentIn, findAll, List.map_congr_left fun token h => (token_spec h).2.1]

/-! ## The shorthand

A `PRD` with nothing of a word before it and nothing but white space behind. -/

theorem Alphabet.isWord_P : alphabet.isWord 'P' = true := by
  rw [isWord, alphabet.isAlnum_ascii _ (by decide)]
  rfl

theorem Alphabet.isSpace_P : alphabet.isSpace 'P' = false := by
  rw [alphabet.isSpace_ascii _ (by decide)]
  rfl

theorem Alphabet.isSpace_newline : alphabet.isSpace '\n' = true := by
  rw [alphabet.isSpace_ascii _ (by decide)]
  rfl

/-- The text as far as a bare `PRD` that has nothing but white space behind it. -/
def Shorthand (alphabet : Alphabet) (upTo before : List Char) : Prop :=
  ∃ head blank, upTo = head ++ "PRD".toList ∧ before = upTo ++ blank ∧
    EndsOutside alphabet.isWord head ∧ ∀ c ∈ blank, alphabet.isSpace c = true

theorem endsOutside_iff {p : Char → Bool} : EndsOutside p text ↔ text.getLast?.any p = false := by
  rw [EndsOutside]
  cases text.getLast? <;> simp

theorem search_prdShorthand :
    ((prdShorthand alphabet).search before).isSome ↔ ∃ upTo, Shorthand alphabet upTo before := by
  rw [search, searchFrom_isSome]
  constructor
  · rintro ⟨head, rest, rfl, c, _, ⟨hboundary, rfl⟩, d, htext, hblank⟩
    obtain ⟨_, blank, rfl, hrest, rfl⟩ := matches_text.mp htext
    simp only [List.append_nil] at hboundary hrest
    subst hrest
    refine ⟨_, head, blank, rfl, by simp, ?_, (matches_toEnd alphabet.isSpace_newline hblank).2⟩
    rw [endsOutside_iff]
    simpa [toList_shorthand, Alphabet.isWord_P] using hboundary
  · rintro ⟨_, head, blank, rfl, rfl, hhead, hblank⟩
    obtain ⟨b, hb⟩ : ∃ b, (seqs [star true (one alphabet.isSpace), atEnd]).Matches
        ⟨"PRD".toList.reverse ++ (head.reverse ++ []), blank, []⟩ b := exists_matches_toEnd hblank
    refine ⟨head, "PRD".toList ++ blank, by simp, b, _, ⟨?_, rfl⟩, _,
      matches_text.mpr ⟨_, blank, rfl, rfl, rfl⟩, hb⟩
    rw [endsOutside_iff] at hhead
    simp [toList_shorthand, Alphabet.isWord_P, hhead]

/-! ## A document at the end of a line

Closing brackets, quotes and white space aside. -/

/-- A document name ends the line, closing characters aside. -/
def EndsWithDocument (alphabet : Alphabet) (line document : List Char) : Prop :=
  ∃ head closers, line = head ++ (document ++ closers) ∧ IsDocumentName document ∧
    EndsOutside isNameChar head ∧ ∀ c ∈ closers, isCloser alphabet c = true

theorem Alphabet.isCloser_newline : isCloser alphabet '\n' = true := by
  simp [isCloser, isSpace_newline]

theorem Alphabet.isCloser_d : isCloser alphabet 'd' = false := by
  rw [isCloser, alphabet.isSpace_ascii _ (by decide)]
  rfl

/-- **At most one document ends a line.** -/
theorem EndsWithDocument.unique {document document' : List Char} (h : EndsWithDocument alphabet line document)
    (h' : EndsWithDocument alphabet line document') : document = document' := by
  obtain ⟨head, closers, hline, ⟨name, -, hname, rfl⟩, hhead, hclosers⟩ := h
  obtain ⟨head', closers', hline', ⟨name', -, hname', rfl⟩, hhead', hclosers'⟩ := h'
  have hsuffix : ∀ l : List Char, EndsOutside (isCloser alphabet) (l ++ ".md".toList) := by
    intro l c hc
    rw [toList_suffix] at hc
    simp at hc
    exact hc ▸ Alphabet.isCloser_d
  have hsplit : (head ++ name ++ ".md".toList) ++ closers = (head' ++ name' ++ ".md".toList) ++ closers' := by
    simpa using hline.symm.trans hline'
  have hnames := List.append_cancel_right
    (append_inj_of_endsOutside hsplit (hsuffix _) hclosers (hsuffix _) hclosers').1
  rw [(append_inj_of_endsOutside hnames hhead hname hhead' hname').2]

theorem matches_wrappedDocument {a : Cursor} {closers : List Char} (hword : IsDocumentName word)
    (hrest : a.rest = word ++ closers) (hclosers : ∀ c ∈ closers, isCloser alphabet c = true) :
    ∃ b, (wrappedDocument alphabet).Matches a b := by
  obtain ⟨b, hb⟩ : ∃ b, (seqs [star true (one (isCloser alphabet)), atEnd]).Matches
      ⟨word.reverse ++ a.before, closers, (1, word) :: a.groups⟩ b := exists_matches_toEnd hclosers
  exact ⟨b, _, (matches_group fun b => matches_documentName).mpr ⟨word, closers, hword, hrest, rfl⟩, hb⟩

/-- The first match starts where the name does. -/
theorem endsWithDocument_of_search {found : Found} (h : (wrappedDocument alphabet).search line = some found) :
    EndsWithDocument alphabet line (found.group 1) := by
  obtain ⟨skipped, hline, hbefore, c, hdocument, hclosers⟩ := searchFrom_spec h
  obtain ⟨word, rest, hword, hrest, rfl⟩ := (matches_group fun b => matches_documentName).mp hdocument
  obtain ⟨hgroups, hall⟩ := matches_toEnd Alphabet.isCloser_newline hclosers
  have hgroup : found.group 1 = word := by
    rw [Found.group, show found.groups = [(1, word)] from hgroups]
    rfl
  replace hrest : found.word ++ found.after = word ++ rest := hrest
  rw [hrest] at hline
  rw [hgroup]
  refine ⟨skipped, rest, hline, hword, ?_, hall⟩
  intro c hc
  by_contra hname
  obtain ⟨u, rfl⟩ := List.getLast?_eq_some_iff.mp hc
  -- with one more character of the name, the match would start earlier
  have hlonger : IsDocumentName (c :: word) := by
    obtain ⟨name, -, hchars, rfl⟩ := hword
    exact ⟨c :: name, List.cons_ne_nil _ _, List.forall_mem_cons.mpr ⟨by simpa using hname, hchars⟩, rfl⟩
  obtain ⟨b, hb⟩ : ∃ b, (wrappedDocument alphabet).Matches ⟨u.reverse ++ [], c :: word ++ rest, []⟩ b :=
    matches_wrappedDocument hlonger rfl hall
  have hless : ([] : List Char).length + u.length < found.start := by
    simp [Found.start, hbefore]
  exact searchFrom_first h (by simp [hline]) hless hb

/-- **The document `_WRAPPED_DOCUMENT` finds.** -/
theorem search_wrappedDocument {document : List Char} :
    ((wrappedDocument alphabet).search line).map (·.group 1) = some document
      ↔ EndsWithDocument alphabet line document := by
  rw [Option.map_eq_some_iff]
  constructor
  · rintro ⟨found, hfound, rfl⟩
    exact endsWithDocument_of_search hfound
  · intro h
    obtain ⟨head, closers, hline, hword, -, hclosers⟩ := id h
    obtain ⟨found, hfound⟩ : ∃ found, (wrappedDocument alphabet).search line = some found := by
      rw [← Option.isSome_iff_exists, search, searchFrom_isSome]
      exact ⟨head, document ++ closers, hline, matches_wrappedDocument hword rfl hclosers⟩
    exact ⟨found, hfound, (endsWithDocument_of_search hfound).unique h⟩

/-! ## Marks

Every section sign before a digit is one, with the line it is in. -/

/-- A section mark, with its line, the line's number and the line above. -/
structure Mark where
  number : ℕ
  previous : Option (List Char)
  line : List Char
  found : Found
  deriving DecidableEq

/-- The section marks of a text. -/
def marks (alphabet : Alphabet) (text : List Char) : List Mark :=
  let lines := splitlines text
  (lines.zipIdx 1).flatMap fun (line, number) => ((sectionMark alphabet).findIter line).map fun found =>
    { number := number
      previous := if 2 ≤ number then lines[number - 2]? else none
      line := line
      found := found }

theorem mark_spec {found : Found} (h : found ∈ (sectionMark alphabet).findIter line) :
    IsNumber alphabet (found.group 1) ∧ found.word = '§' :: found.group 1
      ∧ found.before ++ (found.word ++ found.after) = line := by
  obtain ⟨htext, c, hlit, hnumber⟩ := findIter_spec h
  obtain ⟨_, rest, rfl, hrest, rfl⟩ := matches_lit.mp hlit
  obtain ⟨number, after, hword, rfl, hcursor⟩ := (matches_group fun b => matches_number).mp hnumber
  simp only [Cursor.mk.injEq] at hcursor hrest
  obtain ⟨-, rfl, hgroups⟩ := hcursor
  have hgroup : found.group 1 = number := by
    simp [Found.group, hgroups]
  rw [← List.append_assoc, List.append_cancel_right_eq] at hrest
  rw [hgroup, ← htext, Found.upTo, List.append_assoc]
  exact ⟨hword, hrest, rfl⟩

/-- **Every section sign before a digit is a mark.** -/
theorem exists_mark {u v : List Char} {c : Char} (hc : alphabet.isDigit c = true)
    (hline : line = u ++ '§' :: c :: v) :
    ∃ found ∈ (sectionMark alphabet).findIter line, found.before = u := by
  have hreads : ∀ a b, (sectionMark alphabet).Matches a b → b.rest.length < a.rest.length := by
    rintro a b ⟨d, hlit, hnumber⟩
    obtain ⟨_, rest, rfl, hrest, rfl⟩ := matches_lit.mp hlit
    obtain ⟨number, after, -, rfl, rfl⟩ := (matches_group fun b => matches_number).mp hnumber
    rw [hrest]
    simp only [List.length_append, List.length_cons, List.length_nil]
    omega
  have hnumber : IsNumber alphabet [c] := by
    refine ⟨[c], [], ⟨List.cons_ne_nil _ _, ?_⟩, nofun, rfl⟩
    simpa using hc
  have hmatches : (sectionMark alphabet).Matches ⟨u.reverse, '§' :: c :: v, []⟩
      ⟨[c].reverse ++ (['§'].reverse ++ u.reverse), v, [(1, [c])]⟩ :=
    ⟨_, matches_lit.mpr ⟨_, c :: v, rfl, rfl, rfl⟩,
      (matches_group fun b => matches_number).mpr ⟨[c], v, hnumber, rfl, rfl⟩⟩
  obtain ⟨found, hfound, hle, hlt⟩ := findIter_covers hreads hmatches hline
  refine ⟨found, hfound, ?_⟩
  obtain ⟨hnumber', hword, htext⟩ := mark_spec hfound
  obtain ⟨w, rfl⟩ := List.prefix_of_prefix_length_le ⟨_, htext⟩ ⟨_, hline.symm⟩ hle
  cases w with
  | nil => exact (List.append_nil _).symm
  | cons d w =>
      -- the sign would be one of the digits of the mark found before
      have hrest : found.group 1 ++ found.after = w ++ '§' :: c :: v := by
        rw [hline, hword, List.append_assoc, List.append_cancel_left_eq] at htext
        exact (List.cons_eq_cons.mp htext).2
      have hlength : (w ++ ['§']).length ≤ (found.group 1).length := by
        simp only [Found.stop, Found.upTo, hword, List.length_append, List.length_cons] at hlt ⊢
        simp
        omega
      have hread : w ++ ['§'] <+: found.group 1 ++ found.after := ⟨c :: v, by simp [hrest]⟩
      have hinitial := List.prefix_of_prefix_length_le hread ⟨_, rfl⟩ hlength
      have hmem : '§' ∈ found.group 1 := hinitial.subset (by simp)
      rcases hnumber'.digit_or_dot hmem with hdigit | hdot
      · rw [Alphabet.isDigit, alphabet.decimal_mark] at hdigit
        exact absurd hdigit Bool.false_ne_true
      · exact absurd hdot (by decide)

/-- What the code makes of the text before a mark and the line above. -/
def documentFor (alphabet : Alphabet) (selfDocument previous : Option (List Char)) (before : List Char) :
    Option (List Char) :=
  (documentIn before).or
    ((if ((prdShorthand alphabet).search before).isSome then some prd else none).or
      ((if Python.strip alphabet.toUnicode before = [] then
          previous >>= fun line => ((wrappedDocument alphabet).search line).map (·.group 1)
        else none).or selfDocument))

section Fallbacks

variable {α : Type} {o x : Option α} {p : Prop} [Decidable p]

theorem ite_eq_none : (if o.isNone then x else o) = o.or x := by
  cases o <;> rfl

theorem ite_eq_none_and : (if o.isNone ∧ p then x else o) = o.or (if p then x else none) := by
  cases o <;> simp

end Fallbacks

theorem documentOf_eq {lines : List (List Char)} {selfDocument : Option (List Char)} {number : ℕ} :
    documentOf alphabet lines selfDocument number before
      = documentFor alphabet selfDocument (if 2 ≤ number then lines[number - 2]? else none) before := by
  simp only [documentOf, documentFor, ← Option.isNone_iff_eq_none, ite_eq_none, ite_eq_none_and,
    Option.or_assoc]
  by_cases hnumber : 2 ≤ number
  · simp [hnumber]
  · simp [hnumber]

theorem parseCitations_eq {selfDocument : Option (List Char)} :
    parseCitations alphabet text selfDocument = (marks alphabet text).map fun mark =>
      { line := mark.number
        sectionNumber := mark.found.group 1
        document := documentFor alphabet selfDocument mark.previous mark.found.before
        path := [] } := by
  simp only [parseCitations, marks, List.map_flatMap, List.map_map, Function.comp_def, documentOf_eq]

theorem found_of_mem_marks {mark : Mark} (h : mark ∈ marks alphabet text) :
    mark.found ∈ (sectionMark alphabet).findIter mark.line := by
  simp only [marks, List.mem_flatMap, List.mem_map] at h
  obtain ⟨line, -, found, hfound, rfl⟩ := h
  exact hfound

/-- **A mark is where it says**: in the line of its number, below the line it calls the previous one. -/
theorem mark_place {mark : Mark} (h : mark ∈ marks alphabet text) : ∃ above below,
    splitlines text = above ++ mark.line :: below ∧ mark.number = above.length + 1 ∧
      mark.previous = above.getLast? := by
  simp only [marks, List.mem_flatMap, List.mem_map] at h
  obtain ⟨⟨line, number⟩, hline, found, -, rfl⟩ := h
  obtain ⟨hpos, hget⟩ := List.mk_mem_zipIdx_iff_le_and_getElem?_sub.mp hline
  obtain ⟨hlt, hline⟩ := List.getElem?_eq_some_iff.mp hget
  refine ⟨(splitlines text).take (number - 1), (splitlines text).drop (number - 1 + 1), ?_, ?_, ?_⟩
  · rw [← hline, ← List.drop_eq_getElem_cons hlt, List.take_append_drop]
  · simp
    omega
  · rw [List.getLast?_take]
    by_cases hfirst : 2 ≤ number
    · have hlt' : number - 2 < (splitlines text).length := by omega
      rw [if_pos hfirst, if_neg (by omega), Nat.sub_sub, List.getElem?_eq_getElem hlt', Option.some_or]
    · rw [if_neg hfirst, if_pos (by omega)]

/-! ## References

What stands before a mark, in the order of where it ends. -/

/-- A reference before a mark, as far as which it is told, and the document it is to. -/
inductive Refers (alphabet : Alphabet) (mark : Mark) : List Char → List Char → Prop
  | named {token : Found} (h : token ∈ document.findIter mark.found.before) :
      Refers alphabet mark token.upTo token.word
  | shorthand {other : Found} {upTo : List Char} (hother : other ∈ (sectionMark alphabet).findIter mark.line)
      (hle : other.start ≤ mark.found.start) (h : Shorthand alphabet upTo other.before) :
      Refers alphabet mark upTo prd

/-- The reference that ends last is to the document. -/
def Nearest (alphabet : Alphabet) (mark : Mark) (document : List Char) : Prop :=
  ∃ upTo, Refers alphabet mark upTo document ∧
    ∀ upTo' document', Refers alphabet mark upTo' document' → upTo'.length ≤ upTo.length

/-- A citation that has been wrapped: the document ends the line above, and the mark opens its own. -/
def Wrapped (alphabet : Alphabet) (mark : Mark) (document : List Char) : Prop :=
  (∀ c ∈ mark.found.before, alphabet.isSpace c = true) ∧
    ∃ previous, mark.previous = some previous ∧ EndsWithDocument alphabet previous document

/-- **What a mark is to be attributed to.** -/
inductive Attributed (alphabet : Alphabet) (selfDocument : Option (List Char)) (mark : Mark) :
    Option (List Char) → Prop
  | nearest {document : List Char} (h : Nearest alphabet mark document) :
      Attributed alphabet selfDocument mark (some document)
  | wrapped {document : List Char} (hnone : ∀ upTo document, ¬ Refers alphabet mark upTo document)
      (h : Wrapped alphabet mark document) : Attributed alphabet selfDocument mark (some document)
  | self (hnone : ∀ upTo document, ¬ Refers alphabet mark upTo document)
      (h : ∀ document, ¬ Wrapped alphabet mark document) : Attributed alphabet selfDocument mark selfDocument

/-- A bare `PRD` stands before a mark of the line, this one or an earlier one, and behind every document
that is named before this one. -/
def ShorthandBehind (alphabet : Alphabet) (mark : Mark) : Prop :=
  ∃ other ∈ (sectionMark alphabet).findIter mark.line, other.start ≤ mark.found.start ∧
    ∃ upTo, Shorthand alphabet upTo other.before ∧
      ∀ token ∈ document.findIter mark.found.before, token.stop < upTo.length

/-- Where such a `PRD` stands, the documents named before the mark say the same. -/
def ReadsShorthand (alphabet : Alphabet) (selfDocument : Option (List Char)) (mark : Mark) : Prop :=
  ShorthandBehind alphabet mark →
    documentIn mark.found.before = some prd ∨ documentIn mark.found.before = none ∧
      ((∃ upTo, Shorthand alphabet upTo mark.found.before) ∨ selfDocument = some prd)

section Attribution

variable {mark : Mark} {selfDocument : Option (List Char)} {upTo d : List Char}

theorem Shorthand.isPrefix (h : Shorthand alphabet upTo before) : upTo <+: before := by
  obtain ⟨-, blank, -, hbefore, -⟩ := h
  exact ⟨blank, hbefore.symm⟩

theorem prefix_of_start_le (hmark : mark.found ∈ (sectionMark alphabet).findIter mark.line) {other : Found}
    (hother : other ∈ (sectionMark alphabet).findIter mark.line) (hle : other.start ≤ mark.found.start) :
    other.before <+: mark.found.before := by
  have hbefore : ∀ found : Found, found ∈ (sectionMark alphabet).findIter mark.line →
      found.before <+: mark.line := by
    intro found hfound
    exact ⟨found.word ++ found.after, by rw [← (findIter_spec hfound).1, Found.upTo, List.append_assoc]⟩
  exact List.prefix_of_prefix_length_le (hbefore _ hother) (hbefore _ hmark) hle

theorem Refers.length_le (hmark : mark.found ∈ (sectionMark alphabet).findIter mark.line)
    (h : Refers alphabet mark upTo d) : upTo.length ≤ mark.found.before.length := by
  cases h with
  | named h => exact List.IsPrefix.length_le ⟨_, (token_spec h).2.2⟩
  | shorthand hother hle h => exact (h.isPrefix.trans (prefix_of_start_le hmark hother hle)).length_le

/-- Where there is a reference, there is a nearest one. -/
theorem exists_nearest (hmark : mark.found ∈ (sectionMark alphabet).findIter mark.line)
    (h : Refers alphabet mark upTo d) : ∃ document, Nearest alphabet mark document := by
  let lengths : Set ℕ := {n | ∃ upTo document, Refers alphabet mark upTo document ∧ upTo.length = n}
  have hbound : BddAbove lengths := by
    refine ⟨mark.found.before.length, ?_⟩
    rintro n ⟨upTo, document, href, rfl⟩
    exact href.length_le hmark
  have hnonempty : lengths.Nonempty := ⟨_, upTo, d, h, rfl⟩
  obtain ⟨upTo, document, href, hlength⟩ := Nat.sSup_mem hnonempty hbound
  refine ⟨document, upTo, href, fun upTo' document' href' => ?_⟩
  rw [hlength]
  exact le_csSup hbound ⟨upTo', document', href', rfl⟩

theorem shorthand_not_blank (h : Shorthand alphabet upTo line) (hinitial : line <+: before) :
    ¬ ∀ c ∈ before, alphabet.isSpace c = true := by
  obtain ⟨head, blank, rfl, rfl, -⟩ := h
  intro hblank
  have hspace := hblank 'P' (hinitial.subset (by simp [toList_shorthand]))
  rw [Alphabet.isSpace_P] at hspace
  exact Bool.false_ne_true hspace

/-- The document of the line above, if the mark opens its line. -/
def wrappedIn (alphabet : Alphabet) (mark : Mark) : Option (List Char) :=
  if Python.strip alphabet.toUnicode mark.found.before = [] then
    mark.previous >>= fun line => ((wrappedDocument alphabet).search line).map (·.group 1)
  else none

theorem wrappedIn_eq_some : wrappedIn alphabet mark = some d ↔ Wrapped alphabet mark d := by
  simp only [wrappedIn, Option.ite_none_right_eq_some, Python.strip_eq_nil, Option.bind_eq_bind,
    Option.bind_eq_some_iff, search_wrappedDocument, Wrapped]

/-- **Behind the documents, the shorthand is nearest.** -/
theorem attributed_iff_of_behind (hmark : mark.found ∈ (sectionMark alphabet).findIter mark.line)
    (h : ShorthandBehind alphabet mark) {document : Option (List Char)} :
    Attributed alphabet selfDocument mark document ↔ document = some prd := by
  obtain ⟨other, hother, hle, upTo, hshorthand, htokens⟩ := h
  have href := Refers.shorthand hother hle hshorthand
  have hPRD : ∀ d, Nearest alphabet mark d → d = prd := by
    rintro d ⟨upTo', href', hmax⟩
    cases href' with
    | named h => exact absurd (htokens _ h) (Nat.not_lt.mpr (hmax _ _ href))
    | shorthand => rfl
  constructor
  · intro h
    cases h with
    | nearest h => rw [hPRD _ h]
    | wrapped hnone => exact absurd href (hnone _ _)
    | self hnone => exact absurd href (hnone _ _)
  · rintro rfl
    obtain ⟨d, hd⟩ := exists_nearest hmark href
    exact .nearest (hPRD d hd ▸ hd)

/-- What the code makes of a mark that has such a shorthand before it. -/
theorem documentFor_of_behind (hmark : mark.found ∈ (sectionMark alphabet).findIter mark.line)
    (h : ShorthandBehind alphabet mark) :
    documentFor alphabet selfDocument mark.previous mark.found.before = some prd
      ↔ documentIn mark.found.before = some prd ∨ documentIn mark.found.before = none ∧
        ((∃ upTo, Shorthand alphabet upTo mark.found.before) ∨ selfDocument = some prd) := by
  obtain ⟨other, hother, hle, upTo, hshorthand, -⟩ := h
  have hblank := shorthand_not_blank hshorthand (prefix_of_start_le hmark hother hle)
  rw [← search_prdShorthand, documentFor, if_neg (mt Python.strip_eq_nil.mp hblank), Option.none_or]
  cases documentIn mark.found.before with
  | some d => simp
  | none =>
      by_cases hsearch : ((prdShorthand alphabet).search mark.found.before).isSome
      · simp [hsearch]
      · simp [hsearch]

/-- **Without one, the code finds what is nearest**, or else what the line above ends in. -/
theorem attributed_of_not_behind (hmark : mark.found ∈ (sectionMark alphabet).findIter mark.line)
    (h : ¬ ShorthandBehind alphabet mark) :
    Attributed alphabet selfDocument mark
      (documentFor alphabet selfDocument mark.previous mark.found.before) := by
  cases hlast : (document.findIter mark.found.before).getLast? with
  | some last =>
      have hmem : last ∈ document.findIter mark.found.before := List.mem_of_mem_getLast? hlast
      have hdocument : documentIn mark.found.before = some last.word := by
        rw [documentIn_eq, List.getLast?_map, hlast, Option.map_some]
      have hstop : ∀ token ∈ document.findIter mark.found.before, token.stop ≤ last.stop := by
        intro token htoken
        by_cases hne : token = last
        · rw [hne]
        · exact (stop_lt_of_mem hlast htoken hne).le
      rw [documentFor, hdocument, Option.some_or]
      refine .nearest ⟨last.upTo, .named hmem, fun upTo d href => ?_⟩
      cases href with
      | named htoken => exact hstop _ htoken
      | shorthand hother hle hshorthand =>
          by_contra hlonger
          refine h ⟨_, hother, hle, upTo, hshorthand, fun token htoken => ?_⟩
          exact lt_of_le_of_lt (hstop token htoken) (Nat.not_le.mp hlonger)
  | none =>
      have hnil := List.getLast?_eq_none_iff.mp hlast
      have hnone : ∀ upTo d, ¬ Refers alphabet mark upTo d := by
        intro upTo d href
        cases href with
        | named htoken => simp [hnil] at htoken
        | shorthand hother hle hshorthand => exact h ⟨_, hother, hle, upTo, hshorthand, by simp [hnil]⟩
      have hsearch : ¬ ((prdShorthand alphabet).search mark.found.before).isSome = true := by
        rw [search_prdShorthand]
        rintro ⟨upTo, hshorthand⟩
        exact hnone _ _ (.shorthand hmark (Nat.le_refl _) hshorthand)
      rw [documentFor, documentIn_eq, hnil, if_neg hsearch]
      show Attributed alphabet selfDocument mark ((wrappedIn alphabet mark).or selfDocument)
      cases hwrapped : wrappedIn alphabet mark with
      | some d => exact .wrapped hnone (wrappedIn_eq_some.mp hwrapped)
      | none =>
          refine .self hnone fun d hd => ?_
          rw [wrappedIn_eq_some.mpr hd] at hwrapped
          exact absurd hwrapped (Option.some_ne_none d)

end Attribution

/-- **The code attributes a mark rightly** where the documents named before it on the line say what a bare
`PRD` behind them says. -/
theorem attributed_iff {mark : Mark} {selfDocument : Option (List Char)}
    (hmark : mark.found ∈ (sectionMark alphabet).findIter mark.line) :
    Attributed alphabet selfDocument mark
        (documentFor alphabet selfDocument mark.previous mark.found.before)
      ↔ ReadsShorthand alphabet selfDocument mark := by
  by_cases h : ShorthandBehind alphabet mark
  · rw [attributed_iff_of_behind hmark h, documentFor_of_behind hmark h, ReadsShorthand,
      forall_prop_of_true h]
  · exact iff_of_true (attributed_of_not_behind hmark h) fun h' => absurd h' h

/-- Every mark of the text has its citation, in order: with its line, its number and the document it is to be
attributed to. -/
def AttributesAll (alphabet : Alphabet) (text : List Char) (selfDocument : Option (List Char)) : Prop :=
  List.Forall₂ (fun citation mark => citation.line = mark.number ∧
      citation.sectionNumber = mark.found.group 1 ∧ Attributed alphabet selfDocument mark citation.document)
    (parseCitations alphabet text selfDocument) (marks alphabet text)

theorem attributesAll_iff {selfDocument : Option (List Char)} :
    AttributesAll alphabet text selfDocument ↔ ∀ mark ∈ marks alphabet text,
      Attributed alphabet selfDocument mark
        (documentFor alphabet selfDocument mark.previous mark.found.before) := by
  rw [AttributesAll, parseCitations_eq, List.forall₂_map_left_iff, List.forall₂_same]
  simp only [true_and]

/-- **The linter attributes every mark of a text to the document nearest before it** if and only if no bare
`PRD` that is nearer than the documents is passed over. -/
theorem parseCitations_attributes {selfDocument : Option (List Char)} :
    AttributesAll alphabet text selfDocument
      ↔ ∀ mark ∈ marks alphabet text, ReadsShorthand alphabet selfDocument mark := by
  rw [attributesAll_iff]
  exact forall₂_congr fun mark hmark => attributed_iff (found_of_mem_marks hmark)

/-- The number behind `PRD` is looked up in the document that is named first. -/
theorem parseCitations_passes_over_PRD :
    ¬ AttributesAll .ascii "`data-model.md` §4, PRD §10".toList none := by
  intro hall
  let mark : Mark := ⟨1, none, "`data-model.md` §4, PRD §10".toList,
    ⟨"`data-model.md` §4, PRD ".toList, "§10".toList, [], [(1, "10".toList)]⟩⟩
  have hmem : mark ∈ marks .ascii "`data-model.md` §4, PRD §10".toList := by decide
  have hbehind : ShorthandBehind .ascii mark := by
    refine ⟨mark.found, found_of_mem_marks hmem, Nat.le_refl _, "`data-model.md` §4, PRD".toList, ?_,
      by decide⟩
    refine ⟨"`data-model.md` §4, ".toList, [' '], by decide, by decide, ?_, ?_⟩
    · rw [endsOutside_iff]
      decide
    · exact List.forall_mem_singleton.mpr rfl
  have hin : documentIn mark.found.before = some "data-model.md".toList := by decide
  have hreads := (attributed_iff (found_of_mem_marks hmem)).mp (attributesAll_iff.mp hall mark hmem) hbehind
  rw [hin] at hreads
  rcases hreads with hPRD | ⟨hnone, -⟩
  · exact absurd hPRD (by decide)
  · exact absurd hnone (Option.some_ne_none _)

end ReviewSignal.CheckCitations
