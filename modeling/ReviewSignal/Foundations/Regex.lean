import Mathlib.Data.List.Basic
import Mathlib.Logic.Relation

/-!
# Regular expressions, as a backtracking matcher reads them

A matcher tries the ways to match in an order and takes the first one: `run` is the list of the places where
a match can end, a greedy repetition before a lazy one's.  Which places these are does not depend on the
order, and is what the expression means (`Matches`, **`mem_run`**); an assertion looks at what
is around.

`matchAt`, `search` and `findIter` are Python's functions of these names.  A repetition stops where its body
has read nothing.

* `Matches.closed` — the rule behind most facts: what holds of every step holds of a match, if it is
  reflexive and transitive;
* `matches_plus_one`, `matches_upTo_one`, `matches_toEnd` and the like — what an expression of a common form
  reads, as a property of the words it reads (`Reads`);
* `searchFrom_spec`, `searchFrom_first` — a search finds a match, and none starts before it;
* `findIter_spec`, `findIter_pairwise`, `findIter_covers` — what is iterated over is matches, one after the
  other, and no match is missed.

The order of `run` matters where a program looks at which of several matches was taken; what is proved of
`findIter` is so stated that it does not.
-/

namespace ReviewSignal

/-- A regular expression. -/
inductive Regex where
  | empty
  | one (accepts : Char → Bool)
  | seq (first second : Regex)
  | star (greedy : Bool) (body : Regex)
  | upTo (bound : ℕ) (body : Regex)
  | group (index : ℕ) (body : Regex)
  | atStart
  | atEnd
  | boundary (isWord : Char → Bool)

/-- A place in a text: what is before it, nearest first, what is left, and the groups so far. -/
structure Cursor where
  before : List Char
  rest : List Char
  groups : List (ℕ × List Char)
  deriving DecidableEq

namespace Regex

/-! ## Expressions

The derived forms. -/

/-- One character. -/
def lit (c : Char) : Regex := one (· = c)

/-- One expression after another. -/
def seqs : List Regex → Regex
  | [] => empty
  | r :: rs => seq r (seqs rs)

/-- The characters of a text. -/
def text (word : String) : Regex := seqs (word.toList.map lit)

/-- `r+` -/
def plus (r : Regex) : Regex := seq r (star true r)

/-- `r+?` -/
def plusLazy (r : Regex) : Regex := seq r (star false r)

/-- `r?` -/
def optional (r : Regex) : Regex := upTo 1 r

/-- The groups of an expression. -/
def indices : Regex → List ℕ
  | seq r s => r.indices ++ s.indices
  | star _ r => r.indices
  | upTo _ r => r.indices
  | group index r => index :: r.indices
  | _ => []

/-! ## The matcher

A structural recursion over the expression; a repetition takes the length of what is left as its fuel, which
is enough. -/

/-- The rounds of a repetition, each of which reads something. -/
def iterate (greedy : Bool) (step : Cursor → List Cursor) : ℕ → Cursor → List Cursor
  | 0, c => [c]
  | fuel + 1, c =>
      let more := ((step c).filter (·.rest.length < c.rest.length)).flatMap (iterate greedy step fuel)
      if greedy then more ++ [c] else c :: more

/-- At most so many rounds. -/
def iterateUpTo (step : Cursor → List Cursor) : ℕ → Cursor → List Cursor
  | 0, c => [c]
  | bound + 1, c => (step c).flatMap (iterateUpTo step bound) ++ [c]

/-- Where a match from a place on can end, the preferred one first. -/
def run : Regex → Cursor → List Cursor
  | empty, c => [c]
  | one accepts, c =>
      match c.rest with
      | [] => []
      | d :: rest => if accepts d then [⟨d :: c.before, rest, c.groups⟩] else []
  | seq r s, c => (r.run c).flatMap s.run
  | star greedy r, c => iterate greedy r.run c.rest.length c
  | upTo bound r, c => iterateUpTo r.run bound c
  | group index r, c => (r.run c).map fun c' =>
      ⟨c'.before, c'.rest, (index, c.rest.take (c.rest.length - c'.rest.length)) :: c'.groups⟩
  | atStart, c => if c.before = [] then [c] else []
  | atEnd, c => if c.rest = [] ∨ c.rest = ['\n'] then [c] else []
  | boundary isWord, c => if c.before.head?.any isWord ≠ c.rest.head?.any isWord then [c] else []

/-- A match: the text before it, its own, the text after it, and its groups. -/
structure Found where
  before : List Char
  word : List Char
  after : List Char
  groups : List (ℕ × List Char)
  deriving DecidableEq

/-- `match.start()` -/
def Found.start (found : Found) : ℕ := found.before.length

/-- The text as far as the match. -/
def Found.upTo (found : Found) : List Char := found.before ++ found.word

/-- `match.end()` -/
def Found.stop (found : Found) : ℕ := found.upTo.length

/-- `match.group(index)` of a group that took part. -/
def Found.group (found : Found) (index : ℕ) : List Char := (found.groups.lookup index).getD []

/-- The first match at a place. -/
def matchFrom (r : Regex) (before rest : List Char) : Option Found :=
  (r.run ⟨before, rest, []⟩).head?.map fun c =>
    ⟨before.reverse, rest.take (rest.length - c.rest.length), c.rest, c.groups⟩

/-- `pattern.match(text)` -/
def matchAt (r : Regex) (text : List Char) : Option Found := r.matchFrom [] text

/-- The first match at or after a place. -/
def searchFrom (r : Regex) : (before rest : List Char) → Option Found
  | before, [] => r.matchFrom before []
  | before, c :: rest => (r.matchFrom before (c :: rest)).or (searchFrom r (c :: before) rest)

/-- `pattern.search(text)` -/
def search (r : Regex) (text : List Char) : Option Found := r.searchFrom [] text

/-- The matches at or after a place, one after the other: the next one from where the last one ends. -/
def findFrom (r : Regex) : ℕ → (before rest : List Char) → List Found
  | 0, _, _ => []
  | fuel + 1, before, rest =>
      match r.searchFrom before rest with
      | none => []
      | some found => found :: findFrom r fuel found.upTo.reverse found.after

/-- `pattern.finditer(text)`, of a pattern that does not match the empty text. -/
def findIter (r : Regex) (text : List Char) : List Found := r.findFrom (text.length + 1) [] text

/-- `pattern.findall(text)`, of a pattern whose only group is the first. -/
def findAll (r : Regex) (text : List Char) : List (List Char) := (r.findIter text).map (·.group 1)

/-! ## What an expression means

A relation between the places a match starts and ends, and `run` as the list of the places it relates. -/

/-- At most so many steps. -/
def Rounds (R : Cursor → Cursor → Prop) : ℕ → Cursor → Cursor → Prop
  | 0, a, b => a = b
  | bound + 1, a, b => a = b ∨ ∃ c, R a c ∧ Rounds R bound c b

/-- A match from the one place may end at the other. -/
def Matches : Regex → Cursor → Cursor → Prop
  | empty, a, b => a = b
  | one accepts, a, b => ∃ d rest, a.rest = d :: rest ∧ accepts d ∧ b = ⟨d :: a.before, rest, a.groups⟩
  | seq r s, a, b => ∃ c, r.Matches a c ∧ s.Matches c b
  | star _ r, a, b =>
      Relation.ReflTransGen (fun a b => r.Matches a b ∧ b.rest.length < a.rest.length) a b
  | upTo bound r, a, b => Rounds r.Matches bound a b
  | group index r, a, b => ∃ c, r.Matches a c ∧
      b = ⟨c.before, c.rest, (index, a.rest.take (a.rest.length - c.rest.length)) :: c.groups⟩
  | atStart, a, b => a.before = [] ∧ a = b
  | atEnd, a, b => (a.rest = [] ∨ a.rest = ['\n']) ∧ a = b
  | boundary isWord, a, b => a.before.head?.any isWord ≠ a.rest.head?.any isWord ∧ a = b

section Run

variable {R : Cursor → Cursor → Prop} {step : Cursor → List Cursor} {a b c : Cursor}

theorem mem_iterateUpTo (hstep : ∀ a b, b ∈ step a ↔ R a b) {bound : ℕ} :
    b ∈ iterateUpTo step bound a ↔ Rounds R bound a b := by
  induction bound generalizing a with
  | zero => simp [iterateUpTo, Rounds, eq_comm]
  | succ bound ih =>
      simp only [iterateUpTo, Rounds, List.mem_append, List.mem_flatMap, List.mem_singleton, hstep, ih]
      rw [or_comm, @eq_comm _ b]

/-- **The rounds of a repetition**: as many as there are characters left are enough. -/
theorem mem_iterate {greedy : Bool} (hstep : ∀ a b, b ∈ step a ↔ R a b) {fuel : ℕ}
    (hfuel : a.rest.length ≤ fuel) : b ∈ iterate greedy step fuel a
      ↔ Relation.ReflTransGen (fun a b => R a b ∧ b.rest.length < a.rest.length) a b := by
  induction fuel generalizing a with
  | zero =>
      rw [iterate, List.mem_singleton, Relation.ReflTransGen.cases_head_iff, eq_comm]
      refine (or_iff_left ?_).symm
      rintro ⟨c, ⟨-, hless⟩, -⟩
      omega
  | succ fuel ih =>
      have hmore : b ∈ ((step a).filter (·.rest.length < a.rest.length)).flatMap (iterate greedy step fuel)
          ↔ ∃ c, (R a c ∧ c.rest.length < a.rest.length) ∧
            Relation.ReflTransGen (fun a b => R a b ∧ b.rest.length < a.rest.length) c b := by
        simp only [List.mem_flatMap, List.mem_filter, hstep, decide_eq_true_eq]
        refine exists_congr fun c => and_congr_right fun hc => ih ?_
        omega
      rw [Relation.ReflTransGen.cases_head_iff, ← hmore, iterate, @eq_comm _ a]
      cases greedy
      · exact List.mem_cons
      · exact List.mem_append.trans (or_comm.trans (or_congr_left List.mem_singleton))

theorem mem_assertion {p : Prop} [Decidable p] : b ∈ (if p then [a] else []) ↔ p ∧ a = b := by
  by_cases h : p <;> simp [h, eq_comm]

/-- **The matcher finds the matches.** -/
theorem mem_run {r : Regex} : b ∈ r.run a ↔ r.Matches a b := by
  induction r generalizing a b with
  | empty => simp [run, Matches, eq_comm]
  | one accepts =>
      obtain ⟨before, rest, groups⟩ := a
      cases rest with
      | nil => simp [run, Matches]
      | cons d rest =>
          by_cases hd : accepts d = true <;> simp [run, Matches, hd]
  | seq r s ihr ihs => simp only [run, Matches, List.mem_flatMap, ihr, ihs]
  | star greedy r ih => exact mem_iterate (fun _ _ => ih) (Nat.le_refl _)
  | upTo bound r ih => exact mem_iterateUpTo fun _ _ => ih
  | group index r ih => simp only [run, Matches, List.mem_map, ih, @eq_comm _ b]
  | atStart => exact mem_assertion
  | atEnd => exact mem_assertion
  | boundary isWord => exact mem_assertion

end Run

/-! ## What a match reads

Words, for expressions without an assertion in their middle. -/

/-- The second place is behind some word. -/
def Passes (a b : Cursor) : Prop := ∃ word, a.rest = word ++ b.rest ∧ b.before = word.reverse ++ a.before

/-- The second place is behind a word of the kind, and no group has been added. -/
def Reads (p : List Char → Prop) (a b : Cursor) : Prop :=
  ∃ word rest, p word ∧ a.rest = word ++ rest ∧ b = ⟨word.reverse ++ a.before, rest, a.groups⟩

section Reading

variable {r s : Regex} {a b c : Cursor} {accepts : Char → Bool} {greedy : Bool}
  {p q : List Char → Prop}

theorem Passes.refl (a : Cursor) : Passes a a := ⟨[], rfl, rfl⟩

theorem Passes.trans (h : Passes a b) (h' : Passes b c) : Passes a c := by
  obtain ⟨word, hrest, hbefore⟩ := h
  obtain ⟨word', hrest', hbefore'⟩ := h'
  exact ⟨word ++ word', by simp [hrest, hrest'], by simp [hbefore, hbefore']⟩

/-- **What holds of every step holds of a match**, if it is reflexive and transitive: a step reads a character
or keeps a group. -/
theorem Matches.closed {Q : Cursor → Cursor → Prop} (hrefl : ∀ a, Q a a)
    (htrans : ∀ {a b c}, Q a b → Q b c → Q a c)
    (hone : ∀ a d rest, a.rest = d :: rest → Q a ⟨d :: a.before, rest, a.groups⟩)
    (hgroup : ∀ index ∈ r.indices, ∀ a c word, Q a c → Q a ⟨c.before, c.rest, (index, word) :: c.groups⟩)
    (h : r.Matches a b) : Q a b := by
  induction r generalizing a b with
  | empty => exact h ▸ hrefl a
  | one accepts =>
      obtain ⟨d, rest, hrest, -, rfl⟩ := h
      exact hone a d rest hrest
  | seq r s ihr ihs =>
      obtain ⟨c, hr, hs⟩ := h
      have hgroupr := fun index hindex => hgroup index (List.mem_append_left _ hindex)
      have hgroups := fun index hindex => hgroup index (List.mem_append_right _ hindex)
      exact htrans (ihr hgroupr hr) (ihs hgroups hs)
  | star greedy r ih =>
      induction h with
      | refl => exact hrefl a
      | tail _ hstep ih' => exact htrans ih' (ih hgroup hstep.1)
  | upTo bound r ih =>
      replace h : Rounds r.Matches bound a b := h
      induction bound generalizing a with
      | zero => exact h ▸ hrefl a
      | succ bound ih' =>
          rcases h with rfl | ⟨c, hr, hrounds⟩
          · exact hrefl a
          · exact htrans (ih hgroup hr) (ih' hgroup hrounds)
  | group index r ih =>
      obtain ⟨c, hr, rfl⟩ := h
      have hgroup' := fun index' hindex => hgroup index' (List.mem_cons_of_mem _ hindex)
      exact hgroup index List.mem_cons_self a c _ (ih hgroup' hr)
  | atStart => exact h.2 ▸ hrefl a
  | atEnd => exact h.2 ▸ hrefl a
  | boundary isWord => exact h.2 ▸ hrefl a

/-- **A match reads a word.** -/
theorem Matches.passes (h : r.Matches a b) : Passes a b :=
  h.closed .refl .trans (fun _ d _ hrest => ⟨[d], hrest, rfl⟩) fun _ _ _ _ _ hpasses => hpasses

/-- A match leaves the groups of others alone. -/
theorem Matches.lookup_eq {i : ℕ} (h : r.Matches a b) (hi : i ∉ r.indices) :
    b.groups.lookup i = a.groups.lookup i := by
  refine @Matches.closed r a b (fun a b => b.groups.lookup i = a.groups.lookup i) (fun _ => rfl)
    (fun h h' => h'.trans h) (fun _ _ _ _ => rfl) ?_ h
  intro index hindex a c word hlookup
  have hne : (i == index) = false := by
    rw [beq_eq_false_iff_ne]
    rintro rfl
    exact hi hindex
  rw [List.lookup_cons, hne]
  exact hlookup

theorem reads_congr (h : ∀ word, p word ↔ q word) : Reads p a b ↔ Reads q a b := by
  rw [show p = q from funext fun word => propext (h word)]

theorem reads_nil : Reads (· = []) a b ↔ a = b := by
  simp [Reads, @eq_comm _ a]

theorem reads_or : Reads (fun word => p word ∨ q word) a b ↔ Reads p a b ∨ Reads q a b := by
  simp only [Reads, or_and_right, exists_or]

/-- One word after another. -/
theorem reads_comp : (∃ c, Reads p a c ∧ Reads q c b)
    ↔ Reads (fun word => ∃ u v, p u ∧ q v ∧ word = u ++ v) a b := by
  constructor
  · rintro ⟨_, ⟨u, _, hu, hrest, rfl⟩, v, rest, hv, rfl, rfl⟩
    exact ⟨u ++ v, rest, ⟨u, v, hu, hv, rfl⟩, by simp [hrest], by simp⟩
  · rintro ⟨_, rest, ⟨u, v, hu, hv, rfl⟩, hrest, rfl⟩
    exact ⟨_, ⟨u, v ++ rest, hu, by simp [hrest], rfl⟩, v, rest, hv, rfl, by simp⟩

theorem matches_seq (hr : ∀ a b, r.Matches a b ↔ Reads p a b) (hs : ∀ a b, s.Matches a b ↔ Reads q a b) :
    (seq r s).Matches a b ↔ Reads (fun word => ∃ u v, p u ∧ q v ∧ word = u ++ v) a b := by
  simp only [Matches, hr, hs, reads_comp]

theorem matches_one :
    (one accepts).Matches a b ↔ Reads (fun word => ∃ c, accepts c = true ∧ word = [c]) a b := by
  constructor
  · rintro ⟨d, rest, hrest, hd, rfl⟩
    exact ⟨[d], rest, ⟨d, hd, rfl⟩, hrest, rfl⟩
  · rintro ⟨_, rest, ⟨d, hd, rfl⟩, hrest, rfl⟩
    exact ⟨d, rest, hrest, hd, rfl⟩

theorem matches_lit {c : Char} : (lit c).Matches a b ↔ Reads (· = [c]) a b :=
  matches_one.trans (reads_congr fun word => by simp)

theorem matches_text {word : String} : (text word).Matches a b ↔ Reads (· = word.toList) a b := by
  rw [text]
  induction word.toList generalizing a with
  | nil => exact reads_nil.symm
  | cons d word ih =>
      simp only [List.map_cons, seqs, Matches, matches_lit, ih]
      exact reads_comp.trans (reads_congr fun _ => by simp)

/-- The rounds of a repetition: some words, none of them empty. -/
theorem matches_star (hr : ∀ a b, r.Matches a b ↔ Reads p a b) :
    (star greedy r).Matches a b ↔ Reads (fun word => ∃ words : List (List Char),
      (∀ u ∈ words, p u ∧ u ≠ []) ∧ word = words.flatten) a b := by
  constructor
  · intro h
    induction h with
    | refl => exact ⟨[], a.rest, ⟨[], nofun, rfl⟩, rfl, rfl⟩
    | tail _ hstep ih =>
        obtain ⟨_, _, ⟨words, hwords, rfl⟩, hrest, rfl⟩ := ih
        obtain ⟨hmatches, hless⟩ := hstep
        obtain ⟨u, rest, hu, rfl, rfl⟩ := (hr _ _).mp hmatches
        have hne : u ≠ [] := by
          rintro rfl
          simp at hless
        refine ⟨_, rest, ⟨words ++ [u], ?_, rfl⟩, by simp [hrest], by simp⟩
        intro w hw
        rcases List.mem_append.mp hw with hw | hw
        · exact hwords w hw
        · exact List.mem_singleton.mp hw ▸ ⟨hu, hne⟩
  · rintro ⟨_, rest, ⟨words, hwords, rfl⟩, hrest, rfl⟩
    induction words generalizing a with
    | nil =>
        obtain ⟨before, _, groups⟩ := a
        obtain rfl := hrest
        exact .refl
    | cons u words ih =>
        rw [List.forall_mem_cons] at hwords
        rw [List.flatten_cons, List.append_assoc] at hrest
        have hstep : r.Matches a ⟨u.reverse ++ a.before, words.flatten ++ rest, a.groups⟩ :=
          (hr _ _).mpr ⟨u, _, hwords.1.1, hrest, rfl⟩
        have hless : (words.flatten ++ rest).length < a.rest.length := by
          have := List.length_pos_iff.mpr hwords.1.2
          simp only [hrest, List.length_append]
          omega
        refine .head ⟨hstep, hless⟩ ?_
        rw [List.flatten_cons, List.reverse_append, List.append_assoc]
        exact @ih ⟨u.reverse ++ a.before, words.flatten ++ rest, a.groups⟩ hwords.2 rfl

/-- The characters of a class, as many as there may be. -/
theorem matches_star_one : (star greedy (one accepts)).Matches a b
    ↔ Reads (fun word => ∀ c ∈ word, accepts c = true) a b := by
  refine (matches_star fun a b => matches_one).trans (reads_congr fun word => ?_)
  constructor
  · rintro ⟨words, hwords, rfl⟩ c hc
    obtain ⟨u, hu, hcu⟩ := List.mem_flatten.mp hc
    obtain ⟨⟨d, hd, rfl⟩, -⟩ := hwords u hu
    exact List.mem_singleton.mp hcu ▸ hd
  · intro hword
    refine ⟨word.map ([·]), ?_, by rw [← List.flatMap_def, List.flatMap_singleton']⟩
    intro u hu
    obtain ⟨c, hc, rfl⟩ := List.mem_map.mp hu
    exact ⟨⟨c, hword c hc, rfl⟩, List.cons_ne_nil _ _⟩

theorem matches_plus_one : (plus (one accepts)).Matches a b
    ↔ Reads (fun word => word ≠ [] ∧ ∀ c ∈ word, accepts c = true) a b := by
  refine (matches_seq (fun _ _ => matches_one) fun _ _ => matches_star_one).trans (reads_congr fun word => ?_)
  cases word with
  | nil => simp
  | cons d word => simp

/-- The characters of a class, at most so many. -/
theorem matches_upTo_one {bound : ℕ} : (upTo bound (one accepts)).Matches a b
    ↔ Reads (fun word => word.length ≤ bound ∧ ∀ c ∈ word, accepts c = true) a b := by
  induction bound generalizing a with
  | zero => exact reads_nil.symm.trans (reads_congr fun word => by cases word <;> simp)
  | succ bound ih =>
      have hmore : (upTo (bound + 1) (one accepts)).Matches a b
          ↔ a = b ∨ ∃ c, (one accepts).Matches a c ∧ (upTo bound (one accepts)).Matches c b := Iff.rfl
      rw [hmore, ← reads_nil]
      simp only [ih, matches_one, reads_comp, ← reads_or]
      refine reads_congr fun word => ?_
      cases word with
      | nil => simp
      | cons d word => simp [and_left_comm]

/-- The characters of a class fill the rest of the text, the last line break included. -/
theorem matches_toEnd (hnewline : accepts '\n' = true)
    (h : (seqs [star greedy (one accepts), atEnd]).Matches a b) :
    b.groups = a.groups ∧ ∀ c ∈ a.rest, accepts c = true := by
  obtain ⟨c, hstar, d, ⟨hend, rfl⟩, rfl⟩ := h
  obtain ⟨word, rest, hword, hrest, rfl⟩ := matches_star_one.mp hstar
  refine ⟨rfl, ?_⟩
  rw [hrest]
  intro c hc
  rcases List.mem_append.mp hc with hc | hc
  · exact hword c hc
  · rcases hend with rfl | rfl
    · exact absurd hc List.not_mem_nil
    · exact List.mem_singleton.mp hc ▸ hnewline

theorem exists_matches_toEnd (h : ∀ c ∈ a.rest, accepts c = true) :
    ∃ b, (seqs [star greedy (one accepts), atEnd]).Matches a b :=
  ⟨_, _, matches_star_one.mpr ⟨a.rest, [], h, by simp, rfl⟩, _, ⟨.inl rfl, rfl⟩, rfl⟩

/-- A group keeps what its body has read. -/
theorem matches_group {index : ℕ} (hr : ∀ b, r.Matches a b ↔ Reads p a b) :
    (group index r).Matches a b ↔ ∃ word rest, p word ∧ a.rest = word ++ rest
      ∧ b = ⟨word.reverse ++ a.before, rest, (index, word) :: a.groups⟩ := by
  have hgroup : (group index r).Matches a b ↔ ∃ c, Reads p a c ∧
      b = ⟨c.before, c.rest, (index, a.rest.take (a.rest.length - c.rest.length)) :: c.groups⟩ :=
    exists_congr fun c => and_congr_left fun _ => hr c
  rw [hgroup]
  constructor
  · rintro ⟨_, ⟨word, rest, hword, hrest, rfl⟩, rfl⟩
    exact ⟨word, rest, hword, hrest, by simp [hrest]⟩
  · rintro ⟨word, rest, hword, hrest, rfl⟩
    exact ⟨_, ⟨word, rest, hword, hrest, rfl⟩, by simp [hrest]⟩

end Reading

/-! ## What is found

The functions of the library, in terms of the meaning. -/

/-- The match is one of the expression, at its place. -/
def Found.Of (r : Regex) (found : Found) : Prop :=
  r.Matches ⟨found.before.reverse, found.word ++ found.after, []⟩
    ⟨found.word.reverse ++ found.before.reverse, found.after, found.groups⟩

section Finding

variable {r : Regex} {before rest text : List Char} {found : Found} {fuel : ℕ}

theorem matchFrom_isSome : (r.matchFrom before rest).isSome ↔ ∃ c, r.Matches ⟨before, rest, []⟩ c := by
  simp only [matchFrom, Option.isSome_map, List.isSome_head?, ne_eq, List.eq_nil_iff_forall_not_mem,
    not_forall, not_not, mem_run]

theorem matchFrom_spec (h : r.matchFrom before rest = some found) :
    found.before = before.reverse ∧ rest = found.word ++ found.after ∧ found.Of r := by
  obtain ⟨⟨before', after, groups⟩, hc, rfl⟩ := Option.map_eq_some_iff.mp h
  have hmatches := mem_run.mp (List.mem_of_mem_head? hc)
  obtain ⟨word, hrest, hbefore⟩ := hmatches.passes
  simp only at hrest hbefore
  subst hrest hbefore
  simpa [Found.Of] using hmatches

/-- **What is found is a match.** -/
theorem searchFrom_spec (h : r.searchFrom before rest = some found) : ∃ skipped,
    rest = skipped ++ (found.word ++ found.after) ∧ found.before = before.reverse ++ skipped ∧
      found.Of r := by
  induction rest generalizing before with
  | nil =>
      obtain ⟨hbefore, hrest, hof⟩ := matchFrom_spec h
      exact ⟨[], hrest, by simp [hbefore], hof⟩
  | cons d rest ih =>
      rw [searchFrom, Option.or_eq_some_iff] at h
      rcases h with h | ⟨-, h⟩
      · obtain ⟨hbefore, hrest, hof⟩ := matchFrom_spec h
        exact ⟨[], hrest, by simp [hbefore], hof⟩
      · obtain ⟨skipped, hrest, hbefore, hof⟩ := ih h
        exact ⟨d :: skipped, congrArg (d :: ·) hrest, by simp [hbefore], hof⟩

theorem matchFrom_start (h : r.matchFrom before rest = some found) : found.start = before.length := by
  rw [Found.start, (matchFrom_spec h).1, List.length_reverse]

/-- **A search finds the first place**: there is no match before. -/
theorem searchFrom_first (h : r.searchFrom before rest = some found) {u v : List Char}
    (hrest : rest = u ++ v) (hless : before.length + u.length < found.start) {c : Cursor} :
    ¬ r.Matches ⟨u.reverse ++ before, v, []⟩ c := by
  induction rest generalizing before u with
  | nil => exact absurd (matchFrom_start h) (by omega)
  | cons d rest ih =>
      rw [searchFrom, Option.or_eq_some_iff] at h
      rcases h with h | ⟨hnone, h⟩
      · exact absurd (matchFrom_start h) (by omega)
      · cases u with
        | nil =>
            obtain rfl : d :: rest = v := hrest
            intro hmatches
            have hsome := matchFrom_isSome.mpr ⟨c, hmatches⟩
            rw [List.reverse_nil, List.nil_append, hnone] at hsome
            exact absurd hsome Bool.false_ne_true
        | cons e u =>
            obtain ⟨rfl, rfl⟩ := List.cons_eq_cons.mp hrest
            simp only [List.length_cons] at hless
            have hlater := ih h rfl (by rw [List.length_cons]; omega)
            rwa [List.reverse_cons, List.append_assoc]

theorem searchFrom_isSome : (r.searchFrom before rest).isSome
    ↔ ∃ u v, rest = u ++ v ∧ ∃ c, r.Matches ⟨u.reverse ++ before, v, []⟩ c := by
  induction rest generalizing before with
  | nil => simp [searchFrom, matchFrom_isSome]
  | cons d rest ih =>
      rw [searchFrom, Option.isSome_or, Bool.or_eq_true, matchFrom_isSome, ih]
      constructor
      · rintro (h | ⟨u, v, rfl, h⟩)
        · exact ⟨[], d :: rest, rfl, h⟩
        · exact ⟨d :: u, v, rfl, by simpa using h⟩
      · rintro ⟨_ | ⟨e, u⟩, v, hrest, h⟩
        · exact .inl (hrest ▸ h)
        · obtain ⟨rfl, rfl⟩ := List.cons_eq_cons.mp hrest
          exact .inr ⟨u, v, rfl, by simpa using h⟩

/-- **What is iterated over is matches** in the text. -/
theorem findFrom_spec (h : found ∈ r.findFrom fuel before rest) :
    found.upTo ++ found.after = before.reverse ++ rest ∧ before.length ≤ found.start ∧ found.Of r := by
  induction fuel generalizing before rest with
  | zero => exact absurd h List.not_mem_nil
  | succ fuel ih =>
      rw [findFrom] at h
      split at h
      · exact absurd h List.not_mem_nil
      · rename_i next hnext
        obtain ⟨skipped, hrest, hbefore, hof⟩ := searchFrom_spec hnext
        have htext : next.upTo ++ next.after = before.reverse ++ rest := by
          simp [Found.upTo, hbefore, hrest]
        rcases List.mem_cons.mp h with rfl | h
        · exact ⟨htext, by simp [Found.start, hbefore], hof⟩
        · obtain ⟨htext', hstart, hof'⟩ := ih h
          rw [List.reverse_reverse, htext] at htext'
          have hlength : before.length ≤ next.upTo.reverse.length := by
            simp [Found.upTo, hbefore]
            omega
          exact ⟨htext', Nat.le_trans hlength hstart, hof'⟩

theorem findIter_spec (h : found ∈ r.findIter text) : found.upTo ++ found.after = text ∧ found.Of r :=
  ⟨(findFrom_spec h).1, (findFrom_spec h).2.2⟩

/-- **One match ends before the next one starts.** -/
theorem findFrom_pairwise : (r.findFrom fuel before rest).Pairwise fun f g => f.stop ≤ g.start := by
  induction fuel generalizing before rest with
  | zero => exact .nil
  | succ fuel ih =>
      rw [findFrom]
      split
      · exact .nil
      · refine .cons (fun g hg => ?_) ih
        simpa [Found.stop] using (findFrom_spec hg).2.1

theorem findIter_pairwise : (r.findIter text).Pairwise fun f g => f.stop ≤ g.start := findFrom_pairwise

/-- **No match is missed**: where one could start, one has been found. -/
theorem findFrom_covers (hr : ∀ a b, r.Matches a b → b.rest.length < a.rest.length)
    {u v : List Char} {c : Cursor} (h : r.Matches ⟨u.reverse ++ before, v, []⟩ c) (hrest : rest = u ++ v)
    (hfuel : rest.length < fuel) :
    ∃ found ∈ r.findFrom fuel before rest,
      found.start ≤ before.length + u.length ∧ before.length + u.length < found.stop := by
  induction fuel generalizing before rest u with
  | zero => omega
  | succ fuel ih =>
      rw [findFrom]
      split
      · rename_i hnone
        have hsome := searchFrom_isSome.mpr ⟨u, v, hrest, c, h⟩
        rw [hnone] at hsome
        exact absurd hsome Bool.false_ne_true
      · rename_i next hnext
        obtain ⟨skipped, hrest', hbefore, hof⟩ := searchFrom_spec hnext
        have hfirst : next.start ≤ before.length + u.length :=
          Nat.not_lt.mp fun hless => searchFrom_first hnext hrest hless h
        by_cases hstop : before.length + u.length < next.stop
        · exact ⟨next, List.mem_cons_self, hfirst, hstop⟩
        · -- the match stands in what is left
          have hupTo : next.upTo = before.reverse ++ (skipped ++ next.word) := by
            rw [Found.upTo, hbefore, List.append_assoc]
          have hread : next.after.length < (next.word ++ next.after).length := hr _ _ hof
          have hlength : (skipped ++ next.word).length ≤ u.length := by
            rw [Found.stop, hupTo, List.length_append, List.length_reverse] at hstop
            omega
          rw [← List.append_assoc] at hrest'
          obtain ⟨w, rfl⟩ := List.prefix_of_prefix_length_le ⟨_, hrest'.symm⟩ ⟨_, hrest.symm⟩ hlength
          rw [hrest', List.append_assoc _ w] at hrest
          have hafter := List.append_cancel_left hrest
          have hmatches : r.Matches ⟨w.reverse ++ next.upTo.reverse, v, []⟩ c := by
            simpa [hupTo] using h
          have hless : next.after.length < fuel := by
            simp only [hrest', List.length_append] at hfuel hread
            omega
          obtain ⟨found, hfound, hle, hlt⟩ := ih hmatches hafter hless
          refine ⟨found, List.mem_cons_of_mem _ hfound, ?_⟩
          simp only [hupTo, List.length_append, List.length_reverse] at hle hlt ⊢
          omega

theorem findIter_covers (hr : ∀ a b, r.Matches a b → b.rest.length < a.rest.length)
    {u v : List Char} {c : Cursor} (h : r.Matches ⟨u.reverse, v, []⟩ c) (htext : text = u ++ v) :
    ∃ found ∈ r.findIter text, found.start ≤ u.length ∧ u.length < found.stop := by
  obtain ⟨found, hfound, hle, hlt⟩ :=
    findFrom_covers hr (by rwa [List.append_nil]) htext (Nat.lt_succ_self _)
  exact ⟨found, hfound, by simpa using hle, by simpa using hlt⟩

end Finding

end Regex

end ReviewSignal
