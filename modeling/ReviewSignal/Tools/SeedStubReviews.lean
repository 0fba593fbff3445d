import ReviewSignal.Foundations.Pages
import ReviewSignal.Ingestion.Conservation
import ReviewSignal.Ingestion.Termination
import Mathlib.Data.List.Sort

/-!
# Seeding a synthetic corpus

`tools/seed_stub_reviews.py` draws reviews from a seeded generator, relative to the clock, and runs the
ingestion service over an adapter that serves them page by page.

* `Rng` — what the tool uses of `random.Random`, with nothing assumed of the numbers that are drawn;
* `buildReviews_add` — another clock gives the same reviews at other times, in the same order;
* `isWalk_stubAnswers` — the pages served are a whole walk, so a seeding that nothing disturbs comes to its
  end and returns what it counted (`seedCorpus_spec`);
* **`reseed_ages`** — seeding again moves the times a review was updated and replied to, and nothing else: no
  review comes anew, and none gets a later `created_at`.

The docstring of the tool says the opposite of the last point, that running it again keeps the corpus within
the window of the last seven days.  The windows are over `created_at`, and the update path of `upsert` never
writes it.
-/

namespace ReviewSignal

/-- `random.Random`, and the microseconds of a `timedelta` of days and hours.  `σ` is what a generator has
for its state. -/
structure Rng (σ : Type) where
  seeded : ℤ → σ
  random : σ → ℚ × σ
  uniform : ℚ → ℚ → σ → ℚ × σ
  randint : ℤ → ℤ → σ → ℤ × σ
  choice : ∀ {α : Type} (pool : List α), pool ≠ [] → σ → {x // x ∈ pool} × σ
  choices : ∀ {α : Type} (population : List α), List ℕ → population ≠ [] → σ → {x // x ∈ population} × σ
  timedelta : ℚ → ℚ → ℤ

namespace SeedStubReviews

variable {σ : Type} (rng : Rng σ)

/-! ## What is drawn

The generator is threaded through the draws in the order of the source. -/

/-- `_REVIEWER_FIRST_NAMES` -/
def reviewerFirstNames : List String :=
  ["Alex", "Jordan", "Taylor", "Morgan", "Casey", "Riley", "Jamie", "Sam", "Avery", "Quinn", "Hana", "Minh",
    "Priya", "Diego", "Fatima", "Owen"]

/-- `_REVIEWER_LAST_INITIALS` -/
def reviewerLastInitials : List Char := "ABCDEFGHJKLMNPQRSTVW".toList

/-- `_POSITIVE_TEXTS` -/
def positiveTexts : List String :=
  ["Prints came out sharp and the colours matched the originals exactly.",
    "Booked online in two minutes and the order was ready ahead of the quoted time.",
    "The framing job looked better than the photo I brought in.",
    "Staff walked me through paper options without being pushy about the upsell.",
    "Same-day pickup, no surprises on the price at the counter.",
    "Reprinted a faded photo from decades ago and it looks brand new.",
    "Easy to reach on the phone and they remembered my order from last time.",
    "Large canvas print arrived well packed and exactly the size I ordered.",
    "Helpful with a rush order for a gift, went out of their way to fit me in.",
    "Consistent quality every time I've used them this year."]

/-- `_NEUTRAL_TEXTS` -/
def neutralTexts : List String :=
  ["Prints were fine, nothing stood out either way.",
    "Took a bit longer than expected but the results were acceptable.",
    "Price was about average for the area, quality matched that.",
    "Booking system worked but the confirmation email was delayed.",
    "Did the job. Would use again if nothing closer opens up."]

/-- `_NEGATIVE_TEXTS` -/
def negativeTexts : List String :=
  ["Order was ready two days after the promised date with no notice.",
    "Charged more at pickup than the online quote showed.",
    "Colours were noticeably off compared to the digital file I submitted.",
    "Stood at the counter for ten minutes before anyone acknowledged me.",
    "Frame arrived with a visible scratch and no offer to fix it.",
    "Had to call twice to find out my order had actually arrived.",
    "Website said in stock but the paper size I wanted wasn't available in store."]

/-- `_REPLY_POSITIVE` -/
def replyPositive : List String :=
  ["Thank you for the kind words, we'll pass this along to the team!",
    "So glad it turned out the way you wanted. See you next time!"]

/-- `_REPLY_NEGATIVE` -/
def replyNegative : List String :=
  ["Sorry we fell short here. Please reach out so we can make this right.",
    "This isn't the experience we aim for. Contact us directly and we'll fix it."]

/-- `_REPLY_NEUTRAL` -/
def replyNeutral : List String := ["Thanks for the feedback, we're always looking to improve."]

/-- `_rating` -/
def rating (s : σ) : ℤ × σ :=
  let (drawn, s) := rng.choices [5, 4, 3, 2, 1] [40, 25, 12, 10, 13] (List.cons_ne_nil _ _) s
  (drawn.val, s)

/-- `rng.choice(pool)` -/
def draw {α : Type} (pool : List α) (hpool : pool ≠ []) (s : σ) : α × σ :=
  let (drawn, s) := rng.choice pool hpool s
  (drawn.val, s)

/-- `_text_for` -/
def textFor (rating : ℤ) (s : σ) : Option String × σ :=
  let (chance, s) := rng.random s
  if chance < 12 / 100 then (none, s)
  else
    let (text, s) :=
      if 4 ≤ rating then draw rng positiveTexts (List.cons_ne_nil _ _) s
      else if rating = 3 then draw rng neutralTexts (List.cons_ne_nil _ _) s
      else draw rng negativeTexts (List.cons_ne_nil _ _) s
    (some text, s)

theorem reviewerLastInitials_ne_nil : reviewerLastInitials ≠ [] := by
  decide

/-- `_reviewer_name` -/
def reviewerName (s : σ) : Option String × σ :=
  let (chance, s) := rng.random s
  if chance < 15 / 100 then (none, s)
  else
    let (first, s) := draw rng reviewerFirstNames (List.cons_ne_nil _ _) s
    let (initial, s) := draw rng reviewerLastInitials reviewerLastInitials_ne_nil s
    (some (first ++ " " ++ String.singleton initial ++ "."), s)

/-- `_owner_reply` -/
def ownerReply (rating : ℤ) (createdAt : Instant) (s : σ) : (Option String × Option Instant) × σ :=
  let (chance, s) := rng.random s
  if 3 / 10 < chance then ((none, none), s)
  else
    let (days, s) := rng.randint 1 5 s
    let (hours, s) := rng.randint 0 23 s
    let (text, s) :=
      if 4 ≤ rating then draw rng replyPositive (List.cons_ne_nil _ _) s
      else if rating ≤ 2 then draw rng replyNegative (List.cons_ne_nil _ _) s
      else draw rng replyNeutral (List.cons_ne_nil _ _) s
    ((some text, some (createdAt + (days * 86400000000 + hours * 3600000000))), s)

/-- The `source_review_id` of the `i`-th review. -/
def stubId (i : ℕ) : String := "stub-" ++ String.ofList ((Nat.toDigits 10 i).leftpad 4 '0')

/-- The `i`-th review. -/
def draft (now : Instant) (i : ℕ) (s : σ) : NormalizedReview × σ :=
  let (rating, s) := rating rng s
  let (days, s) := rng.uniform 0 180 s
  let (hours, s) := rng.uniform 0 24 s
  let createdAt := now - rng.timedelta days hours
  let ((replyText, replyAt), s) := ownerReply rng rating createdAt s
  let (reviewText, s) := textFor rng rating s
  let (reviewerName, s) := reviewerName rng s
  ({ sourceReviewId := stubId i
     rating := rating
     reviewText := reviewText
     reviewerName := reviewerName
     createdAt := createdAt
     updatedAt := createdAt
     ownerReplyText := replyText
     ownerReplyAt := replyAt
     language := "en"
     rawPayload := .obj [("synthetic", .bool true), ("generator", .str "tools/seed_stub_reviews.py"),
       ("source_review_id", .str (stubId i)), ("rating", .num rating)] }, s)

/-- The loop of `build_reviews`. -/
def drafts (now : Instant) : List ℕ → σ → List NormalizedReview
  | [], _ => []
  | i :: is, s => (draft rng now i s).1 :: drafts now is (draft rng now i s).2

/-- `build_reviews` -/
def buildReviews (count : ℕ) (seed : ℤ) (now : Instant) : List NormalizedReview :=
  (drafts rng now (List.range count) (rng.seeded seed)).insertionSort fun a b => b.createdAt ≤ a.createdAt

/-! ## How it is served

Pages of one size, each with the number of the next one as its cursor. -/

/-- `_pages` -/
def stubPages (reviews : List NormalizedReview) (pageSize : ℕ) : List (List NormalizedReview) :=
  let pages := (List.range ((reviews.length + pageSize - 1) / pageSize)).map fun k => page pageSize k reviews
  if pages.isEmpty then [[]] else pages

/-- The answers of `fetch_page`, in turn. -/
def stubAnswers (reviews : List NormalizedReview) (pageSize : ℕ) : List ReviewPage :=
  (stubPages reviews pageSize).mapIdx fun index page =>
    ⟨page, if index + 1 < (stubPages reviews pageSize).length then some (toString (index + 1)) else none, 0⟩

/-- `StubReviewSourceAdapter`.  It looks at its own `_index`, which is the number of the call. -/
def stubAdapter (reviews : List NormalizedReview) (pageSize : ℕ) : ReviewSourceAdapter where
  source := "stub"
  fetchPage call _ :=
    match (stubAnswers reviews pageSize)[call]? with
    | none => .error ⟨"IndexError", "list index out of range"⟩
    | some page => .ok page

/-- `seed_corpus`, at some time, by a process that lives long enough for so many fetches. -/
def seedCorpus (count : ℕ) (seed : ℤ) (pageSize : ℕ) (now : Instant) (lifetime : ℕ) (db : Database) :
    Ended Raised IngestionOutcome × Database :=
  ingest ((RunEnv.steady (stubAdapter (buildReviews rng count seed now) pageSize) now).withLifetime lifetime)
    .backfill db

/-! ## Another clock

The clock enters as a base that durations are subtracted from. -/

/-- The same review at another time. -/
def later (d : ℤ) (review : NormalizedReview) : NormalizedReview :=
  { review with
    createdAt := review.createdAt + d
    updatedAt := review.updatedAt + d
    ownerReplyAt := review.ownerReplyAt.map (· + d) }

variable {rng}

theorem ownerReply_add (rating : ℤ) (createdAt : Instant) (d : ℤ) (s : σ) :
    ownerReply rng rating (createdAt + d) s =
      (((ownerReply rng rating createdAt s).1.1, (ownerReply rng rating createdAt s).1.2.map (· + d)),
        (ownerReply rng rating createdAt s).2) := by
  simp only [ownerReply]
  split_ifs with hchance
  · rfl
  all_goals
    simp only [Option.map_some, Prod.mk.injEq, Option.some.injEq, true_and, and_true]
    ring

theorem draft_add (now : Instant) (d : ℤ) (i : ℕ) (s : σ) :
    draft rng (now + d) i s = (later d (draft rng now i s).1, (draft rng now i s).2) := by
  simp only [draft, add_sub_right_comm, ownerReply_add, later]

theorem drafts_add (now : Instant) (d : ℤ) (is : List ℕ) (s : σ) :
    drafts rng (now + d) is s = (drafts rng now is s).map (later d) := by
  induction is generalizing s with
  | nil => rfl
  | cons i is ih => rw [drafts, drafts, draft_add, List.map_cons, ih]

/-- **Another clock gives the same reviews at other times**, in the same order. -/
theorem buildReviews_add (count : ℕ) (seed : ℤ) (now : Instant) (d : ℤ) :
    buildReviews rng count seed (now + d) = (buildReviews rng count seed now).map (later d) := by
  rw [buildReviews, buildReviews, drafts_add]
  refine (List.map_insertionSort _ _ _ _ fun a _ b _ => ?_).symm
  exact (add_le_add_iff_right d).symm

theorem ids_drafts (now : Instant) (is : List ℕ) (s : σ) :
    (drafts rng now is s).map (·.sourceReviewId) = is.map stubId := by
  induction is generalizing s with
  | nil => rfl
  | cons i is ih =>
      rw [drafts, List.map_cons, List.map_cons, ih]
      rfl

/-- Zeros in front do not change what digits say. -/
theorem stubId_injective : Function.Injective stubId := by
  intro i j h
  have hdigits : (Nat.toDigits 10 i).leftpad 4 '0' = (Nat.toDigits 10 j).leftpad 4 '0' := by
    have htexts := congrArg String.toList h
    simp only [stubId, String.toList_append, String.toList_ofList] at htexts
    exact List.append_cancel_left htexts
  have hread (n : ℕ) : Nat.ofDigitChars 10 ((Nat.toDigits 10 n).leftpad 4 '0') 0 = n := by
    rw [List.leftpad, Nat.ofDigitChars_append, Nat.ofDigitChars_replicate_zero, Nat.mul_zero,
      Nat.ofDigitChars_ten_toDigits]
  rw [← hread i, hdigits, hread]

theorem ids_buildReviews (count : ℕ) (seed : ℤ) (now : Instant) :
    ((buildReviews rng count seed now).map (·.sourceReviewId)).Perm ((List.range count).map stubId) := by
  rw [← ids_drafts now (List.range count) (rng.seeded seed)]
  exact (List.perm_insertionSort _ _).map _

theorem nodup_buildReviews (count : ℕ) (seed : ℤ) (now : Instant) :
    ((buildReviews rng count seed now).map (·.sourceReviewId)).Nodup :=
  (ids_buildReviews count seed now).nodup_iff.mpr (List.nodup_range.map stubId_injective)

theorem length_buildReviews (count : ℕ) (seed : ℤ) (now : Instant) :
    (buildReviews rng count seed now).length = count := by
  have h := (@ids_buildReviews σ rng count seed now).length_eq
  rwa [List.length_map, List.length_map, List.length_range] at h

/-! ## What is served

The walk over the adapter, from page to page. -/

variable {reviews : List NormalizedReview} {pageSize : ℕ}

theorem stubPages_ne_nil : stubPages reviews pageSize ≠ [] := by
  rw [stubPages]
  split_ifs with hempty
  · exact List.cons_ne_nil _ _
  · exact fun h => hempty (List.isEmpty_iff.mpr h)

/-- The pages are the reviews, in order. -/
theorem flatten_stubPages (hsize : 0 < pageSize) : (stubPages reviews pageSize).flatten = reviews := by
  have hall : ((List.range ((reviews.length + pageSize - 1) / pageSize)).map fun k =>
      page pageSize k reviews).flatten = reviews := by
    rw [← List.flatMap_def, flatMap_page, List.take_of_length_le]
    have hdiv := @Nat.lt_div_mul_add (reviews.length + pageSize - 1) pageSize hsize
    omega
  rw [stubPages]
  split_ifs with hempty
  · rw [List.isEmpty_iff] at hempty
    rw [hempty] at hall
    simpa using hall
  · exact hall

theorem length_stubPages_le (hsize : 0 < pageSize) :
    (stubPages reviews pageSize).length ≤ reviews.length + 1 := by
  rw [stubPages]
  split_ifs
  · simp
  · rw [List.length_map, List.length_range]
    refine Nat.le_of_lt_succ ((Nat.div_lt_iff_lt_mul hsize).mpr ?_)
    have hmul := Nat.le_mul_of_pos_right reviews.length hsize
    rw [Nat.succ_mul, Nat.add_mul]
    omega

theorem length_stubAnswers : (stubAnswers reviews pageSize).length = (stubPages reviews pageSize).length :=
  List.length_mapIdx

/-- All pages but the last have a cursor. -/
theorem nextCursor_stubAnswers {k : ℕ} {page : ReviewPage}
    (h : (stubAnswers reviews pageSize)[k]? = some page) :
    page.nextCursor
      = if k + 1 < (stubAnswers reviews pageSize).length then some (toString (k + 1)) else none := by
  rw [length_stubAnswers]
  rw [stubAnswers, List.getElem?_mapIdx] at h
  obtain ⟨items, -, rfl⟩ := Option.map_eq_some_iff.mp h
  rfl

theorem listed_stubAnswers (hsize : 0 < pageSize) : listed (stubAnswers reviews pageSize) = reviews := by
  have hreviews : (stubAnswers reviews pageSize).map (·.reviews) = stubPages reviews pageSize := by
    refine List.ext_getElem? fun k => ?_
    rw [List.getElem?_map, stubAnswers, List.getElem?_mapIdx, Option.map_map]
    exact Option.map_id'
  rw [listed, List.flatMap_def, hreviews, flatten_stubPages hsize]

/-- A source that serves pages in turn is walked from page to page. -/
theorem iterPages_stubAdapter (call : ℕ) (cursor : Option String) (n : ℕ)
    (hn : (stubAnswers reviews pageSize).length ≤ call + n) :
    iterPages (stubAdapter reviews pageSize) call cursor n = (stubAnswers reviews pageSize).drop call := by
  induction n generalizing call cursor with
  | zero =>
      rw [iterPages, List.drop_eq_nil_of_le (by omega)]
  | succ n ih =>
      cases hpage : (stubAnswers reviews pageSize)[call]? with
      | none =>
          have hfetch : (stubAdapter reviews pageSize).fetchPage call cursor
              = .error ⟨"IndexError", "list index out of range"⟩ := by
            simp only [stubAdapter, hpage]
          rw [iterPages_succ_of_error hfetch, List.drop_eq_nil_of_le (List.getElem?_eq_none_iff.mp hpage)]
      | some page =>
          have hfetch : (stubAdapter reviews pageSize).fetchPage call cursor = .ok page := by
            simp only [stubAdapter, hpage]
          obtain ⟨hcall, hget⟩ := List.getElem?_eq_some_iff.mp hpage
          rw [iterPages_succ_of_ok hfetch, List.drop_eq_getElem_cons hcall, hget]
          refine congrArg (page :: ·) ?_
          cases hnext : page.nextCursor with
          | some next => exact ih _ _ (by omega)
          | none =>
              -- only the last page has no cursor
              rw [nextCursor_stubAnswers hpage] at hnext
              split_ifs at hnext with hmore
              exact (List.drop_eq_nil_of_le (not_lt.mp hmore)).symm

theorem isWalk_stubAnswers : IsWalk (stubAdapter reviews pageSize) (stubAnswers reviews pageSize) := by
  refine ⟨iterPages_stubAdapter 0 none _ (Nat.le_add_left _ _), ?_⟩
  have hpositive : 0 < (stubAnswers reviews pageSize).length := by
    rw [length_stubAnswers]
    exact List.length_pos_of_ne_nil stubPages_ne_nil
  have hlast : (stubAnswers reviews pageSize)[(stubAnswers reviews pageSize).length - 1]?
      = some (stubAnswers reviews pageSize)[(stubAnswers reviews pageSize).length - 1] :=
    List.getElem?_eq_getElem (by omega)
  refine ⟨_, List.getLast?_eq_getElem?.trans hlast, ?_⟩
  rw [nextCursor_stubAnswers hlast, if_neg (by omega)]

/-! ## A run that nothing disturbs

No fetch, query or commit raises, and the process lives long enough. -/

/-- A run that nothing disturbs comes to the end of its walk. -/
theorem stop_of_steady {adapter : ReviewSourceAdapter} {started : Instant} {lifetime : ℕ}
    {pages : List ReviewPage} {last : ReviewPage} {call fuel : ℕ} {cursor : Option String}
    (hpages : iterPages adapter call cursor pages.length = pages) (hlast : pages.getLast? = some last)
    (hend : last.nextCursor = none) (hfuel : pages.length ≤ fuel) :
    (flow ((RunEnv.steady adapter started).withLifetime lifetime) none fuel call cursor).stop = none := by
  induction pages generalizing call fuel cursor with
  | nil => cases hlast
  | cons page pages ih =>
      obtain ⟨fuel, rfl⟩ := Nat.exists_eq_succ_of_ne_zero (by simp at hfuel; omega : fuel ≠ 0)
      cases hfetch : adapter.fetchPage call cursor with
      | error exc =>
          rw [List.length_cons, iterPages_succ_of_error hfetch] at hpages
          cases hpages
      | ok first =>
          rw [List.length_cons, iterPages_succ_of_ok hfetch] at hpages
          obtain ⟨rfl, hrest⟩ := List.cons.inj hpages
          have hfetches : fetches ((RunEnv.steady adapter started).withLifetime lifetime) call cursor
              = .ok first := by
            rw [fetches_withLifetime, fetches_steady, hfetch]
            rfl
          have hdone : (upserts ((RunEnv.steady adapter started).withLifetime lifetime) call 0
              (reached none first.reviews)).2 = none := by
            rw [upserts_withLifetime, upserts_steady]
          cases hnext : first.nextCursor with
          | none => rw [flow_of_last hfetches hdone rfl (.inr hnext)]
          | some next =>
              rw [hnext] at hrest
              rw [flow_of_next hfetches hdone rfl (exhausted_none first) hnext]
              cases pages with
              | nil =>
                  obtain rfl : first = last := Option.some.inj hlast
                  rw [hend] at hnext
                  cases hnext
              | cons second pages => exact ih hrest hlast (by simpa using hfuel)

/-- And returns what it counted. -/
theorem returned_of_steady {adapter : ReviewSourceAdapter} {started : Instant} {lifetime : ℕ}
    {pages : List ReviewPage} {db : Database} (hwalk : IsWalk adapter pages)
    (hlifetime : pages.length ≤ lifetime) :
    ∃ outcome, (ingest ((RunEnv.steady adapter started).withLifetime lifetime) .backfill db).1
      = .returned outcome := by
  obtain ⟨hpages, last, hlast, hend⟩ := hwalk
  have hstop :=
    @stop_of_steady adapter started lifetime pages last 0 lifetime none hpages hlast hend hlifetime
  have hverdict : verdict ((RunEnv.steady adapter started).withLifetime lifetime) .backfill none
      = .succeeded := by
    have hentry : ((RunEnv.steady adapter started).withLifetime lifetime).firstHalt (entryPoints .backfill)
        = none := rfl
    have hlast : ((RunEnv.steady adapter started).withLifetime lifetime).haltAt .finishCommit = none := rfl
    have hflow : (flow ((RunEnv.steady adapter started).withLifetime lifetime) none
        ((RunEnv.steady adapter started).withLifetime lifetime).lifetime 0 none).stop = none := hstop
    rw [verdict, hentry]
    dsimp only
    rw [hflow, ending, hlast]
  rw [ingest_eq, Mode.stopAt, hverdict]
  exact ⟨_, rfl⟩

/-! ## Seeding and seeding again

The second seeding finds the rows of the first one. -/

open ReviewRepository

/-- What an upsert does is a matter of the row there was. -/
theorem outcome_upsert_congr {source : String} {review : NormalizedReview} {table table' : ReviewTable}
    (h : table.lookup review.sourceReviewId = table'.lookup review.sourceReviewId) :
    (upsert source review table).1 = (upsert source review table').1 := by
  rw [upsert, upsert, h]
  cases table'.lookup review.sourceReviewId with
  | none => rfl
  | some existing => by_cases hchanged : Changed existing review <;> simp [hchanged]

/-- Upserts of different reviews do not meet. -/
theorem outcomes_of_nodup {source : String} {table : ReviewTable}
    (hnodup : (reviews.map (·.sourceReviewId)).Nodup) :
    outcomes source reviews table = reviews.map fun review => (upsert source review table).1 := by
  induction reviews generalizing table with
  | nil => rfl
  | cons review reviews ih =>
      obtain ⟨hnot, hnodup⟩ := List.nodup_cons.mp hnodup
      rw [outcomes_cons, ih hnodup, List.map_cons]
      refine congrArg (_ :: ·) (List.map_congr_left fun other hother => outcome_upsert_congr ?_)
      rw [upsert_table]
      exact Keyed.lookup_put_of_ne fun hsame => hnot (List.mem_map.mpr ⟨other, hother, hsame⟩)

/-- What a seeding does. -/
theorem seedCorpus_spec (rng : Rng σ) {count : ℕ} {seed : ℤ} {now : Instant} {lifetime : ℕ} {db : Database}
    (hsize : 0 < pageSize) (hlifetime : count < lifetime) :
    ∃ outcome, (seedCorpus rng count seed pageSize now lifetime db).1 = .returned outcome ∧
      (∀ kind : UpsertOutcome, (∀ review ∈ buildReviews rng count seed now,
          (upsert "stub" review db.reviews).1 = kind) →
        (outcome.created, outcome.updated, outcome.unchanged) =
          match kind with
          | .created => (count, 0, 0)
          | .updated => (0, count, 0)
          | .unchanged => (0, 0, count)) ∧
      (seedCorpus rng count seed pageSize now lifetime db).2.reviews
        = storeAll "stub" (buildReviews rng count seed now) db.reviews := by
  have hwalk := @isWalk_stubAnswers (buildReviews rng count seed now) pageSize
  have hpages : (stubAnswers (buildReviews rng count seed now) pageSize).length ≤ lifetime := by
    have hle := @length_stubPages_le (buildReviews rng count seed now) pageSize hsize
    rw [length_buildReviews] at hle
    rw [length_stubAnswers]
    omega
  obtain ⟨outcome, hreturned⟩ := @returned_of_steady _ now lifetime _ db hwalk hpages
  have hreviews := reviews_of_returned hwalk hreturned
  rw [Mode.stopAt, reached_none, listed_stubAnswers hsize] at hreviews
  refine ⟨outcome, hreturned, fun kind hkind => ?_, hreviews⟩
  obtain ⟨f, hflow, hstop, houtcome, -⟩ := ingest_returned hreturned
  have hdelivered : delivered none f.pages = buildReviews rng count seed now := by
    rw [hflow]
    exact (delivered_of_stop_none hwalk (hflow ▸ hstop)).trans
      ((reached_none _).trans (listed_stubAnswers hsize))
  have houtcomes : outcomes "stub" (delivered none f.pages) db.reviews = List.replicate count kind := by
    rw [hdelivered, outcomes_of_nodup (nodup_buildReviews count seed now),
      List.map_congr_left hkind, List.map_const', length_buildReviews]
  rw [Mode.stopAt] at houtcome
  have hcounts : (outcome.created, outcome.updated, outcome.unchanged) =
      ((List.replicate count kind).count .created, (List.replicate count kind).count .updated,
        (List.replicate count kind).count .unchanged) := by
    rw [houtcome, ← houtcomes]
    rfl
  rw [hcounts]
  cases kind <;> simp [List.count_replicate]

/-- The row of a review that is seeded again at another time. -/
theorem upsertRow_later {source : String} {review : NormalizedReview} {d : ℤ} (hd : d ≠ 0) :
    Changed (createdRow source review) (later d review) ∧
      upsertRow source (later d review) (some (createdRow source review)) =
        { createdRow source review with
          updatedAt := review.updatedAt + d
          ownerReplyAt := review.ownerReplyAt.map (· + d) } := by
  have hchanged : Changed (createdRow source review) (later d review) := by
    refine .inr (.inr (.inr (.inl ?_)))
    exact fun h => hd (left_eq_add.mp h)
  refine ⟨hchanged, ?_⟩
  have htext : ¬ TextChanged (createdRow source review) (later d review) := fun h => h rfl
  rw [upsertRow, if_pos hchanged, updatedRow, if_neg htext]
  rfl

/-- **Seeding again ages the corpus.**  Where a seeding finds none of its reviews, it creates them all.  The
same one at another time updates them all and creates none: each keeps its rating, its texts, its name, its
status and the time it was created, and only the times of its update and its reply move.  Nothing else in the
table changes. -/
theorem reseed_ages (rng : Rng σ) (count : ℕ) (seed : ℤ) (pageSize : ℕ) (now : Instant) (d : ℤ)
    (lifetime : ℕ) (db : Database) (hsize : 0 < pageSize) (hd : d ≠ 0) (hlifetime : count < lifetime)
    (hfresh : ∀ i < count, stubId i ∉ db.reviews) :
    ∃ outcome₁ outcome₂ db₁ db₂,
      seedCorpus rng count seed pageSize now lifetime db = (.returned outcome₁, db₁) ∧
      seedCorpus rng count seed pageSize (now + d) lifetime db₁ = (.returned outcome₂, db₂) ∧
      (outcome₁.created, outcome₁.updated, outcome₁.unchanged) = (count, 0, 0) ∧
      (outcome₂.created, outcome₂.updated, outcome₂.unchanged) = (0, count, 0) ∧
      (∀ id, (∀ i < count, id ≠ stubId i) → db₂.reviews.lookup id = db.reviews.lookup id) ∧
      ∀ i < count, ∃ row, db₁.reviews.lookup (stubId i) = some row ∧ row.source = "stub" ∧
        db₂.reviews.lookup (stubId i) = some { row with
          updatedAt := row.updatedAt + d
          ownerReplyAt := row.ownerReplyAt.map (· + d) } := by
  obtain ⟨outcome₁, hfirst, hkinds₁, hreviews₁⟩ :=
    @seedCorpus_spec σ pageSize rng count seed now lifetime db hsize hlifetime
  obtain ⟨outcome₂, hsecond, hkinds₂, hreviews₂⟩ :=
    @seedCorpus_spec σ pageSize rng count seed (now + d) lifetime
      (seedCorpus rng count seed pageSize now lifetime db).2 hsize hlifetime
  have hnodup := @nodup_buildReviews σ rng count seed now
  have hids (review : NormalizedReview) (hreview : review ∈ buildReviews rng count seed now) :
      ∃ i < count, stubId i = review.sourceReviewId := by
    have hmem := (@ids_buildReviews σ rng count seed now).mem_iff.mp (List.mem_map_of_mem hreview)
    obtain ⟨i, hi, hsame⟩ := List.mem_map.mp hmem
    exact ⟨i, List.mem_range.mp hi, hsame⟩
  have hlookup₁ (review : NormalizedReview) (hreview : review ∈ buildReviews rng count seed now) :
      (seedCorpus rng count seed pageSize now lifetime db).2.reviews.lookup review.sourceReviewId
        = some (createdRow "stub" review) := by
    obtain ⟨i, hi, hsame⟩ := hids review hreview
    have hnone : db.reviews.lookup review.sourceReviewId = none :=
      Finmap.lookup_eq_none.mpr (hsame ▸ hfresh i hi)
    rw [hreviews₁, lookup_storeAll_of_mem (injOn_of_nodup hnodup) hreview, hnone]
    rfl
  have hlater : buildReviews rng count seed (now + d) = (buildReviews rng count seed now).map (later d) :=
    buildReviews_add count seed now d
  have hnodup₂ := @nodup_buildReviews σ rng count seed (now + d)
  rw [hlater] at hkinds₂ hreviews₂ hnodup₂
  refine ⟨outcome₁, outcome₂, _, _, Prod.ext hfirst rfl, Prod.ext hsecond rfl, ?_, ?_, ?_, ?_⟩
  · refine hkinds₁ .created fun review hreview => upsert_created_iff.mpr ?_
    obtain ⟨i, hi, hsame⟩ := hids review hreview
    exact hsame ▸ hfresh i hi
  · refine hkinds₂ .updated fun review' hreview' => ?_
    obtain ⟨review, hreview, rfl⟩ := List.mem_map.mp hreview'
    have hrow : (seedCorpus rng count seed pageSize now lifetime db).2.reviews.lookup
        (later d review).sourceReviewId = some (createdRow "stub" review) := hlookup₁ review hreview
    rw [upsert, hrow]
    simp only [(upsertRow_later hd).1, not_true_eq_false, if_false]
  · intro id hid
    have hnot : id ∉ (buildReviews rng count seed now).map (·.sourceReviewId) := by
      intro hmem
      obtain ⟨review, hreview, rfl⟩ := List.mem_map.mp hmem
      obtain ⟨i, hi, hsame⟩ := hids review hreview
      exact hid i hi hsame.symm
    have hnot₂ : id ∉ ((buildReviews rng count seed now).map (later d)).map (·.sourceReviewId) := by
      rw [List.map_map]
      exact hnot
    rw [hreviews₂, lookup_storeAll_of_notMem hnot₂, hreviews₁, lookup_storeAll_of_notMem hnot]
  · intro i hi
    have hmem : stubId i ∈ (buildReviews rng count seed now).map (·.sourceReviewId) :=
      (@ids_buildReviews σ rng count seed now).mem_iff.mpr (List.mem_map_of_mem (List.mem_range.mpr hi))
    obtain ⟨review, hreview, hsame⟩ := List.mem_map.mp hmem
    have hrow₂ := @lookup_storeAll_of_mem "stub" (later d review)
      (seedCorpus rng count seed pageSize now lifetime db).2.reviews _ (injOn_of_nodup hnodup₂)
      (List.mem_map_of_mem hreview)
    have hrow₁ : (seedCorpus rng count seed pageSize now lifetime db).2.reviews.lookup
        (later d review).sourceReviewId = some (createdRow "stub" review) := hlookup₁ review hreview
    rw [hrow₁, (upsertRow_later hd).2, ← hreviews₂] at hrow₂
    rw [← hsame]
    exact ⟨_, hlookup₁ review hreview, rfl, hrow₂⟩

/-- A generator that draws the first of what there is, and numbers halfway between their bounds. -/
def plainRng : Rng ℕ where
  seeded := Int.toNat
  random s := (1 / 2, s + 1)
  uniform low high s := ((low + high) / 2, s + 1)
  randint low high s := ((low + high) / 2, s + 1)
  choice pool hpool s := (⟨pool.head hpool, List.head_mem hpool⟩, s + 1)
  choices population _ hpopulation s := (⟨population.head hpopulation, List.head_mem hpopulation⟩, s + 1)
  timedelta days hours := ⌊days * 86400000000 + hours * 3600000000⌋

/-- Two reviews, seeded on two days. -/
theorem reseed_ages_two : ∃ outcome₁ outcome₂ db₁ db₂,
    seedCorpus plainRng 2 20260909 1 1788912000000000 3 .empty = (.returned outcome₁, db₁) ∧
      seedCorpus plainRng 2 20260909 1 (1788912000000000 + 86400000000) 3 db₁ = (.returned outcome₂, db₂) ∧
      (outcome₁.created, outcome₁.updated, outcome₁.unchanged) = (2, 0, 0) ∧
      (outcome₂.created, outcome₂.updated, outcome₂.unchanged) = (0, 2, 0) ∧
      ∀ i < 2, ∃ row, db₁.reviews.lookup (stubId i) = some row ∧ row.source = "stub" ∧
        db₂.reviews.lookup (stubId i) = some { row with
          updatedAt := row.updatedAt + 86400000000
          ownerReplyAt := row.ownerReplyAt.map (· + 86400000000) } := by
  obtain ⟨outcome₁, outcome₂, db₁, db₂, hfirst, hsecond, hcounts₁, hcounts₂, -, hrows⟩ :=
    reseed_ages plainRng 2 20260909 1 1788912000000000 86400000000 3 .empty (by decide) (by decide)
      (by decide) fun i _ => Finmap.notMem_empty
  exact ⟨outcome₁, outcome₂, db₁, db₂, hfirst, hsecond, hcounts₁, hcounts₂, hrows⟩

end SeedStubReviews

end ReviewSignal
