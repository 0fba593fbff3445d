import ReviewSignal.Integrations.GoogleClient
import ReviewSignal.Services.IngestionWalk

/-!
# What the counters of a successful run add up to

The counters of a run advance in three places: `fetched` and `unmappable` with every page, one of
`created`, `updated`, `unchanged` with every upsert, and nothing at all for the reviews an early exit
skips.

**The balance** (`Conserves`).  What was fetched was created, updated, left alone, unreadable, or lay
behind the early exit on the last page; what was created is how many keys the table gained; and the row
of the run has these numbers.  Without an early exit nothing is skipped and the four counters make up
`fetched` by themselves.

**Successful runs keep it** (`ingest_conserves_entries`), for every environment in which the run returns.
No assumption is made on the ids: an id may occur several times, on one page or on several, and is then
created once and updated or unchanged after that.  Where the adapter is Google's, what a page counts as
fetched are the entries its body lists, readable or not (`listedEntries`).

The early exit happens on the last page only, so the reviews it skips are those of that page from the
first at or below the watermark on (`unreached_listed`).  What the counters of a run that fails say is the
subject of `FailureAccounting`.
-/

namespace ReviewSignal

open IngestionService ReviewRepository

/-- The entries of the source that a page stands for, mappable or not. -/
def ReviewPage.entryCount (page : ReviewPage) : ℕ := page.reviews.length + page.unmappableCount

/-- The reviews of a page from the first one at or below the watermark on. -/
def unreached (stopAt : Option Instant) (reviews : List NormalizedReview) : List NormalizedReview :=
  reviews.dropWhile fun review => !atOrBelow stopAt review

/-- The cursor the `i`-th page of some pages was fetched with. -/
def cursorAt (cursor : Option String) (pages : List ReviewPage) : ℕ → Option String
  | 0 => cursor
  | i + 1 => pages[i]?.bind (·.nextCursor)

/-- The pages are those of a whole run: the first pages of the source, up to the one that met the
watermark or carries no cursor. -/
structure Walked (adapter : ReviewSourceAdapter) (stopAt : Option Instant)
    (pages : List ReviewPage) : Prop where
  fetched : iterPages adapter 0 none pages.length = pages
  before : ∀ page ∈ pages.dropLast, exhausted stopAt page = false
  last : ∃ last, pages.getLast? = some last ∧ (exhausted stopAt last = true ∨ last.nextCursor = none)

/-- The entries Google lists on a page. -/
def GoogleReviewSourceAdapter.listedEntries (api : GoogleApi) (client : GoogleReviewsClient)
    (call : ℕ) (cursor : Option String) : Except Exn (List Json) := do
  let envelope ← client.listReviews api call cursor
  entries ((envelope.get? "reviews").getD (.arr []))

/-- The counters of a run that walked some pages over `db` and left `db'`. -/
structure Conserves (env : RunEnv) (stopAt : Option Instant) (db db' : Database)
    (pages : List ReviewPage) (outcome : IngestionOutcome) : Prop where
  fetched : outcome.fetched = (pages.map (·.entryCount)).sum
  balance : outcome.created + outcome.updated + outcome.unchanged + outcome.unmappable
    + (pages.getLast?.elim [] fun last => unreached stopAt last.reviews).length = outcome.fetched
  unskipped : stopAt = none ∨ (∀ page ∈ pages, exhausted stopAt page = false) →
    outcome.created + outcome.updated + outcome.unchanged + outcome.unmappable = outcome.fetched
  created : outcome.created = (db'.reviews.keys \ db.reviews.keys).card
  row : ∃ run, db'.syncRuns = db.syncRuns ++ [run] ∧ run.status = .success ∧
    run.reviewsFetched = outcome.fetched ∧ run.reviewsCreated = outcome.created ∧
    run.reviewsUpdated = outcome.updated

variable {stopAt : Option Instant} {pages : List ReviewPage} {source : String} {table : ReviewTable}

/-! ## The early exit

The reviews of a page that come before the watermark, and those that do not. -/

/-- Where the watermark is not met, nothing is skipped. -/
theorem unreached_of_not_met {reviews : List NormalizedReview}
    (h : reviews.any (atOrBelow stopAt) = false) : unreached stopAt reviews = [] := by
  rw [unreached, List.dropWhile_eq_nil_iff]
  intro review hmem
  simpa using List.any_eq_false.mp h review hmem

/-- A backfill has none to meet. -/
theorem exhausted_none (page : ReviewPage) : exhausted none page = false := by
  simp [exhausted, atOrBelow]

theorem length_reached_add (reviews : List NormalizedReview) :
    (reached stopAt reviews).length + (unreached stopAt reviews).length = reviews.length := by
  rw [← List.length_append, reached, unreached, List.takeWhile_append_dropWhile]

theorem unreached_append {l₁ l₂ : List NormalizedReview} (h : l₁.any (atOrBelow stopAt) = false) :
    unreached stopAt (l₁ ++ l₂) = unreached stopAt l₂ := by
  rw [unreached, unreached, List.dropWhile_append_of_pos]
  intro review hmem
  have hno := List.any_eq_false.mp h review hmem
  simpa using hno

/-- So a run that met none leaves nothing unreached. -/
theorem unreached_last (h : stopAt = none ∨ ∀ page ∈ pages, exhausted stopAt page = false) :
    (pages.getLast?.elim [] fun last => unreached stopAt last.reviews) = [] := by
  cases hlast : pages.getLast? with
  | none => rfl
  | some last =>
      refine unreached_of_not_met ?_
      rcases h with rfl | h
      · exact exhausted_none last
      · exact h last (List.mem_of_getLast? hlast)

/-- What a whole listing leaves unreached is what its last page does. -/
theorem unreached_listed (h : ∀ page ∈ pages.dropLast, exhausted stopAt page = false) :
    unreached stopAt (listed pages)
      = pages.getLast?.elim [] fun last => unreached stopAt last.reviews := by
  induction pages with
  | nil => rfl
  | cons page pages ih =>
      cases pages with
      | nil => simp [listed]
      | cons next pages =>
          rw [List.dropLast_cons_cons] at h
          have hpage : page.reviews.any (atOrBelow stopAt) = false := h page List.mem_cons_self
          have hrest := ih fun p hp => h p (List.mem_cons_of_mem _ hp)
          rw [List.getLast?_cons_cons, ← hrest]
          exact unreached_append hpage

/-! ## The counts

One upsert advances one counter, so the three of them count the upserts; the entries the adapter could not
read were counted with their page. -/

/-- Every outcome is one of the three. -/
theorem count_outcomes (l : List UpsertOutcome) :
    l.count .created + l.count .updated + l.count .unchanged = l.length := by
  induction l with
  | nil => rfl
  | cons outcome l ih => cases outcome <;> simp <;> omega

theorem sum_entryCount : (pages.map (·.entryCount)).sum
    = (listed pages).length + (pages.map (·.unmappableCount)).sum := by
  induction pages with
  | nil => rfl
  | cons page pages ih =>
      have hlisted : (listed (page :: pages)).length = page.reviews.length + (listed pages).length :=
        List.length_append
      rw [List.map_cons, List.sum_cons, List.map_cons, List.sum_cons, ih, hlisted,
        ReviewPage.entryCount]
      omega

/-- **The balance.** -/
theorem outcomeOf_balance (h : ∀ page ∈ pages.dropLast, exhausted stopAt page = false) :
    (outcomeOf source pages (delivered stopAt pages) table).created
      + (outcomeOf source pages (delivered stopAt pages) table).updated
      + (outcomeOf source pages (delivered stopAt pages) table).unchanged
      + (outcomeOf source pages (delivered stopAt pages) table).unmappable
      + (pages.getLast?.elim [] fun last => unreached stopAt last.reviews).length
      = (pages.map (·.entryCount)).sum := by
  have hcount := count_outcomes (outcomes source (delivered stopAt pages) table)
  have hreached := @length_reached_add stopAt (listed pages)
  rw [length_outcomes, delivered_eq_reached h] at hcount
  rw [← unreached_listed h, sum_entryCount, delivered_eq_reached h]
  simp only [outcomeOf]
  omega

/-! ## The entries of Google's pages

The adapter counts the entries of a body before it reads them. -/

theorem length_mapEntries {map : Json → Except Exn (Option NormalizedReview)} {items : List Json} :
    ∀ {reviews : List NormalizedReview} {unmappable : ℕ},
      GoogleReviewSourceAdapter.mapEntries map items = .ok (reviews, unmappable) →
        reviews.length + unmappable = items.length := by
  induction items with
  | nil => intro reviews unmappable h; cases h; rfl
  | cons item items ih =>
      intro reviews unmappable h
      rw [GoogleReviewSourceAdapter.mapEntries] at h
      cases hmap : map item with
      | error exc => simp [hmap, bind, Except.bind] at h
      | ok normalized =>
          cases hrest : GoogleReviewSourceAdapter.mapEntries map items with
          | error exc => simp [hmap, hrest, bind, Except.bind] at h
          | ok rest =>
              have hlength := ih hrest
              cases normalized <;>
                simp only [hmap, hrest, bind, Except.bind, Except.ok.injEq, Prod.mk.injEq] at h <;>
                obtain ⟨rfl, rfl⟩ := h <;> simp only [List.length_cons] <;> omega

/-- A page of Google's has an entry for each one listed. -/
theorem entryCount_of_fetchPage {api : GoogleApi} {client : GoogleReviewsClient} {call : ℕ}
    {cursor : Option String} {page : ReviewPage}
    (h : (googleAdapter api client).fetchPage call cursor = .ok page) :
    ∃ items, GoogleReviewSourceAdapter.listedEntries api client call cursor = .ok items ∧
      page.entryCount = items.length := by
  have hfetch : GoogleReviewSourceAdapter.fetchPage api client call cursor = .ok page := h
  rw [GoogleReviewSourceAdapter.fetchPage] at hfetch
  rw [GoogleReviewSourceAdapter.listedEntries]
  cases hlist : client.listReviews api call cursor with
  | error exc => simp [hlist, bind, Except.bind] at hfetch
  | ok envelope =>
      rw [hlist] at hfetch
      cases envelope with
      | obj fields =>
          simp only [bind, Except.bind] at hfetch ⊢
          cases hitems : GoogleReviewSourceAdapter.entries
              (((Json.obj fields).get? "reviews").getD (.arr [])) with
          | error exc => simp [hitems] at hfetch
          | ok items =>
              rw [hitems] at hfetch
              cases hmapped : GoogleReviewSourceAdapter.mapEntries api.toNormalizedReview items with
              | error exc => simp [hmapped] at hfetch
              | ok mapped =>
                  simp only [hmapped, Except.ok.injEq] at hfetch
                  exact ⟨items, rfl, by rw [← hfetch]; exact length_mapEntries hmapped⟩
      | _ => simp [bind, Except.bind] at hfetch

/-- Each page of a walk is the answer to its own fetch. -/
theorem fetchPage_of_iterPages {adapter : ReviewSourceAdapter} {page : ReviewPage} (n : ℕ) :
    ∀ (call : ℕ) (cursor : Option String) (i : ℕ),
      (iterPages adapter call cursor n)[i]? = some page →
        adapter.fetchPage (call + i) (cursorAt cursor (iterPages adapter call cursor n) i)
          = .ok page := by
  induction n with
  | zero => intro call cursor i h; simp at h
  | succ n ih =>
      intro call cursor i h
      cases hfetch : adapter.fetchPage call cursor with
      | error exc => simp [iterPages_succ_of_error hfetch] at h
      | ok first =>
          rw [iterPages_succ_of_ok hfetch] at h ⊢
          cases i with
          | zero =>
              obtain rfl : first = page := by simpa using h
              exact hfetch
          | succ i =>
              cases hnext : first.nextCursor with
              | none => simp [hnext] at h
              | some next =>
                  rw [hnext] at h
                  have hpage := ih (call + 1) (some next) i (by simpa using h)
                  rw [show call + (i + 1) = call + 1 + i by omega]
                  cases i with
                  | zero => simpa [cursorAt, hnext] using hpage
                  | succ i => simpa [cursorAt] using hpage

/-! ## The run

From the closed form of a run. -/

/-- **Successful runs conserve entries.**  No assumption is made on the ids: one may occur several times,
on one page or on several.  Where the adapter is Google's, the entries are those it lists. -/
theorem ingest_conserves_entries (env : RunEnv) (mode : Mode) (db : Database)
    {outcome : IngestionOutcome} (hreturned : (ingest env mode db).1 = .returned outcome) :
    ∃ pages, Walked env.adapter (mode.stopAt env.adapter.source db) pages ∧
      Conserves env (mode.stopAt env.adapter.source db) db (ingest env mode db).2 pages outcome ∧
      ∀ api client, env.adapter = googleAdapter api client → ∀ i page, pages[i]? = some page →
        ∃ items, GoogleReviewSourceAdapter.listedEntries api client i (cursorAt none pages i)
            = .ok items ∧ page.entryCount = items.length := by
  obtain ⟨f, hflow, hstop, houtcome, hleft⟩ := ingest_returned hreturned
  generalize mode.stopAt env.adapter.source db = stopAt at *
  have hpages : iterPages env.adapter 0 none f.pages.length = f.pages := by
    rw [hflow, pages_flow]
  have hbefore : ∀ page ∈ f.pages.dropLast, exhausted stopAt page = false := by
    rw [hflow]
    exact exhausted_dropLast_flow env stopAt env.lifetime 0 none
  have hlast : ∃ last, f.pages.getLast? = some last ∧
      (exhausted stopAt last = true ∨ last.nextCursor = none) := by
    rw [hflow] at hstop ⊢
    exact last_of_stop_none hstop
  have hfetched : outcome.fetched = (f.pages.map (·.entryCount)).sum := by
    rw [houtcome]
    rfl
  have hbalance : outcome.created + outcome.updated + outcome.unchanged + outcome.unmappable
      + (f.pages.getLast?.elim [] fun last => unreached stopAt last.reviews).length
      = outcome.fetched := by
    rw [hfetched, houtcome]
    exact outcomeOf_balance hbefore
  refine ⟨f.pages, ⟨hpages, hbefore, hlast⟩, ⟨hfetched, hbalance, ?_, ?_, ?_⟩, ?_⟩
  · intro hunmet
    rw [unreached_last hunmet] at hbalance
    exact hbalance
  · rw [hleft, houtcome, card_added]
    rfl
  · rw [hleft]
    exact ⟨_, rfl, rfl, rfl, rfl, rfl⟩
  · intro api client hadapter i page hpage
    rw [← hpages] at hpage
    have hfetch := fetchPage_of_iterPages f.pages.length _ _ _ hpage
    rw [hpages, Nat.zero_add, hadapter] at hfetch
    exact entryCount_of_fetchPage hfetch

/-- A sync that meets the watermark on its second page; the first has one review twice. -/
def repeatedSync : RunEnv :=
  RunEnv.steady (servePages "google"
    ⟨[plainReview "a" none 40, plainReview "a" none 40], some "p2", 1⟩
    [("p2", ⟨[plainReview "b" none 30, plainReview "c" none 10], none, 0⟩)]) 50

/-- A database whose last successful run started at 20. -/
def syncedAtTwenty : Database :=
  ⟨∅, [{ SyncRunRepository.startedRow "google" 20 with status := .success }]⟩

theorem ingest_conserves_entries_repeated_id :
    ∃ pages, Walked repeatedSync.adapter (some 20) pages ∧
      Conserves repeatedSync (some 20) syncedAtTwenty (ingest repeatedSync .incremental syncedAtTwenty).2
        pages ⟨5, 2, 0, 1, 1⟩ ∧
      ∀ api client, repeatedSync.adapter = googleAdapter api client → ∀ i page,
        pages[i]? = some page →
        ∃ items, GoogleReviewSourceAdapter.listedEntries api client i (cursorAt none pages i)
            = .ok items ∧ page.entryCount = items.length := by
  have hreturned : (ingest repeatedSync .incremental syncedAtTwenty).1
      = .returned ⟨5, 2, 0, 1, 1⟩ := by
    decide
  have hstop : Mode.stopAt "google" syncedAtTwenty .incremental = some 20 := by decide
  rw [← hstop]
  exact ingest_conserves_entries repeatedSync .incremental syncedAtTwenty hreturned

end ReviewSignal
