import ReviewSignal.Ingestion.Conservation
import ReviewSignal.Integrations.GoogleMapping

/-!
# What a backfill stores of what Google lists

Google answers with pages of entries, each with the token of the next one.  The adapter reads an entry with
the mapping, and counts what it cannot read.

* `Serves` — the answers to a walk, page by page: the first request gets the first page, and each further one
  the page of the token before it;
* `reads_of_serves` — the pages of a walk to its end are those served, read entry by entry;
* `backfill_of_serves` — a backfill that succeeds upserts what the entries are read as, in their order, and
  counts the ones that are read as nothing.

This is the link between what the source lists and what `ingest` says of the pages of an adapter.  An entry
whose reading raises ends the page, and with it the run: then the backfill does not succeed, and nothing is
claimed here.  The mapping is a parameter of the API (`GoogleApi.toNormalizedReview`), so that the same
statement serves the faithful mapping and any other.
-/

namespace ReviewSignal

/-- What is stored of a review: its texts, and the moments of its dates. -/
def MappedReview.normalized (review : MappedReview) : NormalizedReview where
  sourceReviewId := review.sourceReviewId.text
  rating := review.rating
  reviewText := review.reviewText
  reviewerName := review.reviewerName.map (·.text)
  createdAt := review.createdAt.instant 0
  updatedAt := review.updatedAt.instant 0
  ownerReplyText := review.ownerReplyText
  ownerReplyAt := review.ownerReplyAt.map (·.instant 0)
  language := review.language
  rawPayload := review.rawPayload

namespace GoogleListing

open GoogleReviewSourceAdapter

/-- What an entry is read as. -/
def read (api : GoogleApi) (entry : Json) : Option NormalizedReview :=
  (api.toNormalizedReview entry).toOption.join

/-- The entry is read without an exception. -/
def Read (api : GoogleApi) (entry : Json) : Prop := ∃ review, api.toNormalizedReview entry = .ok review

/-- A page of entries as Google answers with it.  What is empty is left out. -/
def Answers (api : GoogleApi) (client : GoogleReviewsClient) (call : ℕ) (cursor : Option String)
    (items : List Json) (token : Option String) : Prop :=
  ∃ text fields, api.answer call (client.request cursor) = .response 200 text (.ok (.obj fields)) ∧
    ((Json.obj fields).get? "reviews").getD (.arr []) = .arr items ∧
    (Json.obj fields).get? "nextPageToken" = token.map .str

/-- The pages Google answers with, from a request on, as long as there is a token. -/
inductive Serves (api : GoogleApi) (client : GoogleReviewsClient) :
    ℕ → Option String → List (List Json) → Prop
  | last {call : ℕ} {cursor : Option String} {items : List Json}
      (hanswers : Answers api client call cursor items none) : Serves api client call cursor [items]
  | next {call : ℕ} {cursor : Option String} {items : List Json} {token : String}
      {rest : List (List Json)} (hanswers : Answers api client call cursor items (some token))
      (htoken : token ≠ "") (hrest : Serves api client (call + 1) (some token) rest) :
      Serves api client call cursor (items :: rest)

/-- The page is what the entries are read as. -/
structure Reads (api : GoogleApi) (page : ReviewPage) (items : List Json) : Prop where
  reviews : page.reviews = items.filterMap (read api)
  unmappable : page.unmappableCount = items.countP fun entry => (read api entry).isNone
  read : ∀ entry ∈ items, Read api entry

variable {api : GoogleApi} {client : GoogleReviewsClient} {call : ℕ} {cursor token : Option String}
  {items : List Json} {served : List (List Json)}

/-! ## One page

An answer as the adapter reads it, entry by entry. -/

theorem mapEntries_reads {reviews : List NormalizedReview} {unmappable : ℕ}
    (h : mapEntries api.toNormalizedReview items = .ok (reviews, unmappable)) :
    reviews = items.filterMap (read api) ∧ unmappable = items.countP (fun entry => (read api entry).isNone) ∧
      ∀ entry ∈ items, Read api entry := by
  induction items generalizing reviews unmappable with
  | nil =>
      cases h
      exact ⟨rfl, rfl, fun entry hentry => by cases hentry⟩
  | cons entry items ih =>
      rw [mapEntries] at h
      cases hmap : api.toNormalizedReview entry with
      | error exc =>
          rw [hmap] at h
          cases h
      | ok normalized =>
          cases hrest : mapEntries api.toNormalizedReview items with
          | error exc =>
              rw [hmap, hrest] at h
              cases h
          | ok rest =>
              obtain ⟨hreviews, hunmappable, hread⟩ := ih hrest
              have hentry : read api entry = normalized := by rw [read, hmap]; rfl
              have hreads : ∀ entry' ∈ entry :: items, Read api entry' := by
                intro entry' hmem
                rcases List.mem_cons.mp hmem with rfl | hmem
                · exact ⟨_, hmap⟩
                · exact hread entry' hmem
              rw [hmap, hrest] at h
              cases normalized with
              | none =>
                  cases h
                  refine ⟨?_, ?_, hreads⟩
                  · rw [List.filterMap_cons_none hentry]
                    exact hreviews
                  · rw [List.countP_cons_of_pos (by rw [hentry]; rfl)]
                    exact congrArg (· + 1) hunmappable
              | some review =>
                  cases h
                  refine ⟨?_, ?_, hreads⟩
                  · rw [List.filterMap_cons_some hentry]
                    exact congrArg (review :: ·) hreviews
                  · rw [List.countP_cons_of_neg (by rw [hentry]; simp)]
                    exact hunmappable

/-- What the adapter makes of an answer. -/
theorem reads_of_answers {page : ReviewPage} (hanswers : Answers api client call cursor items token)
    (hfetch : (googleAdapter api client).fetchPage call cursor = .ok page) :
    Reads api page items ∧ page.nextCursor = token.filter (· ≠ "") := by
  obtain ⟨text, fields, hanswer, hitems, htoken⟩ := hanswers
  have hlist : client.listReviews api call cursor = .ok (.obj fields) := by
    rw [GoogleReviewsClient.listReviews, hanswer]
    rfl
  have hfetch : fetchPage api client call cursor = .ok page := hfetch
  rw [fetchPage, hlist] at hfetch
  have hcursor : nextCursor api.str (.obj fields) = token.filter (· ≠ "") := by
    rw [nextCursor, htoken]
    cases token with
    | none => rfl
    | some token => by_cases hempty : token = "" <;> simp [truthy, hempty, Option.filter]
  cases hmapped : mapEntries api.toNormalizedReview items with
  | error exc => simp [bind, Except.bind, hitems, entries, hmapped] at hfetch
  | ok mapped =>
      simp only [bind, Except.bind, hitems, entries, hmapped, Except.ok.injEq] at hfetch
      obtain ⟨hreviews, hunmappable, hread⟩ := mapEntries_reads hmapped
      rw [← hfetch]
      exact ⟨⟨hreviews, hunmappable, hread⟩, hcursor⟩

/-! ## The walk

Page by page, as long as Google issues a token. -/

/-- **A walk to its end is over all that is served.** -/
theorem reads_of_serves (hserves : Serves api client call cursor served) {n : ℕ} {pages : List ReviewPage}
    {last : ReviewPage} (hpages : iterPages (googleAdapter api client) call cursor n = pages)
    (hlast : pages.getLast? = some last) (hend : last.nextCursor = none) :
    List.Forall₂ (Reads api) pages served := by
  induction hserves generalizing n pages with
  | @last call cursor items hanswers =>
      cases n with
      | zero =>
          cases hpages
          cases hlast
      | succ n =>
          cases hfetch : (googleAdapter api client).fetchPage call cursor with
          | error exc =>
              rw [iterPages_succ_of_error hfetch] at hpages
              cases hpages
              cases hlast
          | ok page =>
              obtain ⟨hreads, hnone⟩ := reads_of_answers hanswers hfetch
              rw [iterPages_succ_of_ok hfetch, hnone] at hpages
              cases hpages
              exact .cons hreads .nil
  | @next call cursor items token rest hanswers htoken _ ih =>
      cases n with
      | zero =>
          cases hpages
          cases hlast
      | succ n =>
          cases hfetch : (googleAdapter api client).fetchPage call cursor with
          | error exc =>
              rw [iterPages_succ_of_error hfetch] at hpages
              cases hpages
              cases hlast
          | ok page =>
              obtain ⟨hreads, hnext⟩ := reads_of_answers hanswers hfetch
              have hnext : page.nextCursor = some token := by
                rw [hnext]
                simp [htoken]
              rw [iterPages_succ_of_ok hfetch, hnext] at hpages
              cases hpages
              rw [List.getLast?_cons] at hlast
              cases hlater : (iterPages (googleAdapter api client) (call + 1) (some token) n).getLast? with
              | none =>
                  -- the walk would have ended on a page with a token
                  rw [hlater] at hlast
                  obtain rfl : page = last := Option.some.inj hlast
                  rw [hnext] at hend
                  cases hend
              | some later =>
                  rw [hlater] at hlast
                  obtain rfl : later = last := Option.some.inj hlast
                  exact .cons hreads (ih rfl hlater)

theorem listed_of_reads {pages : List ReviewPage} (h : List.Forall₂ (Reads api) pages served) :
    listed pages = served.flatten.filterMap (read api) := by
  induction h with
  | nil => rfl
  | cons hreads _ ih =>
      rw [listed, List.flatMap_cons, List.flatten_cons, List.filterMap_append, hreads.reviews]
      exact congrArg (_ ++ ·) ih

theorem unmappable_of_reads {pages : List ReviewPage} (h : List.Forall₂ (Reads api) pages served) :
    (pages.map (·.unmappableCount)).sum = served.flatten.countP fun entry => (read api entry).isNone := by
  induction h with
  | nil => rfl
  | cons hreads _ ih =>
      rw [List.map_cons, List.sum_cons, List.flatten_cons, List.countP_append, hreads.unmappable, ih]

theorem read_of_reads {pages : List ReviewPage} (h : List.Forall₂ (Reads api) pages served) :
    ∀ entry ∈ served.flatten, Read api entry := by
  induction h with
  | nil =>
      intro entry hentry
      cases hentry
  | cons hreads _ ih =>
      intro entry hentry
      rw [List.flatten_cons] at hentry
      rcases List.mem_append.mp hentry with hentry | hentry
      · exact hreads.read entry hentry
      · exact ih entry hentry

/-- **What a successful backfill upserts**: what the entries are read as, in their order.  None of them
raised, and those that cannot be stored are counted. -/
theorem backfill_of_serves {env : RunEnv} {db : Database} {outcome : IngestionOutcome}
    (hadapter : env.adapter = googleAdapter api client) (hserves : Serves api client 0 none served)
    (hreturned : (ingest env .backfill db).1 = .returned outcome) :
    (ingest env .backfill db).2.reviews
        = ReviewRepository.storeAll "google" (served.flatten.filterMap (read api)) db.reviews ∧
      outcome.unmappable = (served.flatten.countP fun entry => (read api entry).isNone) ∧
      ∀ entry ∈ served.flatten, Read api entry := by
  obtain ⟨f, hflow, hstop, houtcome, hleft⟩ := ingest_returned hreturned
  rw [Mode.stopAt] at hflow houtcome hleft
  obtain ⟨last, hlast, hend⟩ := last_of_stop_none (hflow ▸ hstop)
  rw [exhausted_none] at hend
  have hpages : iterPages (googleAdapter api client) 0 none f.pages.length = f.pages := by
    rw [hflow, ← hadapter]
    exact pages_flow env none env.lifetime 0 none
  have hreads : List.Forall₂ (Reads api) f.pages served :=
    reads_of_serves hserves hpages (hflow ▸ hlast) (by simpa using hend)
  have hdelivered : delivered none f.pages = served.flatten.filterMap (read api) := by
    rw [hflow, delivered_flow, reached_none, ← hflow]
    exact listed_of_reads hreads
  rw [hdelivered, hadapter] at hleft
  refine ⟨by rw [hleft]; rfl, ?_, read_of_reads hreads⟩
  rw [houtcome]
  exact unmappable_of_reads hreads

end GoogleListing

end ReviewSignal
