import ReviewSignal.Ingestion.GoogleListing
import ReviewSignal.Web.Reviews
import ReviewSignal.Worker.UnrecoverableFailures

/-!
# What Google lists is what the dashboard shows

The whole way of a review: Google's entry, the mapping, the ingestion service, the `reviews` table, the route
of the list, the pages the dashboard leads through.

* `Holds` — the rows the dashboard reads are those of the table ingestion writes;
* **`shown_of_backfill`** — after a `google_backfill` that succeeded, the dashboard shows each listed review
  with the rating, the text and the name of its entry, and besides them what was stored before, unchanged.

The result joins four modules without opening one: `GoogleListing` says what such a backfill upserts,
`Conservation` and the storage lemmas what the table is after it, `GoogleMapping` what an entry is read as,
and `Web.Reviews` what the pages show of a table.

A backfill upserts what the mapping returns, so the columns have to fit (the `MapsStorably` of
`GoogleMapping`), and no key may occur twice among the entries, or the later one would win.
-/

namespace ReviewSignal

open ReviewRepository

/-- The rows the dashboard reads are those of the table. -/
structure Holds (rows : ReviewRows) (table : ReviewTable) : Prop where
  distinct : (rows.reviews.map (·.sourceReviewId)).Nodup
  row : ∀ row ∈ rows.reviews, table.lookup row.sourceReviewId = some row.toReview
  all : ∀ id ∈ table, id ∈ rows.reviews.map (·.sourceReviewId)

namespace ShownReviews

open ReviewsPage

/-- Google's answers to the `call`-th request of a run, read with the mapping. -/
def googleApi (mapping : MappingEnv) (str : Json → String) (answer : ℕ → HttpRequest → HttpAnswer) :
    GoogleApi where
  answer := answer
  toNormalizedReview entry := (GoogleMapping.toNormalizedReview mapping entry).map
    fun review => review.map (·.normalized)
  str := str

/-- The review of an entry, where it is one the table has a place for. -/
def readAs (mapping : MappingEnv) (entry : Json) : Option MappedReview :=
  (GoogleMapping.toNormalizedReview mapping entry).toOption.join

/-- The reviews Google lists. -/
def listing (mapping : MappingEnv) (served : List (List Json)) : List MappedReview :=
  served.flatten.filterMap (readAs mapping)

/-- What is seen of a review. -/
def content (item : ReviewSummary) : ℤ × Option String × Option Json :=
  (item.rating, item.reviewText, item.reviewerName.map .str)

/-- What an entry says of it. -/
def contentOf (review : MappedReview) : ℤ × Option String × Option Json :=
  (review.rating, review.reviewText, review.reviewerName)

/-- The rows of reviews Google does not list. -/
def unlisted (rows : ReviewRows) (reviews : List MappedReview) : List StoredReview :=
  rows.reviews.filter fun row => Json.str row.sourceReviewId ∉ reviews.map (·.sourceReviewId)

/-- The pages show the reviews of a listing as it has them, and the rows from before that it does not have. -/
structure Shows (before : ReviewTable) (reviews : List MappedReview) (rows : ReviewRows)
    (pages : List ReviewListPayload) : Prop where
  descending : (pages.flatMap (·.items)).Pairwise Descends
  items : ((pages.flatMap (·.items)).map content).Perm
    (reviews.map contentOf ++ (unlisted rows reviews).map fun row => content (ReviewsService.summary row))
  kept : ∀ row ∈ unlisted rows reviews, before.lookup row.sourceReviewId = some row.toReview
  remain : ∀ id row, before.lookup id = some row → Json.str id ∉ reviews.map (·.sourceReviewId) →
    ∃ stored ∈ unlisted rows reviews, stored.sourceReviewId = id

variable {mapping : MappingEnv} {reviews : List MappedReview} {rows : ReviewRows} {before : ReviewTable}

/-- The values of two lists agree up to order when their keys do, and the value is a matter of the key. -/
theorem perm_of_keys {α β κ γ : Type} {value : α → γ} {value' : β → γ} {l : List α} {l' : List β}
    (key : α → κ) (key' : β → κ) (hkeys : (l.map key).Perm (l'.map key')) (lookup : κ → Option γ)
    (hvalue : ∀ a ∈ l, lookup (key a) = some (value a))
    (hvalue' : ∀ b ∈ l', lookup (key' b) = some (value' b)) : (l.map value).Perm (l'.map value') := by
  have hleft : (l.map value).map some = (l.map key).map lookup := by
    rw [List.map_map, List.map_map]
    exact List.map_congr_left fun a ha => (hvalue a ha).symm
  have hright : (l'.map value').map some = (l'.map key').map lookup := by
    rw [List.map_map, List.map_map]
    exact List.map_congr_left fun b hb => (hvalue' b hb).symm
  rw [← List.map_perm_map_iff (Option.some_injective γ), hleft, hright]
  exact hkeys.map lookup

/-! ## The table after the backfill

The row of a listed review agrees with its entry, and the other rows are as they were. -/

/-- The review has a text for its key and a text for the name of its reviewer, if it has one. -/
def Texts (review : MappedReview) : Prop :=
  (∃ id, review.sourceReviewId = .str id) ∧ ∀ name ∈ review.reviewerName, ∃ text, name = .str text

theorem sourceReviewId_normalized {review : MappedReview} (h : Texts review) :
    review.sourceReviewId = .str review.normalized.sourceReviewId := by
  obtain ⟨⟨id, hid⟩, -⟩ := h
  rw [MappedReview.normalized, hid]
  rfl

theorem reviewerName_normalized {review : MappedReview} (h : Texts review) :
    review.normalized.reviewerName.map Json.str = review.reviewerName := by
  obtain ⟨-, hname⟩ := h
  rw [MappedReview.normalized]
  cases hreviewer : review.reviewerName with
  | none => rfl
  | some name =>
      obtain ⟨text, rfl⟩ := hname name hreviewer
      rfl

theorem ids_normalized (htexts : ∀ review ∈ reviews, Texts review) :
    reviews.map (·.sourceReviewId) = (reviews.map (·.normalized.sourceReviewId)).map Json.str := by
  rw [List.map_map]
  exact List.map_congr_left fun review hreview => sourceReviewId_normalized (htexts review hreview)

/-- The row of a listed review agrees with its entry. -/
theorem lookup_storeAll_listed (before : ReviewTable) (htexts : ∀ review ∈ reviews, Texts review)
    (hdistinct : (reviews.map (·.sourceReviewId)).Nodup) {review : MappedReview}
    (hreview : review ∈ reviews) :
    ∃ row, (storeAll "google" (reviews.map (·.normalized)) before).lookup review.normalized.sourceReviewId
        = some row ∧ (row.rating, row.reviewText, row.reviewerName.map Json.str) = contentOf review := by
  have hnodup : ((reviews.map (·.normalized)).map (·.sourceReviewId)).Nodup := by
    rw [ids_normalized htexts] at hdistinct
    rw [List.map_map]
    exact hdistinct.of_map _
  refine ⟨_, lookup_storeAll_of_mem (injOn_of_nodup hnodup) (List.mem_map_of_mem hreview), ?_⟩
  have hagrees := @agrees_upsertRow "google" review.normalized
    (before.lookup review.normalized.sourceReviewId)
  rw [hagrees.rating, hagrees.reviewText, hagrees.reviewerName,
    reviewerName_normalized (htexts review hreview)]
  rfl

theorem lookup_storeAll_unlisted (htexts : ∀ review ∈ reviews, Texts review) {id : String}
    (hid : Json.str id ∉ reviews.map (·.sourceReviewId)) :
    (storeAll "google" (reviews.map (·.normalized)) before).lookup id = before.lookup id := by
  refine lookup_storeAll_of_notMem fun hmem => hid ?_
  rw [ids_normalized htexts]
  rw [List.map_map] at hmem
  exact List.mem_map_of_mem hmem

/-! ## The pages over it

The rows in any order, as content and as what the entries say. -/

/-- The rows of the listed reviews show what their entries say. -/
theorem listed_perm (htexts : ∀ review ∈ reviews, Texts review)
    (hdistinct : (reviews.map (·.sourceReviewId)).Nodup)
    (hholds : Holds rows (storeAll "google" (reviews.map (·.normalized)) before)) :
    ((rows.reviews.filter fun row => Json.str row.sourceReviewId ∈ reviews.map (·.sourceReviewId)).map
        fun row => content (ReviewsService.summary row)).Perm (reviews.map contentOf) := by
  let table := storeAll "google" (reviews.map (·.normalized)) before
  refine perm_of_keys (fun row : StoredReview => Json.str row.sourceReviewId) (·.sourceReviewId) ?_
    (fun id => (table.lookup id.text).map fun row =>
      (row.rating, row.reviewText, row.reviewerName.map Json.str)) ?_ ?_
  · -- both sides have each key once
    have hinjective : Function.Injective Json.str := fun _ _ h => Json.str.inj h
    have hrows : ((rows.reviews.filter fun row =>
        Json.str row.sourceReviewId ∈ reviews.map (·.sourceReviewId)).map
          fun row => Json.str row.sourceReviewId).Nodup := by
      have hall : (rows.reviews.map fun row => Json.str row.sourceReviewId).Nodup := by
        have hids := hholds.distinct.map hinjective
        rwa [List.map_map] at hids
      exact hall.sublist (List.filter_sublist.map _)
    refine (List.perm_ext_iff_of_nodup hrows hdistinct).mpr fun id => ?_
    constructor
    · intro hmem
      obtain ⟨row, hrow, rfl⟩ := List.mem_map.mp hmem
      exact of_decide_eq_true (List.mem_filter.mp hrow).2
    · intro hmem
      obtain ⟨review, hreview, rfl⟩ := List.mem_map.mp hmem
      obtain ⟨row, hlookup, -⟩ := lookup_storeAll_listed before htexts hdistinct hreview
      obtain ⟨stored, hstored, hsame⟩ :=
        List.mem_map.mp (hholds.all _ (Finmap.mem_of_lookup_eq_some hlookup))
      have hid : Json.str stored.sourceReviewId = review.sourceReviewId := by
        rw [hsame]
        exact (sourceReviewId_normalized (htexts review hreview)).symm
      refine List.mem_map.mpr ⟨stored, List.mem_filter.mpr ⟨hstored, ?_⟩, hid⟩
      rw [decide_eq_true_eq, hid]
      exact hmem
  · intro row hrow
    have hlookup : table.lookup row.sourceReviewId = some row.toReview :=
      hholds.row row (List.mem_filter.mp hrow).1
    show (table.lookup row.sourceReviewId).map _ = _
    rw [hlookup]
    rfl
  · intro review hreview
    obtain ⟨row, hlookup, hcontent⟩ := lookup_storeAll_listed before htexts hdistinct hreview
    show (table.lookup review.normalized.sourceReviewId).map _ = _
    rw [hlookup, Option.map_some, hcontent]

/-- What the pages over the table show, from the first one on. -/
theorem shows_of_holds (server : Server) (request : ListRequest) (hrequest : request.toReviewFilters = {})
    (hcount : rows.reviews.length ≤ 2 ^ 63) (htexts : ∀ review ∈ reviews, Texts review)
    (hdistinct : (reviews.map (·.sourceReviewId)).Nodup)
    (hholds : Holds rows (storeAll "google" (reviews.map (·.normalized)) before)) :
    ∃ pages, Followed (answer server rows request) 1 pages ∧ Shows before reviews rows pages := by
  have hanswer (k : ℕ) (hk : k < pageCount server rows request) :
      answer server rows request (k + 1) = .ok (shown server rows request k) := by
    refine answer_of_send ?_ ?_ (sendOffset_of_lt hk hcount)
    · rw [hrequest]
      rfl
    · rw [hrequest]
      rfl
  have hpartition : Partition server rows request
      ((List.range (pageCount server rows request)).map (shown server rows request)) := partition_shown
  have hmatching : matching server rows request.toReviewFilters = rows.reviews := by
    rw [hrequest]
    exact List.filter_eq_self.mpr fun row _ => by simp [Matches]
  refine ⟨_, ?_, hpartition.descending, ?_, ?_, ?_⟩
  · have hpositive : 0 < pageCount server rows request := Nat.lt_of_lt_of_le one_pos (le_max_left _ _)
    have hfollowed := @followed _ _ _ hanswer (pageCount server rows request - 1) 0 (by omega)
    rw [Nat.sub_add_cancel hpositive] at hfollowed
    simpa using hfollowed
  · have hitems := hpartition.once.map content
    rw [hmatching, List.map_map] at hitems
    refine hitems.trans ?_
    have hsplit := (List.filter_append_perm (fun row : StoredReview =>
      decide (Json.str row.sourceReviewId ∈ reviews.map (·.sourceReviewId))) rows.reviews).symm
    refine (hsplit.map _).trans ?_
    rw [List.map_append]
    refine (listed_perm htexts hdistinct hholds).append (List.Perm.of_eq ?_)
    rw [unlisted]
    simp only [decide_not]
    rfl
  · intro row hrow
    obtain ⟨hrow, hid⟩ := List.mem_filter.mp hrow
    rw [← lookup_storeAll_unlisted htexts (of_decide_eq_true hid)]
    exact hholds.row row hrow
  · intro id row hlookup hid
    rw [← lookup_storeAll_unlisted htexts hid] at hlookup
    obtain ⟨stored, hstored, rfl⟩ := List.mem_map.mp (hholds.all id (Finmap.mem_of_lookup_eq_some hlookup))
    exact ⟨stored, List.mem_filter.mpr ⟨hstored, decide_eq_true hid⟩, rfl⟩

/-! ## The backfill

From the answers of Google's endpoint to the table. -/

theorem read_googleApi {str : Json → String} {api : ℕ → HttpRequest → HttpAnswer} (entry : Json) :
    GoogleListing.read (googleApi mapping str api) entry = (readAs mapping entry).map (·.normalized) := by
  rw [GoogleListing.read, readAs]
  show ((GoogleMapping.toNormalizedReview mapping entry).map _).toOption.join = _
  cases GoogleMapping.toNormalizedReview mapping entry with
  | error exc => rfl
  | ok review => cases review <;> rfl

theorem texts_of_readAs {entry : Json} {review : MappedReview}
    (hstorable : GoogleMapping.MapsStorably mapping entry) (h : readAs mapping entry = some review) :
    Texts review := by
  rw [readAs] at h
  rw [GoogleMapping.MapsStorably] at hstorable
  cases hread : GoogleMapping.toNormalizedReview mapping entry with
  | error exc =>
      rw [hread] at h
      cases h
  | ok mapped =>
      rw [hread] at h hstorable
      obtain rfl : mapped = some review := h
      have hstores := hstorable review rfl
      obtain ⟨id, hid, -⟩ := hstores.source_review_id
      refine ⟨⟨id, hid⟩, fun name hname => ?_⟩
      obtain ⟨text, htext, -⟩ := hstores.reviewer_name name hname
      exact ⟨text, htext⟩

/-- **What Google lists is what the dashboard shows.**  After a `google_backfill` that succeeded, over entries
whose fields fit their columns and in which no key occurs twice, the pages of the unfiltered list show the
rating, the text and the name of each entry that can be stored, once, and what was stored of other reviews
before, as it was; the newest come first. -/
theorem shown_of_backfill [Cipher] (mapping : MappingEnv) (str : Json → String)
    (answers : ℕ → HttpRequest → HttpAnswer) (resolvedAt : Instant) (tokenAnswer : TokenAnswer)
    (clock : RunClock) (fate : Point → Fate) (lifetime : ℕ) (store : Store) (profile : Profile)
    (served : List (List Json)) (outcome : IngestionOutcome) (server : Server) (rows : ReviewRows)
    (request : ListRequest)
    (hserves : ∀ accessToken, GoogleListing.Serves (googleApi mapping str answers)
      ⟨accessToken, profile.accountId, profile.locationId⟩ 0 none served)
    (hstorable : ∀ entry ∈ served.flatten, GoogleMapping.MapsStorably mapping entry)
    (hdistinct : ((listing mapping served).map (·.sourceReviewId)).Nodup)
    (hran : (Jobs.googleBackfill (.ofGoogle (googleApi mapping str answers) resolvedAt tokenAnswer clock fate
      lifetime) store).1 = .ran profile (.returned outcome))
    (hholds : Holds rows (Jobs.googleBackfill (.ofGoogle (googleApi mapping str answers) resolvedAt
      tokenAnswer clock fate lifetime) store).2.db.reviews)
    (hrequest : request.toReviewFilters = {}) (hcount : rows.reviews.length ≤ 2 ^ 63) :
    outcome.unmappable = (served.flatten.countP fun entry => (readAs mapping entry).isNone) ∧
      ∃ pages, Followed (answer server rows request) 1 pages ∧
        Shows store.db.reviews (listing mapping served) rows pages := by
  have htexts : ∀ review ∈ listing mapping served, Texts review := by
    intro review hreview
    obtain ⟨entry, hentry, hread⟩ := List.mem_filterMap.mp hreview
    exact texts_of_readAs (hstorable entry hentry) hread
  rw [Jobs.googleBackfill] at hran hholds
  rcases Jobs.ingestJob_cases (.ofGoogle (googleApi mapping str answers) resolvedAt tokenAnswer clock fate
    lifetime) .backfill store with ⟨exc, hrefused, -⟩ | ⟨accessToken, selected, -, -, hended, hleft⟩
  · rw [hrefused] at hran
    cases hran
  · rw [hended] at hran
    obtain ⟨rfl, hreturned⟩ := IngestResult.ran.inj hran
    obtain ⟨hreviews, hunmappable, -⟩ :=
      GoogleListing.backfill_of_serves rfl (hserves accessToken) hreturned
    have hlisting : served.flatten.filterMap (GoogleListing.read (googleApi mapping str answers))
        = (listing mapping served).map (·.normalized) := by
      rw [listing, List.map_filterMap]
      exact List.filterMap_congr fun entry _ => read_googleApi entry
    rw [hleft, hreviews, hlisting] at hholds
    refine ⟨?_, shows_of_holds server request hrequest hcount htexts hdistinct hholds⟩
    rw [hunmappable]
    refine List.countP_congr fun entry _ => ?_
    rw [read_googleApi, Option.isNone_map]

open scoped PlainCipher

/-- A review by Ada and one without stars, on two pages. -/
def sampleServed : List (List Json) :=
  [[.obj (GoogleMapping.sampleEntry (.str "r1") (.obj [("displayName", .str "Ada")]))],
    [.obj [("reviewId", .str "r2")]]]

def sampleAnswers (_ : ℕ) (request : HttpRequest) : HttpAnswer :=
  if ("pageToken", "next") ∈ request.params then
    .response 200 "" (.ok (.obj [("reviews", .arr (sampleServed.getD 1 []))]))
  else
    .response 200 "" (.ok (.obj [("reviews", .arr (sampleServed.getD 0 [])), ("nextPageToken", .str "next")]))

/-- A profile is selected, and the access token is good for another hour. -/
def sampleStore : Store where
  credentials := Finmap.singleton "google" {
    status := .connected
    accountId := some "1"
    locationId := some "A"
    accessTokenEncrypted := some (encrypt "at")
    refreshTokenEncrypted := some (encrypt "rt")
    tokenExpiresAt := some 3600000000
    scopes := []
    connectedAt := some 0
    updatedAt := 0
    connected_has_token := fun _ => rfl }
  db := .empty

def sampleBackfill : IngestResult × Store :=
  Jobs.googleBackfill (.ofGoogle (googleApi GoogleMapping.sampleMappingEnv Json.text sampleAnswers) 0
    (.unreachable ⟨"ConnectError", ""⟩) ⟨1, 2, 2⟩ (fun _ => .proceeds) 5) sampleStore

theorem ended_sampleBackfill : sampleBackfill.1 = .ran ⟨"1", "A"⟩ (.returned ⟨2, 1, 0, 0, 1⟩) := by
  decide +kernel

def sampleRow : StoredReview where
  toReview := createdRow "google" (GoogleMapping.mapped GoogleMapping.sampleMappingEnv
    (.obj (GoogleMapping.sampleEntry (.str "r1") (.obj [("displayName", .str "Ada")]))) 5
    GoogleMapping.sampleDate GoogleMapping.sampleDate none).normalized
  id := 7
  sourceReviewId := "r1"
  text_storable := by decide

theorem reviews_sampleBackfill :
    sampleBackfill.2.db.reviews = Finmap.singleton "r1" sampleRow.toReview := by
  decide +kernel

theorem serves_sampleServed (accessToken : String) :
    GoogleListing.Serves (googleApi GoogleMapping.sampleMappingEnv Json.text sampleAnswers)
      ⟨accessToken, "1", "A"⟩ 0 none sampleServed := by
  have hfirst : sampleAnswers 0 (GoogleReviewsClient.request ⟨accessToken, "1", "A"⟩ none) =
      .response 200 "" (.ok (.obj [("reviews", .arr (sampleServed.getD 0 [])),
        ("nextPageToken", .str "next")])) := by
    rw [sampleAnswers, if_neg]
    simp [GoogleReviewsClient.request]
  have hsecond : sampleAnswers 1 (GoogleReviewsClient.request ⟨accessToken, "1", "A"⟩ (some "next")) =
      .response 200 "" (.ok (.obj [("reviews", .arr (sampleServed.getD 1 []))])) := by
    rw [sampleAnswers, if_pos]
    simp [GoogleReviewsClient.request]
  have hnext : GoogleListing.Answers (googleApi GoogleMapping.sampleMappingEnv Json.text sampleAnswers)
      ⟨accessToken, "1", "A"⟩ 0 none (sampleServed.getD 0 []) (some "next") := ⟨"", _, hfirst, rfl, rfl⟩
  exact .next hnext (by decide) (.last ⟨"", _, hsecond, rfl, rfl⟩)

theorem mapsStorably_sampleServed : ∀ entry ∈ sampleServed.flatten,
    GoogleMapping.MapsStorably GoogleMapping.sampleMappingEnv entry := by
  intro entry hentry
  rcases List.mem_cons.mp hentry with rfl | hentry
  · have hread : GoogleMapping.toNormalizedReview GoogleMapping.sampleMappingEnv
        (.obj (GoogleMapping.sampleEntry (.str "r1") (.obj [("displayName", .str "Ada")])))
          = .ok (some (GoogleMapping.mapped GoogleMapping.sampleMappingEnv
            (.obj (GoogleMapping.sampleEntry (.str "r1") (.obj [("displayName", .str "Ada")]))) 5
            GoogleMapping.sampleDate GoogleMapping.sampleDate none)) := by
      decide +kernel
    have hnul : ∀ text ∈ (Json.obj (GoogleMapping.sampleEntry (.str "r1")
        (.obj [("displayName", .str "Ada")]))).texts, '\x00' ∉ text.toList := by
      decide +kernel
    have hfits : GoogleMapping.Fits GoogleMapping.sampleMappingEnv
        (.obj (GoogleMapping.sampleEntry (.str "r1") (.obj [("displayName", .str "Ada")]))) :=
      ⟨⟨rfl, by decide⟩, fun _ _ => rfl, fun text htext => ⟨rfl, hnul text htext⟩, fun _ _ => rfl, rfl⟩
    rw [GoogleMapping.MapsStorably, hread]
    rintro review ⟨⟩
    exact (GoogleMapping.storable_mapped_iff rfl rfl rfl rfl).mpr hfits
  · obtain rfl := List.mem_singleton.mp hentry
    have hread : GoogleMapping.toNormalizedReview GoogleMapping.sampleMappingEnv
        (.obj [("reviewId", .str "r2")]) = .ok none := by
      decide +kernel
    rw [GoogleMapping.MapsStorably, hread]
    rintro review ⟨⟩

theorem holds_sampleBackfill : Holds ⟨[sampleRow], List.nodup_singleton _⟩ sampleBackfill.2.db.reviews := by
  rw [reviews_sampleBackfill]
  refine ⟨List.nodup_singleton _, fun row hrow => ?_, fun id hid => ?_⟩
  · rw [List.mem_singleton.mp hrow]
    exact Finmap.lookup_singleton_eq
  · rw [Finmap.mem_singleton] at hid
    exact List.mem_singleton.mpr hid

theorem shown_of_backfill_sampleServed : ∃ pages,
    Followed (answer ReviewsService.asciiServer ⟨[sampleRow], List.nodup_singleton _⟩ .plain) 1 pages ∧
      Shows ∅ (listing GoogleMapping.sampleMappingEnv sampleServed) ⟨[sampleRow], List.nodup_singleton _⟩
        pages :=
  (shown_of_backfill GoogleMapping.sampleMappingEnv Json.text sampleAnswers 0
    (.unreachable ⟨"ConnectError", ""⟩) ⟨1, 2, 2⟩ (fun _ => .proceeds) 5 sampleStore ⟨"1", "A"⟩ sampleServed
    ⟨2, 1, 0, 0, 1⟩ ReviewsService.asciiServer ⟨[sampleRow], List.nodup_singleton _⟩ .plain
    serves_sampleServed mapsStorably_sampleServed (by decide +kernel) ended_sampleBackfill
    holds_sampleBackfill rfl (by decide)).2

end ShownReviews

end ReviewSignal
