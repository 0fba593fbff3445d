import ReviewSignal.Services.OverviewTotals
import ReviewSignal.Web.Reviews

/-!
# The overview and the list behind it

The overview counts and averages the reviews of a window in one statement, and by day in another.  The reviews
page lists those of the same window over any number of pages, and counts those of one rating.

* `summarises_of_lists` — the overview of a window has the figures of any items that list its rows, in
  whatever order (`Summarises`): their number, their average, and on each day the number and average of those
  of that day.
* **`overview_of_pages`** — for every window the list accepts, the pages lead through such items, and the list
  of one rating counts those of them that have it.

The two services check their windows in different places, so the theorem asks for a window that is in order
and an offset that can be sent.  A window that the list refuses has no pages at all.

Averages are compared as the services compute them; rounding is the overview's last step and done on both
sides.
-/

namespace ReviewSignal

namespace ReviewsPage

/-- The average rating of what is listed. -/
def averageRating (items : List ReviewSummary) : Option ℚ :=
  if items = [] then none else some ((items.map fun item => (item.rating : ℚ)).sum / items.length)

/-- The day of a listed review, in the zone of the session. -/
def day (server : Server) (item : ReviewSummary) : ℤ := (item.createdAt + server.zone) / 86400000000

/-- The filters for a window. -/
def windowFilters (window : Window) : ReviewFilters where
  q := none
  rating := none
  startDate := some window.startDate
  endDate := some window.endDate

/-- The overview has the figures of the items: their number and average, and on each of their days the number
and the average of that day. -/
structure Summarises (server : Server) (round2 : ℚ → ℚ) (payload : OverviewPayload)
    (items : List ReviewSummary) : Prop where
  count : payload.reviewCount = items.length
  average : payload.averageRating = (averageRating items).map round2
  days_increasing : (payload.ratingTrend.map (·.date)).Pairwise (· < ·)
  days : ∀ date, date ∈ payload.ratingTrend.map (·.date) ↔ ∃ item ∈ items, day server item = date
  points : ∀ point ∈ payload.ratingTrend,
    point.reviewCount = (items.filter (day server · = point.date)).length ∧
    point.averageRating = (averageRating (items.filter (day server · = point.date))).map round2

variable {server : Server} {table : ReviewRows} {window : Window} {rows : List StoredReview}
  {items : List ReviewSummary} {request : ListRequest}

/-! ## Rows and items

The filters for a window select the rows its aggregates are over, and nothing that is summed depends on the
order of what is listed. -/

/-- The items are those of the rows, in some order. -/
def Lists (rows : List StoredReview) (items : List ReviewSummary) : Prop :=
  items.Perm (rows.map ReviewsService.summary)

theorem Lists.length_eq (h : Lists rows items) : items.length = rows.length := by
  have hlength := List.Perm.length_eq h
  rwa [List.length_map] at hlength

theorem Lists.filter {p : StoredReview → Bool} {q : ReviewSummary → Bool}
    (hpq : ∀ row, q (ReviewsService.summary row) = p row) (h : Lists rows items) :
    Lists (rows.filter p) (items.filter q) := by
  have hfilter := List.Perm.filter q h
  rw [List.filter_map] at hfilter
  have hcomp : q ∘ ReviewsService.summary = p := funext hpq
  rwa [hcomp] at hfilter

/-- Their average does not depend on the order. -/
theorem Lists.averageRating_eq (h : Lists rows items) : averageRating items = ReviewReader.average rows := by
  have hsum : (items.map fun item => (item.rating : ℚ)).sum = (rows.map fun row => (row.rating : ℚ)).sum := by
    rw [(List.Perm.map _ h).sum_eq, List.map_map]
    rfl
  have hempty : items = [] ↔ rows = [] := by
    rw [← List.length_eq_zero_iff, h.length_eq, List.length_eq_zero_iff]
  rw [averageRating, ReviewReader.average, hsum, h.length_eq]
  simp only [hempty]

/-- The filters for a window select what its aggregates do. -/
theorem matching_windowFilters : matching server table (windowFilters window)
    = table.reviews.filter (ReviewReader.inWindow server window) := by
  refine List.filter_congr fun row _ => ?_
  simp [Matches, windowFilters, ReviewReader.inWindow]

/-- With a rating as well, they select among these. -/
theorem matching_rating (stars : ℤ) :
    matching server table { windowFilters window with rating := some stars }
      = (table.reviews.filter (ReviewReader.inWindow server window)).filter (·.rating = stars) := by
  rw [matching, List.filter_filter]
  refine List.filter_congr fun row _ => ?_
  simp [Matches, windowFilters, ReviewReader.inWindow]

/-- The points of a window. -/
theorem trend_eq (round2 : ℚ → ℚ) :
    (ReviewReader.dailyTrend server table window).map (OverviewService.point round2)
      = let rows := table.reviews.filter (ReviewReader.inWindow server window)
        (ReviewReader.days server rows).map fun date =>
          let group := rows.filter (ReviewReader.day server · = date)
          ⟨date, group.length, (ReviewReader.average group).map round2⟩ := by
  rw [ReviewReader.dailyTrend, List.map_map]
  rfl

/-- **The overview of a window summarises what lists its rows.** -/
theorem summarises_of_lists (stored : Shuffle Insight) (tables : DashboardTables) (round2 : ℚ → ℚ)
    {now : CurrentTime} {startDate endDate : Option DateTime}
    (hwindow : OverviewService.window now startDate endDate = .ok window)
    (h : Lists (tables.reviews.filter (ReviewReader.inWindow server window)) items) :
    ∃ payload, OverviewService.getOverview server round2 stored tables now startDate endDate = .ok payload ∧
      Summarises server round2 payload items := by
  set rows := tables.reviews.filter (ReviewReader.inWindow server window) with hrows
  have hgroup (date : ℤ) : Lists (rows.filter (ReviewReader.day server · = date))
      (items.filter (day server · = date)) := h.filter fun _ => rfl
  have hdates : ((ReviewReader.dailyTrend server tables.toReviewRows window).map
      (OverviewService.point round2)).map (·.date) = ReviewReader.days server rows := by
    rw [trend_eq, List.map_map]
    exact List.map_id _
  rw [OverviewService.getOverview, hwindow]
  refine ⟨_, rfl, ?_, ?_, ?_, ?_, ?_⟩
  · exact h.length_eq.symm
  · rw [h.averageRating_eq]
  · rw [hdates]
    exact ReviewReader.days_increasing server rows
  · intro date
    rw [hdates, ReviewReader.mem_days]
    constructor
    · rintro ⟨row, hrow, rfl⟩
      exact ⟨ReviewsService.summary row, (List.Perm.mem_iff h).mpr (List.mem_map_of_mem hrow), rfl⟩
    · rintro ⟨item, hitem, rfl⟩
      obtain ⟨row, hrow, rfl⟩ := List.mem_map.mp ((List.Perm.mem_iff h).mp hitem)
      exact ⟨row, hrow, rfl⟩
  · intro point hpoint
    rw [trend_eq] at hpoint
    obtain ⟨date, -, rfl⟩ := List.mem_map.mp hpoint
    rw [(hgroup date).averageRating_eq]
    exact ⟨(hgroup date).length_eq.symm, rfl⟩

/-- A page of a window that the service accepts. -/
theorem answer_of_window (hrequest : request.q = none ∧ request.startDate = some window.startDate ∧
      request.endDate = some window.endDate)
    (hcheck : Windows.check (some window.startDate) (some window.endDate) = .ok ()) {k : ℕ}
    (hoffset : ReviewReader.sendOffset (k * request.pageSize) = .ok ()) :
    answer server table request (k + 1) = .ok (shown server table request k) := by
  refine answer_of_send ?_ ?_ hoffset
  · rw [hrequest.2.1, hrequest.2.2]
    exact hcheck
  · rw [hrequest.1]
    rfl

/-- **The overview has the figures of the list**: it summarises what the pages of its window lead through, and
the list of one rating counts the items of that rating. -/
theorem overview_of_pages (server : Server) (round2 : ℚ → ℚ) (stored : Shuffle Insight)
    (tables : DashboardTables) (now : CurrentTime) (startDate endDate : Option DateTime) {window : Window}
    {request : ListRequest} (hwindow : OverviewService.window now startDate endDate = .ok window)
    (hrequest : request.toReviewFilters = windowFilters window)
    (hcheck : Windows.check (some window.startDate) (some window.endDate) = .ok ())
    (hcount : tables.reviews.length ≤ 2 ^ 63) :
    ∃ payload pages,
      OverviewService.getOverview server round2 stored tables now startDate endDate = .ok payload ∧
      Followed (answer server tables.toReviewRows request) 1 pages ∧
      Summarises server round2 payload (pages.flatMap (·.items)) ∧
      ∀ (rated : ListRequest) (stars : ℤ),
        rated.toReviewFilters = { windowFilters window with rating := some stars } →
        ∃ data, answer server tables.toReviewRows rated 1 = .ok data ∧
          data.total = (pages.flatMap (·.items)).countP (·.rating = stars) := by
  set pages := (List.range (pageCount server tables.toReviewRows request)).map
    (shown server tables.toReviewRows request) with hpages
  have hlists : Lists (tables.reviews.filter (ReviewReader.inWindow server window))
      (pages.flatMap (·.items)) := by
    rw [hpages, flatMap_items, hrequest, sorted, matching_windowFilters]
    exact (List.perm_insertionSort _ _).map _
  obtain ⟨payload, hpayload, hsummarises⟩ :=
    @summarises_of_lists server window _ stored tables round2 now startDate endDate hwindow hlists
  refine ⟨payload, pages, hpayload, ?_, hsummarises, fun rated stars hrated => ?_⟩
  · have hpositive : 0 < pageCount server tables.toReviewRows request :=
      Nat.lt_of_lt_of_le one_pos (le_max_left _ _)
    have hfollowed := @followed server tables.toReviewRows request
      (fun k hk => answer_of_window (by rw [hrequest]; exact ⟨rfl, rfl, rfl⟩) hcheck
        (sendOffset_of_lt hk hcount))
      (pageCount server tables.toReviewRows request - 1) 0 (by omega)
    rw [Nat.sub_add_cancel hpositive] at hfollowed
    simpa [hpages] using hfollowed
  · have hstars := @Lists.filter _ _ (fun row => decide (row.rating = stars))
      (fun item => decide (item.rating = stars)) (fun _ => rfl) hlists
    have hanswer : answer server tables.toReviewRows rated (0 + 1)
        = .ok (shown server tables.toReviewRows rated 0) :=
      answer_of_window (by rw [hrated]; exact ⟨rfl, rfl, rfl⟩) hcheck (by rw [Nat.zero_mul]; rfl)
    refine ⟨_, hanswer, ?_⟩
    rw [shown, hrated, matching_rating, List.countP_eq_length_filter]
    exact hstars.length_eq.symm

/-- The list of two days. -/
def ofFirstDays : ListRequest :=
  { ListRequest.plain with startDate := some firstDays.startDate, endDate := some firstDays.endDate }

theorem overview_of_pages_twoDays : ∃ payload pages,
    OverviewService.getOverview ReviewsService.asciiServer id .none twoDays ⟨0, by decide, by decide⟩
        (some firstDays.startDate) (some firstDays.endDate) = .ok payload ∧
      Followed (answer ReviewsService.asciiServer twoDays.toReviewRows ofFirstDays) 1 pages ∧
      Summarises ReviewsService.asciiServer id payload (pages.flatMap (·.items)) ∧
      ∀ (rated : ListRequest) (stars : ℤ),
        rated.toReviewFilters = { windowFilters firstDays with rating := some stars } →
        ∃ data, answer ReviewsService.asciiServer twoDays.toReviewRows rated 1 = .ok data ∧
          data.total = (pages.flatMap (·.items)).countP (·.rating = stars) :=
  overview_of_pages ReviewsService.asciiServer id .none twoDays ⟨0, by decide, by decide⟩
    (some firstDays.startDate) (some firstDays.endDate) rfl rfl rfl (by decide)

end ReviewsPage

end ReviewSignal
