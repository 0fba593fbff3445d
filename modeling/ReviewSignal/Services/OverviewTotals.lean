import ReviewSignal.Services.Trends
import ReviewSignal.Foundations.Averages
import ReviewSignal.Foundations.Counting

/-!
# Overview totals and trend

`count_and_average` aggregates the rows of a window, `daily_trend` the rows of each day of it.  The groups of
the days are the rows, each once, so that the sums of the groups are those of the window (`sum_days`), and a
weighted sum of averages is a sum.

**`overview_totals_agree`** carries this to the two services: the number of reviews is the sum of the points'
counts, the average before it is rounded is their weighted mean, and there is none exactly when there are no
points, which are in the order of their days.  The overview and the ratings history have different default
windows and agree whenever they resolve to the same one.

The averages are compared before rounding.  Rounded to two digits, as they are shown, a mean of means need not
be the mean.
-/

namespace ReviewSignal

/-- A number of reviews and their average rating agree with the points of a trend. -/
structure TotalsAgree (reviewCount : ℕ) (averageRating : Option ℚ) (trend : List RatingTrendPoint) :
    Prop where
  days_increasing : (trend.map (·.date)).Pairwise (· < ·)
  no_zero_count : ∀ point ∈ trend, point.reviewCount ≠ 0
  count_eq : reviewCount = (trend.map (·.reviewCount)).sum
  average_null_iff : averageRating = none ↔ reviewCount = 0
  points_averaged : ∀ point ∈ trend, point.averageRating ≠ none
  weighted : ∀ average ∈ averageRating, average * reviewCount
    = (trend.map fun point => (point.reviewCount : ℚ) * point.averageRating.getD 0).sum

namespace ReviewReader

variable {rows : List StoredReview}

theorem average_eq_none_iff : average rows = none ↔ rows = [] := by
  rw [average]
  split_ifs with hempty
  · simp [hempty]
  · simp [hempty]

/-- The average times the number of rows is the sum of their ratings. -/
theorem length_mul_average (rows : List StoredReview) :
    (rows.length : ℚ) * (average rows).getD 0 = (rows.map fun row => (row.rating : ℚ)).sum := by
  rw [average]
  split_ifs with hempty
  · simp [hempty]
  · exact mul_div_cancel₀ _ (by simpa using hempty)

variable {server : Server} {table : ReviewRows} {window : Window}

/-- The days of a trend. -/
def days (server : Server) (rows : List StoredReview) : List ℤ :=
  (rows.map (day server)).dedup.insertionSort (· ≤ ·)

theorem days_increasing (server : Server) (rows : List StoredReview) :
    (days server rows).Pairwise (· < ·) := by
  have hnodup : (days server rows).Nodup :=
    (List.perm_insertionSort _ _).nodup_iff.mpr (List.nodup_dedup _)
  have hsorted : (days server rows).Pairwise (· ≤ ·) := List.pairwise_insertionSort _ _
  exact hsorted.imp₂ (fun _ _ => lt_of_le_of_ne) hnodup

theorem mem_days {date : ℤ} : date ∈ days server rows ↔ ∃ row ∈ rows, day server row = date := by
  simp [days]

/-- **Summing by day is summing.** -/
theorem sum_days {M : Type} [AddCommMonoid M] (server : Server) (rows : List StoredReview)
    (f : StoredReview → M) :
    ((days server rows).map fun date => ((rows.filter (day server · = date)).map f).sum).sum
      = (rows.map f).sum :=
  sum_groups ((days_increasing server rows).imp fun h => h.ne) (day server) f
    fun row hrow => mem_days.mpr ⟨row, hrow, rfl⟩

/-- **The two queries agree**, on every table and window. -/
theorem totalsAgree (server : Server) (table : ReviewRows) (window : Window) :
    TotalsAgree (countAndAverage server table window).1 (countAndAverage server table window).2
      ((dailyTrend server table window).map (OverviewService.point id)) := by
  set rows := table.reviews.filter (inWindow server window) with hrows
  have htrend : (dailyTrend server table window).map (OverviewService.point id)
      = (days server rows).map fun date => ⟨date, (rows.filter (day server · = date)).length,
          average (rows.filter (day server · = date))⟩ := by
    simp [dailyTrend, OverviewService.point, Function.comp_def, days, hrows]
  have hgroup : ∀ date ∈ days server rows, rows.filter (day server · = date) ≠ [] := by
    intro date hdate hempty
    obtain ⟨row, hrow, hday⟩ := mem_days.mp hdate
    have hmem : row ∈ rows.filter (day server · = date) := by simpa [hday] using hrow
    simp [hempty] at hmem
  rw [htrend]
  refine
    { days_increasing := ?_, no_zero_count := ?_, count_eq := ?_, average_null_iff := ?_
      points_averaged := ?_, weighted := ?_ }
  · rw [List.map_map]
    exact (List.map_id _).symm ▸ days_increasing server rows
  · rw [List.forall_mem_map]
    intro date hdate
    exact fun hzero => hgroup date hdate (List.length_eq_zero_iff.mp hzero)
  · have hsum := sum_days server rows fun _ => 1
    rw [show (countAndAverage server table window).1 = rows.length from rfl]
    simpa [Function.comp_def] using hsum.symm
  · show average rows = none ↔ rows.length = 0
    rw [average_eq_none_iff, List.length_eq_zero_iff]
  · rw [List.forall_mem_map]
    exact fun date hdate => average_eq_none_iff.not.mpr (hgroup date hdate)
  · intro mean hmean
    have hmean' : average rows = some mean := hmean
    have hrating := length_mul_average rows
    rw [hmean', ← sum_days server rows] at hrating
    rw [mul_comm, List.map_map]
    refine hrating.trans (congrArg List.sum (List.map_congr_left fun date _ => ?_))
    exact (length_mul_average _).symm

end ReviewReader

/-- **Overview totals and trend agree**, and the ratings history of a window has the points of its
overview. -/
theorem overview_totals_agree (server : Server) (stored : Shuffle Insight) (tables : DashboardTables)
    (window : Window) :
    TotalsAgree (ReviewReader.countAndAverage server tables.toReviewRows window).1
      (ReviewReader.countAndAverage server tables.toReviewRows window).2
      ((ReviewReader.dailyTrend server tables.toReviewRows window).map (OverviewService.point id)) ∧
    ∀ now startDate endDate, OverviewService.window now startDate endDate = .ok window →
      ∃ payload, OverviewService.getOverview server id stored tables now startDate endDate = .ok payload ∧
        TotalsAgree payload.reviewCount payload.averageRating payload.ratingTrend ∧
        ∀ now startDate endDate,
          Windows.resolve TrendsService.ratingsWindow (.now now) startDate endDate = .ok window →
          ∃ history, TrendsService.getRatings server id tables now startDate endDate = .ok history ∧
            history.points = payload.ratingTrend := by
  have hqueries := ReviewReader.totalsAgree server tables.toReviewRows window
  refine ⟨hqueries, fun now startDate endDate hwindow => ?_⟩
  rw [OverviewService.getOverview, hwindow]
  refine ⟨_, rfl, ?_, fun now startDate endDate hresolved => ?_⟩
  · show TotalsAgree _ ((ReviewReader.countAndAverage server tables.toReviewRows window).2.map id) _
    rwa [Option.map_id]
  · rw [TrendsService.getRatings, hresolved]
    exact ⟨_, rfl, rfl⟩

/-! ## A window of two days

Two reviews on one day and one on the next, so that the mean of the days is not that of the reviews. -/

/-- A review of a rating and a moment. -/
def ratedAt (id : ℕ) (rating : ℤ) (createdAt : Instant) : StoredReview where
  source := "google"
  rating := rating
  reviewText := none
  reviewerName := none
  createdAt := createdAt
  updatedAt := createdAt
  ownerReplyText := none
  ownerReplyAt := none
  language := "en"
  rawPayload := .obj []
  analysisStatus := .skipped
  id := id
  sourceReviewId := "1"
  text_storable := no_text_storable

/-- Two reviews of the first day and one of the second. -/
def twoDays : DashboardTables where
  toReviewRows := ⟨[ratedAt 0 5 10, ratedAt 1 2 86400000000, ratedAt 2 4 20], by decide⟩
  analyses := []
  aspects := []
  nodes := []
  insights := []
  analysis_review := nofun
  aspect_analysis := DashboardTables.empty.aspect_analysis
  aspect_node := DashboardTables.empty.aspect_node

/-- The window from the epoch to two days later. -/
def firstDays : Window :=
  ⟨⟨0, some 0, DateTime.isDate_epoch, DateTime.utc_lt⟩, ⟨172800000000, some 0, by decide, DateTime.utc_lt⟩⟩

theorem overview_totals_agree_twoDays :
    ∃ payload, OverviewService.getOverview ⟨.ascii, 0⟩ id .none twoDays ⟨0, by decide, by decide⟩
        (some firstDays.startDate) (some firstDays.endDate) = .ok payload ∧
      TotalsAgree payload.reviewCount payload.averageRating payload.ratingTrend ∧
      ∃ history, TrendsService.getRatings ⟨.ascii, 0⟩ id twoDays ⟨0, by decide, by decide⟩
          (some firstDays.startDate) (some firstDays.endDate) = .ok history ∧
        history.points = payload.ratingTrend := by
  obtain ⟨payload, hanswered, hagree, hratings⟩ :=
    (overview_totals_agree ⟨.ascii, 0⟩ .none twoDays firstDays).2 ⟨0, by decide, by decide⟩
      (some firstDays.startDate) (some firstDays.endDate) rfl
  exact ⟨payload, hanswered, hagree, hratings _ _ _ rfl⟩

end ReviewSignal
