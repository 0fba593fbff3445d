import ReviewSignal.Integrations.GoogleMapping
import ReviewSignal.Repositories.Reviews

/-!
# The constraints of `reviews`

Column widths, the CHECK on ratings and what PostgreSQL refuses in texts and in JSON, which the finite map of
the ingestion model does not have.

**`constrained_storeAll`**: reviews a mapping returned as storable leave a table that meets the constraints,
whether they create rows or update them.  It is what makes `Storable` a statement about the table and not
about the review alone; the step is `rowConstraints_upsertRow`, and an update that changes nothing keeps
whatever the row had.

A `varchar` cuts the spaces that do not fit, so a text fits a column when what is no space within it does
(`FitsColumn`).  What texts and what JSON the server takes at all is a parameter (`Postgres`).
-/

namespace ReviewSignal

/-- A text that a column of some width takes. -/
def FitsColumn (postgres : Postgres) (width : ℕ) (text : String) : Prop :=
  text.length ≤ width ∧ postgres.TakesText text

/-- What the table asks of a row and its key. -/
structure RowConstraints (postgres : Postgres) (sourceReviewId : String) (row : Review) : Prop where
  source_review_id : FitsColumn postgres 255 sourceReviewId
  source : FitsColumn postgres 64 row.source
  rating : 1 ≤ row.rating ∧ row.rating ≤ 5
  language : FitsColumn postgres 16 row.language
  texts : ∀ text ∈ row.reviewText.toList ++ row.reviewerName.toList ++ row.ownerReplyText.toList,
    postgres.TakesText text
  raw_payload : postgres.TakesJson row.rawPayload

/-- Every row meets the constraints. -/
def Constrained (postgres : Postgres) (table : ReviewTable) : Prop :=
  ∀ id row, table.lookup id = some row → RowConstraints postgres id row

/-- What a mapping returned, with the types a `NormalizedReview` declares; its dates are aware. -/
structure MappedReview.Is (review : MappedReview) (normalized : NormalizedReview) : Prop where
  sourceReviewId : review.sourceReviewId = .str normalized.sourceReviewId
  rating : review.rating = normalized.rating
  reviewText : review.reviewText = normalized.reviewText
  reviewerName : review.reviewerName = normalized.reviewerName.map Json.str
  createdAt : review.createdAt.instant 0 = normalized.createdAt
  updatedAt : review.updatedAt.instant 0 = normalized.updatedAt
  ownerReplyText : review.ownerReplyText = normalized.ownerReplyText
  ownerReplyAt : review.ownerReplyAt.map (·.instant 0) = normalized.ownerReplyAt
  language : review.language = normalized.language
  rawPayload : review.rawPayload = normalized.rawPayload

open GoogleMapping ReviewRepository

variable {env : MappingEnv} {entry : Json} {review : MappedReview} {normalized : NormalizedReview}
variable {source : String} {table : ReviewTable}

/-- The texts of the row are texts of the review. -/
theorem texts_of_is (his : review.Is normalized) : review.texts
    = [normalized.sourceReviewId] ++ normalized.reviewText.toList ++ normalized.reviewerName.toList
      ++ normalized.ownerReplyText.toList ++ [normalized.language] := by
  have hname : (review.reviewerName.getD .null).texts = normalized.reviewerName.toList := by
    rw [his.reviewerName]
    cases normalized.reviewerName <;> rfl
  rw [MappedReview.texts, hname, his.sourceReviewId, his.reviewText, his.ownerReplyText, his.language,
    Json.texts]

/-- The review came from a mapping that can be stored. -/
def FromStorable (env : MappingEnv) (normalized : NormalizedReview) : Prop :=
  ∃ entry review, Storable env entry review ∧ review.Is normalized

theorem FromStorable.takesText (h : FromStorable env normalized) {text : String}
    (hmem : text ∈ [normalized.sourceReviewId] ++ normalized.reviewText.toList
      ++ normalized.reviewerName.toList ++ normalized.ownerReplyText.toList ++ [normalized.language]) :
    env.postgres.TakesText text := by
  obtain ⟨entry, review, hstorable, his⟩ := h
  rw [← texts_of_is his] at hmem
  exact hstorable.texts text hmem

theorem FromStorable.takesJson (h : FromStorable env normalized) :
    env.postgres.TakesJson normalized.rawPayload := by
  obtain ⟨entry, review, hstorable, his⟩ := h
  rw [← his.rawPayload]
  exact hstorable.json

theorem FromStorable.fits_id (h : FromStorable env normalized) :
    FitsColumn env.postgres 255 normalized.sourceReviewId := by
  refine ⟨?_, h.takesText (by simp)⟩
  obtain ⟨entry, review, hstorable, his⟩ := h
  obtain ⟨id, hid, -, hlength⟩ := hstorable.source_review_id
  rw [his.sourceReviewId, Json.str.injEq] at hid
  rwa [hid]

theorem FromStorable.fits_language (h : FromStorable env normalized) :
    FitsColumn env.postgres 16 normalized.language := by
  refine ⟨?_, h.takesText (by simp)⟩
  obtain ⟨entry, review, hstorable, his⟩ := h
  rw [← his.language]
  exact hstorable.language

theorem FromStorable.rating_range (h : FromStorable env normalized) :
    1 ≤ normalized.rating ∧ normalized.rating ≤ 5 := by
  obtain ⟨entry, review, hstorable, his⟩ := h
  rw [← his.rating]
  exact hstorable.rating

/-- The texts of the columns that a call writes whichever way it goes. -/
theorem FromStorable.written (h : FromStorable env normalized) : ∀ text ∈ normalized.reviewText.toList
    ++ normalized.reviewerName.toList ++ normalized.ownerReplyText.toList,
    env.postgres.TakesText text := by
  intro text hmem
  refine h.takesText ?_
  simp only [List.mem_append] at hmem ⊢
  tauto

/-- One call keeps the constraints of the row it touches. -/
theorem rowConstraints_upsertRow (h : FromStorable env normalized)
    (hsource : FitsColumn env.postgres 64 source) (stored : Option Review)
    (hstored : ∀ existing, stored = some existing →
      RowConstraints env.postgres normalized.sourceReviewId existing) :
    RowConstraints env.postgres normalized.sourceReviewId (upsertRow source normalized stored) := by
  cases stored with
  | none => exact ⟨h.fits_id, hsource, h.rating_range, h.fits_language, h.written, h.takesJson⟩
  | some existing =>
      have hexisting := hstored existing rfl
      rw [upsertRow]
      split_ifs
      · exact ⟨h.fits_id, hexisting.source, h.rating_range, hexisting.language, h.written, h.takesJson⟩
      · exact hexisting

theorem constrained_upsert (h : FromStorable env normalized) (hsource : FitsColumn env.postgres 64 source)
    (htable : Constrained env.postgres table) :
    Constrained env.postgres (upsert source normalized table).2 := by
  intro id row hrow
  rw [upsert_table] at hrow
  by_cases hid : id = normalized.sourceReviewId
  · subst hid
    rw [Keyed.lookup_put_self, Option.some.injEq] at hrow
    rw [← hrow]
    exact rowConstraints_upsertRow h hsource _ fun existing => htable _ existing
  · rw [Keyed.lookup_put_of_ne hid] at hrow
    exact htable id row hrow

/-- **Reviews that can be stored leave a table that meets its constraints.** -/
theorem constrained_storeAll {reviews : List NormalizedReview}
    (h : ∀ normalized ∈ reviews, FromStorable env normalized) (hsource : FitsColumn env.postgres 64 source)
    (htable : Constrained env.postgres table) :
    Constrained env.postgres (storeAll source reviews table) := by
  induction reviews generalizing table with
  | nil => exact htable
  | cons normalized reviews ih =>
      rw [List.forall_mem_cons] at h
      rw [storeAll_cons]
      exact ih h.2 (constrained_upsert h.1 hsource htable)

end ReviewSignal
