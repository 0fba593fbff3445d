import ReviewSignal.Foundations.KeyedFold
import ReviewSignal.Integrations.Base
import Mathlib.Data.List.Nodup

/-!
# Review persistence

`ReviewRepository.upsert`: look the review up by `source_review_id`, then create a row, rewrite
the columns a change touches, or leave the row alone.

The three paths write three different sets of columns, and the change test compares a fourth:

| path      | columns written                                                             |
|-----------|-----------------------------------------------------------------------------|
| create    | all of them                                                                 |
| update    | the six compared ones, `raw_payload`, and `analysis_status` if the text changed |
| unchanged | none                                                                        |

`Agrees` is agreement on the six compared columns, so `Changed` is its negation.  `upsertRow` is
what the call does to the one row it touches, and `storeAll` what a list of calls does to the table.

The call reads its own writes: within a transaction, a review that comes a second time meets the row the
first time left.  What two transactions make of each other is the subject of `ReviewStatements`.
-/

namespace ReviewSignal

/-- `UpsertOutcome` -/
inductive UpsertOutcome where
  | created
  | updated
  | unchanged
  deriving DecidableEq, Repr

/-- A row agrees with a review on the columns `upsert` compares. -/
structure Agrees (row : Review) (review : NormalizedReview) : Prop where
  rating : row.rating = review.rating
  reviewText : row.reviewText = review.reviewText
  reviewerName : row.reviewerName = review.reviewerName
  updatedAt : row.updatedAt = review.updatedAt
  ownerReplyText : row.ownerReplyText = review.ownerReplyText
  ownerReplyAt : row.ownerReplyAt = review.ownerReplyAt

namespace ReviewRepository

/-- `text_changed` -/
def TextChanged (existing : Review) (review : NormalizedReview) : Prop :=
  existing.reviewText ≠ review.reviewText

/-- `reply_changed` -/
def ReplyChanged (existing : Review) (review : NormalizedReview) : Prop :=
  existing.ownerReplyText ≠ review.ownerReplyText ∨ existing.ownerReplyAt ≠ review.ownerReplyAt

/-- `changed` -/
def Changed (existing : Review) (review : NormalizedReview) : Prop :=
  TextChanged existing review ∨ ReplyChanged existing review ∨ existing.rating ≠ review.rating ∨
    existing.updatedAt ≠ review.updatedAt ∨ existing.reviewerName ≠ review.reviewerName

instance (existing : Review) (review : NormalizedReview) :
    Decidable (TextChanged existing review) := by
  unfold TextChanged; infer_instance

instance (existing : Review) (review : NormalizedReview) : Decidable (Changed existing review) := by
  unfold Changed ReplyChanged; infer_instance

/-- `"pending" if review.review_text is not None else "skipped"` -/
def initialStatus (review : NormalizedReview) : AnalysisStatus :=
  if review.reviewText.isSome then .pending else .skipped

/-- The row the create path inserts. -/
def createdRow (source : String) (review : NormalizedReview) : Review where
  source := source
  rating := review.rating
  reviewText := review.reviewText
  reviewerName := review.reviewerName
  createdAt := review.createdAt
  updatedAt := review.updatedAt
  ownerReplyText := review.ownerReplyText
  ownerReplyAt := review.ownerReplyAt
  language := review.language
  rawPayload := review.rawPayload
  analysisStatus := initialStatus review

/-- The row the update path leaves.  `source`, `created_at` and `language` keep their old values. -/
def updatedRow (existing : Review) (review : NormalizedReview) : Review :=
  { existing with
    rating := review.rating
    reviewText := review.reviewText
    ownerReplyText := review.ownerReplyText
    ownerReplyAt := review.ownerReplyAt
    updatedAt := review.updatedAt
    reviewerName := review.reviewerName
    rawPayload := review.rawPayload
    analysisStatus :=
      if TextChanged existing review then initialStatus review else existing.analysisStatus }

/-- `ReviewRepository.upsert`.  The lookup is by id alone; `source` is only used to create. -/
def upsert (source : String) (review : NormalizedReview) (table : ReviewTable) :
    UpsertOutcome × ReviewTable :=
  match table.lookup review.sourceReviewId with
  | none => (.created, table.insert review.sourceReviewId (createdRow source review))
  | some existing =>
      if ¬ Changed existing review then (.unchanged, table)
      else (.updated, table.insert review.sourceReviewId (updatedRow existing review))

/-! ## What one call does to the row it touches

The row after the call agrees with the review on the compared columns, whichever path it took. -/

/-- The row stored under the review's id after the call, from the row stored before. -/
def upsertRow (source : String) (review : NormalizedReview) : Option Review → Review
  | none => createdRow source review
  | some existing => if Changed existing review then updatedRow existing review else existing

variable {source : String} {review : NormalizedReview} {existing row : Review}
  {table : ReviewTable} {reviews : List NormalizedReview} {id : String}

/-- The change test fails exactly on agreement. -/
theorem not_changed_iff : ¬ Changed existing review ↔ Agrees existing review := by
  simp only [Changed, TextChanged, ReplyChanged, not_or, not_not]
  constructor
  · rintro ⟨text, ⟨replyText, replyAt⟩, rating, updatedAt, name⟩
    exact ⟨rating, text, name, updatedAt, replyText, replyAt⟩
  · rintro ⟨rating, text, name, updatedAt, replyText, replyAt⟩
    exact ⟨text, ⟨replyText, replyAt⟩, rating, updatedAt, name⟩

instance (row : Review) (review : NormalizedReview) : Decidable (Agrees row review) :=
  decidable_of_iff _ not_changed_iff

theorem agrees_createdRow : Agrees (createdRow source review) review := ⟨rfl, rfl, rfl, rfl, rfl, rfl⟩

theorem agrees_updatedRow : Agrees (updatedRow existing review) review :=
  ⟨rfl, rfl, rfl, rfl, rfl, rfl⟩

/-- **Whatever the path, the row then agrees with the review.** -/
theorem agrees_upsertRow (stored : Option Review) :
    Agrees (upsertRow source review stored) review := by
  cases stored with
  | none => exact agrees_createdRow
  | some existing =>
      rw [upsertRow]
      split_ifs with h
      · exact agrees_updatedRow
      · exact not_changed_iff.mp h

theorem upsertRow_of_agrees (h : Agrees existing review) :
    upsertRow source review (some existing) = existing := by
  rw [upsertRow, if_neg (not_changed_iff.mpr h)]

/-- A second call with the same review changes nothing. -/
theorem absorbing_upsertRow : Keyed.Absorbing (upsertRow source) :=
  fun _ stored => upsertRow_of_agrees (agrees_upsertRow stored)

/-- A row keeps the source it was created under. -/
theorem source_upsertRow_some :
    (upsertRow source review (some existing)).source = existing.source := by
  rw [upsertRow]
  split_ifs <;> rfl

/-- The call's effect on the table is a rewrite of one row. -/
theorem upsert_table (source : String) (review : NormalizedReview) (table : ReviewTable) :
    (upsert source review table).2
      = Keyed.put (·.sourceReviewId) (upsertRow source) review table := by
  rw [upsert, Keyed.put]
  cases h : table.lookup review.sourceReviewId with
  | none => rfl
  | some existing =>
      by_cases hc : Changed existing review
      · simp only [hc, not_true, if_false, upsertRow, if_true]
      · simp only [hc, not_false_eq_true, if_true, upsertRow, if_false]
        exact (Keyed.insert_of_lookup h).symm

/-! ## The outcome

Which path a call takes is decided by the row it meets. -/

theorem upsert_created_iff :
    (upsert source review table).1 = .created ↔ review.sourceReviewId ∉ table := by
  rw [upsert, ← Finmap.lookup_eq_none]
  cases table.lookup review.sourceReviewId with
  | none => simp
  | some existing => by_cases h : Changed existing review <;> simp [h]

/-- A call reports no change exactly when the stored row already agrees. -/
theorem upsert_unchanged_iff : (upsert source review table).1 = .unchanged ↔
    ∃ row, table.lookup review.sourceReviewId = some row ∧ Agrees row review := by
  rw [upsert]
  cases table.lookup review.sourceReviewId with
  | none => simp
  | some existing => by_cases h : Changed existing review <;> simp [h, ← not_changed_iff]

/-- And then the table is the one before. -/
theorem upsert_table_of_unchanged (h : (upsert source review table).1 = .unchanged) :
    (upsert source review table).2 = table := by
  obtain ⟨row, hrow, hagree⟩ := upsert_unchanged_iff.mp h
  rw [upsert_table, Keyed.put, hrow, upsertRow_of_agrees hagree, Keyed.insert_of_lookup hrow]

/-! ## A list of calls

An instance of the fold of `KeyedFold`. -/

/-- The table after upserting the reviews in order. -/
def storeAll (source : String) (reviews : List NormalizedReview) (table : ReviewTable) :
    ReviewTable :=
  reviews.foldl (fun table review => (upsert source review table).2) table

/-- The outcomes of upserting the reviews in order. -/
def outcomes (source : String) : List NormalizedReview → ReviewTable → List UpsertOutcome
  | [], _ => []
  | review :: reviews, table =>
      (upsert source review table).1 :: outcomes source reviews (upsert source review table).2

@[simp] theorem storeAll_nil : storeAll source [] table = table := rfl

@[simp] theorem storeAll_cons : storeAll source (review :: reviews) table
    = storeAll source reviews (upsert source review table).2 := rfl

theorem storeAll_append (l₁ l₂ : List NormalizedReview) :
    storeAll source (l₁ ++ l₂) table = storeAll source l₂ (storeAll source l₁ table) :=
  List.foldl_append

@[simp] theorem outcomes_nil : outcomes source [] table = [] := rfl

@[simp] theorem outcomes_cons : outcomes source (review :: reviews) table
    = (upsert source review table).1 :: outcomes source reviews (upsert source review table).2 :=
  rfl

theorem outcomes_append (l₁ l₂ : List NormalizedReview) :
    outcomes source (l₁ ++ l₂) table
      = outcomes source l₁ table ++ outcomes source l₂ (storeAll source l₁ table) := by
  induction l₁ generalizing table with
  | nil => rfl
  | cons review l₁ ih => rw [List.cons_append, outcomes_cons, ih]; rfl

/-- Every call has one outcome. -/
theorem length_outcomes (reviews : List NormalizedReview) (table : ReviewTable) :
    (outcomes source reviews table).length = reviews.length := by
  induction reviews generalizing table with
  | nil => rfl
  | cons review reviews ih => rw [outcomes_cons, List.length_cons, ih, List.length_cons]

/-- `storeAll` is an instance of the keyed fold. -/
theorem storeAll_eq_putAll (reviews : List NormalizedReview) (table : ReviewTable) :
    storeAll source reviews table
      = Keyed.putAll (·.sourceReviewId) (upsertRow source) reviews table := by
  induction reviews generalizing table with
  | nil => rfl
  | cons review reviews ih => rw [storeAll_cons, ih, upsert_table, Keyed.putAll_cons]

theorem lookup_storeAll_of_notMem (h : id ∉ reviews.map (·.sourceReviewId)) :
    (storeAll source reviews table).lookup id = table.lookup id := by
  rw [storeAll_eq_putAll, Keyed.lookup_putAll_of_notMem h]

/-- The row of a delivered review, when entries with one id are equal. -/
theorem lookup_storeAll_of_mem (hinj : Set.InjOn (·.sourceReviewId) {r | r ∈ reviews})
    (hmem : review ∈ reviews) : (storeAll source reviews table).lookup review.sourceReviewId
      = some (upsertRow source review (table.lookup review.sourceReviewId)) := by
  rw [storeAll_eq_putAll]
  exact Keyed.lookup_putAll_of_mem absorbing_upsertRow hinj hmem

/-- Distinct ids leave no two reviews with one id. -/
theorem injOn_of_nodup (h : (reviews.map (·.sourceReviewId)).Nodup) :
    Set.InjOn (·.sourceReviewId) {r | r ∈ reviews} :=
  List.inj_on_of_nodup_map h

theorem keys_subset_storeAll : table.keys ⊆ (storeAll source reviews table).keys := by
  rw [storeAll_eq_putAll]
  exact Keyed.keys_subset_putAll

/-- A call sees the table only through the row of its review. -/
theorem upsert_fst_congr {table' : ReviewTable}
    (h : table.lookup review.sourceReviewId = table'.lookup review.sourceReviewId) :
    (upsert source review table).1 = (upsert source review table').1 := by
  rw [upsert, upsert, h]
  cases table'.lookup review.sourceReviewId with
  | none => rfl
  | some existing => by_cases hc : Changed existing review <;> simp only [hc, not_true, if_false,
      not_false_eq_true, if_true]

/-- So outcomes depend on the rows of the delivered reviews alone. -/
theorem outcomes_congr {table' : ReviewTable}
    (h : ∀ review ∈ reviews,
      table.lookup review.sourceReviewId = table'.lookup review.sourceReviewId) :
    outcomes source reviews table = outcomes source reviews table' := by
  induction reviews generalizing table table' with
  | nil => rfl
  | cons review reviews ih =>
      have hhead := h review List.mem_cons_self
      rw [outcomes_cons, outcomes_cons, upsert_fst_congr hhead]
      refine congrArg _ (ih fun r hr => ?_)
      rw [upsert_table, upsert_table]
      by_cases hk : r.sourceReviewId = review.sourceReviewId
      · rw [hk, Keyed.lookup_put_self, Keyed.lookup_put_self, hhead]
      · rw [Keyed.lookup_put_of_ne hk, Keyed.lookup_put_of_ne hk]
        exact h r (List.mem_cons_of_mem _ hr)

/-- Nothing changes exactly when every review already has an agreeing row. -/
theorem outcomes_unchanged_iff : (∀ outcome ∈ outcomes source reviews table, outcome = .unchanged) ↔
    ∀ review ∈ reviews, ∃ row, table.lookup review.sourceReviewId = some row ∧
      Agrees row review := by
  induction reviews with
  | nil => simp
  | cons review reviews ih =>
      rw [outcomes_cons, List.forall_mem_cons, List.forall_mem_cons, upsert_unchanged_iff]
      refine and_congr_right fun h => ?_
      rw [upsert_table_of_unchanged (upsert_unchanged_iff.mpr h)]
      exact ih

/-- **Each created outcome adds one row.** -/
theorem card_keys_storeAll : (storeAll source reviews table).keys.card
    = table.keys.card + (outcomes source reviews table).count .created := by
  induction reviews generalizing table with
  | nil => simp
  | cons review reviews ih =>
      have hkeys : (upsert source review table).2.keys = insert review.sourceReviewId table.keys := by
        ext id
        rw [upsert_table, Keyed.put, Finmap.mem_keys, Finmap.mem_insert, Finset.mem_insert,
          Finmap.mem_keys]
      rw [storeAll_cons, ih, outcomes_cons, List.count_cons, hkeys]
      by_cases hmem : review.sourceReviewId ∈ table
      · have hne : (upsert source review table).1 ≠ .created := fun h =>
          upsert_created_iff.mp h hmem
        rw [Finset.insert_eq_of_mem (Finmap.mem_keys.mpr hmem), if_neg (by simpa using hne)]
        omega
      · have heq : (upsert source review table).1 = .created := upsert_created_iff.mpr hmem
        rw [Finset.card_insert_of_notMem (fun h => hmem (Finmap.mem_keys.mp h)), if_pos (by simp [heq])]
        omega

/-- The number of rows a list of calls adds. -/
theorem card_added : ((storeAll source reviews table).keys \ table.keys).card
    = (outcomes source reviews table).count .created := by
  rw [Finset.card_sdiff_of_subset keys_subset_storeAll, card_keys_storeAll]
  omega

end ReviewRepository

end ReviewSignal
