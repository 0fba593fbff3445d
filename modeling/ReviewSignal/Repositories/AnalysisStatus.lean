import ReviewSignal.Foundations.Transition
import ReviewSignal.Repositories.Reviews

/-!
# The analysis status of a row

`reviews` has two independent writers: `upsert`, and an analyser that takes a row from `pending` to
`analyzed` or `failed` and writes nothing else.  `ReviewTable.step` is one write of either.

A row is `skipped` exactly while it has no text (`StatusMatchesText`): `upsert` writes the two columns
together, from the same test on the text, and the analyser neither starts from `skipped` nor ends there.

**`analysis_status_true_to_text`**, in every state the two writers reach: a row is `skipped` exactly while it
has no text; one the analyser has been done with leaves its status exactly at an upsert that brings another
text, and then for `pending` or `skipped`; and an upsert that changes nothing leaves the table as it is.

The analyser is not in the repository yet; that it leaves rows without text alone is what `data-model.md` says
of the status.
-/

namespace ReviewSignal

open ReviewRepository

/-- One write to `reviews`. -/
inductive ReviewWrite where
  | upsert (source : String) (review : NormalizedReview)
  /-- The analyser is done with a row. -/
  | analyse (sourceReviewId : String) (succeeded : Bool)
  deriving DecidableEq

/-- A row the analyser is done with. -/
def Review.withVerdict (row : Review) (succeeded : Bool) : Review :=
  { row with analysisStatus := if succeeded then .analyzed else .failed }

/-- The table after a write.  The analyser only takes rows that are `pending`. -/
def ReviewTable.step (table : ReviewTable) : ReviewWrite → Option ReviewTable
  | .upsert source review => some (ReviewRepository.upsert source review table).2
  | .analyse sourceReviewId succeeded =>
      match table.lookup sourceReviewId with
      | none => none
      | some row =>
          if row.analysisStatus = .pending then
            some (table.insert sourceReviewId (row.withVerdict succeeded))
          else none

/-- A row without text is skipped, and no other. -/
def Review.StatusMatchesText (row : Review) : Prop :=
  row.analysisStatus = .skipped ↔ row.reviewText = none

/-- The analyser has been done with the row. -/
def Review.Finished (row : Review) : Prop :=
  row.analysisStatus = .analyzed ∨ row.analysisStatus = .failed

/-- The write is an upsert of the row that brings another text. -/
def ReviewWrite.ChangesText (write : ReviewWrite) (sourceReviewId : String) (row : Review) : Prop :=
  ∃ source review, write = .upsert source review ∧ review.sourceReviewId = sourceReviewId ∧
    row.reviewText ≠ review.reviewText

/-- The texts of all rows are as their statuses say. -/
def StatusesMatchTexts (table : ReviewTable) : Prop :=
  ∀ id row, table.lookup id = some row → row.StatusMatchesText

variable {table table' : ReviewTable} {id : String} {row : Review} {source : String}
  {review : NormalizedReview} {succeeded : Bool} {write : ReviewWrite}

/-! ## What one write does to a row

The status after it, from the text before and after. -/

theorem initialStatus_skipped_iff : initialStatus review = .skipped ↔ review.reviewText = none := by
  rw [initialStatus]
  cases review.reviewText <;> simp

theorem initialStatus_cases (review : NormalizedReview) :
    initialStatus review = .pending ∨ initialStatus review = .skipped := by
  rw [initialStatus]
  split_ifs <;> simp

theorem statusMatchesText_createdRow : (createdRow source review).StatusMatchesText :=
  initialStatus_skipped_iff

theorem statusMatchesText_updatedRow (h : row.StatusMatchesText) :
    (updatedRow row review).StatusMatchesText := by
  show (if TextChanged row review then initialStatus review else row.analysisStatus) = .skipped ↔
    review.reviewText = none
  split_ifs with htext
  · exact initialStatus_skipped_iff
  · rw [← not_not.mp htext]
    exact h

theorem statusMatchesText_upsertRow (h : row.StatusMatchesText) :
    (upsertRow source review (some row)).StatusMatchesText := by
  rw [upsertRow]
  split_ifs
  · exact statusMatchesText_updatedRow h
  · exact h

theorem statusMatchesText_withVerdict (h : row.StatusMatchesText)
    (hpending : row.analysisStatus = .pending) : (row.withVerdict succeeded).StatusMatchesText := by
  have hskipped : row.analysisStatus ≠ .skipped := by
    rw [hpending]
    simp
  have htext : row.reviewText ≠ none := fun hnone => hskipped (h.mpr hnone)
  refine iff_of_false ?_ htext
  cases succeeded <;> simp [Review.withVerdict]

/-- An upsert sets the status anew when it brings another text, and keeps it otherwise. -/
theorem analysisStatus_upsertRow : (upsertRow source review (some row)).analysisStatus
    = if row.reviewText ≠ review.reviewText then initialStatus review else row.analysisStatus := by
  rw [upsertRow]
  split_ifs with hchanged htext htext
  · exact if_pos htext
  · exact if_neg htext
  · exact absurd (Or.inl htext) hchanged
  · rfl

theorem lookup_upsert_self : (ReviewRepository.upsert source review table).2.lookup
    review.sourceReviewId = some (upsertRow source review (table.lookup review.sourceReviewId)) := by
  rw [upsert_table, Keyed.lookup_put_self]

theorem lookup_upsert_of_ne (h : id ≠ review.sourceReviewId) :
    (ReviewRepository.upsert source review table).2.lookup id = table.lookup id := by
  rw [upsert_table, Keyed.lookup_put_of_ne h]

theorem step_analyse {sourceReviewId : String}
    (h : table.step (.analyse sourceReviewId succeeded) = some table') :
    ∃ row, table.lookup sourceReviewId = some row ∧ row.analysisStatus = .pending ∧
      table' = table.insert sourceReviewId (row.withVerdict succeeded) := by
  rw [ReviewTable.step] at h
  cases hrow : table.lookup sourceReviewId with
  | none => simp [hrow] at h
  | some row =>
      rw [hrow] at h
      by_cases hpending : row.analysisStatus = .pending
      · simp only [hpending, if_true, Option.some.injEq] at h
        exact ⟨row, rfl, hpending, h.symm⟩
      · simp [hpending] at h

/-! ## What every write keeps

Rows other than the one that is written keep both columns. -/

theorem statusesMatchTexts_step (hinv : StatusesMatchTexts table) (h : table.step write = some table') :
    StatusesMatchTexts table' := by
  intro id row hrow
  cases write with
  | upsert source review =>
      obtain rfl : (ReviewRepository.upsert source review table).2 = table' := Option.some.inj h
      by_cases hid : id = review.sourceReviewId
      · subst hid
        rw [lookup_upsert_self] at hrow
        obtain rfl := Option.some.inj hrow
        cases hold : table.lookup review.sourceReviewId with
        | none => exact statusMatchesText_createdRow
        | some old => exact statusMatchesText_upsertRow (hinv _ _ hold)
      · rw [lookup_upsert_of_ne hid] at hrow
        exact hinv id row hrow
  | analyse sourceReviewId succeeded =>
      obtain ⟨old, hold, hpending, rfl⟩ := step_analyse h
      by_cases hid : id = sourceReviewId
      · subst hid
        rw [Finmap.lookup_insert] at hrow
        obtain rfl := Option.some.inj hrow
        exact statusMatchesText_withVerdict (hinv _ _ hold) hpending
      · rw [Finmap.lookup_insert_of_ne _ hid] at hrow
        exact hinv id row hrow

theorem statusesMatchTexts_empty : StatusesMatchTexts ∅ := by
  intro id row hrow
  rw [Finmap.lookup_empty] at hrow
  cases hrow

/-- A finished row stays as it is under every write but an upsert of its own review. -/
theorem step_finished (h : table.step write = some table') (hrow : table.lookup id = some row)
    (hfinished : row.Finished) :
    ∃ row', table'.lookup id = some row' ∧
      (row'.analysisStatus ≠ row.analysisStatus ↔ write.ChangesText id row) ∧
      (write.ChangesText id row →
        row'.analysisStatus = .pending ∨ row'.analysisStatus = .skipped) := by
  cases write with
  | upsert source review =>
      obtain rfl : (ReviewRepository.upsert source review table).2 = table' := Option.some.inj h
      have hchanges : (ReviewWrite.upsert source review).ChangesText id row ↔
          review.sourceReviewId = id ∧ row.reviewText ≠ review.reviewText := by
        simp [ReviewWrite.ChangesText]
      by_cases hid : id = review.sourceReviewId
      · subst hid
        refine ⟨_, lookup_upsert_self, ?_⟩
        rw [hrow, hchanges, analysisStatus_upsertRow]
        by_cases htext : row.reviewText ≠ review.reviewText
        · have hcases := initialStatus_cases review
          simp only [htext, if_true, ne_eq, not_false_eq_true, and_self, iff_true, true_implies]
          refine ⟨fun heq => ?_, hcases⟩
          rw [heq] at hcases
          rcases hfinished with hdone | hdone <;> simp [hdone] at hcases
        · simp [htext]
      · refine ⟨row, (lookup_upsert_of_ne hid).trans hrow, ?_⟩
        rw [hchanges]
        simp [Ne.symm hid]
  | analyse sourceReviewId succeeded =>
      obtain ⟨old, hold, hpending, rfl⟩ := step_analyse h
      have hne : id ≠ sourceReviewId := by
        rintro rfl
        obtain rfl : old = row := Option.some.inj (hold.symm.trans hrow)
        rcases hfinished with hdone | hdone <;> simp [hdone] at hpending
      refine ⟨row, (Finmap.lookup_insert_of_ne _ hne).trans hrow, ?_⟩
      simp [ReviewWrite.ChangesText]

/-! ## Every run

From the empty table, with the writes in any order. -/

/-- What the statuses of a table say about its texts, and how long they go on saying it. -/
structure TrueToText (table : ReviewTable) : Prop where
  skipped_iff : ∀ id row, table.lookup id = some row →
    (row.analysisStatus = .skipped ↔ row.reviewText = none)
  /-- A finished row leaves its status exactly at an upsert that changes its text. -/
  leaves_iff : ∀ write table', table.step write = some table' →
    ∀ id row, table.lookup id = some row → row.Finished → ∃ row', table'.lookup id = some row' ∧
      (row'.analysisStatus ≠ row.analysisStatus ↔ write.ChangesText id row) ∧
      (write.ChangesText id row → row'.analysisStatus = .pending ∨ row'.analysisStatus = .skipped)
  unchanged : ∀ source review, (ReviewRepository.upsert source review table).1 = .unchanged →
    (ReviewRepository.upsert source review table).2 = table

/-- **The status stays true to the text** in every state the two writers reach, in whatever order they
write. -/
theorem analysis_status_true_to_text {writes : List ReviewWrite}
    (hrun : exec ReviewTable.step ∅ writes = some table) : TrueToText table := by
  have hinv : StatusesMatchTexts table :=
    exec_invariant (fun _ _ _ hinv h => statusesMatchTexts_step hinv h) statusesMatchTexts_empty hrun
  refine ⟨hinv, ?_, ?_⟩
  · intro write table' h id row hrow hfinished
    exact step_finished h hrow hfinished
  · intro source review hunchanged
    exact upsert_table_of_unchanged hunchanged

/-- A review is stored and analysed, and then loses its text. -/
def clearedAfterAnalysis : List ReviewWrite :=
  [.upsert "google" (plainReview "a" (some "Sharp prints.") 10), .analyse "a" true,
    .upsert "google" (plainReview "a" none 20)]

theorem analysis_status_true_to_text_cleared :
    ∃ table, exec ReviewTable.step ∅ clearedAfterAnalysis = some table ∧ TrueToText table :=
  ⟨_, rfl, @analysis_status_true_to_text _ clearedAfterAnalysis rfl⟩

end ReviewSignal
