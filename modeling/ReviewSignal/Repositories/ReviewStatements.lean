import ReviewSignal.Repositories.Reviews
import ReviewSignal.Foundations.ColumnUpdate

/-!
# The statements behind an upsert

`upsert` loads a row, and the session turns what it did to it into one statement at the next flush:
an INSERT of all columns, an UPDATE that sets the columns whose value differs from the loaded one, or
nothing.  Between the load and the statement the stored row may have changed; `effect` is what the
statement makes of whatever row it meets.

* `effect_statement` — the undisturbed case: the statement then does what `upsert` does to the row.
* `Sets` — the general one: every compared column of the row that is left is the review's, or the one of the
  row met.  A row can thus hold columns of two reviews.
* `Lands` — when the row that is left agrees with the review.  `lands_statement` computes it from the two
  rows, the loaded one and the one met.

`raw_payload` and `analysis_status` are sent by the same rule, and not compared.
-/

namespace ReviewSignal

/-- The SET clause of an UPDATE of one review. -/
structure ColumnWrites where
  rating : Option ℤ
  reviewText : Option (Option String)
  reviewerName : Option (Option String)
  updatedAt : Option Instant
  ownerReplyText : Option (Option String)
  ownerReplyAt : Option (Option Instant)
  rawPayload : Option Json
  analysisStatus : Option AnalysisStatus
  deriving DecidableEq

/-- The columns of a loaded row whose value was changed. -/
def columnWrites (loaded new : Review) : ColumnWrites where
  rating := differing loaded.rating new.rating
  reviewText := differing loaded.reviewText new.reviewText
  reviewerName := differing loaded.reviewerName new.reviewerName
  updatedAt := differing loaded.updatedAt new.updatedAt
  ownerReplyText := differing loaded.ownerReplyText new.ownerReplyText
  ownerReplyAt := differing loaded.ownerReplyAt new.ownerReplyAt
  rawPayload := differing loaded.rawPayload new.rawPayload
  analysisStatus := differing loaded.analysisStatus new.analysisStatus

/-- The row an UPDATE leaves. -/
def ColumnWrites.apply (columns : ColumnWrites) (row : Review) : Review :=
  { row with
    rating := columns.rating.getD row.rating
    reviewText := columns.reviewText.getD row.reviewText
    reviewerName := columns.reviewerName.getD row.reviewerName
    updatedAt := columns.updatedAt.getD row.updatedAt
    ownerReplyText := columns.ownerReplyText.getD row.ownerReplyText
    ownerReplyAt := columns.ownerReplyAt.getD row.ownerReplyAt
    rawPayload := columns.rawPayload.getD row.rawPayload
    analysisStatus := columns.analysisStatus.getD row.analysisStatus }

inductive Statement where
  | insert (row : Review)
  | update (columns : ColumnWrites)
  deriving DecidableEq

namespace ReviewRepository

/-- The decision of `upsert`, from the row it loaded. -/
def statement (source : String) (review : NormalizedReview) : Option Review → Option Statement
  | none => some (.insert (createdRow source review))
  | some existing =>
      if ¬ Changed existing review then none
      else some (.update (columnWrites existing (updatedRow existing review)))

/-- The row a decision leaves, from the row stored when it is carried out. -/
def effect : Option Statement → Option Review → Option Review
  | none, stored => stored
  | some (.insert row), _ => some row
  | some (.update columns), stored => stored.map columns.apply

variable {source : String} {review other : NormalizedReview} {existing loaded row : Review}
  {stored : Option Review} {decision : Option Statement}

theorem apply_columnWrites : (columnWrites existing (updatedRow existing review)).apply existing
    = updatedRow existing review := by
  simp [ColumnWrites.apply, columnWrites, updatedRow]

/-- **Undisturbed, the statement is the upsert.** -/
theorem effect_statement (source : String) (review : NormalizedReview) (stored : Option Review) :
    effect (statement source review stored) stored = some (upsertRow source review stored) := by
  cases stored with
  | none => rfl
  | some existing =>
      by_cases h : Changed existing review
      · simp [statement, effect, upsertRow, h, apply_columnWrites]
      · simp [statement, effect, upsertRow, h]

/-! ## The compared columns

One name for each, so that what is the same of all six is said once. -/

/-- The six columns `upsert` compares, in a row and in a review. -/
inductive Compared : {α : Type} → (Review → α) → (NormalizedReview → α) → Prop
  | rating : Compared (·.rating) (·.rating)
  | reviewText : Compared (·.reviewText) (·.reviewText)
  | reviewerName : Compared (·.reviewerName) (·.reviewerName)
  | updatedAt : Compared (·.updatedAt) (·.updatedAt)
  | ownerReplyText : Compared (·.ownerReplyText) (·.ownerReplyText)
  | ownerReplyAt : Compared (·.ownerReplyAt) (·.ownerReplyAt)

theorem agrees_iff : Agrees row review ↔ ∀ ⦃α : Type⦄ ⦃f : Review → α⦄ ⦃g : NormalizedReview → α⦄,
    Compared f g → f row = g review := by
  constructor
  · rintro h α f g (_ | _ | _ | _ | _ | _)
    · exact h.rating
    · exact h.reviewText
    · exact h.reviewerName
    · exact h.updatedAt
    · exact h.ownerReplyText
    · exact h.ownerReplyAt
  · intro h
    exact ⟨h .rating, h .reviewText, h .reviewerName, h .updatedAt, h .ownerReplyText,
      h .ownerReplyAt⟩

/-- Two fetched reviews are the same version: they agree on the compared columns. -/
def SameVersion (a b : NormalizedReview) : Prop :=
  ∀ ⦃α : Type⦄ ⦃f : Review → α⦄ ⦃g : NormalizedReview → α⦄, Compared f g → g a = g b

theorem agrees_of_sameVersion (h : Agrees row other) (hsame : SameVersion other review) :
    Agrees row review :=
  agrees_iff.mpr fun _ _ _ hcolumn => (agrees_iff.mp h hcolumn).trans (hsame hcolumn)

/-! ## What a decision writes, whatever row it meets

Column by column. -/

/-- Every compared column of the row left is the review's, or the one of the row met. -/
def Sets (decision : Option Statement) (review : NormalizedReview) : Prop :=
  ∀ ⦃α : Type⦄ ⦃f : Review → α⦄ ⦃g : NormalizedReview → α⦄, Compared f g → ∀ ⦃stored row⦄,
    effect decision stored = some row → f row = g review ∨ ∃ old, stored = some old ∧ f row = f old

theorem column_apply {α : Type} {f : Review → α} {g : NormalizedReview → α} (hcolumn : Compared f g)
    (old : Review) :
    f ((columnWrites existing (updatedRow existing review)).apply old) = g review ∨
      f ((columnWrites existing (updatedRow existing review)).apply old) = f old := by
  cases hcolumn with
  | rating => exact getD_differing_or _ _ _
  | reviewText => exact getD_differing_or _ _ _
  | reviewerName => exact getD_differing_or _ _ _
  | updatedAt => exact getD_differing_or _ _ _
  | ownerReplyText => exact getD_differing_or _ _ _
  | ownerReplyAt => exact getD_differing_or _ _ _

theorem sets_statement (source : String) (review : NormalizedReview) (loaded : Option Review) :
    Sets (statement source review loaded) review := by
  intro α f g hcolumn stored row heffect
  cases loaded with
  | none =>
      obtain rfl := Option.some.inj heffect
      exact .inl (agrees_iff.mp agrees_createdRow hcolumn)
  | some existing =>
      by_cases h : Changed existing review
      · simp only [statement, h, not_true_eq_false, if_false, effect, Option.map_eq_some_iff]
          at heffect
        obtain ⟨old, rfl, rfl⟩ := heffect
        rcases column_apply hcolumn old with hnew | hkept
        · exact .inl hnew
        · exact .inr ⟨old, rfl, hkept⟩
      · simp only [statement, h, not_false_eq_true, if_true, effect] at heffect
        exact .inr ⟨row, heffect, rfl⟩

/-- The decision leaves the row in agreement with the review. -/
def Lands (decision : Option Statement) (stored : Option Review) (review : NormalizedReview) : Prop :=
  ∃ row, effect decision stored = some row ∧ Agrees row review

theorem lands_statement (source : String) (review : NormalizedReview) (stored : Option Review) :
    Lands (statement source review stored) stored review :=
  ⟨_, effect_statement source review stored, agrees_upsertRow stored⟩

/-- A row that agrees already still does after the decision is carried out on it. -/
theorem Sets.lands (h : Sets decision review) (hrow : Agrees row review) :
    Lands decision (some row) review := by
  obtain ⟨after, hafter⟩ : ∃ after, effect decision (some row) = some after := by
    rcases decision with _ | new | columns
    · exact ⟨row, rfl⟩
    · exact ⟨new, rfl⟩
    · exact ⟨columns.apply row, rfl⟩
  refine ⟨after, hafter, agrees_iff.mpr fun α f g hcolumn => ?_⟩
  rcases h hcolumn hafter with hnew | ⟨old, hold, hkept⟩
  · exact hnew
  · obtain rfl := Option.some.inj hold
    exact hkept.trans (agrees_iff.mp hrow hcolumn)

end ReviewRepository

end ReviewSignal
