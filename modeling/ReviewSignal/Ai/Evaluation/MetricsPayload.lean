import ReviewSignal.Ai.Evaluation.Runner
import ReviewSignal.Foundations.Json
import Mathlib.Data.List.Basic

/-!
# What is stored of the scores

`metrics_payload` makes a `JSONB` body of the metric families; a family that could not be measured is null.

**`EvaluationScores.metricsPayload_injective`**: no number is lost on the way.  From the body that is stored
every metric family can be read back, and the history of runs holds the scores and not a digest of them.

`asdict` makes a dictionary of a dataclass and of those within it, under the names of the fields; that these
are distinct is what each of the lemmas rests on.  Numbers are stored as they are.
-/

namespace ReviewSignal

/-- A dictionary as JSON. -/
def Json.dict {ν : Type} (encode : ν → Json) (entries : List (String × ν)) : Json :=
  .obj (entries.map fun entry => (entry.1, encode entry.2))

/-- `asdict` of a `Score`. -/
def Score.asdict (score : Score) : Json :=
  .obj [("precision", .num score.precision), ("recall", .num score.recalled), ("f1", .num score.f1),
    ("support", .num score.support)]

/-- `asdict` of the `ClassificationMetrics`. -/
def ClassificationMetrics.asdict (metrics : ClassificationMetrics) : Json :=
  .obj [("micro", metrics.micro.asdict), ("macro", metrics.macroScore.asdict),
    ("per_category", .dict Score.asdict metrics.perCategory), ("item_count", .num metrics.itemCount),
    ("label_count", .num metrics.labelCount)]

/-- `asdict` of the `SentimentMetrics`. -/
def SentimentMetrics.asdict (metrics : SentimentMetrics) : Json :=
  .obj [("accuracy", .num metrics.accuracy), ("macro_f1", .num metrics.macroF1),
    ("per_sentiment", .dict Score.asdict metrics.perSentiment),
    ("confusion", .dict (.dict fun count : ℕ => .num count) metrics.confusion),
    ("pair_count", .num metrics.pairCount)]

/-- `asdict` of a `ReliabilityBucket`. -/
def ReliabilityBucket.asdict (bucket : ReliabilityBucket) : Json :=
  .obj [("lower", .num bucket.lower), ("upper", .num bucket.upper), ("count", .num bucket.count),
    ("mean_confidence", .num bucket.meanConfidence), ("accuracy", .num bucket.accuracy)]

/-- `asdict` of the `CalibrationMetrics`. -/
def CalibrationMetrics.asdict (metrics : CalibrationMetrics) : Json :=
  .obj [("brier_score", .num metrics.brierScore),
    ("expected_calibration_error", .num metrics.expectedCalibrationError),
    ("buckets", .arr (metrics.buckets.map ReliabilityBucket.asdict)),
    ("prediction_count", .num metrics.predictionCount)]

/-- `asdict(family) if family else None` -/
def Json.orNull {α : Type} (encode : α → Json) : Option α → Json
  | some family => encode family
  | none => .null

/-- `metrics_payload` -/
def EvaluationScores.metricsPayload (scores : EvaluationScores) : Json :=
  .obj [("classification", scores.classification.asdict),
    ("sentiment", .orNull SentimentMetrics.asdict scores.sentiment),
    ("calibration", .orNull CalibrationMetrics.asdict scores.calibration)]

/-! ## Nothing is lost

One lemma for each dataclass, from the inside out. -/

open Function

theorem Json.dict_injective {ν : Type} {encode : ν → Json} (h : Injective encode) :
    Injective (Json.dict encode) := by
  intro entries entries' heq
  refine List.map_injective_iff.mpr ?_ (Json.obj.inj heq)
  rintro ⟨key, value⟩ ⟨key', value'⟩ hentry
  simp only [Prod.mk.injEq] at hentry
  rw [hentry.1, h hentry.2]

theorem Json.orNull_injective {α : Type} {encode : α → Json} (h : Injective encode)
    (hobject : ∀ value, encode value ≠ .null) : Injective (Json.orNull encode)
  | none, none, _ => rfl
  | none, some value, heq => absurd heq.symm (hobject value)
  | some value, none, heq => absurd heq (hobject value)
  | some _, some _, heq => congrArg some (h heq)

theorem Json.num_natCast_injective : Injective fun count : ℕ => Json.num count := by
  intro count count' h
  exact_mod_cast Json.num.inj h

theorem Score.asdict_injective : Injective Score.asdict := by
  rintro ⟨⟩ ⟨⟩ h
  simpa [Score.asdict] using h

theorem ClassificationMetrics.asdict_injective : Injective ClassificationMetrics.asdict := by
  rintro ⟨⟩ ⟨⟩ h
  simpa [ClassificationMetrics.asdict, Score.asdict_injective.eq_iff,
    (Json.dict_injective Score.asdict_injective).eq_iff] using h

theorem SentimentMetrics.asdict_injective : Injective SentimentMetrics.asdict := by
  rintro ⟨⟩ ⟨⟩ h
  have hconfusion : Injective (Json.dict (Json.dict fun count : ℕ => .num count)) :=
    Json.dict_injective (Json.dict_injective Json.num_natCast_injective)
  simpa [SentimentMetrics.asdict, (Json.dict_injective Score.asdict_injective).eq_iff,
    hconfusion.eq_iff] using h

theorem ReliabilityBucket.asdict_injective : Injective ReliabilityBucket.asdict := by
  rintro ⟨⟩ ⟨⟩ h
  simpa [ReliabilityBucket.asdict] using h

theorem CalibrationMetrics.asdict_injective : Injective CalibrationMetrics.asdict := by
  rintro ⟨⟩ ⟨⟩ h
  simpa [CalibrationMetrics.asdict,
    (List.map_injective_iff.mpr ReliabilityBucket.asdict_injective).eq_iff] using h

/-- **The families are read back from what is stored.** -/
theorem EvaluationScores.metricsPayload_injective {scores scores' : EvaluationScores}
    (h : scores.metricsPayload = scores'.metricsPayload) :
    scores.classification = scores'.classification ∧ scores.sentiment = scores'.sentiment ∧
      scores.calibration = scores'.calibration := by
  have hsentiment : Injective (Json.orNull SentimentMetrics.asdict) :=
    Json.orNull_injective SentimentMetrics.asdict_injective fun _ => by simp [SentimentMetrics.asdict]
  have hcalibration : Injective (Json.orNull CalibrationMetrics.asdict) :=
    Json.orNull_injective CalibrationMetrics.asdict_injective fun _ => by simp [CalibrationMetrics.asdict]
  simpa [metricsPayload, ClassificationMetrics.asdict_injective.eq_iff, hsentiment.eq_iff,
    hcalibration.eq_iff] using h

end ReviewSignal
