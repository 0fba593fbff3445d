import ReviewSignal.Foundations.Builtins

/-!
# The benchmark and what is scored against it

The contract of `ai/evaluation/dataset.py`, whose validators are fields here, and the one of
`ai/evaluation/protocols.py`, which nothing validates: a predictor may return anything.

So a `BenchmarkDataset` has an item, no two items of one id and no item with two aspects of one category, and
a list of `PredictedAspect` may name a category twice, with any sentiments and confidences.  What is let
through of it is decided by the runner (`ValidPrediction`).
-/

namespace ReviewSignal

/-- `SENTIMENTS` -/
def sentiments : List String := ["positive", "neutral", "negative"]

/-- `GoldAspect` -/
structure GoldAspect where
  categoryId : String
  sentiment : String
  sentiment_is_known : sentiment ∈ sentiments
  deriving DecidableEq

/-- `BenchmarkItem` -/
structure BenchmarkItem where
  reviewId : String
  text : String
  aspects : List GoldAspect
  one_sentiment_per_category : (aspects.map (·.categoryId)).Nodup
  deriving DecidableEq

/-- `BenchmarkDataset` -/
structure BenchmarkDataset where
  datasetVersion : String
  taxonomyVersion : Option String
  items : List BenchmarkItem
  items_are_present : items ≠ []
  items_are_distinct : (items.map (·.reviewId)).Nodup

/-- `PredictedAspect` -/
structure PredictedAspect where
  categoryId : String
  sentiment : String
  confidence : ℚ
  deriving DecidableEq, Repr

/-- `Predictor` -/
structure Predictor where
  name : String
  version : Option String
  promptVersion : Option String
  predict : BenchmarkItem → List PredictedAspect

/-- `BenchmarkItem.category_ids` -/
def BenchmarkItem.categoryIds (item : BenchmarkItem) : List String :=
  item.aspects.map (·.categoryId)

/-- `BenchmarkItem.sentiment_by_category` -/
def BenchmarkItem.sentimentByCategory (item : BenchmarkItem) : List (String × String) :=
  item.aspects.map fun aspect => (aspect.categoryId, aspect.sentiment)

/-- `BenchmarkDataset.gold_categories` -/
def BenchmarkDataset.goldCategories (dataset : BenchmarkDataset) : List (List String) :=
  dataset.items.map (·.categoryIds)

end ReviewSignal
