import ReviewSignal.Ai.Evaluation.Dataset
import ReviewSignal.Foundations.JsonRecord

/-!
# Benchmark files

`load_benchmark`: a file is validated rather than coerced.  Reading a file, finding the JSON document in its
text and the date a document stands for are not the application's: they are a `BenchmarkReading`.

**`loadBenchmark_eq_ok_iff`**: what is loaded is all that the document states, and it states nothing else.
`StatedBy` says this of a label, an item and a benchmark without a word about validation: the document has
the members of the value and no other, each of the type it is declared with.  An item without a member for its
labels has none.

That both directions hold is what makes a score worth something.  A loader that skipped an item it could not
read, or a label of a sentiment it does not know, would score a smaller benchmark than the file states.

The validators of the contract are fields of the types, so a benchmark that was loaded meets them by being
one.
-/

namespace ReviewSignal

open JsonRecord

/-- `BenchmarkDataset`, with the fields no score depends on; a date is the number of its day. -/
structure LabeledBenchmark extends BenchmarkDataset where
  labeledAt : ℤ
  labeler : String
  notes : Option String

/-- `path.read_text(encoding="utf-8")`, and what pydantic makes of a text: its JSON document, the date a
document is, and the message of a `ValidationError`. -/
structure BenchmarkReading where
  readText : String → Except Exn String
  parse : String → Option Json
  date : Json → Option ℤ
  message : String → String

namespace GoldAspect

def names : List String := ["category_id", "sentiment"]

/-- Validation of a label. -/
def decode : Decoder GoldAspect := fun json => do
  let fields ← strict names json
  let categoryId ← required string "category_id" fields
  let sentiment ← required string "sentiment" fields
  if known : sentiment ∈ sentiments then some ⟨categoryId, sentiment, known⟩ else none

/-- The document is the label. -/
structure StatedBy (aspect : GoldAspect) (json : Json) : Prop where
  object : json = .obj (members json)
  closed : ∀ field ∈ members json, field.1 ∈ names
  categoryId : member (members json) "category_id" = some (.str aspect.categoryId)
  sentiment : member (members json) "sentiment" = some (.str aspect.sentiment)

theorem decode_eq_some_iff {json : Json} {aspect : GoldAspect} :
    decode json = some aspect ↔ aspect.StatedBy json := by
  simp only [decode, Option.bind_eq_bind, Option.bind_eq_some_iff, strict_eq_some_iff,
    required_string_eq_some_iff]
  constructor
  · rintro ⟨fields, ⟨rfl, hclosed⟩, categoryId, hcategoryId, sentiment, hsentiment, h⟩
    split_ifs at h with hknown
    cases h
    exact ⟨rfl, hclosed, hcategoryId, hsentiment⟩
  · intro h
    exact ⟨members json, ⟨h.object, h.closed⟩, _, h.categoryId, _, h.sentiment,
      dif_pos aspect.sentiment_is_known⟩

end GoldAspect

/-- The documents are the labels, in this order. -/
abbrev GoldAspect.AllStatedBy (aspects : List GoldAspect) (labels : List Json) : Prop :=
  List.Forall₂ (fun label aspect => GoldAspect.StatedBy aspect label) labels aspects

namespace BenchmarkItem

def names : List String := ["review_id", "text", "aspects"]

/-- Validation of an item. -/
def decode : Decoder BenchmarkItem := fun json => do
  let fields ← strict names json
  let reviewId ← required string "review_id" fields
  let text ← required string "text" fields
  let aspects ← optional [] (tuple GoldAspect.decode) "aspects" fields
  if distinct : (aspects.map (·.categoryId)).Nodup then some ⟨reviewId, text, aspects, distinct⟩ else none

/-- The document is the item.  Without a member for them there are no labels. -/
structure StatedBy (item : BenchmarkItem) (json : Json) : Prop where
  object : json = .obj (members json)
  closed : ∀ field ∈ members json, field.1 ∈ names
  reviewId : member (members json) "review_id" = some (.str item.reviewId)
  text : member (members json) "text" = some (.str item.text)
  aspects : ∃ labels, (member (members json) "aspects").getD (.arr []) = .arr labels ∧
    GoldAspect.AllStatedBy item.aspects labels

/-- The member for the labels. -/
theorem optional_aspects_iff {fields : List (String × Json)} {aspects : List GoldAspect} :
    optional [] (tuple GoldAspect.decode) "aspects" fields = some aspects
      ↔ ∃ labels, (member fields "aspects").getD (.arr []) = .arr labels ∧
        GoldAspect.AllStatedBy aspects labels := by
  rw [JsonRecord.optional]
  cases member fields "aspects" with
  | none => cases aspects <;> simp
  | some json => simp [tuple_eq_some_iff, GoldAspect.decode_eq_some_iff]

theorem decode_eq_some_iff {json : Json} {item : BenchmarkItem} :
    decode json = some item ↔ item.StatedBy json := by
  simp only [decode, Option.bind_eq_bind, Option.bind_eq_some_iff, strict_eq_some_iff,
    required_string_eq_some_iff, optional_aspects_iff]
  constructor
  · rintro ⟨fields, ⟨rfl, hclosed⟩, reviewId, hreviewId, text, htext, aspects, haspects, h⟩
    split_ifs at h with hdistinct
    cases h
    exact ⟨rfl, hclosed, hreviewId, htext, haspects⟩
  · intro h
    exact ⟨members json, ⟨h.object, h.closed⟩, _, h.reviewId, _, h.text, _, h.aspects,
      dif_pos item.one_sentiment_per_category⟩

end BenchmarkItem

namespace LabeledBenchmark

def names : List String :=
  ["dataset_version", "labeled_at", "labeler", "taxonomy_version", "notes", "items"]

/-- Validation of a file. -/
def decode (date : Decoder ℤ) : Decoder LabeledBenchmark := fun json => do
  let fields ← strict names json
  let datasetVersion ← required string "dataset_version" fields
  let labeledAt ← required date "labeled_at" fields
  let labeler ← required string "labeler" fields
  let taxonomyVersion ← optional none nullableString "taxonomy_version" fields
  let notes ← optional none nullableString "notes" fields
  let items ← required (tuple BenchmarkItem.decode) "items" fields
  if present : items ≠ [] then
    if distinct : (items.map (·.reviewId)).Nodup then
      some ⟨⟨datasetVersion, taxonomyVersion, items, present, distinct⟩, labeledAt, labeler, notes⟩
    else none
  else none

/-- The document is the benchmark. -/
structure StatedBy (date : Decoder ℤ) (benchmark : LabeledBenchmark) (json : Json) : Prop where
  object : json = .obj (members json)
  closed : ∀ field ∈ members json, field.1 ∈ names
  datasetVersion : member (members json) "dataset_version" = some (.str benchmark.datasetVersion)
  labeledAt : (member (members json) "labeled_at").bind date = some benchmark.labeledAt
  labeler : member (members json) "labeler" = some (.str benchmark.labeler)
  taxonomyVersion : (member (members json) "taxonomy_version").getD .null
    = Json.ofOption benchmark.taxonomyVersion
  notes : (member (members json) "notes").getD .null = Json.ofOption benchmark.notes
  items : ∃ reviews, member (members json) "items" = some (.arr reviews) ∧
    List.Forall₂ (fun review item => BenchmarkItem.StatedBy item review) reviews benchmark.items

/-- The member for the items. -/
theorem required_items_iff {fields : List (String × Json)} {items : List BenchmarkItem} :
    required (tuple BenchmarkItem.decode) "items" fields = some items
      ↔ ∃ reviews, member fields "items" = some (.arr reviews) ∧
        List.Forall₂ (fun review item => BenchmarkItem.StatedBy item review) reviews items := by
  simp only [required_eq_some_iff, tuple_eq_some_iff, BenchmarkItem.decode_eq_some_iff]
  constructor
  · rintro ⟨_, hmember, reviews, rfl, hitems⟩
    exact ⟨reviews, hmember, hitems⟩
  · rintro ⟨reviews, hmember, hitems⟩
    exact ⟨_, hmember, reviews, rfl, hitems⟩

theorem decode_eq_some_iff {date : Decoder ℤ} {json : Json} {benchmark : LabeledBenchmark} :
    decode date json = some benchmark ↔ benchmark.StatedBy date json := by
  simp only [decode, Option.bind_eq_bind, Option.bind_eq_some_iff, strict_eq_some_iff,
    required_string_eq_some_iff, optional_nullableString_eq_some_iff, required_items_iff]
  constructor
  · rintro ⟨fields, ⟨rfl, hclosed⟩, datasetVersion, hdatasetVersion, labeledAt, hlabeledAt, labeler, hlabeler,
      taxonomyVersion, htaxonomyVersion, notes, hnotes, items, hitems, h⟩
    split_ifs at h with hpresent hdistinct
    cases h
    exact ⟨rfl, hclosed, hdatasetVersion, hlabeledAt, hlabeler, htaxonomyVersion, hnotes, hitems⟩
  · intro h
    refine ⟨members json, ⟨h.object, h.closed⟩, _, h.datasetVersion, _, h.labeledAt, _, h.labeler, _,
      h.taxonomyVersion, _, h.notes, _, h.items, ?_⟩
    rw [dif_pos benchmark.items_are_present, dif_pos benchmark.items_are_distinct]

end LabeledBenchmark

/-- `load_benchmark` -/
def loadBenchmark (reading : BenchmarkReading) (path : String) : Except Exn LabeledBenchmark := do
  let text ← reading.readText path
  match (reading.parse text).bind (LabeledBenchmark.decode reading.date) with
  | some benchmark => .ok benchmark
  | none => .error ⟨"ValidationError", reading.message text⟩

/-- **What is loaded is what the document states.** -/
theorem loadBenchmark_eq_ok_iff {reading : BenchmarkReading} {path : String} {benchmark : LabeledBenchmark} :
    loadBenchmark reading path = .ok benchmark ↔ ∃ text json, reading.readText path = .ok text ∧
      reading.parse text = some json ∧ benchmark.StatedBy reading.date json := by
  have hdecoded (text : String) :
      (reading.parse text).bind (LabeledBenchmark.decode reading.date) = some benchmark
        ↔ ∃ json, reading.parse text = some json ∧ benchmark.StatedBy reading.date json := by
    simp only [Option.bind_eq_some_iff, LabeledBenchmark.decode_eq_some_iff]
  rw [loadBenchmark]
  cases reading.readText path with
  | error exc => simp [bind, Except.bind]
  | ok text =>
      simp only [Except.ok.injEq, exists_and_left, exists_eq_left', ← hdecoded, bind, Except.bind]
      split
      · simp [*]
      · simp [*]

end ReviewSignal
