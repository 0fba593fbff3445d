import ReviewSignal.Foundations.DateTimes
import ReviewSignal.Foundations.Texts
import ReviewSignal.Integrations.DecodedBody
import Mathlib.Data.List.DropRight

/-!
# Mapping one entry of Google's

`to_normalized_review`, on an object whose fields have whatever types they have.  `NormalizedReview` declares
the types of its fields and does not check them: what the mapping returns is a `MappedReview`, in which an
untested value is still the JSON it came as.

**What the table takes** (`Storable`).  Besides the widths and the types of the columns, a text that is sent
to PostgreSQL has no NUL and can be encoded, and what is sent as JSON has finite numbers and is not too large.
JSON decoded by Python has texts with lone surrogates and infinite numbers (`1e999`) all the same.

**When a mapped review can be stored** (`mapsStorably_iff`): for exactly which entries the mapping skips
them, refuses them as it should, or returns what the table takes.  The condition, `Mappable`, follows the
mapping field by field, because a date that does not parse is a `SourceFetchError` whatever comes after it.

What `fromisoformat` parses, what Unicode calls white space and how a value is formatted are parameters, and
the theorem holds for all of them.  A `String` holds no lone surrogate and a rational is not infinite: as in
`GoogleEnv`, a predicate tells which of the texts and numbers of the model stand for such values.
-/

namespace ReviewSignal

open GoogleReviewSourceAdapter (truthy)

namespace Json

mutual

/-- Every text of a value, the keys of its objects among them. -/
def texts : Json → List String
  | .str value => [value]
  | .arr items => itemTexts items
  | .obj fields => fieldTexts fields
  | _ => []

def itemTexts : List Json → List String
  | [] => []
  | item :: items => texts item ++ itemTexts items

def fieldTexts : List (String × Json) → List String
  | [] => []
  | (key, value) :: fields => key :: texts value ++ fieldTexts fields

end

mutual

/-- Every number of a value. -/
def numbers : Json → List ℚ
  | .num value => [value]
  | .arr items => itemNumbers items
  | .obj fields => fieldNumbers fields
  | _ => []

def itemNumbers : List Json → List ℚ
  | [] => []
  | item :: items => numbers item ++ itemNumbers items

def fieldNumbers : List (String × Json) → List ℚ
  | [] => []
  | (_, value) :: fields => numbers value ++ fieldNumbers fields

end

theorem texts_of_lookup {fields : List (String × Json)} {key : String} {value : Json}
    (h : fields.lookup key = some value) : value.texts ⊆ fieldTexts fields := by
  induction fields with
  | nil => cases h
  | cons entry fields ih =>
      obtain ⟨name, first⟩ := entry
      rw [List.lookup_cons] at h
      rw [fieldTexts]
      intro text htext
      cases hname : key == name with
      | true =>
          rw [hname] at h
          obtain rfl := Option.some.inj h
          simp [htext]
      | false =>
          rw [hname] at h
          exact List.mem_append_right _ (ih h htext)

/-- The texts of a field are among those of its object. -/
theorem texts_getD (value : Json) (key : String) : (value.getD key .null).texts ⊆ value.texts := by
  cases value with
  | obj fields =>
      show ((fields.lookup key).getD .null).texts ⊆ fieldTexts fields
      cases hlookup : fields.lookup key with
      | none => simp [texts]
      | some field => exact texts_of_lookup hlookup
  | _ => simp [getD, get?, texts]

theorem texts_of_isStr {value : Json} (h : value.isStr = true) : value.texts = [value.text] := by
  cases value <;> simp_all [isStr, texts, text]

/-- `value or {}` -/
def orEmpty (value : Json) : Json := if truthy value then value else .obj []

end Json

/-- What PostgreSQL takes of texts and of JSON: the texts that encode, the numbers that are finite, and the
values a `JSONB` column has room for.  A number without content is finite, and so are ASCII texts encoded. -/
structure Postgres where
  encodes : String → Bool
  finite : ℚ → Bool
  hasRoom : Json → Bool
  encodes_ascii : ∀ text : String, (∀ c ∈ text.toList, c.toNat < 128) → encodes text
  finite_zero : finite 0

namespace Postgres

/-- A text that is sent as one. -/
def TakesText (postgres : Postgres) (text : String) : Prop :=
  postgres.encodes text ∧ '\x00' ∉ text.toList

/-- A value that is sent as JSON. -/
structure TakesJson (postgres : Postgres) (value : Json) : Prop where
  texts : ∀ text ∈ value.texts, postgres.TakesText text
  numbers : ∀ number ∈ value.numbers, postgres.finite number
  room : postgres.hasRoom value

end Postgres

/-- What the mapping uses of the standard library: what Unicode says of characters, the texts
`datetime.fromisoformat` parses, and how a value and the `repr` of a text are formatted.  And what the
database it maps for takes. -/
structure MappingEnv where
  unicode : Python.Unicode
  fromisoformat : String → Option DateTime
  format : Json → String
  repr : Python.Repr
  postgres : Postgres

/-- A `NormalizedReview` as the mapping builds it. -/
structure MappedReview where
  sourceReviewId : Json
  rating : ℤ
  reviewText : Option String
  reviewerName : Option Json
  createdAt : DateTime
  updatedAt : DateTime
  ownerReplyText : Option String
  ownerReplyAt : Option DateTime
  language : String
  rawPayload : Json
  deriving DecidableEq

/-- Every text a review sends to its row, those of its payload apart. -/
def MappedReview.texts (review : MappedReview) : List String :=
  review.sourceReviewId.texts ++ review.reviewText.toList ++ (review.reviewerName.getD .null).texts
    ++ review.ownerReplyText.toList ++ [review.language]

namespace GoogleMapping

/-- `_STAR_RATINGS` -/
def starRatings : List (String × ℤ) :=
  [("ONE", 1), ("TWO", 2), ("THREE", 3), ("FOUR", 4), ("FIVE", 5)]

/-- `_STAR_RATINGS.get(star_rating) if isinstance(star_rating, str) else None` -/
def ratingOf (starRating : Json) : Option ℤ :=
  if starRating.isStr then starRatings.lookup starRating.text else none

/-- `parsed if parsed.tzinfo is not None else parsed.replace(tzinfo=UTC)` -/
def pinned (parsed : DateTime) : DateTime :=
  if parsed.offset.isSome then parsed
  else { parsed with offset := some 0, offset_lt := DateTime.utc_lt }

/-- `_parse_datetime`; `fromisoformat` takes nothing but a text. -/
def parseDatetime (env : MappingEnv) (value : Json) (field : String) (reviewId : Json) :
    Except Exn DateTime :=
  if value.isStr then
    match env.fromisoformat value.text with
    | none => .error (sourceFetchError ("Google review " ++ env.format reviewId ++ " has an unparsable "
        ++ field ++ ": " ++ env.repr.str value.text))
    | some parsed => .ok (pinned parsed)
  else .error ⟨"TypeError", "fromisoformat: argument must be str"⟩

/-- `_parse_datetime(value, field, review_id) if value else absent`, where what is parsed is used as `f` has
it. -/
def datetimeOr {α : Type} (env : MappingEnv) (value : Json) (field : String) (reviewId : Json)
    (f : DateTime → α) (absent : α) : Except Exn α :=
  if truthy value then f <$> parseDatetime env value field reviewId else pure absent

/-- `_clean_text` -/
def cleanText (env : MappingEnv) (value : Json) : Except Exn (Option String) :=
  if value = .null then .ok none
  else do
    let text ← value.method "strip"
    return if Python.strip env.unicode text.toList ≠ [] then some text else none

/-- The name of a reviewer who is not anonymous. -/
def reviewerName (reviewer : Json) : Except Exn (Option Json) := do
  let isAnonymous ← reviewer.field "isAnonymous" .null
  if ¬ truthy isAnonymous then
    let displayName ← reviewer.field "displayName" .null
    return if truthy displayName then some displayName else none
  else return none

/-- `to_normalized_review` -/
def toNormalizedReview (env : MappingEnv) (payload : Json) : Except Exn (Option MappedReview) := do
  let reviewId ← payload.field "reviewId" .null
  if ¬ truthy reviewId then
    .error (sourceFetchError "Google review payload is missing reviewId")
  else
    let starRating ← payload.field "starRating" .null
    match ratingOf starRating with
    | none => return none
    | some rating =>
      let createTime ← payload.field "createTime" .null
      if ¬ truthy createTime then
        .error (sourceFetchError ("Google review " ++ env.format reviewId ++ " is missing createTime"))
      else
        let createdAt ← parseDatetime env createTime "createTime" reviewId
        let updateTime ← payload.field "updateTime" .null
        let updatedAt ← datetimeOr env updateTime "updateTime" reviewId id createdAt
        let reviewer ← Json.orEmpty <$> payload.field "reviewer" .null
        let reviewerName ← reviewerName reviewer
        let reply ← Json.orEmpty <$> payload.field "reviewReply" .null
        let replyUpdateTime ← reply.field "updateTime" .null
        let reviewText ← payload.field "comment" .null >>= cleanText env
        let ownerReplyText ← reply.field "comment" .null >>= cleanText env
        let ownerReplyAt ← datetimeOr env replyUpdateTime "reviewReply.updateTime" reviewId some none
        return some {
          sourceReviewId := reviewId
          rating := rating
          reviewText := reviewText
          reviewerName := reviewerName
          createdAt := createdAt
          updatedAt := updatedAt
          ownerReplyText := ownerReplyText
          ownerReplyAt := ownerReplyAt
          -- The API carries no language field, and the column has no tag for that but this one.
          language := "und"
          rawPayload := payload }

/-! ## What the table takes

The columns of `reviews`, for values of any type. -/

/-- A text with something to read in it. -/
def Readable (unicode : Python.Unicode) (text : String) : Prop :=
  ∃ c ∈ text.toList, unicode.isSpace c = false

/-- The `reviews` table takes the review, as the mapping of this entry. -/
structure Storable (env : MappingEnv) (entry : Json) (review : MappedReview) : Prop where
  source_review_id : ∃ id, review.sourceReviewId = .str id ∧ id ≠ "" ∧ id.length ≤ 255
  rating : 1 ≤ review.rating ∧ review.rating ≤ 5
  created_at : review.createdAt.offset.isSome
  updated_at : review.updatedAt.offset.isSome
  review_text : ∀ text ∈ review.reviewText, Readable env.unicode text
  owner_reply_text : ∀ text ∈ review.ownerReplyText, Readable env.unicode text
  reviewer_name : ∀ name ∈ review.reviewerName, ∃ text, name = .str text ∧ text ≠ ""
  language : review.language.length ≤ 16
  raw_payload : review.rawPayload = entry
  texts : ∀ text ∈ review.texts, env.postgres.TakesText text
  json : env.postgres.TakesJson review.rawPayload

/-- `SourceFetchError` -/
def IsSourceFetchError (exc : Exn) : Prop := exc.typeName = "SourceFetchError"

instance : Exn.Ours IsSourceFetchError := ⟨fun exc h => by simp [Exn.Known, show _ = _ from h]⟩

/-- The mapping returns nothing, raises a `SourceFetchError`, or returns what can be stored. -/
def MapsStorably (env : MappingEnv) (entry : Json) : Prop :=
  Meets (fun review => ∀ mapped ∈ review, Storable env entry mapped) IsSourceFetchError
    (toNormalizedReview env entry)

/-! ## When it is so

The condition on an entry, in the order in which the mapping looks at its fields. -/

/-- A date, where there is one, is a text; what comes after it matters if it can be parsed. -/
def Dated (env : MappingEnv) (value : Json) (next : Prop) : Prop :=
  (truthy value → value.isStr) ∧
    ((truthy value → (env.fromisoformat value.text).isSome) → next)

/-- A field that is null or a text. -/
def Textual (value : Json) : Prop := value ≠ .null → value.isStr

/-- A field without content or an object. -/
def Nested (value : Json) : Prop := truthy value → value.isObj

/-- The texts of an entry fit the columns they go to, and the entry the one it goes to itself. -/
structure Fits (env : MappingEnv) (entry : Json) : Prop where
  review_id : (entry.getD "reviewId" .null).isStr ∧ (entry.getD "reviewId" .null).text.length ≤ 255
  display_name : ¬ truthy ((entry.getD "reviewer" .null).getD "isAnonymous" .null) →
    truthy ((entry.getD "reviewer" .null).getD "displayName" .null) →
    ((entry.getD "reviewer" .null).getD "displayName" .null).isStr
  json : env.postgres.TakesJson entry

/-- The nested fields of an entry have the types they are used at. -/
structure Shaped (entry : Json) : Prop where
  reviewer : Nested (entry.getD "reviewer" .null)
  reply : Nested (entry.getD "reviewReply" .null)
  comment : Textual (entry.getD "comment" .null)
  reply_comment : Textual ((entry.getD "reviewReply" .null).getD "comment" .null)

/-- An entry that is neither refused nor skipped has fields of the types they are used at, as far as the first
date that does not parse, and if every date does, then values that fit their columns. -/
def Mappable (env : MappingEnv) (entry : Json) : Prop :=
  truthy (entry.getD "reviewId" .null) → (ratingOf (entry.getD "starRating" .null)).isSome →
  truthy (entry.getD "createTime" .null) →
    Dated env (entry.getD "createTime" .null) (Dated env (entry.getD "updateTime" .null)
      (Shaped entry ∧ Dated env ((entry.getD "reviewReply" .null).getD "updateTime" .null)
        (Fits env entry)))

/-! ## The functions meet it exactly

One lemma for each function that can raise. -/

variable {env : MappingEnv} {value entry : Json} {key : String}

theorem getD_orEmpty (value : Json) (key : String) :
    value.orEmpty.getD key .null = value.getD key .null := by
  rw [Json.orEmpty]
  split_ifs with h
  · rfl
  · cases value with
    | obj fields =>
        have hfields : fields = [] := by simpa [truthy] using h
        rw [hfields]
    | _ => rfl

theorem isObj_orEmpty : value.orEmpty.isObj = true ↔ Nested value := by
  rw [Json.orEmpty, Nested]
  split_ifs with h <;> simp [h, Json.isObj]

theorem offset_pinned (parsed : DateTime) : (pinned parsed).offset.isSome := by
  rw [pinned]
  split_ifs with h
  · exact h
  · rfl

/-- Something is left of a text that is stripped if not all of it is white space. -/
theorem strip_ne_nil {unicode : Python.Unicode} {text : String} :
    Python.strip unicode text.toList ≠ [] ↔ Readable unicode text := by
  simp only [ne_eq, Python.strip_eq_nil, Readable, not_forall, Bool.not_eq_true, exists_prop]

/-- A date that need not be there. -/
def resolved {α : Type} (env : MappingEnv) (value : Json) (f : DateTime → α) (absent : α) : Option α :=
  if truthy value then (env.fromisoformat value.text).map fun parsed => f (pinned parsed) else some absent

/-- What `_clean_text` makes of a text, and of nothing. -/
def cleaned (env : MappingEnv) (value : Json) : Option String :=
  if value = .null then none
  else if Python.strip env.unicode value.text.toList ≠ [] then some value.text else none

/-- The name of a reviewer who is not anonymous. -/
def displayName (reviewer : Json) : Option Json :=
  if ¬ truthy (reviewer.getD "isAnonymous" .null) ∧ truthy (reviewer.getD "displayName" .null) then
    some (reviewer.getD "displayName" .null)
  else none

theorem meets_parseDatetime {field : String} {reviewId : Json} {returns : DateTime → Prop} :
    Meets returns IsSourceFetchError (parseDatetime env value field reviewId)
      ↔ value.isStr ∧ ∀ parsed ∈ env.fromisoformat value.text, returns (pinned parsed) := by
  rw [parseDatetime]
  split_ifs with h
  · cases env.fromisoformat value.text with
    | none => simp [h, IsSourceFetchError, sourceFetchError]
    | some parsed => simp [h]
  · simp [h, IsSourceFetchError]

theorem meets_datetimeOr {α : Type} {field : String} {reviewId : Json} {f : DateTime → α} {absent : α}
    {returns : α → Prop} :
    Meets returns IsSourceFetchError (datetimeOr env value field reviewId f absent)
      ↔ (truthy value → value.isStr) ∧ ∀ date ∈ resolved env value f absent, returns date := by
  rw [datetimeOr, resolved]
  split_ifs with h
  · simp [h, meets_parseDatetime]
  · simp [h]

theorem meets_cleanText {returns : Option String → Prop} :
    Meets returns IsSourceFetchError (cleanText env value)
      ↔ Textual value ∧ returns (cleaned env value) := by
  rw [cleanText, cleaned, Textual]
  split_ifs with h hstrip
  · simp [h]
  · simp [h, hstrip, meets_method]
  · simp [h, not_not.mp hstrip, meets_method]

theorem meets_reviewerName {reviewer : Json} {returns : Option Json → Prop} :
    Meets returns IsSourceFetchError (reviewerName reviewer)
      ↔ reviewer.isObj = true ∧ returns (displayName reviewer) := by
  simp only [reviewerName, displayName, meets_bind, meets_field]
  refine and_congr_right fun hobj => ?_
  split_ifs with hanonymous hboth hboth
  all_goals simp_all [meets_field]

/-! ### Dates

What a field is resolved to, and what the rest of the mapping asks of it. -/

theorem offset_resolved {createdAt date : DateTime} (hcreated : createdAt.offset.isSome)
    (h : date ∈ resolved env value id createdAt) : date.offset.isSome := by
  rw [resolved] at h
  split_ifs at h with htruthy
  · obtain ⟨parsed, -, rfl⟩ := Option.mem_map.mp h
    exact offset_pinned parsed
  · rwa [← Option.some.inj h]

/-- What is the same of every date a field can resolve to. -/
theorem dated_iff {α : Type} {f : DateTime → α} {absent : α} {returns : α → Prop} {next : Prop}
    (h : ∀ date ∈ resolved env value f absent, (returns date ↔ next)) :
    ((truthy value → value.isStr) ∧ ∀ date ∈ resolved env value f absent, returns date)
      ↔ Dated env value next := by
  refine and_congr_right fun _ => ?_
  rw [resolved] at h ⊢
  by_cases htruthy : truthy value
  · simp only [htruthy, if_true, forall_const] at h ⊢
    cases hparsed : env.fromisoformat value.text with
    | none => simp
    | some parsed => simpa [hparsed] using h
  · simp only [htruthy] at h ⊢
    simpa using h

/-- And of every date a field that is there parses as. -/
theorem dated_iff_of_truthy (htruthy : truthy value) {returns : DateTime → Prop} {next : Prop}
    (h : ∀ parsed, returns parsed ↔ next) :
    (value.isStr ∧ ∀ parsed ∈ env.fromisoformat value.text, returns parsed)
      ↔ Dated env value next := by
  rw [Dated, forall_prop_of_true htruthy, forall_prop_of_true htruthy]
  refine and_congr_right fun _ => ?_
  cases env.fromisoformat value.text with
  | none => simp
  | some parsed => simp [h]

/-! ### The review

What the mapped review has in its columns, and the texts of the entry that go there. -/

/-- The review an entry is mapped to, with its dates. -/
def mapped (env : MappingEnv) (entry : Json) (rating : ℤ) (createdAt updatedAt : DateTime)
    (ownerReplyAt : Option DateTime) : MappedReview where
  sourceReviewId := entry.getD "reviewId" .null
  rating := rating
  reviewText := cleaned env (entry.getD "comment" .null)
  reviewerName := displayName (entry.getD "reviewer" .null).orEmpty
  createdAt := createdAt
  updatedAt := updatedAt
  ownerReplyText := cleaned env ((entry.getD "reviewReply" .null).getD "comment" .null)
  ownerReplyAt := ownerReplyAt
  language := "und"
  rawPayload := entry

theorem rating_range {starRating : Json} {rating : ℤ} (h : ratingOf starRating = some rating) :
    1 ≤ rating ∧ rating ≤ 5 := by
  rw [ratingOf] at h
  split_ifs at h
  have hall : ∀ entry ∈ starRatings, 1 ≤ entry.2 ∧ entry.2 ≤ 5 := by decide
  obtain ⟨before, after, hsplit, -⟩ := List.lookup_eq_some_iff.mp h
  exact hall (starRating.text, rating) (hsplit ▸ by simp)

theorem readable_cleaned : ∀ text ∈ cleaned env value, Readable env.unicode text := by
  intro text htext
  rw [cleaned] at htext
  split_ifs at htext with hnull hstrip
  · cases htext
  · cases htext
    exact strip_ne_nil.mp hstrip
  · cases htext

/-- A value with content that is a text is a non-empty text. -/
theorem isStr_iff_of_truthy (h : truthy value) :
    value.isStr = true ↔ ∃ text, value = .str text ∧ text ≠ "" := by
  cases value <;> simp_all [Json.isStr, truthy]

theorem display_name_iff {reviewer : Json} :
    (∀ name ∈ displayName reviewer.orEmpty, ∃ text, name = .str text ∧ text ≠ "")
      ↔ (¬ truthy (reviewer.getD "isAnonymous" .null) → truthy (reviewer.getD "displayName" .null) →
        (reviewer.getD "displayName" .null).isStr) := by
  rw [displayName, getD_orEmpty, getD_orEmpty]
  by_cases hanonymous : truthy (reviewer.getD "isAnonymous" .null)
  · simp [hanonymous]
  · by_cases hname : truthy (reviewer.getD "displayName" .null)
    · simp [hanonymous, hname, isStr_iff_of_truthy]
    · simp [hname]

theorem cleaned_subset (env : MappingEnv) (value : Json) : (cleaned env value).toList ⊆ value.texts := by
  intro text htext
  rw [cleaned] at htext
  split_ifs at htext with hnull hstrip
  · cases htext
  · have hstr : value.isStr = true := by
      cases value with
      | str _ => rfl
      | _ => exact absurd rfl hstrip
    rw [Json.texts_of_isStr hstr]
    exact htext
  · cases htext

theorem displayName_subset {reviewer : Json} :
    ((displayName reviewer.orEmpty).getD .null).texts ⊆ reviewer.texts := by
  rw [displayName, getD_orEmpty, getD_orEmpty]
  split_ifs
  · exact Json.texts_getD _ _
  · simp [Json.texts]

/-- All but the language comes from the entry. -/
theorem texts_mapped {rating : ℤ} {createdAt updatedAt : DateTime} {ownerReplyAt : Option DateTime} :
    ∀ text ∈ (mapped env entry rating createdAt updatedAt ownerReplyAt).texts,
      text = "und" ∨ text ∈ entry.texts := by
  intro text htext
  simp only [MappedReview.texts, mapped, List.mem_append, List.mem_singleton] at htext
  rcases htext with (((hid | htext) | hname) | hreply) | hlanguage
  · exact .inr (Json.texts_getD _ _ hid)
  · exact .inr (Json.texts_getD _ _ (cleaned_subset env _ htext))
  · exact .inr (Json.texts_getD _ _ (displayName_subset hname))
  · exact .inr (Json.texts_getD _ _ (Json.texts_getD _ _ (cleaned_subset env _ hreply)))
  · exact .inl hlanguage

/-- What is left to ask of a review that was mapped. -/
theorem storable_mapped_iff {rating : ℤ} {createdAt updatedAt : DateTime} {ownerReplyAt : Option DateTime}
    (hid : truthy (entry.getD "reviewId" .null))
    (hrating : ratingOf (entry.getD "starRating" .null) = some rating)
    (hcreated : createdAt.offset.isSome) (hupdated : updatedAt.offset.isSome) :
    Storable env entry (mapped env entry rating createdAt updatedAt ownerReplyAt) ↔ Fits env entry := by
  constructor
  · intro h
    obtain ⟨id, heq, -, hlength⟩ := h.source_review_id
    have heq' : entry.getD "reviewId" .null = .str id := heq
    exact ⟨⟨by rw [heq']; rfl, by rw [heq']; exact hlength⟩, display_name_iff.mp h.reviewer_name, h.json⟩
  · intro h
    obtain ⟨id, heq, hne⟩ := (isStr_iff_of_truthy hid).mp h.review_id.1
    have hlength := h.review_id.2
    rw [heq] at hlength
    have htexts : ∀ text ∈ (mapped env entry rating createdAt updatedAt ownerReplyAt).texts,
        env.postgres.TakesText text := by
      intro text htext
      rcases texts_mapped text htext with rfl | htext
      · exact ⟨env.postgres.encodes_ascii "und" (forall_mem_of_all (by decide)), by decide⟩
      · exact h.json.texts text htext
    exact ⟨⟨id, heq, hne, hlength⟩, rating_range hrating, hcreated, hupdated, readable_cleaned,
      readable_cleaned, display_name_iff.mpr h.display_name, show "und".length ≤ 16 by decide, rfl, htexts,
      h.json⟩

theorem shaped_and_iff {next : Prop} :
    (Nested (entry.getD "reviewer" .null) ∧ Nested (entry.getD "reviewReply" .null) ∧
        Textual (entry.getD "comment" .null) ∧ Nested (entry.getD "reviewReply" .null) ∧
        Textual ((entry.getD "reviewReply" .null).getD "comment" .null) ∧ next)
      ↔ Shaped entry ∧ next := by
  constructor
  · rintro ⟨hreviewer, hreply, hcomment, -, hreplyComment, hnext⟩
    exact ⟨⟨hreviewer, hreply, hcomment, hreplyComment⟩, hnext⟩
  · rintro ⟨⟨hreviewer, hreply, hcomment, hreplyComment⟩, hnext⟩
    exact ⟨hreviewer, hreply, hcomment, hreply, hreplyComment, hnext⟩

/-- **When a mapped review can be stored.**  The mapping of an entry ends as it should, or returns what the
table takes, if and only if the entry is `Mappable`. -/
theorem mapsStorably_iff (env : MappingEnv) (fields : List (String × Json)) :
    MapsStorably env (.obj fields) ↔ Mappable env (.obj fields) := by
  have hobj : (Json.obj fields).isObj = true := rfl
  generalize Json.obj fields = entry at hobj ⊢
  rw [MapsStorably, Mappable, toNormalizedReview]
  simp only [meets_bind, meets_field, hobj, true_and]
  by_cases hid : truthy (entry.getD "reviewId" .null)
  · rw [if_neg (not_not.mpr hid), forall_prop_of_true hid]
    cases hrating : ratingOf (entry.getD "starRating" .null) with
    | none => simp [meets_field, hobj, hrating]
    | some rating =>
        simp only [meets_bind, meets_field, hobj, true_and, hrating, Option.isSome_some, forall_const]
        by_cases hcreate : truthy (entry.getD "createTime" .null)
        · rw [if_neg (not_not.mpr hcreate), forall_prop_of_true hcreate]
          simp only [meets_bind, meets_field, hobj, true_and, meets_parseDatetime, meets_map,
            meets_reviewerName, meets_cleanText, meets_datetimeOr, isObj_orEmpty, getD_orEmpty, meets_pure]
          refine dated_iff_of_truthy hcreate fun parsed => dated_iff fun updatedAt hupdatedAt => ?_
          rw [shaped_and_iff]
          refine and_congr_right fun _ => dated_iff fun ownerReplyAt _ => ?_
          have hstorable := @storable_mapped_iff env entry rating (pinned parsed) updatedAt ownerReplyAt hid
            hrating (offset_pinned parsed) (offset_resolved (offset_pinned parsed) hupdatedAt)
          rw [← hstorable]
          simp [mapped]
        · rw [if_pos hcreate]
          simp [hcreate, IsSourceFetchError, sourceFetchError]
  · rw [if_pos hid]
    simp [hid, IsSourceFetchError, sourceFetchError]

/-- The morning of 5 January 2026. -/
def sampleDate : DateTime := ⟨1767607200000000, some 0, by decide, DateTime.utc_lt⟩

/-- A database that is given neither lone surrogates nor infinite numbers. -/
def samplePostgres : Postgres where
  encodes _ := true
  finite _ := true
  hasRoom _ := true
  encodes_ascii _ _ := rfl
  finite_zero := rfl

/-- The standard library, on that date and on ASCII. -/
def sampleMappingEnv : MappingEnv where
  unicode := ⟨(· = ' '), fun c => if c.isDigit then some (c.toNat - '0'.toNat) else none⟩
  fromisoformat text := if text = "2026-01-05T10:00:00Z" then some sampleDate else none
  format := Json.text
  repr := ⟨id, fun _ => "0.0"⟩
  postgres := samplePostgres

/-- An entry of a review without a text. -/
def sampleEntry (reviewId reviewer : Json) : List (String × Json) :=
  [("reviewId", reviewId), ("starRating", .str "FIVE"), ("createTime", .str "2026-01-05T10:00:00Z"),
    ("reviewer", reviewer)]

/-- A reviewer that is a text is asked for a field, and a name that is a number is passed on. -/
theorem not_mapsStorably_reviewer :
    toNormalizedReview sampleMappingEnv (.obj (sampleEntry (.str "r1") (.str "Ada")))
        = .error ⟨"AttributeError", "object has no attribute 'get'"⟩ ∧
      ¬ MapsStorably sampleMappingEnv (.obj (sampleEntry (.str "r1") (.str "Ada"))) ∧
      ¬ MapsStorably sampleMappingEnv (.obj (sampleEntry (.str "r1") (.obj [("displayName", .num 42)]))) := by
  have hraises : toNormalizedReview sampleMappingEnv (.obj (sampleEntry (.str "r1") (.str "Ada")))
      = .error ⟨"AttributeError", "object has no attribute 'get'"⟩ := by decide +kernel
  have hreturns : toNormalizedReview sampleMappingEnv
        (.obj (sampleEntry (.str "r1") (.obj [("displayName", .num 42)])))
      = .ok (some (mapped sampleMappingEnv (.obj (sampleEntry (.str "r1") (.obj [("displayName", .num 42)])))
        5 sampleDate sampleDate none)) := by decide +kernel
  refine ⟨hraises, ?_, ?_⟩
  · intro h
    rw [MapsStorably, hraises, meets_error] at h
    exact absurd h (by simp [IsSourceFetchError])
  · intro h
    rw [MapsStorably, hreturns, meets_ok] at h
    obtain ⟨text, hname, -⟩ := (h _ rfl).reviewer_name (.num 42) (by decide +kernel)
    cases hname

end GoogleMapping

end ReviewSignal
