import ReviewSignal.Db.Models
import ReviewSignal.Foundations.FaultyTriple
import Mathlib.Data.List.Sort
import Mathlib.Data.List.DropRight

/-!
# Single-pass taxonomy generation

`TaxonomyGenerationService` of `services/taxonomy_generation.py`, with the reply it asks a provider
for (`schemas/taxonomy_generation.py`) and the outcomes a provider has (`ai/provider.py`).

The provider is a function of the prompt, and `str.lower` is a parameter of the environment.  As in
the ingestion service, every query, flush and commit is a place where the environment may raise or
the process die.

What PostgreSQL itself refuses raises whatever the environment does:

* `sample` — a LIMIT is a `bigint` that is not negative (`ValidLimit`);
* `refusedTexts` — no text column holds a NUL, and a `varchar` column no text beyond its width, spaces
  excepted: those it cuts (`TaxonomyNode.stored`);
* `refusedNode` — a slug is unique among those of its version.

Reviews of one `created_at` are sampled in the order of the table, which is any order.
-/

namespace ReviewSignal

/-! ## The reply

The schema a reply is validated against, and what a provider can answer. -/

/-- `GeneratedSubcategory`: both texts have `min_length=1`. -/
structure GeneratedSubcategory where
  name : String
  description : String
  name_ne : name ≠ ""
  description_ne : description ≠ ""
  deriving DecidableEq

/-- `GeneratedCategory` -/
structure GeneratedCategory where
  name : String
  description : String
  children : List GeneratedSubcategory := []
  name_ne : name ≠ ""
  description_ne : description ≠ ""
  deriving DecidableEq

/-- `GeneratedTaxonomy` -/
structure GeneratedTaxonomy where
  nodes : List GeneratedCategory
  nodes_ne : nodes ≠ []
  deriving DecidableEq

theorem prints_ne : "prints" ≠ "" := by decide

theorem photoPrints_ne : "Photo prints" ≠ "" := by decide

/-- One category, for concrete runs. -/
def printsTaxonomy : GeneratedTaxonomy :=
  ⟨[⟨"prints", "Photo prints", [], prints_ne, photoPrints_ne⟩], by decide⟩

/-- `StructuredOutcome` of a taxonomy. -/
structure StructuredOutcome where
  value : GeneratedTaxonomy
  latencyMs : ℕ
  attempts : ℕ
  fallbackUsed : Bool
  deriving DecidableEq

/-- `StructuredOutputError` -/
structure StructuredOutputError where
  message : String
  attempts : ℕ
  latencyMs : ℕ
  deriving DecidableEq, Repr

/-- What `generate_structured` does: it returns, it raises a `StructuredOutputError`, or anything else
goes wrong (the transport, for one). -/
inductive ModelAnswer where
  | outcome (outcome : StructuredOutcome)
  | rejected (exc : StructuredOutputError)
  | fails (exc : Exn)

/-- `LLMProvider` -/
structure LLMProvider where
  name : String
  modelName : String
  modelVersion : Option String
  generateStructured : String → ModelAnswer

/-! ## The prompt

The template, and where the reviews go. -/

/-- `Prompt`.  The template is the text before its only placeholder, which ends it. -/
structure Prompt where
  id : String
  template : String

def Prompt.render (prompt : Prompt) (reviews : String) : String := prompt.template ++ reviews

/-- `TAXONOMY_GENERATE_V1` -/
def taxonomyGenerateV1 : Prompt where
  id := "taxonomy_generate_v1"
  template := "You are building a review analysis taxonomy for a photo imaging business.

Read the customer reviews below and produce a two-level taxonomy of the topics they
actually discuss.

Rules:
- Derive every category from these reviews. Do not add categories the reviews do not support.
- Keep categories distinct. Merge any two that would overlap in meaning.
- Give every category and subcategory one sentence describing what belongs in it.
- Prefer a few meaningful categories over many narrow ones.
- Add a subcategory only where the reviews genuinely distinguish one.

Reviews:
"

/-! ## Slugs

`_unique_slug`, whose loop has as many rounds as there are used slugs. -/

/-- `str.isspace` of one character. -/
def isSpace (c : Char) : Bool :=
  c.toNat ∈ [0x09, 0x0a, 0x0b, 0x0c, 0x0d, 0x1c, 0x1d, 0x1e, 0x1f, 0x20, 0x85, 0xa0, 0x1680, 0x2000,
    0x2001, 0x2002, 0x2003, 0x2004, 0x2005, 0x2006, 0x2007, 0x2008, 0x2009, 0x200a, 0x2028, 0x2029,
    0x202f, 0x205f, 0x3000]

/-- `strip` of the characters that meet a predicate. -/
def stripChars (p : Char → Bool) (s : List Char) : List Char := (s.dropWhile p).rdropWhile p

/-- `[a-z0-9]` -/
def isSlugChar (c : Char) : Bool := ('a' ≤ c ∧ c ≤ 'z') ∨ ('0' ≤ c ∧ c ≤ '9')

/-- `_NON_SLUG.sub("_", ·)`: every maximal run of other characters becomes one underscore.  The flag
says that the run has begun. -/
def subNonSlug : Bool → List Char → List Char
  | _, [] => []
  | inRun, c :: cs =>
      if isSlugChar c then c :: subNonSlug false cs
      else if inRun then subNonSlug true cs
      else '_' :: subNonSlug true cs

/-- The first line of `_unique_slug`. -/
def slugBase (lower : String → String) (name : String) : String :=
  let stripped := String.ofList (stripChars isSpace name.toList)
  match stripChars (· = '_') (subNonSlug false (lower stripped).toList) with
  | [] => "category"
  | slug => String.ofList slug

/-- The `while` loop of `_unique_slug`, at some suffix.  No more slugs can be taken than there are in
`used`, so that many rounds are enough. -/
def freeSlug (base : String) (used : List String) : ℕ → ℕ → String → String
  | 0, _, slug => slug
  | rounds + 1, suffix, slug =>
      if slug ∈ used then
        freeSlug base used rounds (suffix + 1) (base ++ "_" ++ toString (suffix + 1))
      else slug

/-- `_unique_slug` -/
def uniqueSlug (lower : String → String) (name : String) (used : List String) : String :=
  freeSlug (slugBase lower name) used used.length 1 (slugBase lower name)

/-! ## The environment of a run

The places where something can go wrong, and the two views of a session. -/

/-- The places where a run can raise, or its process die. -/
inductive TaxonomyPoint where
  | sample
  | model
  | recordRun
  | rejectCommit
  | nextVersion
  | insertVersion
  | insertNode (order : ℕ) (child : Option ℕ)
  | commit
  deriving DecidableEq, Repr

/-- Everything a run depends on besides the tables and its payload. -/
structure TaxonomyEnv where
  provider : LLMProvider
  lower : String → String
  fate : TaxonomyPoint → Fate

/-- The committed tables, and what the session's open transaction sees. -/
structure TaxonomySession where
  committed : TaxonomyTables
  working : TaxonomyTables

namespace TaxonomySession

def commit (s : TaxonomySession) : TaxonomySession := { s with committed := s.working }

def addModelRun (run : ModelRun) (s : TaxonomySession) : TaxonomySession :=
  { s with working := { s.working with modelRuns := s.working.modelRuns ++ [run] } }

def addVersion (version : TaxonomyVersion) (s : TaxonomySession) : TaxonomySession :=
  { s with working := { s.working with versions := s.working.versions ++ [version] } }

def addNode (node : TaxonomyNode) (s : TaxonomySession) : TaxonomySession :=
  { s with working := { s.working with nodes := s.working.nodes ++ [node] } }

end TaxonomySession

abbrev Generate := Faulty Exn TaxonomySession

/-- `TaxonomyGenerationError` -/
def taxonomyGenerationError (message : String) : Exn := ⟨"TaxonomyGenerationError", message⟩

/-- What a `varchar` column holds of a text it does not refuse. -/
def keptText (width : ℕ) (value : String) : String := String.ofList (value.toList.take width)

/-- The row as it is stored.  A slug has no spaces that could be cut. -/
def TaxonomyNode.stored (node : TaxonomyNode) : TaxonomyNode :=
  { node with name := keptText 255 node.name }

/-! ## `TaxonomyGenerationService`

In the order of the source, with what PostgreSQL refuses at each flush. -/

namespace TaxonomyGenerationService

/-- `TASK` -/
def task : String := "taxonomy_generate"

/-- `_format_reviews` -/
def formatReviews (reviews : List Review) : String :=
  "\n".intercalate (reviews.map fun review =>
    "- (" ++ toString review.rating ++ "/5) " ++ review.reviewText.getD "None")

/-- The rows of the `_sample` query: newest first, and only reviews with text. -/
def sampled (sampleSize : ℕ) (reviews : List Review) : List Review :=
  ((reviews.filter fun review => review.reviewText ≠ none ∧ review.reviewText ≠ some "").insertionSort
    fun a b => b.createdAt ≤ a.createdAt).take sampleSize

/-- What a LIMIT can be: a `bigint` that is not negative. -/
def ValidLimit (limit : ℤ) : Prop := 0 ≤ limit ∧ limit < 2 ^ 63

/-- `_sample` -/
def sample (env : TaxonomyEnv) (sampleSize : ℤ) : Generate (List Review) := do
  .pass (env.fate .sample)
  if sampleSize < -2 ^ 63 ∨ 2 ^ 63 ≤ sampleSize then .raise ⟨"DataError", "bigint out of range"⟩
  else if sampleSize < 0 then .raise ⟨"DataError", "LIMIT must not be negative"⟩
  else .read fun s => sampled sampleSize.toNat s.working.reviews

/-- The `metadata` of a model run. -/
def runMetadata (sampleSize : ℤ) (attempts categoryCount : ℕ) : Json :=
  .obj [("sample_size", .num sampleSize), ("attempts", .num attempts),
    ("category_count", .num categoryCount)]

/-- `ModelRunRepository.record`: insert and flush.  The new row's key is its position. -/
def recordRun (env : TaxonomyEnv) (run : ModelRun) : Generate ℕ := do
  .pass (env.fate .recordRun)
  let runs ← .read (·.working.modelRuns)
  .modify (·.addModelRun run)
  pure runs.length

/-- The row `_record_rejection` records. -/
def rejectedRun (provider : LLMProvider) (exc : StructuredOutputError) (inputCount : ℕ)
    (sampleSize : ℤ) : ModelRun where
  task := task
  provider := provider.name
  modelName := provider.modelName
  modelVersion := provider.modelVersion
  promptVersion := some taxonomyGenerateV1.id
  inputCount := inputCount
  latencyMs := exc.latencyMs
  success := false
  outputValid := false
  fallbackUsed := 1 < exc.attempts
  errorMessage := some exc.message
  metadata := runMetadata sampleSize exc.attempts 0

/-- `_record_rejection`: the one write that is to outlive the failure. -/
def recordRejection (env : TaxonomyEnv) (exc : StructuredOutputError) (inputCount : ℕ)
    (sampleSize : ℤ) : Generate Unit := do
  let _ ← recordRun env (rejectedRun env.provider exc inputCount sampleSize)
  .pass (env.fate .rejectCommit)
  .modify (·.commit)

/-- The row `_store` records. -/
def acceptedRun (provider : LLMProvider) (outcome : StructuredOutcome) (inputCount : ℕ)
    (sampleSize : ℤ) : ModelRun where
  task := task
  provider := provider.name
  modelName := provider.modelName
  modelVersion := provider.modelVersion
  promptVersion := some taxonomyGenerateV1.id
  inputCount := inputCount
  latencyMs := outcome.latencyMs
  success := true
  outputValid := true
  fallbackUsed := outcome.fallbackUsed
  metadata := runMetadata sampleSize outcome.attempts outcome.value.nodes.length

/-- `_next_version_number` -/
def nextVersionNumber (versions : List TaxonomyVersion) : ℕ :=
  (versions.map (·.versionNumber)).foldr max 0 + 1

/-- What PostgreSQL refuses in a text column, of some width if it has one.  Spaces beyond the width are
no reason. -/
def refusedText (width : Option ℕ) (value : String) : Option Exn :=
  if '\x00' ∈ value.toList then
    some ⟨"DataError", "PostgreSQL text fields cannot contain NUL (0x00) bytes"⟩
  else if width.any fun n => (value.toList.drop n).any (· ≠ ' ') then
    some ⟨"DataError", "value too long for type character varying"⟩
  else none

/-- What PostgreSQL refuses in the texts of a row of `taxonomy_nodes`. -/
def refusedTexts (node : TaxonomyNode) : Option Exn :=
  (refusedText (some 255) node.name).or
    ((refusedText none node.description).or (refusedText (some 255) node.slug))

/-- What PostgreSQL refuses in a new row of `taxonomy_nodes`: one of its texts, or a slug another row
of its version has. -/
def refusedNode (nodes : List TaxonomyNode) (node : TaxonomyNode) : Option Exn :=
  (refusedTexts node).or
    (if ∃ stored ∈ nodes, stored.taxonomyVersionId = node.taxonomyVersionId ∧ stored.slug = node.slug
     then some ⟨"IntegrityError",
       "duplicate key value violates unique constraint 'uq_taxonomy_nodes_version_slug'"⟩
     else none)

/-- `_store_node`, given its slug: insert and flush. -/
def storeNode (env : TaxonomyEnv) (point : TaxonomyPoint) (node : TaxonomyNode) : Generate ℕ := do
  .pass (env.fate point)
  let nodes ← .read (·.working.nodes)
  match refusedNode nodes node with
  | some exc => .raise exc
  | none => do
      .modify (·.addNode node.stored)
      pure nodes.length

/-- The inner loop of `_store_nodes`, from one child on, with the slugs used so far. -/
def storeChildren (env : TaxonomyEnv) (versionId order parentId : ℕ) :
    ℕ → List GeneratedSubcategory → List String → Generate (List String)
  | _, [], used => pure used
  | childOrder, child :: children, used => do
      let slug := uniqueSlug env.lower child.name used
      let _ ← storeNode env (.insertNode order (some childOrder))
        ⟨versionId, some parentId, child.name, child.description, slug, 1, childOrder⟩
      storeChildren env versionId order parentId (childOrder + 1) children (slug :: used)

/-- `_store_nodes`, from one category on, with the slugs used so far. -/
def storeNodes (env : TaxonomyEnv) (versionId : ℕ) :
    ℕ → List GeneratedCategory → List String → Generate Unit
  | _, [], _ => pure ()
  | order, category :: categories, used => do
      let slug := uniqueSlug env.lower category.name used
      let parentId ← storeNode env (.insertNode order none)
        ⟨versionId, none, category.name, category.description, slug, 0, order⟩
      let used ← storeChildren env versionId order parentId 0 category.children (slug :: used)
      storeNodes env versionId (order + 1) categories used

/-- `_store`: the id of the new version. -/
def store (env : TaxonomyEnv) (outcome : StructuredOutcome) (inputCount : ℕ) (sampleSize : ℤ) :
    Generate ℕ := do
  let runId ← recordRun env (acceptedRun env.provider outcome inputCount sampleSize)
  .pass (env.fate .nextVersion)
  let versions ← .read (·.working.versions)
  .pass (env.fate .insertVersion)
  .modify (·.addVersion ⟨nextVersionNumber versions, .candidate, "model", some runId⟩)
  storeNodes env versions.length 0 outcome.value.nodes []
  pure versions.length

/-- `generate` -/
def generate (env : TaxonomyEnv) (sampleSize : ℤ) : Generate ℕ := do
  let reviews ← sample env sampleSize
  if reviews = [] then
    .raise (taxonomyGenerationError "No reviews with text to ground a taxonomy in.")
  else do
    .pass (env.fate .model)
    match env.provider.generateStructured (taxonomyGenerateV1.render (formatReviews reviews)) with
    | .fails exc => .raise exc
    | .rejected exc => do
        recordRejection env exc reviews.length sampleSize
        .raise (taxonomyGenerationError exc.message)
    | .outcome outcome => store env outcome reviews.length sampleSize

end TaxonomyGenerationService

end ReviewSignal
