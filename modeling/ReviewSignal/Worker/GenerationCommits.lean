import ReviewSignal.Foundations.FaultyReturns
import ReviewSignal.Worker.GenerationOutcome

/-!
# When a taxonomy job commits its version

`GenerationOutcome` says what a generation comes to where nothing fails.  Here anything may fail, and the
question is only whether the handler's transaction commits.

* `points` — the places a run passes on its way to the commit: one for each query and flush, in the order
  of `generate` and of the rows of the taxonomy it stores;
* `Jobs.Commits` — what it takes: the sample query runs and finds a review, the model answers with a
  taxonomy none of whose rows PostgreSQL refuses, and nothing happens at any of those places;
* `taxonomyGenerate_returned_iff` — it takes that and no more.

`Commits` is about the payload, the environment and the tables before the job, and not about what the job
does, so that it can be the condition of a statement about several executions.
-/

namespace ReviewSignal

open Faulty

/-- Nothing happens at these places. -/
def TaxonomyEnv.Passes (env : TaxonomyEnv) (points : List TaxonomyPoint) : Prop :=
  ∀ point ∈ points, env.fate point = .proceeds

section Passes

variable {env : TaxonomyEnv} {point : TaxonomyPoint} {points later : List TaxonomyPoint}

@[simp] theorem TaxonomyEnv.passes_nil : env.Passes [] := by simp [Passes]

@[simp] theorem TaxonomyEnv.passes_cons :
    env.Passes (point :: points) ↔ env.fate point = .proceeds ∧ env.Passes points := by
  simp [Passes]

@[simp] theorem TaxonomyEnv.passes_append :
    env.Passes (points ++ later) ↔ env.Passes points ∧ env.Passes later := by
  simp [Passes, or_imp, forall_and]

end Passes

namespace TaxonomyGenerationService

/-! ## The places of a run

Every flush has one, and which flushes there are depends on the reply. -/

/-- The flushes of the children of one category. -/
def childPoints (order : ℕ) : ℕ → List GeneratedSubcategory → List TaxonomyPoint
  | _, [] => []
  | childOrder, _ :: children =>
      .insertNode order (some childOrder) :: childPoints order (childOrder + 1) children

/-- The flushes of some categories, each before those of its children. -/
def nodePoints : ℕ → List GeneratedCategory → List TaxonomyPoint
  | _, [] => []
  | order, category :: categories =>
      .insertNode order none ::
        (childPoints order 0 category.children ++ nodePoints (order + 1) categories)

/-- The places of a run that commits this taxonomy. -/
def points (taxonomy : GeneratedTaxonomy) : List TaxonomyPoint :=
  .sample :: .model :: .recordRun :: .nextVersion :: .insertVersion ::
    (nodePoints 0 taxonomy.nodes ++ [.commit])

/-! ## The service

When each function returns, from the rows it is to write. -/

section Returns

variable {env : TaxonomyEnv} {s : TaxonomySession} {versionId order parentId childOrder : ℕ}
  {used : List String}

theorem refusedRows_append (nodes rows later : List TaxonomyNode) :
    refusedRows nodes (rows ++ later)
      = (refusedRows nodes rows).or (refusedRows (nodes ++ rows.map (·.stored)) later) := by
  induction rows generalizing nodes with
  | nil => simp [refusedRows]
  | cons row rows ih => simp [refusedRows, ih, Option.or_assoc]

theorem returns_sample {Q : List Review → TaxonomySession → Prop} (n : ℤ) :
    Returns (sample env n) s Q ↔ env.fate .sample = .proceeds ∧ ValidLimit n ∧
      Q (sampled n.toNat s.working.reviews) s := by
  rw [sample, returns_bind, returns_pass]
  split_ifs with hrange hnegative
  · have hlimit : ¬ ValidLimit n := fun h => by have := h.1; have := h.2; omega
    simp [hlimit]
  · have hlimit : ¬ ValidLimit n := fun h => hnegative.not_ge h.1
    simp [hlimit]
  · have hlimit : ValidLimit n := ⟨by omega, by omega⟩
    simp [hlimit]

theorem returns_recordRun {run : ModelRun} {Q : ℕ → TaxonomySession → Prop} :
    Returns (recordRun env run) s Q ↔ env.fate .recordRun = .proceeds ∧
      Q s.working.modelRuns.length (s.addModelRun run) := by
  rw [recordRun]
  simp only [returns_bind, returns_pass, returns_read, returns_modify, returns_pure]

theorem returns_storeNode {point : TaxonomyPoint} {node : TaxonomyNode}
    {Q : ℕ → TaxonomySession → Prop} :
    Returns (storeNode env point node) s Q ↔ env.fate point = .proceeds ∧
      refusedNode s.working.nodes node = none ∧ Q s.working.nodes.length (s.addNode node.stored) := by
  rw [storeNode, returns_bind, returns_pass, returns_bind, returns_read]
  cases refusedNode s.working.nodes node with
  | some exc => simp
  | none => simp only [returns_bind, returns_modify, returns_pure, true_and]

theorem returns_storeChildren {children : List GeneratedSubcategory}
    {Q : List String → TaxonomySession → Prop} :
    Returns (storeChildren env versionId order parentId childOrder children used) s Q ↔
      let rows := withSlugs env.lower (childRows versionId parentId childOrder children) used
      env.Passes (childPoints order childOrder children) ∧ refusedRows s.working.nodes rows = none ∧
      Q (usedAfter env.lower (children.map (·.name)) used) (s.addNodes (rows.map (·.stored))) := by
  induction children generalizing childOrder used s with
  | nil => simp [storeChildren, childPoints, childRows, withSlugs, refusedRows, usedAfter,
      TaxonomySession.addNodes_nil]
  | cons child children ih =>
      simp only [storeChildren, returns_bind, returns_storeNode, ih, childPoints, childRows, withSlugs,
        refusedRows, usedAfter, TaxonomyEnv.passes_cons, Option.or_eq_none_iff, List.map_cons,
        TaxonomySession.addNodes_cons]
      tauto

/-- The rows of the categories are stored when nothing happens at their flushes and none is refused.  The
induction is on the categories, from any place in their order on. -/
theorem returns_storeNodes {categories : List GeneratedCategory} {Q : Unit → TaxonomySession → Prop} :
    Returns (storeNodes env versionId order categories used) s Q ↔
      let rows := withSlugs env.lower
        (treeRows versionId s.working.nodes.length order categories) used
      env.Passes (nodePoints order categories) ∧ refusedRows s.working.nodes rows = none ∧
      Q () (s.addNodes (rows.map (·.stored))) := by
  induction categories generalizing order used s with
  | nil => simp [storeNodes, nodePoints, treeRows, withSlugs, refusedRows,
      TaxonomySession.addNodes_nil]
  | cons category categories ih =>
      simp only [storeNodes, returns_bind, returns_storeNode, returns_storeChildren, ih, nodePoints,
        treeRows, withSlugs, withSlugs_append, refusedRows, refusedRows_append, categoryRow,
        map_name_childRows, TaxonomyEnv.passes_cons, TaxonomyEnv.passes_append, Option.or_eq_none_iff,
        List.map_cons, List.map_append, TaxonomySession.addNodes_cons, TaxonomySession.addNodes_append,
        TaxonomySession.nodes_addNode, TaxonomySession.nodes_addNodes, List.length_append,
        List.length_map, List.length_singleton, length_withSlugs, length_childRows]
      tauto

/-- `_store` returns when its rows are stored.  What follows it does not depend on what it leaves. -/
theorem returns_store {outcome : StructuredOutcome} {inputCount : ℕ} {n : ℤ} {next : Prop} :
    Returns (store env outcome inputCount n) s (fun _ _ => next) ↔
      env.Passes (.recordRun :: .nextVersion :: .insertVersion :: nodePoints 0 outcome.value.nodes) ∧
      refusedRows s.working.nodes (sentRows env.lower s.working.versions.length
        s.working.nodes.length outcome.value.nodes) = none ∧ next := by
  simp only [store, returns_bind, returns_recordRun, returns_pass, returns_read, returns_modify,
    returns_storeNodes, returns_pure, TaxonomySession.addModelRun, TaxonomySession.addVersion,
    TaxonomyEnv.passes_cons, sentRows]
  tauto

end Returns

end TaxonomyGenerationService

/-! ## The job

The service, the commit and the handler around them. -/

namespace Jobs

open TaxonomyGenerationService

variable {env : TaxonomyEnv} {payload : Json} {key : JobId} {tables : TaxonomyTables}

/-- What it takes for a taxonomy job to commit its version, from the tables it meets. -/
def Commits (env : TaxonomyEnv) (payload : Json) (tables : TaxonomyTables) : Prop :=
  ∃ n outcome, sampleSize payload = .ok n ∧ ValidLimit n ∧ sampled n.toNat tables.reviews ≠ [] ∧
    env.provider.generateStructured (promptOf n tables) = .outcome outcome ∧
    refusedRows tables.nodes (sentRows env.lower tables.versions.length tables.nodes.length
      outcome.value.nodes) = none ∧
    env.Passes (points outcome.value)

theorem returns_generateAndCommit (n : ℤ) :
    Returns (generateAndCommit env n) ⟨tables, tables⟩ (fun _ _ => True) ↔
      ∃ outcome, ValidLimit n ∧ sampled n.toNat tables.reviews ≠ [] ∧
        env.provider.generateStructured (promptOf n tables) = .outcome outcome ∧
        refusedRows tables.nodes (sentRows env.lower tables.versions.length tables.nodes.length
          outcome.value.nodes) = none ∧
        env.Passes (points outcome.value) := by
  simp only [generateAndCommit, generate, returns_bind, returns_sample, returns_pass, returns_modify,
    and_true]
  by_cases hempty : sampled n.toNat tables.reviews = []
  · simp [hempty]
  · rw [if_neg hempty, returns_bind, returns_pass, promptOf]
    cases env.provider.generateStructured
        (taxonomyGenerateV1.render (formatReviews (sampled n.toNat tables.reviews))) with
    | fails exc => simp
    | rejected exc => simp
    | outcome outcome =>
        simp only [returns_store, points, TaxonomyEnv.passes_cons, TaxonomyEnv.passes_append,
          TaxonomyEnv.passes_nil, ModelAnswer.outcome.injEq]
        constructor
        · rintro ⟨hsample, hlimit, hmodel, ⟨hrun, hnext, hinsert, hnodes⟩, hrows, hcommit⟩
          exact ⟨outcome, hlimit, hempty, rfl, hrows, hsample, hmodel, hrun, hnext, hinsert, hnodes,
            hcommit, trivial⟩
        · rintro ⟨_, hlimit, -, rfl, hrows, hsample, hmodel, hrun, hnext, hinsert, hnodes, hcommit, -⟩
          exact ⟨hsample, hlimit, hmodel, ⟨hrun, hnext, hinsert, hnodes⟩, hrows, hcommit⟩

/-- **When a taxonomy job returns**, and its version is committed. -/
theorem taxonomyGenerate_returned_iff :
    (taxonomyGenerate env payload key tables).1 = .returned () ↔ Commits env payload tables := by
  have hreturns : (taxonomyGenerate env payload key tables).1 = .returned () ↔
      Returns (taxonomySession env payload) ⟨tables, tables⟩ (fun _ _ => True) := by
    rw [returns_true_iff]
    exact ⟨fun h => ⟨(), h⟩, fun ⟨_, h⟩ => h⟩
  rw [hreturns, taxonomySession]
  cases hpayload : sampleSize payload with
  | error exc => simp [Commits, hpayload]
  | ok n =>
      rw [returns_tryCatch, returns_generateAndCommit]
      · simp [Commits, hpayload]
      · intro exc s'
        split_ifs <;> exact returns_raise

end Jobs

end ReviewSignal
