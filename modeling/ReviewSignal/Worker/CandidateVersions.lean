import ReviewSignal.Worker.GenerationCommits

/-!
# How many candidate versions one job stores

`taxonomy_generate` commits its version in a transaction of its own, before `_record_success` records
that the job succeeded.  An execution that is cut short between the two has stored its version, and
RQ makes another one.

**When a job has one version at most** (`one_candidate_iff`).  The condition is about what the executions
meet and not about what they do: `Delivery.Commits` says that the first transaction of the runner goes
through and that the handler's run does, on the tables the execution finds (`Jobs.Commits`), and
`Delivery.CutShort` that something happens after the handler.  A job has two versions exactly when an
execution of the first kind is cut short and a later one is of the first kind again.

**When it has two** (`crash_stores_second_candidate`).  The commit of `_record_success` fails in the first
execution, and nothing looks for a version the job has stored before.

The executions are those RQ makes, with any environment for each of them; the rest of the system may
change the tables of the handler in between.
-/

namespace ReviewSignal

/-- The executions of one taxonomy job. -/
def taxonomyChain (runner : ℕ → RunnerEnv) (env : ℕ → TaxonomyEnv)
    (meanwhile : ℕ → TaxonomyTables → TaxonomyTables) : ChainEnv TaxonomyTables :=
  ⟨runner, fun n => Jobs.taxonomyGenerate (env n), meanwhile⟩

/-- The versions the executions added themselves. -/
def candidates (trace : List (Delivery TaxonomyTables)) : List TaxonomyVersion :=
  trace.flatMap fun delivery =>
    delivery.after.store.versions.drop delivery.before.store.versions.length

namespace Delivery

variable {σ : Type}

/-- The handler was run, and its transaction committed. -/
def Stored (delivery : Delivery σ) : Prop := delivery.runner.Marks ∧ delivery.handled = .returned ()

instance (delivery : Delivery σ) : Decidable delivery.Stored := inferInstanceAs (Decidable (_ ∧ _))

/-- The first transaction of the runner goes through, and so does the handler on the tables it meets. -/
def Commits (env : ℕ → TaxonomyEnv) (payload : Json) (delivery : Delivery TaxonomyTables) : Prop :=
  delivery.runner.Marks ∧ Jobs.Commits (env delivery.number) payload delivery.before.store

/-- Something happens after the handler: the second transaction of the runner fails, or the worker dies. -/
def CutShort (delivery : Delivery σ) : Prop :=
  ¬ (delivery.runner.Records ∧ delivery.runner.fate .leave = .proceeds)

end Delivery

variable {runner : ℕ → RunnerEnv} {env : ℕ → TaxonomyEnv}
  {meanwhile : ℕ → TaxonomyTables → TaxonomyTables} {key : JobId} {db : WorkerDb TaxonomyTables}
  {job : Job}

/-- **What one execution adds**: one version if its handler's transaction committed, none otherwise. -/
theorem length_candidates_deliver (n : ℕ) (h : db.jobs.lookup key = some job)
    (htype : job.jobType = "taxonomy_generate") :
    (candidates [(taxonomyChain runner env meanwhile).deliver key n db]).length
      = if ((taxonomyChain runner env meanwhile).deliver key n db).Stored then 1 else 0 := by
  set delivery := (taxonomyChain runner env meanwhile).deliver key n db with hdelivery
  have hhandled : delivery.handled
      = (Jobs.taxonomyGenerate (env n) job.payload key delivery.before.store).1 :=
    (taxonomyChain runner env meanwhile).handled_deliver n h
  obtain ⟨-, hstore, -⟩ := (taxonomyChain runner env meanwhile).deliver_spec n h
  rw [← hdelivery, htype] at hstore
  have hregistered : "taxonomy_generate" ∈ handlers := by decide
  simp only [candidates, List.flatMap_singleton]
  by_cases hmarks : delivery.runner.Marks
  · rw [if_pos ⟨hmarks, hregistered⟩] at hstore
    by_cases hreturned : delivery.handled = .returned ()
    · obtain ⟨version, hversion⟩ := Jobs.taxonomyGenerate_returned (hhandled.symm.trans hreturned)
      rw [if_pos ⟨hmarks, hreturned⟩, hstore]
      simp [taxonomyChain, hversion]
    · have hversions := Jobs.taxonomyGenerate_stopped fun h => hreturned (hhandled.trans h)
      rw [if_neg fun hstored => hreturned hstored.2, hstore]
      simp [taxonomyChain, hversions]
  · rw [if_neg fun hboth => hmarks hboth.1] at hstore
    rw [if_neg fun hstored => hmarks hstored.1, hstore]
    simp

/-- **Which executions store a version**, from what they meet. -/
theorem stored_deliver_iff (n : ℕ) {payload : Json} (h : db.jobs.lookup key = some job)
    (hpayload : job.payload = payload) :
    ((taxonomyChain runner env meanwhile).deliver key n db).Stored ↔
      ((taxonomyChain runner env meanwhile).deliver key n db).Commits env payload := by
  rw [Delivery.Stored, Delivery.Commits, ← hpayload,
    (taxonomyChain runner env meanwhile).handled_deliver n h]
  exact and_congr_right fun _ => @Jobs.taxonomyGenerate_returned_iff _ _ key _

/-- An execution that stored a version and did not return was cut short. -/
theorem cutShort_of_stored (n : ℕ) (h : db.jobs.lookup key = some job)
    (htype : job.jobType = "taxonomy_generate")
    (hended : ((taxonomyChain runner env meanwhile).deliver key n db).ended ≠ .returned ())
    (hstored : ((taxonomyChain runner env meanwhile).deliver key n db).Stored) :
    ((taxonomyChain runner env meanwhile).deliver key n db).CutShort := by
  obtain ⟨-, -, hreturns⟩ := (taxonomyChain runner env meanwhile).deliver_spec n h
  rintro ⟨hrecords, hleave⟩
  refine hended (hreturns.mpr ⟨⟨.returns, ?_, rfl⟩, hleave⟩)
  have hregistered : job.jobType ∈ handlers := by rw [htype]; decide
  rw [Delivery.progress, RunnerEnv.progress, if_pos hstored.1, hstored.2, handledOutcome,
    if_pos hregistered]
  exact if_pos hrecords

theorem candidates_cons (delivery : Delivery TaxonomyTables) (trace : List (Delivery TaxonomyTables)) :
    (candidates (delivery :: trace)).length
      = (candidates [delivery]).length + (candidates trace).length := by
  simp [candidates]

/-- The executions store as many versions as handlers committed. -/
theorem length_candidates {trace : List (Delivery TaxonomyTables)}
    (h : ∀ delivery ∈ trace, (candidates [delivery]).length = if delivery.Stored then 1 else 0) :
    (candidates trace).length = trace.countP (·.Stored) := by
  induction trace with
  | nil => rfl
  | cons delivery trace ih =>
      obtain ⟨hdelivery, htrace⟩ := List.forall_mem_cons.mp h
      rw [candidates_cons, hdelivery, ih htrace, List.countP_cons, Nat.add_comm]
      simp

/-- At most one element meets a predicate when no two do. -/
theorem countP_le_one_iff {α : Type} (p : α → Prop) [DecidablePred p] (l : List α) :
    l.countP p ≤ 1 ↔ l.Pairwise fun a b => p a → ¬ p b := by
  induction l with
  | nil => simp
  | cons a l ih =>
      by_cases ha : p a
      · have hnone : l.countP p = 0 ↔ ∀ b ∈ l, ¬ p b := by simp [List.countP_eq_zero]
        rw [List.countP_cons_of_pos (by simpa using ha), List.pairwise_cons, Nat.succ_le_succ_iff,
          Nat.le_zero, hnone]
        refine ⟨fun h => ⟨fun b hb _ => h b hb, ?_⟩, fun h b hb => h.1 b hb ha⟩
        exact ih.mp ((hnone.mpr h).le.trans zero_le_one)
      · rw [List.countP_cons_of_neg (by simpa using ha), List.pairwise_cons, ih]
        simp [ha]

variable (runner env meanwhile key) in
/-- **The versions of one job.**  Its executions add at most one if and only if none of those that commit
one and are cut short after it is followed by another one that commits. -/
theorem one_candidate_iff (payload : Json) (maxAttempts : ℕ) (db : WorkerDb TaxonomyTables) :
    let trace := (taxonomyChain runner env meanwhile).deliveries key "taxonomy_generate" payload
      maxAttempts db
    (candidates trace).length ≤ 1 ↔ trace.Pairwise fun delivery later =>
      delivery.Commits env payload → delivery.CutShort → ¬ later.Commits env payload := by
  intro trace
  let chain := taxonomyChain runner env meanwhile
  let job := enqueuedJob "taxonomy_generate" payload maxAttempts
  let recorded : WorkerDb TaxonomyTables := { db with jobs := db.jobs.insert key job }
  have hrecorded : recorded.jobs.lookup key = some job := Finmap.lookup_insert _
  let retries := (retryPolicy maxAttempts).elim 0 (·.max)
  have hadded : ∀ delivery ∈ trace,
      (candidates [delivery]).length = if delivery.Stored then 1 else 0 :=
    chain.forall_redeliveries (fun n _ _ h htype _ => length_candidates_deliver n h htype)
      retries 1 hrecorded rfl rfl
  have hstored : ∀ delivery ∈ trace, (delivery.Stored ↔ delivery.Commits env payload) :=
    chain.forall_redeliveries (fun n _ _ h _ hpayload => stored_deliver_iff n h hpayload)
      retries 1 hrecorded rfl rfl
  have hcut : ∀ delivery ∈ trace, delivery.ended ≠ .returned () → delivery.Stored →
      delivery.CutShort :=
    chain.forall_redeliveries (fun n _ _ h htype _ => cutShort_of_stored n h htype)
      retries 1 hrecorded rfl rfl
  have hended : trace.Pairwise fun delivery _ => delivery.ended ≠ .returned () :=
    chain.redeliveries_pairwise key retries 1 recorded
  rw [length_candidates hadded, countP_le_one_iff]
  constructor
  · intro h
    refine h.imp_of_mem fun hfirst hlater hpair hcommits _ hcommits' => ?_
    exact hpair ((hstored _ hfirst).mpr hcommits) ((hstored _ hlater).mpr hcommits')
  · intro h
    -- an execution that is followed by another one has not returned
    refine (h.and hended).imp_of_mem fun hfirst hlater hpair hstores hstores' => ?_
    exact hpair.1 ((hstored _ hfirst).mp hstores) (hcut _ hfirst hpair.2 hstores)
      ((hstored _ hlater).mp hstores')

/-! ## A job with two versions

The version is stored, and the success is not recorded. -/

/-- A provider that answers every prompt with one category. -/
def photoProvider : LLMProvider where
  name := "fake"
  modelName := "fake-model"
  modelVersion := none
  generateStructured _ := .outcome
    { value := ⟨[⟨"Prints", "Photo prints", [], by decide, photoPrints_ne⟩], by decide⟩
      latencyMs := 1
      attempts := 1
      fallbackUsed := false }

/-- One review with a text is stored, and no version. -/
def reviewedTables : TaxonomyTables where
  reviews := [⟨"stub", 5, some "Lovely prints", none, 0, 0, none, none, "en", .null, .pending⟩]
  modelRuns := []
  versions := []
  nodes := []

theorem reviewedTables_referential : reviewedTables.Referential := by
  simp [TaxonomyTables.Referential, reviewedTables]

/-- Nothing goes wrong in the handler, and at one point of the runner in the first execution. -/
def interruptedAt (point : RunnerPoint) (fate : Fate) : ChainEnv TaxonomyTables :=
  taxonomyChain
    (fun n => if n = 1 then (RunnerEnv.steady 1 2).withFate point fate else .steady n (n + 1))
    (fun _ => ⟨photoProvider, id, fun _ => .proceeds⟩) (fun _ tables => tables)

/-- `_record_success` cannot commit in the first execution, so the job is executed again and has two
versions. -/
theorem crash_stores_second_candidate :
    let trace := (interruptedAt .recordCommit (.raises ⟨"OperationalError", "connection lost"⟩)).deliveries
      7 "taxonomy_generate" (.obj []) 3 ⟨∅, reviewedTables⟩
    trace.length = 2 ∧ ¬ (candidates trace).length ≤ 1 := by
  decide

end ReviewSignal
