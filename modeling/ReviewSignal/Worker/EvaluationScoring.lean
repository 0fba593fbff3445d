import ReviewSignal.Ai.Evaluation.BenchmarkFiles
import ReviewSignal.Ai.Evaluation.MetricsPayload
import ReviewSignal.Worker.RecordedOnce

/-!
# From the labels to the history

`evaluation_run` with the scoring it does: an attempt reads the benchmark file, and scores what its process
has registered for the evaluation type.  Files may change between any two attempts, and processes may run with
other code.

**`recorded_scores`**: whatever the attempts do to each other, a row of the history was there before or has
the scores of a registered predictor on all the labels a file stated, and every prediction that was scored
is valid.  It joins two results: the interleavings are those of `RecordedOnce`, and what a score is comes
from the runner (`run_evaluation` raises on an invalid prediction, so no such score exists) and the loader,
which reads every row of a file or raises.

An attempt reads its file once, after its first check.  Between that and the commit the file may change, so
the statement is about the reading and not about the file as it is later.
-/

namespace ReviewSignal

/-- `EvaluationResult`, with the body that is stored. -/
def EvaluationScores.result (scores : EvaluationScores) : EvaluationResult where
  datasetVersion := scores.datasetVersion
  taxonomyVersion := scores.taxonomyVersion
  modelName := scores.modelName
  modelVersion := scores.modelVersion
  promptVersion := scores.promptVersion
  metricsPayload := scores.metricsPayload

/-- What an attempt runs with: its job, and of its process `PREDICTORS`, the configured path and the `repr`s
of messages. -/
structure EvaluationWorker where
  payload : Json
  key : JobId
  registry : List (String × Predictor)
  benchmarkPath : String
  repr : Python.Repr
  reprJson : Json → String

inductive EvaluationEvent where
  | check
  /-- The file is read as it is now. -/
  | score (reading : BenchmarkReading)
  | insert
  | commit
  | recheck
  | raise (exc : Exn)
  | die

namespace EvaluationWorker

def call (worker : EvaluationWorker) : EvaluationCall :=
  ⟨worker.payload, worker.key, worker.registry.map (·.1), worker.benchmarkPath, worker.reprJson⟩

/-- `run_evaluation(load_benchmark(Path(path)), predictor)` -/
def scored (worker : EvaluationWorker) (reading : BenchmarkReading) (predictor : Predictor) :
    BenchmarkOutcome :=
  match loadBenchmark reading worker.benchmarkPath with
  | .error exc => .unreadable exc
  | .ok benchmark =>
      match runEvaluation worker.repr benchmark.toBenchmarkDataset predictor with
      | .error exc => .fails exc
      | .ok scores => .result scores.result

/-- The outcome for what has been checked.  Without a predictor nothing is read, and nothing looks at the
outcome. -/
def outcome (worker : EvaluationWorker) (reading : BenchmarkReading) : EvaluationPhase → BenchmarkOutcome
  | .checked (.str evaluationType) =>
      match Python.get worker.registry evaluationType with
      | some predictor => worker.scored reading predictor
      | none => .unreadable ⟨"", ""⟩
  | _ => .unreadable ⟨"", ""⟩

/-- The step of an attempt in a phase. -/
def step (worker : EvaluationWorker) (phase : EvaluationPhase) : EvaluationEvent → EvaluationStep
  | .check => .check
  | .score reading => .score (worker.outcome reading phase)
  | .insert => .insert
  | .commit => .commit
  | .recheck => .recheck
  | .raise exc => .raise exc
  | .die => .die

end EvaluationWorker

variable {ι : Type} [DecidableEq ι]

/-- One event of one attempt. -/
def evaluate (worker : ι → EvaluationWorker) (i : ι) (event : EvaluationEvent) (db : EvaluationDb ι)
    (attempt : EvaluationAttempt) : Option (EvaluationDb ι × EvaluationAttempt) :=
  evaluationRun (fun i => (worker i).call) i ((worker i).step attempt.phase event) db attempt

/-- The result is the score of a predictor, registered for the type the job asks for, on all the labels that
the configured file stated when it was read. -/
def EvaluationWorker.Scores (worker : EvaluationWorker) (evaluationType : String)
    (result : EvaluationResult) : Prop :=
  ∃ (predictor : Predictor) (reading : BenchmarkReading) (text : String) (json : Json)
      (benchmark : LabeledBenchmark),
    worker.payload.get? "evaluation_type" = some (.str evaluationType) ∧
    Python.get worker.registry evaluationType = some predictor ∧
    reading.readText worker.benchmarkPath = .ok text ∧ reading.parse text = some json ∧
    benchmark.StatedBy reading.date json ∧
    (∀ item ∈ benchmark.items, ValidPrediction (predictor.predict item)) ∧
    result = (EvaluationScores.of benchmark.toBenchmarkDataset predictor).result

/-- The row has such a result. -/
def EvaluationWorker.Records (worker : EvaluationWorker) (row : EvaluationRun) : Prop :=
  ∃ evaluationType result, worker.Scores evaluationType result ∧
    row = EvaluationRunRepository.row result evaluationType worker.key

variable {worker : EvaluationWorker} {attempt attempt' : EvaluationAttempt} {i : ι}
  {call : ι → EvaluationCall} {db db' : EvaluationDb ι} {result : EvaluationResult}

/-! ## Phases

The events of this module are those of the job, with the outcome of the scoring computed. -/

theorem EvaluationAttempt.phase_check (call : EvaluationCall) (committed : List EvaluationRun) :
    (∃ ended, (attempt.check call committed).phase = .ended ended) ∨
      ∃ evaluationType, call.payload.get? "evaluation_type" = some evaluationType ∧
        (attempt.check call committed).phase = .checked evaluationType := by
  rw [check]
  split
  · exact .inl ⟨_, rfl⟩
  · rename_i evaluationType hpayload
    split_ifs
    · exact .inl ⟨_, rfl⟩
    · exact .inr ⟨evaluationType, hpayload, rfl⟩

theorem EvaluationAttempt.phase_score (call : EvaluationCall) (asked : Json) (outcome : BenchmarkOutcome) :
    (∃ ended, (attempt.score call asked outcome).phase = .ended ended) ∨
      ∃ evaluationType result, asked = .str evaluationType ∧ outcome = .result result ∧
        (attempt.score call asked outcome).phase = .scored evaluationType result := by
  rw [score]
  split
  · exact .inl ⟨_, rfl⟩
  · exact .inl ⟨_, rfl⟩
  · rename_i evaluationType hpredictor
    have hasked : asked = .str evaluationType := by
      cases asked <;> simp_all [getPredictor]
    split_ifs
    · exact .inl ⟨_, rfl⟩
    · cases outcome with
      | unreadable exc => exact .inl ⟨_, rfl⟩
      | fails exc => exact .inl ⟨_, rfl⟩
      | result result => exact .inr ⟨evaluationType, result, hasked, rfl, rfl⟩

theorem EvaluationAttempt.phase_caught (exc : Exn) :
    (∃ ended, (attempt.caught exc).phase = .ended ended) ∨ (attempt.caught exc).phase = .refused exc := by
  rw [caught]
  split_ifs
  · exact .inr rfl
  · exact .inl ⟨_, rfl⟩

/-- Only scoring leaves an attempt with a result. -/
theorem evaluationRun_scored {step : EvaluationStep} {evaluationType : String}
    (h : evaluationRun call i step db attempt = some (db', attempt'))
    (hphase : attempt'.phase = .scored evaluationType result) :
    ∃ outcome asked, step = .score outcome ∧ attempt.phase = .checked asked ∧
      attempt' = attempt.score (call i) asked outcome := by
  have hcaught (exc : Exn) (heq : attempt.caught exc = attempt') : False := by
    subst heq
    rcases attempt.phase_caught exc with ⟨ended, hended⟩ | hrefused <;> simp_all
  unfold evaluationRun at h
  split at h
  · cases h
    rcases attempt.phase_check (call i) db.committed with ⟨ended, hended⟩ | ⟨asked, -, hchecked⟩ <;> simp_all
  · rename_i outcome asked hasked
    cases h
    exact ⟨outcome, asked, rfl, hasked, rfl⟩
  · split_ifs at h
    split at h
    · cases h
      exact (hcaught _ rfl).elim
    · cases h
      cases hphase
  · cases h
    cases hphase
  · cases h
    cases hphase
  · cases h
    exact (hcaught _ rfl).elim
  · cases h
    exact (hcaught _ rfl).elim
  -- an exception outside the `try` block, or the death of the process
  all_goals cases h
  all_goals cases hphase

/-! ## What an attempt holds

What an attempt has checked, scored or inserted, it keeps until the commit; other attempts change the
tables only. -/

/-- What it has checked is what its job asks for, and what it has scored or inserted is a score. -/
structure EvaluationWorker.Holds (worker : EvaluationWorker) (attempt : EvaluationAttempt) : Prop where
  checked : ∀ asked, attempt.phase = .checked asked → worker.payload.get? "evaluation_type" = some asked
  scored : ∀ evaluationType result, attempt.phase = .scored evaluationType result →
    worker.Scores evaluationType result
  inserted : ∀ row, attempt.phase = .inserted row → worker.Records row

/-- An attempt that neither has checked, scored nor inserted anything. -/
theorem EvaluationWorker.Holds.idle (hended : (∃ ended, attempt.phase = .ended ended) ∨
    (∃ exc, attempt.phase = .refused exc) ∨ attempt.phase = .fresh) : worker.Holds attempt := by
  rcases hended with ⟨ended, h⟩ | ⟨exc, h⟩ | h <;> exact ⟨by simp [h], by simp [h], by simp [h]⟩

/-- **A scored result is a score.** -/
theorem EvaluationWorker.scores_of_outcome {reading : BenchmarkReading} {evaluationType : String}
    (hasked : worker.payload.get? "evaluation_type" = some (.str evaluationType))
    (h : worker.outcome reading (.checked (.str evaluationType)) = .result result) :
    worker.Scores evaluationType result := by
  rw [outcome] at h
  split at h
  · rename_i predictor hpredictor
    rw [scored] at h
    split at h
    · cases h
    · rename_i benchmark hloaded
      split at h
      · cases h
      · rename_i scores hscores
        have hvalid := valid_of_runEvaluation hscores
        rw [runEvaluation_eq worker.repr hvalid] at hscores
        cases hscores
        cases h
        obtain ⟨text, json, hread, hparsed, hstated⟩ := loadBenchmark_eq_ok_iff.mp hloaded
        exact ⟨predictor, reading, text, json, benchmark, hasked, hpredictor, hread, hparsed, hstated, hvalid,
          rfl⟩
  · cases h

/-- **What an event leaves of an attempt.** -/
theorem EvaluationWorker.Holds.evaluate {worker : ι → EvaluationWorker} {event : EvaluationEvent}
    (hattempt : (worker i).Holds attempt)
    (h : evaluate worker i event db attempt = some (db', attempt')) : (worker i).Holds attempt' := by
  have hmove := evaluationRun_move h
  have hscored (evaluationType : String) (result : EvaluationResult)
      (hphase : attempt'.phase = .scored evaluationType result) :
      (worker i).Scores evaluationType result := by
    obtain ⟨outcome, asked, hstep, hchecked, rfl⟩ := evaluationRun_scored h hphase
    rcases attempt.phase_score (worker i).call asked outcome with ⟨ended, hended⟩ | ⟨_, _, rfl, rfl, hscored⟩
    · rw [hended] at hphase
      cases hphase
    · rw [hscored] at hphase
      cases hphase
      cases event with
      | score reading =>
          rw [hchecked] at hstep
          exact scores_of_outcome (hattempt.checked _ hchecked) (EvaluationStep.score.inj hstep)
      | _ => cases hstep
  cases hmove with
  | check =>
      refine ⟨?_, hscored, ?_⟩
      all_goals
        rcases attempt.phase_check (worker i).call db.committed with
          ⟨ended, hended⟩ | ⟨asked, hasked, hchecked⟩
      · simp [hended]
      · simp [hchecked, show (worker i).payload.get? "evaluation_type" = some asked from hasked]
      · simp [hended]
      · simp [hchecked]
  | score outcome hphase =>
      rename_i asked
      refine ⟨?_, hscored, ?_⟩
      all_goals
        rcases attempt.phase_score (worker i).call asked outcome with
          ⟨ended, hended⟩ | ⟨_, _, -, -, hresult⟩ <;> simp [*]
  | insert hphase =>
      refine ⟨by simp, by simp, ?_⟩
      rintro _ ⟨⟩
      exact ⟨_, _, hattempt.scored _ _ hphase, rfl⟩
  | commit => exact .idle (.inl ⟨_, rfl⟩)
  | recheck => exact .idle (.inl ⟨_, rfl⟩)
  | caught exc =>
      rcases attempt.phase_caught exc with hended | hrefused
      · exact .idle (.inl hended)
      · exact .idle (.inr (.inl ⟨exc, hrefused⟩))
  | stopped => exact .idle (.inl ⟨_, rfl⟩)

/-- **The history holds scores**: every row that is committed was there before, or is the score of an attempt
on all the labels a file stated. -/
theorem recorded_scores (worker : ι → EvaluationWorker) (jobs : Finset JobId) (committed : List EvaluationRun)
    {events : List (ι × EvaluationEvent)} {s : Pool ι (EvaluationDb ι) EvaluationAttempt}
    (h : exec (Pool.step (evaluate worker)) (evaluationStart jobs committed) events = some s) :
    ∀ row ∈ s.shared.committed, row ∈ committed ∨ ∃ i, (worker i).Records row := by
  have hholds : s.Holds (fun db => ∀ row ∈ db.committed, row ∈ committed ∨ ∃ i, (worker i).Records row)
      fun i _ => (worker i).Holds := by
    refine Pool.exec_holds (fun _ _ _ => True) (fun _ _ _ _ _ hattempt => hattempt) ?_ ?_ h
    · intro i event db attempt db' attempt' hrows hattempt hstep
      refine ⟨?_, hattempt.evaluate hstep, fun _ _ => trivial⟩
      cases evaluationRun_move hstep with
      | commit hphase =>
          intro row hrow
          rcases List.mem_append.mp hrow with hold | hnew
          · exact hrows row hold
          · rw [List.mem_singleton.mp hnew]
            exact .inr ⟨i, hattempt.inserted _ hphase⟩
      | _ => exact hrows
    · exact ⟨fun row hrow => .inl hrow, fun i => .idle (.inr (.inr rfl))⟩
  exact hholds.shared

/-! ## One label

The smallest benchmark, scored by both of two attempts and recorded by one. -/

/-- A file with one review and one label. -/
def oneLabel : Json :=
  .obj [("dataset_version", .str "v0-test"), ("labeled_at", .str "2026-07-01"), ("labeler", .str "operator"),
    ("items", .arr [.obj [("review_id", .str "1"), ("text", .str "Slow."),
      ("aspects", .arr [.obj [("category_id", .str "wait-time"), ("sentiment", .str "negative")]])]])]

def oneLabelReading : BenchmarkReading where
  readText _ := .ok ""
  parse _ := some oneLabel
  date _ := some 20635
  message _ := ""

/-- It finds the label. -/
def waitTimePredictor : Predictor where
  name := "stub-classifier"
  version := none
  promptVersion := none
  predict _ := [⟨"wait-time", "negative", 1 / 2⟩]

def oneLabelWorker (_ : Fin 2) : EvaluationWorker where
  payload := .obj [("evaluation_type", .str "classification")]
  key := 7
  registry := [("classification", waitTimePredictor)]
  benchmarkPath := "benchmark.json"
  repr := ⟨id, fun _ => ""⟩
  reprJson _ := ""

/-- Both attempts score, and one of them records. -/
def oneLabelEvents {ι : Type} (i j : ι) : List (ι × EvaluationEvent) :=
  [(i, .check), (j, .check), (i, .score oneLabelReading), (j, .score oneLabelReading), (i, .insert),
    (i, .commit), (j, .insert), (j, .recheck)]

theorem recorded_oneLabel : (exec (Pool.step (evaluate oneLabelWorker)) (evaluationStart {7} [])
    (oneLabelEvents 0 1)).map (·.shared.committed.length) = some 1 := by
  decide +kernel

theorem recorded_scores_oneLabel : ∃ s,
    exec (Pool.step (evaluate oneLabelWorker)) (evaluationStart {7} []) (oneLabelEvents 0 1) = some s ∧
    s.shared.committed.length = 1 ∧
    ∀ row ∈ s.shared.committed, row ∈ [] ∨ ∃ i, (oneLabelWorker i).Records row := by
  obtain ⟨s, hrun, hlength⟩ := Option.map_eq_some_iff.mp recorded_oneLabel
  exact ⟨s, hrun, hlength, recorded_scores oneLabelWorker {7} [] hrun⟩

end ReviewSignal
