import ReviewSignal.Worker.Jobs.Evaluation

/-!
# Evaluation runs are recorded once

What holds at every moment of any interleaving of attempts of `evaluation_run`.

* The table: no two rows of one job, committed or not.  An INSERT goes through only where no
  committed row and no other open transaction carries the job, so it adds the first one.
* An attempt: a row it has not committed is in the table under its name, and a return means that a
  row of its job is committed (`AttemptHolds`).  Other attempts change neither: a committed row
  stays, and a transaction is its own.

**`evaluation_recorded_once`** is the result, with attempts of any number of jobs and with crashes at any
step.  Its second part is what the handler is written for: an attempt that is repeated after a commit whose
acknowledgement was lost finds the row and returns, and one that loses the race for the INSERT finds it in
its second check.

The unique constraint does the work and the first check saves the scoring.  With two workers past their
first check (`raceEvents`) both score, and the loser's `IntegrityError` is turned into a return
(`evaluation_recorded_once_race`).  An `IntegrityError` for another reason, the job having been deleted
for one, finds no row in the second check and is raised.
-/

namespace ReviewSignal

open EvaluationRunRepository

variable {ι : Type} [DecidableEq ι]

/-! ## What a step can do

The moves of an attempt, and how they change the number of rows that carry a job. -/

/-- The moves of an attempt. -/
inductive EvaluationMove (call : EvaluationCall) (i : ι) (db : EvaluationDb ι)
    (attempt : EvaluationAttempt) : EvaluationDb ι → EvaluationAttempt → Prop where
  | check (hphase : attempt.phase = .fresh) :
      EvaluationMove call i db attempt db (attempt.check call db.committed)
  | score {evaluationType : Json} (outcome : BenchmarkOutcome)
      (hphase : attempt.phase = .checked evaluationType) :
      EvaluationMove call i db attempt db (attempt.score call evaluationType outcome)
  | insert {evaluationType : String} {result : EvaluationResult}
      (hphase : attempt.phase = .scored evaluationType result) (hfree : ¬ db.Locked i call.key)
      (hnew : alreadyRecorded call.key db.committed = false) :
      EvaluationMove call i db attempt
        { db with uncommitted := (i, row result evaluationType call.key) :: db.uncommitted }
        { attempt with phase := .inserted (row result evaluationType call.key) }
  | commit {row : EvaluationRun} (hphase : attempt.phase = .inserted row) :
      EvaluationMove call i db attempt (db.commit i row) (attempt.finish (.returned ()))
  | recheck {exc : Exn} (hphase : attempt.phase = .refused exc) :
      EvaluationMove call i db attempt db { attempt with
        phase := .ended (if alreadyRecorded call.key db.committed then .returned () else .raised exc)
        rechecked := some (alreadyRecorded call.key db.committed) }
  /-- An exception in the `try` block. -/
  | caught (exc : Exn) (hphase : (∃ evaluationType result, attempt.phase =
        .scored evaluationType result) ∨ ∃ row, attempt.phase = .inserted row) :
      EvaluationMove call i db attempt (db.rollback i) (attempt.caught exc)
  /-- An exception elsewhere, or the death of the process. -/
  | stopped {ended : Ended Exn Unit} (hended : ended ≠ .returned ())
      (hphase : ∀ ended, attempt.phase ≠ .ended ended) :
      EvaluationMove call i db attempt (db.rollback i) (attempt.finish ended)

/-- The row of its open transaction. -/
def EvaluationPhase.held : EvaluationPhase → Option EvaluationRun
  | .inserted row => some row
  | _ => none

/-- The open transactions have the row of this process, and no other row of it. -/
def EvaluationDb.Owns (i : ι) (phase : EvaluationPhase) (db : EvaluationDb ι) : Prop :=
  db.uncommitted.filter (·.1 = i) = (phase.held.map (Prod.mk i)).toList

variable {call : ι → EvaluationCall} {i : ι} {step : EvaluationStep} {db db' : EvaluationDb ι}
  {attempt attempt' : EvaluationAttempt} {row : EvaluationRun} {key : JobId}

namespace EvaluationDb

/-- The rows of a job are those of one process and those of the others. -/
theorem countP_uncommitted (p : EvaluationRun → Bool) :
    db.uncommitted.countP (p ·.2) = (db.uncommitted.filter (·.1 = i)).countP (p ·.2)
      + (db.rollback i).uncommitted.countP (p ·.2) := by
  rw [rollback]
  induction db.uncommitted with
  | nil => rfl
  | cons entry entries ih =>
      by_cases hentry : entry.1 = i <;> simp [List.countP_cons, hentry, ih] <;> omega

omit [DecidableEq ι] in
theorem countP_rows (p : EvaluationRun → Bool) :
    db.rows.countP p = db.committed.countP p + db.uncommitted.countP (p ·.2) := by
  rw [rows, List.countP_append, List.countP_map]
  rfl

theorem countP_rollback_le (i : ι) (p : EvaluationRun → Bool) :
    (db.rollback i).rows.countP p ≤ db.rows.countP p := by
  have huncommitted := db.countP_uncommitted (i := i) p
  rw [countP_rows, countP_rows]
  exact Nat.add_le_add le_rfl (by omega)

/-- A commit moves the row. -/
theorem countP_commit (h : db.uncommitted.filter (·.1 = i) = [(i, row)]) (p : EvaluationRun → Bool) :
    (db.commit i row).rows.countP p = db.rows.countP p := by
  have huncommitted := db.countP_uncommitted (i := i) p
  have hcommitted : (db.commit i row).committed = db.committed ++ [row] := rfl
  have hrest : (db.commit i row).uncommitted = (db.rollback i).uncommitted := rfl
  rw [countP_rows, countP_rows, huncommitted, hcommitted, hrest, h, List.countP_append]
  simp only [List.countP_singleton]
  omega

/-- No row carries the job where an INSERT of one is carried out. -/
theorem countP_eq_zero (hown : db.uncommitted.filter (·.1 = i) = []) (hfree : ¬ db.Locked i key)
    (hnew : alreadyRecorded key db.committed = false) :
    db.rows.countP (·.jobId = some key) = 0 := by
  have hcommitted : ∀ row ∈ db.committed, row.jobId ≠ some key := by
    simpa [alreadyRecorded] using hnew
  have huncommitted : ∀ entry ∈ db.uncommitted, entry.2.jobId ≠ some key := by
    intro entry hentry hkey
    have hothers : entry.1 ≠ i := by simpa using List.filter_eq_nil_iff.mp hown entry hentry
    exact hfree ⟨entry, hentry, hothers, hkey⟩
  rw [countP_rows, Nat.add_eq_zero_iff, List.countP_eq_zero, List.countP_eq_zero]
  exact ⟨fun row hrow => by simpa using hcommitted row hrow,
    fun entry hentry => by simpa using huncommitted entry hentry⟩

end EvaluationDb

theorem evaluationRun_move (h : evaluationRun call i step db attempt = some (db', attempt')) :
    EvaluationMove (call i) i db attempt db' attempt' := by
  unfold evaluationRun at h
  split at h
  · rename_i hphase
    cases h
    exact .check hphase
  · rename_i outcome evaluationType hphase
    cases h
    exact .score outcome hphase
  · rename_i evaluationType result hphase
    split_ifs at h with hlocked
    cases hrefused : refused db (call i).key with
    | some exc =>
        simp only [hrefused, Option.some.injEq, Prod.mk.injEq] at h
        obtain ⟨rfl, rfl⟩ := h
        exact .caught exc (.inl ⟨evaluationType, result, hphase⟩)
    | none =>
        simp only [hrefused, Option.some.injEq, Prod.mk.injEq] at h
        obtain ⟨rfl, rfl⟩ := h
        refine .insert hphase hlocked ?_
        rw [refused] at hrefused
        split_ifs at hrefused with hnew
        exact Bool.eq_false_iff.mpr hnew
  · rename_i row hphase
    cases h
    exact .commit hphase
  · rename_i exc hphase
    cases h
    exact .recheck hphase
  · rename_i exc evaluationType result hphase
    cases h
    exact .caught exc (.inl ⟨evaluationType, result, hphase⟩)
  · rename_i exc row hphase
    cases h
    exact .caught exc (.inr ⟨row, hphase⟩)
  -- outside the `try` block
  all_goals cases h
  all_goals exact .stopped (by simp) (by simp [*])

/-! ## The invariant

Each of its parts has a lemma that a move keeps it: for the table, for the attempt that moves, and for the
attempts that look on. -/

/-- What an attempt remembers, phase by phase. -/
def EvaluationAttempt.Remembers (attempt : EvaluationAttempt) : Prop :=
  match attempt.phase with
  | .fresh => attempt.found = none ∧ attempt.scoredBenchmark = false ∧ attempt.refusal = none ∧
      attempt.rechecked = none
  | .checked _ => attempt.found = some false ∧ attempt.scoredBenchmark = false ∧
      attempt.refusal = none ∧ attempt.rechecked = none
  | .scored .. | .inserted _ => attempt.found = some false ∧ attempt.refusal = none ∧
      attempt.rechecked = none
  | .refused exc => attempt.found = some false ∧ attempt.refusal = some exc ∧
      attempt.rechecked = none
  | .ended ended =>
      (attempt.found = some true → attempt.scoredBenchmark = false) ∧
      ∀ exc, attempt.refusal = some exc →
        (ended ≠ .returned () ∧ attempt.rechecked = none) ∨
        ∃ found, attempt.rechecked = some found ∧ ended = if found then .returned () else .raised exc

/-- What holds of an attempt. -/
structure AttemptHolds (call : EvaluationCall) (i : ι) (db : EvaluationDb ι)
    (attempt : EvaluationAttempt) : Prop where
  owns : db.Owns i attempt.phase
  /-- The row it inserted is one of its job. -/
  row : ∀ row, attempt.phase = .inserted row → row.jobId = some call.key
  returned : attempt.phase = .ended (.returned ()) → alreadyRecorded call.key db.committed = true
  remembers : attempt.Remembers

/-- The table has at most one row of every job. -/
def OneRowPerJob (db : EvaluationDb ι) : Prop :=
  ∀ key, db.rows.countP (·.jobId = some key) ≤ 1

/-- What a process tolerates: its own transaction and the committed rows stay. -/
structure EvaluationDb.Keeps (j : ι) (db db' : EvaluationDb ι) : Prop where
  uncommitted : db'.uncommitted.filter (·.1 = j) = db.uncommitted.filter (·.1 = j)
  recorded : ∀ key, alreadyRecorded key db.committed = true → alreadyRecorded key db'.committed = true

namespace EvaluationDb

variable {j : ι}

theorem filter_rollback_self (i : ι) (db : EvaluationDb ι) :
    (db.rollback i).uncommitted.filter (·.1 = i) = [] := by
  simp [rollback]

theorem filter_rollback_of_ne (hj : j ≠ i) (db : EvaluationDb ι) :
    (db.rollback i).uncommitted.filter (·.1 = j) = db.uncommitted.filter (·.1 = j) := by
  rw [rollback, List.filter_filter]
  refine List.filter_congr fun entry _ => ?_
  by_cases hentry : entry.1 = j <;> simp [hentry, hj]

theorem keeps_refl (j : ι) (db : EvaluationDb ι) : db.Keeps j db := ⟨rfl, fun _ h => h⟩

theorem keeps_rollback (hj : j ≠ i) (db : EvaluationDb ι) : db.Keeps j (db.rollback i) :=
  ⟨filter_rollback_of_ne hj db, fun _ h => h⟩

theorem keeps_commit (hj : j ≠ i) (row : EvaluationRun) (db : EvaluationDb ι) :
    db.Keeps j (db.commit i row) := by
  refine ⟨filter_rollback_of_ne hj db, fun key h => ?_⟩
  simp only [alreadyRecorded, commit, List.any_append, Bool.or_eq_true]
  exact .inl h

end EvaluationDb

theorem AttemptHolds.stable {call : EvaluationCall} (h : db.Keeps i db')
    (hattempt : AttemptHolds call i db attempt) : AttemptHolds call i db' attempt :=
  { hattempt with
    owns := h.uncommitted.trans hattempt.owns
    returned := fun hphase => h.recorded _ (hattempt.returned hphase) }

/-- **What an attempt does to the others.** -/
theorem EvaluationMove.keeps {call : EvaluationCall} {j : ι} (hj : j ≠ i)
    (h : EvaluationMove call i db attempt db' attempt') : db.Keeps j db' := by
  cases h with
  | check => exact db.keeps_refl j
  | score => exact db.keeps_refl j
  | recheck => exact db.keeps_refl j
  | commit => exact db.keeps_commit hj _
  | caught => exact db.keeps_rollback hj
  | stopped => exact db.keeps_rollback hj
  | insert =>
      refine ⟨?_, fun _ h => h⟩
      rw [List.filter_cons_of_neg (by simpa using hj.symm)]

/-- **What an attempt does to the table.** -/
theorem EvaluationMove.oneRowPerJob {call : EvaluationCall} (hattempt : AttemptHolds call i db attempt)
    (hone : OneRowPerJob db) (h : EvaluationMove call i db attempt db' attempt') :
    OneRowPerJob db' := by
  intro key
  have hkey := hone key
  have howns := hattempt.owns
  cases h with
  | check => exact hkey
  | score => exact hkey
  | recheck => exact hkey
  | caught => exact (db.countP_rollback_le i _).trans hkey
  | stopped => exact (db.countP_rollback_le i _).trans hkey
  | commit hphase =>
      rw [hphase] at howns
      rwa [db.countP_commit howns]
  | insert hphase hfree hnew =>
      rw [hphase] at howns
      have hzero := EvaluationDb.countP_eq_zero howns hfree hnew
      rw [EvaluationDb.countP_rows] at hkey hzero ⊢
      rw [List.countP_cons]
      by_cases hsame : call.key = key
      · subst hsame
        rw [if_pos (by simp [row]), ← Nat.add_assoc, hzero]
      · simpa [row, hsame] using hkey

namespace EvaluationAttempt

/-- An attempt that gives up has not checked again. -/
theorem remembers_stopped {ended : Ended Exn Unit} (hended : ended ≠ .returned ())
    (hphase : ∀ ended, attempt.phase ≠ .ended ended) (h : attempt.Remembers) :
    (attempt.finish ended).Remembers := by
  unfold Remembers at h
  split at h
  all_goals simp_all [finish, Remembers]

theorem remembers_caught (exc : Exn) (hphase : (∃ evaluationType result, attempt.phase =
      .scored evaluationType result) ∨ ∃ row, attempt.phase = .inserted row)
    (h : attempt.Remembers) : (attempt.caught exc).Remembers := by
  have hopen : attempt.found = some false ∧ attempt.refusal = none ∧ attempt.rechecked = none := by
    rcases hphase with ⟨evaluationType, result, hphase⟩ | ⟨row, hphase⟩
    · simpa only [Remembers, hphase] using h
    · simpa only [Remembers, hphase] using h
  rw [caught]
  split_ifs
  · simp [Remembers, hopen]
  · simp [Remembers, finish, hopen]

theorem remembers_check (call : EvaluationCall) (committed : List EvaluationRun)
    (hphase : attempt.phase = .fresh) (h : attempt.Remembers) :
    (attempt.check call committed).Remembers := by
  simp only [Remembers, hphase] at h
  rw [check]
  split
  · simp [Remembers, finish, h]
  · split_ifs <;> simp [Remembers, h]

theorem remembers_score (call : EvaluationCall) {evaluationType : Json} (outcome : BenchmarkOutcome)
    (hphase : attempt.phase = .checked evaluationType) (h : attempt.Remembers) :
    (attempt.score call evaluationType outcome).Remembers := by
  simp only [Remembers, hphase] at h
  rw [score]
  split
  · simp [Remembers, finish, h]
  · simp [Remembers, finish, h]
  · split_ifs
    · simp [Remembers, finish, h]
    · cases outcome <;> simp [Remembers, finish, h]

theorem Remembers.not_scored (h : attempt.Remembers) (hfound : attempt.found = some true) :
    attempt.scoredBenchmark = false := by
  unfold Remembers at h
  split at h
  case h_6 => exact h.1 hfound
  all_goals simp [hfound] at h

theorem Remembers.refused (h : attempt.Remembers) (exc : Exn) (hrefusal : attempt.refusal = some exc) :
    (attempt.phase = .ended (.returned ()) ↔ attempt.rechecked = some true) ∧
    (attempt.rechecked = some false → attempt.phase = .ended (.raised exc)) := by
  unfold Remembers at h
  split at h
  case h_6 ended hphase =>
    rw [hphase]
    obtain ⟨hended, hrechecked⟩ | ⟨found, hrechecked, rfl⟩ := h.2 exc hrefusal
    · simp [hended, hrechecked]
    · cases found <;> simp [hrechecked]
  all_goals simp_all

end EvaluationAttempt

/-- An attempt without an open transaction. -/
theorem AttemptHolds.idle {call : EvaluationCall} (howns : db.uncommitted.filter (·.1 = i) = [])
    (hheld : attempt.phase.held = none)
    (hreturned : attempt.phase = .ended (.returned ()) →
      alreadyRecorded call.key db.committed = true)
    (hremembers : attempt.Remembers) : AttemptHolds call i db attempt where
  owns := by rw [EvaluationDb.Owns, howns, hheld]; rfl
  row := by
    intro row hphase
    rw [hphase] at hheld
    cases hheld
  returned := hreturned
  remembers := hremembers

/-- **What an attempt does to itself.** -/
theorem EvaluationMove.holds {call : EvaluationCall} (hattempt : AttemptHolds call i db attempt)
    (h : EvaluationMove call i db attempt db' attempt') : AttemptHolds call i db' attempt' := by
  have howns := hattempt.owns
  have hremembers := hattempt.remembers
  cases h with
  | check hphase =>
      rw [hphase] at howns
      refine .idle howns ?_ ?_ (attempt.remembers_check call _ hphase hremembers)
      · rw [EvaluationAttempt.check]
        split
        · rfl
        · split_ifs <;> rfl
      · rw [EvaluationAttempt.check]
        split
        · simp [EvaluationAttempt.finish]
        · split_ifs with hrecorded
          · exact fun _ => hrecorded
          · simp
  | score outcome hphase =>
      rename_i evaluationType
      rw [hphase] at howns
      have hopen : (attempt.score call evaluationType outcome).phase.held = none ∧
          (attempt.score call evaluationType outcome).phase ≠ .ended (.returned ()) := by
        rw [EvaluationAttempt.score]
        split
        · exact ⟨rfl, by simp [EvaluationAttempt.finish]⟩
        · exact ⟨rfl, by simp [EvaluationAttempt.finish]⟩
        · split_ifs
          · exact ⟨rfl, by simp [EvaluationAttempt.finish]⟩
          · cases outcome <;> exact ⟨rfl, by simp [EvaluationAttempt.finish]⟩
      exact .idle howns hopen.1 (fun h => absurd h hopen.2)
        (attempt.remembers_score call outcome hphase hremembers)
  | insert hphase hfree hnew =>
      rw [hphase] at howns
      refine ⟨?_, ?_, by simp, ?_⟩
      · rw [EvaluationDb.Owns, List.filter_cons_of_pos (by simp), howns]
        rfl
      · rintro _ ⟨⟩
        rfl
      · simpa only [EvaluationAttempt.Remembers, hphase] using hremembers
  | commit hphase =>
      refine .idle (db.filter_rollback_self i) rfl (fun _ => ?_) ?_
      · simp [EvaluationDb.commit, alreadyRecorded, hattempt.row _ hphase]
      · simp only [EvaluationAttempt.Remembers, hphase] at hremembers
        simp [EvaluationAttempt.Remembers, EvaluationAttempt.finish, hremembers]
  | recheck hphase =>
      rw [hphase] at howns
      refine .idle howns rfl ?_ ?_
      · intro hreturned
        by_contra hrecorded
        simp [hrecorded] at hreturned
      · simp only [EvaluationAttempt.Remembers, hphase] at hremembers
        simp [EvaluationAttempt.Remembers, hremembers]
  | caught exc hphase =>
      refine .idle (db.filter_rollback_self i) ?_ ?_ (attempt.remembers_caught exc hphase hremembers)
      · rw [EvaluationAttempt.caught]
        split_ifs <;> rfl
      · rw [EvaluationAttempt.caught]
        split_ifs <;> simp [EvaluationAttempt.finish]
  | stopped hended hphase =>
      refine .idle (db.filter_rollback_self i) rfl ?_
        (attempt.remembers_stopped hended hphase hremembers)
      simp [EvaluationAttempt.finish, hended]

/-! ## Runs

From any committed rows of which no two carry one job. -/

/-- Some rows are committed, and no attempt has begun. -/
def evaluationStart (jobs : Finset JobId) (committed : List EvaluationRun) :
    Pool ι (EvaluationDb ι) EvaluationAttempt :=
  ⟨⟨jobs, committed, []⟩, fun _ => .start⟩

/-- **Evaluation runs are recorded exactly once.**  At every moment of every interleaving: no two rows
carry one job; an attempt that returned has a committed row of its job; one that found the row at its
first check has not called `run_evaluation`; and one whose INSERT was refused returned only if its
second check found the row, and raised the `IntegrityError` if that check did not. -/
theorem evaluation_recorded_once (call : ι → EvaluationCall) (jobs : Finset JobId)
    {committed : List EvaluationRun}
    (hunique : ∀ key, committed.countP (·.jobId = some key) ≤ 1)
    {events : List (ι × EvaluationStep)} {s : Pool ι (EvaluationDb ι) EvaluationAttempt}
    (h : exec (Pool.step (evaluationRun call)) (evaluationStart jobs committed) events = some s) :
    (∀ key, s.shared.rows.countP (·.jobId = some key) ≤ 1) ∧
    ∀ i,
      ((s.proc i).phase = .ended (.returned ()) →
        ∃ row ∈ s.shared.committed, row.jobId = some (call i).key) ∧
      ((s.proc i).found = some true → (s.proc i).scoredBenchmark = false) ∧
      (∀ exc, (s.proc i).refusal = some exc →
        ((s.proc i).phase = .ended (.returned ()) ↔ (s.proc i).rechecked = some true) ∧
        ((s.proc i).rechecked = some false → (s.proc i).phase = .ended (.raised exc))) := by
  have hholds : s.Holds OneRowPerJob fun i => AttemptHolds (call i) i := by
    refine Pool.exec_holds EvaluationDb.Keeps (fun j db db' attempt hkeeps hattempt =>
      hattempt.stable hkeeps) ?_ ?_ h
    · intro i step db attempt db' attempt' hone hattempt hstep
      have hmove := evaluationRun_move hstep
      exact ⟨hmove.oneRowPerJob hattempt hone, hmove.holds hattempt, fun j hj => hmove.keeps hj⟩
    · refine ⟨fun key => ?_, fun i => .idle rfl rfl (by simp [evaluationStart, EvaluationAttempt.start])
        ⟨rfl, rfl, rfl, rfl⟩⟩
      simpa [evaluationStart, EvaluationDb.rows] using hunique key
  refine ⟨hholds.shared, fun i => ?_⟩
  have hattempt := hholds.proc i
  refine ⟨fun hreturned => ?_, hattempt.remembers.not_scored, hattempt.remembers.refused⟩
  simpa [alreadyRecorded] using hattempt.returned hreturned

/-! ## Two workers on one job

The race the unique constraint decides. -/

def raceCall (_ : Fin 2) : EvaluationCall where
  payload := .obj [("evaluation_type", .str "classification")]
  key := 7
  predictors := ["classification"]
  benchmarkPath := "benchmark.json"
  repr _ := "'classification'"

def raceResult : EvaluationResult :=
  ⟨"v0-test", some "taxonomy-test", "stub-classifier", none, none, .obj []⟩

/-- Both workers pass the check and score, and the second one loses the race for the INSERT. -/
def raceEvents {ι : Type} (i j : ι) : List (ι × EvaluationStep) :=
  [(i, .check), (j, .check), (i, .score (.result raceResult)), (j, .score (.result raceResult)),
    (i, .insert), (i, .commit), (j, .insert), (j, .recheck)]

theorem evaluation_recorded_once_race : ∃ s,
    exec (Pool.step (evaluationRun raceCall)) (evaluationStart {7} []) (raceEvents 0 1) = some s ∧
    (s.proc 1).rechecked = some true ∧
    (∀ key, s.shared.rows.countP (·.jobId = some key) ≤ 1) ∧
    ∃ row ∈ s.shared.committed, row.jobId = some 7 := by
  refine ⟨_, rfl, rfl, ?_⟩
  have hempty : ∀ key, ([] : List EvaluationRun).countP (·.jobId = some key) ≤ 1 :=
    fun _ => Nat.zero_le 1
  have hrun : exec (Pool.step (evaluationRun raceCall)) (evaluationStart {7} []) (raceEvents 0 1)
      = some _ := rfl
  obtain ⟨hone, hattempts⟩ := evaluation_recorded_once raceCall {7} hempty hrun
  exact ⟨hone, (hattempts 1).1 rfl⟩

end ReviewSignal
