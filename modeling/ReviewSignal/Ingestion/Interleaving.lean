import ReviewSignal.Foundations.Transition
import ReviewSignal.Repositories.ReviewStatements
import ReviewSignal.Services.IngestionWalk
import Mathlib.Data.Fintype.Defs

/-!
# Interleaved ingestion runs

Several runs over one `reviews` table, each in its own session, taking turns at every step of an
upsert: read the row, decide, write the changed columns, and commit at the end of the page.  A run
is given by the reviews it upserts, page by page.

**The database.**  PostgreSQL is at READ COMMITTED.  A read sees the committed rows and the run's own writes.
A write waits for the row lock of another run that wrote the same row and has not committed, and is then
carried out on the row as it is by that time; an INSERT of a row that exists by then violates the
unique constraint.  Locks are held until the commit.  A run may fail at any step, which rolls its
open page back.

**The link with the service** (`ingest_alone`): a run whose steps nothing comes between leaves what
`ingest` leaves.  Without it a statement about interleavings would be one about another program.

What the pages are does not depend on the others, because the listing is read over the network and not from
the table; so the pages are given, and the watermark, the run's own rows in `sync_runs` and the counters are
left out.
-/

namespace ReviewSignal

open ReviewRepository

/-- Where a run is in the upsert of a review. -/
inductive Phase where
  | ready
  | read (review : NormalizedReview) (row : Option Review)
  | decided (review : NormalizedReview) (statement : Statement)

/-- A run: the reviews of its committed pages, those its open transaction upserted, latest first, with
the row version each wrote, and the reviews to come, page by page. -/
structure RunProcess where
  committed : List NormalizedReview
  written : List (NormalizedReview × Option Review)
  phase : Phase
  pages : List (List NormalizedReview)
  failed : Bool

namespace RunProcess

/-- A run that has read nothing yet. -/
def start (pages : List (List NormalizedReview)) : RunProcess := ⟨[], [], .ready, pages, false⟩

/-- The open page is rolled back and the run is over. -/
def fail (run : RunProcess) : RunProcess :=
  { run with written := [], phase := .ready, pages := [], failed := true }

/-- The open transaction wrote the row. -/
def locked (run : RunProcess) (id : String) : Bool :=
  run.written.any fun entry => entry.1.sourceReviewId = id ∧ entry.2.isSome

/-- All pages are committed. -/
structure Succeeded (run : RunProcess) : Prop where
  written : run.written = []
  phase : run.phase = .ready
  pages : run.pages = []
  failed : run.failed = false

/-- The review of the open upsert. -/
def current (run : RunProcess) : List NormalizedReview :=
  match run.phase with
  | .ready => []
  | .read review _ => [review]
  | .decided review _ => [review]

/-- Read, and not committed. -/
def inflight (run : RunProcess) : List NormalizedReview := run.current ++ run.written.map (·.1)

/-- Not read yet. -/
def unread (run : RunProcess) : List NormalizedReview := run.pages.flatten

/-- The review it reads next, in the open page. -/
def next (run : RunProcess) : Option NormalizedReview :=
  match run.pages with
  | (review :: _) :: _ => some review
  | _ => none

/-- Every review of a run that has not failed. -/
def all (run : RunProcess) : List NormalizedReview := run.committed ++ run.inflight ++ run.unread

end RunProcess

/-- The table with the row versions of a transaction. -/
def publish (written : List (NormalizedReview × Option Review)) (table : ReviewTable) : ReviewTable :=
  written.foldr (fun entry table =>
    match entry.2 with
    | none => table
    | some row => table.insert entry.1.sourceReviewId row) table

/-- The committed table, and the runs over it. -/
structure Interleaving (ι : Type) where
  source : String
  table : ReviewTable
  run : ι → RunProcess

inductive RunEvent (ι : Type) where
  | read (i : ι)
  | decide (i : ι)
  | write (i : ι)
  | commit (i : ι)
  | abort (i : ι)

namespace Interleaving

variable {ι : Type} [DecidableEq ι]

/-- Nothing has been read yet. -/
def start (source : String) (table : ReviewTable) (pages : ι → List (List NormalizedReview)) :
    Interleaving ι :=
  ⟨source, table, fun i => .start (pages i)⟩

def setRun (i : ι) (run : RunProcess) (s : Interleaving ι) : Interleaving ι :=
  { s with run := Function.update s.run i run }

/-- The row a run sees. -/
def visible (s : Interleaving ι) (i : ι) (id : String) : Option Review :=
  (publish (s.run i).written s.table).lookup id

/-- One step of one run. -/
def step [Fintype ι] (s : Interleaving ι) : RunEvent ι → Option (Interleaving ι)
  | .read i =>
      match (s.run i).phase, (s.run i).pages with
      | .ready, (review :: page) :: pages =>
          some (s.setRun i { s.run i with
            phase := .read review (s.visible i review.sourceReviewId), pages := page :: pages })
      | _, _ => none
  | .decide i =>
      match (s.run i).phase with
      | .read review row =>
          match statement s.source review row with
          | none => some (s.setRun i { s.run i with
              phase := .ready, written := (review, none) :: (s.run i).written })
          | some decision => some (s.setRun i { s.run i with phase := .decided review decision })
      | _ => none
  | .write i =>
      match (s.run i).phase with
      | .decided review decision =>
          -- the row lock of another run
          if ∃ j, j ≠ i ∧ (s.run j).locked review.sourceReviewId = true then none
          else
            match decision, s.visible i review.sourceReviewId with
            | .insert _, some _ => some (s.setRun i (s.run i).fail)  -- unique constraint
            | decision, stored =>
                match effect (some decision) stored with
                | none => some (s.setRun i (s.run i).fail)  -- no row to update
                | some row => some (s.setRun i { s.run i with
                    phase := .ready, written := (review, some row) :: (s.run i).written })
      | _ => none
  | .commit i =>
      match (s.run i).phase, (s.run i).pages with
      | .ready, [] :: pages =>
          some { s.setRun i { s.run i with
              committed := (s.run i).committed ++ (s.run i).written.map (·.1), written := [],
              pages := pages } with
            table := publish (s.run i).written s.table }
      | _, _ => none
  | .abort i =>
      match (s.run i).pages with
      | [] => none
      | _ :: _ => some (s.setRun i (s.run i).fail)

/-- The open pages of all other runs have written nothing. -/
def Alone (s : Interleaving ι) (i : ι) : Prop := ∀ j, j ≠ i → (s.run j).written = []

/-! ## What each step can do

One equation for each event, as an equivalence; the invariants are proved from these. -/

variable {s s' : Interleaving ι} {i j : ι} {run : RunProcess}

@[simp] theorem setRun_table : (s.setRun i run).table = s.table := rfl

@[simp] theorem setRun_source : (s.setRun i run).source = s.source := rfl

@[simp] theorem setRun_run_self : (s.setRun i run).run i = run := Function.update_self ..

@[simp] theorem setRun_setRun {run' : RunProcess} :
    (s.setRun i run).setRun i run' = s.setRun i run' := by
  simp [setRun]

theorem setRun_run_of_ne (h : j ≠ i) : (s.setRun i run).run j = s.run j :=
  Function.update_of_ne h ..

/-- **Frame.**  What holds of the new run and of the others holds of every run. -/
theorem forall_setRun {p : ι → RunProcess → Prop} (hself : p i run)
    (hothers : ∀ k, k ≠ i → p k (s.run k)) (k : ι) : p k ((s.setRun i run).run k) := by
  by_cases hk : k = i
  · subst hk
    rwa [setRun_run_self]
  · rw [setRun_run_of_ne hk]
    exact hothers k hk

theorem publish_cons_some (review : NormalizedReview) (row : Review)
    (written : List (NormalizedReview × Option Review)) (table : ReviewTable) :
    publish ((review, some row) :: written) table
      = (publish written table).insert review.sourceReviewId row := rfl

theorem Alone.setRun (h : s.Alone i) (run : RunProcess) : (s.setRun i run).Alone i := by
  intro j hj
  rw [setRun_run_of_ne hj]
  exact h j hj

variable [Fintype ι]

theorem step_read (h : s.step (.read i) = some s') :
    ∃ review page pages, (s.run i).phase = .ready ∧
      (s.run i).pages = (review :: page) :: pages ∧
      s' = s.setRun i { s.run i with
        phase := .read review (s.visible i review.sourceReviewId), pages := page :: pages } := by
  rw [step] at h
  split at h
  · rename_i review page pages hphase hpages
    rw [Option.some.injEq] at h
    exact ⟨review, page, pages, hphase, hpages, h.symm⟩
  · cases h

theorem step_decide (h : s.step (.decide i) = some s') :
    ∃ review row, (s.run i).phase = .read review row ∧
      ((statement s.source review row = none ∧ s' = s.setRun i { s.run i with
          phase := .ready, written := (review, none) :: (s.run i).written }) ∨
        ∃ decision, statement s.source review row = some decision ∧
          s' = s.setRun i { s.run i with phase := .decided review decision }) := by
  rw [step] at h
  split at h
  · rename_i review row hphase
    refine ⟨review, row, hphase, ?_⟩
    cases hdecision : statement s.source review row with
    | none =>
        simp only [hdecision, Option.some.injEq] at h
        exact .inl ⟨rfl, h.symm⟩
    | some decision =>
        simp only [hdecision, Option.some.injEq] at h
        exact .inr ⟨decision, rfl, h.symm⟩
  · cases h

theorem step_write (h : s.step (.write i) = some s') :
    ∃ review decision, (s.run i).phase = .decided review decision ∧
      (∀ j, j ≠ i → (s.run j).locked review.sourceReviewId = false) ∧
      (s' = s.setRun i (s.run i).fail ∨
        ∃ row, effect (some decision) (s.visible i review.sourceReviewId) = some row ∧
          s' = s.setRun i { s.run i with
            phase := .ready, written := (review, some row) :: (s.run i).written }) := by
  rw [step] at h
  split at h
  · rename_i review decision hphase
    split_ifs at h with hlocked
    have hfree : ∀ j, j ≠ i → (s.run j).locked review.sourceReviewId = false := by
      simpa using hlocked
    refine ⟨review, decision, hphase, hfree, ?_⟩
    split at h
    · exact .inl (Option.some.inj h).symm
    · split at h
      · exact .inl (Option.some.inj h).symm
      · rename_i row heffect
        exact .inr ⟨row, heffect, (Option.some.inj h).symm⟩
  · cases h

theorem step_commit (h : s.step (.commit i) = some s') :
    ∃ pages, (s.run i).phase = .ready ∧ (s.run i).pages = [] :: pages ∧
      s' = { s.setRun i { s.run i with
          committed := (s.run i).committed ++ (s.run i).written.map (·.1), written := [],
          pages := pages } with
        table := publish (s.run i).written s.table } := by
  rw [step] at h
  split at h
  · rename_i pages hphase hpages
    rw [Option.some.injEq] at h
    exact ⟨pages, hphase, hpages, h.symm⟩
  · cases h

theorem step_abort (h : s.step (.abort i) = some s') : s' = s.setRun i (s.run i).fail := by
  rw [step] at h
  split at h
  · cases h
  · rw [Option.some.injEq] at h
    exact h.symm

/-! ## A run alone

With nobody else writing, the steps add up to the sequential run. -/

/-- The three steps of an upsert, one after the other, are one `upsert` of what the run sees. -/
theorem upsert_alone (halone : s.Alone i) {review : NormalizedReview} {page : List NormalizedReview}
    {rest : List (List NormalizedReview)} (hphase : (s.run i).phase = .ready)
    (hpages : (s.run i).pages = (review :: page) :: rest) :
    ∃ events written, exec step s events
        = some (s.setRun i { s.run i with pages := page :: rest, written }) ∧
      publish written s.table
        = (upsert s.source review (publish (s.run i).written s.table)).2 := by
  have hfree : ∀ j, j ≠ i → (s.run j).locked review.sourceReviewId = false := by
    intro j hj
    simp [RunProcess.locked, halone j hj]
  cases hstored : (publish (s.run i).written s.table).lookup review.sourceReviewId with
  | none =>
      refine ⟨[.read i, .decide i, .write i],
        (review, some (createdRow s.source review)) :: (s.run i).written, ?_, ?_⟩
      · simp +contextual [exec, step, hphase, hpages, visible, hstored, statement, effect,
          setRun_run_of_ne, hfree]
      · simp [publish_cons_some, upsert, hstored]
  | some existing =>
      by_cases hchanged : Changed existing review
      · refine ⟨[.read i, .decide i, .write i],
          (review, some (updatedRow existing review)) :: (s.run i).written, ?_, ?_⟩
        · simp +contextual [exec, step, hphase, hpages, visible, hstored, statement, effect,
            hchanged, apply_columnWrites, setRun_run_of_ne, hfree]
        · simp [publish_cons_some, upsert, hstored, hchanged]
      · refine ⟨[.read i, .decide i], (review, none) :: (s.run i).written, ?_, ?_⟩
        · simp [exec, step, hphase, hpages, visible, hstored, statement, hchanged]
        · have hsame : publish ((review, none) :: (s.run i).written) s.table
              = publish (s.run i).written s.table := rfl
          simp [hsame, upsert, hstored, hchanged]

/-- A page read to its end is the page stored. -/
theorem page_alone (halone : s.Alone i) {page : List NormalizedReview}
    {rest : List (List NormalizedReview)} (hphase : (s.run i).phase = .ready)
    (hpages : (s.run i).pages = page :: rest) :
    ∃ events written, exec step s events
        = some (s.setRun i { s.run i with pages := [] :: rest, written }) ∧
      publish written s.table = storeAll s.source page (publish (s.run i).written s.table) := by
  induction page generalizing s with
  | nil =>
      refine ⟨[], (s.run i).written, ?_, rfl⟩
      rw [exec, ← hpages, setRun, Function.update_eq_self]
  | cons review page ih =>
      obtain ⟨events, written, hevents, hpublish⟩ := upsert_alone halone hphase hpages
      obtain ⟨events', written', hevents', hpublish'⟩ := ih
        (halone.setRun { s.run i with pages := page :: rest, written }) (by simp [hphase])
        (by simp)
      refine ⟨events ++ events', written', ?_, ?_⟩
      · rw [exec_append, hevents, Option.bind_some, hevents']
        simp
      · simp only [setRun_table, setRun_source, setRun_run_self] at hpublish'
        rw [hpublish', hpublish]
        rfl

/-- **A run alone stores its reviews as the sequential run does**, page after page. -/
theorem run_alone (halone : s.Alone i) (hphase : (s.run i).phase = .ready)
    (hwritten : (s.run i).written = []) (hfailed : (s.run i).failed = false) :
    ∃ events s', exec step s events = some s' ∧ (s'.run i).Succeeded ∧
      s'.table = storeAll s.source (s.run i).pages.flatten s.table := by
  obtain ⟨pages, hpages⟩ : ∃ pages, (s.run i).pages = pages := ⟨_, rfl⟩
  rw [hpages]
  induction pages generalizing s with
  | nil => exact ⟨[], s, rfl, ⟨hwritten, hphase, hpages, hfailed⟩, rfl⟩
  | cons page rest ih =>
      obtain ⟨events, written, hevents, hpublish⟩ := page_alone halone hphase hpages
      have hcommit : (s.setRun i { s.run i with pages := [] :: rest, written }).step (.commit i)
          = some { s.setRun i { s.run i with
              committed := (s.run i).committed ++ written.map (·.1), written := [],
              pages := rest } with
            table := publish written s.table } := by
        simp [step, hphase]
      obtain ⟨events', s', hevents', hdone, htable⟩ := ih
        (s := { s.setRun i { s.run i with
            committed := (s.run i).committed ++ written.map (·.1), written := [],
            pages := rest } with
          table := publish written s.table })
        (halone.setRun _) (by simp [hphase]) (by simp) (by simp [hfailed]) (by simp)
      refine ⟨events ++ .commit i :: events', s', ?_, hdone, ?_⟩
      · rw [exec_append, hevents, Option.bind_some, exec, hcommit, Option.bind_some, hevents']
      · rw [htable, hpublish, hwritten]
        simp [publish, storeAll_append]

/-- The reviews a run of the service upserts, page by page. -/
def upsertPages (env : RunEnv) (mode : Mode) (db : Database) : List (List NormalizedReview) :=
  (flow env (mode.stopAt env.adapter.source db) env.lifetime 0 none).pages.map fun page =>
    reached (mode.stopAt env.adapter.source db) page.reviews

/-- **The interleaving of one run is the run.**  A successful run of the service leaves the table its
steps leave when nothing comes between them. -/
theorem ingest_alone {env : RunEnv} {mode : Mode} {db : Database} {outcome : IngestionOutcome}
    (hreturned : (ingest env mode db).1 = .returned outcome) (halone : s.Alone i)
    (hsource : s.source = env.adapter.source) (htable : s.table = db.reviews)
    (hstart : s.run i = .start (upsertPages env mode db)) :
    ∃ events s', exec step s events = some s' ∧ (s'.run i).Succeeded ∧
      s'.table = (ingest env mode db).2.reviews := by
  obtain ⟨events, s', hevents, hdone, hstored⟩ := run_alone halone
    (by simp [hstart, RunProcess.start]) (by simp [hstart, RunProcess.start])
    (by simp [hstart, RunProcess.start])
  refine ⟨events, s', hevents, hdone, ?_⟩
  rcases ingest_left env mode db with ⟨-, hne⟩ | ⟨row, hleft, -⟩
  · exact absurd hreturned (hne outcome)
  · rw [hstored, hleft, hsource, htable, hstart]
    simp [RunProcess.start, upsertPages, delivered, List.flatMap_def]

end Interleaving

end ReviewSignal
