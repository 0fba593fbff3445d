import ReviewSignal.Services.Ingestion

/-!
# A run, separated into control and data

How far a run gets never depends on the store: it depends on the pages, the stop condition and the
environment's choices alone.  This file makes that precise and derives from it a closed form of
`ingest`.

* `flow` — the control of the page loop: the pages it commits, the page in flight when it stopped
  with the reviews of it already upserted, and what stopped it.
* `verdict` — the control of the whole run: nothing committed, pages committed under a row still
  `running`, success, or a failure recorded by `_fail`.
* `settle` — the data: what each verdict leaves in the database and in the counters, as a fold of
  `upsert` over the reviews `flow` names.
* **`ingest_eq`** — a run is `settle` of its `verdict`.

Every property of single runs in `Ingestion/` is read off `ingest_eq`.
-/

namespace ReviewSignal

open IngestionService ReviewRepository

/-! ## Control

Which pages are fetched, which reviews upserted and where the run stops, with no look at the tables. -/

/-- What stops a program early. -/
inductive Halt where
  | raised (error : Raised)
  | died
  deriving DecidableEq, Repr

def Halt.ended {α : Type} : Halt → Ended Raised α
  | .raised error => .raised error
  | .died => .died

/-- What the environment stops the run with at a point, if it does. -/
def RunEnv.haltAt (env : RunEnv) (point : Point) : Option Halt :=
  match env.fate point with
  | .proceeds => none
  | .raises exc => some (.raised ⟨point, exc⟩)
  | .dies => some .died

/-- What stops the run first on the way through some points. -/
def RunEnv.firstHalt (env : RunEnv) (points : List Point) : Option Halt :=
  points.findSome? env.haltAt

/-- The reviews of a page that come before the watermark. -/
def reached (stopAt : Option Instant) (reviews : List NormalizedReview) : List NormalizedReview :=
  reviews.takeWhile fun review => !atOrBelow stopAt review

/-- The watermark was met on the page. -/
def exhausted (stopAt : Option Instant) (page : ReviewPage) : Bool :=
  page.reviews.any (atOrBelow stopAt)

/-- The reviews a run over whole pages upserts. -/
def delivered (stopAt : Option Instant) (pages : List ReviewPage) : List NormalizedReview :=
  pages.flatMap fun page => reached stopAt page.reviews

/-- The upserts of a page that return, in order, and what stopped the next one. -/
def upserts (env : RunEnv) (call : ℕ) :
    ℕ → List NormalizedReview → List NormalizedReview × Option Halt
  | _, [] => ([], none)
  | index, review :: reviews =>
      match env.haltAt (.upsert call index) with
      | some halt => ([], some halt)
      | none =>
          let rest := upserts env call (index + 1) reviews
          (review :: rest.1, rest.2)

/-- The page a fetch brings, or what stopped it. -/
def fetches (env : RunEnv) (call : ℕ) (cursor : Option String) : Except Halt ReviewPage :=
  match env.haltAt (.fetch call) with
  | some halt => .error halt
  | none =>
      match env.adapter.fetchPage call cursor with
      | .error exc => .error (.raised ⟨.fetch call, exc⟩)
      | .ok page => .ok page

/-- How far the page loop got. -/
structure Flow where
  /-- The committed pages. -/
  pages : List ReviewPage
  /-- The page in flight when the loop was stopped, and its reviews already upserted. -/
  inFlight : Option (ReviewPage × List NormalizedReview)
  /-- What stopped the loop; `none` when it ended by itself. -/
  stop : Option Halt

/-- The control of the page loop. -/
def flow (env : RunEnv) (stopAt : Option Instant) : ℕ → ℕ → Option String → Flow
  | 0, _, _ => ⟨[], none, some .died⟩
  | lifetime + 1, call, cursor =>
      match fetches env call cursor with
      | .error halt => ⟨[], none, some halt⟩
      | .ok page =>
          let step := upserts env call 0 (reached stopAt page.reviews)
          match step.2 with
          | some halt => ⟨[], some (page, step.1), some halt⟩
          | none =>
              match env.haltAt (.commit call) with
              | some halt => ⟨[], some (page, step.1), some halt⟩
              | none =>
                  if exhausted stopAt page then ⟨[page], none, none⟩
                  else
                    match page.nextCursor with
                    | none => ⟨[page], none, none⟩
                    | some next =>
                        let rest := flow env stopAt lifetime (call + 1) (some next)
                        { rest with pages := page :: rest.pages }

/-- Every page the loop fetched. -/
def Flow.seen (f : Flow) : List ReviewPage := f.pages ++ (f.inFlight.map (·.1)).toList

/-- Every review the loop upserted, committed or not. -/
def Flow.upserted (stopAt : Option Instant) (f : Flow) : List NormalizedReview :=
  delivered stopAt f.pages ++ (f.inFlight.map (·.2)).getD []

/-- How a whole run ends. -/
inductive Verdict where
  /-- Nothing was committed. -/
  | unstarted (halt : Halt)
  /-- Pages were committed, but the run's row is still `running`. -/
  | unfinished (halt : Halt)
  | succeeded
  /-- The page loop raised and `_fail` recorded it. -/
  | recorded (error : Raised)
  deriving DecidableEq, Repr

/-- The points a run passes before its page loop. -/
def entryPoints : Mode → List Point
  | .backfill => [.start, .startCommit]
  | .incremental => [.watermark, .start, .startCommit]

/-- How a run ends once its page loop has stopped. -/
def ending (env : RunEnv) : Option Halt → Verdict
  | some .died => .unfinished .died
  | some (.raised error) =>
      match env.firstHalt [.failRollback, .failGet, .failCommit] with
      | some halt => .unfinished halt
      | none => .recorded error
  | none =>
      match env.haltAt .finishCommit with
      | some halt => .unfinished halt
      | none => .succeeded

/-- The control of a whole run. -/
def verdict (env : RunEnv) (mode : Mode) (stopAt : Option Instant) : Verdict :=
  match env.firstHalt (entryPoints mode) with
  | some halt => .unstarted halt
  | none => ending env (flow env stopAt env.lifetime 0 none).stop

/-! ## Data

What the counters and the rows are, given the control. -/

/-- The counters after fetching some pages and upserting some reviews into a table. -/
def outcomeOf (source : String) (seen : List ReviewPage) (upserted : List NormalizedReview)
    (table : ReviewTable) : IngestionOutcome where
  fetched := (seen.map fun page => page.reviews.length + page.unmappableCount).sum
  created := (outcomes source upserted table).count .created
  updated := (outcomes source upserted table).count .updated
  unchanged := (outcomes source upserted table).count .unchanged
  unmappable := (seen.map (·.unmappableCount)).sum

/-- A run's row with the cursor of the last committed page. -/
def withCursor (pages : List ReviewPage) (run : SyncRun) : SyncRun :=
  match pages.getLast? with
  | none => run
  | some page => SyncRunRepository.saveCursor (some (cursorState page)) run

/-- A run's row with its counts filled in. -/
def withOutcome (status : SyncRunStatus) (finishedAt : Instant) (errorMessage : Option String)
    (outcome : IngestionOutcome) (run : SyncRun) : SyncRun :=
  { run with
    status, errorMessage
    finishedAt := some finishedAt
    reviewsFetched := outcome.fetched
    reviewsCreated := outcome.created
    reviewsUpdated := outcome.updated }

/-- The status `_fail` chooses. -/
def failStatus (outcome : IngestionOutcome) : SyncRunStatus :=
  if outcome.storedAnything then .partially else .failed

/-- What each verdict leaves: how the call ended, and the committed database. -/
def settle (env : RunEnv) (stopAt : Option Instant) (db : Database) :
    Verdict → Ended Raised IngestionOutcome × Database :=
  let f := flow env stopAt env.lifetime 0 none
  let reviews := storeAll env.adapter.source (delivered stopAt f.pages) db.reviews
  let outcome := outcomeOf env.adapter.source f.seen (f.upserted stopAt) db.reviews
  let row := withCursor f.pages
    (SyncRunRepository.startedRow env.adapter.source env.clock.started)
  fun
  | .unstarted halt => (halt.ended, db)
  | .unfinished halt => (halt.ended, ⟨reviews, db.syncRuns ++ [row]⟩)
  | .succeeded => (.returned outcome,
      ⟨reviews, db.syncRuns ++ [withOutcome .success env.clock.finished none outcome row]⟩)
  | .recorded error => (.raised error,
      ⟨reviews, db.syncRuns ++ [withOutcome (failStatus outcome) env.clock.failed
        (some error.exc.describe) outcome row]⟩)

/-! ## One step at a time

The program over a session, against the two. -/

theorem reach_run (env : RunEnv) (point : Point) (s : RunState) :
    reach env point s = ((env.haltAt point).elim (.returned ()) Halt.ended, s) := by
  rw [reach, RunEnv.haltAt]
  cases env.fate point <;> rfl

theorem reach_bind_run {α : Type} (env : RunEnv) (point : Point) (next : Unit → Ingest α)
    (s : RunState) : (reach env point >>= next) s
      = (env.haltAt point).elim (next () s) fun halt => (halt.ended, s) := by
  cases h : env.haltAt point with
  | none => exact Faulty.bind_returned (by rw [reach_run, h]; rfl)
  | some halt =>
      cases halt with
      | raised error => exact Faulty.bind_raised (e := error) (by rw [reach_run, h]; rfl)
      | died => exact Faulty.bind_died (by rw [reach_run, h]; rfl)

theorem fetchPage_run (env : RunEnv) (call : ℕ) (cursor : Option String) (s : RunState) :
    fetchPage env call cursor s
      = (match fetches env call cursor with
          | .error halt => (halt.ended, s)
          | .ok page => (.returned page, s)) := by
  rw [fetchPage, reach_bind_run, fetches]
  cases env.haltAt (.fetch call) with
  | some halt => rfl
  | none => cases env.adapter.fetchPage call cursor <;> rfl

/-- The session's open transaction and the counters, as a fold over what was upserted: `seen` and
`stored` are the pages fetched and the reviews upserted since the run began on `table`. -/
structure Tracks (source : String) (table : ReviewTable) (seen : List ReviewPage)
    (stored : List NormalizedReview) (s : RunState) : Prop where
  reviews : s.session.working.reviews = storeAll source stored table
  outcome : s.outcome = outcomeOf source seen stored table

variable {env : RunEnv} {stopAt : Option Instant} {source : String} {table : ReviewTable}
  {seen : List ReviewPage} {stored : List NormalizedReview} {s : RunState}

theorem Tracks.countPage (h : Tracks source table seen stored s) (page : ReviewPage) :
    Tracks source table (seen ++ [page]) stored (s.countPage page) := by
  refine ⟨h.reviews, ?_⟩
  show s.outcome.countPage page = _
  rw [h.outcome]
  simp only [IngestionOutcome.countPage, outcomeOf, List.map_append, List.map_cons, List.map_nil,
    List.sum_append, List.sum_cons, List.sum_nil, Nat.add_zero]

theorem Tracks.upsert (h : Tracks source table seen stored s) (review : NormalizedReview) :
    Tracks source table seen (stored ++ [review]) (s.upsert source review) := by
  constructor
  · show (ReviewRepository.upsert source review s.session.working.reviews).2 = _
    rw [h.reviews, storeAll_append]
    rfl
  · show s.outcome.count (ReviewRepository.upsert source review s.session.working.reviews).1 = _
    rw [h.outcome, h.reviews]
    simp only [outcomeOf, outcomes_append, outcomes_cons, outcomes_nil, List.count_append,
      List.count_cons, List.count_nil, Nat.zero_add]
    cases (ReviewRepository.upsert source review (storeAll source stored table)).1 <;>
      simp [IngestionOutcome.count]

/-- **`_absorb`.**  It upserts what `upserts` says, one review at a time, and ends as it says. -/
theorem absorb_run (stopAt : Option Instant) (call : ℕ) (reviews : List NormalizedReview) :
    ∀ (index : ℕ) (stored : List NormalizedReview) (s : RunState),
      Tracks env.adapter.source table seen stored s →
      ∃ s', absorb env stopAt call index reviews s
          = ((upserts env call index (reached stopAt reviews)).2.elim
              (.returned (reviews.any (atOrBelow stopAt))) Halt.ended, s') ∧
        Tracks env.adapter.source table seen
          (stored ++ (upserts env call index (reached stopAt reviews)).1) s' ∧
        s'.session.committed = s.session.committed ∧
        s'.session.working.syncRuns = s.session.working.syncRuns := by
  induction reviews with
  | nil =>
      intro index stored s hs
      exact ⟨s, rfl, by simpa [reached, upserts] using hs, rfl, rfl⟩
  | cons review reviews ih =>
      intro index stored s hs
      by_cases hstop : atOrBelow stopAt review = true
      · -- the watermark ends the walk on this page
        refine ⟨s, ?_, ?_, rfl, rfl⟩
        · simp [absorb, reached, upserts, hstop]
        · simpa [reached, upserts, hstop] using hs
      · have hreached : reached stopAt (review :: reviews) = review :: reached stopAt reviews := by
          simp [reached, hstop]
        have hany : (review :: reviews).any (atOrBelow stopAt) = reviews.any (atOrBelow stopAt) := by
          simp [hstop]
        rw [absorb, if_neg hstop, reach_bind_run, hreached, hany, upserts]
        cases hhalt : env.haltAt (.upsert call index) with
        | some halt => exact ⟨s, rfl, by simpa using hs, rfl, rfl⟩
        | none =>
            obtain ⟨s', hrun, htracks, hcommitted, hruns⟩ :=
              ih (index + 1) (stored ++ [review]) (s.upsert env.adapter.source review)
                (hs.upsert review)
            refine ⟨s', ?_, ?_, hcommitted, hruns⟩
            · exact hrun
            · simpa using htracks

/-! ## The page loop

A loop invariant for the session between two pages, and what the loop leaves. -/

theorem bind_halted {α β : Type} {x : Ingest α} {next : α → Ingest β} {s' : RunState} (halt : Halt)
    (h : x s = (halt.ended, s')) : (x >>= next) s = (halt.ended, s') := by
  cases halt with
  | raised error => exact Faulty.bind_raised h
  | died => exact Faulty.bind_died h

/-- Saving a cursor overwrites the one saved before. -/
theorem withCursor_cons (page : ReviewPage) (pages : List ReviewPage) (run : SyncRun) :
    withCursor (page :: pages) run
      = withCursor pages (SyncRunRepository.saveCursor (some (cursorState page)) run) := by
  cases pages with
  | nil => rfl
  | cons next pages =>
      rw [withCursor, withCursor, List.getLast?_cons_cons]
      cases hlast : (next :: pages).getLast? with
      | none => simp at hlast
      | some last => rfl

/-- Modifying the row just appended. -/
theorem modify_last {runs : List SyncRun} {row : SyncRun} {f : SyncRun → SyncRun} :
    (runs ++ [row]).modify runs.length f = runs ++ [f row] := by
  induction runs with
  | nil => rfl
  | cons run runs ih => simpa using ih

theorem delivered_cons (page : ReviewPage) (pages : List ReviewPage) :
    delivered stopAt (page :: pages) = reached stopAt page.reviews ++ delivered stopAt pages := rfl

/-- An upsert list that nothing stopped is the whole list. -/
theorem upserts_of_none {call : ℕ} {reviews : List NormalizedReview} :
    ∀ {index : ℕ}, (upserts env call index reviews).2 = none →
      (upserts env call index reviews).1 = reviews := by
  induction reviews with
  | nil => intro index _; rfl
  | cons review reviews ih =>
      intro index h
      rw [upserts] at h ⊢
      cases hhalt : env.haltAt (.upsert call index) with
      | some halt => rw [hhalt] at h; cases h
      | none =>
          rw [hhalt] at h
          exact congrArg (review :: ·) (ih h)

section

variable {call lifetime : ℕ} {cursor : Option String} {page : ReviewPage} {halt : Halt}

theorem flow_of_fetch_error (h : fetches env call cursor = .error halt) :
    flow env stopAt (lifetime + 1) call cursor = ⟨[], none, some halt⟩ := by
  rw [flow, h]

theorem flow_of_upsert_halt (h : fetches env call cursor = .ok page)
    (hhalt : (upserts env call 0 (reached stopAt page.reviews)).2 = some halt) :
    flow env stopAt (lifetime + 1) call cursor
      = ⟨[], some (page, (upserts env call 0 (reached stopAt page.reviews)).1), some halt⟩ := by
  simp only [flow, h, hhalt]

theorem flow_of_commit_halt (h : fetches env call cursor = .ok page)
    (hdone : (upserts env call 0 (reached stopAt page.reviews)).2 = none)
    (hhalt : env.haltAt (.commit call) = some halt) :
    flow env stopAt (lifetime + 1) call cursor
      = ⟨[], some (page, reached stopAt page.reviews), some halt⟩ := by
  simp only [flow, h, hdone, hhalt, upserts_of_none hdone]

/-- The loop ends by itself after a page that met the watermark or carries no cursor. -/
theorem flow_of_last (h : fetches env call cursor = .ok page)
    (hdone : (upserts env call 0 (reached stopAt page.reviews)).2 = none)
    (hcommit : env.haltAt (.commit call) = none)
    (hlast : exhausted stopAt page = true ∨ page.nextCursor = none) :
    flow env stopAt (lifetime + 1) call cursor = ⟨[page], none, none⟩ := by
  simp only [flow, h, hdone, hcommit]
  split_ifs with hex
  · rfl
  · rw [hlast.resolve_left hex]

theorem flow_of_next {next : String} (h : fetches env call cursor = .ok page)
    (hdone : (upserts env call 0 (reached stopAt page.reviews)).2 = none)
    (hcommit : env.haltAt (.commit call) = none)
    (hmore : exhausted stopAt page = false) (hnext : page.nextCursor = some next) :
    flow env stopAt (lifetime + 1) call cursor
      = { flow env stopAt lifetime (call + 1) (some next) with
          pages := page :: (flow env stopAt lifetime (call + 1) (some next)).pages } := by
  simp [flow, h, hdone, hcommit, hmore, hnext]

end

/-- The session between two pages: nothing uncommitted, and the run's row last. -/
structure BetweenPages (source : String) (table : ReviewTable) (runs : List SyncRun) (row : SyncRun)
    (seen : List ReviewPage) (stored : List NormalizedReview) (s : RunState) : Prop
    extends Tracks source table seen stored s where
  clean : s.session.working = s.session.committed
  syncRuns : s.session.committed.syncRuns = runs ++ [row]

theorem BetweenPages.committed_eq {runs : List SyncRun} {row : SyncRun}
    (h : BetweenPages source table runs row seen stored s) :
    s.session.committed = ⟨storeAll source stored table, runs ++ [row]⟩ := by
  have hreviews : s.session.committed.reviews = storeAll source stored table := by
    rw [← h.clean]; exact h.reviews
  rw [← hreviews, ← h.syncRuns]

/-- Committing a page leaves the session between two pages again. -/
theorem Tracks.commitPage {runs : List SyncRun} {row : SyncRun}
    (h : Tracks source table seen stored s)
    (hruns : s.session.working.syncRuns = runs ++ [row]) (page : ReviewPage) :
    BetweenPages source table runs
      (SyncRunRepository.saveCursor (some (cursorState page)) row) seen stored
      (s.modifyRun runs.length
        (SyncRunRepository.saveCursor (some (cursorState page)))).commit := by
  refine ⟨⟨h.reviews, h.outcome⟩, rfl, ?_⟩
  show s.session.working.syncRuns.modify runs.length _ = _
  rw [hruns]
  exact modify_last

/-- What the page loop leaves, given its control. -/
structure AfterPages (source : String) (stopAt : Option Instant) (table : ReviewTable)
    (runs : List SyncRun) (row : SyncRun) (seen : List ReviewPage)
    (stored : List NormalizedReview) (f : Flow) (s : RunState) : Prop where
  outcome : s.outcome = outcomeOf source (seen ++ f.seen) (stored ++ f.upserted stopAt) table
  committed : s.session.committed = ⟨storeAll source (stored ++ delivered stopAt f.pages) table,
    runs ++ [withCursor f.pages row]⟩
  clean : f.stop = none → s.session.working = s.session.committed

theorem AfterPages.syncRuns {runs : List SyncRun} {row : SyncRun} {f : Flow}
    (h : AfterPages source stopAt table runs row seen stored f s) :
    s.session.committed.syncRuns = runs ++ [withCursor f.pages row] := by
  rw [h.committed]

/-- A loop stopped on its first page leaves what was there before it. -/
theorem AfterPages.stopped {runs : List SyncRun} {row : SyncRun} {halt : Halt}
    {inFlight : Option (ReviewPage × List NormalizedReview)}
    (houtcome : s.outcome = outcomeOf source (seen ++ (inFlight.map (·.1)).toList)
      (stored ++ (inFlight.map (·.2)).getD []) table)
    (hcommitted : s.session.committed = ⟨storeAll source stored table, runs ++ [row]⟩) :
    AfterPages source stopAt table runs row seen stored ⟨[], inFlight, some halt⟩ s := by
  refine ⟨?_, ?_, fun h => nomatch h⟩
  · simpa [Flow.seen, Flow.upserted, delivered] using houtcome
  · simpa [delivered, withCursor] using hcommitted

/-- A loop that ended with its first page leaves that page committed. -/
theorem AfterPages.ended {runs : List SyncRun} {row : SyncRun} {page : ReviewPage}
    (h : BetweenPages source table runs
      (SyncRunRepository.saveCursor (some (cursorState page)) row) (seen ++ [page])
      (stored ++ reached stopAt page.reviews) s) :
    AfterPages source stopAt table runs row seen stored ⟨[page], none, none⟩ s := by
  refine ⟨?_, ?_, fun _ => h.clean⟩
  · simpa [Flow.seen, Flow.upserted, delivered] using h.outcome
  · simpa [delivered, withCursor] using h.committed_eq

/-- A loop that went on after its first page leaves that page and what the rest left. -/
theorem AfterPages.next {runs : List SyncRun} {row : SyncRun} {page : ReviewPage} {f : Flow}
    (h : AfterPages source stopAt table runs
      (SyncRunRepository.saveCursor (some (cursorState page)) row) (seen ++ [page])
      (stored ++ reached stopAt page.reviews) f s) :
    AfterPages source stopAt table runs row seen stored { f with pages := page :: f.pages } s := by
  refine ⟨?_, ?_, h.clean⟩
  · rw [h.outcome]
    simp [Flow.seen, Flow.upserted, delivered]
  · rw [h.committed, withCursor_cons]
    simp [delivered]

/-- **The page loop of `_run`.**  The induction is on the page fetches the process lives for; the
lists `seen` and `stored` accumulate what the earlier pages did. -/
theorem runPages_run (stopAt : Option Instant) {runs : List SyncRun} :
    ∀ (lifetime call : ℕ) (cursor : Option String) (row : SyncRun) (seen : List ReviewPage)
      (stored : List NormalizedReview) (s : RunState),
      BetweenPages env.adapter.source table runs row seen stored s →
      ∃ s', runPages env stopAt runs.length lifetime call cursor s
          = ((flow env stopAt lifetime call cursor).stop.elim (.returned ()) Halt.ended, s') ∧
        AfterPages env.adapter.source stopAt table runs row seen stored
          (flow env stopAt lifetime call cursor) s' := by
  intro lifetime
  induction lifetime with
  | zero =>
      intro call cursor row seen stored s hs
      exact ⟨s, rfl, .stopped (by simpa using hs.outcome) hs.committed_eq⟩
  | succ lifetime ih =>
      intro call cursor row seen stored s hs
      rw [runPages]
      cases hfetch : fetches env call cursor with
      | error halt =>
          rw [flow_of_fetch_error hfetch,
            bind_halted halt (by rw [fetchPage_run, hfetch])]
          exact ⟨s, rfl, .stopped (by simpa using hs.outcome) hs.committed_eq⟩
      | ok page =>
          rw [Faulty.bind_returned (by rw [fetchPage_run, hfetch]), Faulty.modify_bind_run]
          -- the page is absorbed in the open transaction
          obtain ⟨s₁, habsorb, htracks, hcomm, hruns⟩ := absorb_run stopAt call
            page.reviews 0 stored _ (hs.toTracks.countPage page)
          have hcommitted : s₁.session.committed
              = ⟨storeAll env.adapter.source stored table, runs ++ [row]⟩ :=
            hcomm.trans hs.committed_eq
          have hworking : s₁.session.working.syncRuns = runs ++ [row] := by
            rw [hruns, ← hs.syncRuns, ← hs.clean]
            rfl
          cases hhalt : (upserts env call 0 (reached stopAt page.reviews)).2 with
          | some halt =>
              rw [flow_of_upsert_halt hfetch hhalt,
                bind_halted halt (by rw [habsorb, hhalt]; rfl)]
              exact ⟨s₁, rfl, .stopped htracks.outcome hcommitted⟩
          | none =>
              rw [Faulty.bind_returned (by rw [habsorb, hhalt]; rfl), Faulty.modify_bind_run,
                IngestionService.commit, bind_assoc, reach_bind_run]
              rw [upserts_of_none hhalt] at htracks
              cases hcommit : env.haltAt (.commit call) with
              | some halt =>
                  rw [flow_of_commit_halt hfetch hhalt hcommit]
                  exact ⟨_, rfl, .stopped htracks.outcome hcommitted⟩
              | none =>
                  -- the page is committed with its cursor
                  have hnext := htracks.commitPage hworking page
                  rw [Option.elim_none, Faulty.modify_bind_run]
                  by_cases hex : page.reviews.any (atOrBelow stopAt) = true
                  · rw [flow_of_last hfetch hhalt hcommit (.inl hex), if_pos hex]
                    exact ⟨_, rfl, .ended hnext⟩
                  · rw [if_neg hex]
                    cases hcursor : page.nextCursor with
                    | none =>
                        rw [flow_of_last hfetch hhalt hcommit (.inr hcursor)]
                        exact ⟨_, rfl, .ended hnext⟩
                    | some next =>
                        rw [flow_of_next hfetch hhalt hcommit (by simpa [exhausted] using hex)
                          hcursor]
                        obtain ⟨s₂, hrun, hafter⟩ := ih (call + 1) (some next) _ _ _ _ hnext
                        exact ⟨s₂, hrun, hafter.next⟩

/-! ## The whole run

The loop, with what comes before and after it. -/

theorem firstHalt_cons (point : Point) (points : List Point) :
    env.firstHalt (point :: points) = (env.haltAt point).or (env.firstHalt points) := by
  rw [RunEnv.firstHalt, List.findSome?_cons]
  cases env.haltAt point <;> rfl

@[simp] theorem firstHalt_nil : env.firstHalt [] = none := rfl

/-- Finishing the row just appended fills in its counts. -/
theorem finishRun_run (env : RunEnv) {runs : List SyncRun} {row : SyncRun} {status : SyncRunStatus}
    (hruns : s.session.working.syncRuns = runs ++ [row])
    (hstatus : status ∈ SyncRunRepository.finishStatuses) (errorMessage : Option String) :
    finishRun env runs.length status errorMessage s = (.returned (), s.setSyncRuns
      (runs ++ [withOutcome status env.clock.finished errorMessage s.outcome row])) := by
  have hget : s.session.working.syncRuns[runs.length]? = some row := by
    rw [hruns, List.getElem?_concat_length]
  rw [finishRun, Faulty.read_bind_run]
  simp only [id_eq, hget, SyncRunRepository.finish_ok hstatus]
  rw [Faulty.modify_run, RunState.modifyRun, hruns, modify_last]
  rfl

theorem finish_run (env : RunEnv) {runs : List SyncRun} {row : SyncRun}
    (hruns : s.session.working.syncRuns = runs ++ [row]) :
    finish env runs.length .success s = (env.haltAt .finishCommit).elim
      (.returned (), (s.setSyncRuns
        (runs ++ [withOutcome .success env.clock.finished none s.outcome row])).commit)
      (fun halt => (halt.ended, s.setSyncRuns
        (runs ++ [withOutcome .success env.clock.finished none s.outcome row]))) := by
  rw [finish, Faulty.bind_returned (finishRun_run env hruns (by decide) none),
    IngestionService.commit, reach_bind_run]
  rfl

/-- What `_fail` leaves committed: the rows of the committed pages, and the run's row with the
counts of memory. -/
theorem fail_run (env : RunEnv) {runs : List SyncRun} {row : SyncRun} (exc : Exn)
    (hruns : s.session.committed.syncRuns = runs ++ [row]) :
    ∃ s', fail env runs.length exc s
        = ((env.firstHalt [.failRollback, .failGet, .failCommit]).elim (.returned ()) Halt.ended,
            s') ∧
      s'.session.committed = (env.firstHalt [.failRollback, .failGet, .failCommit]).elim
        ⟨s.session.committed.reviews, runs ++ [withOutcome (failStatus s.outcome) env.clock.failed
          (some exc.describe) s.outcome row]⟩
        fun _ => s.session.committed := by
  simp only [firstHalt_cons, firstHalt_nil, Option.or_none]
  rw [fail, reach_bind_run]
  cases env.haltAt .failRollback with
  | some halt => exact ⟨s, rfl, rfl⟩
  | none =>
      rw [Option.elim_none, Faulty.modify_bind_run, reach_bind_run, Option.none_or]
      cases env.haltAt .failGet with
      | some halt => exact ⟨_, rfl, rfl⟩
      | none =>
          have hstatus : failStatus s.outcome ∈ SyncRunRepository.finishStatuses := by
            rw [failStatus]; split_ifs <;> decide
          have hget : (id s.rollback).session.working.syncRuns[runs.length]? = some row := by
            show s.session.committed.syncRuns[runs.length]? = some row
            rw [hruns, List.getElem?_concat_length]
          have hfinish := finishRun_run env (s := s.rollback) hruns hstatus
            (some exc.describe)
          rw [Option.elim_none, Faulty.read_bind_run]
          simp only [hget]
          show ∃ s', (finishRun env runs.length (failStatus s.outcome) (some exc.describe) >>= _)
            s.rollback = _ ∧ _
          rw [Faulty.bind_returned hfinish, Faulty.modify_bind_run, IngestionService.commit,
            reach_bind_run, Option.none_or]
          cases env.haltAt .failCommit with
          | some halt => exact ⟨_, rfl, rfl⟩
          | none =>
              refine ⟨_, rfl, ?_⟩
              show (⟨s.session.committed.reviews, (runs ++ [_]).modify runs.length _⟩ : Database) = _
              rw [modify_last]
              rfl

/-- A run whose row is committed is its page loop, then the ending the loop calls for. -/
theorem pagesThenEnding_run (db : Database)
    (hs : BetweenPages env.adapter.source db.reviews db.syncRuns
      (SyncRunRepository.startedRow env.adapter.source env.clock.started) [] [] s) :
    ∃ s', ((runPages env stopAt db.syncRuns.length env.lifetime 0 none).tryCatch (fun raised => do
          fail env db.syncRuns.length raised.exc
          .raise raised) >>= fun _ => do
        finish env db.syncRuns.length .success
        .read (·.outcome)) s
      = ((settle env stopAt db (ending env (flow env stopAt env.lifetime 0 none).stop)).1, s') ∧
    s'.session.committed
      = (settle env stopAt db (ending env (flow env stopAt env.lifetime 0 none).stop)).2 := by
  obtain ⟨s₁, hrun, hafter⟩ := runPages_run stopAt env.lifetime 0 none _ [] [] s hs
  cases hstop : (flow env stopAt env.lifetime 0 none).stop with
  | none =>
      rw [hstop] at hrun
      have hfinish := finish_run env
        ((congrArg Database.syncRuns (hafter.clean hstop)).trans hafter.syncRuns)
      rw [Faulty.bind_returned (Faulty.tryCatch_returned hrun)]
      rw [ending]
      cases hhalt : env.haltAt .finishCommit with
      | some halt =>
          rw [hhalt] at hfinish
          rw [bind_halted halt hfinish]
          exact ⟨_, rfl, hafter.committed⟩
      | none =>
          rw [hhalt] at hfinish
          rw [Faulty.bind_returned hfinish]
          refine ⟨_, congrArg (fun o => (Ended.returned o, _)) hafter.outcome, ?_⟩
          show (⟨s₁.session.working.reviews, _⟩ : Database) = _
          rw [hafter.clean hstop, hafter.committed, hafter.outcome]
          rfl
  | some halt =>
      rw [hstop] at hrun
      cases halt with
      | died =>
          rw [Faulty.bind_died (Faulty.tryCatch_died hrun)]
          exact ⟨_, rfl, hafter.committed⟩
      | raised error =>
          obtain ⟨s₂, hfail, hleft⟩ := fail_run env error.exc hafter.syncRuns
          rw [ending]
          cases hhalt : env.firstHalt [.failRollback, .failGet, .failCommit] with
          | some halt =>
              rw [hhalt] at hfail hleft
              rw [bind_halted halt
                (by rw [Faulty.tryCatch_raised hrun]; exact bind_halted halt hfail)]
              exact ⟨_, rfl, hleft.trans hafter.committed⟩
          | none =>
              rw [hhalt] at hfail hleft
              rw [Faulty.bind_raised (e := error)
                (by rw [Faulty.tryCatch_raised hrun]; exact Faulty.bind_returned hfail)]
              refine ⟨_, rfl, hleft.trans ?_⟩
              rw [hafter.committed, hafter.outcome]
              rfl

/-- **`_run`**, on a fresh session. -/
theorem run_run (env : RunEnv) (stopAt : Option Instant) (db : Database) :
    ∃ s', run env stopAt ⟨⟨db, db⟩, {}⟩
        = (((env.firstHalt [.start, .startCommit]).elim
            (settle env stopAt db (ending env (flow env stopAt env.lifetime 0 none).stop))
            fun halt => (halt.ended, db)).1, s') ∧
      s'.session.committed = ((env.firstHalt [.start, .startCommit]).elim
        (settle env stopAt db (ending env (flow env stopAt env.lifetime 0 none).stop))
        fun halt => (halt.ended, db)).2 := by
  simp only [firstHalt_cons, firstHalt_nil, Option.or_none]
  rw [run, start, bind_assoc, reach_bind_run]
  cases env.haltAt .start with
  | some halt => exact ⟨_, rfl, rfl⟩
  | none =>
      rw [Option.elim_none, bind_assoc, Faulty.read_bind_run, bind_assoc, Faulty.modify_bind_run,
        Faulty.pure_bind_run, IngestionService.commit, bind_assoc, reach_bind_run, Option.none_or]
      cases env.haltAt .startCommit with
      | some halt => exact ⟨_, rfl, rfl⟩
      | none =>
          rw [Option.elim_none, Faulty.modify_bind_run]
          exact pagesThenEnding_run db ⟨⟨rfl, rfl⟩, rfl, rfl⟩

/-- **The closed form of a run.**  What a run returns and what it leaves committed are `settle` of
its `verdict`. -/
theorem ingest_eq (env : RunEnv) (mode : Mode) (db : Database) :
    ingest env mode db = settle env (mode.stopAt env.adapter.source db) db
      (verdict env mode (mode.stopAt env.adapter.source db)) := by
  cases mode with
  | backfill =>
      obtain ⟨s', hrun, hleft⟩ := run_run env none db
      rw [ingest, backfill, hrun]
      refine Prod.ext ?_ (hleft.trans ?_) <;>
        · rw [Mode.stopAt, verdict, entryPoints]
          cases env.firstHalt [.start, .startCommit] <;> rfl
  | incremental =>
      obtain ⟨s', hrun, hleft⟩ :=
        run_run env (SyncRunRepository.watermark env.adapter.source db.syncRuns) db
      rw [ingest, incremental]
      dsimp only
      rw [reach_bind_run, Mode.stopAt, verdict, entryPoints, firstHalt_cons]
      cases env.haltAt .watermark with
      | some halt => rfl
      | none =>
          rw [Option.elim_none, Faulty.read_bind_run, Option.none_or, hrun]
          refine Prod.ext ?_ (hleft.trans ?_) <;>
            · cases env.firstHalt [.start, .startCommit] <;> rfl

end ReviewSignal
