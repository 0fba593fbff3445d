import ReviewSignal.Services.IngestionFlow
import Mathlib.Data.List.TakeWhile

/-!
# The page loop against the walk of its source

`flow` fetches through the adapter; this file says what it fetched and upserted in terms of the
pages of `iterPages` alone.

* The committed pages are the first pages of the walk (`pages_flow`).
* Only the last of them may have met the watermark, so what they delivered is one `takeWhile` over
  the reviews they list (`delivered_eq_reached`).
* A loop that ended by itself met the watermark or the end of the walk (`last_of_stop_none`).
* A loop that raised names the point, and the point names the reviews already upserted on the page
  in flight (`raisedAt_flow`).

Two summaries are what the results about runs start from: `ingest_left`, everything a run can leave, and
`ingest_returned`, everything a successful one leaves.  The inductions over the loop are all in this file
(`flow_induct`).
-/

namespace ReviewSignal

open IngestionService ReviewRepository

variable {env : RunEnv} {stopAt : Option Instant} {call lifetime : ℕ} {cursor : Option String}
  {page : ReviewPage} {pages : List ReviewPage} {error : Raised}

/-- The induction behind every fact about `flow`: one case for each way an iteration goes. -/
theorem flow_induct (env : RunEnv) {motive : ℕ → Option String → Flow → Prop}
    (died : ∀ call cursor, motive call cursor ⟨[], none, some .died⟩)
    (fetch : ∀ call cursor halt, fetches env call cursor = .error halt →
      motive call cursor ⟨[], none, some halt⟩)
    (upsert : ∀ call cursor page halt, fetches env call cursor = .ok page →
      (upserts env call 0 (reached stopAt page.reviews)).2 = some halt →
      motive call cursor
        ⟨[], some (page, (upserts env call 0 (reached stopAt page.reviews)).1), some halt⟩)
    (commit : ∀ call cursor page halt, fetches env call cursor = .ok page →
      env.haltAt (.commit call) = some halt →
      motive call cursor ⟨[], some (page, reached stopAt page.reviews), some halt⟩)
    (last : ∀ call cursor page, fetches env call cursor = .ok page →
      (exhausted stopAt page = true ∨ page.nextCursor = none) →
      motive call cursor ⟨[page], none, none⟩)
    (next : ∀ call cursor page next rest, fetches env call cursor = .ok page →
      exhausted stopAt page = false → page.nextCursor = some next →
      motive (call + 1) (some next) rest →
      motive call cursor { rest with pages := page :: rest.pages }) :
    ∀ lifetime call cursor, motive call cursor (flow env stopAt lifetime call cursor) := by
  intro lifetime
  induction lifetime with
  | zero => exact died
  | succ lifetime ih =>
      intro call cursor
      cases hfetch : fetches env call cursor with
      | error halt =>
          rw [flow_of_fetch_error hfetch]
          exact fetch call cursor halt hfetch
      | ok page =>
          cases hdone : (upserts env call 0 (reached stopAt page.reviews)).2 with
          | some halt =>
              rw [flow_of_upsert_halt hfetch hdone]
              exact upsert call cursor page halt hfetch hdone
          | none =>
              cases hcommit : env.haltAt (.commit call) with
              | some halt =>
                  rw [flow_of_commit_halt hfetch hdone hcommit]
                  exact commit call cursor page halt hfetch hcommit
              | none =>
                  cases hex : exhausted stopAt page with
                  | true =>
                      rw [flow_of_last hfetch hdone hcommit (.inl hex)]
                      exact last call cursor page hfetch (.inl hex)
                  | false =>
                      cases hnext : page.nextCursor with
                      | none =>
                          rw [flow_of_last hfetch hdone hcommit (.inr hnext)]
                          exact last call cursor page hfetch (.inr hnext)
                      | some c =>
                          rw [flow_of_next hfetch hdone hcommit hex hnext]
                          exact next call cursor page c _ hfetch hex hnext (ih (call + 1) (some c))

/-! ## The committed pages

By the induction of the loop, with the cursor of the next fetch. -/

theorem fetchPage_of_fetches (h : fetches env call cursor = .ok page) :
    env.adapter.fetchPage call cursor = .ok page := by
  rw [fetches] at h
  cases hhalt : env.haltAt (.fetch call) with
  | some halt => rw [hhalt] at h; cases h
  | none =>
      rw [hhalt] at h
      cases hp : env.adapter.fetchPage call cursor with
      | error exc => rw [hp] at h; cases h
      | ok page' => rw [hp] at h; cases h; rfl

/-- **The loop commits the first pages of the walk**, in order and each whole. -/
theorem pages_flow (env : RunEnv) (stopAt : Option Instant) (lifetime call : ℕ)
    (cursor : Option String) :
    iterPages env.adapter call cursor (flow env stopAt lifetime call cursor).pages.length
      = (flow env stopAt lifetime call cursor).pages := by
  revert lifetime call cursor
  refine flow_induct env (motive := fun call cursor f =>
    iterPages env.adapter call cursor f.pages.length = f.pages) ?_ ?_ ?_ ?_ ?_ ?_
  · intro call cursor; rfl
  · intro call cursor halt _; rfl
  · intro call cursor page halt _ _; rfl
  · intro call cursor page halt _ _; rfl
  · intro call cursor page hfetch _
    show iterPages env.adapter call cursor 1 = [page]
    rw [iterPages_succ_of_ok (fetchPage_of_fetches hfetch)]
    cases page.nextCursor <;> rfl
  · intro call cursor page next rest hfetch _ hnext ih
    show iterPages env.adapter call cursor (rest.pages.length + 1) = page :: rest.pages
    rw [iterPages_succ_of_ok (fetchPage_of_fetches hfetch), hnext]
    exact congrArg (page :: ·) ih

/-- Only the last committed page may have met the watermark. -/
theorem exhausted_dropLast_flow (env : RunEnv) (stopAt : Option Instant) (lifetime call : ℕ)
    (cursor : Option String) :
    ∀ page ∈ (flow env stopAt lifetime call cursor).pages.dropLast,
      exhausted stopAt page = false := by
  revert lifetime call cursor
  refine flow_induct env (motive := fun _ _ f =>
    ∀ page ∈ f.pages.dropLast, exhausted stopAt page = false) ?_ ?_ ?_ ?_ ?_ ?_
  · intro call cursor page hpage; cases hpage
  · intro call cursor halt _ page hpage; cases hpage
  · intro call cursor p halt _ _ page hpage; cases hpage
  · intro call cursor p halt _ _ page hpage; cases hpage
  · intro call cursor p _ _ page hpage; cases hpage
  · intro call cursor p next rest _ hex _ ih page hpage
    cases hrest : rest.pages with
    | nil =>
        simp only [hrest, List.dropLast_singleton] at hpage
        cases hpage
    | cons q qs =>
        simp only [hrest, List.dropLast_cons_cons, List.mem_cons] at hpage
        rcases hpage with rfl | hpage
        · exact hex
        · exact ih page (by rw [hrest]; exact hpage)

/-- A loop that ended by itself met the watermark, or a page without a cursor. -/
theorem last_of_stop_none (h : (flow env stopAt lifetime call cursor).stop = none) :
    ∃ last, (flow env stopAt lifetime call cursor).pages.getLast? = some last ∧
      (exhausted stopAt last = true ∨ last.nextCursor = none) := by
  revert h
  refine flow_induct env (motive := fun _ _ f => f.stop = none →
    ∃ last, f.pages.getLast? = some last ∧
      (exhausted stopAt last = true ∨ last.nextCursor = none)) ?_ ?_ ?_ ?_ ?_ ?_
      lifetime call cursor
  · intro call cursor h; cases h
  · intro call cursor halt _ h; cases h
  · intro call cursor page halt _ _ h; cases h
  · intro call cursor page halt _ _ h; cases h
  · intro call cursor page _ hlast _
    exact ⟨page, rfl, hlast⟩
  · intro call cursor page next rest _ _ _ ih h
    obtain ⟨last, hlast, hend⟩ := ih h
    refine ⟨last, ?_, hend⟩
    show (page :: rest.pages).getLast? = some last
    rw [List.getLast?_cons, hlast]
    rfl

/-- And it has no page in flight. -/
theorem inFlight_of_stop_none (h : (flow env stopAt lifetime call cursor).stop = none) :
    (flow env stopAt lifetime call cursor).inFlight = none := by
  revert h
  refine flow_induct env (motive := fun _ _ f => f.stop = none → f.inFlight = none) ?_ ?_ ?_ ?_ ?_ ?_
    lifetime call cursor
  · intro call cursor _; rfl
  · intro call cursor halt _ _; rfl
  · intro call cursor page halt _ _ h; cases h
  · intro call cursor page halt _ _ h; cases h
  · intro call cursor page _ _ _; rfl
  · intro call cursor page next rest _ _ _ ih h; exact ih h

/-! ## What the committed pages delivered

Page by page is all at once, because the watermark ends the loop. -/

theorem reached_append_of_forall {l₁ l₂ : List NormalizedReview}
    (h : l₁.any (atOrBelow stopAt) = false) :
    reached stopAt (l₁ ++ l₂) = reached stopAt l₁ ++ reached stopAt l₂ := by
  induction l₁ with
  | nil => rfl
  | cons review l₁ ih =>
      rw [List.any_cons, Bool.or_eq_false_iff] at h
      simp only [reached, List.cons_append, List.takeWhile_cons, h.1, Bool.not_false, if_true]
      exact congrArg (review :: ·) (ih h.2)

theorem reached_append_of_exists {l₁ l₂ : List NormalizedReview}
    (h : l₁.any (atOrBelow stopAt) = true) :
    reached stopAt (l₁ ++ l₂) = reached stopAt l₁ := by
  induction l₁ with
  | nil => cases h
  | cons review l₁ ih =>
      rw [List.any_cons, Bool.or_eq_true] at h
      cases hstop : atOrBelow stopAt review with
      | true => simp only [reached, List.cons_append, List.takeWhile_cons, hstop, Bool.not_true,
          Bool.false_eq_true, if_false]
      | false =>
          simp only [reached, List.cons_append, List.takeWhile_cons, hstop, Bool.not_false, if_true]
          exact congrArg (review :: ·) (ih (h.resolve_left (by rw [hstop]; decide)))

/-- Reviews listed later are reached only past all the earlier ones. -/
theorem reached_mono {l₁ l₂ : List NormalizedReview} (h : l₁ <+: l₂) :
    reached stopAt l₁ <+: reached stopAt l₂ := by
  obtain ⟨l, rfl⟩ := h
  cases hany : l₁.any (atOrBelow stopAt) with
  | true => rw [reached_append_of_exists hany]
  | false => rw [reached_append_of_forall hany]; exact List.prefix_append _ _

/-- The reviews the pages list, in order. -/
def listed (pages : List ReviewPage) : List NormalizedReview := pages.flatMap (·.reviews)

/-- **Page by page is all at once.**  When no page but the last met the watermark, the page-wise
early exit is one early exit over the whole listing. -/
theorem delivered_eq_reached (h : ∀ page ∈ pages.dropLast, exhausted stopAt page = false) :
    delivered stopAt pages = reached stopAt (listed pages) := by
  induction pages with
  | nil => rfl
  | cons page pages ih =>
      cases pages with
      | nil => simp [delivered, listed]
      | cons next pages =>
          rw [List.dropLast_cons_cons] at h
          have hpage : page.reviews.any (atOrBelow stopAt) = false := h page List.mem_cons_self
          have hrest : delivered stopAt (next :: pages) = reached stopAt (listed (next :: pages)) :=
            ih fun p hp => h p (List.mem_cons_of_mem _ hp)
          rw [delivered_cons, hrest, ← reached_append_of_forall hpage]
          rfl

theorem delivered_flow : delivered stopAt (flow env stopAt lifetime call cursor).pages
    = reached stopAt (listed (flow env stopAt lifetime call cursor).pages) :=
  delivered_eq_reached (exhausted_dropLast_flow env stopAt lifetime call cursor)

theorem reached_none (reviews : List NormalizedReview) : reached none reviews = reviews :=
  List.takeWhile_eq_self_iff.mpr fun _ _ => rfl

/-! ## A run over a whole walk

A walk that has an end, and a run that comes to it. -/

section

variable {walk : List ReviewPage}

/-- The committed pages are a prefix of any whole walk. -/
theorem pages_flow_isPrefix (stopAt : Option Instant) (lifetime : ℕ)
    (hwalk : IsWalk env.adapter walk) :
    (flow env stopAt lifetime 0 none).pages <+: walk := by
  rw [← pages_flow, iterPages_of_isWalk hwalk]
  exact List.take_prefix _ _

/-- What a run delivers is a prefix of what a run over the whole walk would deliver. -/
theorem delivered_flow_isPrefix (hwalk : IsWalk env.adapter walk) :
    delivered stopAt (flow env stopAt lifetime 0 none).pages <+: reached stopAt (listed walk) := by
  rw [delivered_flow]
  obtain ⟨rest, hrest⟩ := pages_flow_isPrefix stopAt lifetime hwalk
  refine reached_mono ⟨listed rest, ?_⟩
  rw [← hrest, listed, listed, listed, List.flatMap_append]

/-- **A loop that ended by itself delivered all the walk has above the watermark.** -/
theorem delivered_of_stop_none (hwalk : IsWalk env.adapter walk)
    (h : (flow env stopAt lifetime 0 none).stop = none) :
    delivered stopAt (flow env stopAt lifetime 0 none).pages = reached stopAt (listed walk) := by
  obtain ⟨last, hlast, hend⟩ := last_of_stop_none h
  rw [delivered_flow]
  rcases hend with hex | hnone
  · -- the early exit: nothing after the watermark's page is reached
    obtain ⟨rest, hrest⟩ := pages_flow_isPrefix stopAt lifetime hwalk
    have hany : (listed (flow env stopAt lifetime 0 none).pages).any (atOrBelow stopAt) = true := by
      rw [listed, List.any_flatMap, List.any_eq_true]
      exact ⟨last, List.mem_of_getLast? hlast, hex⟩
    rw [← hrest, listed, listed, List.flatMap_append]
    exact (reached_append_of_exists hany).symm
  · -- the end of the walk: every page was committed
    have hpages := pages_flow env stopAt lifetime 0 none
    have hwhole : (flow env stopAt lifetime 0 none).pages = walk := by
      have hself := iterPages_of_ended (by rw [hpages]) (hpages.symm ▸ hlast) hnone walk.length
      rw [hpages, iterPages_of_isWalk hwalk, List.take_of_length_le (by omega)] at hself
      exact hself.symm
    rw [hwhole]

end

/-! ## The page in flight

Where a run raised, and how many reviews of the page it had upserted by then. -/

theorem point_of_haltAt {point : Point} (h : env.haltAt point = some (.raised error)) :
    error.point = point := by
  rw [RunEnv.haltAt] at h
  cases hfate : env.fate point <;> rw [hfate] at h <;> cases h
  rfl

theorem point_of_fetches (h : fetches env call cursor = .error (.raised error)) :
    error.point = .fetch call := by
  rw [fetches] at h
  cases hhalt : env.haltAt (.fetch call) with
  | some halt =>
      rw [hhalt] at h
      cases h
      exact point_of_haltAt hhalt
  | none =>
      rw [hhalt] at h
      cases hp : env.adapter.fetchPage call cursor <;> rw [hp] at h <;> cases h
      rfl

/-- Upserts that were stopped did the reviews before the point that stopped them. -/
theorem upserts_of_raised {reviews : List NormalizedReview} :
    ∀ {index : ℕ}, (upserts env call index reviews).2 = some (.raised error) →
      ∃ i, error.point = .upsert call (index + i) ∧
        (upserts env call index reviews).1 = reviews.take i := by
  induction reviews with
  | nil => intro index h; cases h
  | cons review reviews ih =>
      intro index h
      rw [upserts] at h ⊢
      cases hhalt : env.haltAt (.upsert call index) with
      | some halt =>
          rw [hhalt] at h
          obtain rfl : halt = .raised error := Option.some.inj h
          exact ⟨0, point_of_haltAt hhalt, rfl⟩
      | none =>
          rw [hhalt] at h
          obtain ⟨i, hpoint, htake⟩ := ih h
          refine ⟨i + 1, ?_, congrArg (review :: ·) htake⟩
          rw [hpoint, Nat.add_right_comm, Nat.add_assoc]

theorem upserts_isPrefix (reviews : List NormalizedReview) :
    ∀ index, (upserts env call index reviews).1 <+: reviews := by
  induction reviews with
  | nil => intro index; exact List.nil_prefix
  | cons review reviews ih =>
      intro index
      rw [upserts]
      cases env.haltAt (.upsert call index) with
      | some halt => exact List.nil_prefix
      | none => exact (List.prefix_cons_inj review).mpr (ih (index + 1))

/-- The `k`-th page of a walk, counted from zero. -/
def nthPage (adapter : ReviewSourceAdapter) (call : ℕ) (cursor : Option String) (k : ℕ) :
    Option ReviewPage :=
  (iterPages adapter call cursor (k + 1))[k]?

/-- Where a page loop that had committed `k` pages raised, and what it had upserted since. -/
inductive RaisedAt (adapter : ReviewSourceAdapter) (stopAt : Option Instant) (call : ℕ)
    (cursor : Option String) (k : ℕ) : Point → Option (ReviewPage × List NormalizedReview) → Prop
  | fetch : RaisedAt adapter stopAt call cursor k (.fetch (call + k)) none
  | upsert (page : ReviewPage) (index : ℕ) (hpage : nthPage adapter call cursor k = some page) :
      RaisedAt adapter stopAt call cursor k (.upsert (call + k) index)
        (some (page, (reached stopAt page.reviews).take index))
  | commit (page : ReviewPage) (hpage : nthPage adapter call cursor k = some page) :
      RaisedAt adapter stopAt call cursor k (.commit (call + k))
        (some (page, reached stopAt page.reviews))

theorem nthPage_zero (h : fetches env call cursor = .ok page) :
    nthPage env.adapter call cursor 0 = some page := by
  rw [nthPage, iterPages_succ_of_ok (fetchPage_of_fetches h)]
  rfl

theorem nthPage_succ {next : String} {k : ℕ} (h : fetches env call cursor = .ok page)
    (hnext : page.nextCursor = some next) :
    nthPage env.adapter call cursor (k + 1) = nthPage env.adapter (call + 1) (some next) k := by
  rw [nthPage, iterPages_succ_of_ok (fetchPage_of_fetches h), hnext]
  rfl

theorem RaisedAt.next {next : String} {k : ℕ} {point : Point}
    {inFlight : Option (ReviewPage × List NormalizedReview)}
    (h : fetches env call cursor = .ok page) (hnext : page.nextCursor = some next)
    (hat : RaisedAt env.adapter stopAt (call + 1) (some next) k point inFlight) :
    RaisedAt env.adapter stopAt call cursor (k + 1) point inFlight := by
  have hcall : call + 1 + k = call + (k + 1) := by omega
  cases hat with
  | fetch => rw [hcall]; exact .fetch
  | upsert p i hp => rw [hcall]; exact .upsert p i ((nthPage_succ h hnext).trans hp)
  | commit p hp => rw [hcall]; exact .commit p ((nthPage_succ h hnext).trans hp)

/-- **A loop that raised did so on the page after its committed ones**, and the point tells how
much of that page was upserted. -/
theorem raisedAt_flow (h : (flow env stopAt lifetime call cursor).stop = some (.raised error)) :
    RaisedAt env.adapter stopAt call cursor (flow env stopAt lifetime call cursor).pages.length
      error.point (flow env stopAt lifetime call cursor).inFlight := by
  revert h
  refine flow_induct env (motive := fun call cursor f => f.stop = some (.raised error) →
    RaisedAt env.adapter stopAt call cursor f.pages.length error.point f.inFlight)
    ?_ ?_ ?_ ?_ ?_ ?_ lifetime call cursor
  · intro call cursor h; cases h
  · intro call cursor halt hfetch h
    obtain rfl : halt = .raised error := Option.some.inj h
    rw [point_of_fetches hfetch]
    exact .fetch
  · intro call cursor page halt hfetch hhalt h
    obtain rfl : halt = .raised error := Option.some.inj h
    obtain ⟨i, hpoint, htake⟩ := upserts_of_raised hhalt
    rw [hpoint, htake, Nat.zero_add]
    exact .upsert page i (nthPage_zero hfetch)
  · intro call cursor page halt hfetch hhalt h
    obtain rfl : halt = .raised error := Option.some.inj h
    rw [point_of_haltAt hhalt]
    exact .commit page (nthPage_zero hfetch)
  · intro call cursor page _ _ h; cases h
  · intro call cursor page next rest hfetch _ hnext ih h
    exact (ih h).next hfetch hnext

/-- A review some page of the walk lists. -/
def Delivers (adapter : ReviewSourceAdapter) (call : ℕ) (cursor : Option String)
    (review : NormalizedReview) : Prop :=
  ∃ k page, nthPage adapter call cursor k = some page ∧ review ∈ page.reviews

/-- A loop upserts nothing the source did not deliver. -/
theorem delivers_of_upserted (env : RunEnv) (stopAt : Option Instant) (lifetime call : ℕ)
    (cursor : Option String) :
    ∀ review ∈ (flow env stopAt lifetime call cursor).upserted stopAt,
      Delivers env.adapter call cursor review := by
  have hreached : ∀ {reviews : List NormalizedReview} {review}, review ∈ reached stopAt reviews →
      review ∈ reviews := fun h => (List.takeWhile_prefix _).subset h
  revert lifetime call cursor
  refine flow_induct env (motive := fun call cursor f =>
    ∀ review ∈ f.upserted stopAt, Delivers env.adapter call cursor review) ?_ ?_ ?_ ?_ ?_ ?_
  · intro call cursor review h; cases h
  · intro call cursor halt _ review h; cases h
  · intro call cursor page halt hfetch _ review h
    have hmem : review ∈ (upserts env call 0 (reached stopAt page.reviews)).1 := h
    exact ⟨0, page, nthPage_zero hfetch, hreached ((upserts_isPrefix _ _).subset hmem)⟩
  · intro call cursor page halt hfetch _ review h
    exact ⟨0, page, nthPage_zero hfetch, hreached h⟩
  · intro call cursor page hfetch _ review h
    have hmem : review ∈ reached stopAt page.reviews := by
      simpa [Flow.upserted, delivered] using h
    exact ⟨0, page, nthPage_zero hfetch, hreached hmem⟩
  · intro call cursor page next rest hfetch _ hnext ih review h
    have hsplit : review ∈ reached stopAt page.reviews ∨ review ∈ rest.upserted stopAt := by
      simpa [Flow.upserted, delivered, or_assoc] using h
    rcases hsplit with h | h
    · exact ⟨0, page, nthPage_zero hfetch, hreached h⟩
    · obtain ⟨k, p, hp, hmem⟩ := ih review h
      exact ⟨k + 1, p, (nthPage_succ hfetch hnext).trans hp, hmem⟩

/-! ## Everything a run can leave

The closed form of a run with the facts about its loop. -/

/-- The row a started run leaves, whatever became of the run. -/
structure LeftRow (env : RunEnv) (f : Flow) (ended : Ended Raised IngestionOutcome)
    (row : SyncRun) : Prop where
  source : row.source = env.adapter.source
  startedAt : row.startedAt = env.clock.started
  cursorState : row.cursorState = f.pages.getLast?.map cursorState
  status : row.status = .success ↔ ∃ outcome, ended = .returned outcome
  stop : row.status = .success → f.stop = none

theorem withCursor_eq (pages : List ReviewPage) (run : SyncRun) : withCursor pages run
    = { run with cursorState := (pages.getLast?.map cursorState).or run.cursorState } := by
  rw [withCursor]
  cases pages.getLast? <;> rfl

theorem failStatus_ne_success (outcome : IngestionOutcome) : failStatus outcome ≠ .success := by
  rw [failStatus]
  split_ifs <;> decide

theorem ended_ne_returned (halt : Halt) (outcome : IngestionOutcome) :
    halt.ended ≠ (.returned outcome : Ended Raised IngestionOutcome) := by
  cases halt <;> exact nofun

/-- What each verdict says about the way the run went. -/
theorem verdict_spec (env : RunEnv) (mode : Mode) (stopAt : Option Instant) :
    match verdict env mode stopAt with
    | .unstarted halt => env.firstHalt (entryPoints mode) = some halt
    | .unfinished halt => halt = .died ∨
        env.firstHalt [.failRollback, .failGet, .failCommit] = some halt ∨
        env.haltAt .finishCommit = some halt
    | .succeeded => (flow env stopAt env.lifetime 0 none).stop = none
    | .recorded error => (flow env stopAt env.lifetime 0 none).stop = some (.raised error) := by
  rw [verdict]
  cases env.firstHalt (entryPoints mode) with
  | some halt => rfl
  | none =>
      cases (flow env stopAt env.lifetime 0 none).stop with
      | none =>
          rw [ending]
          cases env.haltAt .finishCommit with
          | none => rfl
          | some halt => exact .inr (.inr rfl)
      | some halt =>
          cases halt with
          | died => exact .inl rfl
          | raised error =>
              rw [ending]
              cases env.firstHalt [.failRollback, .failGet, .failCommit] with
              | none => rfl
              | some halt => exact .inr (.inl rfl)

/-- The page of the walk a point of the page loop belongs to. -/
def Point.page? : Point → Option ℕ
  | .fetch page | .upsert page _ | .commit page => some page
  | _ => none

theorem page?_entryPoints {mode : Mode} : ∀ point ∈ entryPoints mode, point.page? = none := by
  cases mode <;> decide

theorem page?_failPoints :
    ∀ point ∈ [Point.failRollback, .failGet, .failCommit], point.page? = none := by
  decide

theorem point_mem_of_firstHalt {points : List Point}
    (h : env.firstHalt points = some (.raised error)) : error.point ∈ points := by
  obtain ⟨point, hmem, hhalt⟩ := List.exists_of_findSome?_eq_some h
  rw [point_of_haltAt hhalt]
  exact hmem

theorem eq_raised_of_ended {halt : Halt}
    (h : (halt.ended : Ended Raised IngestionOutcome) = .raised error) : halt = .raised error := by
  cases halt with
  | raised e => cases h; rfl
  | died => cases h

/-- A run that raised in its page loop was recorded by `_fail`. -/
theorem recorded_of_raised {mode : Mode} {db : Database} {k : ℕ}
    (h : (ingest env mode db).1 = .raised error) (hpage : error.point.page? = some k) :
    verdict env mode (mode.stopAt env.adapter.source db) = .recorded error := by
  rw [ingest_eq] at h
  have hspec := verdict_spec env mode (mode.stopAt env.adapter.source db)
  cases hverdict : verdict env mode (mode.stopAt env.adapter.source db) with
  | unstarted halt =>
      rw [hverdict] at h hspec
      obtain rfl := eq_raised_of_ended h
      rw [page?_entryPoints _ (point_mem_of_firstHalt hspec)] at hpage
      cases hpage
  | unfinished halt =>
      rw [hverdict] at h hspec
      obtain rfl := eq_raised_of_ended h
      rcases hspec with hdied | hfail | hfinish
      · cases hdied
      · rw [page?_failPoints _ (point_mem_of_firstHalt hfail)] at hpage
        cases hpage
      · rw [point_of_haltAt hfinish] at hpage
        cases hpage
  | succeeded => rw [hverdict] at h; cases h
  | recorded e => rw [hverdict] at h; cases h; rfl

/-- **Everything a run can leave**: the database as it was, or the committed pages and one new row. -/
theorem ingest_left (env : RunEnv) (mode : Mode) (db : Database) :
    ((ingest env mode db).2 = db ∧ ∀ outcome, (ingest env mode db).1 ≠ .returned outcome) ∨
    ∃ row, (ingest env mode db).2 = ⟨storeAll env.adapter.source
        (delivered (mode.stopAt env.adapter.source db)
          (flow env (mode.stopAt env.adapter.source db) env.lifetime 0 none).pages) db.reviews,
        db.syncRuns ++ [row]⟩ ∧
      LeftRow env (flow env (mode.stopAt env.adapter.source db) env.lifetime 0 none)
        (ingest env mode db).1 row := by
  rw [ingest_eq]
  have hspec := verdict_spec env mode (mode.stopAt env.adapter.source db)
  cases hverdict : verdict env mode (mode.stopAt env.adapter.source db) with
  | unstarted halt => exact .inl ⟨rfl, ended_ne_returned halt⟩
  | unfinished halt =>
      simp only [settle, withCursor_eq]
      refine .inr ⟨_, rfl, rfl, rfl, Option.or_none, ?_, nofun⟩
      exact ⟨nofun, fun ⟨outcome, h⟩ => absurd h (ended_ne_returned halt outcome)⟩
  | succeeded =>
      rw [hverdict] at hspec
      simp only [settle, withCursor_eq]
      refine .inr ⟨_, rfl, rfl, rfl, Option.or_none, ?_, fun _ => hspec⟩
      exact ⟨fun _ => ⟨_, rfl⟩, fun _ => rfl⟩
  | recorded error =>
      simp only [settle, withCursor_eq]
      refine .inr ⟨_, rfl, rfl, rfl, Option.or_none, ?_, ?_⟩
      · exact ⟨fun h => absurd h (failStatus_ne_success _), nofun⟩
      · exact fun h => absurd h (failStatus_ne_success _)

/-- **Everything a successful run leaves.**  Its loop ended by itself, its counters are those of the
committed pages, and its row carries them. -/
theorem ingest_returned {mode : Mode} {db : Database} {outcome : IngestionOutcome}
    (h : (ingest env mode db).1 = .returned outcome) :
    ∃ f, f = flow env (mode.stopAt env.adapter.source db) env.lifetime 0 none ∧ f.stop = none ∧
      outcome = outcomeOf env.adapter.source f.pages
        (delivered (mode.stopAt env.adapter.source db) f.pages) db.reviews ∧
      (ingest env mode db).2 = ⟨storeAll env.adapter.source
          (delivered (mode.stopAt env.adapter.source db) f.pages) db.reviews,
        db.syncRuns ++ [withOutcome .success env.clock.finished none outcome (withCursor f.pages
          (SyncRunRepository.startedRow env.adapter.source env.clock.started))]⟩ := by
  refine ⟨_, rfl, ?_⟩
  rw [ingest_eq] at h ⊢
  have hspec := verdict_spec env mode (mode.stopAt env.adapter.source db)
  cases hverdict : verdict env mode (mode.stopAt env.adapter.source db) with
  | unstarted halt =>
      rw [hverdict] at h
      exact absurd h (ended_ne_returned halt outcome)
  | unfinished halt =>
      rw [hverdict] at h
      exact absurd h (ended_ne_returned halt outcome)
  | recorded error => rw [hverdict] at h; cases h
  | succeeded =>
      rw [hverdict] at h hspec
      have hflight := inFlight_of_stop_none hspec
      cases h
      refine ⟨hspec, ?_, rfl⟩
      simp only [Flow.seen, Flow.upserted, hflight, Option.map_none, Option.toList_none,
        Option.getD_none, List.append_nil]

section

variable {mode : Mode} {db : Database} {walk : List ReviewPage}

/-- An attempt, whatever became of it, upserted a prefix of what the walk has above its
watermark. -/
theorem exists_stored (hwalk : IsWalk env.adapter walk) (mode : Mode) (db : Database) :
    ∃ stored, stored <+: reached (mode.stopAt env.adapter.source db) (listed walk) ∧
      (ingest env mode db).2.reviews = storeAll env.adapter.source stored db.reviews := by
  rcases ingest_left env mode db with ⟨hleft, -⟩ | ⟨row, hleft, -⟩
  · exact ⟨[], List.nil_prefix, by rw [hleft]; rfl⟩
  · exact ⟨_, delivered_flow_isPrefix hwalk, by rw [hleft]⟩

/-- **A successful run upserted all the walk has above its watermark.** -/
theorem reviews_of_returned (hwalk : IsWalk env.adapter walk) {outcome : IngestionOutcome}
    (h : (ingest env mode db).1 = .returned outcome) : (ingest env mode db).2.reviews
      = storeAll env.adapter.source (reached (mode.stopAt env.adapter.source db) (listed walk))
          db.reviews := by
  rcases ingest_left env mode db with ⟨-, hne⟩ | ⟨row, hleft, hrow⟩
  · exact absurd h (hne outcome)
  · rw [hleft, delivered_of_stop_none hwalk (hrow.stop (hrow.status.mpr ⟨outcome, h⟩))]

/-- **A run that did not succeed never moves a watermark.** -/
theorem watermark_of_not_returned (h : ∀ outcome, (ingest env mode db).1 ≠ .returned outcome)
    (source : String) : SyncRunRepository.watermark source (ingest env mode db).2.syncRuns
      = SyncRunRepository.watermark source db.syncRuns := by
  rcases ingest_left env mode db with ⟨hleft, -⟩ | ⟨row, hleft, hrow⟩
  · rw [hleft]
  · rw [hleft]
    refine SyncRunRepository.watermark_append_of_ne ?_
    rintro ⟨-, hsuccess⟩
    obtain ⟨outcome, houtcome⟩ := hrow.status.mp hsuccess
    exact h outcome houtcome

end

end ReviewSignal
