import ReviewSignal.Services.IngestionFlow

/-!
# The page requests of a run

Which `fetch_page` calls the page loop makes, in order: the loop comes to the next one when the page
before it is stored whole, did not meet the watermark and names a cursor.  A call counts as made once
the loop comes to it.

* `pageRequests_call` — they are numbered in order, so the last of them is as late as there are pages;
* **`ingest_withAdapter`** — a run depends on its adapter at these calls only.

The second result is what lets a statement about requests be one about a run: an adapter that answers them
alike is as good, whatever it would have answered to others.  `Termination` counts the requests, and
`TokenLifetime` asks when they are sent.
-/

namespace ReviewSignal

open IngestionService

/-- One `fetch_page`: which fetch of the run it is, and its cursor. -/
structure PageRequest where
  call : ℕ
  cursor : Option String
  deriving DecidableEq, Repr

/-- The cursor of the fetch after a page, if the loop comes to it. -/
def nextFetch (env : RunEnv) (stopAt : Option Instant) (call : ℕ) (page : ReviewPage) :
    Option String :=
  match (upserts env call 0 (reached stopAt page.reviews)).2, env.haltAt (.commit call) with
  | none, none => if exhausted stopAt page then none else page.nextCursor
  | _, _ => none

/-- The page requests of the loop. -/
def pageRequests (env : RunEnv) (stopAt : Option Instant) :
    ℕ → ℕ → Option String → List PageRequest
  | 0, _, _ => []
  | lifetime + 1, call, cursor =>
      ⟨call, cursor⟩ ::
        match fetches env call cursor with
        | .error _ => []
        | .ok page =>
            match nextFetch env stopAt call page with
            | none => []
            | some next => pageRequests env stopAt lifetime (call + 1) (some next)

/-- The page requests of a whole run. -/
def runRequests (env : RunEnv) (mode : Mode) (stopAt : Option Instant) : List PageRequest :=
  match env.firstHalt (entryPoints mode) with
  | some _ => []
  | none => pageRequests env stopAt env.lifetime 0 none

variable {env : RunEnv} {stopAt : Option Instant} {lifetime call : ℕ} {cursor : Option String}
  {page : ReviewPage}

theorem nextFetch_eq_some {next : String} : nextFetch env stopAt call page = some next ↔
    (upserts env call 0 (reached stopAt page.reviews)).2 = none ∧
      env.haltAt (.commit call) = none ∧ exhausted stopAt page = false ∧
      page.nextCursor = some next := by
  rw [nextFetch]
  cases (upserts env call 0 (reached stopAt page.reviews)).2 <;>
    cases env.haltAt (.commit call) <;> simp

theorem flow_of_nextFetch {next : String} (h : fetches env call cursor = .ok page)
    (hnext : nextFetch env stopAt call page = some next) :
    flow env stopAt (lifetime + 1) call cursor
      = { flow env stopAt lifetime (call + 1) (some next) with
          pages := page :: (flow env stopAt lifetime (call + 1) (some next)).pages } := by
  obtain ⟨hdone, hcommit, hmore, hcursor⟩ := nextFetch_eq_some.mp hnext
  exact flow_of_next h hdone hcommit hmore hcursor

/-- A loop that does not come to another fetch is the same for every longer life. -/
theorem flow_of_no_next (h : fetches env call cursor = .ok page)
    (hnext : nextFetch env stopAt call page = none) (fuel : ℕ) :
    flow env stopAt (fuel + 1) call cursor = flow env stopAt 1 call cursor := by
  rw [nextFetch] at hnext
  cases hdone : (upserts env call 0 (reached stopAt page.reviews)).2 with
  | some halt => rw [flow_of_upsert_halt h hdone, flow_of_upsert_halt h hdone]
  | none =>
      cases hcommit : env.haltAt (.commit call) with
      | some halt => rw [flow_of_commit_halt h hdone hcommit, flow_of_commit_halt h hdone hcommit]
      | none =>
          have hlast : exhausted stopAt page = true ∨ page.nextCursor = none := by
            rw [hdone, hcommit] at hnext
            by_cases hmore : exhausted stopAt page = true
            · exact .inl hmore
            · exact .inr ((if_neg hmore).symm.trans hnext)
          rw [flow_of_last h hdone hcommit hlast, flow_of_last h hdone hcommit hlast]

/-! ## Their numbers

By induction on the fetches that are left. -/

/-- **The requests are numbered in order.** -/
theorem pageRequests_call (env : RunEnv) (stopAt : Option Instant) (lifetime call : ℕ)
    (cursor : Option String) :
    (pageRequests env stopAt lifetime call cursor).map (·.call)
      = List.range' call (pageRequests env stopAt lifetime call cursor).length := by
  induction lifetime generalizing call cursor with
  | zero => rfl
  | succ lifetime ih =>
      rw [pageRequests]
      cases fetches env call cursor with
      | error halt => rfl
      | ok page =>
          dsimp only
          cases nextFetch env stopAt call page with
          | none => rfl
          | some next =>
              rw [List.map_cons, List.length_cons, List.range'_succ]
              exact congrArg (call :: ·) (ih (call + 1) (some next))

theorem runRequests_call (env : RunEnv) (mode : Mode) (stopAt : Option Instant) :
    (runRequests env mode stopAt).map (·.call)
      = List.range' 0 (runRequests env mode stopAt).length := by
  rw [runRequests]
  cases env.firstHalt (entryPoints mode) with
  | some halt => rfl
  | none => exact pageRequests_call env stopAt env.lifetime 0 none

/-- What grows along a run stays below a bound when it does so at the last request. -/
theorem forall_runRequests_lt_iff {mode : Mode} {f : ℕ → ℤ} (hf : ∀ m n, m ≤ n → f m ≤ f n)
    (bound : ℤ) :
    (∀ request ∈ runRequests env mode stopAt, f request.call < bound) ↔
      ∀ last, (runRequests env mode stopAt).length = last + 1 → f last < bound := by
  have hcalls := runRequests_call env mode stopAt
  constructor
  · intro h last hlength
    have hmem : last ∈ (runRequests env mode stopAt).map (·.call) := by
      rw [hcalls, hlength]
      simp
    obtain ⟨request, hrequest, rfl⟩ := List.mem_map.mp hmem
    exact h request hrequest
  · intro h request hrequest
    have hmem : request.call ∈ List.range' 0 (runRequests env mode stopAt).length := by
      rw [← hcalls]
      exact List.mem_map_of_mem hrequest
    have hlt : request.call < (runRequests env mode stopAt).length := by
      simpa using hmem
    have hlast := h ((runRequests env mode stopAt).length - 1) (by omega)
    exact (hf _ _ (by omega)).trans_lt hlast

/-! ## What a run asks its adapter

The two adapters go through the loop side by side, as long as they are asked the same. -/

/-- The same environment with another adapter. -/
def RunEnv.withAdapter (env : RunEnv) (adapter : ReviewSourceAdapter) : RunEnv :=
  { env with adapter }

@[simp] theorem haltAt_withAdapter (adapter : ReviewSourceAdapter) (point : Point) :
    (env.withAdapter adapter).haltAt point = env.haltAt point := rfl

@[simp] theorem upserts_withAdapter (adapter : ReviewSourceAdapter) (call index : ℕ)
    (reviews : List NormalizedReview) :
    upserts (env.withAdapter adapter) call index reviews = upserts env call index reviews := by
  induction reviews generalizing index with
  | nil => rfl
  | cons review reviews ih => simp only [upserts, haltAt_withAdapter, ih]

theorem fetches_withAdapter {adapter : ReviewSourceAdapter}
    (h : adapter.fetchPage call cursor = env.adapter.fetchPage call cursor) :
    fetches (env.withAdapter adapter) call cursor = fetches env call cursor := by
  have hanswer : (env.withAdapter adapter).adapter.fetchPage call cursor
      = env.adapter.fetchPage call cursor := h
  rw [fetches, fetches, haltAt_withAdapter, hanswer]

/-- The loop is the same with an adapter that answers its requests alike. -/
theorem flow_withAdapter {adapter : ReviewSourceAdapter}
    (h : ∀ request ∈ pageRequests env stopAt lifetime call cursor,
      adapter.fetchPage request.call request.cursor
        = env.adapter.fetchPage request.call request.cursor) :
    flow (env.withAdapter adapter) stopAt lifetime call cursor
      = flow env stopAt lifetime call cursor := by
  induction lifetime generalizing call cursor with
  | zero => rfl
  | succ lifetime ih =>
      rw [pageRequests] at h
      have hfetch := fetches_withAdapter (h ⟨call, cursor⟩ List.mem_cons_self)
      cases hpage : fetches env call cursor with
      | error halt => rw [flow_of_fetch_error (hfetch.trans hpage), flow_of_fetch_error hpage]
      | ok page =>
          have hsame : nextFetch (env.withAdapter adapter) stopAt call page
              = nextFetch env stopAt call page := by
            simp only [nextFetch, upserts_withAdapter, haltAt_withAdapter]
          cases hnext : nextFetch env stopAt call page with
          | none =>
              rw [flow_of_no_next (hfetch.trans hpage) (hsame.trans hnext), flow_of_no_next hpage hnext]
              simp only [flow, hfetch, upserts_withAdapter, haltAt_withAdapter]
          | some next =>
              have hrest := ih fun request hrequest => h request (by
                rw [hpage]
                dsimp only
                rw [hnext]
                exact List.mem_cons_of_mem _ hrequest)
              rw [flow_of_nextFetch (hfetch.trans hpage) (hsame.trans hnext), flow_of_nextFetch hpage hnext,
                hrest]

/-- **A run depends on its adapter at its page requests only.** -/
theorem ingest_withAdapter {adapter : ReviewSourceAdapter} (mode : Mode) (db : Database)
    (hsource : adapter.source = env.adapter.source)
    (h : ∀ request ∈ runRequests env mode (mode.stopAt env.adapter.source db),
      adapter.fetchPage request.call request.cursor
        = env.adapter.fetchPage request.call request.cursor) :
    ingest (env.withAdapter adapter) mode db = ingest env mode db := by
  have hsame : (env.withAdapter adapter).adapter.source = env.adapter.source := hsource
  have hentry : (env.withAdapter adapter).firstHalt (entryPoints mode)
      = env.firstHalt (entryPoints mode) := rfl
  rw [ingest_eq, ingest_eq, hsame, verdict, verdict, hentry]
  rw [runRequests] at h
  generalize mode.stopAt env.adapter.source db = stopAt at h ⊢
  cases hhalt : env.firstHalt (entryPoints mode) with
  | some halt => rfl
  | none =>
      rw [hhalt] at h
      have hflow : flow (env.withAdapter adapter) stopAt (env.withAdapter adapter).lifetime 0 none
          = flow env stopAt env.lifetime 0 none := flow_withAdapter h
      dsimp only
      rw [hflow]
      have hsettle : settle (env.withAdapter adapter) stopAt db = settle env stopAt db := by
        funext v
        simp only [settle, hflow, hsame]
        rfl
      rw [hsettle]
      rfl

end ReviewSignal
