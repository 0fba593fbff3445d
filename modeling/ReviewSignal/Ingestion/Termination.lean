import ReviewSignal.Foundations.Orbit
import ReviewSignal.Services.IngestionWalk
import ReviewSignal.Services.PageRequests

/-!
# When a run comes to an end

`iter_pages` goes on for as long as the source issues cursors, and nothing compares a cursor with
those before it.  `GoogleProfileClient._paged` has `_MAX_PAGES` for a source that keeps issuing page
tokens; this loop has no counterpart of it.

**When it does** (`walk_ends_iff`).  Over a source that looks at the cursor only and issues finitely many of
them, every run ends after at most one fetch for each cursor and the first, if and only if the cursors
followed from the start do not repeat (`NoCursorRepeats`).  The condition speaks of the adapter and of the
watermark the run stops at: a page with a review below it is the last one, whatever its cursor.

**When it does not** (`self_referring_walk_never_ends`).  The only cursor of a source leads back to its own
page, and no number of fetches is enough.

**Why it is stated so.**  The `lifetime` of a process bounds every run of the model, so that a run ends by
itself is said of all lifetimes together (`EndsWithin`).  That the source issues finitely many cursors is a
hypothesis, without which a walk need not repeat itself to go on for ever.
-/

namespace ReviewSignal

open IngestionService

/-- The same environment with another lifetime. -/
def RunEnv.withLifetime (env : RunEnv) (lifetime : ℕ) : RunEnv := { env with lifetime }

/-- A run makes at most so many fetches, and a process that can make them can make them all. -/
structure EndsWithin (env : RunEnv) (mode : Mode) (db : Database) (bound : ℕ) : Prop where
  fetches : ∀ lifetime, (runRequests (env.withLifetime lifetime) mode
    (mode.stopAt env.adapter.source db)).length ≤ bound
  settled : ∀ lifetime, bound ≤ lifetime →
    ingest (env.withLifetime lifetime) mode db = ingest (env.withLifetime bound) mode db

/-- The cursor the loop goes on with after the page of a cursor: none after a fetch that fails, a
page that meets the watermark, or the last page. -/
def following (adapter : ReviewSourceAdapter) (stopAt : Option Instant) (cursor : Option String) :
    Option (Option String) :=
  match adapter.fetchPage 0 cursor with
  | .error _ => none
  | .ok page => if exhausted stopAt page then none else page.nextCursor.map some

/-- The loop goes on with no cursor twice. -/
def NoCursorRepeats (adapter : ReviewSourceAdapter) (stopAt : Option Instant) : Prop :=
  ∀ n, (orbit (following adapter stopAt) n none).Nodup

variable {env : RunEnv} {stopAt : Option Instant} {call lifetime : ℕ} {cursor : Option String}
  {page : ReviewPage}

/-! ## The lifetime of a run

A loop that makes fewer fetches than its process lives for does not notice. -/

@[simp] theorem upserts_withLifetime (index : ℕ) (reviews : List NormalizedReview) :
    upserts (env.withLifetime lifetime) call index reviews = upserts env call index reviews := by
  induction reviews generalizing index with
  | nil => rfl
  | cons review reviews ih =>
      have hfate : (env.withLifetime lifetime).haltAt (.upsert call index)
          = env.haltAt (.upsert call index) := rfl
      simp only [upserts, hfate, ih]

@[simp] theorem fetches_withLifetime :
    fetches (env.withLifetime lifetime) call cursor = fetches env call cursor := rfl

@[simp] theorem nextFetch_withLifetime :
    nextFetch (env.withLifetime lifetime) stopAt call page = nextFetch env stopAt call page := by
  simp only [nextFetch, upserts_withLifetime]
  rfl

theorem pageRequests_withLifetime (fuel : ℕ) :
    pageRequests (env.withLifetime lifetime) stopAt fuel call cursor
      = pageRequests env stopAt fuel call cursor := by
  induction fuel generalizing call cursor with
  | zero => rfl
  | succ fuel ih => simp only [pageRequests, fetches_withLifetime, nextFetch_withLifetime, ih]

theorem flow_withLifetime (fuel : ℕ) :
    flow (env.withLifetime lifetime) stopAt fuel call cursor = flow env stopAt fuel call cursor := by
  induction fuel generalizing call cursor with
  | zero => rfl
  | succ fuel ih =>
      simp only [flow, fetches_withLifetime, upserts_withLifetime, ih]
      rfl

/-- A loop that makes at most so many fetches needs no longer life. -/
theorem flow_of_length_le {bound : ℕ}
    (h : ∀ fuel, (pageRequests env stopAt fuel call cursor).length ≤ bound) {fuel : ℕ}
    (hfuel : bound ≤ fuel) :
    flow env stopAt fuel call cursor = flow env stopAt bound call cursor := by
  induction bound generalizing call cursor fuel with
  | zero =>
      have hone := h 1
      simp [pageRequests] at hone
  | succ bound ih =>
      obtain ⟨fuel, rfl⟩ := Nat.exists_eq_succ_of_ne_zero (by omega : fuel ≠ 0)
      cases hfetch : fetches env call cursor with
      | error halt => rw [flow_of_fetch_error hfetch, flow_of_fetch_error hfetch]
      | ok page =>
          cases hnext : nextFetch env stopAt call page with
          | none => rw [flow_of_no_next hfetch hnext fuel, flow_of_no_next hfetch hnext bound]
          | some next =>
              have hrest : ∀ fuel,
                  (pageRequests env stopAt fuel (call + 1) (some next)).length ≤ bound := by
                intro fuel
                have hlength := h (fuel + 1)
                rw [pageRequests, hfetch] at hlength
                simp only [hnext, List.length_cons] at hlength
                omega
              rw [flow_of_nextFetch hfetch hnext, flow_of_nextFetch hfetch hnext,
                ih hrest (by omega)]

/-- What a run comes to depends on its lifetime through the page loop only. -/
theorem ingest_congr_lifetime {mode : Mode} {db : Database} {first second : ℕ}
    (h : env.firstHalt (entryPoints mode) = none →
      flow env (mode.stopAt env.adapter.source db) first 0 none
        = flow env (mode.stopAt env.adapter.source db) second 0 none) :
    ingest (env.withLifetime first) mode db = ingest (env.withLifetime second) mode db := by
  have hsource (lifetime : ℕ) : (env.withLifetime lifetime).adapter = env.adapter := rfl
  have hentry (lifetime : ℕ) : (env.withLifetime lifetime).firstHalt (entryPoints mode)
      = env.firstHalt (entryPoints mode) := rfl
  have hlifetime (lifetime : ℕ) : (env.withLifetime lifetime).lifetime = lifetime := rfl
  rw [ingest_eq, ingest_eq, hsource, hsource, verdict, verdict, hentry, hentry]
  generalize mode.stopAt env.adapter.source db = stopAt at h ⊢
  cases hhalt : env.firstHalt (entryPoints mode) with
  | some halt => rfl
  | none =>
      have hflow := h hhalt
      dsimp only
      simp only [settle, hlifetime, flow_withLifetime, hflow]
      rfl

/-- **A run with so many fetches at most ends within them.** -/
theorem endsWithin_of_length_le {mode : Mode} {db : Database} {bound : ℕ}
    (h : ∀ lifetime, (runRequests (env.withLifetime lifetime) mode
      (mode.stopAt env.adapter.source db)).length ≤ bound) : EndsWithin env mode db bound where
  fetches := h
  settled := by
    intro lifetime hlifetime
    refine ingest_congr_lifetime fun hentry => flow_of_length_le (fun fuel => ?_) hlifetime
    have hhalt : (env.withLifetime fuel).firstHalt (entryPoints mode) = none := hentry
    have hlength := h fuel
    rw [runRequests, hhalt] at hlength
    dsimp only at hlength
    rw [pageRequests_withLifetime] at hlength
    exact hlength

/-! ## The cursors of a run

The fetches follow the cursors the source issues, so the loop ends when these do. -/

theorem following_of_fetchPage {adapter : ReviewSourceAdapter} (hcursor : adapter.ByCursor)
    (hfetch : adapter.fetchPage call cursor = .ok page) :
    following adapter stopAt cursor
      = if exhausted stopAt page then none else page.nextCursor.map some := by
  rw [following, hcursor 0 call, hfetch]

theorem following_of_nextFetch (hcursor : env.adapter.ByCursor)
    (hfetch : fetches env call cursor = .ok page) {next : String}
    (hnext : nextFetch env stopAt call page = some next) :
    following env.adapter stopAt cursor = some (some next) := by
  obtain ⟨-, -, hmore, hpage⟩ := nextFetch_eq_some.mp hnext
  rw [following_of_fetchPage hcursor (fetchPage_of_fetches hfetch), hmore, hpage]
  rfl

/-- The fetches of a loop follow the cursors. -/
theorem pageRequests_isPrefix (hcursor : env.adapter.ByCursor) (fuel call : ℕ)
    (cursor : Option String) :
    (pageRequests env stopAt fuel call cursor).map (·.cursor)
      <+: cursor :: orbit (following env.adapter stopAt) fuel cursor := by
  induction fuel generalizing call cursor with
  | zero => exact List.nil_prefix
  | succ fuel ih =>
      rw [pageRequests]
      cases hfetch : fetches env call cursor with
      | error halt => simp
      | ok page =>
          dsimp only
          cases hnext : nextFetch env stopAt call page with
          | none => simp
          | some next =>
              rw [List.map_cons, orbit_of_some (following_of_nextFetch hcursor hfetch hnext)]
              exact (List.prefix_cons_inj cursor).mpr (ih (call + 1) (some next))

/-- **A run whose cursors do not repeat ends**, after at most one fetch for each cursor and the first. -/
theorem endsWithin_of_noCursorRepeats (hcursor : env.adapter.ByCursor) {issued : Finset String}
    (hissued : ∀ cursor page next, env.adapter.fetchPage 0 cursor = .ok page →
      page.nextCursor = some next → next ∈ issued) {mode : Mode} {db : Database}
    (h : NoCursorRepeats env.adapter (mode.stopAt env.adapter.source db)) :
    EndsWithin env mode db (issued.card + 1) := by
  generalize hstop : mode.stopAt env.adapter.source db = stopAt at h
  have hvalues : ∀ cursor other, following env.adapter stopAt cursor = some other →
      other ∈ issued.map ⟨some, Option.some_injective _⟩ := by
    intro cursor other hother
    cases hfetch : env.adapter.fetchPage 0 cursor with
    | error exc =>
        rw [following, hfetch] at hother
        cases hother
    | ok page =>
        rw [following_of_fetchPage hcursor hfetch] at hother
        split_ifs at hother
        obtain ⟨next, hnext, rfl⟩ := Option.map_eq_some_iff.mp hother
        simpa using hissued cursor page next hfetch hnext
  refine endsWithin_of_length_le fun lifetime => ?_
  rw [hstop, runRequests]
  cases (env.withLifetime lifetime).firstHalt (entryPoints mode) with
  | some halt => exact Nat.zero_le _
  | none =>
      have hprefix := (@pageRequests_isPrefix env stopAt hcursor lifetime 0 none).length_le
      have horbit := length_orbit_le hvalues (h lifetime)
      rw [Finset.card_map] at horbit
      rw [List.length_map, List.length_cons] at hprefix
      dsimp only
      rw [pageRequests_withLifetime]
      exact hprefix.trans (Nat.add_le_add_right horbit 1)

theorem upserts_steady (adapter : ReviewSourceAdapter) (started : Instant) (call index : ℕ)
    (reviews : List NormalizedReview) :
    (upserts (.steady adapter started) call index reviews).2 = none := by
  induction reviews generalizing index with
  | nil => rfl
  | cons review reviews ih => exact ih (index + 1)

theorem nextFetch_steady (adapter : ReviewSourceAdapter) (started : Instant) (call : ℕ)
    (page : ReviewPage) : nextFetch (.steady adapter started) stopAt call page
      = if exhausted stopAt page then none else page.nextCursor := by
  rw [nextFetch, upserts_steady]
  rfl

theorem fetches_steady (adapter : ReviewSourceAdapter) (started : Instant) (call : ℕ)
    (cursor : Option String) : fetches (.steady adapter started) call cursor
      = (adapter.fetchPage call cursor).mapError fun exc => .raised ⟨.fetch call, exc⟩ := by
  show (match adapter.fetchPage call cursor with
    | .error exc => Except.error (Halt.raised ⟨.fetch call, exc⟩)
    | .ok page => .ok page) = _
  cases adapter.fetchPage call cursor <;> rfl

/-- Where nothing else stops a run, its fetches are the cursors. -/
theorem pageRequests_steady {adapter : ReviewSourceAdapter} (hcursor : adapter.ByCursor)
    (started : Instant) (fuel call : ℕ) (cursor : Option String) :
    (pageRequests (.steady adapter started) stopAt (fuel + 1) call cursor).map (·.cursor)
      = cursor :: orbit (following adapter stopAt) fuel cursor := by
  induction fuel generalizing call cursor with
  | zero =>
      rw [pageRequests]
      cases fetches (.steady adapter started) call cursor with
      | error halt => rfl
      | ok page =>
          dsimp only
          cases nextFetch (.steady adapter started) stopAt call page <;> rfl
  | succ fuel ih =>
      rw [pageRequests, fetches_steady]
      cases hpage : adapter.fetchPage call cursor with
      | error exc =>
          have hlast : following adapter stopAt cursor = none := by
            rw [following, hcursor 0 call, hpage]
          rw [orbit_of_none hlast]
          rfl
      | ok page =>
          have hgoes : following adapter stopAt cursor
              = (nextFetch (.steady adapter started) stopAt call page).map some := by
            rw [following_of_fetchPage hcursor hpage, nextFetch_steady]
            split_ifs <;> rfl
          dsimp only [Except.mapError]
          cases hnext : nextFetch (.steady adapter started) stopAt call page with
          | none =>
              rw [hnext] at hgoes
              rw [orbit_of_none hgoes]
              rfl
          | some next =>
              rw [hnext] at hgoes
              rw [orbit_of_some hgoes, ← ih (call + 1) (some next)]
              rfl

/-- A run that ends goes on with no cursor twice. -/
theorem noCursorRepeats_of_endsWithin {adapter : ReviewSourceAdapter} (hcursor : adapter.ByCursor)
    {started : Instant} {mode : Mode} {db : Database} {bound : ℕ}
    (h : EndsWithin (.steady adapter started) mode db bound) :
    NoCursorRepeats adapter (mode.stopAt adapter.source db) := by
  have hlength := h.fetches (bound + 1)
  have hentry : ((RunEnv.steady adapter started).withLifetime (bound + 1)).firstHalt
      (entryPoints mode) = none := by
    cases mode <;> rfl
  have hsource : (RunEnv.steady adapter started).adapter.source = adapter.source := rfl
  rw [hsource, runRequests, hentry] at hlength
  dsimp only at hlength
  rw [pageRequests_withLifetime] at hlength
  have hcursors := congrArg List.length
    (@pageRequests_steady (mode.stopAt adapter.source db) adapter hcursor started bound 0 none)
  rw [List.length_map, List.length_cons] at hcursors
  have hlifetime : ((RunEnv.steady adapter started).withLifetime (bound + 1)).lifetime
      = bound + 1 := rfl
  rw [hlifetime] at hlength
  exact nodup_of_stops (by omega : (orbit (following adapter (mode.stopAt adapter.source db)) bound
    none).length < bound)

/-- **When the ingestion walk terminates.**  Over a source that looks at the cursor only and issues
finitely many of them, every run ends after at most one fetch for each cursor and the first, if and
only if the cursors followed from the first page on do not repeat. -/
theorem walk_ends_iff {adapter : ReviewSourceAdapter} (hcursor : adapter.ByCursor)
    {issued : Finset String} (hissued : ∀ cursor page next, adapter.fetchPage 0 cursor = .ok page →
      page.nextCursor = some next → next ∈ issued) (mode : Mode) (db : Database) :
    (∀ env : RunEnv, env.adapter = adapter → EndsWithin env mode db (issued.card + 1)) ↔
      NoCursorRepeats adapter (mode.stopAt adapter.source db) := by
  constructor
  · intro h
    exact noCursorRepeats_of_endsWithin hcursor (h (.steady adapter 0) rfl)
  · rintro h env rfl
    exact endsWithin_of_noCursorRepeats hcursor hissued h

/-! ## Two sources

One that ends, and one that refers to itself. -/

/-- A source of two pages. -/
def twoEmptyPages : ReviewSourceAdapter :=
  servePages "google" ⟨[], some "t", 0⟩ [("t", ⟨[], none, 0⟩)]

/-- A source whose only cursor leads back to its own page. -/
def selfReferring : ReviewSourceAdapter :=
  servePages "google" ⟨[], some "t", 0⟩ [("t", ⟨[], some "t", 0⟩)]

theorem nextCursor_servePages {source : String} {first : ReviewPage}
    {rest : List (String × ReviewPage)} {issued : Finset String}
    (h : ∀ next ∈ (first :: rest.map (·.2)).filterMap (·.nextCursor), next ∈ issued)
    (cursor : Option String) (page : ReviewPage) (next : String)
    (hpage : (servePages source first rest).fetchPage 0 cursor = .ok page)
    (hnext : page.nextCursor = some next) : next ∈ issued := by
  refine h next (List.mem_filterMap.mpr ⟨page, ?_, hnext⟩)
  cases cursor with
  | none =>
      cases hpage
      exact List.mem_cons_self
  | some cursor =>
      simp only [servePages] at hpage
      cases hlookup : rest.lookup cursor with
      | none =>
          rw [hlookup] at hpage
          cases hpage
      | some found =>
          rw [hlookup] at hpage
          cases hpage
          obtain ⟨before, after, rfl, -⟩ := List.lookup_eq_some_iff.mp hlookup
          simp

/-- A backfill over two pages ends after two fetches. -/
theorem walk_ends_iff_two_pages : EndsWithin (.steady twoEmptyPages 1) .backfill .empty 2 := by
  have hissued : ∀ cursor page next, twoEmptyPages.fetchPage 0 cursor = .ok page →
      page.nextCursor = some next → next ∈ ({"t"} : Finset String) :=
    nextCursor_servePages (by decide)
  have hstops : (orbit (following twoEmptyPages none) 2 none).length < 2 := by decide
  exact (walk_ends_iff (byCursor_servePages _ _ _) hissued .backfill .empty).mpr
    (nodup_of_stops hstops) _ rfl

/-- Its only cursor leads back to itself, so no bound on the fetches is one. -/
theorem self_referring_walk_never_ends : selfReferring.ByCursor ∧
    (∀ cursor page next, selfReferring.fetchPage 0 cursor = .ok page →
      page.nextCursor = some next → next ∈ ({"t"} : Finset String)) ∧
    ∀ mode bound, ¬ EndsWithin (.steady selfReferring 1) mode .empty bound := by
  refine ⟨byCursor_servePages _ _ _, nextCursor_servePages (by decide), ?_⟩
  intro mode bound hends
  have hrepeats := noCursorRepeats_of_endsWithin (byCursor_servePages _ _ _) hends 2
  revert hrepeats
  cases mode <;> decide

end ReviewSignal
