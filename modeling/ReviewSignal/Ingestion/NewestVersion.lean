import ReviewSignal.Ingestion.Interleaving

/-!
# Which version survives

When interleaved runs have fetched different versions of a review, no guard in the code picks the
newest one: an UPDATE sets the columns that differ from the row the run loaded, whatever the row
holds by then.

**What holds** (`concurrent_runs`), when all runs succeed:

* every compared column of a stored row is that of the row before the runs, or of a version of the review that
  one of them fetched;
* the newest version survives whenever the runs read the review in the order of their versions
  (`ReadsInOrder`): a run reads it only when every older version has been committed and no newer one has been
  read.

**What does not** (`mixed_version_survives`).  An interleaving leaves a row no version of the review ever had:
two runs have each loaded an older row, and each sends only what differs from it.

**Why the condition is on the reads.**  The columns an UPDATE sets are fixed when the row is loaded.  A run
that has read before an older version is committed may leave out just the column that version will change,
and nothing it does later makes up for it.

A run that fails rolls its page back and takes what it fetched with it; with such runs the newest version
fetched need not be stored by anyone, so they are left out.
-/

namespace ReviewSignal

open ReviewRepository Interleaving

variable {ι : Type} {s s' : Interleaving ι} {i j : ι} {id source : String}
  {table table' : ReviewTable} {run : RunProcess} {review other : NormalizedReview} {row : Review}

/-- No older version of the review is still to be committed by another run, and no newer one has been
read by another run. -/
def InOrder (s : Interleaving ι) (i : ι) (review : NormalizedReview) : Prop :=
  ∀ j, j ≠ i →
    (∀ other ∈ (s.run j).inflight ++ (s.run j).unread,
      other.sourceReviewId = review.sourceReviewId → review.updatedAt ≤ other.updatedAt) ∧
    (∀ other ∈ (s.run j).committed ++ (s.run j).inflight,
      other.sourceReviewId = review.sourceReviewId → other.updatedAt ≤ review.updatedAt)

/-- **The condition.**  The review with this id is read in the order of its versions. -/
def ReadsInOrder (id : String) (s : Interleaving ι) : RunEvent ι → Prop
  | .read i => ∀ review, (s.run i).next = some review → review.sourceReviewId = id →
      InOrder s i review
  | _ => True

instance [DecidableEq ι] [Fintype ι] (s : Interleaving ι) (i : ι) (review : NormalizedReview) :
    Decidable (InOrder s i review) :=
  inferInstanceAs (Decidable (∀ j, j ≠ i → _ ∧ _))

instance [DecidableEq ι] [Fintype ι] (id : String) (s : Interleaving ι) (event : RunEvent ι) :
    Decidable (ReadsInOrder id s event) :=
  match event with
  | .read i => inferInstanceAs (Decidable (∀ review ∈ (s.run i).next,
      review.sourceReviewId = id → InOrder s i review))
  | .decide _ | .write _ | .commit _ | .abort _ => isTrue trivial

/-- A run fetches a review once, and the versions of a review are told apart by `updated_at`. -/
structure Versions (pages : ι → List (List NormalizedReview)) : Prop where
  distinct : ∀ i, ((pages i).flatten.map (·.sourceReviewId)).Nodup
  same : ∀ i j, ∀ a ∈ (pages i).flatten, ∀ b ∈ (pages j).flatten,
    a.sourceReviewId = b.sourceReviewId → a.updatedAt = b.updatedAt → SameVersion a b

/-! ## The lists of a run

A run holds the reviews it has still to upsert, those of the open page, and those it has committed; a step
moves one review along. -/

/-- Both runs have committed, read and left to read the same reviews. -/
structure SameProgress (a b : RunProcess) : Prop where
  committed : a.committed = b.committed
  inflight : a.inflight = b.inflight
  unread : a.unread = b.unread

theorem sameProgress_setRun [DecidableEq ι] (h : SameProgress run (s.run i)) (j : ι) :
    SameProgress ((s.setRun i run).run j) (s.run j) :=
  forall_setRun (p := fun j run => SameProgress run (s.run j)) h (fun _ _ => ⟨rfl, rfl, rfl⟩) j

/-- **What a step does to the lists**, when it fails no run: a review is read, nothing moves, or the
open page is committed. -/
theorem step_progress [DecidableEq ι] [Fintype ι] {event : RunEvent ι} (h : s.step event = some s')
    (hlive : ∀ i, (s'.run i).failed = false) :
    (∃ i review, event = .read i ∧ (s.run i).next = some review ∧ s'.table = s.table ∧
      (s'.run i).committed = (s.run i).committed ∧
      (s'.run i).inflight = review :: (s.run i).inflight ∧
      (s.run i).unread = review :: (s'.run i).unread ∧ ∀ j, j ≠ i → s'.run j = s.run j) ∨
    (s'.table = s.table ∧ ∀ j, SameProgress (s'.run j) (s.run j)) ∨
    (∃ i, (s'.run i).committed = (s.run i).committed ++ (s.run i).inflight ∧
      (s'.run i).inflight = [] ∧ (s'.run i).unread = (s.run i).unread ∧
      (s.run i).inflight = (s.run i).written.map (·.1) ∧
      s'.table = publish (s.run i).written s.table ∧ ∀ j, j ≠ i → s'.run j = s.run j) := by
  cases event with
  | read i =>
      obtain ⟨review, page, pages, hphase, hpages, rfl⟩ := step_read h
      refine .inl ⟨i, review, rfl, by simp [RunProcess.next, hpages], rfl, ?_⟩
      simp +contextual [RunProcess.inflight, RunProcess.current, RunProcess.unread, hphase, hpages,
        setRun_run_of_ne]
  | decide i =>
      refine .inr (.inl ?_)
      obtain ⟨review, row, hphase, ⟨-, rfl⟩ | ⟨decision, -, rfl⟩⟩ := step_decide h
      · refine ⟨rfl, sameProgress_setRun ⟨rfl, ?_, rfl⟩⟩
        simp [RunProcess.inflight, RunProcess.current, hphase]
      · refine ⟨rfl, sameProgress_setRun ⟨rfl, ?_, rfl⟩⟩
        simp [RunProcess.inflight, RunProcess.current, hphase]
  | write i =>
      refine .inr (.inl ?_)
      obtain ⟨review, decision, hphase, -, rfl | ⟨row, -, rfl⟩⟩ := step_write h
      · have := hlive i
        simp [RunProcess.fail] at this
      · refine ⟨rfl, sameProgress_setRun ⟨rfl, ?_, rfl⟩⟩
        simp [RunProcess.inflight, RunProcess.current, hphase]
  | commit i =>
      refine .inr (.inr ⟨i, ?_⟩)
      obtain ⟨pages, hphase, hpages, rfl⟩ := step_commit h
      simp +contextual [RunProcess.inflight, RunProcess.current, RunProcess.unread, hphase, hpages,
        setRun_run_of_ne]
  | abort i =>
      obtain rfl := step_abort h
      have := hlive i
      simp [RunProcess.fail] at this

theorem live_of_setRun [DecidableEq ι] (hlive : ∀ k, ((s.setRun i run).run k).failed = false)
    (hrun : run.failed = false → (s.run i).failed = false) (k : ι) : (s.run k).failed = false := by
  have hk := hlive k
  by_cases hki : k = i
  · subst hki
    rw [setRun_run_self] at hk
    exact hrun hk
  · rwa [setRun_run_of_ne hki] at hk

/-- A failed run stays failed. -/
theorem live_of_step [DecidableEq ι] [Fintype ι] {event : RunEvent ι} (h : s.step event = some s')
    (hlive : ∀ i, (s'.run i).failed = false) : ∀ i, (s.run i).failed = false := by
  cases event with
  | read i =>
      obtain ⟨review, page, pages, -, -, rfl⟩ := step_read h
      exact live_of_setRun hlive id
  | decide i =>
      obtain ⟨review, row, -, ⟨-, rfl⟩ | ⟨decision, -, rfl⟩⟩ := step_decide h
      · exact live_of_setRun hlive id
      · exact live_of_setRun hlive id
  | write i =>
      obtain ⟨review, decision, -, -, rfl | ⟨row, -, rfl⟩⟩ := step_write h
      · exact live_of_setRun hlive nofun
      · exact live_of_setRun hlive id
  | commit i =>
      obtain ⟨pages, -, -, rfl⟩ := step_commit h
      exact live_of_setRun hlive id
  | abort i =>
      obtain rfl := step_abort h
      exact live_of_setRun hlive nofun

/-- The rows a transaction publishes. -/
theorem lookup_publish (written : List (NormalizedReview × Option Review)) (table : ReviewTable)
    (id : String) :
    (∃ review row, (review, some row) ∈ written ∧ review.sourceReviewId = id ∧
      (publish written table).lookup id = some row) ∨
    ((∀ review row, (review, some row) ∈ written → review.sourceReviewId ≠ id) ∧
      (publish written table).lookup id = table.lookup id) := by
  induction written with
  | nil => exact .inr ⟨fun _ _ h => absurd h List.not_mem_nil, rfl⟩
  | cons entry written ih =>
      obtain ⟨review, _ | row⟩ := entry
      · rcases ih with ⟨review', row', hmem, hid, hlookup⟩ | ⟨hnot, hlookup⟩
        · exact .inl ⟨review', row', List.mem_cons_of_mem _ hmem, hid, hlookup⟩
        · refine .inr ⟨fun review' row' hmem => ?_, hlookup⟩
          rcases List.mem_cons.mp hmem with heq | hmem
          · cases heq
          · exact hnot review' row' hmem
      · by_cases hid : review.sourceReviewId = id
        · refine .inl ⟨review, row, List.mem_cons_self, hid, ?_⟩
          subst hid
          exact Finmap.lookup_insert _
        · have hkeep : (publish ((review, some row) :: written) table).lookup id
              = (publish written table).lookup id :=
            Finmap.lookup_insert_of_ne _ (Ne.symm hid)
          rw [hkeep]
          rcases ih with ⟨review', row', hmem, hid', hlookup⟩ | ⟨hnot, hlookup⟩
          · exact .inl ⟨review', row', List.mem_cons_of_mem _ hmem, hid', hlookup⟩
          · refine .inr ⟨fun review' row' hmem => ?_, hlookup⟩
            rcases List.mem_cons.mp hmem with heq | hmem
            · cases heq
              exact hid
            · exact hnot review' row' hmem

/-! ## What an open upsert will leave

Between the load of a row and its UPDATE the row may change.  `Lands` says what the pending statement makes
of whatever row it then meets. -/

/-- The open upsert of the review and the row versions the open page wrote leave the row in agreement
with the review, as the committed row is now. -/
structure Landing (id source : String) (table : ReviewTable) (run : RunProcess) : Prop where
  read : ∀ review row, run.phase = .read review row → review.sourceReviewId = id →
    Lands (statement source review row) (table.lookup id) review
  decided : ∀ review decision, run.phase = .decided review decision → review.sourceReviewId = id →
    Sets (some decision) review ∧ Lands (some decision) (table.lookup id) review
  written : ∀ review row, (review, some row) ∈ run.written → review.sourceReviewId = id →
    Agrees row review
  unchanged : ∀ review, (review, none) ∈ run.written → review.sourceReviewId = id →
    ∃ row, table.lookup id = some row ∧ Agrees row review

/-- It survives a change of the committed row to one that agrees with whatever is in flight. -/
theorem Landing.of_table (h : Landing id source table run)
    (htable : table'.lookup id = table.lookup id ∨ ∃ row, table'.lookup id = some row ∧
      ∀ review ∈ run.inflight, review.sourceReviewId = id → Agrees row review) :
    Landing id source table' run := by
  rcases htable with hsame | ⟨row, hrow, hagrees⟩
  · constructor
    · rw [hsame]
      exact h.read
    · rw [hsame]
      exact h.decided
    · exact h.written
    · rw [hsame]
      exact h.unchanged
  · constructor
    · intro review loaded hphase hid
      rw [hrow]
      refine (sets_statement source review loaded).lands (hagrees review ?_ hid)
      simp [RunProcess.inflight, RunProcess.current, hphase]
    · intro review decision hphase hid
      rw [hrow]
      refine ⟨(h.decided review decision hphase hid).1,
        (h.decided review decision hphase hid).1.lands (hagrees review ?_ hid)⟩
      simp [RunProcess.inflight, RunProcess.current, hphase]
    · exact h.written
    · intro review hmem hid
      refine ⟨row, hrow, hagrees review ?_ hid⟩
      rw [RunProcess.inflight, List.mem_append, List.mem_map]
      exact .inr ⟨_, hmem, rfl⟩

section Landing

variable {loaded : Option Review} {decision : Statement}

theorem Landing.reads (h : Landing id source table run) (rest : List (List NormalizedReview))
    (hloaded : loaded = table.lookup review.sourceReviewId) :
    Landing id source table { run with phase := .read review loaded, pages := rest } where
  read review' row hread hid := by
    cases hread
    rw [hloaded, hid]
    exact lands_statement _ _ _
  decided := by simp
  written := h.written
  unchanged := h.unchanged

theorem Landing.leaves (h : Landing id source table run) (hphase : run.phase = .read review loaded)
    (hdecision : statement source review loaded = none) :
    Landing id source table
      { run with phase := .ready, written := (review, none) :: run.written } where
  read := by simp
  decided := by simp
  written other row hmem hid := by
    rcases List.mem_cons.mp hmem with heq | hmem
    · cases heq
    · exact h.written other row hmem hid
  unchanged other hmem hid := by
    rcases List.mem_cons.mp hmem with heq | hmem
    · cases heq
      obtain ⟨landed, heffect, hagrees⟩ := h.read review loaded hphase hid
      rw [hdecision] at heffect
      exact ⟨landed, heffect, hagrees⟩
    · exact h.unchanged other hmem hid

theorem Landing.decides (h : Landing id source table run) (hphase : run.phase = .read review loaded)
    (hdecision : statement source review loaded = some decision) :
    Landing id source table { run with phase := .decided review decision } where
  read := by simp
  decided other decision' hdecided hid := by
    cases hdecided
    rw [← hdecision]
    exact ⟨sets_statement _ _ _, h.read review loaded hphase hid⟩
  written := h.written
  unchanged := h.unchanged

theorem Landing.writes (h : Landing id source table run)
    (hphase : run.phase = .decided review decision)
    (heffect : effect (some decision) (table.lookup review.sourceReviewId) = some row) :
    Landing id source table
      { run with phase := .ready, written := (review, some row) :: run.written } where
  read := by simp
  decided := by simp
  written other row' hmem hid := by
    rcases List.mem_cons.mp hmem with heq | hmem
    · cases heq
      obtain ⟨-, landed, hlanded, hagrees⟩ := h.decided review decision hphase hid
      rw [hid, hlanded] at heffect
      obtain rfl := Option.some.inj heffect
      exact hagrees
    · exact h.written other row' hmem hid
  unchanged other hmem hid := by
    rcases List.mem_cons.mp hmem with heq | hmem
    · cases heq
    · exact h.unchanged other hmem hid

end Landing

/-! ## The invariant

Three parts: no review is lost or read twice, what is in flight will land, and what is superseded is stored in
a version no older. -/

/-- Some committed version is no older than the review, and the row agrees with it. -/
def Superseded (s : Interleaving ι) (review : NormalizedReview) : Prop :=
  ∃ j, ∃ other ∈ (s.run j).committed, other.sourceReviewId = review.sourceReviewId ∧
    review.updatedAt ≤ other.updatedAt ∧
    ∃ row, s.table.lookup review.sourceReviewId = some row ∧ Agrees row other

/-- No run lost a review or read one twice. -/
def Accounted (pages : ι → List (List NormalizedReview)) (s : Interleaving ι) : Prop :=
  ∀ i, (s.run i).all.Perm (pages i).flatten

/-- **The invariant** for one review, while no run has failed. -/
structure Coordinated (pages : ι → List (List NormalizedReview)) (id : String)
    (s : Interleaving ι) : Prop where
  accounted : Accounted pages s
  landing : ∀ i, Landing id s.source s.table (s.run i)
  inOrder : ∀ i, ∀ review ∈ (s.run i).inflight, review.sourceReviewId = id → InOrder s i review
  newest : ∀ i, ∀ review ∈ (s.run i).committed, review.sourceReviewId = id → Superseded s review

variable {pages : ι → List (List NormalizedReview)}

theorem accounted_start : Accounted pages (.start source table pages) := by
  intro i
  simp [RunProcess.all, RunProcess.inflight, RunProcess.current, RunProcess.unread, start,
    RunProcess.start]

theorem coordinated_start : Coordinated pages id (.start source table pages) where
  accounted := accounted_start
  landing i := by constructor <;> simp [start, RunProcess.start]
  inOrder i := by simp [start, RunProcess.start, RunProcess.inflight, RunProcess.current]
  newest i := by simp [start, RunProcess.start]

theorem Accounted.step [DecidableEq ι] [Fintype ι] (h : Accounted pages s) {event : RunEvent ι}
    (hstep : s.step event = some s') (hlive : ∀ i, (s'.run i).failed = false) :
    Accounted pages s' := by
  intro j
  refine List.Perm.trans ?_ (h j)
  rcases step_progress hstep hlive with
    ⟨i, review, -, -, -, hcommitted, hinflight, hunread, hothers⟩ | ⟨-, hsame⟩ |
    ⟨i, hcommitted, hinflight, hunread, -, -, hothers⟩
  · by_cases hj : j = i
    · subst hj
      rw [RunProcess.all, RunProcess.all, hcommitted, hinflight, hunread, List.append_assoc,
        List.append_assoc, List.cons_append]
      exact List.Perm.append_left _ List.perm_middle.symm
    · rw [hothers j hj]
  · rw [RunProcess.all, RunProcess.all, (hsame j).committed, (hsame j).inflight, (hsame j).unread]
  · by_cases hj : j = i
    · subst hj
      rw [RunProcess.all, RunProcess.all, hcommitted, hinflight, hunread, List.append_nil]
    · rw [hothers j hj]

/-- The reviews of a run are told apart by their ids. -/
theorem Accounted.nodup (h : Accounted pages s) (hversions : Versions pages) (i : ι) :
    ((s.run i).all.map (·.sourceReviewId)).Nodup :=
  ((h i).map _).nodup_iff.mpr (hversions.distinct i)

theorem Accounted.eq_of_id (h : Accounted pages s) (hversions : Versions pages)
    {a b : NormalizedReview} (ha : a ∈ (s.run i).all) (hb : b ∈ (s.run i).all)
    (hid : a.sourceReviewId = b.sourceReviewId) : a = b :=
  injOn_of_nodup (h.nodup hversions i) ha hb hid

theorem mem_all_of_written {loaded : Option Review} (h : (review, loaded) ∈ run.written) :
    review ∈ run.all := by
  rw [RunProcess.all, RunProcess.inflight]
  simp only [List.mem_append, List.mem_map]
  exact .inl (.inr (.inr ⟨_, h, rfl⟩))

theorem mem_inflight_of_written {loaded : Option Review} (h : (review, loaded) ∈ run.written) :
    review ∈ run.inflight := by
  rw [RunProcess.inflight, List.mem_append, List.mem_map]
  exact .inr ⟨_, h, rfl⟩

/-- The open page wrote no row of a review it is about to write or to read. -/
theorem ne_of_written (hnodup : (run.all.map (·.sourceReviewId)).Nodup) {loaded : Option Review}
    (hother : (other, loaded) ∈ run.written) (hreview : review ∈ run.current ++ run.unread) :
    other.sourceReviewId ≠ review.sourceReviewId := by
  have hmem : other ∈ run.written.map (·.1) := List.mem_map.mpr ⟨_, hother, rfl⟩
  have hperm : run.all.Perm
      (run.written.map (·.1) ++ (run.current ++ run.unread) ++ run.committed) := by
    rw [RunProcess.all, RunProcess.inflight, List.append_assoc, List.append_assoc]
    refine List.perm_append_comm.trans (List.Perm.append_right _ ?_)
    rw [← List.append_assoc, ← List.append_assoc]
    exact List.Perm.append_right _ List.perm_append_comm
  rw [(hperm.map _).nodup_iff, List.map_append, List.map_append] at hnodup
  exact (List.nodup_append.mp (List.nodup_append.mp hnodup).1).2.2 _ (List.mem_map_of_mem hmem) _
    (List.mem_map_of_mem hreview)

/-- A run sees the committed row of a review its open page has not written. -/
theorem visible_of_notMem
    (h : ∀ other row, (other, some row) ∈ (s.run i).written → other.sourceReviewId ≠ id) :
    s.visible i id = s.table.lookup id := by
  rcases lookup_publish (s.run i).written s.table id with ⟨other, row, hmem, hid, -⟩ | ⟨-, hlookup⟩
  · exact absurd hid (h other row hmem)
  · exact hlookup

/-- Reads stay in order: a run that reads a version another one has in flight reads the same one. -/
theorem Coordinated.inOrder_step [DecidableEq ι] [Fintype ι] (h : Coordinated pages id s) {event : RunEvent ι}
    (hstep : s.step event = some s') (hlive : ∀ i, (s'.run i).failed = false)
    (horder : ReadsInOrder id s event) :
    ∀ k, ∀ review ∈ (s'.run k).inflight, review.sourceReviewId = id → InOrder s' k review := by
  intro k review hmem hid j hj
  rcases step_progress hstep hlive with
    ⟨i, new, rfl, hnext, -, hcommitted, hinflight, hunread, hothers⟩ | ⟨-, hsame⟩ |
    ⟨i, hcommitted, hinflight, hunread, -, -, hothers⟩
  · have hnew : new.sourceReviewId = id → InOrder s i new := horder new hnext
    by_cases hk : k = i
    · subst hk
      rw [hothers j hj]
      rw [hinflight, List.mem_cons] at hmem
      rcases hmem with rfl | hmem
      · exact hnew hid j hj
      · exact h.inOrder k review hmem hid j hj
    · rw [hothers k hk] at hmem
      have hold := h.inOrder k review hmem hid j hj
      by_cases hji : j = i
      · subst hji
        constructor
        · intro other hother
          refine hold.1 other ?_
          rw [hinflight] at hother
          rw [hunread]
          simpa [or_comm, or_left_comm] using hother
        · intro other hother hsame
          rw [hcommitted, hinflight, List.mem_append, List.mem_cons] at hother
          rcases hother with hother | rfl | hother
          · exact hold.2 other (List.mem_append_left _ hother) hsame
          · exact (hnew (hsame.trans hid) k hk).1 review (List.mem_append_left _ hmem) hsame.symm
          · exact hold.2 other (List.mem_append_right _ hother) hsame
      · rw [hothers j hji]
        exact hold
  · rw [(hsame k).inflight] at hmem
    rw [(hsame j).committed, (hsame j).inflight, (hsame j).unread]
    exact h.inOrder k review hmem hid j hj
  · by_cases hk : k = i
    · subst hk
      rw [hinflight] at hmem
      cases hmem
    · rw [hothers k hk] at hmem
      have hold := h.inOrder k review hmem hid j hj
      by_cases hji : j = i
      · subst hji
        rw [hcommitted, hinflight, hunread, List.append_nil, List.nil_append]
        exact ⟨fun other hother => hold.1 other (List.mem_append_right _ hother), hold.2⟩
      · rw [hothers j hji]
        exact hold

/-- A row version of the review that a run publishes agrees with what any other run has in flight for
it: both are the same version. -/
theorem Coordinated.agrees_of_inflight (h : Coordinated pages id s) (hversions : Versions pages)
    (hij : i ≠ j) (hreview : review ∈ (s.run i).inflight) (hid : review.sourceReviewId = id)
    (hother : other ∈ (s.run j).inflight) (hid' : other.sourceReviewId = id)
    (hagrees : Agrees row review) : Agrees row other := by
  have horder := h.inOrder i review hreview hid j hij.symm
  have hsame : other.sourceReviewId = review.sourceReviewId := hid'.trans hid.symm
  have hstamp : review.updatedAt = other.updatedAt :=
    le_antisymm (horder.1 other (List.mem_append_left _ hother) hsame)
      (horder.2 other (List.mem_append_right _ hother) hsame)
  have hall : ∀ {k r}, r ∈ (s.run k).inflight → r ∈ (pages k).flatten := fun {k r} hr =>
    (h.accounted k).mem_iff.mp (by simp [RunProcess.all, hr])
  exact agrees_of_sameVersion hagrees
    (hversions.same i j review (hall hreview) other (hall hother) hsame.symm hstamp)

theorem Coordinated.landing_setRun [DecidableEq ι] (h : Coordinated pages id s)
    (hrun : Landing id s.source s.table run) (k : ι) :
    Landing id s.source s.table ((s.setRun i run).run k) :=
  forall_setRun (p := fun _ run => Landing id s.source s.table run) hrun (fun k _ => h.landing k) k

/-- **What is in flight keeps landing.** -/
theorem Coordinated.landing_step [DecidableEq ι] [Fintype ι] (h : Coordinated pages id s)
    (hversions : Versions pages) {event : RunEvent ι} (hstep : s.step event = some s')
    (hlive : ∀ i, (s'.run i).failed = false) (k : ι) :
    Landing id s'.source s'.table (s'.run k) := by
  have hnodup := h.accounted.nodup hversions
  cases event with
  | read i =>
      obtain ⟨review, page, rest, -, hpages, rfl⟩ := step_read hstep
      refine h.landing_setRun
        ((h.landing i).reads _ (visible_of_notMem fun other row hmem => ?_)) k
      refine ne_of_written (hnodup i) hmem (List.mem_append_right _ ?_)
      simp [RunProcess.unread, hpages]
  | decide i =>
      obtain ⟨review, row, hphase, ⟨hdecision, rfl⟩ | ⟨decision, hdecision, rfl⟩⟩ :=
        step_decide hstep
      · exact h.landing_setRun ((h.landing i).leaves hphase hdecision) k
      · exact h.landing_setRun ((h.landing i).decides hphase hdecision) k
  | write i =>
      obtain ⟨review, decision, hphase, -, rfl | ⟨row, heffect, rfl⟩⟩ := step_write hstep
      · have hi := hlive i
        simp [RunProcess.fail] at hi
      · have hvisible : s.visible i review.sourceReviewId
            = s.table.lookup review.sourceReviewId := by
          refine visible_of_notMem fun other row hmem => ?_
          refine ne_of_written (hnodup i) hmem (List.mem_append_left _ ?_)
          simp [RunProcess.current, hphase]
        rw [hvisible] at heffect
        exact h.landing_setRun ((h.landing i).writes hphase heffect) k
  | commit i =>
      obtain ⟨rest, hphase, -, rfl⟩ := step_commit hstep
      refine forall_setRun (p := fun _ run => Landing id s.source _ run) ?_ (fun k hki => ?_) k
      · constructor <;> simp [hphase]
      · refine (h.landing k).of_table ?_
        rcases lookup_publish (s.run i).written s.table id with
          ⟨review, row, hmem, hid, hlookup⟩ | ⟨-, hlookup⟩
        · refine .inr ⟨row, hlookup, fun other hother hid' => ?_⟩
          exact h.agrees_of_inflight hversions (Ne.symm hki) (mem_inflight_of_written hmem) hid
            hother hid' ((h.landing i).written review row hmem hid)
        · exact .inl hlookup
  | abort i =>
      obtain rfl := step_abort hstep
      have hi := hlive i
      simp [RunProcess.fail] at hi

/-- **The newest committed version is the one stored.** -/
theorem Coordinated.newest_step [DecidableEq ι] [Fintype ι] (h : Coordinated pages id s)
    (hversions : Versions pages) {event : RunEvent ι} (hstep : s.step event = some s')
    (hlive : ∀ i, (s'.run i).failed = false) :
    ∀ k, ∀ review ∈ (s'.run k).committed, review.sourceReviewId = id → Superseded s' review := by
  intro k review hmem hid
  rcases step_progress hstep hlive with
    ⟨i, new, -, -, htable, hcommitted, -, -, hothers⟩ | ⟨htable, hsame⟩ |
    ⟨i, hcommitted, -, -, hinflight, htable, hothers⟩
  · have hkept : ∀ j, (s'.run j).committed = (s.run j).committed := by
      intro j
      by_cases hj : j = i
      · rw [hj, hcommitted]
      · rw [hothers j hj]
    rw [hkept] at hmem
    simp only [Superseded, hkept, htable]
    exact h.newest k review hmem hid
  · rw [(hsame k).committed] at hmem
    simp only [Superseded, (hsame _).committed, htable]
    exact h.newest k review hmem hid
  · rcases lookup_publish (s.run i).written s.table id with
      ⟨new, row, hnew, hnewid, hlookup⟩ | ⟨hnot, hlookup⟩
    · -- the committed page wrote the row: its version is no older
      have hinflightNew : new ∈ (s.run i).inflight := mem_inflight_of_written hnew
      refine ⟨i, new, ?_, hnewid.trans hid.symm, ?_, row, ?_,
        (h.landing i).written new row hnew hnewid⟩
      · rw [hcommitted]
        exact List.mem_append_right _ hinflightNew
      · by_cases hk : k = i
        · subst hk
          have hall : review ∈ (s.run k).all := by
            rw [hcommitted] at hmem
            exact List.mem_append_left _ hmem
          rw [h.accounted.eq_of_id hversions hall (mem_all_of_written hnew) (hid.trans hnewid.symm)]
        · rw [hothers k hk] at hmem
          exact (h.inOrder i new hinflightNew hnewid k hk).2 review (List.mem_append_left _ hmem)
            (hid.trans hnewid.symm)
      · rw [htable, hid, hlookup]
    · -- it did not: the row is as before
      have hgrow : ∀ j, ∀ other ∈ (s.run j).committed, other ∈ (s'.run j).committed := by
        intro j other hother
        by_cases hj : j = i
        · subst hj
          rw [hcommitted]
          exact List.mem_append_left _ hother
        · rwa [hothers j hj]
      have hold : review ∈ (s.run k).committed → Superseded s' review := by
        intro hmem
        obtain ⟨j, other, hother, hsame, hle, row, hrow, hagrees⟩ := h.newest k review hmem hid
        refine ⟨j, other, hgrow j other hother, hsame, hle, row, ?_, hagrees⟩
        rw [htable, hid, hlookup, ← hid, hrow]
      by_cases hk : k = i
      · subst hk
        have hmem' := hmem
        rw [hcommitted, List.mem_append] at hmem
        rcases hmem with hmem | hmem
        · exact hold hmem
        · rw [hinflight, List.mem_map] at hmem
          obtain ⟨⟨_, loaded⟩, hwritten, rfl⟩ := hmem
          cases loaded with
          | some row => exact absurd hid (hnot _ row hwritten)
          | none =>
              obtain ⟨row, hrow, hagrees⟩ := (h.landing k).unchanged _ hwritten hid
              refine ⟨k, _, hmem', rfl, le_rfl, row, ?_, hagrees⟩
              rw [htable, hid, hlookup, hrow]
      · rw [hothers k hk] at hmem
        exact hold hmem

theorem Coordinated.step [DecidableEq ι] [Fintype ι] (h : Coordinated pages id s)
    (hversions : Versions pages) {event : RunEvent ι} (hstep : s.step event = some s')
    (hlive : ∀ i, (s'.run i).failed = false) (horder : ReadsInOrder id s event) :
    Coordinated pages id s' where
  accounted := h.accounted.step hstep hlive
  landing := h.landing_step hversions hstep hlive
  inOrder := h.inOrder_step hstep hlive horder
  newest := h.newest_step hversions hstep hlive

/-! ## Where the columns of a row come from

Without any condition: no column is ever made up. -/

/-- Every compared column is the one of the row before the runs, or of a version one of them
fetched. -/
def ColumnsFrom (table : ReviewTable) (pages : ι → List (List NormalizedReview)) (id : String)
    (row : Review) : Prop :=
  ∀ ⦃α : Type⦄ ⦃f : Review → α⦄ ⦃g : NormalizedReview → α⦄, Compared f g →
    (∃ old, table.lookup id = some old ∧ f row = f old) ∨
      ∃ i, ∃ review ∈ (pages i).flatten, review.sourceReviewId = id ∧ f row = g review

/-- The rows committed and written, and the decisions made, all come from there. -/
structure Traced (table : ReviewTable) (pages : ι → List (List NormalizedReview))
    (s : Interleaving ι) : Prop where
  accounted : Accounted pages s
  stored : ∀ id row, s.table.lookup id = some row → ColumnsFrom table pages id row
  written : ∀ i review row, (review, some row) ∈ (s.run i).written →
    ColumnsFrom table pages review.sourceReviewId row
  decided : ∀ i review decision, (s.run i).phase = .decided review decision →
    Sets (some decision) review

theorem traced_start : Traced table pages (.start source table pages) where
  accounted := accounted_start
  stored id row hrow α f g _ := .inl ⟨row, hrow, rfl⟩
  written i := by simp [start, RunProcess.start]
  decided i := by simp [start, RunProcess.start]

theorem Traced.visible (h : Traced table pages s) (hrow : s.visible i id = some row) :
    ColumnsFrom table pages id row := by
  rw [Interleaving.visible] at hrow
  rcases lookup_publish (s.run i).written s.table id with ⟨other, new, hmem, rfl, hlookup⟩ |
    ⟨-, hlookup⟩
  · rw [hlookup, Option.some.injEq] at hrow
    exact hrow ▸ h.written i other new hmem
  · exact h.stored id row (hlookup ▸ hrow)

/-- A write leaves columns of the review and of the row it met. -/
theorem Traced.effect (h : Traced table pages s) {decision : Statement}
    (hphase : (s.run i).phase = .decided review decision)
    (heffect : effect (some decision) (s.visible i review.sourceReviewId) = some row) :
    ColumnsFrom table pages review.sourceReviewId row := by
  intro α f g hcolumn
  rcases h.decided i review decision hphase hcolumn heffect with hnew | ⟨old, hold, hkept⟩
  · refine .inr ⟨i, review, (h.accounted i).mem_iff.mp ?_, rfl, hnew⟩
    simp [RunProcess.all, RunProcess.inflight, RunProcess.current, hphase]
  · rw [hkept]
    exact h.visible hold hcolumn

theorem Traced.setRun [DecidableEq ι] (h : Traced table pages s)
    (haccounted : Accounted pages (s.setRun i run))
    (hwritten : ∀ review row, (review, some row) ∈ run.written →
      ColumnsFrom table pages review.sourceReviewId row)
    (hdecided : ∀ review decision, run.phase = .decided review decision →
      Sets (some decision) review) : Traced table pages (s.setRun i run) where
  accounted := haccounted
  stored := h.stored
  written := forall_setRun (p := fun _ run => ∀ review row, (review, some row) ∈ run.written →
    ColumnsFrom table pages review.sourceReviewId row) hwritten fun k _ => h.written k
  decided := forall_setRun (p := fun _ run => ∀ review decision,
    run.phase = .decided review decision → Sets (some decision) review) hdecided
    fun k _ => h.decided k

theorem Traced.step [DecidableEq ι] [Fintype ι] (h : Traced table pages s) {event : RunEvent ι}
    (hstep : s.step event = some s') (hlive : ∀ i, (s'.run i).failed = false) :
    Traced table pages s' := by
  have haccounted := h.accounted.step hstep hlive
  cases event with
  | read i =>
      obtain ⟨review, page, rest, -, -, rfl⟩ := step_read hstep
      exact h.setRun haccounted (h.written i) (by simp)
  | decide i =>
      obtain ⟨review, loaded, -, ⟨-, rfl⟩ | ⟨decision, hdecision, rfl⟩⟩ := step_decide hstep
      · refine h.setRun haccounted (fun other row hmem => ?_) (by simp)
        rcases List.mem_cons.mp hmem with heq | hmem
        · cases heq
        · exact h.written i other row hmem
      · refine h.setRun haccounted (h.written i) (fun other decision' hphase => ?_)
        cases hphase
        exact hdecision ▸ sets_statement s.source review loaded
  | write i =>
      obtain ⟨review, decision, hphase, -, rfl | ⟨row, heffect, rfl⟩⟩ := step_write hstep
      · exact h.setRun haccounted (by simp [RunProcess.fail]) (by simp [RunProcess.fail])
      · refine h.setRun haccounted (fun other row' hmem => ?_) (by simp)
        rcases List.mem_cons.mp hmem with heq | hmem
        · cases heq
          exact h.effect hphase heffect
        · exact h.written i other row' hmem
  | commit i =>
      obtain ⟨rest, hphase, -, rfl⟩ := step_commit hstep
      refine ⟨haccounted, fun id row hrow => h.visible hrow, fun k => ?_, fun k => ?_⟩
      · by_cases hk : k = i
        · subst hk
          simp
        · simpa [setRun_run_of_ne hk] using h.written k
      · by_cases hk : k = i
        · subst hk
          simp [hphase]
        · simpa [setRun_run_of_ne hk] using h.decided k
  | abort i =>
      obtain rfl := step_abort hstep
      exact h.setRun haccounted (by simp [RunProcess.fail]) (by simp [RunProcess.fail])

/-! ## Whole interleavings

By induction on the steps, and from the end of the runs to the tables they leave. -/

/-- When all runs have succeeded, everything they fetched is committed. -/
theorem Accounted.committed (h : Accounted pages s) (hdone : ∀ i, (s.run i).Succeeded) (i : ι) :
    (s.run i).committed.Perm (pages i).flatten := by
  have hall : (s.run i).all = (s.run i).committed := by
    simp [RunProcess.all, RunProcess.inflight, RunProcess.current, RunProcess.unread,
      (hdone i).phase, (hdone i).written, (hdone i).pages]
  exact hall ▸ h i

section Runs

variable [DecidableEq ι] [Fintype ι] {events : List (RunEvent ι)}

/-- What every step keeps while no run fails holds at the end of an interleaving in which none did. -/
theorem invariant_of_succeeded {p : Interleaving ι → Prop} {c : Interleaving ι → RunEvent ι → Prop}
    (hstep : ∀ s event s', p s → c s event → s.step event = some s' →
      (∀ i, (s'.run i).failed = false) → p s')
    (hstart : p (.start source table pages))
    (halong : Along step c (.start source table pages) events)
    (hrun : exec step (.start source table pages) events = some s)
    (hdone : ∀ i, (s.run i).Succeeded) : p s :=
  exec_invariant_along (p := fun s => (∀ i, (s.run i).failed = false) → p s)
    (fun _ _ _ hp hc hs hlive => hstep _ _ _ (hp (live_of_step hs hlive)) hc hs hlive)
    (fun _ => hstart) halong hrun fun i => (hdone i).failed

/-- **Interleaved runs.**  Take any interleaving of the steps of runs that all end in success.  Every
compared column of a stored row is the one of the row before, or of a version of the review that one
of the runs fetched.  And when a review is read in the order of its versions, its row agrees with the
newest version any run fetched. -/
theorem concurrent_runs (hversions : Versions pages)
    (hrun : exec step (.start source table pages) events = some s)
    (hdone : ∀ i, (s.run i).Succeeded) :
    (∀ id row, s.table.lookup id = some row → ColumnsFrom table pages id row) ∧
    ∀ id, Along step (ReadsInOrder id) (.start source table pages) events →
      ∀ i, ∀ newest ∈ (pages i).flatten, newest.sourceReviewId = id →
        (∀ j, ∀ other ∈ (pages j).flatten, other.sourceReviewId = id →
          other.updatedAt ≤ newest.updatedAt) →
        ∃ row, s.table.lookup id = some row ∧ Agrees row newest := by
  constructor
  · have htraced : Traced table pages s :=
      invariant_of_succeeded (c := fun _ _ => True)
        (fun _ _ _ h _ hstep hlive => h.step hstep hlive) traced_start (Along.trivial _ _) hrun hdone
    exact htraced.stored
  · rintro id horder i newest hmem rfl hnewest
    have hinv : Coordinated pages newest.sourceReviewId s :=
      invariant_of_succeeded (fun _ _ _ h horder hstep hlive => h.step hversions hstep hlive horder)
        coordinated_start horder hrun hdone
    have hcommitted := hinv.accounted.committed hdone
    obtain ⟨j, other, hother, hid, hle, row, hrow, hagrees⟩ :=
      hinv.newest i newest ((hcommitted i).mem_iff.mpr hmem) rfl
    have hother' := (hcommitted j).mem_iff.mp hother
    have hstamp : other.updatedAt = newest.updatedAt := le_antisymm (hnewest j other hother' hid) hle
    exact ⟨row, hrow,
      agrees_of_sameVersion hagrees (hversions.same j i other hother' newest hmem hid hstamp)⟩

end Runs

/-! ## Three versions of one review

The same two runs, overlapping and one after the other. -/

/-- The version stored before the runs, and two later ones. -/
def firstVersion : NormalizedReview := plainReview "r" none 10

def secondVersion : NormalizedReview := { plainReview "r" none 20 with rating := 4 }

def thirdVersion : NormalizedReview := plainReview "r" (some "Better now.") 30

def storedFirst : ReviewTable := storeAll "google" [firstVersion] ∅

/-- One run fetched the second version, the other one the third. -/
def twoVersions : Bool → List (List NormalizedReview)
  | false => [[secondVersion]]
  | true => [[thirdVersion]]

/-- Both runs read the row before either of them writes it. -/
def overlapping : List (RunEvent Bool) :=
  [.read false, .read true, .decide false, .decide true, .write false, .commit false, .write true,
    .commit true]

/-- The row keeps the rating of the second version under the text of the third. -/
theorem mixed_version_survives : ∃ s row,
    exec step (.start "google" storedFirst twoVersions) overlapping = some s ∧
      (∀ i, (s.run i).Succeeded) ∧ s.table.lookup "r" = some row ∧
      ¬ Agrees row firstVersion ∧ ¬ Agrees row secondVersion ∧ ¬ Agrees row thirdVersion := by
  refine ⟨_, _, rfl, ?_, rfl, by decide, by decide, by decide⟩
  intro i
  cases i <;> exact ⟨rfl, rfl, rfl, rfl⟩

/-- The run with the second version commits before the other one reads. -/
def inSequence : List (RunEvent Bool) :=
  [.read false, .decide false, .write false, .commit false, .read true, .decide true, .write true,
    .commit true]

theorem versions_twoVersions : Versions twoVersions where
  distinct i := by cases i <;> decide
  same i j a ha b hb _ hstamp := by
    cases i <;> cases j <;> simp only [twoVersions, List.flatten_cons, List.flatten_nil,
      List.append_nil, List.mem_singleton] at ha hb <;> subst ha <;> subst hb
    · exact fun _ _ _ _ => rfl
    · exact absurd hstamp (by decide)
    · exact absurd hstamp (by decide)
    · exact fun _ _ _ _ => rfl

theorem inSequence_succeeds : ∃ s,
    exec step (.start "google" storedFirst twoVersions) inSequence = some s ∧
      ∀ i, (s.run i).Succeeded := by
  refine ⟨_, rfl, ?_⟩
  intro i
  cases i <;> exact ⟨rfl, rfl, rfl, rfl⟩

theorem concurrent_runs_in_sequence : ∃ s,
    exec step (.start "google" storedFirst twoVersions) inSequence = some s ∧
      ∃ row, s.table.lookup "r" = some row ∧ Agrees row thirdVersion := by
  obtain ⟨s, hrun, hdone⟩ := inSequence_succeeds
  refine ⟨s, hrun, (concurrent_runs versions_twoVersions hrun hdone).2 "r" (by decide) true
    thirdVersion (by decide) rfl ?_⟩
  intro j other hother _
  cases j <;> simp only [twoVersions, List.flatten_cons, List.flatten_nil,
    List.append_nil, List.mem_singleton] at hother <;> subst hother <;> decide

end ReviewSignal
