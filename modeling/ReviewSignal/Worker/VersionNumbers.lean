import ReviewSignal.Foundations.Pool
import ReviewSignal.Worker.StorableTaxonomies

/-!
# Version numbers under concurrency

Any number of `generate` transactions at a time, statement by statement, under READ COMMITTED: each
records its model run, reads the highest number, inserts a version one above it and the nodes of that
version, and commits; or it rolls back, wherever it is.  `version_number` is unique: an insert waits
for a transaction that has inserted the same number, and fails when the number is committed.

**What is committed.**  `commitsOf` reads off a run which generations its commit steps commit, in their
order.  `committed_serial`: whatever the interleaving, the committed tables are those of these generations
one after the other, as if no two transactions had ever overlapped.  `versions_gapless` spells that out:
the numbers have neither gaps nor duplicates, and each version is there with its own run and nodes.

**Why.**  `max + 1` is read by several transactions at once, and a transaction may hold a number that is
committed by the time it inserts; the unique constraint refuses that one, and no other number can be held
but the next one (`SerialTables`, which every statement keeps: `GenerationMove.holds`).

`withStored_serial` is the link with the service: what it makes of its tables is one generation on its own.
Nothing is said about which transaction wins a race, or how often a loser is retried.
-/

namespace ReviewSignal

open TaxonomyGenerationService

/-! ## The tables and what is added to them

Rows with primary keys, since those of a transaction that is rolled back are never used again. -/

/-- The committed rows with their primary keys, in the order of the commits. -/
structure GeneratedTables where
  modelRuns : List (ModelRun × ℕ)
  versions : List (TaxonomyVersion × ℕ)
  nodes : List StoredNode
  deriving DecidableEq

/-- What one call of `generate` is to store, with the primary keys its rows get. -/
structure Generation where
  run : ModelRun
  taxonomy : GeneratedTaxonomy
  lower : String → String
  runId : ℕ
  versionId : ℕ
  /-- The key of the first node. -/
  nodeId : ℕ

namespace Generation

/-- The row of `taxonomy_versions`, with the number it was given. -/
def version (generation : Generation) (number : ℕ) : TaxonomyVersion :=
  ⟨number, .candidate, "model", some generation.runId⟩

def nodes (generation : Generation) : List StoredNode :=
  storedTree generation.lower generation.versionId generation.nodeId 0 generation.taxonomy.nodes []

end Generation

namespace GeneratedTables

/-- The committed numbers. -/
def numbers (tables : GeneratedTables) : List ℕ := tables.versions.map (·.1.versionNumber)

/-- The highest committed number, or 0. -/
def highest (tables : GeneratedTables) : ℕ := tables.numbers.foldr max 0

/-- `_next_version_number` -/
def next (tables : GeneratedTables) : ℕ := nextVersionNumber (tables.versions.map (·.1))

/-- The rows of a transaction that commits. -/
def commit (generation : Generation) (number : ℕ) (nodes : List StoredNode)
    (tables : GeneratedTables) : GeneratedTables where
  modelRuns := tables.modelRuns ++ [(generation.run, generation.runId)]
  versions := tables.versions ++ [(generation.version number, generation.versionId)]
  nodes := tables.nodes ++ nodes

/-- One generation on its own. -/
def generate (tables : GeneratedTables) (generation : Generation) : GeneratedTables :=
  tables.commit generation tables.next generation.nodes

/-- The tables of the service, whose keys are positions. -/
def ofTables (tables : TaxonomyTables) : GeneratedTables :=
  ⟨tables.modelRuns.zipIdx, tables.versions.zipIdx, keyed 0 tables.nodes⟩

end GeneratedTables

/-! ## The transactions

One statement at a time.  An INSERT waits for the transaction that holds the number it wants. -/

/-- How far a transaction is. -/
inductive GenerationState where
  | idle
  | begun (generation : Generation)
  | recorded (generation : Generation)
  /-- The highest number has been read. -/
  | numbered (generation : Generation) (number : ℕ)
  /-- The version is inserted, and these of its nodes. -/
  | storing (generation : Generation) (number : ℕ) (nodes : List StoredNode)

/-- The statements of a transaction. -/
inductive GenerationAction where
  | begin (generation : Generation)
  | recordRun
  | readHighest
  | insertVersion
  | storeNode
  | commit
  /-- A failed statement, or the end of the session or the process. -/
  | rollback

/-- What the transactions share: the committed rows, and the entries of the unique index whose
transactions have not ended. -/
structure GenerationDb (ι : Type) where
  committed : GeneratedTables
  inserted : List (ι × ℕ)

section Transactions

variable {ι : Type} [DecidableEq ι]

/-- The entries of a transaction leave the index with it. -/
def GenerationDb.release (i : ι) (db : GenerationDb ι) : List (ι × ℕ) :=
  db.inserted.filter fun entry => entry.1 ≠ i

/-- One statement of one transaction, or `none` when it cannot be executed now. -/
def generationStep (i : ι) : GenerationAction → GenerationDb ι → GenerationState →
    Option (GenerationDb ι × GenerationState)
  | .begin generation, db, .idle => some (db, .begun generation)
  | .recordRun, db, .begun generation => some (db, .recorded generation)
  | .readHighest, db, .recorded generation => some (db, .numbered generation db.committed.next)
  | .insertVersion, db, .numbered generation number =>
      if number ∈ db.inserted.map (·.2) then none  -- waits for the end of the other transaction
      else if number ∈ db.committed.numbers then some (db, .idle)  -- the unique constraint
      else some ({ db with inserted := (i, number) :: db.inserted }, .storing generation number [])
  | .storeNode, db, .storing generation number nodes =>
      (generation.nodes.drop nodes.length).head?.map fun node =>
        (db, .storing generation number (nodes ++ [node]))
  | .commit, db, .storing generation number nodes =>
      if nodes = generation.nodes then
        some (⟨db.committed.commit generation number nodes, db.release i⟩, .idle)
      else none
  | .rollback, _, .idle => none
  | .rollback, db, _ => some ({ db with inserted := db.release i }, .idle)
  | _, _, _ => none

/-- Any number of transactions. -/
def generations : Pool ι (GenerationDb ι) GenerationState → ι × GenerationAction →
    Option (Pool ι (GenerationDb ι) GenerationState) :=
  Pool.step generationStep

/-- No transaction has begun. -/
def quiet (tables : GeneratedTables) : Pool ι (GenerationDb ι) GenerationState :=
  ⟨⟨tables, []⟩, fun _ => .idle⟩

end Transactions

/-! ## What a run commits

Read off the statements, and not off the tables. -/

/-- The generation a transaction works on. -/
def GenerationState.generation : GenerationState → Option Generation
  | .idle => none
  | .begun generation => some generation
  | .recorded generation => some generation
  | .numbered generation _ => some generation
  | .storing generation _ _ => some generation

namespace GenerationAction

/-- The generation a transaction has begun with last, after a statement. -/
def begins (begun : Option Generation) : GenerationAction → Option Generation
  | .begin generation => some generation
  | _ => begun

/-- What a statement commits, of the generation its transaction has begun with. -/
def commits (begun : Option Generation) : GenerationAction → List Generation
  | .commit => begun.toList
  | _ => []

def IsCommit : GenerationAction → Prop
  | .commit => True
  | _ => False

instance : DecidablePred IsCommit
  | .commit => isTrue trivial
  | .begin _ | .recordRun | .readHighest | .insertVersion | .storeNode | .rollback => isFalse id

end GenerationAction

/-- The generations of the commits of a run, in their order.  A transaction commits the generation it has
begun with last. -/
def commitsOf {ι : Type} [DecidableEq ι] (begun : ι → Option Generation) :
    List (ι × GenerationAction) → List Generation
  | [] => []
  | (i, action) :: events =>
      action.commits (begun i)
        ++ commitsOf (Function.update begun i (action.begins (begun i))) events

/-- A run that goes on keeps what it has committed. -/
theorem commitsOf_append {ι : Type} [DecidableEq ι] (begun : ι → Option Generation)
    (events later : List (ι × GenerationAction)) :
    ∃ added, commitsOf begun (events ++ later) = commitsOf begun events ++ added := by
  induction events generalizing begun with
  | nil => exact ⟨_, rfl⟩
  | cons event events ih =>
      obtain ⟨i, action⟩ := event
      obtain ⟨added, hadded⟩ := ih (Function.update begun i (action.begins (begun i)))
      exact ⟨added, by rw [List.cons_append, commitsOf, commitsOf, hadded, List.append_assoc]⟩

/-! ## One generation after the other

The specification: a fold over the generations. -/

section Serial

variable {tables : GeneratedTables} {generation : Generation}

theorem nextVersionNumber_append (versions : List TaxonomyVersion) (version : TaxonomyVersion)
    (h : version.versionNumber = nextVersionNumber versions) :
    nextVersionNumber (versions ++ [version]) = nextVersionNumber versions + 1 := by
  have hmax : ∀ (l : List ℕ) (n : ℕ), (l ++ [n]).foldr max 0 = max (l.foldr max 0) n := by
    intro l n
    induction l with
    | nil => simp
    | cons a l ih => simp [ih, max_assoc]
  simp only [nextVersionNumber] at h ⊢
  rw [List.map_append, List.map_singleton, hmax, h]
  omega

theorem next_generate : (tables.generate generation).next = tables.next + 1 := by
  rw [GeneratedTables.next, GeneratedTables.generate, GeneratedTables.commit, List.map_append]
  exact nextVersionNumber_append _ _ rfl

theorem next_eq (tables : GeneratedTables) : tables.next = tables.highest + 1 := by
  simp [GeneratedTables.next, GeneratedTables.highest, GeneratedTables.numbers, nextVersionNumber,
    Function.comp_def]

theorem numbers_generate : (tables.generate generation).numbers = tables.numbers ++ [tables.next] := by
  simp [GeneratedTables.generate, GeneratedTables.commit, GeneratedTables.numbers, Generation.version]

/-- The numbers of generations one after the other. -/
theorem numbers_serial (generations : List Generation) (tables : GeneratedTables) :
    (generations.foldl .generate tables).next = tables.next + generations.length ∧
    (generations.foldl .generate tables).numbers
      = tables.numbers ++ List.range' tables.next generations.length := by
  induction generations generalizing tables with
  | nil => exact ⟨rfl, by simp⟩
  | cons generation generations ih =>
      obtain ⟨hnext, hnumbers⟩ := ih (tables.generate generation)
      rw [next_generate] at hnext hnumbers
      rw [numbers_generate] at hnumbers
      refine ⟨hnext.trans (by simp [Nat.add_assoc, Nat.add_comm 1]), hnumbers.trans ?_⟩
      simp [List.range'_succ]

/-- The rows of generations one after the other: each has its own run and its own nodes, and the number
after that of the one before. -/
theorem serial_eq (generations : List Generation) (tables : GeneratedTables) :
    generations.foldl .generate tables =
      { modelRuns := tables.modelRuns ++ generations.map fun generation =>
          (generation.run, generation.runId)
        versions := tables.versions ++ (generations.zipIdx tables.next).map fun numbered =>
          (numbered.1.version numbered.2, numbered.1.versionId)
        nodes := tables.nodes ++ generations.flatMap (·.nodes) } := by
  induction generations generalizing tables with
  | nil => simp
  | cons generation generations ih =>
      rw [List.foldl_cons, ih, next_generate]
      simp [GeneratedTables.generate, GeneratedTables.commit]

/-- **One generation on its own** is what the service makes of its tables. -/
theorem withStored_serial (env : TaxonomyEnv) (outcome : StructuredOutcome) (inputCount : ℕ)
    (sampleSize : ℤ) (tables : TaxonomyTables) :
    GeneratedTables.ofTables (withStored env outcome inputCount sampleSize tables) =
      (GeneratedTables.ofTables tables).generate
        { run := acceptedRun env.provider outcome inputCount sampleSize
          taxonomy := outcome.value
          lower := env.lower
          runId := tables.modelRuns.length
          versionId := tables.versions.length
          nodeId := tables.nodes.length } := by
  have hversions : (tables.versions.zipIdx).map (·.1) = tables.versions := by simp
  simp [GeneratedTables.ofTables, withStored, GeneratedTables.generate, GeneratedTables.commit,
    GeneratedTables.next, hversions, List.zipIdx_append, keyed_append, Generation.version,
    Generation.nodes, storedTree, nodeRows, sentRows]

end Serial

/-! ## The invariant

What is read may be out of date, and only downwards. -/

section Invariant

variable {ι : Type} {i j : ι} {db : GenerationDb ι} {initial : GeneratedTables}

/-- The committed tables are a serial execution, and at most one number is inserted beside them: the
next one. -/
structure SerialTables (initial : GeneratedTables) (db : GenerationDb ι) : Prop where
  serial : ∃ generations : List Generation, db.committed = generations.foldl .generate initial
  next : ∀ entry ∈ db.inserted, entry.2 = db.committed.next
  unique : (db.inserted.map (·.2)).Nodup

/-- What a transaction holds: a number it has read is not above the next one, and one it has inserted
is in the index. -/
def GenerationState.Holds (initial : GeneratedTables) (i : ι) (db : GenerationDb ι) :
    GenerationState → Prop
  | .numbered _ number => initial.next ≤ number ∧ number ≤ db.committed.next
  | .storing _ number _ => (i, number) ∈ db.inserted
  | _ => True

/-- What a transaction holds stays true while no number is taken back and its entries stay. -/
theorem GenerationState.Holds.mono {db' : GenerationDb ι} {state : GenerationState}
    (h : state.Holds initial i db) (hnext : db.committed.next ≤ db'.committed.next)
    (hentry : ∀ number, (i, number) ∈ db.inserted → (i, number) ∈ db'.inserted) :
    state.Holds initial i db' := by
  cases state with
  | numbered generation number => exact ⟨h.1, h.2.trans hnext⟩
  | storing generation number nodes => exact hentry number h
  | _ => trivial

/-- A number below the next one is committed. -/
theorem SerialTables.mem_numbers (h : SerialTables initial db) {number : ℕ}
    (hlow : initial.next ≤ number) (hhigh : number < db.committed.next) :
    number ∈ db.committed.numbers := by
  obtain ⟨generations, hserial⟩ := h.serial
  obtain ⟨hnext, hnumbers⟩ := numbers_serial generations initial
  rw [hserial, hnext] at hhigh
  rw [hserial, hnumbers, List.mem_append, List.mem_range'_1]
  exact .inr ⟨hlow, hhigh⟩

theorem SerialTables.initial_next_le (h : SerialTables initial db) :
    initial.next ≤ db.committed.next := by
  obtain ⟨generations, hserial⟩ := h.serial
  rw [hserial, (numbers_serial generations initial).1]
  omega

/-- Two transactions do not hold the next number at once. -/
theorem SerialTables.eq_of_mem (h : SerialTables initial db) {number number' : ℕ}
    (hi : (i, number) ∈ db.inserted) (hj : (j, number') ∈ db.inserted) : i = j := by
  have hsame : number = number' := (h.next _ hi).trans (h.next _ hj).symm
  exact congrArg Prod.fst (List.inj_on_of_nodup_map h.unique hi hj hsame)

end Invariant

/-! ## What one statement does

The statements as moves, each of which keeps the invariant and commits what the statement says. -/

section Steps

variable {ι : Type} [DecidableEq ι] {i j : ι} {db db' : GenerationDb ι} {state state' : GenerationState}
  {action : GenerationAction} {initial : GeneratedTables}

/-- What a statement makes of the shared tables and of its transaction. -/
inductive GenerationMove (i : ι) (db : GenerationDb ι) :
    GenerationAction → GenerationState → GenerationDb ι → GenerationState → Prop where
  | begins (generation : Generation) :
      GenerationMove i db (.begin generation) .idle db (.begun generation)
  | records (generation : Generation) :
      GenerationMove i db .recordRun (.begun generation) db (.recorded generation)
  | reads (generation : Generation) :
      GenerationMove i db .readHighest (.recorded generation) db
        (.numbered generation db.committed.next)
  | loses (generation : Generation) (number : ℕ) (h : number ∈ db.committed.numbers) :
      GenerationMove i db .insertVersion (.numbered generation number) db .idle
  | inserts (generation : Generation) (number : ℕ) (hwait : number ∉ db.inserted.map (·.2))
      (hnew : number ∉ db.committed.numbers) :
      GenerationMove i db .insertVersion (.numbered generation number)
        { db with inserted := (i, number) :: db.inserted } (.storing generation number [])
  | stores (generation : Generation) (number : ℕ) (nodes : List StoredNode) (node : StoredNode) :
      GenerationMove i db .storeNode (.storing generation number nodes) db
        (.storing generation number (nodes ++ [node]))
  | commits (generation : Generation) (number : ℕ) :
      GenerationMove i db .commit (.storing generation number generation.nodes)
        ⟨db.committed.commit generation number generation.nodes, db.release i⟩ .idle
  | rollsBack (state : GenerationState) :
      GenerationMove i db .rollback state { db with inserted := db.release i } .idle

theorem generationMove_of_step (h : generationStep i action db state = some (db', state')) :
    GenerationMove i db action state db' state' := by
  cases action with
  | begin generation =>
      cases state <;> simp [generationStep] at h
      obtain ⟨rfl, rfl⟩ := h
      exact .begins generation
  | recordRun =>
      cases state <;> simp [generationStep] at h
      obtain ⟨rfl, rfl⟩ := h
      exact .records _
  | readHighest =>
      cases state <;> simp [generationStep] at h
      obtain ⟨rfl, rfl⟩ := h
      exact .reads _
  | insertVersion =>
      cases state <;> simp only [generationStep, reduceCtorEq] at h
      split_ifs at h with hwait hcommitted
      · cases h
        exact .loses _ _ hcommitted
      · cases h
        exact .inserts _ _ hwait hcommitted
  | storeNode =>
      cases state <;> simp only [generationStep, reduceCtorEq, Option.map_eq_some_iff] at h
      obtain ⟨node, -, hnode⟩ := h
      cases hnode
      exact .stores _ _ _ node
  | commit =>
      cases state <;> simp only [generationStep, reduceCtorEq] at h
      split_ifs at h with hall
      cases h
      rw [hall]
      exact .commits _ _
  | rollback =>
      cases state <;> simp only [generationStep, reduceCtorEq] at h <;> cases h <;> exact .rollsBack _

/-- A transaction works on the generation it has begun with last. -/
theorem GenerationMove.generation {begun : Option Generation}
    (h : GenerationMove i db action state db' state')
    (hbegun : ∀ generation ∈ state.generation, begun = some generation) :
    ∀ generation ∈ state'.generation, action.begins begun = some generation := by
  cases h with
  | begins generation => simp [GenerationState.generation, GenerationAction.begins]
  | loses | commits | rollsBack => simp [GenerationState.generation]
  | records | reads | inserts | stores =>
      simpa [GenerationState.generation, GenerationAction.begins] using hbegun

/-- **What one statement commits**: the generation of a commit, with the next number, or nothing. -/
theorem GenerationMove.committed {begun : Option Generation}
    (h : GenerationMove i db action state db' state') (hdb : SerialTables initial db)
    (hself : state.Holds initial i db)
    (hbegun : ∀ generation ∈ state.generation, begun = some generation) :
    db'.committed = (action.commits begun).foldl .generate db.committed ∧
    (action.commits begun).length = if action.IsCommit then 1 else 0 := by
  cases h with
  | commits generation number =>
      have hnext : number = db.committed.next := hdb.next _ hself
      rw [hbegun generation rfl, hnext]
      exact ⟨rfl, rfl⟩
  | _ => exact ⟨rfl, rfl⟩

/-- An entry that stays when a transaction ends is another one's. -/
theorem GenerationDb.mem_release {entry : ι × ℕ} :
    entry ∈ db.release i ↔ entry ∈ db.inserted ∧ entry.1 ≠ i := by
  simp [GenerationDb.release]

theorem SerialTables.release (h : SerialTables initial db) (i : ι) :
    SerialTables initial { db with inserted := db.release i } :=
  ⟨h.serial, fun entry hentry => h.next entry (GenerationDb.mem_release.mp hentry).1,
    h.unique.sublist (List.filter_sublist.map _)⟩

/-- **One statement keeps the invariant**, for the transaction it belongs to and for the others. -/
theorem GenerationMove.holds {others : ι → GenerationState}
    (h : GenerationMove i db action state db' state') (hdb : SerialTables initial db)
    (hself : state.Holds initial i db) (hothers : ∀ j, j ≠ i → (others j).Holds initial j db) :
    SerialTables initial db' ∧ state'.Holds initial i db' ∧
      ∀ j, j ≠ i → (others j).Holds initial j db' := by
  cases h with
  | begins generation => exact ⟨hdb, trivial, hothers⟩
  | records generation => exact ⟨hdb, trivial, hothers⟩
  | reads generation => exact ⟨hdb, ⟨hdb.initial_next_le, le_rfl⟩, hothers⟩
  | loses generation number => exact ⟨hdb, trivial, hothers⟩
  | stores generation number nodes node => exact ⟨hdb, hself, hothers⟩
  | inserts generation number hwait hnew =>
      have hnext : number = db.committed.next := by
        by_contra hne
        exact hnew (hdb.mem_numbers hself.1 (lt_of_le_of_ne hself.2 hne))
      refine ⟨⟨hdb.serial, List.forall_mem_cons.mpr ⟨hnext, hdb.next⟩,
        List.nodup_cons.mpr ⟨hwait, hdb.unique⟩⟩, List.mem_cons_self, fun j hj => ?_⟩
      exact (hothers j hj).mono le_rfl fun _ => List.mem_cons_of_mem _
  | commits generation number =>
      have hnext : number = db.committed.next := hdb.next _ hself
      -- no other number is in the index
      have hreleased : db.release i = [] := by
        refine List.eq_nil_iff_forall_not_mem.mpr fun entry hentry => ?_
        obtain ⟨hmem, hne⟩ := GenerationDb.mem_release.mp hentry
        exact hne (hdb.eq_of_mem hmem hself)
      obtain ⟨generations, hserial⟩ := hdb.serial
      have hcommitted : db.committed.commit generation number generation.nodes
          = db.committed.generate generation := by
        rw [hnext]
        rfl
      rw [hcommitted, hreleased]
      refine ⟨⟨⟨generations ++ [generation], ?_⟩, nofun, .nil⟩, trivial, fun j hj => ?_⟩
      · rw [List.foldl_append, ← hserial]
        rfl
      · refine (hothers j hj).mono ?_ fun number' hmem => absurd (hdb.eq_of_mem hmem hself) hj
        rw [next_generate]
        exact Nat.le_succ _
  | rollsBack =>
      refine ⟨hdb.release i, trivial, fun j hj => ?_⟩
      exact (hothers j hj).mono le_rfl fun _ hmem => GenerationDb.mem_release.mpr ⟨hmem, hj⟩

end Steps

/-! ## Every interleaving

By induction on the statements. -/

section Interleavings

variable {ι : Type} [DecidableEq ι] {initial : GeneratedTables} {begun : ι → Option Generation}
  {events : List (ι × GenerationAction)} {s t after : Pool ι (GenerationDb ι) GenerationState}

/-- The invariant of the transactions. -/
def SerialPool (initial : GeneratedTables) (s : Pool ι (GenerationDb ι) GenerationState) : Prop :=
  s.Holds (SerialTables initial) fun i db state => state.Holds initial i db

/-- Every transaction works on the generation it has begun with last. -/
def BegunWith (begun : ι → Option Generation) (s : Pool ι (GenerationDb ι) GenerationState) : Prop :=
  ∀ i, ∀ generation ∈ (s.proc i).generation, begun i = some generation

omit [DecidableEq ι] in
theorem serialPool_quiet (initial : GeneratedTables) : SerialPool initial (quiet (ι := ι) initial) :=
  ⟨⟨⟨[], rfl⟩, nofun, .nil⟩, fun _ => trivial⟩

/-- **What a run commits**: the generations of its commit steps, one after the other.  The induction is on
the events of the run. -/
theorem SerialPool.exec_commitsOf (hs : SerialPool initial s) (hbegun : BegunWith begun s)
    (h : exec generations s events = some t) :
    SerialPool initial t ∧
    t.shared.committed = (commitsOf begun events).foldl .generate s.shared.committed ∧
    (commitsOf begun events).length = events.countP (·.2.IsCommit) := by
  induction events generalizing s begun with
  | nil =>
      cases h
      exact ⟨hs, rfl, rfl⟩
  | cons event events ih =>
      obtain ⟨i, action⟩ := event
      obtain ⟨s', hstep, hrest⟩ := exec_cons_eq_some.mp h
      obtain ⟨db, state, hact, rfl⟩ := Pool.step_eq_some.mp hstep
      have hmove := generationMove_of_step hact
      obtain ⟨hdb, hself, hothers⟩ :=
        hmove.holds hs.shared (hs.proc i) fun j _ => hs.proc j
      obtain ⟨hcommitted, hcount⟩ := hmove.committed hs.shared (hs.proc i) (hbegun i)
      have hlater : BegunWith (Function.update begun i (action.begins (begun i)))
          ⟨db, Function.update s.proc i state⟩ := by
        intro j generation hgeneration
        by_cases hj : j = i
        · subst hj
          simp only [Function.update_self] at hgeneration ⊢
          exact hmove.generation (hbegun j) generation hgeneration
        · simp only [Function.update_of_ne hj] at hgeneration ⊢
          exact hbegun j generation hgeneration
      obtain ⟨hserial, hrun, hlength⟩ := ih (.step hdb hself hothers) hlater hrest
      refine ⟨hserial, ?_, ?_⟩
      · rw [hrun, hcommitted, commitsOf, List.foldl_append]
      · rw [commitsOf, List.length_append, hcount, hlength, List.countP_cons, Nat.add_comm]
        simp

/-- **The committed tables are those of a serial execution**, of the committed generations in the
order of their commits. -/
theorem committed_serial (h : exec generations (quiet initial) events = some after) :
    after.shared.committed = (commitsOf (fun _ => none) events).foldl .generate initial ∧
    (commitsOf (fun _ => none) events).length = events.countP (·.2.IsCommit) :=
  ((serialPool_quiet initial).exec_commitsOf (fun _ _ => nofun) h).2

/-- **Version numbers are gapless.**  After any interleaving, the versions added are as many as there were
commits.  They have the numbers from the highest one on in the order of the commits, and each is there with
its model run and all of its nodes; no row of a transaction that rolled back is. -/
theorem versions_gapless (h : exec generations (quiet initial) events = some after) :
    let committed := commitsOf (fun _ => none) events
    committed.length = events.countP (·.2.IsCommit) ∧
    after.shared.committed.numbers
      = initial.numbers ++ List.range' (initial.highest + 1) committed.length ∧
    after.shared.committed =
      { modelRuns := initial.modelRuns ++ committed.map fun generation =>
          (generation.run, generation.runId)
        versions := initial.versions ++ (committed.zipIdx (initial.highest + 1)).map fun numbered =>
          (numbered.1.version numbered.2, numbered.1.versionId)
        nodes := initial.nodes ++ committed.flatMap (·.nodes) } := by
  intro committed
  obtain ⟨hserial, hlength⟩ := committed_serial h
  refine ⟨hlength, ?_, ?_⟩
  · rw [hserial, (numbers_serial committed initial).2, next_eq]
  · rw [hserial, serial_eq, next_eq]

end Interleavings

/-- A generation of one category. -/
def smallGeneration (id : ℕ) : Generation where
  run := acceptedRun photoProvider ⟨printsTaxonomy, 1, 1, false⟩ 1 150
  taxonomy := printsTaxonomy
  lower := fun name => name
  runId := id
  versionId := id
  nodeId := id

/-- Both transactions read the same maximum; the second one to insert loses, and is retried. -/
def race {ι : Type} (i j : ι) : List (ι × GenerationAction) :=
  [(i, .begin (smallGeneration 1)), (j, .begin (smallGeneration 2)), (i, .recordRun), (j, .recordRun),
    (i, .readHighest), (j, .readHighest), (i, .insertVersion), (i, .storeNode), (i, .commit),
    (j, .insertVersion), (j, .begin (smallGeneration 3)), (j, .recordRun), (j, .readHighest),
    (j, .insertVersion), (j, .storeNode), (j, .commit)]

/-- The race ends with two versions, numbered 1 and 2: the one of the winner, and the one of the retry. -/
theorem versions_gapless_race : ∃ after : Pool Bool (GenerationDb Bool) GenerationState,
    exec generations (quiet ⟨[], [], []⟩) (race false true) = some after ∧
      after.shared.committed.numbers = [1, 2] ∧
      after.shared.committed.versions
        = [((smallGeneration 1).version 1, 1), ((smallGeneration 3).version 2, 3)] := by
  obtain ⟨after, hrun⟩ : ∃ after : Pool Bool (GenerationDb Bool) GenerationState,
      exec generations (quiet ⟨[], [], []⟩) (race false true) = some after :=
    Option.isSome_iff_exists.mp (by decide)
  obtain ⟨-, hnumbers, htables⟩ := versions_gapless hrun
  exact ⟨after, hrun, hnumbers, by rw [htables]; rfl⟩

end ReviewSignal
