import ReviewSignal.Foundations.Ranking
import ReviewSignal.Worker.VersionNumbers
import Mathlib.Data.List.MinMax

/-!
# Serving taxonomies while others are generated

What `TaxonomyService` reads of the tables that the generations write: the versions, newest first, one
version with its tree, and the active tree.  A request reads the version first and its nodes next, and any
generations may commit in between.

**What is served** (`generations_served`).  From its commit on, a generation is answered with its own row
and the tree of its taxonomy, and with nothing else, whatever is committed in the meantime and in whatever
order the rows come; versions are only added in front of the list; and the active tree stays as it is.

**Why.**  A request that straddles commits could see rows of two worlds.  It does not, because no row is
ever changed: `nodesOf_serial` says that the nodes of a version that is there stay the ones they are, and
`getActiveVersion_serial` that a generated version is a candidate and never the active one.

**The tree** is that of the taxonomy as its rows hold it, which is the taxonomy itself where no name is
longer than its column (`Generation.tree_isCategory`).  Activating and archiving versions is left out: no
code under the repository does it.
-/

namespace ReviewSignal

/-- The columns of a version that `generate` leaves to their defaults. -/
structure VersionColumns where
  parentVersionId : Option ℕ := none
  createdAt : Instant
  activatedAt : Option Instant := none
  archivedAt : Option Instant := none
  deriving DecidableEq

/-- A row of `taxonomy_versions` as it is read. -/
structure StoredVersion extends TaxonomyVersion, VersionColumns where
  id : ℕ
  deriving DecidableEq

/-- `TaxonomyVersionSummary` -/
structure TaxonomyVersionSummary where
  id : ℕ
  versionNumber : ℕ
  status : TaxonomyVersionStatus
  createdBy : String
  parentVersionId : Option ℕ
  createdAt : Instant
  activatedAt : Option Instant
  archivedAt : Option Instant
  deriving DecidableEq

/-- `TaxonomyVersionDetail` -/
structure TaxonomyVersionDetail extends TaxonomyVersionSummary where
  nodes : List TaxonomyNodePayload

/-- `TaxonomyTreePayload` -/
structure TaxonomyTreePayload where
  versionId : ℕ
  versionNumber : ℕ
  activatedAt : Option Instant
  nodes : List TaxonomyNodePayload

/-! ## The rows of a version

Nodes are found by the id of their version. -/

namespace GeneratedTables

def versionIds (tables : GeneratedTables) : List ℕ := tables.versions.map (·.2)

/-- The nodes of one version. -/
def nodesOf (versionId : ℕ) (tables : GeneratedTables) : List StoredNode :=
  tables.nodes.filter (·.row.taxonomyVersionId = versionId)

/-- Every node is one of a version there is. -/
def Foreign (tables : GeneratedTables) : Prop :=
  ∀ node ∈ tables.nodes, node.row.taxonomyVersionId ∈ tables.versionIds

end GeneratedTables

/-- The tree of a generation: its categories, with their children. -/
def Generation.tree (generation : Generation) : List TaxonomyNodePayload :=
  (siblings none generation.nodes).map fun root =>
    root.payload ((siblings (some root.id) generation.nodes).map (·.payload []))

/-! ## The repository

The queries of `TaxonomyReader`, over tables with primary keys. -/

namespace TaxonomyReader

variable (columns : ℕ → VersionColumns)

/-- The rows of `taxonomy_versions`. -/
def versions (tables : GeneratedTables) : List StoredVersion :=
  tables.versions.map fun version => ⟨version.1, columns version.2, version.2⟩

/-- `get_active_version` -/
def getActiveVersion (tables : GeneratedTables) : Except Exn (Option StoredVersion) :=
  match (versions columns tables).filter (·.status = .active) with
  | [] => .ok none
  | [version] => .ok (some version)
  | _ => .error ⟨"MultipleResultsFound", "Multiple rows were found when one or none was required"⟩

/-- `get_version` -/
def getVersion (versionId : ℕ) (tables : GeneratedTables) : Option StoredVersion :=
  (versions columns tables).find? (·.id = versionId)

/-- `ORDER BY version_number DESC` -/
def Newer (a b : StoredVersion) : Prop := b.versionNumber ≤ a.versionNumber

instance : DecidableRel Newer := fun _ _ => inferInstanceAs (Decidable (_ ≤ _))

/-- `list_versions` -/
def listVersions (tables : GeneratedTables) : List StoredVersion :=
  (versions columns tables).insertionSort Newer

/-- `list_nodes` may return these rows. -/
def ListNodes (versionId : ℕ) (tables : GeneratedTables) (l : List StoredNode) : Prop :=
  Arranged StoredNode.MayPrecede (tables.nodesOf versionId) l

end TaxonomyReader

/-! ## The service

A request reads twice, and generations may commit in between. -/

namespace TaxonomyService

open TaxonomyReader

variable (columns : ℕ → VersionColumns)

/-- `TaxonomyVersionSummary.model_validate` -/
def summary (version : StoredVersion) : TaxonomyVersionSummary :=
  ⟨version.id, version.versionNumber, version.status, version.createdBy, version.parentVersionId,
    version.createdAt, version.activatedAt, version.archivedAt⟩

/-- `list_versions` -/
def listVersions (tables : GeneratedTables) : List TaxonomyVersionSummary :=
  (TaxonomyReader.listVersions columns tables).map summary

/-- `get_version` may answer this, where the first tables are committed when the version is read, and the
second ones when its nodes are. -/
def GetVersion (first second : GeneratedTables) (versionId : ℕ)
    (answer : Except Exn TaxonomyVersionDetail) : Prop :=
  match getVersion columns versionId first with
  | none => answer = .error ⟨"ResourceNotFoundError", "Taxonomy version not found."⟩
  | some version => ∃ l, TaxonomyReader.ListNodes versionId second l ∧
      answer = .ok ⟨summary version, buildTree l⟩

/-- `get_active_tree` may answer this. -/
def GetActiveTree (first second : GeneratedTables) (answer : Except Exn (Option TaxonomyTreePayload)) :
    Prop :=
  match getActiveVersion columns first with
  | .error exc => answer = .error exc
  | .ok none => answer = .ok none
  | .ok (some version) => ∃ l, TaxonomyReader.ListNodes version.id second l ∧ answer
      = .ok (some ⟨version.id, version.versionNumber, version.activatedAt, buildTree l⟩)

end TaxonomyService

/-! ## What generations add

The version and the nodes of one, and what it leaves alone. -/

section Rows

open TaxonomyGenerationService

variable {tables : GeneratedTables} {generation : Generation} {generations : List Generation}
  {versionId : ℕ} {l : List StoredNode}

theorem Generation.versionId_of_mem_nodes {node : StoredNode} (h : node ∈ generation.nodes) :
    node.row.taxonomyVersionId = generation.versionId := by
  have hrow : node.row ∈ nodeRows generation.lower generation.versionId generation.nodeId
      generation.taxonomy.nodes := row_mem_of_mem_keyed h
  exact versionId_nodeRows hrow

/-- Whatever order the rows come in, they make the tree of the generation. -/
theorem Generation.buildTree_eq_tree (h : Arranged StoredNode.MayPrecede generation.nodes l) :
    buildTree l = generation.tree := by
  rw [buildTree_eq (parentsFirst_listed h) fun _ _ _ hchild => childless_listed h hchild]
  simp only [siblings_listed h]
  rfl

instance : Std.Total StoredNode.MayPrecede where
  total a b := by
    simp only [StoredNode.MayPrecede]
    omega

instance : IsTrans StoredNode StoredNode.MayPrecede where
  trans a b c hab hbc := by
    simp only [StoredNode.MayPrecede] at hab hbc ⊢
    omega

/-- **The tree is the taxonomy that was generated**, as its rows hold it. -/
theorem Generation.tree_isCategory (generation : Generation) :
    generation.tree.Forall₂ TaxonomyNodePayload.IsCategory generation.taxonomy.stored.nodes := by
  obtain ⟨l, hl⟩ := Arranged.exists_arranged StoredNode.MayPrecede generation.nodes
  rw [← buildTree_eq_tree hl]
  exact buildTree_listed hl

namespace GeneratedTables

theorem versionIds_generate (tables : GeneratedTables) (generation : Generation) :
    (tables.generate generation).versionIds = tables.versionIds ++ [generation.versionId] := by
  simp [versionIds, generate, commit]

theorem versionIds_serial (generations : List Generation) (tables : GeneratedTables) :
    (generations.foldl .generate tables).versionIds
      = tables.versionIds ++ generations.map (·.versionId) := by
  induction generations generalizing tables with
  | nil => simp
  | cons generation generations ih =>
      rw [List.foldl_cons, ih, versionIds_generate]
      simp

theorem nodesOf_generate (versionId : ℕ) (tables : GeneratedTables) (generation : Generation) :
    (tables.generate generation).nodesOf versionId
      = tables.nodesOf versionId ++ if generation.versionId = versionId then generation.nodes else [] := by
  have hnodes : generation.nodes.filter (·.row.taxonomyVersionId = versionId)
      = if generation.versionId = versionId then generation.nodes else [] := by
    split_ifs with h
    · refine List.filter_eq_self.mpr fun node hnode => ?_
      simpa [Generation.versionId_of_mem_nodes hnode] using h
    · refine List.filter_eq_nil_iff.mpr fun node hnode => ?_
      simpa [Generation.versionId_of_mem_nodes hnode] using h
  rw [nodesOf, generate, commit, List.filter_append, hnodes]
  rfl

theorem Foreign.generate (h : tables.Foreign) : (tables.generate generation).Foreign := by
  intro node hnode
  rw [versionIds_generate]
  rcases List.mem_append.mp hnode with hold | hnew
  · exact List.mem_append_left _ (h node hold)
  · exact List.mem_append_right _ (by simp [Generation.versionId_of_mem_nodes hnew])

theorem Foreign.serial (h : tables.Foreign) (generations : List Generation) :
    (generations.foldl GeneratedTables.generate tables).Foreign := by
  induction generations generalizing tables with
  | nil => exact h
  | cons generation generations ih => exact ih h.generate

/-- The nodes of a version that is there stay the ones they are. -/
theorem nodesOf_serial (h : versionId ∈ tables.versionIds)
    (hkeys : (generations.foldl GeneratedTables.generate tables).versionIds.Nodup) :
    (generations.foldl GeneratedTables.generate tables).nodesOf versionId = tables.nodesOf versionId := by
  induction generations generalizing tables with
  | nil => rfl
  | cons generation generations ih =>
      have hother : generation.versionId ≠ versionId := by
        rw [versionIds_serial, List.nodup_append] at hkeys
        exact (hkeys.2.2 versionId h generation.versionId (by simp)).symm
      have hmem : versionId ∈ (tables.generate generation).versionIds := by
        rw [versionIds_generate]
        exact List.mem_append_left _ h
      rw [List.foldl_cons, ih hmem hkeys, nodesOf_generate, if_neg hother, List.append_nil]

/-- The nodes of a generation's version are those of the generation. -/
theorem nodesOf_generated (hforeign : tables.Foreign)
    (hkeys : (generations.foldl GeneratedTables.generate tables).versionIds.Nodup)
    (h : generation ∈ generations) :
    (generations.foldl GeneratedTables.generate tables).nodesOf generation.versionId
      = generation.nodes := by
  obtain ⟨before, after, rfl⟩ := List.append_of_mem h
  rw [List.foldl_append, List.foldl_cons] at hkeys ⊢
  set earlier := before.foldl GeneratedTables.generate tables
  have hids := versionIds_generate earlier generation
  rw [nodesOf_serial (by simp [hids]) hkeys, nodesOf_generate, if_pos rfl]
  -- no node is of a version that comes later
  have hnone : earlier.nodesOf generation.versionId = [] := by
    refine List.filter_eq_nil_iff.mpr fun node hnode hversion => ?_
    rw [versionIds_serial, hids] at hkeys
    have hnew := (List.nodup_append.mp (List.nodup_append.mp hkeys).1).2.2
    refine hnew _ (hforeign.serial before node hnode) generation.versionId (by simp) ?_
    simpa using hversion
  rw [hnone, List.nil_append]

end GeneratedTables

end Rows

/-! ## What is read of one generation after the other

The committed tables are those of a serial execution, so it is enough to read those. -/

section Reads

variable {tables : GeneratedTables} {generations : List Generation} {numbered : Generation × ℕ}

/-- The row of a generation that was given a number. -/
def storedVersion (columns : ℕ → VersionColumns) (numbered : Generation × ℕ) : StoredVersion :=
  ⟨numbered.1.version numbered.2, columns numbered.1.versionId, numbered.1.versionId⟩

namespace TaxonomyReader

variable (columns : ℕ → VersionColumns)

theorem versions_serial (generations : List Generation) (tables : GeneratedTables) :
    versions columns (generations.foldl .generate tables)
      = versions columns tables ++ (generations.zipIdx tables.next).map (storedVersion columns) := by
  simp [versions, serial_eq, storedVersion]

theorem map_id_versions (tables : GeneratedTables) :
    (versions columns tables).map (·.id) = tables.versionIds := by
  simp [versions, GeneratedTables.versionIds]

variable {columns} in
theorem id_mem_of_getActiveVersion {version : StoredVersion}
    (h : getActiveVersion columns tables = .ok (some version)) : version.id ∈ tables.versionIds := by
  rw [getActiveVersion] at h
  split at h <;> cases h
  next hactive =>
      have hmem : version ∈ (versions columns tables).filter (·.status = .active) := by simp [hactive]
      rw [← map_id_versions columns]
      exact List.mem_map_of_mem (List.mem_of_mem_filter hmem)

/-- A generated version is a candidate. -/
theorem getActiveVersion_serial (generations : List Generation) (tables : GeneratedTables) :
    getActiveVersion columns (generations.foldl .generate tables) = getActiveVersion columns tables := by
  have hcandidates : ((generations.zipIdx tables.next).map (storedVersion columns)).filter
      (·.status = .active) = [] := by
    rw [List.filter_eq_nil_iff]
    intro version hversion
    obtain ⟨numbered, -, rfl⟩ := List.mem_map.mp hversion
    simp [storedVersion, Generation.version]
  simp only [getActiveVersion, versions_serial, List.filter_append, hcandidates, List.append_nil]

theorem getVersion_serial (hkeys : (generations.foldl GeneratedTables.generate tables).versionIds.Nodup)
    (h : numbered ∈ generations.zipIdx tables.next) :
    getVersion columns numbered.1.versionId (generations.foldl .generate tables)
      = some (storedVersion columns numbered) := by
  rw [← map_id_versions columns] at hkeys
  refine (find?_key_eq_some_iff hkeys).mpr ⟨?_, rfl⟩
  rw [versions_serial]
  exact List.mem_append_right _ (List.mem_map_of_mem h)

theorem versionNumber_lt_next {version : StoredVersion} (h : version ∈ versions columns tables) :
    version.versionNumber < tables.next := by
  obtain ⟨row, hrow, rfl⟩ := List.mem_map.mp h
  have hmem : row.1.versionNumber ∈ tables.numbers := List.mem_map_of_mem hrow
  have hhighest : row.1.versionNumber ≤ tables.highest := List.le_max_of_le' 0 hmem le_rfl
  rw [next_eq]
  show row.1.versionNumber < tables.highest + 1
  omega

/-- The numbers of generations ascend. -/
theorem pairwise_storedVersion (generations : List Generation) (number : ℕ) :
    ((generations.zipIdx number).map (storedVersion columns)).Pairwise fun a b => ¬ Newer a b := by
  have hnumbers : ((generations.zipIdx number).map (·.2)).Pairwise (· < ·) := by
    rw [List.zipIdx_map_snd]
    exact List.pairwise_lt_range'
  rw [List.pairwise_map] at hnumbers ⊢
  refine hnumbers.imp fun hlt => ?_
  simpa [Newer, storedVersion, Generation.version] using hlt

/-- New versions come before the others, the last one first. -/
theorem listVersions_serial (generations : List Generation) (tables : GeneratedTables) :
    listVersions columns (generations.foldl .generate tables)
      = ((generations.zipIdx tables.next).map (storedVersion columns)).reverse
        ++ listVersions columns tables := by
  have hlater : ∀ old ∈ versions columns tables,
      ∀ new ∈ (generations.zipIdx tables.next).map (storedVersion columns), ¬ Newer old new := by
    intro old hold new hnew
    obtain ⟨numbered, hnumbered, rfl⟩ := List.mem_map.mp hnew
    have hlow : tables.next ≤ numbered.2 := List.le_snd_of_mem_zipIdx hnumbered
    have hhigh := versionNumber_lt_next columns hold
    show ¬ numbered.2 ≤ old.versionNumber
    omega
  rw [listVersions, versions_serial, insertionSort_append hlater,
    insertionSort_eq_reverse (pairwise_storedVersion columns generations tables.next)]
  rfl

end TaxonomyReader

end Reads

/-! ## Runs

From the serial execution to the tables of an interleaving. -/

namespace TaxonomyService

open GeneratedTables

variable {tables later : GeneratedTables} {committed added : List Generation}

/-- What is read of a generation, with any generations between the two reads. -/
theorem getVersion_iff (columns : ℕ → VersionColumns) (hforeign : tables.Foreign)
    (hkeys : (added.foldl GeneratedTables.generate
      (committed.foldl .generate tables)).versionIds.Nodup)
    {numbered : Generation × ℕ} (h : numbered ∈ committed.zipIdx tables.next)
    (answer : Except Exn TaxonomyVersionDetail) :
    GetVersion columns (committed.foldl .generate tables)
        (added.foldl .generate (committed.foldl .generate tables)) numbered.1.versionId answer
      ↔ answer = .ok ⟨summary (storedVersion columns numbered), numbered.1.tree⟩ := by
  have hall := hkeys
  rw [versionIds_serial, List.nodup_append] at hkeys
  have hmem : numbered.1 ∈ committed := List.fst_mem_of_mem_zipIdx h
  have hrows : ∀ l, TaxonomyReader.ListNodes numbered.1.versionId
      (added.foldl .generate (committed.foldl .generate tables)) l
        ↔ Arranged StoredNode.MayPrecede numbered.1.nodes l := by
    intro l
    rw [← List.foldl_append] at hall ⊢
    rw [TaxonomyReader.ListNodes, nodesOf_generated hforeign hall (List.mem_append_left _ hmem)]
  rw [GetVersion, TaxonomyReader.getVersion_serial columns hkeys.1 h]
  simp only [hrows]
  constructor
  · rintro ⟨l, hl, rfl⟩
    rw [Generation.buildTree_eq_tree hl]
  · rintro rfl
    obtain ⟨l, hl⟩ := Arranged.exists_arranged StoredNode.MayPrecede numbered.1.nodes
    exact ⟨l, hl, by rw [Generation.buildTree_eq_tree hl]⟩

/-- The active tree is the one it was. -/
theorem getActiveTree_iff (columns : ℕ → VersionColumns)
    (hkeys : (added.foldl GeneratedTables.generate
      (committed.foldl .generate tables)).versionIds.Nodup)
    (answer : Except Exn (Option TaxonomyTreePayload)) :
    GetActiveTree columns (committed.foldl .generate tables)
        (added.foldl .generate (committed.foldl .generate tables)) answer
      ↔ GetActiveTree columns tables tables answer := by
  rw [← List.foldl_append] at hkeys ⊢
  rw [GetActiveTree, TaxonomyReader.getActiveVersion_serial, GetActiveTree]
  cases hactive : TaxonomyReader.getActiveVersion columns tables with
  | error exc => rfl
  | ok found =>
      cases found with
      | none => rfl
      | some version =>
          have hmem := TaxonomyReader.id_mem_of_getActiveVersion hactive
          simp only [TaxonomyReader.ListNodes, nodesOf_serial hmem hkeys]

variable {ι : Type} [DecidableEq ι] {initial : GeneratedTables}
  {s t : Pool ι (GenerationDb ι) GenerationState} {earlier between : List (ι × GenerationAction)}

/-- **Generations are served as they were generated.**  Between the two reads of a request, and before the
first, any transactions may run.  A committed generation is answered with its own row and the tree of its
taxonomy, and with nothing else; later versions are listed in front of the earlier ones, by their numbers;
and the active tree is the one there was at the beginning. -/
theorem generations_served (columns : ℕ → VersionColumns) (hforeign : initial.Foreign)
    (hs : exec generations (quiet initial) earlier = some s) (ht : exec generations s between = some t)
    (hkeys : t.shared.committed.versionIds.Nodup) :
    ∃ added : List Generation,
      let committed := commitsOf (fun _ => none) earlier
      commitsOf (fun _ => none) (earlier ++ between) = committed ++ added ∧
      s.shared.committed = committed.foldl .generate initial ∧
      t.shared.committed = added.foldl .generate s.shared.committed ∧
      (∀ numbered ∈ committed.zipIdx initial.next,
        numbered.1.tree.Forall₂ TaxonomyNodePayload.IsCategory numbered.1.taxonomy.stored.nodes ∧
        ((∀ name ∈ numbered.1.taxonomy.names, name.length ≤ 255) →
          numbered.1.tree.Forall₂ TaxonomyNodePayload.IsCategory numbered.1.taxonomy.nodes) ∧
        ∀ answer, GetVersion columns s.shared.committed t.shared.committed numbered.1.versionId answer
          ↔ answer = .ok ⟨summary (storedVersion columns numbered), numbered.1.tree⟩) ∧
      listVersions columns t.shared.committed
        = ((added.zipIdx s.shared.committed.next).map fun numbered =>
            summary (storedVersion columns numbered)).reverse ++ listVersions columns s.shared.committed ∧
      ∀ answer, GetActiveTree columns s.shared.committed t.shared.committed answer
        ↔ GetActiveTree columns initial initial answer := by
  have hwhole : exec generations (quiet initial) (earlier ++ between) = some t := by
    rw [exec_append, hs]
    exact ht
  obtain ⟨added, hall⟩ := commitsOf_append (fun _ => none) earlier between
  obtain ⟨hcommitted, -⟩ := committed_serial hs
  have hadded : t.shared.committed = added.foldl .generate s.shared.committed := by
    rw [(committed_serial hwhole).1, hall, List.foldl_append, hcommitted]
  refine ⟨added, hall, hcommitted, hadded, fun numbered hnumbered => ?_, ?_, fun answer => ?_⟩
  · refine ⟨numbered.1.tree_isCategory, fun hnames => ?_, fun answer => ?_⟩
    · have htree := numbered.1.tree_isCategory
      rwa [GeneratedTaxonomy.stored_eq_self hnames] at htree
    · rw [hadded, hcommitted] at hkeys ⊢
      exact getVersion_iff columns hforeign hkeys hnumbered answer
  · rw [hadded, listVersions, TaxonomyReader.listVersions_serial, List.map_append, List.map_reverse,
      List.map_map]
    rfl
  · rw [hadded, hcommitted] at hkeys ⊢
    exact getActiveTree_iff columns hkeys answer

/-- A request whose reads come before and after the second version of a race. -/
theorem generations_served_race : ∃ s t : Pool Bool (GenerationDb Bool) GenerationState,
    exec generations (quiet ⟨[], [], []⟩) ((race false true).take 9) = some s ∧
    exec generations s ((race false true).drop 9) = some t ∧
    t.shared.committed.versionIds = [1, 3] ∧
    ∀ answer,
      GetVersion (fun _ => { createdAt := 0 }) s.shared.committed t.shared.committed 1 answer
        ↔ answer = .ok ⟨summary (storedVersion (fun _ => { createdAt := 0 }) (smallGeneration 1, 1)),
          (smallGeneration 1).tree⟩ := by
  have hfirst : (exec generations (quiet (ι := Bool) ⟨[], [], []⟩) ((race false true).take 9)).map
      (·.shared.committed.versionIds) = some [1] := by decide
  obtain ⟨s, hs, hone⟩ := Option.map_eq_some_iff.mp hfirst
  have hsecond : (exec generations (quiet (ι := Bool) ⟨[], [], []⟩)
      ((race false true).take 9 ++ (race false true).drop 9)).map
        (·.shared.committed.versionIds) = some [1, 3] := by decide
  rw [exec_append, hs, Option.bind_some] at hsecond
  obtain ⟨t, ht, htwo⟩ := Option.map_eq_some_iff.mp hsecond
  obtain ⟨added, -, -, -, hserved, -⟩ :=
    generations_served (fun _ => { createdAt := 0 }) (by simp [Foreign]) hs ht (by simp [htwo])
  have hmem : (smallGeneration 1, 1) ∈ (commitsOf (fun _ : Bool => none)
      ((race false true).take 9)).zipIdx (⟨[], [], []⟩ : GeneratedTables).next := List.mem_singleton.mpr rfl
  exact ⟨s, t, hs, ht, htwo, (hserved (smallGeneration 1, 1) hmem).2.2⟩

end TaxonomyService

end ReviewSignal
