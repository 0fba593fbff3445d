import ReviewSignal.Services.TaxonomyRoundTrip
import ReviewSignal.Worker.CandidateVersions
import ReviewSignal.Worker.GenerationOutcome

/-!
# Accepted taxonomies that cannot be stored

`GeneratedTaxonomy` has no bound on the length of a name, and `taxonomy_nodes` has one on the name and
on the slug that is made of it.

* `accepted_stored_iff` — exactly which accepted replies are stored.  The condition, `Storable`, is about
  the reply alone: its texts, and the slugs `_unique_slug` makes of its names.  A name may be longer
  than its column only by spaces, which PostgreSQL cuts; a slug may not be longer at all.
* `unstorable_retried` — what becomes of the others.  The refusal is an ordinary error: the transaction
  takes the `model_runs` row of the reply with it, and the job is retried like one whose model could not
  be reached.
* `long_name_not_stored` — a reply with one name of 256 characters.

The hypotheses say that the reply was asked for at all: the sample size is a LIMIT PostgreSQL takes, some
review has a text, and nothing fails but what PostgreSQL refuses in the rows.
-/

namespace ReviewSignal

open TaxonomyGenerationService

/-- The constraints of `taxonomy_nodes` on the rows of one version.  A depth is a natural number. -/
structure MeetConstraints (versionId : ℕ) (nodes : List StoredNode) : Prop where
  version : ∀ node ∈ nodes, node.row.taxonomyVersionId = versionId
  name : ∀ node ∈ nodes, node.row.name.length ≤ 255
  slug : ∀ node ∈ nodes, node.row.slug.length ≤ 255
  slug_unique : (nodes.map (·.row.slug)).Nodup
  parent : ∀ node ∈ nodes, ∀ parentId ∈ node.row.parentId, ∃ parent ∈ nodes, parent.id = parentId

theorem map_row_keyed (base : ℕ) (rows : List TaxonomyNode) : (keyed base rows).map (·.row) = rows := by
  induction rows generalizing base with
  | nil => rfl
  | cons row rows ih => simp [keyed, ih]

theorem length_keptText_le (width : ℕ) (value : String) : (keptText width value).length ≤ width := by
  rw [← String.length_toList, keptText, String.toList_ofList]
  exact List.length_take_le _ _

/-- The rows of a taxonomy whose texts fit meet every constraint. -/
theorem Storable.meetConstraints {lower : String → String} {taxonomy : GeneratedTaxonomy}
    (h : Storable lower taxonomy) (versionId base : ℕ) :
    MeetConstraints versionId (keyed base (nodeRows lower versionId base taxonomy.nodes)) := by
  set nodes := keyed base (nodeRows lower versionId base taxonomy.nodes) with hnodes
  have hslug : nodes.map (·.row.slug) = TaxonomyGenerationService.slugs lower taxonomy.names [] := by
    have hsent : (sentRows lower versionId base taxonomy.nodes).map (·.slug) = _ :=
      map_slug_withSlugs (treeRows versionId base 0 taxonomy.nodes) []
    rw [map_treeRows (fun _ _ => rfl) (fun _ _ _ => rfl)] at hsent
    have hrows : (nodes.map (·.row)).map (·.slug)
        = (sentRows lower versionId base taxonomy.nodes).map (·.slug) := by
      rw [hnodes, map_row_keyed, nodeRows, List.map_map]
      rfl
    rw [List.map_map] at hrows
    exact hrows.trans hsent
  refine ⟨?_, ?_, ?_, ?_, ?_⟩
  · intro node hnode
    exact versionId_nodeRows (row_mem_of_mem_keyed hnode)
  · intro node hnode
    obtain ⟨row, -, hrow⟩ := List.mem_map.mp (row_mem_of_mem_keyed hnode)
    rw [← hrow]
    exact length_keptText_le 255 row.name
  · intro node hnode
    exact h.slugs _ (hslug ▸ List.mem_map_of_mem hnode)
  · rw [hslug]
    exact (nodup_slugs _ _).1
  · intro node hnode parentId hparent
    rcases mem_storedTree hnode with ⟨hnone, -⟩ | ⟨-, root, hroot, hsome, -⟩
    · simp [hnone] at hparent
    · exact ⟨root, hroot, by simpa [hsome] using hparent⟩

section Accepted

variable {env : TaxonomyEnv} {payload : Json} {n : ℤ} {tables : TaxonomyTables} {key : JobId}
  {outcome : StructuredOutcome}

/-- **Which accepted replies are stored.**  The job stores the reply, in rows that meet every
constraint, if and only if every text fits its column: what a name has beyond 255 characters are
spaces, no slug made of the names is longer than that, and no text has a NUL. -/
theorem accepted_stored_iff (hsteady : env.Steady) (hpayload : Jobs.sampleSize payload = .ok n)
    (hsize : ValidLimit n) (hreviews : sampled n.toNat tables.reviews ≠ []) (htables : tables.Referential)
    (hreply : env.provider.generateStructured (promptOf n tables) = .outcome outcome) :
    ((Jobs.taxonomyGenerate env payload key tables).1 = .returned () ∧
      MeetConstraints tables.versions.length (versionNodes tables.versions.length
        (Jobs.taxonomyGenerate env payload key tables).2.nodes)) ↔
    Storable env.lower outcome.value := by
  constructor
  · rintro ⟨hreturned, -⟩
    by_contra hnot
    obtain ⟨exc, hrun, -⟩ := @Jobs.taxonomyGenerate_refused env payload n tables key hsteady hpayload
      hsize hreviews htables outcome hreply hnot
    rw [hrun] at hreturned
    cases hreturned
  · intro hfits
    rw [Jobs.taxonomyGenerate_stored hsteady hpayload hsize hreviews htables hreply hfits]
    refine ⟨rfl, ?_⟩
    have hrows := hfits.meetConstraints tables.versions.length tables.nodes.length
    rwa [← versionNodes_append (fun row hrow => (htables row hrow).ne)
      (fun _ => versionId_nodeRows)] at hrows

/-- **What becomes of the others**: not even the model run is kept, and the job fails like one whose
model could not be reached. -/
theorem unstorable_retried {db : WorkerDb TaxonomyTables} {job : Job} (startedAt finishedAt : Instant)
    (hsteady : env.Steady) (h : db.jobs.lookup key = some job)
    (htype : job.jobType = "taxonomy_generate") (hpayload : Jobs.sampleSize job.payload = .ok n)
    (hsize : ValidLimit n) (hreviews : sampled n.toNat db.store.reviews ≠ [])
    (htables : db.store.Referential)
    (hreply : env.provider.generateStructured (promptOf n db.store) = .outcome outcome)
    (hnot : ¬ Storable env.lower outcome.value) :
    let executed := Worker.runJob (.steady startedAt finishedAt) (Jobs.taxonomyGenerate env) key db
    executed.2.store = db.store ∧ executed.1 ≠ .returned () ∧
    ∃ row, executed.2.jobs.lookup key = some row ∧
      row.status = if job.maxAttempts ≤ job.attemptCount + 1 then .deadLetter else .failed := by
  obtain ⟨exc, hrun, hkind⟩ := @Jobs.taxonomyGenerate_refused env job.payload n db.store key hsteady
    hpayload hsize hreviews htables outcome hreply hnot
  have hordinary : HandlerOutcome.ofExn exc = .raises exc := by
    refine if_neg fun hpermanent => ?_
    rw [hpermanent] at hkind
    exact absurd hkind (by decide)
  obtain ⟨hrow, hstore, hended⟩ := runJob_steady startedAt finishedAt h (by rw [htype]; decide) hrun
    (congrArg some hordinary)
  refine ⟨hstore, fun hreturned => ?_, _, hrow, ?_⟩
  · cases hended.mp hreturned
  · simp [Runner.outcomeRow, Runner.recordFailure, Runner.claim, Runner.running]

end Accepted

/-! ## A name of 256 characters

None of which is a space. -/

/-- A name of some length. -/
def nameOfLength (length : ℕ) : String := String.ofList (List.replicate length 'a')

theorem length_nameOfLength (length : ℕ) : (nameOfLength length).length = length := by
  simp [nameOfLength]

/-- One more than its column holds. -/
def longName : String := nameOfLength 256

theorem length_longName : longName.length = 256 := length_nameOfLength 256

theorem drop_longName : longName.toList.drop 255 = ['a'] := by
  rw [longName, nameOfLength, String.toList_ofList, List.drop_replicate]
  rfl

theorem longName_ne : longName ≠ "" := by
  intro h
  have hlength := length_longName
  rw [h] at hlength
  simp at hlength

/-- A reply with one category, which the schema accepts. -/
def longNameReply : StructuredOutcome where
  value :=
    { nodes := [{ name := longName, description := "Photo prints"
                  name_ne := longName_ne
                  description_ne := photoPrints_ne }]
      nodes_ne := by decide }
  latencyMs := 1
  attempts := 1
  fallbackUsed := false

def longNameEnv : TaxonomyEnv where
  provider := ⟨"fake", "fake-model", none, fun _ => .outcome longNameReply⟩
  lower := id
  fate _ := .proceeds

/-- The reply is lost, and its model run with it. -/
theorem long_name_not_stored :
    ¬ ((Jobs.taxonomyGenerate longNameEnv (.obj []) 7 reviewedTables).1 = .returned () ∧
      MeetConstraints reviewedTables.versions.length (versionNodes reviewedTables.versions.length
        (Jobs.taxonomyGenerate longNameEnv (.obj []) 7 reviewedTables).2.nodes)) ∧
    (Jobs.taxonomyGenerate longNameEnv (.obj []) 7 reviewedTables).2 = reviewedTables := by
  have hnot : ¬ Storable longNameEnv.lower longNameReply.value := by
    intro h
    have hspaces := (h.names longName (by simp [GeneratedTaxonomy.names, longNameReply])).2
    rw [drop_longName] at hspaces
    exact absurd (hspaces 'a' (List.mem_singleton.mpr rfl)) (by decide)
  obtain ⟨exc, hrun, -⟩ := @Jobs.taxonomyGenerate_refused longNameEnv (.obj []) 150 reviewedTables 7
    (fun _ => rfl) rfl ⟨by decide, by decide⟩ (by decide) reviewedTables_referential longNameReply rfl hnot
  rw [hrun]
  refine ⟨?_, rfl⟩
  rintro ⟨hreturned, -⟩
  cases hreturned

/-- A reply with a short name is stored. -/
theorem accepted_stored_short_name :
    (Jobs.taxonomyGenerate ⟨photoProvider, id, fun _ => .proceeds⟩ (.obj []) 7 reviewedTables).1
      = .returned () := by
  have hfits := @accepted_stored_iff ⟨photoProvider, id, fun _ => .proceeds⟩ (.obj []) 150
    reviewedTables 7 ⟨⟨[⟨"Prints", "Photo prints", [], by decide, by decide⟩], by decide⟩, 1, 1, false⟩
    (fun _ => rfl) rfl ⟨by decide, by decide⟩ (by decide) reviewedTables_referential rfl
  exact (hfits.mpr (.of_short (by decide) (by decide) (by decide))).1

end ReviewSignal
