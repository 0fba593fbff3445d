import ReviewSignal.Services.TaxonomySlugs

/-!
# The rows a taxonomy is stored as

`_store_nodes` where nothing but PostgreSQL can refuse a row: it inserts the rows of a tree one after
the other, or raises for the first one that is refused (`storeNodes_eq`).

* `sentRows` — the rows as they are sent, each with the slug `_unique_slug` makes of its name;
* `nodeRows` — the same rows as they are stored, where a `varchar` has cut the spaces beyond its width.

**What is refused.**  A row is never refused for its slug being taken, since `_unique_slug` looks at
the slugs of the same version and at no others; so what is refused are texts, and which texts is a
property of the taxonomy alone: `Storable`, by `refusedRows_sentRows`.  The width of a name bounds what
is not a space, and the width of a slug bounds all of it, because a slug has no spaces.
-/

namespace ReviewSignal

/-- No place of the handler fails. -/
def TaxonomyEnv.Steady (env : TaxonomyEnv) : Prop := ∀ point, env.fate point = .proceeds

def TaxonomySession.addNodes (nodes : List TaxonomyNode) (s : TaxonomySession) : TaxonomySession :=
  { s with working := { s.working with nodes := s.working.nodes ++ nodes } }

theorem TaxonomySession.addNodes_nil (s : TaxonomySession) : s.addNodes [] = s := by
  simp [addNodes]

theorem TaxonomySession.addNodes_cons (node : TaxonomyNode) (nodes : List TaxonomyNode)
    (s : TaxonomySession) : s.addNodes (node :: nodes) = (s.addNode node).addNodes nodes := by
  simp [addNodes, addNode]

theorem TaxonomySession.addNodes_append (nodes later : List TaxonomyNode) (s : TaxonomySession) :
    s.addNodes (nodes ++ later) = (s.addNodes nodes).addNodes later := by
  simp [addNodes]

theorem TaxonomySession.nodes_addNode (node : TaxonomyNode) (s : TaxonomySession) :
    (s.addNode node).working.nodes = s.working.nodes ++ [node] := rfl

theorem TaxonomySession.nodes_addNodes (nodes : List TaxonomyNode) (s : TaxonomySession) :
    (s.addNodes nodes).working.nodes = s.working.nodes ++ nodes := rfl

namespace TaxonomyGenerationService

/-! ## The rows

The tree as a list: each category, and after it its children. -/

/-- The rows of the children of one category, before they have slugs. -/
def childRows (versionId parentId : ℕ) : ℕ → List GeneratedSubcategory → List TaxonomyNode
  | _, [] => []
  | childOrder, child :: children =>
      ⟨versionId, some parentId, child.name, child.description, "", 1, childOrder⟩ ::
        childRows versionId parentId (childOrder + 1) children

/-- The row of one category, before it has a slug. -/
def categoryRow (versionId order : ℕ) (category : GeneratedCategory) : TaxonomyNode :=
  ⟨versionId, none, category.name, category.description, "", 0, order⟩

/-- The rows of the categories, before they have slugs; `base` is the key of the first one. -/
def treeRows (versionId : ℕ) : ℕ → ℕ → List GeneratedCategory → List TaxonomyNode
  | _, _, [] => []
  | base, order, category :: categories =>
      categoryRow versionId order category :: (childRows versionId base 0 category.children ++
        treeRows versionId (base + 1 + category.children.length) (order + 1) categories)

/-- The slugs of names in the order they are stored, with those used so far. -/
def slugs (lower : String → String) : List String → List String → List String
  | [], _ => []
  | name :: names, used =>
      uniqueSlug lower name used :: slugs lower names (uniqueSlug lower name used :: used)

/-- The slugs used after the names are stored. -/
def usedAfter (lower : String → String) : List String → List String → List String
  | [], used => used
  | name :: names, used => usedAfter lower names (uniqueSlug lower name used :: used)

/-- Every row with the slug `_store_node` gives it. -/
def withSlugs (lower : String → String) : List TaxonomyNode → List String → List TaxonomyNode
  | [], _ => []
  | row :: rows, used =>
      { row with slug := uniqueSlug lower row.name used } ::
        withSlugs lower rows (uniqueSlug lower row.name used :: used)

/-- The rows of a taxonomy as they are sent. -/
def sentRows (lower : String → String) (versionId base : ℕ) (categories : List GeneratedCategory) :
    List TaxonomyNode :=
  withSlugs lower (treeRows versionId base 0 categories) []

/-- The rows of a taxonomy as they are stored. -/
def nodeRows (lower : String → String) (versionId base : ℕ) (categories : List GeneratedCategory) :
    List TaxonomyNode :=
  (sentRows lower versionId base categories).map (·.stored)

section Rows

variable {lower : String → String} {versionId parentId : ℕ}

@[simp] theorem length_childRows (childOrder : ℕ) (children : List GeneratedSubcategory) :
    (childRows versionId parentId childOrder children).length = children.length := by
  induction children generalizing childOrder with
  | nil => rfl
  | cons child children ih => simp [childRows, ih]

@[simp] theorem map_name_childRows (childOrder : ℕ) (children : List GeneratedSubcategory) :
    (childRows versionId parentId childOrder children).map (·.name) = children.map (·.name) := by
  induction children generalizing childOrder with
  | nil => rfl
  | cons child children ih => simp [childRows, ih]

@[simp] theorem length_withSlugs (rows : List TaxonomyNode) (used : List String) :
    (withSlugs lower rows used).length = rows.length := by
  induction rows generalizing used with
  | nil => rfl
  | cons row rows ih => simp [withSlugs, ih]

theorem withSlugs_append (rows later : List TaxonomyNode) (used : List String) :
    withSlugs lower (rows ++ later) used
      = withSlugs lower rows used ++ withSlugs lower later (usedAfter lower (rows.map (·.name)) used) := by
  induction rows generalizing used with
  | nil => rfl
  | cons row rows ih => simp [withSlugs, usedAfter, ih]

/-- The slugs of the rows are those of their names. -/
theorem map_slug_withSlugs (rows : List TaxonomyNode) (used : List String) :
    (withSlugs lower rows used).map (·.slug) = slugs lower (rows.map (·.name)) used := by
  induction rows generalizing used with
  | nil => rfl
  | cons row rows ih => simp [withSlugs, slugs, ih]

/-- A slug takes part in nothing but its own column. -/
theorem map_withSlugs {α : Type} {f : TaxonomyNode → α}
    (hf : ∀ (row : TaxonomyNode) slug, f { row with slug } = f row) (rows : List TaxonomyNode)
    (used : List String) : (withSlugs lower rows used).map f = rows.map f := by
  induction rows generalizing used with
  | nil => rfl
  | cons row rows ih => simp [withSlugs, hf, ih]

/-- **The slugs of one version are different**, and none of those used before. -/
theorem nodup_slugs (names : List String) (used : List String) :
    (slugs lower names used).Nodup ∧ ∀ slug ∈ slugs lower names used, slug ∉ used := by
  induction names generalizing used with
  | nil => exact ⟨.nil, nofun⟩
  | cons name names ih =>
      obtain ⟨hnodup, hnew⟩ := ih (uniqueSlug lower name used :: used)
      refine ⟨List.nodup_cons.mpr ⟨fun h => hnew _ h List.mem_cons_self, hnodup⟩, ?_⟩
      refine List.forall_mem_cons.mpr ⟨uniqueSlug_not_mem lower name used, fun slug hslug hused => ?_⟩
      exact hnew slug hslug (List.mem_cons_of_mem _ hused)

theorem versionId_treeRows {base order : ℕ} {categories : List GeneratedCategory} {row : TaxonomyNode}
    (h : row ∈ treeRows versionId base order categories) : row.taxonomyVersionId = versionId := by
  have hchild : ∀ (children : List GeneratedSubcategory) (parentId childOrder : ℕ),
      ∀ row ∈ childRows versionId parentId childOrder children,
        row.taxonomyVersionId = versionId := by
    intro children
    induction children with
    | nil => exact fun _ _ => nofun
    | cons child children ih =>
        exact fun parentId childOrder => List.forall_mem_cons.mpr ⟨rfl, ih parentId _⟩
  induction categories generalizing base order with
  | nil => cases h
  | cons category categories ih =>
      rcases List.mem_cons.mp h with rfl | h
      · rfl
      · exact (List.mem_append.mp h).elim (hchild _ _ _ row) ih

/-- Every row of a taxonomy is one of its version. -/
theorem versionId_nodeRows {base : ℕ} {categories : List GeneratedCategory} {row : TaxonomyNode}
    (h : row ∈ nodeRows lower versionId base categories) : row.taxonomyVersionId = versionId := by
  have hcolumn : (nodeRows lower versionId base categories).map (·.taxonomyVersionId)
      = (treeRows versionId base 0 categories).map (·.taxonomyVersionId) := by
    rw [nodeRows, List.map_map]
    exact map_withSlugs (fun _ _ => rfl) _ []
  have hmem := List.mem_map_of_mem (f := (·.taxonomyVersionId)) h
  rw [hcolumn] at hmem
  obtain ⟨sent, hsent, heq⟩ := List.mem_map.mp hmem
  exact heq.symm.trans (versionId_treeRows hsent)

end Rows

/-! ## Inserting rows

Rows that are not refused are all inserted; the first one that is ends the transaction. -/

/-- The insertion of `_store_node`. -/
def insertRow (node : TaxonomyNode) : Generate ℕ := do
  let nodes ← .read (·.working.nodes)
  match refusedNode nodes node with
  | some exc => .raise exc
  | none => do
      .modify (·.addNode node.stored)
      pure nodes.length

/-- Rows are inserted one after the other. -/
def insertRows : List TaxonomyNode → Generate Unit
  | [] => pure ()
  | row :: rows => do
      let _ ← insertRow row
      insertRows rows

/-- The first exception the rows are refused with. -/
def refusedRows : List TaxonomyNode → List TaxonomyNode → Option Exn
  | _, [] => none
  | nodes, row :: rows => (refusedNode nodes row).or (refusedRows (nodes ++ [row.stored]) rows)

section Insert

variable {s s' : TaxonomySession} {node : TaxonomyNode} {exc : Exn}

theorem insertRow_of_none (h : refusedNode s.working.nodes node = none) :
    insertRow node s = (.returned s.working.nodes.length, s.addNode node.stored) := by
  simp [insertRow, h, -bind_pure_comp]

theorem insertRow_of_some (h : refusedNode s.working.nodes node = some exc) :
    insertRow node s = (.raised exc, s) := by
  simp [insertRow, h]

theorem insertRows_append (rows later : List TaxonomyNode) :
    insertRows (rows ++ later) = (insertRows rows >>= fun _ => insertRows later) := by
  induction rows with
  | nil => rfl
  | cons row rows ih => simp [insertRows, ih]

/-- Rows that are not refused are all inserted. -/
theorem insertRows_of_none {rows : List TaxonomyNode} (h : refusedRows s.working.nodes rows = none) :
    insertRows rows s = (.returned (), s.addNodes (rows.map (·.stored))) := by
  induction rows generalizing s with
  | nil => simp [insertRows, TaxonomySession.addNodes_nil]
  | cons row rows ih =>
      obtain ⟨hrow, hrows⟩ := Option.or_eq_none_iff.mp h
      rw [insertRows, Faulty.bind_returned (insertRow_of_none hrow), List.map_cons,
        TaxonomySession.addNodes_cons]
      exact ih hrows

/-- A refused row stops the transaction, which has committed nothing. -/
theorem insertRows_of_some {rows : List TaxonomyNode}
    (h : refusedRows s.working.nodes rows = some exc) :
    ∃ s', insertRows rows s = (.raised exc, s') ∧ s'.committed = s.committed := by
  induction rows generalizing s with
  | nil => cases h
  | cons row rows ih =>
      rw [refusedRows] at h
      cases hrow : refusedNode s.working.nodes row with
      | some refusal =>
          rw [hrow] at h
          cases h
          exact ⟨s, Faulty.bind_raised (insertRow_of_some hrow), rfl⟩
      | none =>
          rw [hrow] at h
          obtain ⟨s', hrun, hcommitted⟩ := ih (s := s.addNode row.stored) h
          exact ⟨s', (Faulty.bind_returned (insertRow_of_none hrow)).trans hrun, hcommitted⟩

end Insert

/-! ## `_store_nodes` in a steady environment

The two loops of the source, one round after the other, are the insertion of the list. -/

section Steady

variable {env : TaxonomyEnv} (hsteady : env.Steady)
include hsteady

theorem storeNode_eq (point : TaxonomyPoint) (node : TaxonomyNode) :
    storeNode env point node = insertRow node := by
  rw [storeNode, hsteady point]
  rfl

theorem storeChildren_eq (versionId order parentId childOrder : ℕ)
    (children : List GeneratedSubcategory) (used : List String) :
    storeChildren env versionId order parentId childOrder children used = (do
      insertRows (withSlugs env.lower (childRows versionId parentId childOrder children) used)
      pure (usedAfter env.lower (children.map (·.name)) used)) := by
  induction children generalizing childOrder used with
  | nil => rfl
  | cons child children ih =>
      simp only [storeChildren, storeNode_eq hsteady, ih, childRows, withSlugs, insertRows, usedAfter,
        List.map_cons, bind_assoc]

/-- **What `_store_nodes` does**: it inserts the rows of the tree. -/
theorem storeNodes_eq (versionId order : ℕ) (categories : List GeneratedCategory)
    (used : List String) (s : TaxonomySession) :
    storeNodes env versionId order categories used s
      = insertRows (withSlugs env.lower
          (treeRows versionId s.working.nodes.length order categories) used) s := by
  induction categories generalizing order used s with
  | nil => rfl
  | cons category categories ih =>
      simp only [storeNodes, storeNode_eq hsteady, storeChildren_eq hsteady, treeRows, withSlugs,
        insertRows, withSlugs_append, insertRows_append, bind_assoc, pure_bind, map_name_childRows,
        categoryRow]
      set slug := uniqueSlug env.lower category.name used
      set row : TaxonomyNode :=
        ⟨versionId, none, category.name, category.description, slug, 0, order⟩
      cases hrow : refusedNode s.working.nodes row with
      | some exc =>
          rw [Faulty.bind_raised (insertRow_of_some hrow), Faulty.bind_raised (insertRow_of_some hrow)]
      | none =>
          rw [Faulty.bind_returned (insertRow_of_none hrow),
            Faulty.bind_returned (insertRow_of_none hrow)]
          set children := withSlugs env.lower
            (childRows versionId s.working.nodes.length 0 category.children) (slug :: used)
          cases hchildren : refusedRows (s.addNode row.stored).working.nodes children with
          | some exc =>
              obtain ⟨s', hrun, -⟩ := insertRows_of_some hchildren
              rw [Faulty.bind_raised hrun, Faulty.bind_raised hrun]
          | none =>
              rw [Faulty.bind_returned (insertRows_of_none hchildren), ih,
                Faulty.bind_returned (insertRows_of_none hchildren)]
              simp [children, TaxonomySession.addNodes, TaxonomySession.addNode, Nat.add_assoc,
                Nat.add_comm 1]

end Steady

/-! ## What is refused

When a row of a version whose slug is new fits its columns. -/

theorem refusedText_eq_none {width : Option ℕ} {value : String} :
    refusedText width value = none ↔
      '\x00' ∉ value.toList ∧ ∀ n ∈ width, ∀ c ∈ value.toList.drop n, c = ' ' := by
  rw [refusedText]
  split_ifs with hnul hwidth
  · simp [hnul]
  · cases width with
    | none => simp at hwidth
    | some n => simpa [hnul] using hwidth
  · cases width with
    | none => simp [hnul]
    | some n => simpa [hnul] using hwidth

/-- A text without spaces fits when it is no longer than its column. -/
theorem drop_eq_space_iff {text : List Char} (h : ' ' ∉ text) (n : ℕ) :
    (∀ c ∈ text.drop n, c = ' ') ↔ text.length ≤ n := by
  rw [← List.drop_eq_nil_iff]
  refine ⟨fun hspaces => ?_, fun hnil => by simp [hnil]⟩
  refine List.eq_nil_iff_forall_not_mem.mpr fun c hc => h ?_
  rw [← hspaces c hc]
  exact List.mem_of_mem_drop hc

theorem isSlug_of_mem_slugs {lower : String → String} {names used : List String} {slug : String}
    (h : slug ∈ slugs lower names used) : IsSlug slug := by
  induction names generalizing used with
  | nil => cases h
  | cons name names ih =>
      rcases List.mem_cons.mp h with rfl | h
      · exact isSlug_uniqueSlug lower name used
      · exact ih h

/-- A slug has no NUL, so that its width decides. -/
theorem refusedText_slug {lower : String → String} {names used : List String} {slug : String}
    (h : slug ∈ slugs lower names used) :
    refusedText (some 255) slug = none ↔ slug.length ≤ 255 := by
  have htext := (isSlug_of_mem_slugs h).text
  have hnul : '\x00' ∉ slug.toList := fun hmem => absurd (htext _ hmem) (by decide)
  have hspace : ' ' ∉ slug.toList := fun hmem => absurd (htext _ hmem) (by decide)
  simp [refusedText_eq_none, hnul, drop_eq_space_iff hspace, String.length_toList]

/-- The texts of a row fit its columns, when its slug is new. -/
theorem refusedNode_eq_none {nodes : List TaxonomyNode} {node : TaxonomyNode} :
    refusedNode nodes node = none ↔ refusedTexts node = none ∧
      ∀ stored ∈ nodes, stored.taxonomyVersionId = node.taxonomyVersionId →
        stored.slug ≠ node.slug := by
  simp [refusedNode]

/-- Rows of one version, none of whose slugs is used, are refused for their texts only. -/
theorem refusedRows_withSlugs {lower : String → String} {versionId : ℕ} {rows : List TaxonomyNode}
    (hrows : ∀ row ∈ rows, row.taxonomyVersionId = versionId) {nodes : List TaxonomyNode}
    {used : List String}
    (hused : ∀ stored ∈ nodes, stored.taxonomyVersionId = versionId → stored.slug ∈ used) :
    refusedRows nodes (withSlugs lower rows used) = none ↔
      ∀ row ∈ withSlugs lower rows used, refusedTexts row = none := by
  induction rows generalizing nodes used with
  | nil => exact iff_of_true rfl nofun
  | cons row rows ih =>
      obtain ⟨hrow, hrest⟩ := List.forall_mem_cons.mp hrows
      set slug := uniqueSlug lower row.name used
      have hnew : refusedNode nodes { row with slug } = none ↔
          refusedTexts { row with slug } = none := by
        refine refusedNode_eq_none.trans (and_iff_left fun stored hstored hversion hslug => ?_)
        have hmem := hused stored hstored (hversion.trans hrow)
        rw [hslug] at hmem
        exact uniqueSlug_not_mem lower row.name used hmem
      have hlater : ∀ stored ∈ nodes ++ [{ row with slug }.stored], stored.taxonomyVersionId = versionId →
          stored.slug ∈ slug :: used := by
        intro stored hstored hversion
        rcases List.mem_append.mp hstored with hold | hlast
        · exact List.mem_cons_of_mem _ (hused stored hold hversion)
        · rw [List.mem_singleton.mp hlast]
          exact List.mem_cons_self
      rw [withSlugs, refusedRows, Option.or_eq_none_iff, List.forall_mem_cons, hnew, ih hrest hlater]

end TaxonomyGenerationService

/-! ## The taxonomies that can be stored

The same of all its rows, said of the texts of the taxonomy. -/

/-- The names of a taxonomy in the order they are stored. -/
def GeneratedTaxonomy.names (taxonomy : GeneratedTaxonomy) : List String :=
  taxonomy.nodes.flatMap fun category => category.name :: category.children.map (·.name)

def GeneratedTaxonomy.descriptions (taxonomy : GeneratedTaxonomy) : List String :=
  taxonomy.nodes.flatMap fun category => category.description :: category.children.map (·.description)

/-- Every text fits its column: the names, the descriptions, and the slugs the names are given.  What
a name has beyond its width are spaces. -/
structure Storable (lower : String → String) (taxonomy : GeneratedTaxonomy) : Prop where
  names : ∀ name ∈ taxonomy.names, '\x00' ∉ name.toList ∧ ∀ c ∈ name.toList.drop 255, c = ' '
  descriptions : ∀ description ∈ taxonomy.descriptions, '\x00' ∉ description.toList
  slugs : ∀ slug ∈ TaxonomyGenerationService.slugs lower taxonomy.names [], slug.length ≤ 255

/-- A taxonomy none of whose names is longer than its column. -/
theorem Storable.of_short {lower : String → String} {taxonomy : GeneratedTaxonomy}
    (hnames : ∀ name ∈ taxonomy.names, '\x00' ∉ name.toList ∧ name.length ≤ 255)
    (hdescriptions : ∀ description ∈ taxonomy.descriptions, '\x00' ∉ description.toList)
    (hslugs : ∀ slug ∈ TaxonomyGenerationService.slugs lower taxonomy.names [], slug.length ≤ 255) :
    Storable lower taxonomy where
  names name hname := by
    obtain ⟨hnul, hlength⟩ := hnames name hname
    rw [← String.length_toList] at hlength
    exact ⟨hnul, by simp [List.drop_eq_nil_of_le hlength]⟩
  descriptions := hdescriptions
  slugs := hslugs

namespace TaxonomyGenerationService

variable {lower : String → String} {versionId : ℕ}

/-- A column that is the same for a category and its children, over the rows of a tree. -/
theorem map_treeRows {α : Type} {f : TaxonomyNode → α} {g : GeneratedCategory → α}
    {h : GeneratedSubcategory → α}
    (hcategory : ∀ order category, f (categoryRow versionId order category) = g category)
    (hchild : ∀ parentId order child,
      f ⟨versionId, some parentId, child.name, child.description, "", 1, order⟩ = h child)
    (base order : ℕ) (categories : List GeneratedCategory) :
    (treeRows versionId base order categories).map f
      = categories.flatMap fun category => g category :: category.children.map h := by
  have hchildren : ∀ (children : List GeneratedSubcategory) (parentId childOrder : ℕ),
      (childRows versionId parentId childOrder children).map f = children.map h := by
    intro children parentId childOrder
    induction children generalizing childOrder with
    | nil => rfl
    | cons child children ih => simp [childRows, hchild, ih]
  induction categories generalizing base order with
  | nil => rfl
  | cons category categories ih => simp [treeRows, hcategory, hchildren, ih]

/-- **The rows of a taxonomy are refused exactly when one of its texts does not fit.** -/
theorem refusedRows_sentRows {nodes : List TaxonomyNode}
    (hnew : ∀ stored ∈ nodes, stored.taxonomyVersionId ≠ versionId) (base : ℕ)
    (taxonomy : GeneratedTaxonomy) :
    refusedRows nodes (sentRows lower versionId base taxonomy.nodes) = none ↔
      Storable lower taxonomy := by
  set rows := treeRows versionId base 0 taxonomy.nodes with hrows
  have hname : rows.map (·.name) = taxonomy.names :=
    map_treeRows (fun _ _ => rfl) (fun _ _ _ => rfl) base 0 taxonomy.nodes
  have hnames : (withSlugs lower rows []).map (·.name) = taxonomy.names :=
    (map_withSlugs (fun _ _ => rfl) rows []).trans hname
  have hdescriptions : (withSlugs lower rows []).map (·.description) = taxonomy.descriptions :=
    (map_withSlugs (fun _ _ => rfl) rows []).trans
      (map_treeRows (fun _ _ => rfl) (fun _ _ _ => rfl) base 0 taxonomy.nodes)
  have htexts : (∀ row ∈ withSlugs lower rows [], refusedTexts row = none) ↔
      (∀ name ∈ taxonomy.names, refusedText (some 255) name = none) ∧
      (∀ description ∈ taxonomy.descriptions, refusedText none description = none) ∧
      (∀ slug ∈ slugs lower taxonomy.names [], refusedText (some 255) slug = none) := by
    rw [← hname, ← map_slug_withSlugs, hname, ← hnames, ← hdescriptions]
    simp only [List.forall_mem_map, ← forall_and, refusedTexts, Option.or_eq_none_iff]
  rw [sentRows, ← hrows, refusedRows_withSlugs (fun row => versionId_treeRows)
    (fun stored hstored hversion => absurd hversion (hnew stored hstored)), htexts]
  constructor
  · rintro ⟨hnames, hdescriptions, hslugs⟩
    refine ⟨fun name h => ?_, fun description h => ?_, fun slug h => ?_⟩
    · simpa [refusedText_eq_none] using hnames name h
    · simpa [refusedText_eq_none] using hdescriptions description h
    · exact (refusedText_slug h).mp (hslugs slug h)
  · rintro ⟨hnames, hdescriptions, hslugs⟩
    refine ⟨fun name h => ?_, fun description h => ?_, fun slug h => ?_⟩
    · simpa [refusedText_eq_none] using hnames name h
    · simpa [refusedText_eq_none] using hdescriptions description h
    · exact (refusedText_slug h).mpr (hslugs slug h)

end TaxonomyGenerationService

end ReviewSignal
