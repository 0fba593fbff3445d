import ReviewSignal.Services.Taxonomy
import ReviewSignal.Services.TaxonomyRows

/-!
# Storing a taxonomy and reading it back

`_store_nodes` flattens a tree into rows, and `list_nodes` returns them by `depth` and `sort_order`,
which interleaves the children of all categories and leaves the order of some of them to the database.
`_build_tree` makes the tree of them again (`roundTrip`).

**Why it works.**  Two rows may come in either order only if they agree in `depth` and `sort_order`,
and siblings never do:

* `storedTree_children` — the rows under one parent are the children of one category, numbered as they
  were;
* `siblings_listed` — no database may return them in another order;
* `parentsFirst_listed` — every row comes after its parent, so that one pass over the rows is enough.

**What comes back.**  `GeneratedTaxonomy.stored` is the taxonomy with its names as their columns hold
them.  It is the taxonomy itself unless a name is longer than 255 characters
(`GeneratedTaxonomy.stored_eq_self`), and then it lacks spaces at the end of that name and nothing else.
-/

namespace ReviewSignal

/-! ## A payload and what it stands for

What it means that a tree that is read is the taxonomy that was stored. -/

/-- The payload is this subcategory. -/
structure TaxonomyNodePayload.IsSubcategory (payload : TaxonomyNodePayload)
    (child : GeneratedSubcategory) : Prop where
  name : payload.name = child.name
  description : payload.description = child.description
  children : payload.children = []

/-- The payload is this category, with its own children in their order. -/
structure TaxonomyNodePayload.IsCategory (payload : TaxonomyNodePayload)
    (category : GeneratedCategory) : Prop where
  name : payload.name = category.name
  description : payload.description = category.description
  children : payload.children.Forall₂ IsSubcategory category.children

/-! ## A taxonomy as it is stored

A name loses the spaces its column has no room for, and nothing else. -/

/-- A column that is wide enough holds the text itself. -/
theorem keptText_of_length_le {width : ℕ} {value : String} (h : value.length ≤ width) :
    keptText width value = value := by
  rw [keptText, List.take_of_length_le (h := by rwa [String.length_toList]), String.ofList_toList]

theorem keptText_ne_empty {width : ℕ} {value : String} (h : value ≠ "") :
    keptText (width + 1) value ≠ "" := by
  have hne : value.toList ≠ [] := by simpa using h
  obtain ⟨c, cs, hcs⟩ := List.exists_cons_of_ne_nil hne
  simp [keptText, hcs]

/-- The subcategory its row stands for. -/
def GeneratedSubcategory.stored (child : GeneratedSubcategory) : GeneratedSubcategory where
  name := keptText 255 child.name
  description := child.description
  name_ne := keptText_ne_empty child.name_ne
  description_ne := child.description_ne

/-- The category its row stands for, with the rows under it. -/
def GeneratedCategory.stored (category : GeneratedCategory) : GeneratedCategory where
  name := keptText 255 category.name
  description := category.description
  children := category.children.map (·.stored)
  name_ne := keptText_ne_empty category.name_ne
  description_ne := category.description_ne

/-- The taxonomy its rows stand for. -/
def GeneratedTaxonomy.stored (taxonomy : GeneratedTaxonomy) : GeneratedTaxonomy where
  nodes := taxonomy.nodes.map (·.stored)
  nodes_ne := by simpa using taxonomy.nodes_ne

theorem GeneratedSubcategory.stored_eq_self {child : GeneratedSubcategory}
    (h : child.name.length ≤ 255) : child.stored = child := by
  simp [stored, keptText_of_length_le h]

theorem GeneratedCategory.stored_eq_self {category : GeneratedCategory}
    (hname : category.name.length ≤ 255)
    (hchildren : ∀ child ∈ category.children, child.name.length ≤ 255) :
    category.stored = category := by
  have hmap : category.children.map (·.stored) = category.children :=
    (List.map_congr_left fun child hchild =>
      GeneratedSubcategory.stored_eq_self (hchildren child hchild)).trans (List.map_id' _)
  simp [stored, keptText_of_length_le hname, hmap]

/-- Nothing is cut of names of at most 255 characters. -/
theorem GeneratedTaxonomy.stored_eq_self {taxonomy : GeneratedTaxonomy}
    (h : ∀ name ∈ taxonomy.names, name.length ≤ 255) : taxonomy.stored = taxonomy := by
  have hmap : ∀ category ∈ taxonomy.nodes, category.stored = category := by
    intro category hcategory
    have hnames : ∀ name ∈ category.name :: category.children.map (·.name), name.length ≤ 255 :=
      fun name hname => h name (List.mem_flatMap.mpr ⟨category, hcategory, hname⟩)
    obtain ⟨hname, hchildren⟩ := List.forall_mem_cons.mp hnames
    exact GeneratedCategory.stored_eq_self hname (List.forall_mem_map.mp hchildren)
  cases taxonomy
  simp only [stored, GeneratedTaxonomy.mk.injEq]
  exact (List.map_congr_left hmap).trans (List.map_id' _)

/-! ## A tree of two levels

What the pass makes of categories and their children. -/

section TwoLevels

variable {nodes : List StoredNode} {s : TreeBuilder} {node : StoredNode}

theorem filterMap_payload {l : List StoredNode} {f : ℕ → Option TaxonomyNodePayload}
    {g : StoredNode → TaxonomyNodePayload} (h : ∀ node ∈ l, f node.id = some (g node)) :
    (l.map (·.id)).filterMap f = l.map g := by
  induction l with
  | nil => rfl
  | cons node l ih =>
      obtain ⟨hnode, hl⟩ := List.forall_mem_cons.mp h
      simp [hnode, ih hl]

theorem Built.payload_leaf (hs : Built nodes s) (hnode : node ∈ nodes)
    (hleaf : siblings (some node.id) nodes = []) (depth : ℕ) :
    s.payload (depth + 1) node.id = some (node.payload []) := by
  simp [TreeBuilder.payload, hs.cell node hnode, hleaf, StoredNode.payload]

theorem Built.payload_root (hs : Built nodes s) (hnode : node ∈ nodes)
    (hleaves : ∀ child ∈ siblings (some node.id) nodes, siblings (some child.id) nodes = [])
    {depth : ℕ} (hdepth : siblings (some node.id) nodes ≠ [] → depth ≠ 0) :
    s.payload (depth + 1) node.id
      = some (node.payload ((siblings (some node.id) nodes).map (·.payload []))) := by
  have hchildren : ((siblings (some node.id) nodes).map (·.id)).filterMap (s.payload depth)
      = (siblings (some node.id) nodes).map (·.payload []) := by
    cases depth with
    | zero =>
        have hnone : siblings (some node.id) nodes = [] := by
          by_contra h
          exact hdepth h rfl
        simp [hnone]
    | succ depth =>
        refine filterMap_payload fun child hchild => ?_
        exact hs.payload_leaf (List.mem_of_mem_filter hchild) (hleaves child hchild) depth
  rw [TreeBuilder.payload, hs.cell node hnode, Option.map_some, hchildren]
  rfl

/-- **The tree of rows on two levels.** -/
theorem buildTree_eq (h : ParentsFirst nodes)
    (hleaves : ∀ root ∈ siblings none nodes, ∀ child ∈ siblings (some root.id) nodes,
      siblings (some child.id) nodes = []) :
    buildTree nodes = (siblings none nodes).map fun root =>
      root.payload ((siblings (some root.id) nodes).map (·.payload [])) := by
  have hs := built h
  rw [buildTree, hs.roots]
  refine filterMap_payload fun root hroot => ?_
  have hmem := List.mem_of_mem_filter hroot
  obtain ⟨depth, hdepth⟩ := Nat.exists_eq_add_one.mpr (List.length_pos_of_mem hmem)
  rw [hdepth]
  refine hs.payload_root hmem (hleaves root hroot) fun hne hzero => ?_
  -- a child is another row than its parent
  obtain ⟨child, hchild⟩ := List.exists_mem_of_ne_nil _ hne
  have hroots : root.row.parentId = none := by simpa [siblings] using (List.mem_filter.mp hroot).2
  have hsame : child = root := by
    obtain ⟨only, rfl⟩ := List.length_eq_one_iff.mp (hdepth.trans (by rw [hzero]))
    rw [List.mem_singleton.mp hmem]
    exact List.mem_singleton.mp (List.mem_of_mem_filter hchild)
  have hparent : child.row.parentId = some root.id := by
    simpa [siblings] using (List.mem_filter.mp hchild).2
  rw [hsame, hroots] at hparent
  cases hparent

end TwoLevels

/-! ## The rows of a tree

The stored rows have their parents and their positions. -/

section Keyed

variable {base : ℕ} {node : StoredNode}

theorem keyed_append (base : ℕ) (rows later : List TaxonomyNode) :
    keyed base (rows ++ later) = keyed base rows ++ keyed (base + rows.length) later := by
  induction rows generalizing base with
  | nil => rfl
  | cons row rows ih => simp [keyed, ih, Nat.add_assoc, Nat.add_comm 1]

theorem le_id_keyed {rows : List TaxonomyNode} (h : node ∈ keyed base rows) : base ≤ node.id := by
  induction rows generalizing base with
  | nil => cases h
  | cons row rows ih =>
      rcases List.mem_cons.mp h with rfl | h
      · exact le_rfl
      · have := ih h
        omega

theorem row_mem_of_mem_keyed {rows : List TaxonomyNode} (h : node ∈ keyed base rows) :
    node.row ∈ rows := by
  induction rows generalizing base with
  | nil => cases h
  | cons row rows ih =>
      rcases List.mem_cons.mp h with rfl | h
      · exact List.mem_cons_self
      · exact List.mem_cons_of_mem _ (ih h)

theorem pairwise_id_keyed (base : ℕ) (rows : List TaxonomyNode) :
    (keyed base rows).Pairwise fun a b => a.id ≠ b.id := by
  induction rows generalizing base with
  | nil => exact .nil
  | cons row rows ih =>
      refine List.pairwise_cons.mpr ⟨fun later hlater => ?_, ih (base + 1)⟩
      have hid : base + 1 ≤ later.id := le_id_keyed hlater
      show base ≠ later.id
      omega

/-- The rows of a version that has just been added. -/
theorem versionNodes_append {versionId : ℕ} {nodes rows : List TaxonomyNode}
    (hnodes : ∀ row ∈ nodes, row.taxonomyVersionId ≠ versionId)
    (hrows : ∀ row ∈ rows, row.taxonomyVersionId = versionId) :
    versionNodes versionId (nodes ++ rows) = keyed nodes.length rows := by
  have hold : (keyed 0 nodes).filter (·.row.taxonomyVersionId = versionId) = [] := by
    refine List.filter_eq_nil_iff.mpr fun node hnode => ?_
    simpa using hnodes _ (row_mem_of_mem_keyed hnode)
  have hnew : (keyed nodes.length rows).filter (·.row.taxonomyVersionId = versionId)
      = keyed nodes.length rows := by
    refine List.filter_eq_self.mpr fun node hnode => ?_
    simpa using hrows _ (row_mem_of_mem_keyed hnode)
  rw [versionNodes, keyed_append, List.filter_append, hold, Nat.zero_add, hnew, List.nil_append]

end Keyed

open TaxonomyGenerationService

/-- The rows of some categories, with their keys. -/
def storedTree (lower : String → String) (versionId base order : ℕ)
    (categories : List GeneratedCategory) (used : List String) : List StoredNode :=
  keyed base ((withSlugs lower (treeRows versionId base order categories) used).map (·.stored))

/-- The rows of the children of one category, with their keys. -/
def storedChildren (lower : String → String) (versionId parentId base childOrder : ℕ)
    (children : List GeneratedSubcategory) (used : List String) : List StoredNode :=
  keyed base ((withSlugs lower (childRows versionId parentId childOrder children) used).map (·.stored))

/-- The row is this subcategory. -/
def StoredNode.Stores (node : StoredNode) (child : GeneratedSubcategory) : Prop :=
  node.row.name = keptText 255 child.name ∧ node.row.description = child.description

section Children

variable {lower : String → String} {versionId parentId : ℕ}

theorem mem_storedChildren {base childOrder : ℕ} {children : List GeneratedSubcategory}
    {used : List String} {node : StoredNode}
    (h : node ∈ storedChildren lower versionId parentId base childOrder children used) :
    node.row.parentId = some parentId ∧ node.row.depth = 1 ∧ childOrder ≤ node.row.sortOrder := by
  induction children generalizing base childOrder used with
  | nil => cases h
  | cons child children ih =>
      rcases List.mem_cons.mp h with rfl | h
      · exact ⟨rfl, rfl, le_rfl⟩
      · obtain ⟨hparent, hdepth, horder⟩ := ih h
        exact ⟨hparent, hdepth, by omega⟩

theorem pairwise_storedChildren (base childOrder : ℕ) (children : List GeneratedSubcategory)
    (used : List String) :
    (storedChildren lower versionId parentId base childOrder children used).Pairwise
      fun a b => a.row.sortOrder < b.row.sortOrder := by
  induction children generalizing base childOrder used with
  | nil => exact .nil
  | cons child children ih =>
      refine List.pairwise_cons.mpr ⟨fun later hlater => ?_, ih _ _ _⟩
      have horder : childOrder + 1 ≤ later.row.sortOrder := (mem_storedChildren hlater).2.2
      show childOrder < later.row.sortOrder
      omega

theorem stores_storedChildren (base childOrder : ℕ) (children : List GeneratedSubcategory)
    (used : List String) :
    (storedChildren lower versionId parentId base childOrder children used).Forall₂
      StoredNode.Stores children := by
  induction children generalizing base childOrder used with
  | nil => exact .nil
  | cons child children ih => exact .cons ⟨rfl, rfl⟩ (ih _ _ _)

end Children

section Tree

variable {lower : String → String} {versionId : ℕ}

variable (lower versionId) in
/-- A category, its children, and the categories after it. -/
theorem storedTree_cons (base order : ℕ) (category : GeneratedCategory)
    (categories : List GeneratedCategory) (used : List String) :
    ∃ slug used₁ used₂, storedTree lower versionId base order (category :: categories) used
      = ⟨base, { categoryRow versionId order category with slug }.stored⟩ ::
        (storedChildren lower versionId base (base + 1) 0 category.children used₁ ++
          storedTree lower versionId (base + 1 + category.children.length) (order + 1) categories
            used₂) := by
  let slug := uniqueSlug lower category.name used
  refine ⟨slug, slug :: used, usedAfter lower (category.children.map (·.name)) (slug :: used), ?_⟩
  rw [storedTree, treeRows, withSlugs, withSlugs_append, List.map_cons, List.map_append, keyed,
    keyed_append, List.length_map, length_withSlugs, length_childRows, map_name_childRows]
  rfl

/-- The rows of a tree: categories without a parent, and subcategories of rows among them. -/
theorem mem_storedTree {base order : ℕ} {categories : List GeneratedCategory} {used : List String}
    {node : StoredNode} (h : node ∈ storedTree lower versionId base order categories used) :
    (node.row.parentId = none ∧ node.row.depth = 0 ∧ order ≤ node.row.sortOrder) ∨
    (node.row.depth = 1 ∧ ∃ root ∈ storedTree lower versionId base order categories used,
      node.row.parentId = some root.id ∧ root.row.parentId = none) := by
  induction categories generalizing base order used with
  | nil => cases h
  | cons category categories ih =>
      obtain ⟨slug, used₁, used₂, htree⟩ :=
        storedTree_cons lower versionId base order category categories used
      rw [htree] at h ⊢
      rcases List.mem_cons.mp h with rfl | h
      · exact .inl ⟨rfl, rfl, le_rfl⟩
      rcases List.mem_append.mp h with hchild | hlater
      · obtain ⟨hparent, hdepth, -⟩ := mem_storedChildren hchild
        exact .inr ⟨hdepth, _, List.mem_cons_self, hparent, rfl⟩
      · refine (ih hlater).imp (fun h => ⟨h.1, h.2.1, by omega⟩) fun h => ⟨h.1, ?_⟩
        obtain ⟨-, root, hroot, hparent⟩ := h
        exact ⟨root, List.mem_cons_of_mem _ (List.mem_append_right _ hroot), hparent⟩

variable (lower versionId) in
/-- The rows at the top and the rows under each of them. -/
theorem siblings_storedTree (base order : ℕ) (category : GeneratedCategory)
    (categories : List GeneratedCategory) (used : List String) :
    ∃ slug used₁ used₂,
      let root : StoredNode := ⟨base, { categoryRow versionId order category with slug }.stored⟩
      let tree := storedTree lower versionId base order (category :: categories) used
      let later := storedTree lower versionId (base + 1 + category.children.length) (order + 1)
        categories used₂
      siblings none tree = root :: siblings none later ∧
      siblings (some base) tree
        = storedChildren lower versionId base (base + 1) 0 category.children used₁ ∧
      ∀ parentId, parentId ≠ base → siblings (some parentId) tree = siblings (some parentId) later := by
  obtain ⟨slug, used₁, used₂, htree⟩ :=
    storedTree_cons lower versionId base order category categories used
  refine ⟨slug, used₁, used₂, ?_⟩
  intro root tree later
  set children := storedChildren lower versionId base (base + 1) 0 category.children used₁
  have hsplit (parent : Option ℕ) : siblings parent tree
      = siblings parent [root] ++ (siblings parent children ++ siblings parent later) := by
    rw [← siblings_append, ← siblings_append]
    exact congrArg (siblings parent) htree
  have hroot (parentId : ℕ) : siblings (some parentId) [root] = [] := siblings_singleton _ _
  have hchildren : siblings (some base) children = children := by
    refine List.filter_eq_self.mpr fun child hchild => ?_
    simpa using (mem_storedChildren hchild).1
  have hothers (parent : Option ℕ) (h : parent ≠ some base) : siblings parent children = [] := by
    refine List.filter_eq_nil_iff.mpr fun child hchild => ?_
    simpa [(mem_storedChildren hchild).1] using h.symm
  have hlater : siblings (some base) later = [] := by
    refine List.filter_eq_nil_iff.mpr fun node hnode hparent => ?_
    rcases mem_storedTree hnode with ⟨hnone, -⟩ | ⟨-, parent, hmem, hsome, -⟩
    · simp [hnone] at hparent
    · have hid : base + 1 + category.children.length ≤ parent.id := le_id_keyed hmem
      have : parent.id = base := by simpa [hsome] using hparent
      omega
  refine ⟨?_, ?_, fun parentId hne => ?_⟩
  · rw [hsplit, hothers none nofun, siblings_singleton]
    rfl
  · rw [hsplit, hroot, hchildren, hlater, List.nil_append, List.append_nil]
  · rw [hsplit, hroot, hothers _ (by simpa using hne), List.nil_append, List.nil_append]

/-- **The rows of a tree are its categories and their children**, in their orders. -/
theorem storedTree_children (base order : ℕ) (categories : List GeneratedCategory)
    (used : List String) :
    let tree := storedTree lower versionId base order categories used
    (siblings none tree).Forall₂ (fun root category => base ≤ root.id ∧
      root.row.name = keptText 255 category.name ∧ root.row.description = category.description ∧
      (siblings (some root.id) tree).Forall₂ StoredNode.Stores category.children) categories := by
  induction categories generalizing base order used with
  | nil => exact .nil
  | cons category categories ih =>
      intro tree
      obtain ⟨slug, used₁, used₂, hroots, hchildren, hothers⟩ :=
        siblings_storedTree lower versionId base order category categories used
      rw [hroots]
      refine .cons ⟨le_rfl, rfl, rfl, ?_⟩ ?_
      · exact hchildren ▸ stores_storedChildren (base + 1) 0 category.children used₁
      · refine (ih (base + 1 + category.children.length) (order + 1) used₂).imp ?_
        rintro root later ⟨hid, hname, hdescription, hlater⟩
        refine ⟨by omega, hname, hdescription, ?_⟩
        rwa [hothers root.id (by omega)]

variable (lower versionId) in
/-- The rows under one parent are numbered in their order. -/
theorem pairwise_siblings_storedTree (base order : ℕ) (categories : List GeneratedCategory)
    (used : List String) (parent : Option ℕ) :
    (siblings parent (storedTree lower versionId base order categories used)).Pairwise
      fun a b => a.row.sortOrder < b.row.sortOrder := by
  induction categories generalizing base order used with
  | nil => exact .nil
  | cons category categories ih =>
      obtain ⟨slug, used₁, used₂, hroots, hchildren, hothers⟩ :=
        siblings_storedTree lower versionId base order category categories used
      cases parent with
      | none =>
          rw [hroots]
          refine List.pairwise_cons.mpr ⟨fun root hroot => ?_, ih _ _ _⟩
          obtain ⟨hmem, hparent⟩ := List.mem_filter.mp hroot
          rcases mem_storedTree hmem with ⟨-, -, horder⟩ | ⟨-, _, -, hsome, -⟩
          · show order < root.row.sortOrder
            omega
          · simp [hsome] at hparent
      | some parentId =>
          by_cases hbase : parentId = base
          · rw [hbase, hchildren]
            exact pairwise_storedChildren _ _ _ _
          · rw [hothers parentId hbase]
            exact ih _ _ _

end Tree

/-! ## Any order a database may return them in

The depth comes first, and the positions of siblings are different. -/

section Listed

variable {lower : String → String} {versionId base : ℕ} {categories : List GeneratedCategory}
  {l : List StoredNode}

/-- **Siblings come in one order only.** -/
theorem siblings_listed
    (h : Arranged StoredNode.MayPrecede (storedTree lower versionId base 0 categories []) l)
    (parent : Option ℕ) :
    siblings parent l = siblings parent (storedTree lower versionId base 0 categories []) := by
  set tree := storedTree lower versionId base 0 categories [] with htree
  have horder := pairwise_siblings_storedTree lower versionId base 0 categories [] parent
  rw [← htree] at horder
  have hdepth : ∀ a ∈ siblings parent tree, ∀ b ∈ siblings parent tree, a.row.depth = b.row.depth := by
    have hlevel : ∀ a ∈ siblings parent tree, a.row.depth = if parent = none then 0 else 1 := by
      intro a ha
      obtain ⟨hmem, hparent⟩ := List.mem_filter.mp ha
      rw [← of_decide_eq_true hparent]
      rcases mem_storedTree hmem with ⟨hnone, hzero, -⟩ | ⟨hone, root, -, hsome, -⟩
      · simp [hnone, hzero]
      · simp [hsome, hone]
    intro a ha b hb
    rw [hlevel a ha, hlevel b hb]
  have hinjective := List.inj_on_of_nodup_map
    (List.pairwise_map.mpr (horder.imp ne_of_lt))
  refine h.filter_eq _ ?_ fun a ha b hb hab hba => ?_
  · exact horder.imp_of_mem fun ha hb hlt => .inr ⟨hdepth _ ha _ hb, hlt.le⟩
  · refine hinjective ha hb ?_
    have hsame := hdepth a ha b hb
    rcases hab with hab | hab <;> rcases hba with hba | hba <;> omega

/-- Every row comes after its parent, in any order that agrees with `depth`. -/
theorem parentsFirst_listed
    (h : Arranged StoredNode.MayPrecede (storedTree lower versionId base 0 categories []) l) :
    ParentsFirst l := by
  refine ⟨(h.perm.pairwise_iff Ne.symm).mpr (pairwise_id_keyed base _), ?_⟩
  rintro before node after rfl parentId hparent
  have hmem : node ∈ storedTree lower versionId base 0 categories [] :=
    h.perm.mem_iff.mp (List.mem_append_right _ List.mem_cons_self)
  rcases mem_storedTree hmem with ⟨hnone, -⟩ | ⟨hdepth, root, hroot, hsome, htop⟩
  · simp [hnone] at hparent
  · refine ⟨root, h.mem_before hroot ?_ ?_, by simpa [hsome] using hparent⟩
    · rintro rfl
      simp [htop] at hsome
    · have hzero : root.row.depth = 0 := by
        rcases mem_storedTree hroot with ⟨-, hzero, -⟩ | ⟨-, _, -, hnot, -⟩
        · exact hzero
        · simp [htop] at hnot
      simp [StoredNode.MayPrecede, hdepth, hzero]

/-- A subcategory has no children. -/
theorem childless_listed
    (h : Arranged StoredNode.MayPrecede (storedTree lower versionId base 0 categories []) l)
    {root child : StoredNode} (hchild : child ∈ siblings (some root.id) l) :
    siblings (some child.id) l = [] := by
  obtain ⟨hmem, hparent⟩ := List.mem_filter.mp hchild
  refine List.filter_eq_nil_iff.mpr fun node hnode hunder => ?_
  rcases mem_storedTree (h.perm.mem_iff.mp hnode) with ⟨hnone, -⟩ | ⟨-, parent, hin, hsome, htop⟩
  · simp [hnone] at hunder
  · have hid : parent.id = child.id := by simpa [hsome] using hunder
    have hnodup : (l.map (·.id)).Nodup :=
      List.pairwise_map.mpr (parentsFirst_listed h).distinct
    have hsame : parent = child :=
      List.inj_on_of_nodup_map hnodup (h.perm.mem_iff.mpr hin) hmem hid
    rw [hsame] at htop
    simp [htop] at hparent

/-- **The tree of the rows, in whatever order they come.** -/
theorem buildTree_listed
    (h : Arranged StoredNode.MayPrecede (storedTree lower versionId base 0 categories []) l) :
    (buildTree l).Forall₂ TaxonomyNodePayload.IsCategory (categories.map (·.stored)) := by
  rw [buildTree_eq (parentsFirst_listed h) fun _ _ _ hchild => childless_listed h hchild,
    siblings_listed h, List.forall₂_map_left_iff, List.forall₂_map_right_iff]
  refine (storedTree_children base 0 categories []).imp ?_
  rintro root category ⟨-, hname, hdescription, hchildren⟩
  refine ⟨hname, hdescription, List.forall₂_map_left_iff.mpr (List.forall₂_map_right_iff.mpr ?_)⟩
  rw [siblings_listed h]
  exact hchildren.imp fun child subcategory hstores => ⟨hstores.1, hstores.2, rfl⟩

end Listed

/-- **Round trip.**  A taxonomy whose texts fit their columns can be stored, and whatever is stored is
read back as the taxonomy it was: the same categories in the same order, each with its own children
in theirs.  Only spaces beyond the width of a name are lost, where a name is longer than that. -/
theorem roundTrip {env : TaxonomyEnv} (hsteady : env.Steady) {versionId : ℕ} {s : TaxonomySession}
    (hnew : ∀ stored ∈ s.working.nodes, stored.taxonomyVersionId ≠ versionId)
    (taxonomy : GeneratedTaxonomy) :
    (Storable env.lower taxonomy →
      ∃ s', storeNodes env versionId 0 taxonomy.nodes [] s = (.returned (), s')) ∧
    ∀ s', storeNodes env versionId 0 taxonomy.nodes [] s = (.returned (), s') →
      ∀ l, ListNodes versionId s'.working.nodes l →
        (buildTree l).Forall₂ TaxonomyNodePayload.IsCategory taxonomy.stored.nodes ∧
        ((∀ name ∈ taxonomy.names, name.length ≤ 255) →
          (buildTree l).Forall₂ TaxonomyNodePayload.IsCategory taxonomy.nodes) := by
  set rows := sentRows env.lower versionId s.working.nodes.length taxonomy.nodes with hrows
  have hstore : storeNodes env versionId 0 taxonomy.nodes [] s = insertRows rows s :=
    storeNodes_eq hsteady versionId 0 taxonomy.nodes [] s
  rw [hstore]
  cases hrefused : refusedRows s.working.nodes rows with
  | some exc =>
      obtain ⟨s', hrun, -⟩ := insertRows_of_some hrefused
      rw [hrun]
      refine ⟨fun hfits => ?_, nofun⟩
      rw [hrows, (refusedRows_sentRows hnew _ taxonomy).mpr hfits] at hrefused
      cases hrefused
  | none =>
      rw [insertRows_of_none hrefused]
      refine ⟨fun _ => ⟨_, rfl⟩, ?_⟩
      rintro s' hs' l hl
      cases hs'
      have hlisted : Arranged StoredNode.MayPrecede
          (keyed s.working.nodes.length (rows.map (·.stored))) l :=
        versionNodes_append hnew (fun _ => versionId_nodeRows) ▸ hl
      have htree : (buildTree l).Forall₂ TaxonomyNodePayload.IsCategory taxonomy.stored.nodes :=
        buildTree_listed hlisted
      refine ⟨htree, fun hnames => ?_⟩
      rwa [GeneratedTaxonomy.stored_eq_self hnames] at htree

/-- Two categories of one name, and two children of one name. -/
def repeatedTaxonomy : GeneratedTaxonomy where
  nodes :=
    [{ name := "prints", description := "Photo prints"
       children := [⟨"colour", "On paper", by decide, by decide⟩,
         ⟨"colour", "On canvas", by decide, by decide⟩]
       name_ne := by decide, description_ne := by decide },
     { name := "prints", description := "Photo books"
       children := [⟨"paper", "Its weight", by decide, by decide⟩]
       name_ne := by decide, description_ne := by decide }]
  nodes_ne := by decide

theorem repeatedTaxonomy_storable : Storable id repeatedTaxonomy :=
  .of_short (by decide) (by decide) (by decide)

theorem repeatedTaxonomy_short : ∀ name ∈ repeatedTaxonomy.names, name.length ≤ 255 := by decide

/-- A provider that is never asked. -/
def silentProvider : LLMProvider :=
  ⟨"fake", "fake-model", none, fun _ => .fails ⟨"ConnectError", "connection refused"⟩⟩

/-- Repeated names are read back as they were. -/
theorem roundTrip_repeatedTaxonomy : ∃ s',
    storeNodes ⟨silentProvider, id, fun _ => .proceeds⟩ 0 0 repeatedTaxonomy.nodes []
      ⟨⟨[], [], [], []⟩, ⟨[], [], [], []⟩⟩ = (.returned (), s') ∧
    ∀ l, ListNodes 0 s'.working.nodes l →
      (buildTree l).Forall₂ TaxonomyNodePayload.IsCategory repeatedTaxonomy.nodes := by
  have hroundTrip := @roundTrip ⟨silentProvider, id, fun _ => .proceeds⟩ (fun _ => rfl) 0
    ⟨⟨[], [], [], []⟩, ⟨[], [], [], []⟩⟩ nofun repeatedTaxonomy
  obtain ⟨s', hstored⟩ := hroundTrip.1 repeatedTaxonomy_storable
  exact ⟨s', hstored, fun l hl => (hroundTrip.2 s' hstored l hl).2 repeatedTaxonomy_short⟩

end ReviewSignal
