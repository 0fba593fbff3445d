import ReviewSignal.Foundations.Listing
import ReviewSignal.Db.Models

/-!
# Reading a taxonomy

`TaxonomyReader.list_nodes` of `repositories/taxonomy.py`, and `_build_tree` of
`services/taxonomy.py`, which makes the tree of its rows in one pass.

A payload is an object that the pass goes on appending to, so that the lists of children hold
references, and the tree is what the references come to at the end.

* `foldl_visit` — what the pass has made of any rows, whether or not their parents are among them: a row is
  put under its parent if that is a row before it, and at the top otherwise.
* `built` — the case of rows each of which comes after its parent, as the rows of a stored taxonomy do.

`list_nodes` orders by depth and position and nothing else, so rows of one place come in any order
(`ListNodes`), and a result about a tree that is read has to hold for each of them.
-/

namespace ReviewSignal

/-- A row of `taxonomy_nodes`, with its primary key. -/
structure StoredNode where
  id : ℕ
  row : TaxonomyNode
  deriving DecidableEq, Repr

/-- `TaxonomyNodePayload` -/
structure TaxonomyNodePayload where
  id : ℕ
  name : String
  description : String
  slug : String
  sortOrder : ℕ
  children : List TaxonomyNodePayload
  deriving Repr

/-- The payload of a row, with its children. -/
def StoredNode.payload (node : StoredNode) (children : List TaxonomyNodePayload) :
    TaxonomyNodePayload :=
  ⟨node.id, node.row.name, node.row.description, node.row.slug, node.row.sortOrder, children⟩

/-! ## `list_nodes`

The rows of one version, in an order the statement allows. -/

/-- `ORDER BY depth, sort_order` lets the first row stand before the second. -/
def StoredNode.MayPrecede (a b : StoredNode) : Prop :=
  a.row.depth < b.row.depth ∨ a.row.depth = b.row.depth ∧ a.row.sortOrder ≤ b.row.sortOrder

/-- Rows with their primary keys, the first of them `base`. -/
def keyed : ℕ → List TaxonomyNode → List StoredNode
  | _, [] => []
  | base, row :: rows => ⟨base, row⟩ :: keyed (base + 1) rows

/-- The rows of one version. -/
def versionNodes (versionId : ℕ) (nodes : List TaxonomyNode) : List StoredNode :=
  (keyed 0 nodes).filter (·.row.taxonomyVersionId = versionId)

/-- `list_nodes` may return these rows. -/
def ListNodes (versionId : ℕ) (nodes : List TaxonomyNode) (l : List StoredNode) : Prop :=
  Arranged StoredNode.MayPrecede (versionNodes versionId nodes) l

/-! ## `_build_tree`

The pass, with keys in place of references. -/

/-- A payload in the course of the pass: its row, and the keys of the children it has so far. -/
structure PayloadCell where
  node : StoredNode
  children : List ℕ

/-- The variables of `_build_tree`; a payload is referred to by its key. -/
structure TreeBuilder where
  byId : ℕ → Option PayloadCell
  roots : List ℕ

namespace TreeBuilder

def empty : TreeBuilder := ⟨fun _ => none, []⟩

/-- The body of the loop. -/
def visit (s : TreeBuilder) (node : StoredNode) : TreeBuilder :=
  let byId := Function.update s.byId node.id (some ⟨node, []⟩)
  match node.row.parentId with
  | none => ⟨byId, s.roots ++ [node.id]⟩
  | some parentId =>
      match byId parentId with
      | none => ⟨byId, s.roots ++ [node.id]⟩
      | some parent =>
          ⟨Function.update byId parentId
            (some { parent with children := parent.children ++ [node.id] }), s.roots⟩

/-- The payload a reference comes to, to some depth. -/
def payload (s : TreeBuilder) : ℕ → ℕ → Option TaxonomyNodePayload
  | 0, _ => none
  | depth + 1, id => (s.byId id).map fun cell =>
      ⟨cell.node.id, cell.node.row.name, cell.node.row.description, cell.node.row.slug,
        cell.node.row.sortOrder, cell.children.filterMap (payload s depth)⟩

end TreeBuilder

/-- `_build_tree`.  No chain of parents is longer than there are rows. -/
def buildTree (nodes : List StoredNode) : List TaxonomyNodePayload :=
  let s := nodes.foldl TreeBuilder.visit .empty
  s.roots.filterMap (s.payload nodes.length)

/-! ## What the pass makes

The invariant of the loop (`Placed`), with no assumption but that the keys are different. -/

/-- The key a row is put under: its parent's, if that is the key of a row before it. -/
def StoredNode.place (before : List StoredNode) (node : StoredNode) : Option ℕ :=
  node.row.parentId.filter fun parentId => before.any (·.id = parentId)

/-- Rows that come after some others, with the key each is put under. -/
def placements : List StoredNode → List StoredNode → List (Option ℕ × StoredNode)
  | _, [] => []
  | before, node :: nodes => (node.place before, node) :: placements (before ++ [node]) nodes

/-- The rows put under one key, or at the top. -/
def under (parent : Option ℕ) (placed : List (Option ℕ × StoredNode)) : List StoredNode :=
  (placed.filter (·.1 = parent)).map (·.2)

/-- The keys are different, and no row is its own parent. -/
structure OwnKeys (nodes : List StoredNode) : Prop where
  distinct : nodes.Pairwise fun a b => a.id ≠ b.id
  parent : ∀ node ∈ nodes, node.row.parentId ≠ some node.id

/-- What the pass has made of the rows so far. -/
structure Placed (nodes : List StoredNode) (s : TreeBuilder) : Prop where
  roots : s.roots = (under none (placements [] nodes)).map (·.id)
  cell : ∀ node ∈ nodes,
    s.byId node.id = some ⟨node, (under (some node.id) (placements [] nodes)).map (·.id)⟩
  new : ∀ id, (∀ node ∈ nodes, node.id ≠ id) → s.byId id = none

section Placements

variable {before nodes : List StoredNode} {node : StoredNode} {parent : Option ℕ} {id : ℕ}

theorem place_eq_some_iff : node.place before = some id
    ↔ node.row.parentId = some id ∧ ∃ earlier ∈ before, earlier.id = id := by
  simp [StoredNode.place, Option.filter_eq_some_iff]

theorem placements_append (before nodes later : List StoredNode) : placements before (nodes ++ later)
    = placements before nodes ++ placements (before ++ nodes) later := by
  induction nodes generalizing before with
  | nil => simp [placements]
  | cons node nodes ih => simp [placements, ih]

theorem map_placements (before nodes : List StoredNode) : (placements before nodes).map (·.2) = nodes := by
  induction nodes generalizing before with
  | nil => rfl
  | cons node nodes ih => simp [placements, ih]

theorem under_append (parent : Option ℕ) (placed later : List (Option ℕ × StoredNode)) :
    under parent (placed ++ later) = under parent placed ++ under parent later := by
  simp [under]

theorem under_cons (parent : Option ℕ) (placement : Option ℕ × StoredNode)
    (later : List (Option ℕ × StoredNode)) : under parent (placement :: later)
      = if placement.1 = parent then placement.2 :: under parent later else under parent later := by
  by_cases h : placement.1 = parent <;> simp [under, h]

theorem under_singleton (parent : Option ℕ) (placement : Option ℕ × StoredNode) :
    under parent [placement] = if placement.1 = parent then [placement.2] else [] :=
  under_cons parent placement []

/-- Rows are put under the keys of rows before them. -/
theorem mem_placements {placement : Option ℕ × StoredNode} (h : placement ∈ placements before nodes)
    (hparent : placement.1 = some id) : ∃ earlier ∈ before ++ nodes, earlier.id = id := by
  induction nodes generalizing before with
  | nil => cases h
  | cons node nodes ih =>
      rcases List.mem_cons.mp h with rfl | hlater
      · obtain ⟨-, earlier, hearlier, hid⟩ := place_eq_some_iff.mp hparent
        exact ⟨earlier, List.mem_append_left _ hearlier, hid⟩
      · simpa using ih hlater

/-- Nothing has been put under a key that no row has. -/
theorem under_new (h : ∀ node ∈ before ++ nodes, node.id ≠ id) :
    under (some id) (placements before nodes) = [] := by
  rw [under, List.map_eq_nil_iff, List.filter_eq_nil_iff]
  intro placement hmem hparent
  obtain ⟨earlier, hearlier, hid⟩ := mem_placements hmem (by simpa using hparent)
  exact h earlier hearlier hid

theorem OwnKeys.of_append {later : List StoredNode} (h : OwnKeys (nodes ++ later)) : OwnKeys nodes :=
  ⟨(List.pairwise_append.mp h.distinct).1, fun node hnode => h.parent node (List.mem_append_left _ hnode)⟩

/-- **What one row adds.** -/
theorem Placed.visit {s : TreeBuilder} (hs : Placed nodes s) (h : OwnKeys (nodes ++ [node])) :
    Placed (nodes ++ [node]) (s.visit node) := by
  have hne : ∀ earlier ∈ nodes, earlier.id ≠ node.id := fun earlier hearlier =>
    (List.pairwise_append.mp h.distinct).2.2 earlier hearlier node (List.mem_singleton.mpr rfl)
  have hplaced (parent : Option ℕ) : under parent (placements [] (nodes ++ [node]))
      = under parent (placements [] nodes) ++ if node.place nodes = parent then [node] else [] := by
    rw [placements_append, under_append]
    exact congrArg _ (under_singleton _ _)
  have hchildless : under (some node.id) (placements [] (nodes ++ [node])) = [] := by
    rw [hplaced, under_new (by simpa using hne), if_neg, List.append_nil]
    intro hself
    exact h.parent node (by simp) (place_eq_some_iff.mp hself).1
  cases hparent : node.place nodes with
  | none =>
      have hvisit : s.visit node
          = ⟨Function.update s.byId node.id (some ⟨node, []⟩), s.roots ++ [node.id]⟩ := by
        rw [TreeBuilder.visit]
        cases hrow : node.row.parentId with
        | none => rfl
        | some parentId =>
            have hself : parentId ≠ node.id := fun heq => h.parent node (by simp) (heq ▸ hrow)
            have hmissing : s.byId parentId = none := by
              refine hs.new parentId fun earlier hearlier hid => ?_
              rw [place_eq_some_iff.mpr ⟨hrow, earlier, hearlier, hid⟩] at hparent
              cases hparent
            simp [hself, hmissing]
      rw [hvisit]
      refine ⟨?_, ?_, fun id hid => ?_⟩
      · simp [hs.roots, hplaced, hparent]
      · intro other hother
        rcases List.mem_append.mp hother with hearlier | hlast
        · simp [hplaced, hparent, hne other hearlier, hs.cell other hearlier]
        · rw [List.mem_singleton.mp hlast, hchildless]
          simp
      · have hnew := hid node (by simp)
        simpa [hnew.symm] using hs.new id fun earlier hearlier =>
          hid earlier (List.mem_append_left _ hearlier)
  | some parentId =>
      obtain ⟨hrow, parent, hmem, rfl⟩ := place_eq_some_iff.mp hparent
      have hcell := hs.cell parent hmem
      have hvisit : s.visit node = ⟨Function.update (Function.update s.byId node.id (some ⟨node, []⟩))
          parent.id (some ⟨parent, (under (some parent.id) (placements [] nodes)).map (·.id) ++ [node.id]⟩),
          s.roots⟩ := by
        simp [TreeBuilder.visit, hrow, hne parent hmem, hcell]
      rw [hvisit]
      refine ⟨?_, ?_, fun id hid => ?_⟩
      · simp [hs.roots, hplaced, hparent]
      · intro other hother
        rcases List.mem_append.mp hother with hearlier | hlast
        · by_cases hid : other.id = parent.id
          · have hsame : other = parent := by
              have hother := hs.cell other hearlier
              rw [hid, hcell] at hother
              exact (congrArg PayloadCell.node (Option.some.inj hother)).symm
            subst hsame
            simp [hplaced, hparent]
          · simp [hplaced, hparent, hid, Ne.symm hid, hne other hearlier, hs.cell other hearlier]
        · rw [List.mem_singleton.mp hlast, hchildless]
          simp [(hne parent hmem).symm]
      · have hnew := hid node (by simp)
        have hother := hid parent (List.mem_append_left _ hmem)
        simpa [hnew.symm, hother.symm] using hs.new id fun earlier hearlier =>
          hid earlier (List.mem_append_left _ hearlier)

/-- **What the pass makes**, in whatever order the rows come. -/
theorem foldl_visit (h : OwnKeys nodes) : Placed nodes (nodes.foldl TreeBuilder.visit .empty) := by
  induction nodes using List.reverseRecOn with
  | nil => exact ⟨rfl, nofun, fun _ _ => rfl⟩
  | append_singleton nodes node ih =>
      rw [List.foldl_append]
      exact (ih h.of_append).visit h

end Placements

/-! ## Rows that come after their parents

Then a row is put under its parent, and the roots are the rows without one. -/

/-- The rows under one parent, or at the top. -/
def siblings (parent : Option ℕ) (nodes : List StoredNode) : List StoredNode :=
  nodes.filter (·.row.parentId = parent)

/-- The keys are different, and every row comes after its parent. -/
structure ParentsFirst (nodes : List StoredNode) : Prop where
  distinct : nodes.Pairwise fun a b => a.id ≠ b.id
  parent : ∀ before node after, nodes = before ++ node :: after →
    ∀ parentId ∈ node.row.parentId, ∃ parent ∈ before, parent.id = parentId

/-- What the pass has made of the rows so far. -/
structure Built (nodes : List StoredNode) (s : TreeBuilder) : Prop where
  roots : s.roots = (siblings none nodes).map (·.id)
  cell : ∀ node ∈ nodes, s.byId node.id = some ⟨node, (siblings (some node.id) nodes).map (·.id)⟩
  new : ∀ id, (∀ node ∈ nodes, node.id ≠ id) → s.byId id = none

theorem siblings_append (parent : Option ℕ) (nodes later : List StoredNode) :
    siblings parent (nodes ++ later) = siblings parent nodes ++ siblings parent later :=
  List.filter_append ..

theorem siblings_singleton (parent : Option ℕ) (node : StoredNode) :
    siblings parent [node] = if node.row.parentId = parent then [node] else [] := by
  simp [siblings, List.filter_cons]

theorem ParentsFirst.ownKeys {nodes : List StoredNode} (h : ParentsFirst nodes) : OwnKeys nodes := by
  refine ⟨h.distinct, fun node hnode hself => ?_⟩
  obtain ⟨before, after, rfl⟩ := List.append_of_mem hnode
  obtain ⟨parent, hbefore, hid⟩ := h.parent before node after rfl node.id hself
  exact (List.pairwise_append.mp h.distinct).2.2 parent hbefore node List.mem_cons_self hid

/-- Every row is put under its parent. -/
theorem under_placements {before nodes : List StoredNode}
    (h : ∀ earlier node after, nodes = earlier ++ node :: after →
      ∀ parentId ∈ node.row.parentId, ∃ parent ∈ before ++ earlier, parent.id = parentId)
    (parent : Option ℕ) : under parent (placements before nodes) = siblings parent nodes := by
  induction nodes generalizing before with
  | nil => rfl
  | cons node nodes ih =>
      have hplace : node.place before = node.row.parentId := by
        cases hrow : node.row.parentId with
        | none => simp [StoredNode.place, hrow]
        | some parentId =>
            exact place_eq_some_iff.mpr ⟨hrow, by simpa using h [] node nodes rfl parentId hrow⟩
      have hlater := @ih (before ++ [node]) fun earlier later after hsplit => by
        simpa using h (node :: earlier) later after (by rw [hsplit]; rfl)
      rw [placements, under_cons, hlater, hplace, siblings, siblings, List.filter_cons]
      simp

/-- **What the pass makes** of rows that come after their parents. -/
theorem built {nodes : List StoredNode} (h : ParentsFirst nodes) :
    Built nodes (nodes.foldl TreeBuilder.visit .empty) := by
  have hplaced := foldl_visit h.ownKeys
  have hunder (parent : Option ℕ) : under parent (placements [] nodes) = siblings parent nodes :=
    under_placements (by simpa using h.parent) parent
  refine ⟨?_, fun node hnode => ?_, hplaced.new⟩
  · rw [hplaced.roots, hunder]
  · rw [hplaced.cell node hnode, hunder]

end ReviewSignal
