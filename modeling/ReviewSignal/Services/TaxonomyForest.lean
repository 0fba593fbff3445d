import ReviewSignal.Services.Taxonomy
import Mathlib.Data.List.Perm.Basic

/-!
# The forest of any rows

The pass reaches a payload through a dictionary and leaves references behind.  What these come to is a
recursion over the rows that are left: the children of a row are among the rows after it (`grow`), and
`buildTree_eq_grow` says that the payloads of the pass are grown in this way.

**`buildTree_forest`** is about every list of rows with keys of their own: parents may be missing, come later,
or go round in a circle.  The payloads are the rows, each once; a row is under its parent if that comes before
it, and a root otherwise; and siblings keep the order of their rows.  So nothing is lost in a cycle, since one
row of it comes first and is a root.

A row that names itself as its parent is left out (`hparent`): the code would make its payload a child of
itself, which no tree is.
-/

namespace ReviewSignal

/-- The payload without its children. -/
def TaxonomyNodePayload.bare (payload : TaxonomyNodePayload) : TaxonomyNodePayload :=
  { payload with children := [] }

mutual

/-- A payload and all that are below it. -/
def TaxonomyNodePayload.subtree : TaxonomyNodePayload → List TaxonomyNodePayload
  | ⟨id, name, description, slug, sortOrder, children⟩ =>
      ⟨id, name, description, slug, sortOrder, children⟩ :: forestNodes children

/-- All payloads of a forest. -/
def forestNodes : List TaxonomyNodePayload → List TaxonomyNodePayload
  | [] => []
  | payload :: forest => payload.subtree ++ forestNodes forest

end

/-- The forest holds the rows: each of them once, under its parent if that comes before it and at the top
otherwise, and in their order. -/
structure IsForestOf (forest : List TaxonomyNodePayload) (nodes : List StoredNode) : Prop where
  once : ((forestNodes forest).map (·.bare)).Perm (nodes.map (·.payload []))
  root_iff : ∀ before node after, nodes = before ++ node :: after →
    (node.payload [] ∈ forest.map (·.bare)
      ↔ ∀ parentId ∈ node.row.parentId, ∀ earlier ∈ before, earlier.id ≠ parentId)
  child_iff : ∀ before node after, nodes = before ++ node :: after → ∀ payload ∈ forestNodes forest,
    (node.payload [] ∈ payload.children.map (·.bare)
      ↔ node.row.parentId = some payload.id ∧ ∃ earlier ∈ before, earlier.id = payload.id)
  roots_order : (forest.map (·.bare)).Sublist (nodes.map (·.payload []))
  children_order : ∀ payload ∈ forestNodes forest,
    (payload.children.map (·.bare)).Sublist (nodes.map (·.payload []))

/-! ## Growing a forest

From the references to a recursion that needs no fuel but the rows. -/

/-- The payloads under one key, of rows each of which is put under a row before it. -/
def grow : List (Option ℕ × StoredNode) → Option ℕ → List TaxonomyNodePayload
  | [], _ => []
  | placement :: later, parent =>
      if placement.1 = parent then
        placement.2.payload (grow later (some placement.2.id)) :: grow later parent
      else grow later parent

theorem map_bare_grow (placed : List (Option ℕ × StoredNode)) (parent : Option ℕ) :
    (grow placed parent).map (·.bare) = (under parent placed).map (·.payload []) := by
  induction placed generalizing parent with
  | nil => rfl
  | cons placement later ih =>
      rw [grow, under_cons]
      split_ifs with h
      · rw [List.map_cons, List.map_cons, ih]
        rfl
      · exact ih parent

theorem forestNodes_cons (node : StoredNode) (children forest : List TaxonomyNodePayload) :
    forestNodes (node.payload children :: forest)
      = node.payload children :: (forestNodes children ++ forestNodes forest) := by
  rw [forestNodes, StoredNode.payload, TaxonomyNodePayload.subtree, List.cons_append]

section Pass

variable {nodes before rest : List StoredNode} {s : TreeBuilder} {node : StoredNode}

/-- A row's children are among the rows after it. -/
theorem under_later (h : OwnKeys (before ++ node :: rest)) :
    under (some node.id) (placements [] (before ++ node :: rest))
      = under (some node.id) (placements (before ++ [node]) rest) := by
  have hne : ∀ earlier ∈ before, earlier.id ≠ node.id := fun earlier hearlier =>
    (List.pairwise_append.mp h.distinct).2.2 earlier hearlier node List.mem_cons_self
  have hself : node.place before ≠ some node.id := fun hplace =>
    h.parent node (by simp) (place_eq_some_iff.mp hplace).1
  rw [placements_append, under_append, under_new (by simpa using hne), List.nil_append, List.nil_append,
    placements, under_cons, if_neg hself]

/-- **The references come to the grown payloads**: the rows that are left are enough fuel. -/
theorem filterMap_payload_eq_grow (hs : Placed nodes s) (h : OwnKeys nodes) {before : List StoredNode}
    (hnodes : nodes = before ++ rest) {fuel : ℕ} (hfuel : rest.length ≤ fuel) (parent : Option ℕ) :
    ((under parent (placements before rest)).map (·.id)).filterMap (s.payload fuel)
      = grow (placements before rest) parent := by
  induction rest generalizing before fuel parent with
  | nil => rfl
  | cons node rest ih =>
      obtain ⟨fuel, rfl⟩ : ∃ left, fuel = left + 1 := ⟨fuel - 1, by simp at hfuel; omega⟩
      have hsplit : nodes = (before ++ [node]) ++ rest := by simp [hnodes]
      have hlater := ih hsplit (Nat.le_of_succ_le hfuel) parent
      have hbelow := ih hsplit (Nat.le_of_succ_le_succ hfuel) (some node.id)
      have hpayload : s.payload (fuel + 1) node.id
          = some (node.payload (grow (placements (before ++ [node]) rest) (some node.id))) := by
        have hunder := under_later (hnodes ▸ h)
        rw [TreeBuilder.payload, hs.cell node (by simp [hnodes]), Option.map_some, hnodes, hunder, hbelow]
        rfl
      rw [placements, grow, under_cons, ← hlater]
      split_ifs with hplace
      · simp [hpayload]
      · rfl

/-- **What `_build_tree` returns.** -/
theorem buildTree_eq_grow (h : OwnKeys nodes) : buildTree nodes = grow (placements [] nodes) none := by
  have hs := foldl_visit h
  rw [buildTree, hs.roots]
  exact filterMap_payload_eq_grow hs h rfl le_rfl none

end Pass

/-! ## Every row once

The forests under all keys together hold the rows, by induction on the rows that are left. -/

section Once

variable {before rest : List StoredNode} {node : StoredNode}

/-- The keys rows may be put under after some others, and the top. -/
def openKeys (before : List StoredNode) : List (Option ℕ) := none :: before.map fun node => some node.id

theorem nodup_openKeys (h : before.Pairwise fun a b => a.id ≠ b.id) : (openKeys before).Nodup := by
  refine List.nodup_cons.mpr ⟨by simp, List.pairwise_map.mpr (h.imp fun hne => ?_)⟩
  simpa using hne

theorem place_mem_openKeys (before : List StoredNode) (node : StoredNode) :
    node.place before ∈ openKeys before := by
  cases hplace : node.place before with
  | none => exact List.mem_cons_self
  | some id =>
      obtain ⟨-, earlier, hearlier, rfl⟩ := place_eq_some_iff.mp hplace
      exact List.mem_cons_of_mem _ (List.mem_map_of_mem hearlier)

/-- What one row adds to the forests under all keys. -/
theorem flatMap_grow_cons {keys : List (Option ℕ)} (hkeys : keys.Nodup)
    {placement : Option ℕ × StoredNode} (hplace : placement.1 ∈ keys)
    (later : List (Option ℕ × StoredNode)) :
    (keys.flatMap fun key => forestNodes (grow (placement :: later) key)).Perm
      (placement.2.payload (grow later (some placement.2.id)) ::
        (forestNodes (grow later (some placement.2.id))
          ++ keys.flatMap fun key => forestNodes (grow later key))) := by
  obtain ⟨first, last, rfl⟩ := List.append_of_mem hplace
  have hnot : placement.1 ∉ first ++ last := (List.nodup_cons.mp (List.nodup_middle.mp hkeys)).1
  have hother : ∀ key ∈ first ++ last,
      forestNodes (grow (placement :: later) key) = forestNodes (grow later key) := by
    intro key hkey
    have hne : placement.1 ≠ key := by
      rintro rfl
      exact hnot hkey
    rw [grow, if_neg hne]
  rw [List.forall_mem_append] at hother
  simp only [List.flatMap_append, List.flatMap_cons, List.flatMap_congr hother.1,
    List.flatMap_congr hother.2]
  rw [grow, if_pos rfl, forestNodes_cons, List.cons_append, List.append_assoc]
  exact List.perm_middle.trans ((List.perm_append_comm_assoc _ _ _).cons _)

/-- **The forests under all keys hold the rows that are left.** -/
theorem forestNodes_grow (h : OwnKeys (before ++ rest)) :
    (((openKeys before).flatMap fun key => forestNodes (grow (placements before rest) key)).map (·.bare)).Perm
      (rest.map (·.payload [])) := by
  induction rest generalizing before with
  | nil => simp [placements, grow, forestNodes]
  | cons node rest ih =>
      have hbefore : before.Pairwise fun a b => a.id ≠ b.id := (List.pairwise_append.mp h.distinct).1
      have hlater := ih (show OwnKeys ((before ++ [node]) ++ rest) by simpa using h)
      have hadded := @flatMap_grow_cons _ (nodup_openKeys hbefore) (node.place before, node)
        (place_mem_openKeys before node) (placements (before ++ [node]) rest)
      have hopen : openKeys (before ++ [node]) = openKeys before ++ [some node.id] := by simp [openKeys]
      refine (hadded.map _).trans (List.Perm.cons _ (List.Perm.trans ?_ hlater))
      rw [hopen, List.flatMap_append, List.flatMap_singleton]
      exact List.perm_append_comm.map _

end Once

/-! ## Who is under whom

Where a row is found is decided by the rows before it. -/

section Children

variable {nodes before rest : List StoredNode} {node : StoredNode} {parent : Option ℕ}

/-- The payloads of a forest are of the rows that are left, with the rows that are put under them. -/
theorem mem_forestNodes_grow (h : OwnKeys (before ++ rest)) {payload : TaxonomyNodePayload}
    (hmem : payload ∈ forestNodes (grow (placements before rest) parent)) :
    (∃ node ∈ rest, node.id = payload.id) ∧ payload.children.map (·.bare)
      = (under (some payload.id) (placements before rest)).map (·.payload []) := by
  induction rest generalizing before parent with
  | nil => simp [placements, grow, forestNodes] at hmem
  | cons node rest ih =>
      have hself : node.place before ≠ some node.id := fun hplace =>
        h.parent node (by simp) (place_eq_some_iff.mp hplace).1
      have hbelow {key : Option ℕ}
          (hmem : payload ∈ forestNodes (grow (placements (before ++ [node]) rest) key)) :
          (∃ node' ∈ node :: rest, node'.id = payload.id) ∧ payload.children.map (·.bare)
            = (under (some payload.id) (placements before (node :: rest))).map (·.payload []) := by
        obtain ⟨⟨own, hown, hid⟩, hchildren⟩ := ih (by simpa using h) hmem
        have hother : node.place before ≠ some payload.id := by
          intro hplace
          obtain ⟨-, earlier, hearlier, hsame⟩ := place_eq_some_iff.mp hplace
          exact (List.pairwise_append.mp h.distinct).2.2 earlier hearlier own (List.mem_cons_of_mem _ hown)
            (hsame.trans hid.symm)
        rw [placements, under_cons, if_neg hother]
        exact ⟨⟨own, List.mem_cons_of_mem _ hown, hid⟩, hchildren⟩
      rw [placements, grow] at hmem
      split_ifs at hmem with hplace
      · rw [forestNodes_cons, List.mem_cons, List.mem_append] at hmem
        rcases hmem with rfl | hmem | hmem
        · refine ⟨⟨node, List.mem_cons_self, rfl⟩, (map_bare_grow _ _).trans ?_⟩
          show _ = (under (some node.id) (placements before (node :: rest))).map (·.payload [])
          rw [placements, under_cons, if_neg hself]
        · exact hbelow hmem
        · exact hbelow hmem
      · exact hbelow hmem

/-- Where a row is found, in terms of the rows before it. -/
theorem mem_under_iff {after : List StoredNode} (h : OwnKeys (before ++ node :: after)) :
    node.payload [] ∈ (under parent (placements [] (before ++ node :: after))).map (·.payload [])
      ↔ node.place before = parent := by
  have hnodup : ((before ++ node :: after).map (·.id)).Nodup := List.pairwise_map.mpr h.distinct
  have hsplit : placements [] (before ++ node :: after) = placements [] before
      ++ (node.place before, node) :: placements (before ++ [node]) after := placements_append [] before _
  constructor
  · intro hmem
    obtain ⟨other, hother, hpayload⟩ := List.mem_map.mp hmem
    obtain ⟨placement, hplaced, rfl⟩ := List.mem_map.mp hother
    rw [List.mem_filter, decide_eq_true_eq] at hplaced
    have hrow : placement.2 ∈ before ++ node :: after := by
      rw [← map_placements [] (before ++ node :: after)]
      exact List.mem_map_of_mem hplaced.1
    have hid : placement.2.id = node.id := congrArg TaxonomyNodePayload.id hpayload
    have hsame : placement.2 = node := List.inj_on_of_nodup_map hnodup hrow (by simp) hid
    have hnot : node ∉ before ++ after := (List.nodup_cons.mp
      (List.nodup_middle.mp (List.Nodup.of_map _ hnodup))).1
    rw [hsplit, List.mem_append, List.mem_cons] at hplaced
    rcases hplaced with ⟨hbefore | rfl | hafter, hparent⟩
    · refine absurd (List.mem_append_left _ ?_) hnot
      rw [← hsame, ← map_placements [] before]
      exact List.mem_map_of_mem hbefore
    · exact hparent
    · refine absurd (List.mem_append_right _ ?_) hnot
      rw [← hsame, ← map_placements (before ++ [node]) after]
      exact List.mem_map_of_mem hafter
  · rintro rfl
    refine List.mem_map_of_mem (List.mem_map.mpr ⟨(node.place before, node), ?_, rfl⟩)
    simp [hsplit]

theorem under_sublist (parent : Option ℕ) (nodes : List StoredNode) :
    (under parent (placements [] nodes)).Sublist nodes := by
  conv_rhs => rw [← map_placements [] nodes]
  exact List.filter_sublist.map _

theorem place_eq_none_iff : node.place before = none
    ↔ ∀ parentId ∈ node.row.parentId, ∀ earlier ∈ before, earlier.id ≠ parentId := by
  simp [StoredNode.place, Option.filter_eq_none_iff]

end Children

/-- **`_build_tree` loses and duplicates nothing**, whichever other rows the parents are, if they are rows at
all: the forest has every row once, and under its parent exactly when that is a row before it. -/
theorem buildTree_forest {nodes : List StoredNode} (hdistinct : (nodes.map (·.id)).Nodup)
    (hparent : ∀ node ∈ nodes, node.row.parentId ≠ some node.id) :
    IsForestOf (buildTree nodes) nodes := by
  have h : OwnKeys nodes := ⟨List.pairwise_map.mp hdistinct, hparent⟩
  have hstart : OwnKeys ([] ++ nodes) := h
  have hchildren : ∀ payload ∈ forestNodes (buildTree nodes), payload.children.map (·.bare)
      = (under (some payload.id) (placements [] nodes)).map (·.payload []) := by
    intro payload hpayload
    rw [buildTree_eq_grow h] at hpayload
    exact (mem_forestNodes_grow hstart hpayload).2
  have hroots : (buildTree nodes).map (·.bare) = (under none (placements [] nodes)).map (·.payload []) := by
    rw [buildTree_eq_grow h, map_bare_grow]
  refine ⟨?_, ?_, ?_, ?_, ?_⟩
  · have honce := forestNodes_grow hstart
    rw [buildTree_eq_grow h]
    simpa [openKeys] using honce
  · rintro before node after rfl
    rw [hroots, mem_under_iff h, place_eq_none_iff]
  · rintro before node after rfl payload hpayload
    rw [hchildren payload hpayload, mem_under_iff h, place_eq_some_iff]
  · rw [hroots]
    exact (under_sublist _ _).map _
  · intro payload hpayload
    rw [hchildren payload hpayload]
    exact (under_sublist _ _).map _

/-- A row of a version, under a parent. -/
def rowUnder (id parentId : ℕ) : StoredNode := ⟨id, ⟨0, some parentId, "Food", "", "food", 1, id⟩⟩

/-- Two rows in a circle, a row below them and one whose parent is missing. -/
theorem buildTree_forest_circle :
    IsForestOf (buildTree [rowUnder 0 1, rowUnder 1 0, rowUnder 2 1, rowUnder 3 7])
      [rowUnder 0 1, rowUnder 1 0, rowUnder 2 1, rowUnder 3 7] :=
  buildTree_forest (by decide) (by decide)

end ReviewSignal
