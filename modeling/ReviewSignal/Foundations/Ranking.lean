import Mathlib.Data.List.Sort

/-!
# The first few of a ranking

`Ranking.top r n` sorts a list by a relation and keeps the first `n`.  The sort is stable, so that elements
that tie stand in the order of the list, and where that order is not specified (`Shuffle`) neither is theirs.

**`top_shuffle_iff`**: the result does not depend on the order if and only if no tie reaches the first `n`
(`Untied`): elements that tie have `n` others strictly before them.

* From right to left, two sorted lists of the same elements agree as far as no tie reaches
  (`take_eq_of_perm`).
* From left to right, an order that has an element of a tie in front gets it to the place right behind what
  comes before them all (`exists_shuffle_first`), and an order with another one in front gets that there.

The elements come from keys by a function without collisions, as rows of a group do, and it is the keys whose
order is open.
-/

namespace ReviewSignal

variable {α κ : Type}

/-- An order of the elements of a list that nothing specifies. -/
structure Shuffle (κ : Type) where
  order : List κ → List κ
  perm : ∀ l, (order l).Perm l

namespace Shuffle

/-- The order the list has. -/
def none : Shuffle κ := ⟨id, fun _ => .refl _⟩

/-- An element in front of the others. -/
def first [DecidableEq κ] (k : κ) : Shuffle κ where
  order l := if k ∈ l then k :: l.erase k else l
  perm l := by
    split_ifs with h
    · exact (List.perm_cons_erase h).symm
    · exact .refl _

end Shuffle

/-- What is added to a list comes between what was there. -/
theorem insertionSort_sublist {r : α → α → Prop} [DecidableRel r] [Std.Total r] [IsTrans α r] {l l' : List α}
    (h : l.Sublist l') :
    (l.insertionSort r).Sublist (l'.insertionSort r) := by
  induction h with
  | slnil => exact List.nil_sublist _
  | cons a _ ih => exact ih.trans (List.sublist_orderedInsert a _)
  | cons_cons a _ ih => exact ih.orderedInsert_sublist a (List.pairwise_insertionSort r _)

section Before

variable {r : α → α → Prop} [DecidableRel r] {l added : List α} {a : α}

theorem orderedInsert_append (h : ∀ b ∈ added, ¬ r a b) :
    (added ++ l).orderedInsert r a = added ++ l.orderedInsert r a := by
  induction added with
  | nil => rfl
  | cons b added ih =>
      obtain ⟨hb, hadded⟩ := List.forall_mem_cons.mp h
      simp [hb, ih hadded]

/-- A list in the opposite order. -/
theorem insertionSort_eq_reverse (h : l.Pairwise fun a b => ¬ r a b) :
    l.insertionSort r = l.reverse := by
  induction l with
  | nil => rfl
  | cons a l ih =>
      obtain ⟨ha, hl⟩ := List.pairwise_cons.mp h
      have hlast := @orderedInsert_append _ r _ [] l.reverse a (by simpa using ha)
      rw [List.append_nil] at hlast
      rw [List.insertionSort_cons, ih hl, hlast, List.reverse_cons, List.orderedInsert_nil]

/-- What comes before all of a list stands in front of it. -/
theorem insertionSort_append (h : ∀ a ∈ l, ∀ b ∈ added, ¬ r a b) :
    (l ++ added).insertionSort r = added.insertionSort r ++ l.insertionSort r := by
  induction l with
  | nil => simp
  | cons a l ih =>
      obtain ⟨ha, hl⟩ := List.forall_mem_cons.mp h
      rw [List.cons_append, List.insertionSort_cons, ih hl, List.insertionSort_cons]
      refine orderedInsert_append fun b hb => ha b ?_
      exact (List.perm_insertionSort r added).mem_iff.mp hb

end Before

namespace Ranking

variable (r : α → α → Prop) [DecidableRel r]

/-- The first `n` of the sorted list. -/
def top (n : ℕ) (l : List α) : List α := (l.insertionSort r).take n

/-- How many elements come strictly before the one. -/
def before (l : List α) (a : α) : ℕ := l.countP fun b => ¬ r a b

/-- Elements that tie have `n` others before them. -/
def Untied (n : ℕ) (l : List α) : Prop :=
  ∀ a ∈ l, ∀ b ∈ l, a ≠ b → r a b → r b a → n ≤ before r l a

variable {r} {n : ℕ} {l l' : List α} {a b : α}

theorem before_perm (h : l.Perm l') (a : α) : before r l a = before r l' a := h.countP_eq _

theorem Untied.perm (h : Untied r n l) (hperm : l.Perm l') : Untied r n l' := by
  intro a ha b hb hne hab hba
  rw [← before_perm hperm]
  exact h a (hperm.mem_iff.mpr ha) b (hperm.mem_iff.mpr hb) hne hab hba

theorem before_cons_le (l : List α) (a b : α) : before r (b :: l) a ≤ before r l a + 1 := by
  rw [before, before, List.countP_cons]
  split_ifs <;> omega

/-- Of the elements that tie, the first one of the list comes right after what comes before them all. -/
theorem getElem?_orderedInsert (a : α) (hl : l.Pairwise r) [IsTrans α r] :
    (l.orderedInsert r a)[before r l a]? = some a := by
  induction l with
  | nil => rfl
  | cons b l ih =>
      rw [List.orderedInsert_cons]
      split_ifs with h
      · have hzero : before r (b :: l) a = 0 := by
          rw [before, List.countP_eq_zero]
          intro c hc
          rcases List.mem_cons.mp hc with rfl | hc
          · simpa using h
          · simpa using IsTrans.trans _ _ _ h (List.rel_of_pairwise_cons hl hc)
        rw [hzero]
        rfl
      · rw [before, List.countP_cons_of_pos (by simpa using h)]
        exact ih hl.of_cons

/-- What ties has the same elements before it. -/
theorem before_eq_of_tie [IsTrans α r] (hab : r a b) (hba : r b a) : before r l a = before r l b := by
  refine List.countP_congr fun c _ => ?_
  simp only [decide_eq_true_eq, not_iff_not]
  exact ⟨fun h => IsTrans.trans _ _ _ hba h, fun h => IsTrans.trans _ _ _ hab h⟩

theorem perm_map_filter (shuffle : Shuffle κ) (f : κ → α) (p : α → Bool) (keys : List κ) :
    (((shuffle.order keys).map f).filter p).Perm ((keys.map f).filter p) :=
  ((shuffle.perm keys).map f).filter p

variable [Std.Total r]

theorem rel_self (r : α → α → Prop) [Std.Total r] (a : α) : r a a :=
  (Std.Total.total a a).elim id id

theorem before_cons_self (l : List α) (a : α) : before r (a :: l) a = before r l a := by
  rw [before, List.countP_cons_of_neg (by simpa using rel_self r a)]
  rfl

/-- Nothing comes before the head of a sorted list. -/
theorem before_head (h : (a :: l).Pairwise r) : before r (a :: l) a = 0 := by
  rw [before_cons_self, before, List.countP_eq_zero]
  intro b hb
  simpa using List.rel_of_pairwise_cons h hb

/-- Two sorted lists of the same elements agree as far as no tie reaches. -/
theorem take_eq_of_perm (hl : l.Pairwise r) (hl' : l'.Pairwise r) (hperm : l.Perm l')
    (huntied : Untied r n l) : l.take n = l'.take n := by
  induction n generalizing l l' with
  | zero => rfl
  | succ n ih =>
      cases l with
      | nil => rw [hperm.nil_eq]
      | cons a l =>
          cases l' with
          | nil => exact absurd hperm.eq_nil (by simp)
          | cons b l' =>
              have hab : a = b := by
                by_contra hne
                have hmem : b ∈ l :=
                  (List.mem_cons.mp (hperm.mem_iff.mpr List.mem_cons_self)).resolve_left
                    fun h => hne h.symm
                have hmem' : a ∈ l' :=
                  (List.mem_cons.mp (hperm.mem_iff.mp List.mem_cons_self)).resolve_left hne
                have hbefore := huntied a List.mem_cons_self b (List.mem_cons_of_mem _ hmem) hne
                  (List.rel_of_pairwise_cons hl hmem) (List.rel_of_pairwise_cons hl' hmem')
                rw [before_head hl] at hbefore
                omega
              subst hab
              rw [List.take_succ_cons, List.take_succ_cons]
              refine congrArg (a :: ·) (ih hl.of_cons hl'.of_cons hperm.cons_inv ?_)
              intro c hc d hd hne hcd hdc
              have hbefore := huntied c (List.mem_cons_of_mem _ hc) d (List.mem_cons_of_mem _ hd)
                hne hcd hdc
              have hle := before_cons_le (r := r) l c a
              omega

variable [IsTrans α r]

theorem top_eq_of_perm (hperm : l.Perm l') (huntied : Untied r n l) : top r n l = top r n l' := by
  have hsort := List.perm_insertionSort r l
  refine take_eq_of_perm (List.pairwise_insertionSort r l) (List.pairwise_insertionSort r l')
    (hsort.trans (hperm.trans (List.perm_insertionSort r l').symm)) ?_
  intro a ha b hb hne hab hba
  rw [before_perm hsort]
  exact huntied a (hsort.mem_iff.mp ha) b (hsort.mem_iff.mp hb) hne hab hba

/-- The head of a list stands right after what comes before it. -/
theorem getElem?_top (h : before r l a < n) : (top r n (a :: l))[before r l a]? = some a := by
  have hsort := List.perm_insertionSort r l
  rw [top, List.getElem?_take_of_lt h, List.insertionSort_cons, ← before_perm hsort]
  exact getElem?_orderedInsert a (List.pairwise_insertionSort r l)

/-- Some order of the keys has an element right after what comes before it. -/
theorem exists_shuffle_first [DecidableEq κ] (f : κ → α) (p : α → Bool) (keys : List κ)
    (ha : a ∈ (keys.map f).filter p) (h : before r ((keys.map f).filter p) a < n) :
    ∃ shuffle : Shuffle κ, (top r n (((shuffle.order keys).map f).filter p))[
      before r ((keys.map f).filter p) a]? = some a := by
  obtain ⟨hmem, hp⟩ := List.mem_filter.mp ha
  obtain ⟨k, hk, rfl⟩ := List.mem_map.mp hmem
  have hfront : (((Shuffle.first k).order keys).map f).filter p
      = f k :: ((keys.erase k).map f).filter p := by
    simp [Shuffle.first, hk, hp]
  have hcount := before_perm (r := r) (perm_map_filter (.first k) f p keys) (f k)
  rw [hfront, before_cons_self] at hcount
  refine ⟨.first k, ?_⟩
  rw [hfront, ← hcount]
  exact getElem?_top (hcount ▸ h)

/-- **When the first few do not depend on the order**: when no tie reaches them.  The elements come from
keys, in the order of the keys. -/
theorem top_shuffle_iff [DecidableEq κ] (f : κ → α) (p : α → Bool) (keys : List κ) (n : ℕ) :
    (∀ shuffle shuffle' : Shuffle κ, top r n (((shuffle.order keys).map f).filter p)
        = top r n (((shuffle'.order keys).map f).filter p))
      ↔ Untied r n ((keys.map f).filter p) := by
  constructor
  · intro hsame a ha b hb hne hab hba
    by_contra hreached
    rw [Nat.not_le] at hreached
    obtain ⟨shuffle, hfirst_a⟩ := exists_shuffle_first f p keys ha hreached
    rw [before_eq_of_tie hab hba] at hreached hfirst_a
    obtain ⟨shuffle', hfirst_b⟩ := exists_shuffle_first f p keys hb hreached
    rw [hsame shuffle shuffle', hfirst_b] at hfirst_a
    exact hne (Option.some.inj hfirst_a).symm
  · intro huntied shuffle shuffle'
    rw [← top_eq_of_perm (perm_map_filter shuffle f p keys).symm huntied,
      ← top_eq_of_perm (perm_map_filter shuffle' f p keys).symm huntied]

end Ranking

end ReviewSignal
