import Mathlib.Data.List.Sort

/-!
# Rows in the order of a query

A query with an ORDER BY returns its rows in some order that agrees with it: `Arranged r rows l` says
that `l` has the rows, each of them once, and no row before one it must follow.  Rows that may stand
either way round come in any order.

* `Arranged.filter_eq` — rows no two of which may change places are in one order only;
* `Arranged.mem_before` — a row that must come first is in front;
* `find?_key_eq_some_iff` — a row is found by a key that no other has.

A result about a program that reads such a list has to hold for every `l`, and `exists_arranged` says that
there is one.
-/

namespace ReviewSignal

variable {α : Type}

/-- The list has the rows in an order that agrees with the relation. -/
structure Arranged (r : α → α → Prop) (rows l : List α) : Prop where
  perm : l.Perm rows
  ordered : l.Pairwise r

namespace Arranged

variable {r : α → α → Prop} {rows l before after : List α} {a b : α}

/-- **Rows in one order only**: those that meet a predicate, when no two of them may change places. -/
theorem filter_eq (h : Arranged r rows l) (p : α → Bool) (hrows : (rows.filter p).Pairwise r)
    (hanti : ∀ a ∈ rows.filter p, ∀ b ∈ rows.filter p, r a b → r b a → a = b) :
    l.filter p = rows.filter p := by
  have hperm : (l.filter p).Perm (rows.filter p) := h.perm.filter p
  refine hperm.eq_of_pairwise (fun a b ha hb => ?_) (h.ordered.filter p) hrows
  exact hanti a (hperm.mem_iff.mp ha) b hb

/-- A row that may not follow another one stands before it. -/
theorem mem_before (h : Arranged r rows (before ++ b :: after)) (ha : a ∈ rows) (hne : a ≠ b)
    (hnot : ¬ r b a) : a ∈ before := by
  have hmem : a ∈ before ++ b :: after := h.perm.mem_iff.mpr ha
  rcases List.mem_append.mp hmem with hbefore | hlater
  · exact hbefore
  · have hafter : a ∈ after := (List.mem_cons.mp hlater).resolve_left hne
    have hordered := (List.pairwise_append.mp h.ordered).2.1
    exact absurd ((List.pairwise_cons.mp hordered).1 a hafter) hnot

theorem exists_arranged (r : α → α → Prop) [Std.Total r] [IsTrans α r] (rows : List α) :
    ∃ l, Arranged r rows l := by
  classical
  exact ⟨rows.insertionSort r, List.perm_insertionSort r rows, List.pairwise_insertionSort r rows⟩

end Arranged

/-- A row is found by a key that no other has. -/
theorem find?_key_eq_some_iff {κ : Type} [DecidableEq κ] {key : α → κ} {rows : List α} {k : κ} {a : α}
    (hkeys : (rows.map key).Nodup) :
    rows.find? (key · = k) = some a ↔ a ∈ rows ∧ key a = k := by
  constructor
  · intro h
    exact ⟨List.mem_of_find?_eq_some h, by simpa using List.find?_some h⟩
  · rintro ⟨hmem, hkey⟩
    cases hfound : rows.find? (key · = k) with
    | none =>
        have hnone := List.find?_eq_none.mp hfound a hmem
        simp [hkey] at hnone
    | some other =>
        have hother : key other = k := by simpa using List.find?_some hfound
        have hsame := List.inj_on_of_nodup_map hkeys (List.mem_of_find?_eq_some hfound) hmem
          (hother.trans hkey.symm)
        rw [hsame]

end ReviewSignal
