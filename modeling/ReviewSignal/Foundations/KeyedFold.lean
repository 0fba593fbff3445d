import Mathlib.Data.Finmap
import Mathlib.Data.Set.Function

/-!
# Folding keyed row updates into a finite map

A table with a unique key is a `Finmap`.  `put` rewrites the row of one item's key from the item
and the row stored there before, and `putAll` folds a list of items in order.  Every row evolves on
its own, which gives the three facts that are used of such a fold:

* **locality** — a key no item carries keeps its row (`lookup_putAll_of_notMem`);
* **last state** — when the step is `Absorbing` and items with one key are equal, the row of an
  item is one step from the row stored before, however often the item occurs
  (`lookup_putAll_of_mem`);
* **replay** — a prefix already folded in is absorbed by folding the whole list
  (`putAll_prefix_absorb`).

`filterRows` keeps the rows that satisfy a predicate, and `filterRows_putAll` is noninterference: where every
item meets only kept rows and produces only kept rows, folding commutes with keeping.
-/

namespace ReviewSignal.Keyed

variable {κ ρ α : Type} [DecidableEq κ]

/-- Rewrite the row of `a`'s key. -/
def put (key : α → κ) (step : α → Option ρ → ρ) (a : α) (t : Finmap fun _ : κ => ρ) :
    Finmap fun _ : κ => ρ :=
  t.insert (key a) (step a (t.lookup (key a)))

/-- Rewrite the rows of a list of items, in order. -/
def putAll (key : α → κ) (step : α → Option ρ → ρ) (items : List α) (t : Finmap fun _ : κ => ρ) :
    Finmap fun _ : κ => ρ :=
  items.foldl (fun t a => put key step a t) t

/-- Applying an item to the row it just produced changes nothing. -/
def Absorbing (step : α → Option ρ → ρ) : Prop :=
  ∀ a o, step a (some (step a o)) = step a o

section

variable {key : α → κ} {step : α → Option ρ → ρ} {a : α} {items : List α}
  {t : Finmap fun _ : κ => ρ} {k : κ}

@[simp] theorem putAll_nil : putAll key step [] t = t := rfl

@[simp] theorem putAll_cons :
    putAll key step (a :: items) t = putAll key step items (put key step a t) := rfl

@[simp] theorem lookup_put_self :
    (put key step a t).lookup (key a) = some (step a (t.lookup (key a))) :=
  Finmap.lookup_insert _

theorem lookup_put_of_ne (h : k ≠ key a) : (put key step a t).lookup k = t.lookup k :=
  Finmap.lookup_insert_of_ne _ h

/-- An update that would store the row already there changes nothing. -/
theorem insert_of_lookup {r : ρ} (h : t.lookup k = some r) : t.insert k r = t := by
  refine Finmap.ext_lookup fun x => ?_
  by_cases hx : x = k
  · subst hx; rw [Finmap.lookup_insert, h]
  · rw [Finmap.lookup_insert_of_ne _ hx]

/-! ## Locality

Keys are never removed. -/

theorem lookup_putAll_of_notMem (h : k ∉ items.map key) :
    (putAll key step items t).lookup k = t.lookup k := by
  induction items generalizing t with
  | nil => rfl
  | cons b items ih =>
      rw [List.map_cons, List.mem_cons, not_or] at h
      rw [putAll_cons, ih h.2, lookup_put_of_ne h.1]

theorem mem_putAll : k ∈ putAll key step items t ↔ k ∈ t ∨ k ∈ items.map key := by
  induction items generalizing t with
  | nil => simp
  | cons b items ih =>
      rw [putAll_cons, ih, put, Finmap.mem_insert, List.map_cons, List.mem_cons]
      tauto

/-- No row is ever removed. -/
theorem keys_subset_putAll : t.keys ⊆ (putAll key step items t).keys := fun k hk => by
  rw [Finmap.mem_keys] at hk ⊢
  exact mem_putAll.mpr (.inl hk)

/-! ## The row of an item

By induction on the list; a later item of the same key is absorbed. -/

/-- **The row of an item is one step from the row stored before.**  The induction is on the list;
a later item with the same key is the same item, and the step absorbs it. -/
theorem lookup_putAll_of_mem (hstep : Absorbing step)
    (hinj : Set.InjOn key {b | b ∈ items}) (ha : a ∈ items) :
    (putAll key step items t).lookup (key a) = some (step a (t.lookup (key a))) := by
  induction items generalizing t with
  | nil => cases ha
  | cons b items ih =>
      have hinj' : Set.InjOn key {c | c ∈ items} :=
        hinj.mono fun c hc => List.mem_cons_of_mem b hc
      rw [putAll_cons]
      by_cases hk : key a = key b
      · obtain rfl : a = b := hinj ha List.mem_cons_self hk
        by_cases hmem : a ∈ items
        · rw [ih hinj' hmem, lookup_put_self, hstep]
        · have hnot : key a ∉ items.map key := by
            intro h
            obtain ⟨c, hc, hck⟩ := List.mem_map.mp h
            obtain rfl : c = a := hinj (List.mem_cons_of_mem _ hc) List.mem_cons_self hck
            exact hmem hc
          rw [lookup_putAll_of_notMem hnot, lookup_put_self]
      · have hmem : a ∈ items := by
          rcases List.mem_cons.mp ha with rfl | h
          · exact absurd rfl hk
          · exact h
        rw [ih hinj' hmem, lookup_put_of_ne hk]

/-- **Replay.**  Folding a prefix first and the whole list after it is folding the whole list. -/
theorem putAll_prefix_absorb (hstep : Absorbing step) {l₁ l₂ : List α}
    (hinj : Set.InjOn key {b | b ∈ l₁ ++ l₂}) :
    putAll key step (l₁ ++ l₂) (putAll key step l₁ t) = putAll key step (l₁ ++ l₂) t := by
  refine Finmap.ext_lookup fun k => ?_
  by_cases hk : k ∈ (l₁ ++ l₂).map key
  · obtain ⟨a, ha, rfl⟩ := List.mem_map.mp hk
    rw [lookup_putAll_of_mem hstep hinj ha, lookup_putAll_of_mem hstep hinj ha]
    by_cases ha₁ : key a ∈ l₁.map key
    · obtain ⟨b, hb, hba⟩ := List.mem_map.mp ha₁
      obtain rfl : b = a := hinj (List.mem_append_left _ hb) ha hba
      have hinj₁ : Set.InjOn key {c | c ∈ l₁} :=
        hinj.mono fun c hc => List.mem_append_left l₂ hc
      rw [lookup_putAll_of_mem hstep hinj₁ hb, hstep]
    · rw [lookup_putAll_of_notMem ha₁]
  · have hk₁ : k ∉ l₁.map key := fun h => hk (by
      rw [List.map_append]; exact List.mem_append_left _ h)
    rw [lookup_putAll_of_notMem hk, lookup_putAll_of_notMem hk, lookup_putAll_of_notMem hk₁]

end

/-! ## Keeping some rows

A part of the table that evolves by itself. -/

/-- The rows that satisfy `p`. -/
def filterRows (p : ρ → Bool) (t : Finmap fun _ : κ => ρ) : Finmap fun _ : κ => ρ where
  entries := t.entries.filter fun e => p e.2
  nodupKeys := by
    have h := Multiset.nodup_keys.mpr t.nodupKeys
    exact Multiset.nodup_keys.mp
      (Multiset.nodup_of_le (Multiset.map_le_map (Multiset.filter_le _ _)) h)

theorem lookup_filterRows (p : ρ → Bool) (t : Finmap fun _ : κ => ρ) (k : κ) :
    (filterRows p t).lookup k = (t.lookup k).filter p := by
  refine Option.ext fun r => ?_
  rw [Option.filter_eq_some_iff, Finmap.lookup_eq_some_iff, Finmap.lookup_eq_some_iff]
  exact Multiset.mem_filter

section

variable {key : α → κ} {step : α → Option ρ → ρ} {a : α} {items : List α}
  {t : Finmap fun _ : κ => ρ} {p : ρ → Bool}

/-- A put whose old row, if any, and new row are both kept commutes with the filter. -/
theorem filterRows_put (hold : ∀ r, t.lookup (key a) = some r → p r = true)
    (hnew : p (step a (t.lookup (key a))) = true) :
    filterRows p (put key step a t) = put key step a (filterRows p t) := by
  have hsame : (filterRows p t).lookup (key a) = t.lookup (key a) := by
    rw [lookup_filterRows]
    cases h : t.lookup (key a) with
    | none => rfl
    | some r => rw [Option.filter_some, if_pos (hold r h)]
  refine Finmap.ext_lookup fun k => ?_
  by_cases hk : k = key a
  · subst hk
    rw [lookup_filterRows, lookup_put_self, lookup_put_self, hsame, Option.filter_some, if_pos hnew]
  · rw [lookup_filterRows, lookup_put_of_ne hk, lookup_put_of_ne hk, lookup_filterRows]

/-- **Noninterference of a filter.**  When every item meets only kept rows and produces only kept
rows, folding and filtering commute: the dropped rows are neither read nor written. -/
theorem filterRows_putAll (hstep : ∀ a o, (∀ r, o = some r → p r = true) → p (step a o) = true)
    (hrows : ∀ a ∈ items, ∀ r, t.lookup (key a) = some r → p r = true) :
    filterRows p (putAll key step items t) = putAll key step items (filterRows p t) := by
  induction items generalizing t with
  | nil => rfl
  | cons b items ih =>
      have hb := hrows b List.mem_cons_self
      rw [putAll_cons, putAll_cons, ← filterRows_put hb (hstep b _ hb)]
      refine ih fun a ha r hr => ?_
      by_cases hk : key a = key b
      · rw [hk, lookup_put_self] at hr
        rw [← Option.some.inj hr]
        exact hstep b _ hb
      · rw [lookup_put_of_ne hk] at hr
        exact hrows a (List.mem_cons_of_mem _ ha) r hr

end

end ReviewSignal.Keyed
