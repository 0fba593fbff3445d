import Mathlib.Data.List.Pairwise
import Mathlib.Order.Lattice

/-!
# Stamped histories

A source of truth that stamps every write with the instant it was made: creations and edits carry
a value whose own stamp is that instant, deletions carry none.  `snapshot` is what the source
holds at an instant.

The one fact an incremental reader needs is **`snapshot_of_stamp_le`**: a value seen at a late instant
and stamped at or before an earlier one was already there at the earlier one.  So a reader that
was complete at the earlier instant may stop at the first value stamped no later.

The stamp is the source's, and a snapshot includes every write of its own instant.  A reader whose instants
come from another clock has to relate the two.

`restrict` keeps the writes under some of the keys.
-/

namespace ReviewSignal

/-- One write of a source: a new value under a key, or the removal of the key. -/
structure Write (τ κ ν : Type) where
  instant : τ
  key : κ
  value : Option ν

/-- The writes of a source in the order they were made, each value stamped with its instant. -/
structure History (τ κ ν : Type) [LinearOrder τ] (stamp : ν → τ) (name : ν → κ) where
  writes : List (Write τ κ ν)
  chronological : writes.Pairwise fun a b => a.instant ≤ b.instant
  stamped : ∀ w ∈ writes, ∀ v, w.value = some v → stamp v = w.instant
  named : ∀ w ∈ writes, ∀ v, w.value = some v → name v = w.key

namespace History

variable {τ κ ν : Type} [LinearOrder τ] [DecidableEq κ] {stamp : ν → τ} {name : ν → κ}

/-- The writes to `k` made at or before `t`. -/
def upTo (h : History τ κ ν stamp name) (t : τ) (k : κ) : List (Write τ κ ν) :=
  h.writes.filter fun w => w.instant ≤ t ∧ w.key = k

/-- What the source holds under `k` at `t`, every write stamped `t` included. -/
def snapshot (h : History τ κ ν stamp name) (t : τ) (k : κ) : Option ν :=
  (h.upTo t k).getLast?.bind (·.value)

variable {h : History τ κ ν stamp name} {t t' : τ} {k : κ} {v : ν}

/-- A snapshot value is the value of the last write. -/
theorem exists_getLast_of_snapshot (hv : h.snapshot t k = some v) :
    ∃ w, (h.upTo t k).getLast? = some w ∧ w.value = some v := by
  simpa only [snapshot, Option.bind_eq_some_iff] using hv

theorem mem_upTo {w : Write τ κ ν} :
    w ∈ h.upTo t k ↔ w ∈ h.writes ∧ w.instant ≤ t ∧ w.key = k := by
  simp only [upTo, List.mem_filter, decide_eq_true_eq]

/-- The last write up to an instant is the latest of them. -/
theorem instant_le_of_getLast {w : Write τ κ ν} (hw : (h.upTo t k).getLast? = some w) :
    ∀ u ∈ h.upTo t k, u.instant ≤ w.instant := by
  intro u hu
  obtain ⟨l, hl⟩ := List.getLast?_eq_some_iff.mp hw
  have hsorted : (h.upTo t k).Pairwise fun a b => a.instant ≤ b.instant :=
    h.chronological.sublist List.filter_sublist
  rw [hl] at hsorted hu
  rcases List.mem_append.mp hu with hu | hu
  · exact (List.pairwise_append.mp hsorted).2.2 u hu w List.mem_cons_self
  · rw [List.mem_singleton.mp hu]

theorem name_of_snapshot (hv : h.snapshot t k = some v) : name v = k := by
  obtain ⟨w, hw, hwv⟩ := exists_getLast_of_snapshot hv
  obtain ⟨hmem, -, hk⟩ := mem_upTo.mp (List.mem_of_getLast? hw)
  rw [h.named w hmem v hwv, hk]

/-- **A value stamped early was there early.**  The last write up to `t'` is stamped at or before
`t`, so no write to the key falls between the two instants. -/
theorem snapshot_of_stamp_le (hv : h.snapshot t' k = some v) (hstamp : stamp v ≤ t) (ht : t ≤ t') :
    h.snapshot t k = some v := by
  obtain ⟨w, hw, hwv⟩ := exists_getLast_of_snapshot hv
  obtain ⟨hmem, -, -⟩ := mem_upTo.mp (List.mem_of_getLast? hw)
  have hwt : w.instant ≤ t := h.stamped w hmem v hwv ▸ hstamp
  have hsame : h.upTo t k = h.upTo t' k := by
    refine List.filter_congr fun u hu => ?_
    have hiff : (u.instant ≤ t ∧ u.key = k) ↔ (u.instant ≤ t' ∧ u.key = k) := by
      constructor
      · rintro ⟨hle, hk⟩
        exact ⟨hle.trans ht, hk⟩
      · rintro ⟨hle, hk⟩
        exact ⟨(instant_le_of_getLast hw u (mem_upTo.mpr ⟨hu, hle, hk⟩)).trans hwt, hk⟩
    simp only [hiff]
  rw [snapshot, hsame]
  exact hv

/-! ## Part of a source

It holds what the source holds under those keys. -/

/-- The history of the keys that satisfy `p`. -/
def restrict (h : History τ κ ν stamp name) (p : κ → Bool) : History τ κ ν stamp name where
  writes := h.writes.filter fun w => p w.key
  chronological := h.chronological.sublist List.filter_sublist
  stamped w hw := h.stamped w (List.mem_filter.mp hw).1
  named w hw := h.named w (List.mem_filter.mp hw).1

/-- A part of a source holds what the source holds under its own keys, and nothing else. -/
theorem snapshot_restrict (p : κ → Bool) :
    (h.restrict p).snapshot t k = if p k then h.snapshot t k else none := by
  have hupTo : (h.restrict p).upTo t k = (h.upTo t k).filter fun w => p w.key := by
    rw [upTo, upTo, restrict, List.filter_filter, List.filter_filter]
    refine List.filter_congr fun w _ => ?_
    rw [Bool.and_comm]
  have hkey : ∀ w ∈ h.upTo t k, p w.key = p k := by
    intro w hw
    rw [(mem_upTo.mp hw).2.2]
  rw [snapshot, hupTo]
  split_ifs with hp
  · rw [List.filter_eq_self.mpr fun w hw => (hkey w hw).trans hp, snapshot]
  · have hnil : (h.upTo t k).filter (fun w => p w.key) = [] := by
      rw [List.filter_eq_nil_iff]
      intro w hw
      rw [hkey w hw]
      exact hp
    rw [hnil]
    rfl

end History

end ReviewSignal
