import ReviewSignal.Services.TrendsSummary

/-!
# What the summary ranks

The biggest increases and decreases are the first five of a stable sort by the change alone, over movements
in the order of a set.

* `getSummary_eq` — the summary as the first five of the movements of its keys, in the order of their set;
* **`deterministic_iff`** — the two lists are a function of the mention counts if and only if no tie of two
  gains, nor of two losses, reaches the first five (`Distinguished`): two keys of the same change have five
  others ahead of them.
* `not_deterministic_twoCategories` — two categories, each mentioned once in the last seven days.  Which of
  them is the biggest increase depends on the order of the set.

The condition is on the counts of the two windows, and needs no summary to be computed.  That a tie shows is
proved by exchanging the two keys in the order of the set (`untied_of_rowKeys`).
-/

namespace ReviewSignal

namespace TrendsService

variable {server : Server} {orders : SummaryOrders} {tables : DashboardTables} {now : CurrentTime}

instance : Std.Total Larger := ⟨fun a b => le_total b.delta a.delta⟩

instance : IsTrans CategoryMovement Larger := ⟨fun _ _ _ hab hbc => le_trans hbc hab⟩

instance : Std.Total Smaller := ⟨fun a b => le_total a.delta b.delta⟩

instance : IsTrans CategoryMovement Smaller := ⟨fun _ _ _ hab hbc => le_trans hab hbc⟩

/-- Whatever the orders, every summary is answered with the same two lists. -/
def Deterministic (server : Server) (tables : DashboardTables) (now : CurrentTime) : Prop :=
  ∃ increases decreases, ∀ orders, ∃ summary, getSummary server orders tables now = .ok summary ∧
    summary.biggestIncreases = increases ∧ summary.biggestDecreases = decreases

/-- The keys mentioned in either window. -/
def mentionedKeys (tables : DashboardTables) (now : CurrentTime) : List MentionKey :=
  (currentMentions tables now ++ previousMentions tables now).dedup

/-- How many mentions more the current window has of a key. -/
def change (tables : DashboardTables) (now : CurrentTime) (key : MentionKey) : ℤ :=
  (currentMentions tables now).count key - (previousMentions tables now).count key

/-- Keys with the same gain have five others with a larger one. -/
def Distinguished (tables : DashboardTables) (now : CurrentTime) (gain : MentionKey → ℤ) : Prop :=
  ∀ key ∈ mentionedKeys tables now, ∀ other ∈ mentionedKeys tables now, key ≠ other →
    0 < gain key → gain key = gain other →
    topN ≤ (mentionedKeys tables now).countP (gain key < gain ·)

instance (tables : DashboardTables) (now : CurrentTime) (gain : MentionKey → ℤ) :
    Decidable (Distinguished tables now gain) :=
  inferInstanceAs (Decidable (∀ key ∈ _, ∀ other ∈ _, _))

/-- The movement of a key of the summary. -/
def summaryMovement (tables : DashboardTables) (now : CurrentTime) : MentionKey → CategoryMovement :=
  movementOf tables (currentMentions tables now) (previousMentions tables now)

theorem summaryMovement_injective : Function.Injective (summaryMovement tables now) := by
  rintro ⟨categoryId, sentiment⟩ ⟨categoryId', sentiment'⟩ h
  simp only [summaryMovement, movementOf, CategoryMovement.mk.injEq] at h
  rw [h.1, h.2.2.1]

/-- The movements up. -/
def gains (tables : DashboardTables) (now : CurrentTime) : List CategoryMovement :=
  ((mentionedKeys tables now).map (summaryMovement tables now)).filter (0 < ·.delta)

/-- The movements down. -/
def losses (tables : DashboardTables) (now : CurrentTime) : List CategoryMovement :=
  ((mentionedKeys tables now).map (summaryMovement tables now)).filter (·.delta < 0)

/-- The keys of a summary's rows, in the orders of their statements. -/
def rowKeys (server : Server) (tables : DashboardTables) (now : CurrentTime) (orders : SummaryOrders) :
    List MentionKey :=
  match summaryWindows now with
  | .ok (current, previous) => summaryKeys server orders tables current previous
  | .error _ => []

theorem rowKeys_perm (orders : SummaryOrders) :
    (rowKeys server tables now orders).Perm (mentionedKeys tables now) := by
  obtain ⟨current, previous, hwindows, hmoments⟩ := summaryWindows_eq now
  rw [rowKeys, hwindows, mentionedKeys, ← hmoments.mentionsIn_current server,
    ← hmoments.mentionsIn_previous server]
  exact summaryKeys_perm

/-- **The summary**: the first five of the movements of its keys, in the order of their set. -/
theorem getSummary_eq (orders : SummaryOrders) :
    ∃ summary, getSummary server orders tables now = .ok summary ∧
    let all := (orders.keys.order (rowKeys server tables now orders)).map (summaryMovement tables now)
    summary.biggestIncreases = Ranking.top Larger topN (all.filter (0 < ·.delta)) ∧
    summary.biggestDecreases = Ranking.top Smaller topN (all.filter (·.delta < 0)) := by
  obtain ⟨current, previous, hwindows, hmoments⟩ := summaryWindows_eq now
  rw [getSummary, hwindows]
  show ∃ summary, (movements server orders tables current previous >>= _) = _ ∧ _
  rw [movements_eq, hmoments.mentionsIn_current, hmoments.mentionsIn_previous, rowKeys, hwindows]
  exact ⟨_, rfl, rfl, rfl⟩

/-! ## Ties

When a sort has one result for all orders of what is sorted, and how a tie is made to show. -/

section

variable {r : CategoryMovement → CategoryMovement → Prop} [DecidableRel r] {p : CategoryMovement → Bool}
variable {gain : MentionKey → ℤ}

/-- What comes before a movement has a larger gain. -/
theorem before_eq (hr : ∀ key other, r (summaryMovement tables now key) (summaryMovement tables now other)
      ↔ gain other ≤ gain key)
    (hp : ∀ key, p (summaryMovement tables now key) = decide (0 < gain key)) {keys : List MentionKey}
    {key : MentionKey} (hgain : 0 < gain key) :
    Ranking.before r ((keys.map (summaryMovement tables now)).filter p) (summaryMovement tables now key)
      = keys.countP (gain key < gain ·) := by
  rw [Ranking.before, List.countP_filter, List.countP_map]
  refine List.countP_congr fun other _ => ?_
  simp only [Function.comp_apply, hr, hp, Bool.and_eq_true, decide_eq_true_eq]
  omega

/-- The ties of the movements are those of the keys. -/
theorem untied_iff (hr : ∀ key other, r (summaryMovement tables now key) (summaryMovement tables now other)
      ↔ gain other ≤ gain key)
    (hp : ∀ key, p (summaryMovement tables now key) = decide (0 < gain key)) :
    Ranking.Untied r topN (((mentionedKeys tables now).map (summaryMovement tables now)).filter p)
      ↔ Distinguished tables now gain := by
  constructor
  · intro huntied key hkey other hother hne hgain htie
    have hmem (k : MentionKey) (hk : k ∈ mentionedKeys tables now) (hpos : 0 < gain k) :
        summaryMovement tables now k
          ∈ ((mentionedKeys tables now).map (summaryMovement tables now)).filter p :=
      List.mem_filter.mpr ⟨List.mem_map_of_mem hk, by simpa [hp] using hpos⟩
    rw [← before_eq hr hp hgain]
    exact huntied _ (hmem key hkey hgain) _ (hmem other hother (htie ▸ hgain))
      (summaryMovement_injective.ne hne) ((hr _ _).mpr htie.ge) ((hr _ _).mpr htie.le)
  · intro hdistinguished a ha b hb hne hab hba
    obtain ⟨ha, hgain⟩ := List.mem_filter.mp ha
    obtain ⟨key, hkey, rfl⟩ := List.mem_map.mp ha
    obtain ⟨other, hother, rfl⟩ := List.mem_map.mp (List.mem_filter.mp hb).1
    rw [hp, decide_eq_true_eq] at hgain
    rw [before_eq hr hp hgain]
    refine hdistinguished key hkey other hother (fun h => hne (h ▸ rfl)) hgain ?_
    exact le_antisymm ((hr _ _).mp hba) ((hr _ _).mp hab)

end

theorem untied_gains : Ranking.Untied Larger topN (gains tables now)
    ↔ Distinguished tables now (change tables now) :=
  untied_iff (fun _ _ => Iff.rfl) fun _ => rfl

theorem untied_losses : Ranking.Untied Smaller topN (losses tables now)
    ↔ Distinguished tables now (fun key => - change tables now key) := by
  refine untied_iff (fun key other => ?_) fun key => ?_
  · exact neg_le_neg_iff.symm
  · show decide (change tables now key < 0) = _
    simp

section

variable {r : CategoryMovement → CategoryMovement → Prop} [DecidableRel r] [Std.Total r]
variable [IsTrans CategoryMovement r] {p : CategoryMovement → Bool}

/-- Of a sort that no tie reaches, any order of the keys gives the same result. -/
theorem top_rowKeys
    (h : Ranking.Untied r topN (((mentionedKeys tables now).map (summaryMovement tables now)).filter p))
    (orders : SummaryOrders) :
    Ranking.top r topN (((orders.keys.order (rowKeys server tables now orders)).map
        (summaryMovement tables now)).filter p)
      = Ranking.top r topN
        (((mentionedKeys tables now).map (summaryMovement tables now)).filter p) := by
  have hkeys := (orders.keys.perm (rowKeys server tables now orders)).trans (rowKeys_perm orders)
  exact (Ranking.top_eq_of_perm ((hkeys.map _).filter p).symm h).symm

/-- The rows in the orders they are stored in. -/
def storedOrders (keys : Shuffle MentionKey) : SummaryOrders := ⟨.none, .none, keys⟩

/-- A result that no order of the keys changes shows no tie. -/
theorem untied_of_rowKeys {result : List CategoryMovement}
    (h : ∀ shuffle : Shuffle MentionKey, Ranking.top r topN (((shuffle.order (rowKeys server tables now
      (storedOrders .none))).map (summaryMovement tables now)).filter p) = result) :
    Ranking.Untied r topN (((mentionedKeys tables now).map (summaryMovement tables now)).filter p) := by
  have huntied := (@Ranking.top_shuffle_iff _ _ r _ _ _ _ (summaryMovement tables now) p
    (rowKeys server tables now (storedOrders .none)) topN).mp
    fun shuffle shuffle' => (h shuffle).trans (h shuffle').symm
  exact huntied.perm (((rowKeys_perm _).map _).filter p)

end

theorem Deterministic.untied (h : Deterministic server tables now) :
    Ranking.Untied Larger topN (gains tables now) ∧ Ranking.Untied Smaller topN (losses tables now) := by
  obtain ⟨increases, decreases, h⟩ := h
  have hlists (shuffle : Shuffle MentionKey) :
      let all := (shuffle.order (rowKeys server tables now (storedOrders .none))).map
        (summaryMovement tables now)
      Ranking.top Larger topN (all.filter (0 < ·.delta)) = increases
        ∧ Ranking.top Smaller topN (all.filter (·.delta < 0)) = decreases := by
    obtain ⟨summary, hsummary, hincreases, hdecreases⟩ := h (storedOrders shuffle)
    obtain ⟨summary', hsummary', htop, htop'⟩ :=
      @getSummary_eq server tables now (storedOrders shuffle)
    rw [hsummary, Except.ok.injEq] at hsummary'
    subst hsummary'
    exact ⟨htop.symm.trans hincreases, htop'.symm.trans hdecreases⟩
  constructor
  · exact untied_of_rowKeys fun shuffle => (hlists shuffle).1
  · exact untied_of_rowKeys fun shuffle => (hlists shuffle).2

/-- **When the summary is a function of the mention counts**: when no tie of two gains, nor of two losses,
reaches the first five. -/
theorem deterministic_iff (server : Server) (tables : DashboardTables) (now : CurrentTime) :
    Deterministic server tables now ↔ Distinguished tables now (change tables now) ∧
      Distinguished tables now (fun key => - change tables now key) := by
  rw [← untied_gains, ← untied_losses]
  constructor
  · exact Deterministic.untied
  · rintro ⟨hgains, hlosses⟩
    refine ⟨Ranking.top Larger topN (gains tables now), Ranking.top Smaller topN (losses tables now),
      fun orders => ?_⟩
    obtain ⟨summary, hsummary, hincreases, hdecreases⟩ :=
      @getSummary_eq server tables now orders
    exact ⟨summary, hsummary, hincreases.trans (top_rowKeys hgains orders),
      hdecreases.trans (top_rowKeys hlosses orders)⟩

/-- Two categories, each mentioned once in the last seven days. -/
def twoCategories : DashboardTables where
  reviews := [reviewOf 0 noon.instant]
  ids_nodup := by decide
  analyses := [⟨0, none⟩]
  aspects := [⟨0, 0, .negative⟩, ⟨0, 1, .negative⟩]
  nodes := [nodeNamed "Wait Time", nodeNamed "Pricing"]
  insights := []
  analysis_review := by decide
  aspect_analysis := by decide
  aspect_node := by decide

/-- Which of them is the biggest increase depends on the order of the set. -/
theorem not_deterministic_twoCategories : ¬ Deterministic ⟨.ascii, 0⟩ twoCategories noon := by
  intro h
  have htie := (untied_gains.mp h.untied.1) ⟨0, .negative⟩ (by decide) ⟨1, .negative⟩ (by decide)
    (by decide) (by decide) (by decide)
  exact absurd htie (by decide)

end TrendsService

end ReviewSignal
