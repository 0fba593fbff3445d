import ReviewSignal.Foundations.Counting
import ReviewSignal.Foundations.Meets
import ReviewSignal.Services.Trends

/-!
# What the summary compares

`movements_eq` computes the movements of a summary: one for each key mentioned in either window, with how
often it is mentioned in each.  The order of the rows does not matter, as every key has one row.

**`countsOnce_iff`**.  The two windows share a moment, and both count it.  So each mention counts once, in one
period, if and only if none is of a review of that moment; `not_countsOnce_sharedMoment` is a single review
that is counted twice, as one mention more and one mention less.

Counting once has two halves: no mention contributes to both counts of a movement, and the counts together are
those of the last fourteen days.  The second follows from the first by adding up the lengths.
-/

namespace ReviewSignal

namespace TrendsService

variable {server : Server} {orders : SummaryOrders} {tables : DashboardTables} {now : CurrentTime}
variable {counted current previous : List MentionKey} {rows currentRows previousRows : List CategoryCount}
variable {key : MentionKey}

/-! ## The windows

The current one ends at the clock of the call, and the previous one ends where it starts. -/

/-- The two windows of the summary, as moments. -/
structure SummaryWindows (now : CurrentTime) (current previous : Window) : Prop where
  current_start : ∀ zone, current.startDate.instant zone = now.instant - summaryWindow
  current_end : ∀ zone, current.endDate.instant zone = now.instant
  previous_start : ∀ zone, previous.startDate.instant zone = now.instant - summaryWindow - summaryWindow
  previous_end : ∀ zone, previous.endDate.instant zone = now.instant - summaryWindow

theorem summaryWindows_eq (now : CurrentTime) : ∃ current previous,
    summaryWindows now = .ok (current, previous) ∧ SummaryWindows now current previous := by
  have hcurrent : Python.isDate ((DateTime.now now).wall - summaryWindow) = true :=
    DateTime.isDate_sub now (by decide) (by decide)
  obtain ⟨currentStart, hsub, hwall, hoffset⟩ := DateTime.sub_of_isDate hcurrent
  have hprevious : Python.isDate (currentStart.wall - summaryWindow) = true := by
    rw [hwall, sub_sub]
    exact DateTime.isDate_sub now (by decide) (by decide)
  obtain ⟨previousStart, hsub', hwall', hoffset'⟩ := DateTime.sub_of_isDate hprevious
  have hstart := DateTime.instant_of_wall hwall hoffset
  have hstart' := DateTime.instant_of_wall hwall' hoffset'
  simp only [DateTime.instant_now] at hstart
  simp only [hstart] at hstart'
  refine ⟨⟨currentStart, .now now⟩, ⟨previousStart, currentStart⟩, ?_, ⟨hstart, ?_, hstart', hstart⟩⟩
  · rw [summaryWindows, hsub]
    show (currentStart.sub summaryWindow >>= _) = _
    rw [hsub']
    rfl
  · intro zone
    exact DateTime.instant_now now

/-! ## The movements

A dictionary of rows of different keys finds the row of a key, so a movement is a function of its key. -/

/-- The movement of a key, from how often it is mentioned. -/
def movementOf (tables : DashboardTables) (current previous : List MentionKey) (key : MentionKey) :
    CategoryMovement :=
  ⟨key.categoryId, TrendsReader.categoryName tables key.categoryId, key.sentiment, current.count key,
    previous.count key, current.count key - previous.count key⟩

/-- The rows count these mentions. -/
def Counts (tables : DashboardTables) (counted : List MentionKey) (rows : List CategoryCount) : Prop :=
  rows.Perm (counted.dedup.map (TrendsReader.rowOf tables counted))

theorem Counts.mem (h : Counts tables counted rows) {row : CategoryCount} :
    row ∈ rows ↔ rowKey row ∈ counted ∧ row = TrendsReader.rowOf tables counted (rowKey row) := by
  rw [h.mem_iff, List.mem_map]
  constructor
  · rintro ⟨key, hkey, rfl⟩
    exact ⟨List.mem_dedup.mp hkey, rfl⟩
  · rintro ⟨hkey, hrow⟩
    exact ⟨rowKey row, List.mem_dedup.mpr hkey, hrow.symm⟩

/-- The dictionary finds the row of a key that is mentioned. -/
theorem Counts.get_eq (h : Counts tables counted rows) (key : MentionKey) :
    get rows key = if key ∈ counted then some (TrendsReader.rowOf tables counted key) else none := by
  cases hfound : get rows key with
  | none =>
      rw [get, List.find?_eq_none] at hfound
      rw [if_neg]
      intro hkey
      have hmem : TrendsReader.rowOf tables counted key ∈ rows := h.mem.mpr ⟨hkey, rfl⟩
      exact hfound _ (List.mem_reverse.mpr hmem) (by simp [rowKey, TrendsReader.rowOf])
  | some row =>
      have hrow : rowKey row = key := by simpa using List.find?_some hfound
      have hmem : row ∈ rows := List.mem_reverse.mp (List.mem_of_find?_eq_some hfound)
      obtain ⟨hkey, heq⟩ := h.mem.mp hmem
      rw [hrow] at hkey heq
      rw [if_pos hkey, heq]

theorem movement_eq (hcurrent : Counts tables current currentRows)
    (hprevious : Counts tables previous previousRows) (hkey : key ∈ current ++ previous) :
    movement currentRows previousRows key = .ok (movementOf tables current previous key) := by
  rw [List.mem_append] at hkey
  rw [movement, hcurrent.get_eq, hprevious.get_eq, movementOf]
  by_cases hmem : key ∈ current <;> by_cases hmem' : key ∈ previous <;>
    simp_all [TrendsReader.rowOf, List.count_eq_zero_of_not_mem]

/-- The set of keys holds what is mentioned, once. -/
theorem unionKeys_perm (hcurrent : Counts tables current currentRows)
    (hprevious : Counts tables previous previousRows) :
    (unionKeys currentRows previousRows).Perm (current ++ previous).dedup := by
  refine (List.perm_ext_iff_of_nodup (List.nodup_dedup _) (List.nodup_dedup _)).mpr fun key => ?_
  have hrow (counted : List MentionKey) :
      (∃ row, (rowKey row ∈ counted ∧ row = TrendsReader.rowOf tables counted (rowKey row))
        ∧ rowKey row = key) ↔ key ∈ counted := by
    constructor
    · rintro ⟨row, ⟨hkey, -⟩, rfl⟩
      exact hkey
    · intro hkey
      exact ⟨TrendsReader.rowOf tables counted key, ⟨hkey, rfl⟩, rfl⟩
  simp only [List.mem_dedup, List.map_append, List.mem_append, List.mem_map, hcurrent.mem,
    hprevious.mem, hrow]

/-- The mentions of one of the windows. -/
def mentionsIn (server : Server) (tables : DashboardTables) (window : Window) : List MentionKey :=
  TrendsReader.mentions tables (window.startDate.instant server.zone)
    (window.endDate.instant server.zone)

theorem counts_order (shuffle : Shuffle CategoryCount) (window : Window) :
    Counts tables (mentionsIn server tables window) (shuffle.order
      (TrendsReader.categorySentimentCounts server tables window none none)) := by
  rw [TrendsReader.categorySentimentCounts_eq]
  exact shuffle.perm _

/-- The keys of the rows of the two statements. -/
def summaryKeys (server : Server) (orders : SummaryOrders) (tables : DashboardTables)
    (currentWindow previousWindow : Window) : List MentionKey :=
  unionKeys
    (orders.currentRows.order
      (TrendsReader.categorySentimentCounts server tables currentWindow none none))
    (orders.previousRows.order
      (TrendsReader.categorySentimentCounts server tables previousWindow none none))

variable {currentWindow previousWindow : Window}

theorem summaryKeys_perm : (summaryKeys server orders tables currentWindow previousWindow).Perm
    (mentionsIn server tables currentWindow ++ mentionsIn server tables previousWindow).dedup :=
  unionKeys_perm (counts_order _ _) (counts_order _ _)

/-- **The movements of a summary**: one for each key of either window. -/
theorem movements_eq : movements server orders tables currentWindow previousWindow
    = .ok ((orders.keys.order (summaryKeys server orders tables currentWindow previousWindow)).map
        (movementOf tables (mentionsIn server tables currentWindow)
          (mentionsIn server tables previousWindow))) := by
  refine mapM_ok fun key hkey => ?_
  rw [(orders.keys.perm _).mem_iff] at hkey
  exact movement_eq (counts_order _ _) (counts_order _ _)
    (List.mem_dedup.mp (summaryKeys_perm.mem_iff.mp hkey))

/-- The last seven days. -/
def currentMentions (tables : DashboardTables) (now : CurrentTime) : List MentionKey :=
  TrendsReader.mentions tables (now.instant - summaryWindow) now.instant

/-- The seven days before them. -/
def previousMentions (tables : DashboardTables) (now : CurrentTime) : List MentionKey :=
  TrendsReader.mentions tables (now.instant - summaryWindow - summaryWindow) (now.instant - summaryWindow)

theorem SummaryWindows.mentionsIn_current (h : SummaryWindows now currentWindow previousWindow)
    (server : Server) :
    mentionsIn server tables currentWindow = currentMentions tables now := by
  rw [mentionsIn, h.current_start, h.current_end, currentMentions]

theorem SummaryWindows.mentionsIn_previous (h : SummaryWindows now currentWindow previousWindow)
    (server : Server) :
    mentionsIn server tables previousWindow = previousMentions tables now := by
  rw [mentionsIn, h.previous_start, h.previous_end, previousMentions]

/-! ## One mention, one period

What both windows mention is of the moment they share. -/

/-- An aspect is a row of the group that a window counts. -/
def Contributes (server : Server) (tables : DashboardTables) (window : Window) (aspect : ReviewAspect) :
    Prop := (TrendsReader.selected server tables window none none aspect).isSome

/-- How many mentions the movements count, in both periods. -/
def countedMentions (all : List CategoryMovement) : ℕ :=
  (all.map fun movement => movement.currentCount + movement.previousCount).sum

/-- No mention contributes to both counts of a movement, and all counts together are the aspects of
current analyses of the reviews of the last fourteen days. -/
def CountsOnce (server : Server) (orders : SummaryOrders) (tables : DashboardTables)
    (now : CurrentTime) : Prop :=
  ∃ current previous all, summaryWindows now = .ok (current, previous) ∧
    movements server orders tables current previous = .ok all ∧
    (∀ aspect ∈ tables.aspects, ¬ (Contributes server tables current aspect ∧
      Contributes server tables previous aspect)) ∧
    countedMentions all
      = tables.aspects.countP (TrendsReader.mentioned tables (now.instant - Windows.days 14) now.instant)

/-- The moment the two windows share. -/
def boundary (now : CurrentTime) : Instant := now.instant - summaryWindow

theorem contributes_iff {window : Window} {aspect : ReviewAspect} :
    Contributes server tables window aspect ↔ TrendsReader.mentioned tables
      (window.startDate.instant server.zone) (window.endDate.instant server.zone) aspect = true := by
  rw [Contributes, TrendsReader.selected_eq]
  split_ifs with h <;> simp [h]

/-- Both windows count a mention of the moment they share, and no other. -/
theorem mentioned_and_mentioned (tables : DashboardTables) (now : CurrentTime) (aspect : ReviewAspect) :
    (TrendsReader.mentioned tables (now.instant - summaryWindow) now.instant aspect
      && TrendsReader.mentioned tables (now.instant - summaryWindow - summaryWindow)
        (now.instant - summaryWindow) aspect)
      = decide (TrendsReader.mentionedAt tables aspect = some (boundary now)) := by
  rw [TrendsReader.mentioned, TrendsReader.mentioned, boundary]
  cases TrendsReader.mentionedAt tables aspect with
  | none => simp
  | some moment =>
      rw [Bool.eq_iff_iff]
      simp only [Option.any_some, summaryWindow, Windows.days, Bool.and_eq_true, decide_eq_true_eq,
        Option.some.injEq]
      lia

/-- Together they are the last fourteen days. -/
theorem mentioned_or_mentioned (tables : DashboardTables) (now : CurrentTime) (aspect : ReviewAspect) :
    (TrendsReader.mentioned tables (now.instant - summaryWindow) now.instant aspect
      || TrendsReader.mentioned tables (now.instant - summaryWindow - summaryWindow)
        (now.instant - summaryWindow) aspect)
      = TrendsReader.mentioned tables (now.instant - Windows.days 14) now.instant aspect := by
  rw [TrendsReader.mentioned, TrendsReader.mentioned, TrendsReader.mentioned]
  cases TrendsReader.mentionedAt tables aspect with
  | none => simp
  | some moment =>
      rw [Bool.eq_iff_iff]
      simp only [Option.any_some, summaryWindow, Windows.days, Bool.or_eq_true]
      lia

/-- The movements count the mentions of each window once. -/
theorem countedMentions_eq {keys : List MentionKey} (hkeys : keys.Perm (current ++ previous).dedup) :
    countedMentions (keys.map (movementOf tables current previous)) = current.length + previous.length := by
  rw [countedMentions, List.map_map, (hkeys.map _).sum_eq, ← List.length_append,
    ← List.sum_map_count_dedup_eq_length]
  refine congrArg List.sum (List.map_congr_left fun key _ => ?_)
  rw [List.count_append]
  rfl

theorem length_mentions (first last : Instant) : (TrendsReader.mentions tables first last).length
    = tables.aspects.countP (TrendsReader.mentioned tables first last) := by
  rw [TrendsReader.mentions, List.length_map, List.countP_eq_length_filter]

/-- What both windows count is counted twice. -/
theorem length_add_length (tables : DashboardTables) (now : CurrentTime) :
    (currentMentions tables now).length + (previousMentions tables now).length
      = tables.aspects.countP (TrendsReader.mentioned tables (now.instant - Windows.days 14) now.instant)
        + tables.aspects.countP
          (fun aspect => TrendsReader.mentionedAt tables aspect = some (boundary now)) := by
  rw [currentMentions, previousMentions, length_mentions, length_mentions, countP_add_countP]
  simp only [mentioned_and_mentioned, mentioned_or_mentioned]

theorem SummaryWindows.contributes_both {aspect : ReviewAspect}
    (h : SummaryWindows now currentWindow previousWindow) :
    Contributes server tables currentWindow aspect ∧ Contributes server tables previousWindow aspect
      ↔ TrendsReader.mentionedAt tables aspect = some (boundary now) := by
  rw [contributes_iff, contributes_iff, h.current_start, h.current_end, h.previous_start,
    h.previous_end, ← Bool.and_eq_true, mentioned_and_mentioned, decide_eq_true_eq]

/-- A mention of the moment the windows share counts twice. -/
theorem CountsOnce.ne_boundary (h : CountsOnce server orders tables now) {aspect : ReviewAspect}
    (haspect : aspect ∈ tables.aspects) :
    TrendsReader.mentionedAt tables aspect ≠ some (boundary now) := by
  obtain ⟨current, previous, hwindows, hmoments⟩ := summaryWindows_eq now
  obtain ⟨current', previous', all, hwindows', -, hdisjoint, -⟩ := h
  rw [hwindows, Except.ok.injEq, Prod.mk.injEq] at hwindows'
  obtain ⟨rfl, rfl⟩ := hwindows'
  exact fun hboundary => hdisjoint aspect haspect (hmoments.contributes_both.mpr hboundary)

/-- **When each mention counts once**: when none is of a review of the moment the two windows share, whatever
the orders and the rest of the tables. -/
theorem countsOnce_iff (server : Server) (orders : SummaryOrders) (tables : DashboardTables)
    (now : CurrentTime) : CountsOnce server orders tables now ↔
      ∀ aspect ∈ tables.aspects, TrendsReader.mentionedAt tables aspect ≠ some (boundary now) := by
  constructor
  · intro h aspect haspect
    exact h.ne_boundary haspect
  · intro hboundary
    obtain ⟨current, previous, hwindows, hmoments⟩ := summaryWindows_eq now
    refine ⟨current, previous, _, hwindows, movements_eq, ?_, ?_⟩
    · intro aspect haspect hboth
      exact hboundary aspect haspect (hmoments.contributes_both.mp hboth)
    · have hnone : tables.aspects.countP
          (fun aspect => TrendsReader.mentionedAt tables aspect = some (boundary now)) = 0 :=
        List.countP_eq_zero.mpr fun aspect haspect => by simpa using hboundary aspect haspect
      rw [countedMentions_eq ((orders.keys.perm _).trans summaryKeys_perm),
        hmoments.mentionsIn_current, hmoments.mentionsIn_previous, length_add_length, hnone]
      rfl

/-- A review of a moment. -/
def reviewOf (id : ℕ) (createdAt : Instant) : StoredReview where
  source := "google"
  rating := 1
  reviewText := some "Slow."
  reviewerName := none
  createdAt := createdAt
  updatedAt := createdAt
  ownerReplyText := none
  ownerReplyAt := none
  language := "en"
  rawPayload := .obj []
  analysisStatus := .analyzed
  id := id
  sourceReviewId := "1"
  text_storable := by
    rintro _ hmem
    rw [← Option.some.inj hmem]
    decide

/-- A node of a taxonomy. -/
def nodeNamed (name : String) : TaxonomyNode := ⟨0, none, name, "", name, 0, 0⟩

/-- 14 November 2023. -/
def noon : CurrentTime := ⟨1700000000000000, by decide, by decide⟩

/-- One review of the moment the two windows share, with one aspect. -/
def sharedMoment : DashboardTables where
  reviews := [reviewOf 0 (noon.instant - Windows.days 7)]
  ids_nodup := by decide
  analyses := [⟨0, none⟩]
  aspects := [⟨0, 0, .negative⟩]
  nodes := [nodeNamed "Wait Time"]
  insights := []
  analysis_review := by decide
  aspect_analysis := by decide
  aspect_node := by decide

/-- Its aspect is counted in both windows. -/
theorem not_countsOnce_sharedMoment :
    ¬ CountsOnce ⟨.ascii, 0⟩ ⟨.none, .none, .none⟩ sharedMoment noon := by
  intro h
  exact h.ne_boundary List.mem_cons_self (by decide)

end TrendsService

end ReviewSignal
