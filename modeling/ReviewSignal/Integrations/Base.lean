import ReviewSignal.Db.Models
import ReviewSignal.Foundations.Faulty

/-!
# The source-agnostic ingestion contract

`NormalizedReview`, `ReviewPage` and `ReviewSourceAdapter` of `integrations/base.py`, and the
generator `iter_pages`.

An adapter answers the `n`-th fetch of a run from `n` and the cursor.  That covers an adapter that
counts its own calls (the stub's) as well as one that only looks at the cursor (Google's, `ByCursor`).

A generator that is not exhausted has no list of all its pages.  `iterPages` is therefore the pages of the
next `n` fetches, shorter when the walk ends or a fetch raises, and the lemmas say how these lists go
together: fewer fetches yield a prefix (`take_iterPages`), and a walk can be resumed from the cursor of a
page (`drop_iterPages`).  A whole walk is a list whose last page has no cursor (`IsWalk`), and a source need
not have one.
-/

namespace ReviewSignal

/-- `SourceFetchError`: a source could not be read. -/
def sourceFetchError (message : String) : Exn := ⟨"SourceFetchError", message⟩

/-- `SourceNotConnectedError`: no usable credentials exist for the source. -/
def sourceNotConnectedError (message : String) : Exn := ⟨"SourceNotConnectedError", message⟩

/-- One review in the shape `reviews` stores. -/
structure NormalizedReview where
  sourceReviewId : String
  rating : ℤ
  reviewText : Option String
  reviewerName : Option String
  createdAt : Instant
  updatedAt : Instant
  ownerReplyText : Option String
  ownerReplyAt : Option Instant
  language : String
  rawPayload : Json
  deriving DecidableEq

/-- A five-star review without a reply, for concrete runs. -/
def plainReview (sourceReviewId : String) (text : Option String) (updatedAt : Instant) :
    NormalizedReview where
  sourceReviewId := sourceReviewId
  rating := 5
  reviewText := text
  reviewerName := some "Ada"
  createdAt := 0
  updatedAt := updatedAt
  ownerReplyText := none
  ownerReplyAt := none
  language := "en"
  rawPayload := .obj [("name", .str sourceReviewId)]

/-- One page of results plus the opaque cursor for the next one. -/
structure ReviewPage where
  reviews : List NormalizedReview
  nextCursor : Option String
  unmappableCount : ℕ := 0
  deriving DecidableEq

/-- What the ingestion service needs from any feedback source. -/
structure ReviewSourceAdapter where
  source : String
  fetchPage : ℕ → Option String → Except Exn ReviewPage

/-- The adapter looks at the cursor only. -/
def ReviewSourceAdapter.ByCursor (adapter : ReviewSourceAdapter) : Prop :=
  ∀ m n cursor, adapter.fetchPage m cursor = adapter.fetchPage n cursor

/-- An adapter that serves fixed pages: the first one, and one under each cursor. -/
def servePages (source : String) (first : ReviewPage) (rest : List (String × ReviewPage)) :
    ReviewSourceAdapter where
  source := source
  fetchPage _ cursor :=
    match cursor with
    | none => .ok first
    | some cursor =>
        match rest.lookup cursor with
        | none => .error (sourceFetchError "unknown cursor")
        | some page => .ok page

theorem byCursor_servePages (source : String) (first : ReviewPage)
    (rest : List (String × ReviewPage)) : (servePages source first rest).ByCursor :=
  fun _ _ _ => rfl

/-- The pages `iter_pages` yields in its next `n` fetches, from the given call and cursor on.  The
list is shorter than `n` when the source stops issuing cursors or a fetch raises. -/
def iterPages (adapter : ReviewSourceAdapter) : ℕ → Option String → ℕ → List ReviewPage
  | _, _, 0 => []
  | call, cursor, n + 1 =>
      match adapter.fetchPage call cursor with
      | .error _ => []
      | .ok page =>
          page ::
            match page.nextCursor with
            | none => []
            | some next => iterPages adapter (call + 1) (some next) n

/-- The pages are a whole walk: the source issued no cursor after the last of them. -/
def IsWalk (adapter : ReviewSourceAdapter) (pages : List ReviewPage) : Prop :=
  iterPages adapter 0 none pages.length = pages ∧
    ∃ last, pages.getLast? = some last ∧ last.nextCursor = none

instance (adapter : ReviewSourceAdapter) (pages : List ReviewPage) :
    Decidable (IsWalk adapter pages) :=
  decidable_of_iff (iterPages adapter 0 none pages.length = pages ∧
      (pages.getLast?.any fun last => last.nextCursor = none) = true) (by
    rw [IsWalk]
    cases pages.getLast? <;> simp)

/-! ## The walk

One fetch and the rest of the walk.  The inductions of the ingestion go along these. -/

variable {adapter : ReviewSourceAdapter} {call : ℕ} {cursor : Option String}

@[simp] theorem iterPages_zero : iterPages adapter call cursor 0 = [] := rfl

/-- One fetch, then the rest of the walk. -/
theorem iterPages_succ_of_ok {page : ReviewPage} {n : ℕ}
    (h : adapter.fetchPage call cursor = .ok page) :
    iterPages adapter call cursor (n + 1) = page ::
      (match page.nextCursor with
        | none => []
        | some next => iterPages adapter (call + 1) (some next) n) := by
  rw [iterPages, h]

theorem iterPages_succ_of_error {exc : Exn} {n : ℕ}
    (h : adapter.fetchPage call cursor = .error exc) :
    iterPages adapter call cursor (n + 1) = [] := by
  rw [iterPages, h]

/-- Fewer fetches yield a prefix of the same pages. -/
theorem take_iterPages (n m : ℕ) :
    (iterPages adapter call cursor (n + m)).take n = iterPages adapter call cursor n := by
  induction n generalizing call cursor with
  | zero => simp
  | succ n ih =>
      rw [Nat.add_right_comm]
      cases h : adapter.fetchPage call cursor with
      | error exc => simp [iterPages_succ_of_error h]
      | ok page =>
          rw [iterPages_succ_of_ok h, iterPages_succ_of_ok h]
          cases page.nextCursor with
          | none => simp
          | some next => simpa using ih

/-- **Resuming.**  When `n` fetches yielded `n` pages and the last of them carries the cursor
`next`, the rest of the walk is the walk from `next`. -/
theorem drop_iterPages {n : ℕ} {last : ReviewPage} {next : String}
    (hlen : (iterPages adapter call cursor n).length = n)
    (hlast : (iterPages adapter call cursor n).getLast? = some last)
    (hnext : last.nextCursor = some next) (m : ℕ) :
    (iterPages adapter call cursor (n + m)).drop n = iterPages adapter (call + n) (some next) m := by
  induction n generalizing call cursor with
  | zero => simp at hlast
  | succ n ih =>
      cases h : adapter.fetchPage call cursor with
      | error exc => simp [iterPages_succ_of_error h] at hlast
      | ok page =>
          rw [iterPages_succ_of_ok h] at hlen hlast
          rw [Nat.add_right_comm, iterPages_succ_of_ok h, List.drop_succ_cons]
          cases hcur : page.nextCursor with
          | none =>
              -- the walk ended here, so it was the last page and carries no cursor
              rw [hcur] at hlast
              simp only [List.getLast?_singleton, Option.some.injEq] at hlast
              rw [hlast, hnext] at hcur
              cases hcur
          | some c =>
              rw [hcur] at hlen hlast
              simp only [List.length_cons, Nat.add_right_cancel_iff] at hlen
              cases n with
              | zero =>
                  simp only [iterPages_zero, List.getLast?_singleton, Option.some.injEq] at hlast
                  rw [hlast, hnext] at hcur
                  cases hcur
                  simp
              | succ n =>
                  have hne : iterPages adapter (call + 1) (some c) (n + 1) ≠ [] := by
                    intro hnil
                    rw [hnil] at hlen
                    simp at hlen
                  rw [List.getLast?_cons_of_ne_nil hne] at hlast
                  rw [show call + (n + 1 + 1) = call + 1 + (n + 1) by omega]
                  exact ih hlen hlast

/-- A walk that has ended yields no more pages. -/
theorem iterPages_of_ended {n : ℕ} {last : ReviewPage}
    (hlen : (iterPages adapter call cursor n).length = n)
    (hlast : (iterPages adapter call cursor n).getLast? = some last)
    (hend : last.nextCursor = none) (m : ℕ) :
    iterPages adapter call cursor (n + m) = iterPages adapter call cursor n := by
  induction n generalizing call cursor with
  | zero => simp at hlast
  | succ n ih =>
      rw [Nat.add_right_comm]
      cases h : adapter.fetchPage call cursor with
      | error exc => simp [iterPages_succ_of_error h] at hlast
      | ok page =>
          rw [iterPages_succ_of_ok h] at hlen hlast
          rw [iterPages_succ_of_ok h, iterPages_succ_of_ok h]
          cases hcur : page.nextCursor with
          | none => rfl
          | some c =>
              rw [hcur] at hlen hlast
              simp only [List.length_cons, Nat.add_right_cancel_iff] at hlen
              have hne : iterPages adapter (call + 1) (some c) n ≠ [] := by
                intro hnil
                simp only [hnil, List.getLast?_singleton, Option.some.injEq] at hlast
                rw [hlast, hend] at hcur
                cases hcur
              rw [List.getLast?_cons_of_ne_nil hne] at hlast
              exact congrArg (page :: ·) (ih hlen hlast)

/-- The pages of a whole walk, however many fetches are made. -/
theorem iterPages_of_isWalk {pages : List ReviewPage} (h : IsWalk adapter pages) (n : ℕ) :
    iterPages adapter 0 none n = pages.take n := by
  obtain ⟨hpages, last, hlast, hend⟩ := h
  rcases Nat.le_total n pages.length with hle | hle
  · obtain ⟨m, hm⟩ := Nat.exists_eq_add_of_le hle
    rw [← take_iterPages n m, ← hm, hpages]
  · obtain ⟨m, rfl⟩ := Nat.exists_eq_add_of_le hle
    rw [iterPages_of_ended (by rw [hpages]) (hpages.symm ▸ hlast) hend, hpages,
      List.take_of_length_le (Nat.le_add_right _ _)]

/-- A source that looks at the cursor only yields the same pages whatever the call count. -/
theorem iterPages_of_byCursor (h : adapter.ByCursor) (call' n : ℕ) :
    iterPages adapter call cursor n = iterPages adapter call' cursor n := by
  induction n generalizing call call' cursor with
  | zero => rfl
  | succ n ih =>
      cases hp : adapter.fetchPage call cursor with
      | error exc =>
          rw [iterPages_succ_of_error hp, iterPages_succ_of_error (h call call' cursor ▸ hp)]
      | ok page =>
          rw [iterPages_succ_of_ok hp, iterPages_succ_of_ok (h call call' cursor ▸ hp)]
          cases page.nextCursor with
          | none => rfl
          | some next => exact congrArg (page :: ·) (ih _)

end ReviewSignal
