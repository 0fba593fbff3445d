import ReviewSignal.Db.Models
import ReviewSignal.Foundations.Faulty
import Mathlib.Data.List.GetD

/-!
# Job submission

`queue.py`: the row `enqueue` records, and the retry policy it hands to RQ.

RQ itself is a third-party package.  What the code relies on is modelled here: a `Retry` carries a
number of retries and an interval for each of them, and the retry with `k` retries left waits for
the interval `k` places from the end (`retryInterval`).

Two facts about the policy are what the rest needs.  Its retries and the first run add up to
`max_attempts` (`max_retryPolicy`), so `jobs.attempt_count` and RQ run out together.  And no interval is
zero (`retryInterval_pos`), so RQ never puts a job back at once: it schedules it, which is where
`Stranding` begins.
-/

namespace ReviewSignal

/-- The primary key of a job, and the id RQ carries. -/
abbrev JobId := ℕ

/-- The `jobs` table. -/
abbrev JobTable := Finmap fun _ : JobId => Job

/-- `rq.Retry` -/
structure Retry where
  max : ℕ
  interval : List ℕ
  deriving DecidableEq, Repr

/-- `RETRY_BACKOFF_SECONDS` -/
def retryBackoffSeconds : List ℕ := [30, 120, 300]

/-- `retry_policy`: RQ counts retries after the first run, `max_attempts` counts all runs. -/
def retryPolicy (maxAttempts : ℕ) : Option Retry :=
  let retries := maxAttempts - 1
  if retries < 1 then none
  else
    some {
      max := retries
      interval := (List.range retries).map fun i =>
        retryBackoffSeconds.getD (min i (retryBackoffSeconds.length - 1)) 0 }

/-- The row `enqueue` records. -/
def enqueuedJob (jobType : String) (payload : Json) (maxAttempts : ℕ) : Job :=
  { jobType, status := .queued, payload, maxAttempts }

/-- The interval RQ waits before a retry, when `retriesLeft` are left. -/
def retryInterval (intervals : List ℕ) (retriesLeft : ℕ) : ℕ :=
  intervals.getD (intervals.length - retriesLeft) 0

/-! ## The policy

`retry_policy` is nothing for a single attempt; the intervals are those of `RETRY_BACKOFF_SECONDS`, the last
of them repeated. -/

/-- The retries of the policy and the first run add up to `max_attempts`. -/
theorem max_retryPolicy {maxAttempts : ℕ} (h : 1 ≤ maxAttempts) :
    (retryPolicy maxAttempts).elim 0 (·.max) + 1 = maxAttempts := by
  rw [retryPolicy]
  split_ifs with hretries
  · simp only [Option.elim_none]
    omega
  · simp only [Option.elim_some]
    omega

/-- One interval for each retry. -/
theorem length_interval_retryPolicy {maxAttempts : ℕ} {retry : Retry}
    (h : retryPolicy maxAttempts = some retry) : retry.interval.length = retry.max := by
  rw [retryPolicy] at h
  split_ifs at h with hretries
  cases h
  simp

theorem backoff_pos (i : ℕ) :
    0 < retryBackoffSeconds.getD (min i (retryBackoffSeconds.length - 1)) 0 := by
  have hi : min i (retryBackoffSeconds.length - 1) < 3 := by
    simp only [retryBackoffSeconds, List.length_cons, List.length_nil]
    omega
  have hall : ∀ j < 3, 0 < retryBackoffSeconds.getD j 0 := by decide
  exact hall _ hi

theorem pos_of_mem_interval {maxAttempts : ℕ} {retry : Retry}
    (h : retryPolicy maxAttempts = some retry) : ∀ seconds ∈ retry.interval, 0 < seconds := by
  rw [retryPolicy] at h
  split_ifs at h with hretries
  cases h
  intro seconds hmem
  obtain ⟨i, -, rfl⟩ := List.mem_map.mp hmem
  exact backoff_pos i

/-- **Every retry of the policy waits**: no interval is zero. -/
theorem retryInterval_pos {maxAttempts : ℕ} {retry : Retry}
    (h : retryPolicy maxAttempts = some retry) {retriesLeft : ℕ} (hpos : 0 < retriesLeft)
    (hle : retriesLeft ≤ retry.max) : 0 < retryInterval retry.interval retriesLeft := by
  have hlen := length_interval_retryPolicy h
  have hindex : retry.interval.length - retriesLeft < retry.interval.length := by omega
  rw [retryInterval, List.getD_eq_getElem _ _ hindex]
  exact pos_of_mem_interval h _ (List.getElem_mem hindex)

end ReviewSignal
