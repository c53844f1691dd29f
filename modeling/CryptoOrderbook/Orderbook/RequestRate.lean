import CryptoOrderbook.Library.Spacing
import CryptoOrderbook.Orderbook.SnapshotRetry

/-!
# The rate of failing requests

While snapshot requests fail, the waits of the retry loop and the cooldown of
the breaker keep them apart: by 1, 2, 4 and 8 seconds, and by 30 seconds from
the fifth failure on.  Any five failures in a row take at least 15 seconds and
every further one at least another 30.

The clock readings of a run are those of a monotonic clock.
-/

namespace CryptoOrderbook.Manager

open CryptoOrderbook.Library
open CryptoOrderbook.Binance
open CryptoOrderbook.Breaker

variable {D : Type} [Decimal D]

/-! ## The gap after so many failures -/

/-- The least time from the last of so many failures to the next request. -/
def requestGap (failures : Nat) : Nat :=
  if failures < openThreshold then fromSecs (min (2 ^ (failures - 1)) 30)
  else cooldown

theorem requestGap_monotone : Monotone requestGap := by
  intro fewer more le
  by_cases few : more < openThreshold
  · have fewerFew := Nat.lt_of_le_of_lt le few
    rw [requestGap, requestGap, if_pos few, if_pos fewerFew]
    apply Nat.mul_le_mul_right
    have powers : 2 ^ (fewer - 1) ≤ 2 ^ (more - 1) :=
      Nat.pow_le_pow_right (by decide) (Nat.sub_le_sub_right le 1)
    exact min_le_min_right 30 powers
  · by_cases fewerFew : fewer < openThreshold
    · rw [requestGap, requestGap, if_neg few, if_pos fewerFew]
      exact Nat.mul_le_mul_right _ (min_le_right _ 30)
    · rw [requestGap, requestGap, if_neg few, if_neg fewerFew]

/-- The first four gaps take 15 seconds, every further one 30. -/
theorem span_requestGap (more : Nat) :
    span requestGap (more + 4) = fromSecs (15 + 30 * more) := by
  induction more with
  | zero => decide
  | succ more induction =>
      have many : ¬ more + 4 + 1 < openThreshold := by
        show ¬ more + 4 + 1 < 5
        omega
      rw [Nat.succ_add, span, induction, requestGap, if_neg many, cooldown,
        fromSecs, fromSecs, fromSecs]
      omega

/-! ## The clock -/

/-- The clock readings along a schedule, oldest first. -/
def readings (labels : List Label) : List Instant :=
  labels.filterMap fun
    | .tick now => some now
    | .response now _ => some now
    | .recv _ => none

/-- The readings are those of a monotonic clock. -/
def Monotonic (labels : List Label) : Prop :=
  (readings labels).Pairwise (· ≤ ·)

instance (labels : List Label) : Decidable (Monotonic labels) :=
  inferInstanceAs (Decidable (List.Pairwise _ _))

theorem readings_snoc (labels : List Label) (label : Label) :
    readings (labels ++ [label]) = readings labels ++ readings [label] :=
  List.filterMap_append

theorem Monotonic.front
    {labels : List Label} {label : Label}
    (monotonic : Monotonic (labels ++ [label])) :
    Monotonic labels := by
  rw [Monotonic, readings_snoc] at monotonic
  exact (List.pairwise_append.mp monotonic).1

/-- No reading is later than the last one. -/
theorem Monotonic.le_response
    {labels : List Label} {now asked : Instant}
    {received : Except AppError RawSnapshot}
    (monotonic : Monotonic (labels ++ [.response now received]))
    (earlier : asked ∈ readings labels) :
    asked ≤ now := by
  rw [Monotonic, readings_snoc] at monotonic
  exact
    (List.pairwise_append.mp monotonic).2.2 asked earlier now
      List.mem_cons_self

/-! ## The failures of an outage -/

/--
The failures since the last success keep their gaps, and a request that is on
its way has been asked for a gap after the last of them.
-/
def KeepsGaps (D : Type) [Decimal D] (labels : List Label)
    (state : State D) : Prop :=
  Spaced requestGap (failuresAfter D labels) ∧
    ∀ attempt, state.phase = .requesting attempt →
      ∀ failedAt ∈ (failuresAfter D labels).head?,
        ∃ asked ∈ readings labels,
          failedAt + requestGap (failuresAfter D labels).length ≤ asked

/-- A request is allowed a gap after the last failure. -/
theorem requestGap_le
    {failures : List Instant} {breaker after : CircuitBreaker}
    {wakeAt now failedAt : Instant}
    (reflects : Reflects failures breaker)
    (slept : failures.length < openThreshold →
      ∀ failedAt ∈ failures.head?, retryAt failures failedAt ≤ wakeAt)
    (awake : wakeAt ≤ now) (allowed : breaker.allow now = (true, after))
    (last : failedAt ∈ failures.head?) :
    failedAt + requestGap failures.length ≤ now := by
  by_cases few : failures.length < openThreshold
  · rw [requestGap, if_pos few]
    exact (slept few failedAt last).trans awake
  · rw [requestGap, if_neg few]
    rcases reflects.allow_of_many (Nat.not_lt.mp few) allowed with
      ⟨openedAt, newest, cooled, -⟩
    cases newest.symm.trans last
    exact cooled

theorem keepsGaps_of_run
    {env : Env} {labels : List Label} {state : State D}
    (run : (manager D env).Run labels state) (monotonic : Monotonic labels) :
    KeepsGaps D labels state := by
  induction run with
  | start => exact ⟨trivial, fun _ impossible => nomatch impossible⟩
  | @snoc labels state next label run step induction =>
      rcases induction monotonic.front with ⟨spaced, asked⟩
      have disciplined := disciplined_of_run run
      have quiet : ∀ {failures : List Instant},
          failuresAfter D (labels ++ [label]) = failures →
            Spaced requestGap failures →
              (∀ attempt, next.phase ≠ .requesting attempt) →
                KeepsGaps D (labels ++ [label]) next := by
        rintro failures rfl spacedAfter notRequesting
        exact
          ⟨spacedAfter, fun attempt requesting =>
            absurd requesting (notRequesting attempt)⟩
      have same := failuresAfter_snoc (D := D) labels label
      cases step_iff.mp step with
      | backOff => exact quiet same spaced (by simp)
      | @request world breaker after attempt wakeAt now awake allowed =>
          rcases disciplined with ⟨reflects, -, slept⟩
          refine ⟨?_, ?_⟩
          · rw [same]
            exact spaced
          · intro _ _ failedAt last
            rw [same] at last ⊢
            refine ⟨now, ?_, requestGap_le reflects slept awake allowed last⟩
            rw [readings_snoc]
            exact List.mem_append_right _ List.mem_cons_self
      | install fetched =>
          exact quiet (same.trans (recordOutcome_ok fetched)) trivial (by simp)
      | @fail world breaker attempt now received error failed =>
          refine quiet (same.trans (recordOutcome_error failed)) ?_ (by simp)
          refine spaced_cons_iff.mpr ⟨?_, spaced⟩
          intro failedAt last
          rcases asked attempt rfl failedAt last with ⟨time, earlier, gap⟩
          exact gap.trans (monotonic.le_response earlier)
      | handshakeClosed => exact quiet same spaced (by simp)
      | handshakeReconnected => exact quiet same spaced (by simp)
      | handshakeUnparsed => exact quiet same spaced (by simp)
      | stale => exact quiet same spaced (by simp)
      | syncGap => exact quiet same spaced (by simp)
      | bridge => exact quiet same spaced (by simp)
      | liveClosed => exact quiet same spaced (by simp)
      | liveReconnected => exact quiet same spaced (by simp)
      | liveUnparsed => exact quiet same spaced (by simp)
      | sequenceGap => exact quiet same spaced (by simp)
      | follow => exact quiet same spaced (by simp)

/--
Under a monotonic clock any five or more failed requests in a row, of the
failures since the last success, take at least 15 seconds and for each one
after the fifth another 30.
-/
theorem failures_keep_apart
    {env : Env} {labels : List Label} {state : State D}
    (run : (manager D env).Run labels state) (monotonic : Monotonic labels)
    {before window after : List Instant}
    (inARow : failuresAfter D labels = before ++ window ++ after)
    (several : openThreshold ≤ window.length)
    {newest oldest : Instant} (first : newest ∈ window.head?)
    (last : oldest ∈ window.getLast?) :
    oldest + fromSecs (15 + 30 * (window.length - openThreshold)) ≤
      newest := by
  have spaced := (keepsGaps_of_run run monotonic).1
  rw [inARow] at spaced
  have apart := spaced.span_le requestGap_monotone first last
  have count : window.length - 1 = window.length - openThreshold + 4 := by
    have five : openThreshold = 5 := rfl
    omega
  rw [count, span_requestGap] at apart
  exact apart

/-- Five failures that take 15 seconds exactly. -/
theorem failures_keep_apart_sample :
    fromSecs 0 + fromSecs (15 + 30 * (5 - openThreshold)) ≤ fromSecs 15 := by
  have inARow : failuresAfter ℚ outageLabels =
      [] ++ failuresAfter ℚ outageLabels ++ [] := by
    decide +kernel
  exact
    failures_keep_apart outageRun (by decide +kernel) inARow
      (by decide +kernel) (by decide +kernel) (by decide +kernel)

end CryptoOrderbook.Manager
