import Mathlib.Algebra.Order.BigOperators.Group.List
import CryptoOrderbook.Api.Routes
import CryptoOrderbook.Trades.IncrementalVwap

/-!
# The VWAP that is served

Trades reach the rolling window through the trade manager, and
`GET /book/vwap` reads it from another task at any time.  Only adding a trade
evicts entries; a read computes with whatever the last trade left behind.

A read therefore serves the values of the current window exactly when the
trades that have aged out since the last trade cancel in the sums, which
trades of positive quantity never do.
-/

namespace CryptoOrderbook.Trades

open CryptoOrderbook.Library
open CryptoOrderbook.Binance
open CryptoOrderbook.Vwap
open CryptoOrderbook.Decimal
open CryptoOrderbook.Routes

variable {D : Type} [Decimal D]

/-! ## Trades and reads -/

/-- The trade manager handles an event, or the endpoint is read. -/
inductive Label where
  | deliver (event : WsEvent)
  | read (now : Nat)
deriving DecidableEq, Repr

/-- The shared window under both tasks; a read does not change it. -/
def service (D : Type) [Decimal D]
    (fromStr : String → Except String RawTrade) (window : Nat) :
    GuardedMachine (VwapWindow D) Label where
  init := .new window
  step shared
    | .deliver event => some (handle fromStr shared event)
    | .read _ => some shared

/-- The events among the interactions. -/
def eventsOf (labels : List Label) : List WsEvent :=
  labels.filterMap fun
    | .deliver event => some event
    | .read _ => none

/-- The well-formed trade an interaction brings. -/
def Label.trade (D : Type) [Decimal D]
    (fromStr : String → Except String RawTrade) : Label → Option (Entry D)
  | .deliver event => tradeOf D fromStr event
  | .read _ => none

/-- The time of a trade or of a read. -/
def Label.moment (D : Type) [Decimal D]
    (fromStr : String → Except String RawTrade) : Label → Option Nat
  | .deliver event => (tradeOf D fromStr event).map Entry.time
  | .read now => some now

/-- No trade and no read is earlier than a trade before it. -/
def Timely (D : Type) [Decimal D]
    (fromStr : String → Except String RawTrade) (labels : List Label) :
    Prop :=
  labels.Pairwise fun earlier later =>
    ∀ trade ∈ earlier.trade D fromStr, ∀ moment ∈ later.moment D fromStr,
      trade.time ≤ moment

instance (fromStr : String → Except String RawTrade) (labels : List Label) :
    Decidable (Timely D fromStr labels) :=
  inferInstanceAs (Decidable (List.Pairwise _ labels))

/-- The trades received so far. -/
def received (D : Type) [Decimal D]
    (fromStr : String → Except String RawTrade) (labels : List Label) :
    List (Entry D) :=
  trades D fromStr (eventsOf labels)

/-- The trades in the window at a time. -/
def current (window now : Nat) (trades : List (Entry D)) : List (Entry D) :=
  trades.filter fun trade => now - asMillis window ≤ trade.time

/-- The time of the last trade. -/
def latestTime (trades : List (Entry D)) : Nat :=
  (trades.getLast?.map Entry.time).getD 0

/-- The trades in the window at the last trade that are too old by now. -/
def agedOut (window now : Nat) (trades : List (Entry D)) : List (Entry D) :=
  (current window (latestTime trades) trades).filter fun trade =>
    trade.time < now - asMillis window

/-- A read is answered with the values of the window at its time. -/
def ServesCurrentWindow (fromStr : String → Except String RawTrade)
    (symbol : String) (window : Nat) (before : List Label)
    (shared : VwapWindow D) (label : Label) (_next : VwapWindow D) : Prop :=
  match label with
  | .deliver _ => True
  | .read now =>
      (vwapHandler symbol shared).vwap1m.map value =
          weightedPrice (current window now (received D fromStr before)) ∧
        value (vwapHandler symbol shared).volume1m =
          totalQuantity (current window now (received D fromStr before))

/--
At a read, what has aged out since the last trade has no quantity in total,
and, unless the current window has none either, no turnover.
-/
def AgedOutCancels (D : Type) [Decimal D]
    (fromStr : String → Except String RawTrade) (window : Nat)
    (before : List Label) (_shared : VwapWindow D) (label : Label)
    (_next : VwapWindow D) : Prop :=
  match label with
  | .deliver _ => True
  | .read now =>
      totalQuantity (agedOut window now (received D fromStr before)) = 0 ∧
        (totalQuantity (current window now (received D fromStr before)) ≠ 0 →
          turnover (agedOut window now (received D fromStr before)) = 0)

/-! ## What a read computes with -/

section Reads

variable {fromStr : String → Except String RawTrade} {window : Nat}

theorem windowAfter_of_run
    {labels : List Label} {shared : VwapWindow D}
    (run : (service D fromStr window).Run labels shared) :
    shared = windowAfter fromStr window (eventsOf labels) := by
  induction run with
  | start => rfl
  | @snoc labels shared next label run step earlier =>
      cases label with
      | deliver event =>
          cases step
          have extended : eventsOf (labels ++ [.deliver event]) =
              eventsOf labels ++ [event] := by
            simp [eventsOf]
          rw [extended, windowAfter_snoc, ← earlier]
      | read now =>
          cases step
          have same : eventsOf (labels ++ [.read now]) = eventsOf labels := by
            simp [eventsOf]
          rw [same]
          exact earlier

theorem received_eq (labels : List Label) :
    received D fromStr labels = labels.filterMap (Label.trade D fromStr) := by
  rw [received, trades, eventsOf, List.filterMap_filterMap]
  apply List.filterMap_congr
  intro label _
  cases label <;> rfl

theorem Timely.inStampOrder
    {labels : List Label} (timely : Timely D fromStr labels) :
    InStampOrder Entry.time (received D fromStr labels) := by
  rw [received_eq]
  refine List.pairwise_filterMap.mpr (timely.imp ?_)
  intro earlier later ordered trade carried next nextCarried
  apply ordered trade carried
  cases later with
  | deliver event =>
      show (tradeOf D fromStr event).map Entry.time = some next.time
      rw [show tradeOf D fromStr event = some next from nextCarried]
      rfl
  | read now => cases nextCarried

/-- A read is not earlier than the trades before it. -/
theorem Timely.le_now
    {before after : List Label} {now : Nat}
    (timely : Timely D fromStr (before ++ .read now :: after))
    {trade : Entry D} (member : trade ∈ received D fromStr before) :
    trade.time ≤ now := by
  rw [received_eq] at member
  rcases List.mem_filterMap.mp member with ⟨label, isBefore, carried⟩
  rcases List.pairwise_append.mp timely with ⟨-, -, ordered⟩
  exact ordered label isBefore (.read now) List.mem_cons_self trade carried
    now rfl

/-- The window holds what was in it at the last trade. -/
theorem entries_eq_current
    (fits : asMillis window < 2 ^ 64) {events : List WsEvent}
    (ordered : InStampOrder Entry.time (trades D fromStr events)) :
    (windowAfter fromStr window events : VwapWindow D).entries =
      current window (latestTime (trades D fromStr events))
        (trades D fromStr events) := by
  cases isLast : (trades D fromStr events).getLast? with
  | none =>
      have noTrades := List.getLast?_eq_none_iff.mp isLast
      rw [(slides_windowAfter fromStr window events).entries, noTrades]
      rfl
  | some last =>
      have latest : latestTime (trades D fromStr events) = last.time := by
        simp [latestTime, isLast]
      rw [entries_of_ordered fits ordered isLast, current, latest]

end Reads

omit [Decimal D] in
/-- What the window holds is what has aged out and what is current. -/
theorem agedOut_append_current_perm
    (window : Nat) {now : Nat} {trades : List (Entry D)}
    (notLater : latestTime trades ≤ now) :
    (agedOut window now trades ++ current window now trades).Perm
      (current window (latestTime trades) trades) := by
  have kept :
      (current window (latestTime trades) trades).filter
          (fun trade => ! decide (trade.time < now - asMillis window)) =
        current window now trades := by
    rw [current, current, List.filter_filter]
    apply List.filter_congr
    intro trade _
    have narrows : now - asMillis window ≤ trade.time →
        latestTime trades - asMillis window ≤ trade.time :=
      (Nat.sub_le_sub_right notLater _).trans
    by_cases recent : now - asMillis window ≤ trade.time
    · simp [recent, narrows recent]
    · simp [recent, Nat.not_le.mp recent]
  rw [← kept]
  exact List.filter_append_perm _ _

/-- Dropping some entries keeps the results exactly when they cancel. -/
theorem sameResults_iff
    {held aged kept : List (Entry D)} (split : (aged ++ kept).Perm held) :
    weightedPrice held = weightedPrice kept ∧
        totalQuantity held = totalQuantity kept ↔
      totalQuantity aged = 0 ∧
        (totalQuantity kept ≠ 0 → turnover aged = 0) := by
  have quantity :
      totalQuantity held = totalQuantity aged + totalQuantity kept := by
    rw [← totalQuantity_perm split, totalQuantity_append]
  have paid : turnover held = turnover aged + turnover kept := by
    rw [← turnover_perm split, turnover_append]
  rw [weightedPrice, weightedPrice, quantity, paid]
  constructor
  · rintro ⟨price, same⟩
    have noQuantity : totalQuantity aged = 0 := add_eq_right.mp same
    refine ⟨noQuantity, ?_⟩
    intro nonzero
    rw [noQuantity, zero_add, if_neg nonzero, if_neg nonzero,
      Option.some.injEq, div_left_inj' nonzero] at price
    exact add_eq_right.mp price
  · rintro ⟨noQuantity, noTurnover⟩
    rw [noQuantity, zero_add]
    by_cases zero : totalQuantity kept = 0
    · simp [zero]
    · rw [noTurnover zero, zero_add]
      exact ⟨rfl, rfl⟩

/-! ## The result -/

theorem servesCurrentWindow_iff [Exact D]
    {fromStr : String → Except String RawTrade} {window : Nat}
    (fits : asMillis window < 2 ^ 64) (symbol : String)
    {before after : List Label} {label : Label}
    {shared next : VwapWindow D}
    (timely : Timely D fromStr (before ++ label :: after))
    (run : (service D fromStr window).Run before shared) :
    ServesCurrentWindow fromStr symbol window before shared label next ↔
      AgedOutCancels D fromStr window before shared label next := by
  cases label with
  | deliver event => exact Iff.rfl
  | read now =>
      have reached := windowAfter_of_run run
      have rescans : shared.Rescans :=
        reached ▸ rescans_windowAfter fromStr window (eventsOf before)
      have ordered : InStampOrder Entry.time (received D fromStr before) :=
        Timely.inStampOrder (List.pairwise_append.mp timely).1
      have held : shared.entries =
          current window (latestTime (received D fromStr before))
            (received D fromStr before) :=
        reached ▸ entries_eq_current fits ordered
      have notLater : latestTime (received D fromStr before) ≤ now := by
        cases isLast : (received D fromStr before).getLast? with
        | none => simp [latestTime, isLast]
        | some last =>
            simpa [latestTime, isLast] using
              timely.le_now (List.mem_of_getLast? isLast)
      show shared.vwap.map value = _ ∧ value shared.volume = _ ↔ _
      rw [rescans.vwap, rescans.volume, held]
      exact sameResults_iff (agedOut_append_current_perm window notLater)

/--
Every read of a timely run is served the values of the current window exactly
when at every read the trades that have aged out since the last trade cancel.
-/
theorem everyStep_servesCurrentWindow_iff
    (D : Type) [Decimal D] [Exact D]
    (fromStr : String → Except String RawTrade) (symbol : String)
    {window : Nat} (fits : asMillis window < 2 ^ 64) {labels : List Label}
    (timely : Timely D fromStr labels) :
    (service D fromStr window).EveryStep
        (ServesCurrentWindow fromStr symbol window) labels ↔
      (service D fromStr window).EveryStep
        (AgedOutCancels D fromStr window) labels := by
  refine GuardedMachine.everyStep_congr ?_
  intro before label after shared next split run _
  exact servesCurrentWindow_iff fits symbol (split ▸ timely) run

/-- Trades of positive quantity cancel only when none has aged out. -/
theorem agedOutCancels_iff_of_positive
    {fromStr : String → Except String RawTrade} {window now : Nat}
    {before : List Label} {shared next : VwapWindow D}
    (positive : ∀ trade ∈ received D fromStr before,
      0 < value trade.quantity) :
    AgedOutCancels D fromStr window before shared (.read now) next ↔
      agedOut window now (received D fromStr before) = [] := by
  constructor
  · rintro ⟨noQuantity, -⟩
    by_contra nonempty
    have sold : 0 <
        totalQuantity (agedOut window now (received D fromStr before)) := by
      refine List.sum_pos _ ?_ (by simpa using nonempty)
      intro quantity listed
      rcases List.mem_map.mp listed with ⟨trade, isAged, rfl⟩
      exact
        positive trade
          (List.mem_of_mem_filter (List.mem_of_mem_filter isAged))
    exact sold.ne' noQuantity
  · intro none
    show totalQuantity (agedOut window now (received D fromStr before)) = 0 ∧
      (_ → turnover (agedOut window now (received D fromStr before)) = 0)
    rw [none]
    exact ⟨rfl, fun _ => rfl⟩

/-! ### A minute after the last trade -/

/-- One trade at time zero, read after sixty seconds and one millisecond. -/
def idleLabels : List Label :=
  [.deliver (.message oldText), .read 60001]

theorem everyStep_servesCurrentWindow_iff_sample :
    (service ℚ readTrade 60000000000).EveryStep
        (ServesCurrentWindow readTrade "BTCUSDT" 60000000000) idleLabels ↔
      (service ℚ readTrade 60000000000).EveryStep
        (AgedOutCancels ℚ readTrade 60000000000) idleLabels :=
  everyStep_servesCurrentWindow_iff ℚ readTrade "BTCUSDT" (by decide)
    (by decide +kernel)

theorem idle_enabled :
    ((service ℚ readTrade 60000000000).exec
      (service ℚ readTrade 60000000000).init
      [.deliver (.message oldText)]).isSome := by
  decide +kernel

/-- The trade is still served although the window has become empty. -/
theorem not_everyStep_servesCurrentWindow :
    ¬ ∀ (fromStr : String → Except String RawTrade) (symbol : String)
        (window : Nat) (labels : List Label),
      asMillis window < 2 ^ 64 → Timely ℚ fromStr labels →
        (service ℚ fromStr window).EveryStep
          (ServesCurrentWindow fromStr symbol window) labels := by
  intro always
  have served :=
    always readTrade "BTCUSDT" 60000000000 idleLabels (by decide)
      (by decide +kernel) [.deliver (.message oldText)] (.read 60001) []
      _ _ rfl (.of_enabled idle_enabled) rfl
  exact absurd served.2 (by decide +kernel)

end CryptoOrderbook.Trades
