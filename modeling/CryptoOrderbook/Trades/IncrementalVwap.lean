import CryptoOrderbook.Trades.Adds

/-!
# The incremental VWAP is a re-scan

After any events the rolling window holds the newest of the well-formed
trades in arrival order, whatever their times, and its two running sums are
those of the trades it holds.  When the times do not decrease, what it holds
is exactly what a re-scan of the whole history would find in the window.
-/

namespace CryptoOrderbook.Trades

open CryptoOrderbook.Library
open CryptoOrderbook.Binance
open CryptoOrderbook.Vwap
open CryptoOrderbook.Decimal

variable {D : Type} [Decimal D]

/-! ## What the shared window stands for -/

section WindowAfter

variable {fromStr : String → Except String RawTrade} {window : Nat}

/-- The window slides over the well-formed trades at its own width. -/
structure Slides (fromStr : String → Except String RawTrade) (window : Nat)
    (events : List WsEvent) (reached : VwapWindow D) : Prop where
  width : reached.window = window
  entries :
    reached.entries =
      slideAll Entry.time (cutoff window) (trades D fromStr events)

theorem slides_windowAfter
    (fromStr : String → Except String RawTrade) (window : Nat)
    (events : List WsEvent) :
    Slides fromStr window events
      (windowAfter fromStr window events : VwapWindow D) := by
  rw [windowAfter_eq_afterAdds]
  constructor
  · exact afterAdds_window window _
  · exact afterAdds_entries window _

theorem rescans_windowAfter [Exact D]
    (fromStr : String → Except String RawTrade) (window : Nat)
    (events : List WsEvent) :
    (windowAfter fromStr window events : VwapWindow D).Rescans := by
  rw [windowAfter_eq_afterAdds]
  exact rescans_afterAdds window _

/-- A window whose milliseconds fit 64 bits is not truncated. -/
theorem cutoff_of_fits
    (fits : asMillis window < 2 ^ 64) (nowMs : Nat) :
    cutoff window nowMs = nowMs - asMillis window := by
  rw [cutoff, Nat.mod_eq_of_lt fits]

/-- In time order the window holds the trades of the last trade's window. -/
theorem entries_of_ordered
    (fits : asMillis window < 2 ^ 64) {events : List WsEvent}
    (ordered : InStampOrder Entry.time (trades D fromStr events))
    {last : Entry D} (isLast : (trades D fromStr events).getLast? = some last) :
    (windowAfter fromStr window events : VwapWindow D).entries =
      (trades D fromStr events).filter fun trade =>
        last.time - asMillis window ≤ trade.time := by
  rcases List.getLast?_eq_some_iff.mp isLast with ⟨earlier, split⟩
  rw [(slides_windowAfter fromStr window events).entries, split,
    slideAll_eq_filter (cutoff_monotone window) (cutoff_le window)
      (split ▸ ordered),
    cutoff_of_fits fits]

end WindowAfter

/-! ## The result -/

/--
The window holds the newest of the given trades, and its sums, its VWAP and
its volume are those of a fresh computation over what it holds.
-/
structure Rescanned (trades : List (Entry D)) (reached : VwapWindow D) :
    Prop where
  suffix : reached.entries <:+ trades
  nonempty : trades ≠ [] → reached.entries ≠ []
  sumPq : value reached.sumPq = turnover reached.entries
  sumQ : value reached.sumQ = totalQuantity reached.entries
  vwap : reached.vwap.map value = weightedPrice reached.entries
  volume : value reached.volume = totalQuantity reached.entries

/--
After any events the loop waits with a window that is a re-scan of the newest
well-formed trades; an ignored event changes nothing; and if the trade times
do not decrease, the window holds exactly the trades at most its length older
than the last one.
-/
theorem incremental_vwap
    (D : Type) [Decimal D] [Exact D]
    (fromStr : String → Except String RawTrade) {window : Nat}
    (fits : asMillis window < 2 ^ 64) (events : List WsEvent) :
    ∃ reached : VwapWindow D,
      run fromStr (.new window) (events.map some) = (.again reached, []) ∧
        Rescanned (trades D fromStr events) reached ∧
        (∀ event, Ignored D fromStr event →
          run fromStr (.new window) ((events ++ [event]).map some) =
            (.again reached, [])) ∧
        (InStampOrder Entry.time (trades D fromStr events) →
          ∀ last, (trades D fromStr events).getLast? = some last →
            reached.entries =
              (trades D fromStr events).filter fun trade =>
                last.time - asMillis window ≤ trade.time) := by
  have slides : Slides fromStr window events
      (windowAfter fromStr window events : VwapWindow D) :=
    slides_windowAfter fromStr window events
  have rescans : (windowAfter fromStr window events : VwapWindow D).Rescans :=
    rescans_windowAfter fromStr window events
  refine ⟨windowAfter fromStr window events, run_events _ _ _, ?_, ?_, ?_⟩
  · constructor
    · rw [slides.entries]
      exact slideAll_suffix _
    · intro nonempty
      rw [slides.entries]
      exact slideAll_ne_nil nonempty
    · exact rescans.sumPq
    · exact rescans.sumQ
    · exact rescans.vwap
    · exact rescans.volume
  · intro event ignored
    rw [run_events, List.foldl_append]
    exact congrArg (fun next => (Flow.again next, []))
      (handle_of_ignored ignored _)
  · intro ordered last isLast
    exact entries_of_ordered fits ordered isLast

/-! ### Two trades six seconds apart -/

def oldText : String :=
  "\x7b\"p\":\"100\",\"q\":\"1\",\"T\":0\x7d"

def recentText : String :=
  "\x7b\"p\":\"200\",\"q\":\"1\",\"T\":6000\x7d"

/-- A deserializer that accepts exactly the two frames. -/
def readTrade (raw : String) : Except String RawTrade :=
  if raw = oldText then .ok ⟨"100", "1", 0⟩
  else if raw = recentText then .ok ⟨"200", "1", 6000⟩
  else .error "expected value at line 1 column 1"

/-- In a window of five seconds only the second trade is left. -/
theorem incremental_vwap_sample :
    ∃ reached : VwapWindow ℚ,
      run readTrade (.new 5000000000)
          ([.message oldText, .reconnected, .message recentText].map some) =
        (.again reached, []) ∧
        reached.entries = [⟨200, 1, 6000⟩] := by
  have fits : asMillis 5000000000 < 2 ^ 64 := by decide
  rcases incremental_vwap ℚ readTrade fits
      [.message oldText, .reconnected, .message recentText] with
    ⟨reached, runs, -, -, inWindow⟩
  have held := inWindow (by decide +kernel) ⟨200, 1, 6000⟩ (by decide +kernel)
  refine ⟨reached, runs, ?_⟩
  rw [held]
  decide +kernel

end CryptoOrderbook.Trades
