import CryptoOrderbook.CheckedDecimal
import CryptoOrderbook.Trades.Adds

/-!
# Panics under the VWAP lock

`TradeManager::run` adds a trade and reads the VWAP and the volume under the
write lock.  `tryLockedSection` is that section with operators that panic;
where it completes it has done what `add` does, and where it does not the
lock is poisoned and the task is gone.

Nothing bounds the prices, the quantities or the number of trades in the
window.  The lock is never poisoned exactly when every trade finds the
running sums, and what it adds to them, in range.
-/

namespace CryptoOrderbook.Trades

open CryptoOrderbook.Library
open CryptoOrderbook.Binance
open CryptoOrderbook.Vwap
open CryptoOrderbook.Decimal

variable {D : Type} [Decimal D]

/-! ## The section with operators that panic -/

/-- The loop of `evict`. -/
def tryPopAged (bound : Nat) :
    List (Entry D) → D → D → Except Panic (List (Entry D) × D × D)
  | [], sumPq, sumQ => return ([], sumPq, sumQ)
  | front :: rest, sumPq, sumQ =>
      if front.timestampMs.toNat < bound then do
        let product ← tryMul front.price front.quantity
        let lessPq ← trySub sumPq product
        let lessQ ← trySub sumQ front.quantity
        tryPopAged bound rest lessPq lessQ
      else
        return (front :: rest, sumPq, sumQ)

/-- `VwapWindow::add`. -/
def tryAddTrade (window : VwapWindow D) (trade : Entry D) :
    Except Panic (VwapWindow D) := do
  let kept ← tryPopAged (cutoff window.window trade.timestampMs.toNat)
    window.entries window.sumPq window.sumQ
  let product ← tryMul trade.price trade.quantity
  let sumPq ← tryAdd kept.2.1 product
  let sumQ ← tryAdd kept.2.2 trade.quantity
  return ⟨window.window, kept.1 ++ [trade], sumPq, sumQ⟩

/-- `VwapWindow::vwap`. -/
def tryVwap (tooLarge : D → D → Bool) (window : VwapWindow D) :
    Except Panic (Option D) :=
  if isZero window.sumQ then
    return none
  else do
    let price ← tryDiv tooLarge window.sumPq window.sumQ
    return some price

/-- The write-locked section of `run`; reading the volume copies a sum. -/
def tryLockedSection (tooLarge : D → D → Bool) (window : VwapWindow D)
    (trade : Entry D) : Except Panic (VwapWindow D) := do
  let added ← tryAddTrade window trade
  let _vwap ← tryVwap tooLarge added
  return added

/-! ## When the section completes -/

/-- The trade is in range beside the sums of what the window has kept. -/
structure ArrivalInRange (tooLarge : D → D → Bool) (trade : Entry D)
    (sumPq sumQ : D) : Prop where
  product : InRange (value trade.price * value trade.quantity)
  turnover : InRange (value sumPq + value (trade.price * trade.quantity))
  quantity : InRange (value sumQ + value trade.quantity)
  quotient : isZero (sumQ + trade.quantity) = false →
    tooLarge (sumPq + trade.price * trade.quantity)
      (sumQ + trade.quantity) = false

/--
The sums stay in range as the entries before the bound are taken from them,
and the trade is in range beside what is left.
-/
def TradeInRange (tooLarge : D → D → Bool) (trade : Entry D) (bound : Nat) :
    List (Entry D) → D → D → Prop
  | [], sumPq, sumQ => ArrivalInRange tooLarge trade sumPq sumQ
  | front :: rest, sumPq, sumQ =>
      if front.time < bound then
        InRange (value sumPq - value (front.price * front.quantity)) ∧
          InRange (value sumQ - value front.quantity) ∧
            TradeInRange tooLarge trade bound rest
              (sumPq - front.price * front.quantity) (sumQ - front.quantity)
      else
        ArrivalInRange tooLarge trade sumPq sumQ

/-- The product of every entry is in range. -/
def ProductsInRange (entries : List (Entry D)) : Prop :=
  ∀ entry ∈ entries, InRange (value entry.price * value entry.quantity)

/-- The sums stay in range while the loop of `evict` runs. -/
def EvictionsInRange (bound : Nat) : List (Entry D) → D → D → Prop
  | [], _, _ => True
  | front :: rest, sumPq, sumQ =>
      front.time < bound →
        InRange (value sumPq - value (front.price * front.quantity)) ∧
          InRange (value sumQ - value front.quantity) ∧
            EvictionsInRange bound rest
              (sumPq - front.price * front.quantity) (sumQ - front.quantity)

/-- The two parts of the section. -/
theorem tradeInRange_iff
    {tooLarge : D → D → Bool} {trade : Entry D} {bound : Nat}
    {entries : List (Entry D)} {sumPq sumQ : D} :
    TradeInRange tooLarge trade bound entries sumPq sumQ ↔
      EvictionsInRange bound entries sumPq sumQ ∧
        ArrivalInRange tooLarge trade (popAged bound entries sumPq sumQ).2.1
          (popAged bound entries sumPq sumQ).2.2 := by
  induction entries generalizing sumPq sumQ with
  | nil => exact (and_iff_right trivial).symm
  | cons front rest induction =>
      by_cases aged : front.time < bound
      · rw [TradeInRange, if_pos aged, induction, EvictionsInRange,
          forall_prop_of_true aged, popAged_cons_of_aged aged, and_assoc,
          and_assoc]
      · rw [TradeInRange, if_neg aged, EvictionsInRange,
          popAged_cons_of_recent aged]
        exact (and_iff_right fun old => absurd old aged).symm

/--
With exact decimals the sums stay in range exactly when those of every rest
of the queue do, from the one without the front to the one that is kept.
-/
theorem evictionsInRange_iff_of_exact [Exact D]
    {bound : Nat} {entries : List (Entry D)} {sumPq sumQ : D}
    (sums : SumsEntries entries sumPq sumQ) :
    EvictionsInRange bound entries sumPq sumQ ↔
      ∀ left, left <:+ entries → left ≠ entries →
        expire Entry.time bound entries <:+ left →
          InRange (turnover left) ∧ InRange (totalQuantity left) := by
  induction entries generalizing sumPq sumQ with
  | nil =>
      refine iff_of_true trivial ?_
      intro left isSuffix different
      exact absurd (List.suffix_nil.mp isSuffix) different
  | cons front rest induction =>
      by_cases aged : front.time < bound
      · have lessPq :
            value (sumPq - front.price * front.quantity) = turnover rest := by
          rw [Exact.value_sub, Exact.value_mul, sums.sumPq]
          simp [turnover]
        have lessQ : value (sumQ - front.quantity) = totalQuantity rest := by
          rw [Exact.value_sub, sums.sumQ]
          simp [totalQuantity]
        rw [EvictionsInRange, forall_prop_of_true aged,
          induction ⟨lessPq, lessQ⟩, ← Exact.value_sub, lessPq,
          ← Exact.value_sub, lessQ, expire_cons_of_before aged]
        constructor
        · rintro ⟨restPq, restQ, later⟩ left isSuffix different keeps
          rcases List.suffix_cons_iff.mp isSuffix with same | ofRest
          · exact absurd same different
          · by_cases isRest : left = rest
            · rw [isRest]
              exact ⟨restPq, restQ⟩
            · exact later left ofRest isRest keeps
        · intro every
          have shorter : ∀ left, left <:+ rest → left ≠ front :: rest := by
            rintro _ isSuffix rfl
            have less := isSuffix.length_le
            simp at less
          have ofRest := every rest (List.suffix_cons _ _)
            (shorter rest (List.suffix_refl _)) (expire_suffix _ _)
          refine ⟨ofRest.1, ofRest.2, ?_⟩
          intro left isSuffix _ keeps
          exact every left (isSuffix.trans (List.suffix_cons _ _))
            (shorter left isSuffix) keeps
      · refine iff_of_true (fun old => absurd old aged) ?_
        intro left isSuffix different keeps
        rw [expire_cons_of_reached aged] at keeps
        exact
          absurd (isSuffix.eq_of_length_le keeps.length_le) different

/--
With exact decimals a trade is in range exactly when its product is, every
rest of the queue on the way to what is kept has sums in range, and so has
the window with the trade, whose quotient is not too large.
-/
theorem tradeInRange_iff_of_exact [Exact D]
    {tooLarge : D → D → Bool} {window : VwapWindow D}
    (rescans : window.Rescans) (trade : Entry D) :
    TradeInRange tooLarge trade (cutoff window.window trade.time)
        window.entries window.sumPq window.sumQ ↔
      (∀ left, left <:+ window.entries → left ≠ window.entries →
        expire Entry.time (cutoff window.window trade.time) window.entries
            <:+ left →
          InRange (turnover left) ∧ InRange (totalQuantity left)) ∧
        InRange (value trade.price * value trade.quantity) ∧
        InRange (turnover (window.addTrade trade).entries) ∧
        InRange (totalQuantity (window.addTrade trade).entries) ∧
        (isZero (window.addTrade trade).sumQ = false →
          tooLarge (window.addTrade trade).sumPq
            (window.addTrade trade).sumQ = false) := by
  have added : (window.addTrade trade).Rescans := rescans.add _ _ _
  rw [tradeInRange_iff, evictionsInRange_iff_of_exact rescans,
    ← added.sumPq, ← added.sumQ]
  refine and_congr_right fun _ => ?_
  constructor
  · rintro ⟨product, turnover, quantity, quotient⟩
    rw [← Exact.value_add] at turnover quantity
    exact ⟨product, turnover, quantity, quotient⟩
  · rintro ⟨product, turnover, quantity, quotient⟩
    constructor
    · exact product
    · rw [← Exact.value_add]
      exact turnover
    · rw [← Exact.value_add]
      exact quantity
    · exact quotient

/-- The products were in range when they were added. -/
theorem tryPopAged_eq_ok_iff
    {bound : Nat} {entries : List (Entry D)} {sumPq sumQ : D}
    (products : ProductsInRange entries)
    {final : List (Entry D) × D × D} :
    tryPopAged bound entries sumPq sumQ = .ok final ↔
      EvictionsInRange bound entries sumPq sumQ ∧
        final = popAged bound entries sumPq sumQ := by
  induction entries generalizing sumPq sumQ with
  | nil =>
      rw [tryPopAged, pure_eq_ok_iff]
      exact (and_iff_right trivial).symm
  | cons front rest induction =>
      rcases List.forall_mem_cons.mp products with ⟨product, later⟩
      by_cases aged : front.time < bound
      · rw [tryPopAged, ← Entry.time, if_pos aged, popAged_cons_of_aged aged,
          EvictionsInRange, forall_prop_of_true aged]
        simp only [bind_eq_ok_iff, tryMul, trySub, checked_eq_ok_iff]
        constructor
        · rintro ⟨_, ⟨-, rfl⟩, _, ⟨lessPq, rfl⟩, _, ⟨lessQ, rfl⟩, popped⟩
          rcases (induction later).mp popped with ⟨inRange, rfl⟩
          exact ⟨⟨lessPq, lessQ, inRange⟩, rfl⟩
        · rintro ⟨⟨lessPq, lessQ, inRange⟩, rfl⟩
          exact
            ⟨_, ⟨product, rfl⟩, _, ⟨lessPq, rfl⟩, _, ⟨lessQ, rfl⟩,
              (induction later).mpr ⟨inRange, rfl⟩⟩
      · rw [tryPopAged, ← Entry.time, if_neg aged,
          popAged_cons_of_recent aged, pure_eq_ok_iff, EvictionsInRange]
        exact (and_iff_right fun old => absurd old aged).symm

theorem tryVwap_completes_iff
    {tooLarge : D → D → Bool} {window : VwapWindow D} :
    (∃ vwap, tryVwap tooLarge window = .ok vwap) ↔
      (isZero window.sumQ = false →
        tooLarge window.sumPq window.sumQ = false) := by
  cases zero : isZero window.sumQ with
  | true =>
      refine iff_of_true ⟨none, ?_⟩ nofun
      rw [tryVwap, if_pos zero]
      rfl
  | false =>
      simp only [tryVwap, zero, Bool.false_eq_true, if_false,
        bind_eq_ok_iff, pure_eq_ok_iff, tryDiv_eq_ok_iff]
      constructor
      · rintro ⟨_, _, ⟨-, small, -⟩, -⟩ _
        exact small
      · intro small
        exact ⟨_, _, ⟨trivial, small trivial, rfl⟩, rfl⟩

/--
The section completes exactly when the trade is in range, and then it has
done what `add` does.
-/
theorem tryLockedSection_eq_ok_iff
    {tooLarge : D → D → Bool} {window next : VwapWindow D} {trade : Entry D}
    (products : ProductsInRange window.entries) :
    tryLockedSection tooLarge window trade = .ok next ↔
      TradeInRange tooLarge trade (cutoff window.window trade.time)
          window.entries window.sumPq window.sumQ ∧
        next = window.addTrade trade := by
  rw [tradeInRange_iff, tryLockedSection]
  simp only [tryAddTrade, bind_eq_ok_iff, pure_eq_ok_iff,
    tryPopAged_eq_ok_iff products, tryMul, tryAdd, checked_eq_ok_iff]
  constructor
  · rintro ⟨_, ⟨_, ⟨evictions, rfl⟩, _, ⟨product, rfl⟩, _, ⟨turnover, rfl⟩, _,
      ⟨quantity, rfl⟩, rfl⟩, vwap, read, rfl⟩
    exact
      ⟨⟨evictions, product, turnover, quantity,
        tryVwap_completes_iff.mp ⟨vwap, read⟩⟩, rfl⟩
  · rintro ⟨⟨evictions, arrival⟩, rfl⟩
    have readable :
        ∃ vwap, tryVwap tooLarge (window.addTrade trade) = .ok vwap :=
      tryVwap_completes_iff.mpr arrival.quotient
    rcases readable with ⟨vwap, read⟩
    exact
      ⟨_, ⟨_, ⟨evictions, rfl⟩, _, ⟨arrival.product, rfl⟩, _,
        ⟨arrival.turnover, rfl⟩, _, ⟨arrival.quantity, rfl⟩, rfl⟩,
        vwap, read, rfl⟩

theorem ProductsInRange.addTrade
    {window : VwapWindow D} (products : ProductsInRange window.entries)
    {trade : Entry D}
    (product : InRange (value trade.price * value trade.quantity)) :
    ProductsInRange (window.addTrade trade).entries := by
  rw [VwapWindow.addTrade, add_entries, slide]
  refine List.forall_mem_append.mpr ⟨?_, List.forall_mem_singleton.mpr product⟩
  intro entry member
  exact products entry ((expire_suffix _ _).subset member)

/-! ## The lock over a run -/

/-- The lock around the window; a panic under it ends the task. -/
inductive Lock (D : Type) where
  | free (window : VwapWindow D)
  | poisoned
deriving DecidableEq

/-- One received event, with operators that panic. -/
def tryHandle (tooLarge : D → D → Bool)
    (fromStr : String → Except String RawTrade) (window : VwapWindow D)
    (event : WsEvent) : Lock D :=
  match tradeOf D fromStr event with
  | none => .free window
  | some trade =>
      match tryLockedSection tooLarge window trade with
      | .ok next => .free next
      | .error _ => .poisoned

/-- The trade manager around the lock. -/
def vwapLock (D : Type) [Decimal D] (tooLarge : D → D → Bool)
    (fromStr : String → Except String RawTrade) (window : Nat) :
    GuardedMachine (Lock D) WsEvent where
  init := .free (.new window)
  step
    | .free reached, event => some (tryHandle tooLarge fromStr reached event)
    | .poisoned, _ => none

/-- The lock is not poisoned. -/
def Unpoisoned (lock : Lock D) : Prop :=
  lock ≠ .poisoned

/-- A well-formed trade is in range beside the window it is added to. -/
def TradesInRange (D : Type) [Decimal D] (tooLarge : D → D → Bool)
    (fromStr : String → Except String RawTrade)
    (_before : List WsEvent) (lock : Lock D) (event : WsEvent)
    (_next : Lock D) : Prop :=
  ∀ window trade, lock = .free window →
    tradeOf D fromStr event = some trade →
      TradeInRange tooLarge trade (cutoff window.window trade.time)
        window.entries window.sumPq window.sumQ

/-- What a free lock guards has products in range. -/
def GuardsProducts (lock : Lock D) : Prop :=
  ∀ window, lock = .free window → ProductsInRange window.entries

section Steps

variable {tooLarge : D → D → Bool}
  {fromStr : String → Except String RawTrade} {window : VwapWindow D}
  {event : WsEvent}

theorem tryHandle_eq_free_iff {next : VwapWindow D} :
    tryHandle tooLarge fromStr window event = .free next ↔
      (tradeOf D fromStr event = none ∧ next = window) ∨
        ∃ trade, tradeOf D fromStr event = some trade ∧
          tryLockedSection tooLarge window trade = .ok next := by
  rw [tryHandle]
  cases tradeOf D fromStr event with
  | none => simp [eq_comm]
  | some trade =>
      cases completes : tryLockedSection tooLarge window trade with
      | ok added => simp [completes]
      | error panic => simp [completes]

theorem unpoisoned_tryHandle_iff
    (products : ProductsInRange window.entries) :
    Unpoisoned (tryHandle tooLarge fromStr window event) ↔
      ∀ trade, tradeOf D fromStr event = some trade →
        TradeInRange tooLarge trade (cutoff window.window trade.time)
          window.entries window.sumPq window.sumQ := by
  rw [tryHandle]
  cases tradeOf D fromStr event with
  | none => simp [Unpoisoned]
  | some trade =>
      have section_ :
          tryLockedSection tooLarge window trade =
              .ok (window.addTrade trade) ↔ _ :=
        tryLockedSection_eq_ok_iff products
      rw [and_iff_left rfl] at section_
      simp only [Option.some.injEq, forall_eq', ← section_]
      cases completes : tryLockedSection tooLarge window trade with
      | ok added =>
          have same := (tryLockedSection_eq_ok_iff products).mp completes
          simp [Unpoisoned, same.2]
      | error panic => simp [Unpoisoned]

theorem GuardsProducts.step
    {tooLarge : D → D → Bool} {width : Nat} {lock next : Lock D}
    (guards : GuardsProducts lock)
    (step : (vwapLock D tooLarge fromStr width).step lock event = some next) :
    GuardsProducts next := by
  intro reached isFree
  cases lock with
  | poisoned => cases step
  | free window =>
      have products := guards window rfl
      have handled : tryHandle tooLarge fromStr window event = next :=
        Option.some.inj step
      rw [isFree] at handled
      rcases tryHandle_eq_free_iff.mp handled with
        ⟨-, rfl⟩ | ⟨trade, -, completes⟩
      · exact products
      · rcases (tryLockedSection_eq_ok_iff products).mp completes with
          ⟨inRange, rfl⟩
        exact products.addTrade (tradeInRange_iff.mp inRange).2.product

end Steps

/--
The lock is free after every event of a run exactly when every well-formed
trade is in range beside the window it is added to.
-/
theorem everyState_unpoisoned_iff
    (D : Type) [Decimal D] (tooLarge : D → D → Bool)
    (fromStr : String → Except String RawTrade) (window : Nat)
    (events : List WsEvent) :
    (vwapLock D tooLarge fromStr window).EveryState Unpoisoned events ↔
      (vwapLock D tooLarge fromStr window).EveryStep
        (TradesInRange D tooLarge fromStr) events := by
  have starts : GuardsProducts (vwapLock D tooLarge fromStr window).init := by
    intro reached isFree entry member
    cases isFree
    cases member
  refine GuardedMachine.everyState_iff_everyStep_of_invariant nofun starts ?_
    ?_ events
  · intro lock event next _ guards step _
    exact guards.step step
  · intro before lock event next _ unpoisoned guards step
    cases lock with
    | poisoned => exact absurd rfl unpoisoned
    | free reached =>
        have handled : tryHandle tooLarge fromStr reached event = next :=
          Option.some.inj step
        rw [← handled, unpoisoned_tryHandle_iff (guards reached rfl)]
        constructor
        · rintro inRange _ trade ⟨⟩ carried
          exact inRange trade carried
        · intro inRange trade carried
          exact inRange reached trade rfl carried

/-! ### A trade whose product overflows -/

/-- A trade of two units at the largest price. -/
def hugeTrade : String :=
  "\x7b\"p\":\"79228162514264337593543950335\",\"q\":\"2\",\"T\":0\x7d"

def readHugeTrade (raw : String) : Except String RawTrade :=
  if raw = hugeTrade then .ok ⟨"79228162514264337593543950335", "2", 0⟩
  else .error "expected value at line 1 column 1"

/-- The first trade of a run poisons the lock. -/
theorem not_everyState_unpoisoned :
    ¬ ∀ (tooLarge : ℚ → ℚ → Bool)
        (fromStr : String → Except String RawTrade) (window : Nat)
        (events : List WsEvent),
      (vwapLock ℚ tooLarge fromStr window).EveryState Unpoisoned events := by
  intro always
  have poisons :
      (vwapLock ℚ (fun _ _ => false) readHugeTrade 60000000000).step
          (.free (.new 60000000000)) (.message hugeTrade) =
        some .poisoned := by
    decide +kernel
  have unpoisoned :=
    (always (fun _ _ => false) readHugeTrade 60000000000
      [.message hugeTrade]).last (GuardedMachine.Run.start.snoc poisons)
  exact unpoisoned rfl

end CryptoOrderbook.Trades
