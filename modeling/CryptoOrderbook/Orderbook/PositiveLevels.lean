import CryptoOrderbook.Orderbook.LastWriter

/-!
# Books whose levels have positive quantities

The removal test recognises only zero.  A side whose levels are positive
therefore keeps this through a list of entries exactly when the last entry
for every price is nonnegative, and a book written by nonnegative entries
alone has positive levels after every history of calls.
-/

namespace CryptoOrderbook.Book

open CryptoOrderbook.Library
open CryptoOrderbook.Binance

variable {D : Type} [Decimal D]

/-- Every level of a side has a positive quantity. -/
def PositiveLevels (levels : Levels D) : Prop :=
  ∀ entry ∈ levels.entries, 0 < Decimal.value entry.2

/-- The last entry for every listed price is nonnegative. -/
def LastNonnegative (entries : List (Binance.PriceLevel D)) : Prop :=
  ∀ price quantity, lastEntry price entries = some quantity →
    0 ≤ Decimal.value quantity

theorem positiveLevels_iff_get? (levels : Levels D) :
    PositiveLevels levels ↔
      ∀ price quantity, levels.get? price = some quantity →
        0 < Decimal.value quantity := by
  constructor
  · intro positive price quantity stored
    rcases levels.get?_eq_some_iff.mp stored with ⟨key, member, -⟩
    exact positive (key, quantity) member
  · rintro positive ⟨key, quantity⟩ member
    have stored : levels.get? (Decimal.value key) = some quantity :=
      levels.get?_eq_some_iff.mpr ⟨key, member, rfl⟩
    exact positive _ quantity stored

theorem positiveLevels_empty :
    PositiveLevels (RankedMap.empty : Levels D) := by
  intro entry member
  cases member

/-- Positive levels survive exactly the nonnegative last entries. -/
theorem positiveLevels_applyLevels_iff
    {levels : Levels D} (positive : PositiveLevels levels)
    (entries : List (Binance.PriceLevel D)) :
    PositiveLevels (applyLevels levels entries) ↔
      LastNonnegative entries := by
  rw [positiveLevels_iff_get?] at positive ⊢
  constructor
  · intro stays price quantity listed
    have stored := stays price quantity
    rw [get?_applyLevels, listed] at stored
    by_cases zero : Decimal.isZero quantity = true
    · exact ((Decimal.isZero_iff quantity).mp zero).ge
    · exact (stored (if_neg zero)).le
  · intro nonnegative price quantity stored
    rw [get?_applyLevels] at stored
    cases listed : lastEntry price entries with
    | none =>
        rw [listed] at stored
        exact positive price quantity stored
    | some newest =>
        rw [listed] at stored
        have least := nonnegative price newest listed
        by_cases zero : Decimal.isZero newest = true
        · simp [zero] at stored
        · have same : newest = quantity := by simpa [zero] using stored
          have nonzero : Decimal.value newest ≠ 0 := by
            intro isZero
            exact zero ((Decimal.isZero_iff newest).mpr isZero)
          exact same ▸ lt_of_le_of_ne least nonzero.symm

namespace OrderBook

/-- Every level of the book has a positive quantity. -/
def Positive (book : OrderBook D) : Prop :=
  PositiveLevels book.bids ∧ PositiveLevels book.asks

theorem positive_new : (new : OrderBook D).Positive :=
  ⟨positiveLevels_empty, positiveLevels_empty⟩

end OrderBook

/-- The last entry for every price is nonnegative on both sides. -/
def LastsNonnegative (update : DepthUpdate D) : Prop :=
  LastNonnegative update.bids ∧ LastNonnegative update.asks

theorem OrderBook.Positive.apply_iff
    {book : OrderBook D} (positive : book.Positive)
    (update : DepthUpdate D) :
    (book.apply update).Positive ↔ LastsNonnegative update :=
  and_congr
    (positiveLevels_applyLevels_iff positive.1 update.bids)
    (positiveLevels_applyLevels_iff positive.2 update.asks)

/-! ## Histories of nonnegative entries -/

/-- Every entry of both sides has a nonnegative quantity. -/
def Nonnegative (update : DepthUpdate D) : Prop :=
  ∀ level ∈ update.bids ++ update.asks, 0 ≤ Decimal.value level.quantity

instance (update : DepthUpdate D) : Decidable (Nonnegative update) :=
  inferInstanceAs
    (Decidable
      (∀ level ∈ update.bids ++ update.asks,
        0 ≤ Decimal.value level.quantity))

/-- Every applied update has nonnegative quantities only. -/
def NonnegativeCalls (calls : List (Call D)) : Prop :=
  ∀ update, Call.apply update ∈ calls → Nonnegative update

theorem Nonnegative.lastsNonnegative
    {update : DepthUpdate D} (nonnegative : Nonnegative update) :
    LastsNonnegative update := by
  rcases List.forall_mem_append.mp nonnegative with ⟨bids, asks⟩
  constructor
  · intro price quantity listed
    rcases mem_of_lastEntry listed with ⟨level, member, -, same⟩
    exact same ▸ bids level member
  · intro price quantity listed
    rcases mem_of_lastEntry listed with ⟨level, member, -, same⟩
    exact same ▸ asks level member

theorem positive_afterCalls
    {calls : List (Call D)} (nonnegative : NonnegativeCalls calls) :
    (OrderBook.afterCalls calls).Positive := by
  induction calls using List.reverseRecOn with
  | nil => exact OrderBook.positive_new
  | append_singleton earlier last induction =>
      have positive : (OrderBook.afterCalls earlier).Positive := by
        apply induction
        intro update member
        exact nonnegative update (List.mem_append_left _ member)
      rw [OrderBook.afterCalls_append]
      cases last with
      | apply update =>
          have listed : Nonnegative update :=
            nonnegative update (by simp)
          exact (positive.apply_iff update).mpr listed.lastsNonnegative
      | clear => exact OrderBook.positive_new

/-- The levels traversed first have positive quantities. -/
theorem OrderBook.Positive.topBids
    {book : OrderBook D} (positive : book.Positive) (n : Nat) :
    ∀ level ∈ book.topBids n, 0 < Decimal.value level.quantity := by
  intro level member
  rcases List.mem_map.mp member with ⟨entry, listed, rfl⟩
  have reversed := List.mem_of_mem_take listed
  exact positive.1 entry (List.mem_reverse.mp reversed)

theorem OrderBook.Positive.topAsks
    {book : OrderBook D} (positive : book.Positive) (n : Nat) :
    ∀ level ∈ book.topAsks n, 0 < Decimal.value level.quantity := by
  intro level member
  rcases List.mem_map.mp member with ⟨entry, listed, rfl⟩
  exact positive.2 entry (List.mem_of_mem_take listed)

end CryptoOrderbook.Book
