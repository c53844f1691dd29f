import Mathlib.Data.Finset.Max
import CryptoOrderbook.Library.WeightedMean
import CryptoOrderbook.Trades.Adds

/-!
# The VWAP is a weighted mean

With exact decimals the VWAP of a window is the mean of the held prices
weighted by the held quantities, whatever the times of the trades.  Trades of
positive quantity keep every weight positive, and the last trade is always
held, so the mean exists from the first trade on and lies between the prices
held.
-/

namespace CryptoOrderbook.Vwap

open CryptoOrderbook.Library
open CryptoOrderbook.Decimal

variable {D : Type} [Decimal D]

/-- Every trade has a positive quantity. -/
def PositiveTrades (trades : List (Entry D)) : Prop :=
  ∀ trade ∈ trades, 0 < value trade.quantity

instance (trades : List (Entry D)) : Decidable (PositiveTrades trades) :=
  inferInstanceAs (Decidable (∀ trade ∈ trades, 0 < value trade.quantity))

/-- The prices of the entries. -/
def prices (entries : List (Entry D)) : Finset ℚ :=
  (entries.map fun entry => value entry.price).toFinset

theorem mem_prices {entries : List (Entry D)} {price : ℚ} :
    price ∈ prices entries ↔
      ∃ entry ∈ entries, value entry.price = price := by
  simp [prices]

/--
A mean of the entries: between their least and their greatest price, and at
one of the two only when all prices are equal.
-/
def MeanOf (entries : List (Entry D)) (mean : ℚ) : Prop :=
  ∃ least greatest,
    IsLeast (prices entries : Set ℚ) least ∧
      IsGreatest (prices entries : Set ℚ) greatest ∧
        least ≤ mean ∧ mean ≤ greatest ∧
          (mean = least ∨ mean = greatest →
            ∀ entry ∈ entries, value entry.price = mean)

/-- The weighted price of entries of positive quantity is a mean of them. -/
theorem meanOf_weightedMean
    {entries : List (Entry D)} (positive : PositiveTrades entries)
    (nonempty : entries ≠ []) :
    MeanOf entries
      (weightedMean (fun entry => value entry.quantity)
        (fun entry => value entry.price) entries) := by
  have inhabited : (prices entries).Nonempty := by
    rcases List.exists_mem_of_ne_nil entries nonempty with ⟨entry, member⟩
    exact ⟨value entry.price, mem_prices.mpr ⟨entry, member, rfl⟩⟩
  have least := (prices entries).isLeast_min' inhabited
  have greatest := (prices entries).isGreatest_max' inhabited
  have above : ∀ entry ∈ entries,
      (prices entries).min' inhabited ≤ value entry.price := by
    intro entry member
    exact least.2 (mem_prices.mpr ⟨entry, member, rfl⟩)
  have below : ∀ entry ∈ entries,
      value entry.price ≤ (prices entries).max' inhabited := by
    intro entry member
    exact greatest.2 (mem_prices.mpr ⟨entry, member, rfl⟩)
  refine ⟨_, _, least, greatest, le_weightedMean positive nonempty above,
    weightedMean_le positive nonempty below, ?_⟩
  rintro (atLeast | atGreatest)
  · rw [atLeast]
    exact eq_of_eq_weightedMean positive above atLeast
  · rw [atGreatest]
    exact eq_of_weightedMean_eq positive below atGreatest

theorem PositiveTrades.held
    {trades : List (Entry D)} (positive : PositiveTrades trades)
    (window : Nat) :
    PositiveTrades (afterAdds window trades).entries := by
  intro entry member
  rw [afterAdds_entries] at member
  exact positive entry ((slideAll_suffix trades).subset member)

theorem afterAdds_entries_eq_nil_iff
    (window : Nat) (trades : List (Entry D)) :
    (afterAdds window trades).entries = [] ↔ trades = [] := by
  rw [afterAdds_entries]
  constructor
  · intro nothing
    by_contra added
    exact slideAll_ne_nil added nothing
  · rintro rfl
    rfl

/--
After trades of positive quantity the VWAP is defined exactly when there was
one; the volume is then positive and the VWAP is a mean of the prices held.
-/
theorem vwap_is_mean
    (D : Type) [Decimal D] [Exact D] (window : Nat)
    {trades : List (Entry D)} (positive : PositiveTrades trades) :
    ((afterAdds window trades).vwap.isSome ↔ trades ≠ []) ∧
      (trades ≠ [] → 0 < value (afterAdds window trades).volume) ∧
      ∀ vwap, (afterAdds window trades).vwap = some vwap →
        MeanOf (afterAdds window trades).entries (value vwap) := by
  have rescans := rescans_afterAdds window trades
  have held := positive.held window
  have computed := rescans.vwap
  have total : trades ≠ [] →
      0 < totalQuantity (afterAdds window trades).entries := by
    intro added
    apply totalWeight_pos held
    exact (afterAdds_entries_eq_nil_iff window trades).not.mpr added
  have defined : (afterAdds window trades).vwap.isSome ↔ trades ≠ [] := by
    have isSome :
        (afterAdds window trades).vwap.isSome =
          ((afterAdds window trades).vwap.map value).isSome :=
      Option.isSome_map.symm
    rw [isSome, computed, weightedPrice]
    constructor
    · rintro isSome rfl
      cases isSome
    · intro added
      simp [(total added).ne']
  refine ⟨defined, ?_, ?_⟩
  · intro added
    rw [rescans.volume]
    exact total added
  · intro vwap isVwap
    have added : trades ≠ [] := by
      rw [← defined, isVwap]
      rfl
    rw [isVwap, weightedPrice, if_neg (total added).ne', Option.map_some,
      Option.some.injEq] at computed
    rw [computed]
    exact
      meanOf_weightedMean held
        ((afterAdds_entries_eq_nil_iff window trades).not.mpr added)

/-- Two units at 30 and one at 60 have the mean 40. -/
theorem vwap_is_mean_sample :
    MeanOf
      (afterAdds 60000000000
        [(⟨30, 2, 5⟩ : Entry ℚ), ⟨60, 1, 3⟩]).entries 40 :=
  (vwap_is_mean ℚ 60000000000 (by decide +kernel)).2.2 40 (by decide +kernel)

end CryptoOrderbook.Vwap
