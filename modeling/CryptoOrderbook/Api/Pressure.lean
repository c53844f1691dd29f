import CryptoOrderbook.Api.BookHandlers
import CryptoOrderbook.Orderbook.Imbalance

/-!
# The text of the imbalance endpoint

`GET /book/imbalance` puts the imbalance of the top levels into words.  It
compares a 64-bit float with two thresholds, which are floats as well: the
ones nearest to 0.3 and to 0.1.  The conversion of a decimal to a float is a
parameter; all that is asked of it is an error bound.

The five texts are ordered from selling to buying.  The one reported lies
between the texts for the exact balance of the listed volumes less and plus
the error of the conversion.
-/

namespace CryptoOrderbook.Routes

open CryptoOrderbook.Book
open CryptoOrderbook.Decimal

variable {D : Type} [Decimal D]

/-! ## The handler -/

/-- The float written `0.3`. -/
def strongThreshold : ℚ := 5404319552844595 / 2 ^ 54

/-- The float written `0.1`. -/
def mildThreshold : ℚ := 3602879701896397 / 2 ^ 55

/-- The body of `GET /book/imbalance`. -/
structure ImbalanceResponse (D : Type) where
  symbol : String
  depth : Nat
  imbalance : Option D
  interpretation : String
deriving DecidableEq, Repr

/-- The text for an imbalance, converted by `to_f64`. -/
def interpret (toF64 : D → Option ℚ) (imbalance : Option D) : String :=
  match imbalance.bind toF64 with
  | none => "insufficient data"
  | some v =>
      if v > strongThreshold then "strong buy pressure"
      else if v > mildThreshold then "mild buy pressure"
      else if v < -strongThreshold then "strong sell pressure"
      else if v < -mildThreshold then "mild sell pressure"
      else "balanced"

/-- `GET /book/imbalance`. -/
def imbalance (toF64 : D → Option ℚ) (symbol : String) (book : OrderBook D)
    (params : DepthParams) : ImbalanceResponse D where
  symbol := symbol
  depth := params.served
  imbalance := book.depthImbalance params.served
  interpretation := interpret toF64 (book.depthImbalance params.served)

/-! ## Pressure -/

/-- What the texts say, from selling to buying. -/
inductive Pressure where
  | strongSell
  | mildSell
  | balanced
  | mildBuy
  | strongBuy
deriving DecidableEq, Repr

namespace Pressure

def text : Pressure → String
  | strongSell => "strong sell pressure"
  | mildSell => "mild sell pressure"
  | balanced => "balanced"
  | mildBuy => "mild buy pressure"
  | strongBuy => "strong buy pressure"

/-- The place in the order; `balanced` is in the middle. -/
def rank : Pressure → Int
  | strongSell => -2
  | mildSell => -1
  | balanced => 0
  | mildBuy => 1
  | strongBuy => 2

/-- The pressure a number stands for. -/
def of (number : ℚ) : Pressure :=
  if strongThreshold < number then strongBuy
  else if mildThreshold < number then mildBuy
  else if number < -strongThreshold then strongSell
  else if number < -mildThreshold then mildSell
  else balanced

theorem text_ne_insufficient (pressure : Pressure) :
    pressure.text ≠ "insufficient data" := by
  cases pressure <;> decide

theorem text_injective {first second : Pressure}
    (same : first.text = second.text) :
    first = second := by
  cases first <;> cases second <;>
    first
      | rfl
      | exact absurd same (by decide)

theorem mild_lt_strong : mildThreshold < strongThreshold := by
  norm_num [mildThreshold, strongThreshold]

theorem mild_pos : 0 < mildThreshold := by
  norm_num [mildThreshold]

/-- A larger number never stands for less pressure to buy. -/
theorem rank_of_le {less more : ℚ} (le : less ≤ more) :
    (of less).rank ≤ (of more).rank := by
  have order := mild_lt_strong
  have positive := mild_pos
  simp only [of]
  split_ifs <;> first | decide | (exfalso; linarith)

/-- Pressure to buy is reported above the threshold only. -/
theorem rank_pos_iff (number : ℚ) :
    0 < (of number).rank ↔ mildThreshold < number := by
  have order := mild_lt_strong
  simp only [of]
  split_ifs with strong mild <;>
    simp [rank] <;> linarith

theorem rank_neg_iff (number : ℚ) :
    (of number).rank < 0 ↔ number < -mildThreshold := by
  have order := mild_lt_strong
  have positive := mild_pos
  simp only [of]
  split_ifs <;> simp [rank] <;> linarith

end Pressure

omit [Decimal D] in
/-- An imbalance that is converted is put into words. -/
theorem interpret_of_converted
    {toF64 : D → Option ℚ} {imbalance : D} {number : ℚ}
    (converted : toF64 imbalance = some number) :
    interpret toF64 (some imbalance) = (Pressure.of number).text := by
  rw [interpret, Option.bind_some, converted, Pressure.of]
  simp only [gt_iff_lt]
  split_ifs <;> rfl

/-! ## The pressure reported -/

/-- Imbalances are converted to floats up to an error. -/
def Converts (toF64 : D → Option ℚ) (error : ℚ) : Prop :=
  ∀ number : D, |value number| ≤ 1 →
    ∃ float, toF64 number = some float ∧ |float - value number| ≤ error

/-- The balance of the volumes listed on the two sides. -/
def listedBalance (book : OrderBook D) (n : Nat) : ℚ :=
  balance (bidVolume book n) (askVolume book n)

/-- A negative balance is that of a book with more asked than bid. -/
theorem bidVolume_lt_askVolume
    {book : OrderBook D} (positive : book.Positive) {n : Nat}
    (negative : listedBalance book n < 0) :
    bidVolume book n < askVolume book n := by
  by_contra atLeast
  rw [not_lt] at atLeast
  have nonnegative : 0 ≤ listedBalance book n :=
    div_nonneg (sub_nonneg.mpr atLeast)
      (add_nonneg (positive.bidVolume_nonneg n) (positive.askVolume_nonneg n))
  exact absurd negative nonnegative.not_gt

section Reported

variable [Exact D] {toF64 : D → Option ℚ} {error : ℚ} {book : OrderBook D}
  {n : Nat}

/-- Without volume there is no imbalance to put into words. -/
theorem interpret_of_no_volume
    (none : bidVolume book n + askVolume book n = 0) :
    interpret toF64 (book.depthImbalance n) = "insufficient data" := by
  have computed := depthImbalance_eq book n
  rw [if_pos none, Option.map_eq_none_iff] at computed
  rw [computed]
  rfl

/-- With volume the text is that of a number close to the balance. -/
theorem interpret_of_volume
    (converts : Converts toF64 error) (positive : book.Positive)
    (listed : n ≠ 0) (some : bidVolume book n + askVolume book n ≠ 0) :
    ∃ float, |float - listedBalance book n| ≤ error ∧
      interpret toF64 (book.depthImbalance n) =
        (Pressure.of float).text := by
  have computed := depthImbalance_eq book n
  rw [if_neg some, Option.map_eq_some_iff] at computed
  rcases computed with ⟨imbalance, defined, exactly⟩
  have range := positive.imbalanceOf_balance listed some
  rw [← exactly] at range
  rcases converts imbalance (abs_le.mpr ⟨range.lower, range.upper⟩) with
    ⟨float, converted, close⟩
  refine ⟨float, ?_, ?_⟩
  · rw [listedBalance, ← exactly]
    exact close
  · rw [defined]
    exact interpret_of_converted converted

end Reported

/--
With exact decimals, and for every book written by nonnegative quantities,
the endpoint reports insufficient data exactly when it lists no level.
Otherwise it reports a pressure between those of the exact balance of the
listed volumes less and plus the error of the conversion, whatever that error
is.  If it is smaller than the lower threshold, the endpoint reports pressure
to buy only if more is bid than asked and pressure to sell only if more is
asked than bid.
-/
theorem imbalance_reports
    (D : Type) [Decimal D] [Exact D] {toF64 : D → Option ℚ} {error : ℚ}
    (converts : Converts toF64 error)
    {calls : List (Call D)} (nonnegative : NonnegativeCalls calls)
    (symbol : String) (params : DepthParams) :
    let book := OrderBook.afterCalls calls
    let n := params.served
    let text := (imbalance toF64 symbol book params).interpretation
    (text = "insufficient data" ↔
      n = 0 ∨ book.bids.entries = [] ∧ book.asks.entries = []) ∧
      (text ≠ "insufficient data" → ∃ pressure : Pressure,
        text = pressure.text ∧
          (Pressure.of (listedBalance book n - error)).rank ≤ pressure.rank ∧
          pressure.rank ≤ (Pressure.of (listedBalance book n + error)).rank) ∧
      (error < mildThreshold →
        ∀ pressure : Pressure, text = pressure.text →
          (0 < pressure.rank → askVolume book n < bidVolume book n) ∧
            (pressure.rank < 0 → bidVolume book n < askVolume book n)) := by
  intro book n text
  have positive : book.Positive := positive_afterCalls nonnegative
  have volume := positive.volume_ne_zero_iff n
  have nothing : bidVolume book n + askVolume book n = 0 ↔
      n = 0 ∨ book.bids.entries = [] ∧ book.asks.entries = [] := by
    rw [← not_iff_not, ← Ne, volume]
    simp only [not_or, not_and_or, Nat.one_le_iff_ne_zero]
  by_cases none : bidVolume book n + askVolume book n = 0
  · have insufficient : text = "insufficient data" :=
      interpret_of_no_volume none
    refine ⟨iff_of_true insufficient (nothing.mp none), ?_, ?_⟩
    · intro reported
      exact absurd insufficient reported
    · intro _ pressure same
      exact absurd (same.symm.trans insufficient) pressure.text_ne_insufficient
  · have listed : n ≠ 0 := fun zero => none (nothing.mpr (.inl zero))
    rcases interpret_of_volume converts positive listed none with
      ⟨float, close, reported⟩
    have said : text = (Pressure.of float).text := reported
    have range := positive.imbalanceOf_balance listed none
    rcases abs_le.mp close with ⟨above, below⟩
    refine ⟨iff_of_false ?_ fun absent => none (nothing.mpr absent), ?_, ?_⟩
    · rw [said]
      exact Pressure.text_ne_insufficient _
    · intro _
      refine ⟨_, said, Pressure.rank_of_le ?_, Pressure.rank_of_le ?_⟩
      · linarith
      · linarith
    · intro small pressure same
      rw [← Pressure.text_injective (said.symm.trans same)]
      constructor
      · intro buys
        rw [Pressure.rank_pos_iff] at buys
        apply range.pos_iff.mp
        have more : 0 < listedBalance book n := by linarith
        exact more
      · intro sells
        rw [Pressure.rank_neg_iff] at sells
        have less : listedBalance book n < 0 := by linarith
        exact bidVolume_lt_askVolume positive less

/-! ### A book with three to buy and one to sell -/

/-- Two levels a side are in balance by a half: strong buy pressure. -/
theorem imbalance_reports_sample :
    Converts (some : ℚ → Option ℚ) 0 ∧ (0 : ℚ) < mildThreshold ∧
      NonnegativeCalls buyPressure ∧
      (imbalance some "BTCUSDT" (OrderBook.afterCalls buyPressure)
          ⟨2⟩).interpretation = "strong buy pressure" ∧
      askVolume (OrderBook.afterCalls buyPressure) 2 <
        bidVolume (OrderBook.afterCalls buyPressure) 2 := by
  have converts : Converts (some : ℚ → Option ℚ) 0 := by
    intro number _
    refine ⟨number, rfl, ?_⟩
    rw [value_rat, sub_self, abs_zero]
  have strong :
      (imbalance some "BTCUSDT" (OrderBook.afterCalls buyPressure)
          ⟨2⟩).interpretation = "strong buy pressure" := by
    decide +kernel
  exact ⟨converts, Pressure.mild_pos, nonnegativeCalls_buyPressure, strong,
    ((imbalance_reports ℚ converts nonnegativeCalls_buyPressure "BTCUSDT"
      ⟨2⟩).2.2 Pressure.mild_pos .strongBuy strong).1 (by decide)⟩

end CryptoOrderbook.Routes
