import CryptoOrderbook.Api.BookHandlers
import CryptoOrderbook.Orderbook.LiveDiffs
import CryptoOrderbook.Orderbook.Market
import CryptoOrderbook.Orderbook.MicroPrice

/-!
# Quotes are never crossed

If the exchange is faithful, the books at the ids of what it sends are
uncrossed and its frames end below the id 2⁶⁴ − 1, then every book the
endpoints can read is uncrossed, in any phase and after any number of cycles,
and so is every book a push message has been made of.

The order of the quotes needs no law of arithmetic.  The spread and the
micro-price are computed, and rounding can put the micro-price on the bid or
on the ask; with exact decimals it is strictly between them.
-/

namespace CryptoOrderbook.Routes

open CryptoOrderbook.Library
open CryptoOrderbook.Book
open CryptoOrderbook.Decimal
open CryptoOrderbook.Manager (Env FromMarket IdsBelowMax Label Nonzero Side
  State Uncrossed booksAfterLiveDiffs manager quantityAt shownBest sideOf
  topOf)

variable {D : Type} [Decimal D]

/-! ## Quotes of an uncrossed book -/

/-- The levels the endpoints quote of a book are those of a market. -/
structure QuotesMarket (book : OrderBook D) : Prop where
  sides : ∀ params other : DepthParams, ∀ bid ∈ bids book params,
    ∀ ask ∈ asks book other, value bid.price < value ask.price
  quantities : ∀ params : DepthParams,
    ∀ level ∈ bids book params ++ asks book params, 0 < value level.quantity
  touch : ∀ symbol bid ask,
    (best symbol book).bestBid = some bid →
      (best symbol book).bestAsk = some ask →
        value bid.price < value ask.price ∧
          0 < value bid.quantity ∧ 0 < value ask.quantity

/-- The spread is positive and the micro-price is strictly inside it. -/
def QuotesInside (book : OrderBook D) : Prop :=
  ∀ symbol bid ask,
    (best symbol book).bestBid = some bid →
      (best symbol book).bestAsk = some ask →
        ∃ difference micro,
          spread book = some difference ∧ midprice book = some micro ∧
            0 < value difference ∧
            value bid.price < value micro ∧ value micro < value ask.price

section Quotes

variable {book : OrderBook D}

theorem positive_of_uncrossed
    (nonzero : Nonzero book) (uncrossed : Uncrossed (quantityAt book)) :
    book.Positive := by
  have positive : ∀ side, PositiveLevels (sideOf book side) := by
    rintro side ⟨price, quantity⟩ stored
    have least := uncrossed.nonnegative (side, value price)
    rw [Manager.quantityAt_of_stored stored] at least
    exact lt_of_le_of_ne least
      (nonzero (side, value price) quantity
        ((sideOf book side).get?_eq_some_iff.mpr
          ⟨price, stored, rfl⟩)).symm
  exact ⟨positive .bid, positive .ask⟩

theorem quotesMarket_of_uncrossed
    (nonzero : Nonzero book) (uncrossed : Uncrossed (quantityAt book)) :
    QuotesMarket book := by
  have positive := positive_of_uncrossed nonzero uncrossed
  have apart : ∀ {n m : Nat} {bid ask : PriceLevel D},
      bid ∈ topOf book .bid n → ask ∈ topOf book .ask m →
        value bid.price < value ask.price := by
    intro _ _ bid ask isBid isAsk
    exact uncrossed.below _ _
      (Manager.isLevel_of_mem_topOf nonzero isBid)
      (Manager.isLevel_of_mem_topOf nonzero isAsk)
  constructor
  · intro params other bid isBid ask isAsk
    rcases List.mem_map.mp isBid with ⟨bid, amongBids, rfl⟩
    rcases List.mem_map.mp isAsk with ⟨ask, amongAsks, rfl⟩
    exact apart amongBids amongAsks
  · intro params level member
    rcases List.mem_append.mp member with isBid | isAsk
    · rcases List.mem_map.mp isBid with ⟨bid, among, rfl⟩
      exact positive.topBids params.served bid among
    · rcases List.mem_map.mp isAsk with ⟨ask, among, rfl⟩
      exact positive.topAsks params.served ask among
  · intro symbol bid ask isBid isAsk
    rcases Option.map_eq_some_iff.mp isBid with ⟨bid, bestBid, rfl⟩
    rcases Option.map_eq_some_iff.mp isAsk with ⟨ask, bestAsk, rfl⟩
    have shownBid : shownBest book .bid = some bid := bestBid
    have shownAsk : shownBest book .ask = some ask := bestAsk
    refine ⟨?_, positive.bestBid bestBid, positive.bestAsk bestAsk⟩
    apply apart (n := 1) (m := 1)
    · rw [Manager.topOf_one_of_shownBest shownBid]
      exact List.mem_cons_self
    · rw [Manager.topOf_one_of_shownBest shownAsk]
      exact List.mem_cons_self

/-- Exact decimals keep the order of the touch. -/
theorem QuotesMarket.inside [Exact D]
    (quotes : QuotesMarket book) (positive : book.Positive) :
    QuotesInside book := by
  intro symbol bid ask isBid isAsk
  rcases quotes.touch symbol bid ask isBid isAsk with ⟨below, -, -⟩
  rcases Option.map_eq_some_iff.mp isBid with ⟨bid, bestBid, rfl⟩
  rcases Option.map_eq_some_iff.mp isAsk with ⟨ask, bestAsk, rfl⟩
  rcases positive.microPrice bestBid bestAsk with ⟨micro, defined, atPoint⟩
  have within :=
    (microPriceOf_microPoint (positive.bestBid bestBid)
      (positive.bestAsk bestAsk)).within below
  refine ⟨_, micro, OrderBook.spread_of_best bestBid bestAsk, defined, ?_,
    ?_, ?_⟩
  · rw [Exact.value_sub]
    exact sub_pos.mpr below
  · rw [atPoint]
    exact within.1
  · rw [atPoint]
    exact within.2

end Quotes

/-! ## Quotes of every run -/

theorem quotes_of_run
    {env : Env} {log : ChangeLog Manager.PriceKey ℚ} {labels : List Label}
    {state : State D} (run : (manager D env).Run labels state)
    (bounded : IdsBelowMax D env labels)
    (market : FromMarket D env log labels) :
    QuotesMarket state.world.book ∧
      (Exact D → QuotesInside state.world.book) := by
  have nonzero := Manager.nonzero_of_run run
  have uncrossed := Manager.uncrossed_of_run run bounded market
  have quotes := quotesMarket_of_uncrossed nonzero uncrossed
  exact ⟨quotes, fun _ =>
    quotes.inside (positive_of_uncrossed nonzero uncrossed)⟩

/--
If what the exchange sends in a run is faithful to its books, those are
uncrossed and all frames end below the id 2⁶⁴ − 1, the endpoints quote a
market in every state of the run: each bid below each ask and each quantity
positive.  With exact decimals the spread is positive and the micro-price
strictly inside it.  The same goes for every book a push message has been
made of.
-/
theorem never_crossed
    (D : Type) [Decimal D] (env : Env)
    (log : ChangeLog Manager.PriceKey ℚ)
    {labels : List Label} {state : State D}
    (run : (manager D env).Run labels state)
    (bounded : IdsBelowMax D env labels)
    (market : FromMarket D env log labels) :
    ∀ book ∈ state.world.book :: booksAfterLiveDiffs state.world.journal,
      QuotesMarket book ∧ (Exact D → QuotesInside book) := by
  intro book member
  rcases List.mem_cons.mp member with rfl | pushed
  · exact quotes_of_run run bounded market
  · rcases Manager.run_of_mem_booksAfterLiveDiffs run pushed with
      ⟨earlier, before, isPrefix, runBefore, rfl⟩
    exact
      quotes_of_run runBefore (bounded.earlier isPrefix)
        (market.earlier isPrefix)

/-! ### The touch after the bridging event -/

section Sample

open CryptoOrderbook.Manager

theorem version_sampleLog_nonneg (version : Nat) (key : PriceKey) :
    0 ≤ sampleLog.version version key := by
  induction version with
  | zero => exact le_rfl
  | succ count induction =>
      rw [ChangeLog.version, Function.update_apply]
      split_ifs
      · simp only [sampleLog]
        split_ifs <;> norm_num
      · exact induction

theorem uncrossed_sampleLog (version : Nat) :
    Uncrossed (sampleLog.version version) := by
  have levels : ∀ key, sampleLog.version version key ≠ 0 →
      key ∈ sampleCovered := by
    intro key isLevel
    by_contra elsewhere
    exact isLevel (version_sampleLog_elsewhere version elsewhere)
  constructor
  · exact version_sampleLog_nonneg version
  · intro bid ask isBid isAsk
    have bidPrice : bid = 29500 := by
      simpa [sampleCovered] using levels _ isBid
    have askPrice : ask = 29502 := by
      simpa [sampleCovered] using levels _ isAsk
    rw [bidPrice, askPrice]
    norm_num

theorem sampleLabels_market :
    FromMarket ℚ sampleEnv sampleLog sampleLabels where
  frame raw update isLabel accepted :=
    ⟨sampleLabels_faithful raw update isLabel accepted,
      uncrossed_sampleLog _⟩
  snapshot now received snapshot isLabel fetched := by
    have isFirst : now = 1 ∧ received =
        .ok ⟨101, [("29500", "1")], [("29502", "2")]⟩ := by
      simpa [sampleLabels] using isLabel
    have isSample : fetchSnapshot received = .ok sampleSnapshot := by
      rw [isFirst.2]
      decide +kernel
    rw [isSample, Except.ok.injEq] at fetched
    exact
      ⟨⟨sampleCovered, fetched ▸ sampleSnapshot_faithful⟩,
        uncrossed_sampleLog _⟩

/-- The state after the event that bridges the snapshot. -/
def bridgedState : State ℚ :=
  ((manager ℚ sampleEnv).exec (manager ℚ sampleEnv).init
    (sampleLabels.take 3)).get (by decide +kernel)

/-- The micro-price is strictly between the bid and the ask. -/
theorem never_crossed_sample :
    ∃ micro, midprice bridgedState.world.book = some micro ∧
      (29500 : ℚ) < micro ∧ micro < 29502 := by
  have run : (manager ℚ sampleEnv).Run (sampleLabels.take 3) bridgedState :=
    .of_enabled (by decide +kernel)
  have quotes :=
    never_crossed ℚ sampleEnv sampleLog run (by decide +kernel)
      (sampleLabels_market.earlier (List.take_prefix _ _)) _
        List.mem_cons_self
  rcases
      quotes.2 inferInstance "BTCUSDT" ⟨29500, 3 / 2⟩ ⟨29502, 2⟩
        (by decide +kernel) (by decide +kernel) with
    ⟨spread, micro, -, defined, -, above, below⟩
  exact ⟨micro, defined, above, below⟩

end Sample

end CryptoOrderbook.Routes
