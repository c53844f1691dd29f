import CryptoOrderbook.Api.Routes
import CryptoOrderbook.Orderbook.LastWriter
import CryptoOrderbook.Orderbook.TopOfBook

/-!
# The book endpoints

The handlers of `src/api/routes.rs` that answer with levels of the book or
numbers computed from them.

A snapshot that is served can be loaded: its levels, applied to an empty
book as one update, give a book from which the same endpoints answer the
same, as far down as the snapshot reaches.
-/

namespace CryptoOrderbook.Routes

open CryptoOrderbook.Library
open CryptoOrderbook.Book

variable {D : Type} [Decimal D]

/-! ## Handlers -/

/-- A level as the endpoints show it. -/
structure PriceLevelResponse (D : Type) where
  price : D
  quantity : D
deriving DecidableEq, Repr

def levelToResponse (level : PriceLevel D) : PriceLevelResponse D :=
  ⟨level.price, level.quantity⟩

/-- The body of `GET /book/best`. -/
structure BestResponse (D : Type) where
  symbol : String
  bestBid : Option (PriceLevelResponse D)
  bestAsk : Option (PriceLevelResponse D)
  spread : Option D
  microPrice : Option D
  lastUpdateId : UInt64
deriving DecidableEq, Repr

/-- The body of `GET /book/snapshot`. -/
structure SnapshotResponse (D : Type) where
  symbol : String
  lastUpdateId : UInt64
  bids : List (PriceLevelResponse D)
  asks : List (PriceLevelResponse D)
deriving DecidableEq, Repr

def defaultDepth : Nat := 20

/-- The query of the endpoints that list levels. -/
structure DepthParams where
  depth : Nat := defaultDepth
deriving DecidableEq, Repr

/-- The number of levels a query gets of each side. -/
def DepthParams.served (params : DepthParams) : Nat :=
  min params.depth 100

/-- `GET /book/best`. -/
def best (symbol : String) (book : OrderBook D) : BestResponse D where
  symbol := symbol
  bestBid := book.bestBid.map levelToResponse
  bestAsk := book.bestAsk.map levelToResponse
  spread := book.spread
  microPrice := book.microPrice
  lastUpdateId := book.lastUpdateId

/-- `GET /book/bids`. -/
def bids (book : OrderBook D) (params : DepthParams) :
    List (PriceLevelResponse D) :=
  (book.topBids params.served).map levelToResponse

/-- `GET /book/asks`. -/
def asks (book : OrderBook D) (params : DepthParams) :
    List (PriceLevelResponse D) :=
  (book.topAsks params.served).map levelToResponse

/-- `GET /book/snapshot`. -/
def snapshot (symbol : String) (book : OrderBook D) (params : DepthParams) :
    SnapshotResponse D where
  symbol := symbol
  lastUpdateId := book.lastUpdateId
  bids := bids book params
  asks := asks book params

/-- `GET /book/spread`. -/
def spread (book : OrderBook D) : Option D :=
  book.spread

/-- `GET /book/midprice`. -/
def midprice (book : OrderBook D) : Option D :=
  book.microPrice

/-! ## Stored quantities -/

/-- No level of a side has quantity zero. -/
def NonzeroLevels (levels : Levels D) : Prop :=
  ∀ entry ∈ levels.entries, Decimal.isZero entry.2 = false

/-- Entries leave no level with quantity zero. -/
theorem nonzeroLevels_applyLevels
    (entries : List (Binance.PriceLevel D)) :
    NonzeroLevels (applyLevels RankedMap.empty entries) := by
  rintro ⟨key, quantity⟩ member
  exact
    ((lastWriterWins_applyLevels entries (Decimal.value key) quantity).mp
      ⟨key, member, rfl⟩).2

theorem nonzeroLevels_afterCalls (calls : List (Call D)) :
    NonzeroLevels (OrderBook.afterCalls calls).bids ∧
      NonzeroLevels (OrderBook.afterCalls calls).asks := by
  rcases OrderBook.afterCalls_levels calls with ⟨bids, asks⟩
  rw [bids, asks]
  exact ⟨nonzeroLevels_applyLevels _, nonzeroLevels_applyLevels _⟩

/-! ## Loading what was served -/

/-- A level of a response as an entry of an update. -/
def PriceLevelResponse.asEntry (level : PriceLevelResponse D) :
    Binance.PriceLevel D :=
  ⟨level.price, level.quantity⟩

/-- A served snapshot as a single update that sets all levels. -/
def SnapshotResponse.asUpdate (response : SnapshotResponse D) :
    Binance.DepthUpdate D :=
  ⟨response.lastUpdateId, response.lastUpdateId,
    response.bids.map PriceLevelResponse.asEntry,
    response.asks.map PriceLevelResponse.asEntry⟩

/-- The book loaded from a served snapshot. -/
def SnapshotResponse.load (response : SnapshotResponse D) : OrderBook D :=
  OrderBook.new.apply response.asUpdate

/-- Levels listed in any order are stored in order. -/
theorem entries_applyLevels_listed
    {kept listed : List (D × D)}
    (sorted : RankSorted Decimal.value kept) (permuted : listed.Perm kept)
    (nonzero : ∀ entry ∈ kept, Decimal.isZero entry.2 = false) :
    (applyLevels RankedMap.empty
      (((listed.map fun (price, quantity) =>
          (⟨price, quantity⟩ : PriceLevel D)).map levelToResponse).map
        PriceLevelResponse.asEntry)).entries = kept := by
  have writes :
      (((listed.map fun (price, quantity) =>
          (⟨price, quantity⟩ : PriceLevel D)).map levelToResponse).map
        PriceLevelResponse.asEntry).map toWrite =
        listed.map fun entry => .insert entry.1 entry.2 := by
    rw [List.map_map, List.map_map, List.map_map]
    apply List.map_congr_left
    intro entry member
    have stays := nonzero entry (permuted.subset member)
    exact if_neg (by simp [Binance.PriceLevel.isRemoval, levelToResponse,
      PriceLevelResponse.asEntry, stays])
  rw [applyLevels_eq_writeAll, writes]
  exact RankedMap.entries_writeAll_inserts sorted permuted

/-- The asks that are loaded are the lowest ones. -/
theorem load_asks
    {book : OrderBook D} (nonzero : NonzeroLevels book.asks)
    (symbol : String) (params : DepthParams) :
    (snapshot symbol book params).load.asks.entries =
      book.asks.entries.take params.served :=
  entries_applyLevels_listed
    (book.asks.sorted.sublist (List.take_sublist _ _)) (List.Perm.refl _)
    fun entry member => nonzero entry (List.mem_of_mem_take member)

/-- The bids that are loaded are the highest ones. -/
theorem load_bids
    {book : OrderBook D} (nonzero : NonzeroLevels book.bids)
    (symbol : String) (params : DepthParams) :
    (snapshot symbol book params).load.bids.entries =
      (book.bids.entries.reverse.take params.served).reverse := by
  have listed : ((book.bids.entries.reverse.take params.served).reverse).Sublist
      book.bids.entries := by
    have reversed := List.take_sublist params.served book.bids.entries.reverse
    simpa using reversed.reverse
  exact
    entries_applyLevels_listed (book.bids.sorted.sublist listed)
      (List.reverse_perm _).symm
      fun entry member => nonzero entry (listed.subset member)

section Loaded

variable {book : OrderBook D} {symbol : String} {params : DepthParams}
  {count : Nat}

theorem load_topAsks
    (nonzero : NonzeroLevels book.asks) (covered : count ≤ params.served) :
    (snapshot symbol book params).load.topAsks count =
      book.topAsks count := by
  rw [OrderBook.topAsks, load_asks nonzero, List.take_take,
    min_eq_left covered]
  rfl

theorem load_topBids
    (nonzero : NonzeroLevels book.bids) (covered : count ≤ params.served) :
    (snapshot symbol book params).load.topBids count =
      book.topBids count := by
  rw [OrderBook.topBids, load_bids nonzero, List.reverse_reverse,
    List.take_take, min_eq_left covered]
  rfl

/-- A snapshot with at least one level a side answers for the touch. -/
theorem load_best
    (nonzero : NonzeroLevels book.bids ∧ NonzeroLevels book.asks)
    (asked : 0 < params.served) (other : String) :
    best other (snapshot symbol book params).load = best other book := by
  have bid : (snapshot symbol book params).load.bestBid = book.bestBid := by
    rw [OrderBook.bestBid_eq_head? _ asked, OrderBook.bestBid_eq_head? _ asked,
      load_topBids nonzero.1 (le_refl _)]
  have ask : (snapshot symbol book params).load.bestAsk = book.bestAsk := by
    rw [OrderBook.bestAsk_eq_head? _ asked, OrderBook.bestAsk_eq_head? _ asked,
      load_topAsks nonzero.2 (le_refl _)]
  have id : (snapshot symbol book params).load.lastUpdateId =
      book.lastUpdateId :=
    rfl
  simp only [best, OrderBook.spread, OrderBook.microPrice, bid, ask, id]

/-- A snapshot that reaches to the end of both sides is the whole book. -/
theorem load_eq_of_deep
    (nonzero : NonzeroLevels book.bids ∧ NonzeroLevels book.asks)
    (bidsCovered : book.bidDepth ≤ params.served)
    (asksCovered : book.askDepth ≤ params.served) :
    (snapshot symbol book params).load = book := by
  apply OrderBook.ext
  · apply RankedMap.ext
    rw [load_bids nonzero.1, List.take_of_length_le, List.reverse_reverse]
    rw [List.length_reverse]
    exact bidsCovered
  · apply RankedMap.ext
    rw [load_asks nonzero.2, List.take_of_length_le asksCovered]
  · rfl

end Loaded

/--
After every history of calls a served snapshot can be loaded into an empty
book.  The loaded book answers every query of at most the depth served as
the original does, the snapshot's own query included; with at least one
level a side also the query for the best levels and what is computed from
them; it is as synced as the original, and it is the original if neither
side is deeper than the depth served.
-/
theorem snapshot_loads
    (calls : List (Call D)) (symbol : String) (params : DepthParams) :
    let book := OrderBook.afterCalls calls
    let copy := (snapshot symbol book params).load
    (∀ count ≤ params.served,
      copy.topBids count = book.topBids count ∧
        copy.topAsks count = book.topAsks count ∧
        copy.depthImbalance count = book.depthImbalance count) ∧
      (∀ fewer : DepthParams, fewer.served ≤ params.served →
        snapshot symbol copy fewer = snapshot symbol book fewer) ∧
      (0 < params.depth → best symbol copy = best symbol book) ∧
      (health copy).1 = (health book).1 ∧
      (book.bidDepth ≤ params.served → book.askDepth ≤ params.served →
        copy = book) := by
  intro book copy
  have nonzero := nonzeroLevels_afterCalls calls
  have levels : ∀ count ≤ params.served,
      copy.topBids count = book.topBids count ∧
        copy.topAsks count = book.topAsks count :=
    fun count covered =>
      ⟨load_topBids nonzero.1 covered, load_topAsks nonzero.2 covered⟩
  refine ⟨?_, ?_, ?_, rfl, load_eq_of_deep nonzero⟩
  · intro count covered
    rcases levels count covered with ⟨sameBids, sameAsks⟩
    refine ⟨sameBids, sameAsks, ?_⟩
    rw [OrderBook.depthImbalance, sameBids, sameAsks]
    rfl
  · intro fewer covered
    rcases levels fewer.served covered with ⟨sameBids, sameAsks⟩
    have sameId : copy.lastUpdateId = book.lastUpdateId := rfl
    simp only [snapshot, bids, asks, sameBids, sameAsks, sameId]
  · intro asked
    exact load_best nonzero (lt_min asked (by decide)) symbol

/-- A snapshot of one level a side, from books that differ further down. -/
example :
    (snapshot "BTCUSDT"
        (OrderBook.afterCalls (D := ℚ)
          [.apply ⟨1, 7, [⟨1, 2⟩, ⟨2, 3⟩], [⟨4, 1⟩, ⟨3, 5⟩]⟩])
        ⟨1⟩).load =
      OrderBook.afterCalls [.apply ⟨7, 7, [⟨2, 3⟩], [⟨3, 5⟩]⟩] := by
  decide +kernel

end CryptoOrderbook.Routes
