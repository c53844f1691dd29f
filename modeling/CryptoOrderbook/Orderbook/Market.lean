import CryptoOrderbook.Orderbook.LastWriter
import CryptoOrderbook.Orderbook.Replica
import CryptoOrderbook.Orderbook.TopOfBook

/-!
# The book as a part of the market

The exchange matches what can be matched: in the books it reports every bid
is below every ask.  The shared book shows the exchange's book of its own id
on the prices it knows and nothing elsewhere, so it is a part of that book.
A part of an uncrossed book is uncrossed; and it can miss the best price of
the whole, but never beat it.
-/

namespace CryptoOrderbook.Manager

open CryptoOrderbook.Library
open CryptoOrderbook.Binance
open CryptoOrderbook.Book
open CryptoOrderbook.Decimal

variable {D : Type} [Decimal D]

/-! ## Parts of a two-sided book -/

/-- No quantity is negative, and every bid is below every ask. -/
structure Uncrossed (quantity : PriceKey → ℚ) : Prop where
  nonnegative : ∀ key, 0 ≤ quantity key
  below : ∀ bid ask, quantity (.bid, bid) ≠ 0 →
    quantity (.ask, ask) ≠ 0 → bid < ask

/-- Every level of the part is a level of the whole, quantity included. -/
def PartOf (part whole : PriceKey → ℚ) : Prop :=
  ∀ key, part key ≠ 0 → part key = whole key

/-- One price is better than another: higher to buy, lower to sell. -/
def Better : Side → ℚ → ℚ → Prop
  | .bid, price, other => other < price
  | .ask, price, other => price < other

/-- A level of one side that no other level of the side is better than. -/
structure BestPrice (quantity : PriceKey → ℚ) (side : Side) (price : ℚ) :
    Prop where
  isLevel : quantity (side, price) ≠ 0
  unbeaten : ∀ other, quantity (side, other) ≠ 0 → ¬ Better side other price

theorem Better.asymm {side : Side} {price other : ℚ}
    (better : Better side price other) :
    ¬ Better side other price := by
  cases side with
  | bid => exact lt_asymm (α := ℚ) better
  | ask => exact lt_asymm (α := ℚ) better

theorem eq_of_not_better {side : Side} {price other : ℚ}
    (notBetter : ¬ Better side price other)
    (notWorse : ¬ Better side other price) :
    price = other := by
  cases side with
  | bid => exact le_antisymm (not_lt.mp notBetter) (not_lt.mp notWorse)
  | ask => exact le_antisymm (not_lt.mp notWorse) (not_lt.mp notBetter)

section Parts

variable {part whole : PriceKey → ℚ}

theorem PartOf.ne_zero
    (isPart : PartOf part whole) {key : PriceKey} (level : part key ≠ 0) :
    whole key ≠ 0 := by
  rw [← isPart key level]
  exact level

theorem Uncrossed.of_part
    (uncrossed : Uncrossed whole) (isPart : PartOf part whole) :
    Uncrossed part where
  nonnegative key := by
    by_cases level : part key = 0
    · exact level.ge
    · rw [isPart key level]
      exact uncrossed.nonnegative key
  below bid ask isBid isAsk :=
    uncrossed.below bid ask (isPart.ne_zero isBid) (isPart.ne_zero isAsk)

/-- A part never beats the best price of the whole. -/
theorem PartOf.not_better
    (isPart : PartOf part whole) {side : Side} {shown best : ℚ}
    (isShown : BestPrice part side shown) (isBest : BestPrice whole side best) :
    ¬ Better side shown best :=
  isBest.unbeaten shown (isPart.ne_zero isShown.isLevel)

/-- A part with a level at the best price of the whole has the same best. -/
theorem PartOf.best_eq
    (isPart : PartOf part whole) {side : Side} {shown best : ℚ}
    (isShown : BestPrice part side shown) (isBest : BestPrice whole side best)
    (has : part (side, best) ≠ 0) :
    shown = best :=
  eq_of_not_better (isPart.not_better isShown isBest)
    (isShown.unbeaten best has)

end Parts

/-! ## The levels of the local book -/

/-- No stored quantity is zero. -/
def Nonzero (book : OrderBook D) : Prop :=
  ∀ (key : PriceKey) (quantity : D),
    (sideOf book key.1).get? key.2 = some quantity → value quantity ≠ 0

theorem get?_new (key : PriceKey) :
    (sideOf (OrderBook.new : OrderBook D) key.1).get? key.2 = none := by
  rcases key with ⟨side, price⟩
  cases side <;> rfl

theorem nonzero_new : Nonzero (OrderBook.new : OrderBook D) := by
  intro key quantity stored
  rw [get?_new] at stored
  cases stored

/-- An update removes what it sets to zero. -/
theorem Nonzero.apply
    {book : OrderBook D} (nonzero : Nonzero book) (update : DepthUpdate D) :
    Nonzero (book.apply update) := by
  intro key quantity stored
  rw [sideOf_apply, get?_applyLevels] at stored
  cases listed : lastEntry key.2 (entriesOf update key.1) with
  | none =>
      rw [listed] at stored
      exact nonzero key quantity stored
  | some newest =>
      rw [listed] at stored
      by_cases zero : isZero newest = true
      · simp [zero] at stored
      · have same : newest = quantity := by simpa [zero] using stored
        rw [← same]
        exact fun none => zero ((isZero_iff newest).mpr none)

theorem nonzero_of_run
    {env : Env} {labels : List Label} {state : State D}
    (run : (manager D env).Run labels state) :
    Nonzero state.world.book := by
  induction run with
  | start => exact nonzero_new
  | snoc _ step nonzero =>
      cases step_iff.mp step with
      | install => exact nonzero_new.apply _
      | bridge => exact nonzero.apply _
      | follow =>
          rw [applyLive_book]
          exact nonzero.apply _
      | _ =>
          first
            | exact nonzero
            | exact nonzero_new

theorem quantityAt_of_absent
    {book : OrderBook D} {key : PriceKey} (absent : Absent book key) :
    quantityAt book key = 0 := by
  rw [quantityAt, show _ = none from absent]

theorem quantityAt_new (key : PriceKey) :
    quantityAt (OrderBook.new : OrderBook D) key = 0 :=
  quantityAt_of_absent (get?_new key)

theorem quantityAt_of_stored
    {book : OrderBook D} {side : Side} {price quantity : D}
    (stored : (price, quantity) ∈ (sideOf book side).entries) :
    quantityAt book (side, value price) = value quantity := by
  have found : (sideOf book side).get? (value price) = some quantity :=
    (sideOf book side).get?_eq_some_iff.mpr ⟨price, stored, rfl⟩
  rw [quantityAt, found]

/-- A level of the book is stored under one of its prices. -/
theorem stored_of_quantityAt
    {book : OrderBook D} {side : Side} {price : ℚ}
    (level : quantityAt book (side, price) ≠ 0) :
    ∃ entry ∈ (sideOf book side).entries, value entry.1 = price := by
  cases found : (sideOf book side).get? price with
  | none =>
      have absent : Absent book (side, price) := found
      exact absurd (quantityAt_of_absent absent) level
  | some quantity =>
      rcases (sideOf book side).get?_eq_some_iff.mp found with
        ⟨key, stored, same⟩
      exact ⟨(key, quantity), stored, same⟩

/-! ## The best price shown -/

/-- The best levels of a side. -/
def topOf (book : OrderBook D) : Side → Nat → List (Book.PriceLevel D)
  | .bid => book.topBids
  | .ask => book.topAsks

/-- The best level of a side. -/
def shownBest (book : OrderBook D) : Side → Option (Book.PriceLevel D)
  | .bid => book.bestBid
  | .ask => book.bestAsk

theorem topOf_topLevels (book : OrderBook D) (side : Side) (n : Nat) :
    TopLevels (sideOf book side) (Better side) n (topOf book side n) := by
  cases side with
  | bid => exact book.topBids_topLevels n
  | ask => exact book.topAsks_topLevels n

theorem shownBest_eq_head? (book : OrderBook D) (side : Side) :
    shownBest book side = (topOf book side 1).head? := by
  cases side with
  | bid => exact book.bestBid_eq_head? Nat.one_pos
  | ask => exact book.bestAsk_eq_head? Nat.one_pos

theorem quantityAt_of_mem_topOf
    {book : OrderBook D} {side : Side} {n : Nat} {level : Book.PriceLevel D}
    (member : level ∈ topOf book side n) :
    quantityAt book (side, value level.price) = value level.quantity :=
  quantityAt_of_stored ((topOf_topLevels book side n).stored level member)

theorem isLevel_of_mem_topOf
    {book : OrderBook D} (nonzero : Nonzero book) {side : Side} {n : Nat}
    {level : Book.PriceLevel D} (member : level ∈ topOf book side n) :
    quantityAt book (side, value level.price) ≠ 0 := by
  have stored := (topOf_topLevels book side n).stored level member
  rw [quantityAt_of_stored stored]
  exact nonzero (side, value level.price) level.quantity
    ((sideOf book side).get?_eq_some_iff.mpr ⟨level.price, stored, rfl⟩)

theorem topOf_one_of_shownBest
    {book : OrderBook D} {side : Side} {level : Book.PriceLevel D}
    (shown : shownBest book side = some level) :
    topOf book side 1 = [level] := by
  rw [shownBest_eq_head?] at shown
  rcases List.head?_eq_some_iff.mp shown with ⟨rest, listed⟩
  have length := (topOf_topLevels book side 1).length
  rw [listed, List.length_cons] at length
  have none : rest = [] := by
    apply List.eq_nil_of_length_eq_zero
    omega
  rw [listed, none]

theorem quantityAt_of_shownBest
    {book : OrderBook D} {side : Side} {level : Book.PriceLevel D}
    (shown : shownBest book side = some level) :
    quantityAt book (side, value level.price) = value level.quantity := by
  apply quantityAt_of_mem_topOf (n := 1)
  rw [topOf_one_of_shownBest shown]
  exact List.mem_cons_self

/-- The level shown as the best is the best of those stored. -/
theorem bestPrice_of_shownBest
    {book : OrderBook D} (nonzero : Nonzero book) {side : Side}
    {level : Book.PriceLevel D} (shown : shownBest book side = some level) :
    BestPrice (quantityAt book) side (value level.price) := by
  have top := topOf_topLevels book side 1
  have only := topOf_one_of_shownBest shown
  rw [only] at top
  constructor
  · apply isLevel_of_mem_topOf nonzero (n := 1)
    rw [only]
    exact List.mem_cons_self
  · intro other isLevel better
    rcases stored_of_quantityAt isLevel with ⟨⟨price, quantity⟩, among, rfl⟩
    by_cases listed : (⟨price, quantity⟩ : Book.PriceLevel D) ∈ [level]
    · rw [← List.mem_singleton.mp listed] at better
      exact better.asymm better
    · exact better.asymm
        (top.worse price quantity among listed level List.mem_cons_self)

/-- A side with a level shows one. -/
theorem exists_shownBest
    {book : OrderBook D} {side : Side} {price : ℚ}
    (level : quantityAt book (side, price) ≠ 0) :
    ∃ best, shownBest book side = some best := by
  rcases stored_of_quantityAt level with ⟨entry, stored, -⟩
  rw [← Option.isSome_iff_exists, ← Option.ne_none_iff_isSome]
  intro nothing
  have empty : (sideOf book side).entries = [] := by
    cases side with
    | bid => exact book.bestBid_eq_none_iff.mp nothing
    | ask => exact book.bestAsk_eq_none_iff.mp nothing
  rw [empty] at stored
  cases stored

/-! ## What the manager shows of the exchange -/

/-- The book shows the exchange on known prices and nothing elsewhere. -/
structure Shows (log : ChangeLog PriceKey ℚ) (known : Set PriceKey)
    (book : OrderBook D) : Prop where
  mirrors : Mirrors log known book
  absent : ∀ key, key ∉ known → Absent book key

theorem Shows.partOf
    {log : ChangeLog PriceKey ℚ} {known : Set PriceKey} {book : OrderBook D}
    (shown : Shows log known book) :
    PartOf (quantityAt book) (log.version book.lastUpdateId.toNat) := by
  intro key level
  by_cases member : key ∈ known
  · exact shown.mirrors key member
  · exact absurd (quantityAt_of_absent (shown.absent key member)) level

/-- A snapshot of a run and the diffs since from which its book is built. -/
structure Built (env : Env) (labels : List Label) (state : State D)
    (snapshot : Snapshot D) (diffs : List (DepthUpdate D)) : Prop where
  written : writtenSince state.world.journal = ⟨some snapshot, diffs⟩
  fetched : ∃ now received, .response now received ∈ labels ∧
    fetchSnapshot received = .ok snapshot
  received : ∀ update ∈ diffs, ∃ raw,
    .recv (some (.message raw)) ∈ labels ∧ parsed D env raw = some update
  id : state.world.book.lastUpdateId = snapshot.lastUpdateId ∨
    ∃ update ∈ diffs, state.world.book.lastUpdateId = update.lastUpdateId
  shown : ∀ log covered, FaithfulSnapshot log covered snapshot →
    (∀ update ∈ diffs, FaithfulEvent log update) →
      Shows log (covered ∪ listedIn diffs) state.world.book

/-- The snapshot received last is one a request was answered with. -/
theorem fetched_of_receivedSince
    (env : Env) (labels : List Label) {snapshot : Snapshot D}
    (last : (receivedSince env labels).snapshot = some snapshot) :
    ∃ now received, .response now received ∈ labels ∧
      fetchSnapshot received = .ok snapshot := by
  induction labels using List.reverseRecOn with
  | nil => cases last
  | append_singleton labels label induction =>
      have older :
          (receivedSince env labels).snapshot = some snapshot →
            ∃ now received, .response now received ∈ labels ++ [label] ∧
              fetchSnapshot received = .ok snapshot := by
        intro earlier
        rcases induction earlier with ⟨now, received, isLabel, fetched⟩
        exact ⟨now, received, List.mem_append_left _ isLabel, fetched⟩
      rw [receivedSince_snoc] at last
      rcases label with now | ⟨now, received⟩ | _ | raw | _
      · exact older last
      · rw [Cycle.receive] at last
        split at last
        next newest fetched =>
          rw [Option.some.inj last] at fetched
          exact ⟨now, received, by simp, fetched⟩
        next => exact older last
      · exact older last
      · rw [Cycle.receive] at last
        split at last
        next => exact older last
        next => exact older last
      · exact older last

/-- The book of the handshake and of live mode is built in the run. -/
theorem exists_built
    {env : Env} {labels : List Label} {state : State D}
    (run : (manager D env).Run labels state)
    (bounded : IdsBelowMax D env labels)
    (phase : (∃ id, state.phase = .handshake id) ∨
      ∃ id, state.phase = .live id) :
    ∃ snapshot diffs, Built env labels state snapshot diffs := by
  have represents := represents_of_run run bounded
  rcases state with ⟨world, breaker, current⟩
  rcases phase with ⟨id, rfl⟩ | ⟨id, rfl⟩
  · rcases represents with ⟨baseline, -, received, written, book⟩
    refine ⟨baseline.snapshot, [], written, ?_, nofun, ?_, ?_⟩
    · exact fetched_of_receivedSince env labels (by rw [received])
    · exact .inl (congrArg OrderBook.lastUpdateId book)
    · intro log covered faithful _
      rw [show world.book = _ from book]
      constructor
      · rintro key (member | ⟨update, none, -⟩)
        · exact Baseline.mirrors faithful key member
        · cases none
      · intro key unknown
        exact Baseline.absent faithful fun member => unknown (.inl member)
  · rcases represents with ⟨following, -, -, received, written, book⟩
    refine ⟨following.snapshot, following.diffs, written, ?_, ?_, ?_, ?_⟩
    · exact fetched_of_receivedSince env labels (by rw [received])
    · intro update member
      apply mem_receivedSince env labels
      rw [received]
      exact List.mem_append_right _ member
    · refine .inr ⟨following.newest, List.getLast_mem _, ?_⟩
      rw [show world.book = _ from book]
      exact following.book_lastUpdateId
    · intro log covered faithful diffs
      rw [show world.book = _ from book]
      constructor
      · exact Following.mirrors faithful diffs
      · intro key unknown
        exact
          absent_applyAll
            (Baseline.absent faithful fun member => unknown (.inl member))
            fun isListed => unknown (.inr isListed)

/-! ## Uncrossed books -/

/--
The snapshots and the frames of a run are faithful to the exchange, whose
books at their ids are uncrossed.
-/
structure FromMarket (D : Type) [Decimal D] (env : Env)
    (log : ChangeLog PriceKey ℚ) (labels : List Label) : Prop where
  frame : ∀ raw (update : DepthUpdate D),
    .recv (some (.message raw)) ∈ labels →
      parsed D env raw = some update →
        FaithfulEvent log update ∧
          Uncrossed (log.version update.lastUpdateId.toNat)
  snapshot : ∀ now received (snapshot : Snapshot D),
    .response now received ∈ labels →
      fetchSnapshot received = .ok snapshot →
        (∃ covered, FaithfulSnapshot log covered snapshot) ∧
          Uncrossed (log.version snapshot.lastUpdateId.toNat)

section Runs

variable {env : Env} {log : ChangeLog PriceKey ℚ} {labels : List Label}
  {state : State D}

theorem FromMarket.earlier
    {earlier : List Label} (market : FromMarket D env log labels)
    (before : earlier <+: labels) :
    FromMarket D env log earlier where
  frame raw update isLabel :=
    market.frame raw update (before.subset isLabel)
  snapshot now received snapshot isLabel :=
    market.snapshot now received snapshot (before.subset isLabel)

theorem IdsBelowMax.earlier
    {earlier : List Label} (bounded : IdsBelowMax D env labels)
    (before : earlier <+: labels) :
    IdsBelowMax D env earlier :=
  fun label member => bounded label (before.subset member)

/-- A book that is built from a market is uncrossed. -/
theorem uncrossed_of_built
    {snapshot : Snapshot D} {diffs : List (DepthUpdate D)}
    (market : FromMarket D env log labels)
    (built : Built env labels state snapshot diffs) :
    Uncrossed (quantityAt state.world.book) := by
  have diffsFrom : ∀ update ∈ diffs, FaithfulEvent log update ∧
      Uncrossed (log.version update.lastUpdateId.toNat) := by
    intro update member
    rcases built.received update member with ⟨raw, isLabel, accepted⟩
    exact market.frame raw update isLabel accepted
  rcases built.fetched with ⟨now, received, isLabel, fetched⟩
  rcases market.snapshot now received snapshot isLabel fetched with
    ⟨⟨covered, faithful⟩, atSnapshot⟩
  have shown := built.shown log covered faithful
    fun update member => (diffsFrom update member).1
  have whole : Uncrossed
      (log.version state.world.book.lastUpdateId.toNat) := by
    rcases built.id with same | ⟨update, member, same⟩
    · rw [same]
      exact atSnapshot
    · rw [same]
      exact (diffsFrom update member).2
  exact whole.of_part shown.partOf

theorem uncrossed_new :
    Uncrossed (quantityAt (OrderBook.new : OrderBook D)) := by
  constructor
  · intro key
    rw [quantityAt_new]
  · intro bid ask isBid
    exact absurd (quantityAt_new (D := D) _) isBid

/-- The manager returns from live mode and leaves the book as it is. -/
theorem book_of_returned
    (run : (manager D env).Run labels state)
    (returned : state.phase = .returned) :
    ∃ earlier before, (earlier <+: labels) ∧
      (manager D env).Run earlier before ∧
      (∃ id, before.phase = .live id) ∧
      before.world.book = state.world.book := by
  cases run with
  | start => cases returned
  | snoc run step =>
      cases step_iff.mp step with
      | liveClosed =>
          exact ⟨_, _, List.prefix_append _ _, run, ⟨_, rfl⟩, rfl⟩
      | _ => cases returned

theorem uncrossed_of_synced
    (run : (manager D env).Run labels state)
    (bounded : IdsBelowMax D env labels)
    (market : FromMarket D env log labels)
    (phase : (∃ id, state.phase = .handshake id) ∨
      ∃ id, state.phase = .live id) :
    Uncrossed (quantityAt state.world.book) := by
  rcases exists_built run bounded phase with ⟨_, _, built⟩
  exact uncrossed_of_built market built

/-- In every state of every run the shared book is uncrossed. -/
theorem uncrossed_of_run
    (run : (manager D env).Run labels state)
    (bounded : IdsBelowMax D env labels)
    (market : FromMarket D env log labels) :
    Uncrossed (quantityAt state.world.book) := by
  have represents := represents_of_run run bounded
  cases phase : state.phase with
  | fetching attempt wakeAt =>
      rw [Represents, phase] at represents
      rw [show state.world.book = _ from represents]
      exact uncrossed_new
  | requesting attempt =>
      rw [Represents, phase] at represents
      rw [show state.world.book = _ from represents]
      exact uncrossed_new
  | handshake id =>
      exact uncrossed_of_synced run bounded market (.inl ⟨id, phase⟩)
  | live id =>
      exact uncrossed_of_synced run bounded market (.inr ⟨id, phase⟩)
  | returned =>
      rcases book_of_returned run phase with
        ⟨earlier, before, isPrefix, runBefore, live, same⟩
      rw [← same]
      exact
        uncrossed_of_synced runBefore (bounded.earlier isPrefix)
          (market.earlier isPrefix) (.inr live)

end Runs

/-! ## The best price of the exchange -/

/--
As long as all frames end below the id 2⁶⁴ − 1, the book never shows a better
price in the handshake and in live mode than the best of the exchange's book
at the same id.  It shows that best price, with the exchange's quantity,
exactly when the last snapshot covers it or a diff applied since lists it.
-/
theorem best_price_shown_iff
    (env : Env) (log : ChangeLog PriceKey ℚ)
    {labels : List Label} {state : State D}
    (run : (manager D env).Run labels state)
    (bounded : IdsBelowMax D env labels)
    (events : ∀ raw (update : DepthUpdate D),
      .recv (some (.message raw)) ∈ labels →
        parsed D env raw = some update → FaithfulEvent log update)
    (phase : (∃ id, state.phase = .handshake id) ∨
      ∃ id, state.phase = .live id) :
    ∃ snapshot diffs,
      writtenSince state.world.journal = ⟨some snapshot, diffs⟩ ∧
      ∀ covered, FaithfulSnapshot log covered snapshot → ∀ side best,
        BestPrice (log.version state.world.book.lastUpdateId.toNat) side
          best →
        (∀ level, shownBest state.world.book side = some level →
          ¬ Better side (value level.price) best) ∧
        ((side, best) ∈ covered ∪ listedIn diffs ↔
          ∃ level, shownBest state.world.book side = some level ∧
            value level.price = best ∧
            value level.quantity =
              log.version state.world.book.lastUpdateId.toNat
                (side, best)) := by
  rcases exists_built run bounded phase with ⟨snapshot, diffs, built⟩
  refine ⟨snapshot, diffs, built.written, ?_⟩
  intro covered faithful side best isBest
  have faithfulDiffs : ∀ update ∈ diffs, FaithfulEvent log update := by
    intro update member
    rcases built.received update member with ⟨raw, isLabel, accepted⟩
    exact events raw update isLabel accepted
  have shown := built.shown log covered faithful faithfulDiffs
  have nonzero := nonzero_of_run run
  refine ⟨?_, ?_, ?_⟩
  · intro level isShown
    exact shown.partOf.not_better (bestPrice_of_shownBest nonzero isShown)
      isBest
  · intro known
    have same := shown.mirrors (side, best) known
    have has : quantityAt state.world.book (side, best) ≠ 0 := by
      rw [same]
      exact isBest.isLevel
    rcases exists_shownBest has with ⟨level, isShown⟩
    have atBest : value level.price = best :=
      shown.partOf.best_eq (bestPrice_of_shownBest nonzero isShown) isBest has
    refine ⟨level, isShown, atBest, ?_⟩
    rw [← same, ← atBest]
    exact (quantityAt_of_shownBest isShown).symm
  · rintro ⟨level, isShown, rfl, -⟩
    by_contra unknown
    exact (bestPrice_of_shownBest nonzero isShown).isLevel
      (quantityAt_of_absent (shown.absent _ unknown))

/-! ### The best bid of the short cycle -/

/-- The sample exchange has levels at two prices only. -/
theorem version_sampleLog_elsewhere (version : Nat) {key : PriceKey}
    (elsewhere : key ∉ sampleCovered) :
    sampleLog.version version key = 0 := by
  apply sampleLog.version_eq_of_not_touched (Nat.zero_le version)
  rintro ⟨index, -, -, same⟩
  apply elsewhere
  rw [← same]
  simp only [sampleLog]
  split_ifs <;> simp [sampleCovered]

theorem best_price_shown_iff_sample :
    ∃ level, shownBest sampleState.world.book .bid = some level ∧
      value level.price = 29500 ∧
      value level.quantity =
        sampleLog.version sampleState.world.book.lastUpdateId.toNat
          (.bid, 29500) := by
  have isBest : BestPrice
      (sampleLog.version sampleState.world.book.lastUpdateId.toNat) .bid
      29500 := by
    constructor
    · decide +kernel
    · intro other isLevel (better : 29500 < other)
      apply isLevel
      apply version_sampleLog_elsewhere
      simpa [sampleCovered] using better.ne'
  rcases
      best_price_shown_iff sampleEnv sampleLog sampleRun (by decide +kernel)
        (fun raw update => sampleLabels_faithful raw update)
        (.inr ⟨105, sampleState_live⟩) with
    ⟨snapshot, diffs, written, shown⟩
  have isSample : snapshot = sampleSnapshot := by
    have applied := sampleState_snapshot
    rw [written] at applied
    exact Option.some.inj applied
  subst isSample
  have best := shown sampleCovered sampleSnapshot_faithful .bid 29500 isBest
  exact best.2.mp (.inl (by simp [sampleCovered]))

end CryptoOrderbook.Manager
