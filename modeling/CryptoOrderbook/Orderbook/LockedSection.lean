import CryptoOrderbook.CheckedDecimal
import CryptoOrderbook.Orderbook.SyncCycle

/-!
# Panics under the write lock

The write-locked section of `run_live` applies the diff and then computes
the spread, twice, and the micro-price of the book.  `tryApplyLive` is that
section with operators that panic; where it completes it is `applyLive`.

The operands are the best levels of the book, whichever frames they came
from, and nothing bounds them.  Only the division is guarded.  The section
completes at every live diff of a run exactly when the touch it computes with
is in range each time.
-/

namespace CryptoOrderbook.Manager

open CryptoOrderbook.Library
open CryptoOrderbook.Binance
open CryptoOrderbook.Book
open CryptoOrderbook.Decimal
open CryptoOrderbook.Push

variable {D : Type} [Decimal D]

/-! ## The section with operators that panic -/

/-- `OrderBook::spread`. -/
def trySpread (book : OrderBook D) : Except Panic (Option D) :=
  match book.bestBid, book.bestAsk with
  | some bid, some ask => do
      let spread ← trySub ask.price bid.price
      return some spread
  | _, _ => return none

/-- `OrderBook::micro_price`. -/
def tryMicroPrice (tooLarge : D → D → Bool) (book : OrderBook D) :
    Except Panic (Option D) :=
  match book.bestBid, book.bestAsk with
  | some bid, some ask => do
      let totalQty ← tryAdd bid.quantity ask.quantity
      if isZero totalQty then
        return none
      else
        let bidPart ← tryMul ask.price bid.quantity
        let askPart ← tryMul bid.price ask.quantity
        let weighted ← tryAdd bidPart askPart
        let price ← tryDiv tooLarge weighted totalQty
        return some price
  | _, _ => return none

/-- The write-locked section of `run_live`, up to its first panic. -/
def tryApplyLive (env : Env) (tooLarge : D → D → Bool) (world : World D)
    (update : DepthUpdate D) : Except Panic (World D) := do
  let counted := (world.applyDiff update).countUpdate
  let _gauge ← trySpread counted.book
  let spread ← trySpread counted.book
  let microPrice ← tryMicroPrice tooLarge counted.book
  match serializePush env.toJson env.symbol
      counted.book.bestBid counted.book.bestAsk spread microPrice
      counted.book.lastUpdateId with
  | some payload => return counted.record (.published payload)
  | none => return counted

/-! ## When the section completes -/

/-- The weighted mean of a touch is computed without leaving the range. -/
structure WeightedInRange (tooLarge : D → D → Bool)
    (bid ask : Book.PriceLevel D) : Prop where
  bidPart : InRange (value ask.price * value bid.quantity)
  askPart : InRange (value bid.price * value ask.quantity)
  weighted :
    InRange
      (value (ask.price * bid.quantity) + value (bid.price * ask.quantity))
  quotient :
    tooLarge (ask.price * bid.quantity + bid.price * ask.quantity)
      (bid.quantity + ask.quantity) = false

/--
What the section computes from the touch is in range at every operator; the
weighted mean is computed only when the total quantity is not zero.
-/
structure TouchInRange (tooLarge : D → D → Bool)
    (bid ask : Book.PriceLevel D) : Prop where
  spread : InRange (value ask.price - value bid.price)
  totalQty : InRange (value bid.quantity + value ask.quantity)
  microPrice : isZero (bid.quantity + ask.quantity) = false →
    WeightedInRange tooLarge bid ask

/-- The book has a side without levels, or its touch is in range. -/
def BookInRange (tooLarge : D → D → Bool) (book : OrderBook D) : Prop :=
  ∀ bid ask, book.bestBid = some bid → book.bestAsk = some ask →
    TouchInRange tooLarge bid ask

theorem bookInRange_of_touch
    {tooLarge : D → D → Bool} {book : OrderBook D}
    {bid ask : Book.PriceLevel D}
    (bids : book.bestBid = some bid) (asks : book.bestAsk = some ask) :
    BookInRange tooLarge book ↔ TouchInRange tooLarge bid ask := by
  simp [BookInRange, bids, asks]

theorem trySpread_of_touch
    {book : OrderBook D} {bid ask : Book.PriceLevel D} {result : Option D}
    (bids : book.bestBid = some bid) (asks : book.bestAsk = some ask) :
    trySpread book = .ok result ↔
      InRange (value ask.price - value bid.price) ∧
        result = book.spread := by
  have spread : book.spread = some (ask.price - bid.price) := by
    simp [OrderBook.spread, bids, asks]
  rw [trySpread, bids, asks, spread]
  simp only [bind_eq_ok_iff, pure_eq_ok_iff, trySub, checked_eq_ok_iff]
  constructor
  · rintro ⟨middle, ⟨fits, rfl⟩, rfl⟩
    exact ⟨fits, rfl⟩
  · rintro ⟨fits, rfl⟩
    exact ⟨_, ⟨fits, rfl⟩, rfl⟩

/-- Without quantity at the touch only the total is computed. -/
theorem tryMicroPrice_of_zero
    {tooLarge : D → D → Bool} {book : OrderBook D}
    {bid ask : Book.PriceLevel D} {result : Option D}
    (bids : book.bestBid = some bid) (asks : book.bestAsk = some ask)
    (zero : isZero (bid.quantity + ask.quantity) = true) :
    tryMicroPrice tooLarge book = .ok result ↔
      InRange (value bid.quantity + value ask.quantity) ∧
        result = book.microPrice := by
  have microPrice : book.microPrice = none := by
    simp [OrderBook.microPrice, bids, asks, (isZero_iff _).mp zero]
  rw [tryMicroPrice, bids, asks, microPrice]
  simp only [bind_eq_ok_iff, tryAdd, checked_eq_ok_iff]
  constructor
  · rintro ⟨total, ⟨fits, rfl⟩, rest⟩
    rw [if_pos zero, pure_eq_ok_iff] at rest
    exact ⟨fits, rest⟩
  · rintro ⟨fits, rfl⟩
    refine ⟨_, ⟨fits, rfl⟩, ?_⟩
    rw [if_pos zero]
    rfl

/-- With quantity at the touch every operator has to stay in range. -/
theorem tryMicroPrice_of_nonzero
    {tooLarge : D → D → Bool} {book : OrderBook D}
    {bid ask : Book.PriceLevel D} {result : Option D}
    (bids : book.bestBid = some bid) (asks : book.bestAsk = some ask)
    (nonzero : isZero (bid.quantity + ask.quantity) = false) :
    tryMicroPrice tooLarge book = .ok result ↔
      InRange (value bid.quantity + value ask.quantity) ∧
        WeightedInRange tooLarge bid ask ∧ result = book.microPrice := by
  have microPrice : book.microPrice =
      some
        ((ask.price * bid.quantity + bid.price * ask.quantity) /
          (bid.quantity + ask.quantity)) := by
    have value_ne : ¬ value (bid.quantity + ask.quantity) = 0 := by
      rw [← isZero_iff, nonzero]
      exact Bool.false_ne_true
    simp [OrderBook.microPrice, bids, asks, value_ne]
  rw [tryMicroPrice, bids, asks, microPrice]
  simp only [bind_eq_ok_iff, tryAdd, tryMul, checked_eq_ok_iff]
  constructor
  · rintro ⟨total, ⟨fits, rfl⟩, rest⟩
    simp only [nonzero, Bool.false_eq_true, if_false, bind_eq_ok_iff,
      pure_eq_ok_iff, tryDiv_eq_ok_iff, checked_eq_ok_iff] at rest
    rcases rest with ⟨_, ⟨bidPart, rfl⟩, _, ⟨askPart, rfl⟩, _,
      ⟨weighted, rfl⟩, _, ⟨-, quotient, rfl⟩, rfl⟩
    exact ⟨fits, ⟨bidPart, askPart, weighted, quotient⟩, rfl⟩
  · rintro ⟨fits, ⟨bidPart, askPart, weighted, quotient⟩, rfl⟩
    refine ⟨_, ⟨fits, rfl⟩, ?_⟩
    simp only [nonzero, Bool.false_eq_true, if_false, bind_eq_ok_iff,
      pure_eq_ok_iff, tryDiv_eq_ok_iff, checked_eq_ok_iff]
    exact ⟨_, ⟨bidPart, rfl⟩, _, ⟨askPart, rfl⟩, _, ⟨weighted, rfl⟩, _,
      ⟨trivial, quotient, rfl⟩, rfl⟩

theorem tryMicroPrice_of_touch
    {tooLarge : D → D → Bool} {book : OrderBook D}
    {bid ask : Book.PriceLevel D} {result : Option D}
    (bids : book.bestBid = some bid) (asks : book.bestAsk = some ask) :
    tryMicroPrice tooLarge book = .ok result ↔
      InRange (value bid.quantity + value ask.quantity) ∧
        (isZero (bid.quantity + ask.quantity) = false →
          WeightedInRange tooLarge bid ask) ∧
          result = book.microPrice := by
  cases zero : isZero (bid.quantity + ask.quantity) with
  | true => simp [tryMicroPrice_of_zero bids asks zero]
  | false => simp [tryMicroPrice_of_nonzero bids asks zero]

/-- Without a touch there is nothing to compute. -/
theorem nothing_computed
    (tooLarge : D → D → Bool) {book : OrderBook D}
    (oneSided : book.bestBid = none ∨ book.bestAsk = none) :
    BookInRange tooLarge book ∧
      trySpread book = .ok book.spread ∧
        tryMicroPrice tooLarge book = .ok book.microPrice := by
  rcases oneSided with noBids | noAsks
  · refine ⟨?_, ?_, ?_⟩
    · simp [BookInRange, noBids]
    · rw [trySpread, OrderBook.spread, noBids]
      rfl
    · rw [tryMicroPrice, OrderBook.microPrice, noBids]
      rfl
  · refine ⟨?_, ?_, ?_⟩
    · simp [BookInRange, noAsks]
    · rw [trySpread, OrderBook.spread, noAsks]
      cases book.bestBid <;> rfl
    · rw [tryMicroPrice, OrderBook.microPrice, noAsks]
      cases book.bestBid <;> rfl

/-- The two computations of the section do not panic exactly in range. -/
theorem computations_iff
    {tooLarge : D → D → Bool} {book : OrderBook D}
    {spread microPrice : Option D} :
    trySpread book = .ok spread ∧
        tryMicroPrice tooLarge book = .ok microPrice ↔
      BookInRange tooLarge book ∧
        spread = book.spread ∧ microPrice = book.microPrice := by
  by_cases oneSided : book.bestBid = none ∨ book.bestAsk = none
  · rcases nothing_computed tooLarge oneSided with ⟨fits, spreads, prices⟩
    rw [spreads, prices, Except.ok.injEq, Except.ok.injEq,
      eq_comm (b := spread), eq_comm (b := microPrice)]
    exact (and_iff_right fits).symm
  · rcases not_or.mp oneSided with ⟨someBid, someAsk⟩
    rcases Option.ne_none_iff_exists'.mp someBid with ⟨bid, bids⟩
    rcases Option.ne_none_iff_exists'.mp someAsk with ⟨ask, asks⟩
    rw [trySpread_of_touch bids asks, tryMicroPrice_of_touch bids asks,
      bookInRange_of_touch bids asks]
    constructor
    · rintro ⟨⟨inSpread, spreads⟩, inTotal, inMean, prices⟩
      exact ⟨⟨inSpread, inTotal, inMean⟩, spreads, prices⟩
    · rintro ⟨fits, spreads, prices⟩
      exact
        ⟨⟨fits.spread, spreads⟩, fits.totalQty, fits.microPrice, prices⟩

/-- Sending a payload does not panic. -/
theorem send_eq_ok_iff
    {world next : World D} {payload : Option String} :
    (match payload with
      | some payload => pure (world.record (.published payload))
      | none => pure world : Except Panic (World D)) = .ok next ↔
      next =
        match payload with
        | some payload => world.record (.published payload)
        | none => world := by
  cases payload <;> exact pure_eq_ok_iff

/--
The section completes exactly when the touch after the diff is in range, and
then it has done what `applyLive` does.
-/
theorem tryApplyLive_eq_ok_iff
    {env : Env} {tooLarge : D → D → Bool} {world next : World D}
    {update : DepthUpdate D} :
    tryApplyLive env tooLarge world update = .ok next ↔
      BookInRange tooLarge (world.book.apply update) ∧
        next = world.applyLive env update := by
  simp only [tryApplyLive, bind_eq_ok_iff]
  constructor
  · rintro ⟨gauge, -, spread, spreads, microPrice, prices, sent⟩
    rcases computations_iff.mp ⟨spreads, prices⟩ with ⟨fits, rfl, rfl⟩
    exact ⟨fits, send_eq_ok_iff.mp sent⟩
  · rintro ⟨fits, rfl⟩
    rcases computations_iff.mpr ⟨fits, rfl, rfl⟩ with ⟨spreads, prices⟩
    exact ⟨_, spreads, _, spreads, _, prices, send_eq_ok_iff.mpr rfl⟩

/-! ## Throughout a run -/

/-- If the step runs the locked section, its book and diff have the property. -/
def OnLiveDiff (env : Env) (Property : World D → DepthUpdate D → Prop)
    (_before : List Label) (state : State D) (label : Label)
    (_next : State D) : Prop :=
  ∀ prevLastId raw update,
    state.phase = .live prevLastId →
      label = .recv (some (.message raw)) →
        parsed D env raw = some update →
          update.firstUpdateId = prevLastId + 1 →
            Property state.world update

/-- The section completes without a panic. -/
def SectionCompletes (env : Env) (tooLarge : D → D → Bool) (world : World D)
    (update : DepthUpdate D) : Prop :=
  ∃ next, tryApplyLive env tooLarge world update = .ok next

/-- The touch that the diff leaves is in range. -/
def LeavesTouchInRange (tooLarge : D → D → Bool) (world : World D)
    (update : DepthUpdate D) : Prop :=
  BookInRange tooLarge (world.book.apply update)

theorem sectionCompletes_iff
    {env : Env} {tooLarge : D → D → Bool} {world : World D}
    {update : DepthUpdate D} :
    SectionCompletes env tooLarge world update ↔
      LeavesTouchInRange tooLarge world update := by
  constructor
  · rintro ⟨next, completes⟩
    exact (tryApplyLive_eq_ok_iff.mp completes).1
  · intro fits
    exact ⟨_, tryApplyLive_eq_ok_iff.mpr ⟨fits, rfl⟩⟩

/--
The locked section completes at every live diff of a run exactly when every
live diff leaves a touch that is in range.
-/
theorem everyStep_sectionCompletes_iff
    (D : Type) [Decimal D] (env : Env) (tooLarge : D → D → Bool)
    (labels : List Label) :
    (manager D env).EveryStep
        (OnLiveDiff env (SectionCompletes env tooLarge)) labels ↔
      (manager D env).EveryStep
        (OnLiveDiff env (LeavesTouchInRange tooLarge)) labels := by
  refine GuardedMachine.everyStep_congr ?_
  intro before label after state next _ _ _
  constructor
  · intro completes prevLastId raw update live isFrame accepted continues
    exact
      sectionCompletes_iff.mp
        (completes prevLastId raw update live isFrame accepted continues)
  · intro fits prevLastId raw update live isFrame accepted continues
    exact
      sectionCompletes_iff.mpr
        (fits prevLastId raw update live isFrame accepted continues)

/-! ### A frame that kills the manager -/

/-- A frame over `[104, 105]` with a bid at the largest magnitude. -/
def hugeText : String :=
  "\x7b\"U\":104,\"u\":105," ++
    "\"b\":[[\"79228162514264337593543950335\",\"1\"]],\"a\":[]\x7d"

def hugeFrame : RawDepthUpdate :=
  ⟨104, 105, [("79228162514264337593543950335", "1")], []⟩

def hugeEnv : Env :=
  .ofFrames
    [(bridgeText, ⟨100, 103, [("29500", "1.5")], []⟩), (hugeText, hugeFrame)]

/-- Snapshot 101 with two units asked, and the frame that bridges it. -/
def quotedLabels : List Label :=
  [.tick 0,
    .response 1 (.ok ⟨101, [("29500", "1")], [("29502", "2")]⟩),
    .recv (some (.message bridgeText))]

theorem quotedLabels_enabled :
    ((manager ℚ hugeEnv).exec (manager ℚ hugeEnv).init
      quotedLabels).isSome := by
  decide +kernel

/-- Live at id 103 with both sides quoted. -/
def quotedState : State ℚ :=
  ((manager ℚ hugeEnv).exec (manager ℚ hugeEnv).init
    quotedLabels).get quotedLabels_enabled

theorem quotedRun :
    (manager ℚ hugeEnv).Run quotedLabels quotedState :=
  .of_enabled quotedLabels_enabled

theorem huge_enabled :
    ((manager ℚ hugeEnv).step quotedState
      (.recv (some (.message hugeText)))).isSome := by
  decide +kernel

/-- Bid price times ask quantity exceeds the largest magnitude. -/
theorem not_everyStep_sectionCompletes :
    ¬ ∀ (env : Env) (tooLarge : ℚ → ℚ → Bool) (labels : List Label)
        (state : State ℚ),
      (manager ℚ env).Run labels state →
        (manager ℚ env).EveryStep
          (OnLiveDiff env (SectionCompletes env tooLarge)) labels := by
  intro always
  have step :
      (manager ℚ hugeEnv).step quotedState
          (.recv (some (.message hugeText))) =
        some (((manager ℚ hugeEnv).step quotedState
          (.recv (some (.message hugeText)))).get huge_enabled) :=
    (Option.some_get huge_enabled).symm
  have completes :=
    (always hugeEnv (fun _ _ => false) _ _ (quotedRun.snoc step)).last
      quotedRun step 103 hugeText
      ⟨104, 105, [⟨79228162514264337593543950335, 1⟩], []⟩
      (by decide +kernel) rfl (by decide +kernel) (by decide +kernel)
  rcases completes with ⟨next, completes⟩
  have panics :
      tryApplyLive hugeEnv (fun _ _ => false) quotedState.world
          ⟨104, 105, [⟨79228162514264337593543950335, 1⟩], []⟩ =
        .error .overflow := by
    decide +kernel
  rw [panics] at completes
  cases completes

end CryptoOrderbook.Manager
