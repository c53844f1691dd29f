import CryptoOrderbook.Library.ChangeLog
import CryptoOrderbook.Orderbook.SyncCycle

/-!
# The book is a replica of the exchange

The exchange changes one (side, price) at a time; its book after `n` changes
is version `n` of a change log.  Binance is assumed to send faithful events
and faithful snapshots of that log, nothing more: any event may be lost,
duplicated, reordered or replaced by an unparseable frame, and a snapshot may
be older or newer than the queued events.

Under that assumption the shared book shows, in the handshake and in live
mode, the exchange's version at the book's last update id on every price it
has heard of since the last snapshot, and holds nothing else.  The bridging
event may overlap the snapshot; `AgreesOn.batch` of the change log library is
what makes the overlap harmless.
-/

namespace CryptoOrderbook.Manager

open CryptoOrderbook.Library
open CryptoOrderbook.Binance
open CryptoOrderbook.Book

variable {D : Type} [Decimal D]

/-! ## Sides and listed prices -/

inductive Side where
  | bid
  | ask
deriving DecidableEq, Repr

/-- A side of the book and the numeric value of a price. -/
abbrev PriceKey := Side × ℚ

/-- One side of the local book. -/
def sideOf (book : OrderBook D) : Side → Levels D
  | .bid => book.bids
  | .ask => book.asks

/-- The entries of an update for one side. -/
def entriesOf (update : DepthUpdate D) :
    Side → List (Binance.PriceLevel D)
  | .bid => update.bids
  | .ask => update.asks

/-- The local quantity at a price, zero when there is no level. -/
def quantityAt (book : OrderBook D) (key : PriceKey) : ℚ :=
  match (sideOf book key.1).get? key.2 with
  | some quantity => Decimal.value quantity
  | none => 0

/-- There is no local level at a price. -/
def Absent (book : OrderBook D) (key : PriceKey) : Prop :=
  (sideOf book key.1).get? key.2 = none

/-- The prices an update has an entry for. -/
def listed (update : DepthUpdate D) : Set PriceKey :=
  {key | ∃ level ∈ entriesOf update key.1, Decimal.value level.price = key.2}

theorem sideOf_apply
    (book : OrderBook D) (update : DepthUpdate D) (side : Side) :
    sideOf (book.apply update) side =
      applyLevels (sideOf book side) (entriesOf update side) := by
  cases side <;> rfl

/-- Applying an update leaves the prices it does not list alone. -/
theorem get?_apply_of_not_listed
    (book : OrderBook D) {update : DepthUpdate D} {key : PriceKey}
    (unlisted : key ∉ listed update) :
    (sideOf (book.apply update) key.1).get? key.2 =
      (sideOf book key.1).get? key.2 := by
  have noEntry : lastEntry key.2 (entriesOf update key.1) = none := by
    rw [lastEntry_eq_none_iff]
    intro level member same
    exact unlisted ⟨level, member, same⟩
  rw [sideOf_apply, get?_applyLevels, noEntry]

/--
A price whose entries in the update all carry one quantity ends up with that
quantity, whether it is stored or, being zero, removed.
-/
theorem quantityAt_apply_of_listed
    (book : OrderBook D) {update : DepthUpdate D} {key : PriceKey}
    {quantity : ℚ} (member : key ∈ listed update)
    (agreed : ∀ level ∈ entriesOf update key.1,
      Decimal.value level.price = key.2 →
        Decimal.value level.quantity = quantity) :
    quantityAt (book.apply update) key = quantity := by
  rw [quantityAt, sideOf_apply, get?_applyLevels]
  cases found : lastEntry key.2 (entriesOf update key.1) with
  | none =>
      rcases member with ⟨level, entry, same⟩
      exact absurd same (lastEntry_eq_none_iff.mp found level entry)
  | some last =>
      rcases mem_of_lastEntry found with ⟨level, entry, same, rfl⟩
      have carried := agreed level entry same
      by_cases zero : Decimal.isZero level.quantity
      · have vanishes : quantity = 0 :=
          carried ▸ (Decimal.isZero_iff level.quantity).mp zero
        simp [zero, vanishes]
      · simpa [zero] using carried

/-! ## What is assumed of the exchange -/

/--
A depth event over `[U, u]` lists every price changed by one of the changes
`U, …, u`, each with its quantity in version `u`, and nothing else.
-/
structure FaithfulEvent
    (log : ChangeLog PriceKey ℚ) (update : DepthUpdate D) : Prop where
  ordered : update.firstUpdateId.toNat ≤ update.lastUpdateId.toNat
  complete : ∀ key,
    log.Touched update.firstUpdateId.toNat update.lastUpdateId.toNat key →
      key ∈ listed update
  changed : ∀ key ∈ listed update,
    log.Touched update.firstUpdateId.toNat update.lastUpdateId.toNat key
  current : ∀ side, ∀ level ∈ entriesOf update side,
    Decimal.value level.quantity =
      log.version update.lastUpdateId.toNat (side, Decimal.value level.price)

/--
A snapshot lists exactly the nonzero levels of its version on a set of
covered prices, and nothing else.
-/
structure FaithfulSnapshot
    (log : ChangeLog PriceKey ℚ) (covered : Set PriceKey)
    (snapshot : Snapshot D) : Prop where
  complete : ∀ key ∈ covered,
    log.version snapshot.lastUpdateId.toNat key ≠ 0 →
      key ∈ listed snapshot.asUpdate
  inside : ∀ key ∈ listed snapshot.asUpdate, key ∈ covered
  current : ∀ side, ∀ level ∈ entriesOf snapshot.asUpdate side,
    Decimal.value level.quantity =
      log.version snapshot.lastUpdateId.toNat
        (side, Decimal.value level.price)
  nonzero : ∀ key ∈ listed snapshot.asUpdate,
    log.version snapshot.lastUpdateId.toNat key ≠ 0

/-! ## Mirroring -/

/-- The book shows the exchange's version at its id on the known prices. -/
def Mirrors (log : ChangeLog PriceKey ℚ) (known : Set PriceKey)
    (book : OrderBook D) : Prop :=
  log.AgreesOn known book.lastUpdateId.toNat (quantityAt book)

/-- The prices listed by some update. -/
def listedIn (updates : List (DepthUpdate D)) : Set PriceKey :=
  {key | ∃ update ∈ updates, key ∈ listed update}

theorem Mirrors.apply
    {log : ChangeLog PriceKey ℚ} {known : Set PriceKey}
    {book : OrderBook D} {update : DepthUpdate D}
    (mirrors : Mirrors log known book)
    (faithful : FaithfulEvent log update)
    (reaches : update.firstUpdateId.toNat ≤ book.lastUpdateId.toNat + 1)
    (ahead : book.lastUpdateId.toNat ≤ update.lastUpdateId.toNat) :
    Mirrors log (known ∪ listed update) (book.apply update) := by
  refine ChangeLog.AgreesOn.batch mirrors reaches ahead faithful.complete
    ?_ ?_
  · intro key member
    apply quantityAt_apply_of_listed book member
    intro level entry same
    rw [faithful.current key.1 level entry, same]
    rfl
  · intro key unlisted
    rw [quantityAt, quantityAt, get?_apply_of_not_listed book unlisted]

/-- A contiguous sequence of faithful events keeps the book a mirror. -/
theorem Mirrors.applyAll
    {log : ChangeLog PriceKey ℚ} {known : Set PriceKey}
    {book : OrderBook D} {updates : List (DepthUpdate D)}
    (mirrors : Mirrors log known book)
    (faithful : ∀ update ∈ updates, FaithfulEvent log update)
    (contiguous : List.IsChain Contiguous updates)
    (reaches : ∀ update ∈ updates.head?,
      update.firstUpdateId.toNat ≤ book.lastUpdateId.toNat + 1 ∧
        book.lastUpdateId.toNat ≤ update.lastUpdateId.toNat) :
    Mirrors log (known ∪ listedIn updates) (book.applyAll updates) := by
  induction updates generalizing known book with
  | nil => simpa [listedIn] using mirrors
  | cons update rest induction =>
      rcases List.isChain_cons.mp contiguous with ⟨next, restContiguous⟩
      rcases reaches update (by simp) with ⟨first, last⟩
      have restFaithful : ∀ later ∈ rest, FaithfulEvent log later :=
        fun later member => faithful later (List.mem_cons_of_mem _ member)
      have applied :=
        mirrors.apply (faithful update List.mem_cons_self) first last
      have result := induction applied restFaithful restContiguous (by
        intro later isHead
        have adjacent : Contiguous update later := next later isHead
        have ordered :=
          (restFaithful later (List.mem_of_mem_head? isHead)).ordered
        rw [OrderBook.apply_lastUpdateId]
        rw [Contiguous] at adjacent
        omega)
      have sameSet :
          known ∪ listed update ∪ listedIn rest =
            known ∪ listedIn (update :: rest) := by
        ext key
        simp [listedIn, or_assoc]
      rw [← sameSet]
      exact result

/-- Prices without entries stay absent. -/
theorem absent_applyAll
    {book : OrderBook D} {updates : List (DepthUpdate D)} {key : PriceKey}
    (absent : Absent book key) (unlisted : key ∉ listedIn updates) :
    Absent (book.applyAll updates) key := by
  induction updates generalizing book with
  | nil => exact absent
  | cons update rest induction =>
      apply induction
      · rw [Absent, get?_apply_of_not_listed book
          (fun member => unlisted ⟨update, List.mem_cons_self, member⟩)]
        exact absent
      · rintro ⟨later, member, isListed⟩
        exact unlisted ⟨later, List.mem_cons_of_mem _ member, isListed⟩

/-- A price the snapshot does not list has no level after it is applied. -/
theorem Baseline.absent_of_not_listed
    {baseline : Baseline D} {key : PriceKey}
    (unlisted : key ∉ listed baseline.snapshot.asUpdate) :
    Absent baseline.book key := by
  have empty : Absent (OrderBook.new : OrderBook D) key := by
    rcases key with ⟨side, price⟩
    cases side <;> rfl
  exact (get?_apply_of_not_listed OrderBook.new unlisted).trans empty

/-- A faithful snapshot mirrors the covered prices. -/
theorem Baseline.mirrors
    {log : ChangeLog PriceKey ℚ} {covered : Set PriceKey}
    {baseline : Baseline D}
    (faithful : FaithfulSnapshot log covered baseline.snapshot) :
    Mirrors log covered baseline.book := by
  intro key member
  by_cases entry : key ∈ listed baseline.snapshot.asUpdate
  · apply quantityAt_apply_of_listed OrderBook.new entry
    intro level isEntry same
    rw [faithful.current key.1 level isEntry, same]
    rfl
  · have zero :
        log.version baseline.snapshot.lastUpdateId.toNat key = 0 := by
      by_contra nonzero
      exact entry (faithful.complete key member nonzero)
    have missing : Absent baseline.book key :=
      Baseline.absent_of_not_listed entry
    rw [quantityAt, show _ = none from missing]
    exact zero.symm

theorem Baseline.absent
    {log : ChangeLog PriceKey ℚ} {covered : Set PriceKey}
    {baseline : Baseline D}
    (faithful : FaithfulSnapshot log covered baseline.snapshot)
    {key : PriceKey} (uncovered : key ∉ covered) :
    Absent baseline.book key :=
  Baseline.absent_of_not_listed
    fun entry => uncovered (faithful.inside key entry)

/-- A cycle of faithful diffs on a faithful snapshot is a mirror. -/
theorem Following.mirrors
    {log : ChangeLog PriceKey ℚ} {covered : Set PriceKey}
    {following : Following D}
    (snapshot : FaithfulSnapshot log covered following.snapshot)
    (diffs : ∀ update ∈ following.diffs, FaithfulEvent log update) :
    Mirrors log (covered ∪ listedIn following.diffs) following.book := by
  refine Mirrors.applyAll (Baseline.mirrors snapshot) diffs
    following.contiguous ?_
  intro update isHead
  have isBridge : following.bridge = update := by
    simpa [Following.diffs] using isHead
  subst update
  exact
    ⟨following.reaches, (Nat.le_succ _).trans following.passes⟩

/-! ## The manager -/

/-- Whatever a run has received since its snapshot was on its channel. -/
theorem mem_receivedSince
    (env : Env) (labels : List Label) {update : DepthUpdate D}
    (member : update ∈ (receivedSince env labels).updates) :
    ∃ raw, .recv (some (.message raw)) ∈ labels ∧
      parsed D env raw = some update := by
  induction labels using List.reverseRecOn with
  | nil => simp [receivedSince] at member
  | append_singleton labels label induction =>
      rw [receivedSince_snoc] at member
      have older :
          update ∈ (receivedSince env labels).updates →
            ∃ raw, .recv (some (.message raw)) ∈ labels ++ [label] ∧
              parsed D env raw = some update := by
        intro earlier
        rcases induction earlier with ⟨raw, isLabel, accepted⟩
        exact ⟨raw, List.mem_append_left _ isLabel, accepted⟩
      rcases label with now | ⟨now, received⟩ | _ | raw | _
      · exact older member
      · rw [Cycle.receive] at member
        split at member
        · cases member
        · exact older member
      · exact older member
      · rw [Cycle.receive] at member
        split at member
        next newest accepted =>
          rcases List.mem_append.mp member with earlier | last
          · exact older earlier
          · rw [List.mem_singleton.mp last]
            exact ⟨raw, by simp, accepted⟩
        next => exact older member
      · exact older member

/--
In every reachable state of the handshake and live phases the book's quantity
is the exchange's, at the book's own id, on every price covered by the last
snapshot or listed in a diff applied since; every other price is absent.
-/
theorem replica_correct
    (env : Env) (log : ChangeLog PriceKey ℚ)
    {labels : List Label} {state : State D}
    (run : (manager D env).Run labels state)
    (bounded : IdsBelowMax D env labels)
    (events : ∀ raw (update : DepthUpdate D),
      .recv (some (.message raw)) ∈ labels →
        parsed D env raw = some update → FaithfulEvent log update)
    (phase : (∃ id, state.phase = .handshake id) ∨
      ∃ id, state.phase = .live id) :
    ∃ snapshot diffs,
      writtenSince state.world.journal = ⟨some snapshot, diffs⟩ ∧
      ∀ covered, FaithfulSnapshot log covered snapshot → ∀ key,
        (key ∈ covered ∨ key ∈ listedIn diffs →
          quantityAt state.world.book key =
            log.version state.world.book.lastUpdateId.toNat key) ∧
        (key ∉ covered → key ∉ listedIn diffs →
          Absent state.world.book key) := by
  have represents := represents_of_run run bounded
  rcases state with ⟨world, breaker, current⟩
  rcases phase with ⟨id, rfl⟩ | ⟨id, rfl⟩
  · rcases represents with ⟨baseline, -, -, written, book⟩
    refine ⟨_, _, written, ?_⟩
    intro covered faithful key
    rw [book]
    constructor
    · rintro (member | ⟨update, none, -⟩)
      · exact Baseline.mirrors faithful key member
      · cases none
    · intro uncovered _
      exact Baseline.absent faithful uncovered
  · rcases represents with ⟨following, -, -, received, written, book⟩
    have diffs : ∀ update ∈ following.diffs, FaithfulEvent log update := by
      intro update member
      rcases
          mem_receivedSince env labels
            (by rw [received]; exact List.mem_append_right _ member) with
        ⟨raw, isLabel, accepted⟩
      exact events raw update isLabel accepted
    refine ⟨_, _, written, ?_⟩
    intro covered faithful key
    rw [book]
    constructor
    · exact Following.mirrors faithful diffs key
    · intro uncovered unlisted
      exact absent_applyAll (Baseline.absent faithful uncovered) unlisted

/-! ### The short cycle against an exchange -/

/-- An event whose changes all set one key is faithful if it lists that key. -/
theorem FaithfulEvent.of_single_key
    {log : ChangeLog PriceKey ℚ} {update : DepthUpdate D} (key : PriceKey)
    (ordered : update.firstUpdateId.toNat ≤ update.lastUpdateId.toNat)
    (positive : 0 < update.firstUpdateId.toNat)
    (sets : ∀ index, update.firstUpdateId.toNat ≤ index + 1 →
      index + 1 ≤ update.lastUpdateId.toNat → (log.change index).1 = key)
    (only : ∀ other, other ∈ listed update ↔ other = key)
    (current : ∀ side, ∀ level ∈ entriesOf update side,
      Decimal.value level.quantity =
        log.version update.lastUpdateId.toNat
          (side, Decimal.value level.price)) :
    FaithfulEvent log update where
  ordered := ordered
  complete := by
    rintro other ⟨index, above, below, rfl⟩
    exact (only _).mpr (sets index above below)
  changed := by
    intro other member
    rw [(only other).mp member]
    refine ⟨update.firstUpdateId.toNat - 1, by omega, by omega, ?_⟩
    exact sets _ (by omega) (by omega)
  current := current

/-- Quantity 2, then 1 from change 100, 3/2 from 102, and 0 from 104. -/
def sampleLog : ChangeLog PriceKey ℚ where
  base _ := 0
  change index :=
    if index < 99 then ((.ask, 29502), 2)
    else if index < 101 then ((.bid, 29500), 1)
    else if index < 103 then ((.bid, 29500), 3 / 2)
    else ((.ask, 29502), 0)

def bridgeUpdate : DepthUpdate ℚ :=
  ⟨100, 103, [⟨29500, 3 / 2⟩], []⟩

def nextUpdate : DepthUpdate ℚ :=
  ⟨104, 105, [], [⟨29502, 0⟩]⟩

def sampleSnapshot : Snapshot ℚ :=
  ⟨101, [⟨29500, 1⟩], [⟨29502, 2⟩]⟩

theorem parsed_bridgeText :
    parsed ℚ sampleEnv bridgeText = some bridgeUpdate := by
  decide +kernel

theorem parsed_nextText :
    parsed ℚ sampleEnv nextText = some nextUpdate := by
  decide +kernel

theorem bridgeUpdate_faithful : FaithfulEvent sampleLog bridgeUpdate := by
  refine .of_single_key (.bid, 29500) (by decide) (by decide)
    ?_ ?_ ?_
  · intro index (above : 100 ≤ index + 1) (below : index + 1 ≤ 103)
    have first : ¬ index < 99 := by omega
    have last : index < 103 := by omega
    by_cases early : index < 101 <;> simp [sampleLog, first, last, early]
  · rintro ⟨_ | _, price⟩ <;>
      simp [listed, entriesOf, bridgeUpdate, eq_comm]
  · rintro (_ | _) <;> decide +kernel

theorem nextUpdate_faithful : FaithfulEvent sampleLog nextUpdate := by
  refine .of_single_key (.ask, 29502) (by decide) (by decide)
    ?_ ?_ ?_
  · intro index (above : 104 ≤ index + 1) (below : index + 1 ≤ 105)
    have early : ¬ index < 99 ∧ ¬ index < 101 ∧ ¬ index < 103 := by omega
    simp [sampleLog, early]
  · rintro ⟨_ | _, price⟩ <;>
      simp [listed, entriesOf, nextUpdate, eq_comm]
  · rintro (_ | _) <;> decide +kernel

/-- The prices the sample snapshot covers. -/
def sampleCovered : Set PriceKey :=
  {(.bid, 29500), (.ask, 29502)}

theorem listed_sampleSnapshot (key : PriceKey) :
    key ∈ listed sampleSnapshot.asUpdate ↔ key ∈ sampleCovered := by
  rcases key with ⟨_ | _, price⟩ <;>
    simp [sampleCovered, listed, entriesOf, Snapshot.asUpdate,
      sampleSnapshot, eq_comm]

theorem sampleSnapshot_faithful :
    FaithfulSnapshot sampleLog sampleCovered sampleSnapshot where
  complete key member _ := (listed_sampleSnapshot key).mpr member
  inside key member := (listed_sampleSnapshot key).mp member
  current := by
    rintro (_ | _) <;> decide +kernel
  nonzero key member := by
    rcases (listed_sampleSnapshot key).mp member with rfl | rfl
    · decide +kernel
    · decide +kernel

theorem sampleLabels_faithful (raw : String) (update : DepthUpdate ℚ)
    (member : .recv (some (.message raw)) ∈ sampleLabels)
    (accepted : parsed ℚ sampleEnv raw = some update) :
    FaithfulEvent sampleLog update := by
  have isText : raw = bridgeText ∨ raw = nextText := by
    simpa [sampleLabels] using member
  rcases isText with rfl | rfl
  · rw [parsed_bridgeText, Option.some.injEq] at accepted
    exact accepted ▸ bridgeUpdate_faithful
  · rw [parsed_nextText, Option.some.injEq] at accepted
    exact accepted ▸ nextUpdate_faithful

theorem sampleState_snapshot :
    (writtenSince sampleState.world.journal).snapshot =
      some sampleSnapshot := by
  decide +kernel

/-- The book of the short cycle shows version 105 on the covered prices. -/
theorem replica_correct_sample :
    quantityAt sampleState.world.book (.bid, 29500) =
        sampleLog.version sampleState.world.book.lastUpdateId.toNat
          (.bid, 29500) ∧
      quantityAt sampleState.world.book (.ask, 29502) =
        sampleLog.version sampleState.world.book.lastUpdateId.toNat
          (.ask, 29502) := by
  rcases
      replica_correct sampleEnv sampleLog sampleRun (by decide +kernel)
        sampleLabels_faithful (.inr ⟨105, sampleState_live⟩) with
    ⟨snapshot, diffs, written, correct⟩
  have isSample : snapshot = sampleSnapshot := by
    have applied := sampleState_snapshot
    rw [written] at applied
    exact Option.some.inj applied
  subst isSample
  have covered := correct sampleCovered sampleSnapshot_faithful
  constructor
  · exact (covered (.bid, 29500)).1 (.inl (by simp [sampleCovered]))
  · exact (covered (.ask, 29502)).1 (.inl (by simp [sampleCovered]))

end CryptoOrderbook.Manager
