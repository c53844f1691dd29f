import Mathlib.Data.List.Chain
import CryptoOrderbook.Orderbook.Transitions

/-!
# Sync cycles

What the manager is for, without its control flow: a sync cycle is a snapshot
followed by diffs that continue it without a hole.  `Baseline` is a cycle that
still looks for its first diff and `Following` one that has found it; both
carry their sequence conditions as fields, so a cycle with a hole cannot be
written down.

`represents_of_run` refines the manager to these cycles.  In every state of
every run the shared book is the book of the current cycle, the cycle's
contents are exactly what was received since its snapshot, and the id the
manager compares the next frame with is the id of the cycle's last diff.
-/

namespace CryptoOrderbook.Manager

open CryptoOrderbook.Library
open CryptoOrderbook.Binance
open CryptoOrderbook.Book
open CryptoOrderbook.Breaker

variable {D : Type} [Decimal D]

/-! ## Ids -/

theorem toNat_succ {id : UInt64} (below : id.toNat < 2 ^ 64 - 1) :
    (id + 1).toNat = id.toNat + 1 := by
  rw [UInt64.toNat_add]
  exact Nat.mod_eq_of_lt (by simpa using Nat.add_lt_of_lt_sub below)

theorem toNat_succ_of_lt {id larger : UInt64} (less : id < larger) :
    (id + 1).toNat = id.toNat + 1 := by
  apply toNat_succ
  have bound := larger.toNat_lt
  rw [UInt64.lt_iff_toNat_lt] at less
  omega

/-- The second update starts right after the last change of the first. -/
def Contiguous (earlier later : DepthUpdate D) : Prop :=
  later.firstUpdateId.toNat = earlier.lastUpdateId.toNat + 1

omit [Decimal D] in
instance (earlier later : DepthUpdate D) :
    Decidable (Contiguous earlier later) :=
  inferInstanceAs (Decidable (_ = _))

/-! ## Abstract cycles -/

/-- A snapshot and the events skipped because it already contains them. -/
structure Baseline (D : Type) where
  snapshot : Snapshot D
  skipped : List (DepthUpdate D)
  stale : ∀ update ∈ skipped, update.lastUpdateId ≤ snapshot.lastUpdateId

/-- A baseline, a diff that bridges it, and contiguous later diffs. -/
structure Following (D : Type) extends Baseline D where
  bridge : DepthUpdate D
  later : List (DepthUpdate D)
  reaches :
    bridge.firstUpdateId.toNat ≤ snapshot.lastUpdateId.toNat + 1
  passes :
    snapshot.lastUpdateId.toNat + 1 ≤ bridge.lastUpdateId.toNat
  contiguous : List.IsChain Contiguous (bridge :: later)

namespace Baseline

/-- The book of a baseline is its snapshot applied to an empty book. -/
def book (baseline : Baseline D) : OrderBook D :=
  applySnapshotToBook OrderBook.new baseline.snapshot

/-- The baseline that has skipped nothing yet. -/
def start (snapshot : Snapshot D) : Baseline D :=
  ⟨snapshot, [], by simp⟩

/-- Skip an event the snapshot contains. -/
def skip (baseline : Baseline D) (update : DepthUpdate D)
    (old : update.lastUpdateId ≤ baseline.snapshot.lastUpdateId) :
    Baseline D where
  snapshot := baseline.snapshot
  skipped := baseline.skipped ++ [update]
  stale := by
    intro candidate member
    rcases List.mem_append.mp member with earlier | last
    · exact baseline.stale candidate earlier
    · rw [List.mem_singleton.mp last]
      exact old

/-- Start following from an event that bridges the snapshot. -/
def connect (baseline : Baseline D) (update : DepthUpdate D)
    (fresh : baseline.snapshot.lastUpdateId < update.lastUpdateId)
    (connects :
      update.firstUpdateId ≤ baseline.snapshot.lastUpdateId + 1) :
    Following D where
  toBaseline := baseline
  bridge := update
  later := []
  reaches := by
    rw [← toNat_succ_of_lt fresh]
    exact UInt64.le_iff_toNat_le.mp connects
  passes := UInt64.lt_iff_toNat_lt.mp fresh
  contiguous := List.isChain_singleton update

end Baseline

namespace Following

/-- The diffs of a cycle, oldest first. -/
def diffs (following : Following D) : List (DepthUpdate D) :=
  following.bridge :: following.later

/-- The newest diff. -/
def newest (following : Following D) : DepthUpdate D :=
  following.diffs.getLast (List.cons_ne_nil _ _)

/-- The snapshot followed by the diffs in order. -/
def book (following : Following D) : OrderBook D :=
  following.toBaseline.book.applyAll following.diffs

/-- Append a contiguous diff. -/
def extend (following : Following D) (update : DepthUpdate D)
    (continues : Contiguous following.newest update) :
    Following D where
  toBaseline := following.toBaseline
  bridge := following.bridge
  later := following.later ++ [update]
  reaches := following.reaches
  passes := following.passes
  contiguous := by
    rw [← List.cons_append]
    refine List.isChain_append.mpr
      ⟨following.contiguous, List.isChain_singleton update, ?_⟩
    intro last isLast head isHead
    rw [List.head?_cons, Option.mem_some_iff] at isHead
    rw [List.getLast?_eq_some_getLast (List.cons_ne_nil _ _),
      Option.mem_some_iff] at isLast
    exact isHead ▸ isLast ▸ continues

omit [Decimal D] in
@[simp]
theorem newest_extend
    (following : Following D) (update : DepthUpdate D)
    (continues : Contiguous following.newest update) :
    (following.extend update continues).newest = update := by
  simp [newest, diffs, extend]

@[simp]
theorem book_extend
    (following : Following D) (update : DepthUpdate D)
    (continues : Contiguous following.newest update) :
    (following.extend update continues).book =
      following.book.apply update := by
  rw [book, book, diffs, extend, ← List.cons_append,
    OrderBook.applyAll_append]
  rfl

/-- The book of a cycle stands at the id of its newest diff. -/
theorem book_lastUpdateId (following : Following D) :
    following.book.lastUpdateId = following.newest.lastUpdateId :=
  OrderBook.applyAll_lastUpdateId _ _ _

end Following

/-! ## What a run has received and written -/

/-- The last snapshot and the parseable updates that came after it. -/
structure Cycle (D : Type) where
  snapshot : Option (Snapshot D)
  updates : List (DepthUpdate D)

/-- How one interaction changes what has been received. -/
def Cycle.receive (env : Env) (cycle : Cycle D) : Label → Cycle D
  | .response _ received =>
      match fetchSnapshot received with
      | .ok snapshot => ⟨some snapshot, []⟩
      | .error _ => cycle
  | .recv (some (.message raw)) =>
      match parsed D env raw with
      | some update => ⟨cycle.snapshot, cycle.updates ++ [update]⟩
      | none => cycle
  | _ => cycle

/-- The snapshot obtained last and every parseable message received since. -/
def receivedSince (env : Env) (labels : List Label) : Cycle D :=
  labels.foldl (Cycle.receive env) ⟨none, []⟩

/-- How one journal entry changes what has been written to the book. -/
def Cycle.write (cycle : Cycle D) : Effect D → Cycle D
  | .snapshotApplied snapshot => ⟨some snapshot, []⟩
  | .diffApplied update => ⟨cycle.snapshot, cycle.updates ++ [update]⟩
  | _ => cycle

/-- The snapshot applied last and the diffs applied to the book since. -/
def writtenSince (journal : List (Effect D)) : Cycle D :=
  journal.foldl Cycle.write ⟨none, []⟩

theorem receivedSince_snoc
    (env : Env) (labels : List Label) (label : Label) :
    receivedSince env (labels ++ [label]) =
      (receivedSince (D := D) env labels).receive env label := by
  simp [receivedSince]

omit [Decimal D] in
theorem writtenSince_snoc (journal : List (Effect D)) (effect : Effect D) :
    writtenSince (journal ++ [effect]) =
      (writtenSince journal).write effect := by
  simp [writtenSince]

theorem publish_journal (env : Env) (world : World D) :
    (world.publish env).journal =
      world.journal ++
        ((World.pushPayload env world.book).map .published).toList := by
  unfold World.publish
  split
  next payload sent => simp [sent, World.record]
  next unsent => simp [unsent]

/-- A live diff is journalled before the payload about the book after it. -/
theorem applyLive_journal
    (env : Env) (world : World D) (update : DepthUpdate D) :
    (world.applyLive env update).journal =
      world.journal ++ .diffApplied update ::
        ((World.pushPayload env (world.book.apply update)).map
          .published).toList := by
  rw [World.applyLive, publish_journal]
  simp [World.countUpdate, World.applyDiff]

@[simp]
theorem publish_book (env : Env) (world : World D) :
    (world.publish env).book = world.book := by
  unfold World.publish
  split <;> rfl

@[simp]
theorem applyLive_book
    (env : Env) (world : World D) (update : DepthUpdate D) :
    (world.applyLive env update).book = world.book.apply update :=
  publish_book env _

@[simp]
theorem publish_metrics (env : Env) (world : World D) :
    (world.publish env).metrics = world.metrics := by
  unfold World.publish
  split <;> rfl

/-- The metrics after a live diff are those written in the locked section. -/
theorem applyLive_metrics
    (env : Env) (world : World D) (update : DepthUpdate D) :
    (world.applyLive env update).metrics =
      (world.applyDiff update).countUpdate.metrics :=
  publish_metrics env _

@[simp]
theorem writtenSince_applyLive
    (env : Env) (world : World D) (update : DepthUpdate D) :
    writtenSince (world.applyLive env update).journal =
      (writtenSince world.journal).write (.diffApplied update) := by
  rw [applyLive_journal, writtenSince, List.foldl_append, ← writtenSince]
  cases World.pushPayload env (world.book.apply update) <;> rfl

/-! ## What a step writes -/

/-- The journal entries a step has written. -/
def freshEffects (state next : State D) : List (Effect D) :=
  next.world.journal.drop state.world.journal.length

theorem freshEffects_eq
    {state next : State D} {fresh : List (Effect D)}
    (extended : next.world.journal = state.world.journal ++ fresh) :
    freshEffects state next = fresh := by
  rw [freshEffects, extended, List.drop_left]

theorem not_mem_freshEffects
    {state next : State D} {fresh : List (Effect D)} {effect : Effect D}
    (extended : next.world.journal = state.world.journal ++ fresh)
    (absent : effect ∉ fresh) :
    effect ∉ freshEffects state next := by
  rw [freshEffects_eq extended]
  exact absent

/-- The journal only grows. -/
theorem journal_eq_append_freshEffects
    {env : Env} {state next : State D} {label : Label}
    (transition : Transition env state label next) :
    next.world.journal =
      state.world.journal ++ freshEffects state next := by
  have grown : ∃ fresh,
      next.world.journal = state.world.journal ++ fresh := by
    cases transition with
    | follow => exact ⟨_, applyLive_journal _ _ _⟩
    | install => exact ⟨_, rfl⟩
    | syncGap => exact ⟨_, rfl⟩
    | bridge => exact ⟨_, rfl⟩
    | sequenceGap => exact ⟨_, rfl⟩
    | _ => exact ⟨[], (List.append_nil _).symm⟩
  rcases grown with ⟨fresh, extended⟩
  rw [freshEffects_eq extended]
  exact extended

/-! ## The refinement -/

/-- An accepted frame's last id is below the largest 64-bit number. -/
def IdBelowMax (D : Type) [Decimal D] (env : Env) : Label → Prop
  | .recv (some (.message raw)) =>
      match parsed D env raw with
      | some update => update.lastUpdateId.toNat < 2 ^ 64 - 1
      | none => True
  | _ => True

instance (env : Env) (label : Label) : Decidable (IdBelowMax D env label) := by
  unfold IdBelowMax
  split
  · split <;> infer_instance
  · infer_instance

/-- All accepted frames of a run respect the bound on ids. -/
def IdsBelowMax (D : Type) [Decimal D] (env : Env) (labels : List Label) :
    Prop :=
  ∀ label ∈ labels, IdBelowMax D env label

instance (env : Env) (labels : List Label) :
    Decidable (IdsBelowMax D env labels) :=
  inferInstanceAs (Decidable (∀ label ∈ labels, IdBelowMax D env label))

/-- The cycle a state of the manager stands for. -/
def Represents (env : Env) (labels : List Label) (state : State D) : Prop :=
  match state.phase with
  | .fetching _ _ | .requesting _ => state.world.book = OrderBook.new
  | .handshake snapshotLastId =>
      ∃ baseline : Baseline D,
        baseline.snapshot.lastUpdateId = snapshotLastId ∧
        receivedSince env labels =
          ⟨some baseline.snapshot, baseline.skipped⟩ ∧
        writtenSince state.world.journal = ⟨some baseline.snapshot, []⟩ ∧
        state.world.book = baseline.book
  | .live prevLastId =>
      ∃ following : Following D,
        following.newest.lastUpdateId = prevLastId ∧
        following.newest.lastUpdateId.toNat < 2 ^ 64 - 1 ∧
        receivedSince env labels =
          ⟨some following.snapshot,
            following.skipped ++ following.diffs⟩ ∧
        writtenSince state.world.journal =
          ⟨some following.snapshot, following.diffs⟩ ∧
        state.world.book = following.book
  | .returned => True

theorem IdsBelowMax.init
    {env : Env} {labels : List Label} {label : Label}
    (bounded : IdsBelowMax D env (labels ++ [label])) :
    IdsBelowMax D env labels :=
  fun earlier member =>
    bounded earlier (List.mem_append_left _ member)

theorem IdsBelowMax.last
    {env : Env} {labels : List Label} {raw : String}
    {update : DepthUpdate D}
    (bounded : IdsBelowMax D env
      (labels ++ [.recv (some (.message raw))]))
    (accepted : parsed D env raw = some update) :
    update.lastUpdateId.toNat < 2 ^ 64 - 1 := by
  have below := bounded (.recv (some (.message raw))) (by simp)
  rwa [IdBelowMax, accepted] at below

/-- Every run of the manager is a sequence of sync cycles. -/
theorem represents_of_run
    {env : Env} {labels : List Label} {state : State D}
    (run : (manager D env).Run labels state)
    (bounded : IdsBelowMax D env labels) :
    Represents env labels state := by
  induction run with
  | start => rfl
  | snoc run step induction =>
      have earlier := induction bounded.init
      cases step_iff.mp step with
      | backOff => exact earlier
      | request => exact earlier
      | install fetched =>
          refine ⟨.start _, rfl, ?_, ?_, rfl⟩
          · rw [receivedSince_snoc, Cycle.receive, fetched]
            rfl
          · exact writtenSince_snoc _ _
      | fail => exact earlier
      | handshakeClosed => rfl
      | handshakeReconnected => rfl
      | handshakeUnparsed rejected =>
          rcases earlier with ⟨baseline, same, received, written, book⟩
          refine ⟨baseline, same, ?_, written, book⟩
          rw [receivedSince_snoc, received, Cycle.receive, rejected]
      | stale accepted old =>
          rcases earlier with ⟨baseline, rfl, received, written, book⟩
          refine ⟨baseline.skip _ old, rfl, ?_, written, book⟩
          rw [receivedSince_snoc, received, Cycle.receive, accepted]
          rfl
      | syncGap => rfl
      | bridge accepted fresh connects =>
          rcases earlier with ⟨baseline, rfl, received, written, book⟩
          refine ⟨baseline.connect _ fresh connects, rfl,
            bounded.last accepted, ?_, ?_, ?_⟩
          · rw [receivedSince_snoc, received, Cycle.receive, accepted]
            rfl
          · rw [World.applyDiff, writtenSince_snoc, written]
            rfl
          · rw [World.applyDiff, book]
            rfl
      | liveClosed => trivial
      | liveReconnected => rfl
      | liveUnparsed rejected =>
          rcases earlier with
            ⟨following, same, bound, received, written, book⟩
          refine ⟨following, same, bound, ?_, written, book⟩
          rw [receivedSince_snoc, received, Cycle.receive, rejected]
      | sequenceGap => rfl
      | @follow _ _ _ _ update accepted continues =>
          rcases earlier with ⟨following, rfl, bound, received, written, book⟩
          have contiguous : Contiguous following.newest update := by
            rw [Contiguous, continues, toNat_succ bound]
          refine ⟨following.extend _ contiguous, ?_, ?_, ?_, ?_, ?_⟩
          · rw [following.newest_extend]
          · rw [following.newest_extend]
            exact bounded.last accepted
          · rw [receivedSince_snoc, received, Cycle.receive, accepted]
            simp [Following.diffs, Following.extend]
          · rw [writtenSince_applyLive, written]
            rfl
          · rw [applyLive_book, book, following.book_extend]

/-! ## The phase invariant -/

/--
At every point where the book can be read: while a snapshot is fetched the
book is empty; during the handshake it is the current snapshot; in live mode
it is that snapshot followed by a bridging diff and every parseable message
since, without a hole, and it stands at the id the next frame is compared
with.
-/
theorem phase_invariant
    (env : Env) {labels : List Label} {state : State D}
    (run : (manager D env).Run labels state)
    (bounded : IdsBelowMax D env labels) :
    (∀ attempt wakeAt, state.phase = .fetching attempt wakeAt →
      state.world.book.bids.entries = [] ∧
        state.world.book.asks.entries = [] ∧
        state.world.book.lastUpdateId = 0) ∧
    (∀ attempt, state.phase = .requesting attempt →
      state.world.book.bids.entries = [] ∧
        state.world.book.asks.entries = [] ∧
        state.world.book.lastUpdateId = 0) ∧
    (∀ snapshotLastId, state.phase = .handshake snapshotLastId →
      ∃ baseline : Baseline D,
        receivedSince env labels =
          ⟨some baseline.snapshot, baseline.skipped⟩ ∧
        state.world.book = baseline.book ∧
        baseline.snapshot.lastUpdateId = snapshotLastId ∧
        state.world.book.lastUpdateId = snapshotLastId) ∧
    (∀ prevLastId, state.phase = .live prevLastId →
      ∃ following : Following D,
        receivedSince env labels =
          ⟨some following.snapshot,
            following.skipped ++ following.diffs⟩ ∧
        state.world.book = following.book ∧
        state.world.book.lastUpdateId = prevLastId ∧
        prevLastId = following.newest.lastUpdateId) := by
  have represents := represents_of_run run bounded
  rcases state with ⟨world, breaker, phase⟩
  refine ⟨?_, ?_, ?_, ?_⟩
  · rintro attempt wakeAt rfl
    have empty : world.book = OrderBook.new := represents
    rw [empty]
    exact ⟨rfl, rfl, rfl⟩
  · rintro attempt rfl
    have empty : world.book = OrderBook.new := represents
    rw [empty]
    exact ⟨rfl, rfl, rfl⟩
  · rintro snapshotLastId rfl
    rcases represents with ⟨baseline, same, received, -, book⟩
    refine ⟨baseline, received, book, same, ?_⟩
    rw [book, ← same]
    rfl
  · rintro prevLastId rfl
    rcases represents with ⟨following, same, -, received, -, book⟩
    refine ⟨following, received, book, ?_, same.symm⟩
    rw [book, following.book_lastUpdateId, same]

/-! ### A short cycle -/

/-- A frame over `[100, 103]`. -/
def bridgeText : String :=
  "\x7b\"U\":100,\"u\":103,\"b\":[[\"29500\",\"1.5\"]],\"a\":[]\x7d"

/-- A frame over `[104, 105]`. -/
def nextText : String :=
  "\x7b\"U\":104,\"u\":105,\"b\":[],\"a\":[[\"29502\",\"0\"]]\x7d"

def sampleEnv : Env :=
  .ofFrames
    [(bridgeText, ⟨100, 103, [("29500", "1.5")], []⟩),
      (nextText, ⟨104, 105, [], [("29502", "0")]⟩)]

/-- Snapshot 101, then the frame that bridges it, then the next one. -/
def sampleLabels : List Label :=
  [.tick 0,
    .response 1 (.ok ⟨101, [("29500", "1")], [("29502", "2")]⟩),
    .recv (some (.message bridgeText)),
    .recv (some (.message nextText))]

theorem sampleLabels_enabled :
    ((manager ℚ sampleEnv).exec (manager ℚ sampleEnv).init
      sampleLabels).isSome := by
  decide +kernel

/-- The state after the short cycle. -/
def sampleState : State ℚ :=
  ((manager ℚ sampleEnv).exec (manager ℚ sampleEnv).init sampleLabels).get
    sampleLabels_enabled

theorem sampleRun :
    (manager ℚ sampleEnv).Run sampleLabels sampleState :=
  .of_enabled sampleLabels_enabled

theorem sampleState_live : sampleState.phase = .live 105 := by
  decide +kernel

theorem phase_invariant_sample :
    sampleState.phase = .live 105 ∧
      ∃ following : Following ℚ,
        receivedSince sampleEnv sampleLabels =
          ⟨some following.snapshot,
            following.skipped ++ following.diffs⟩ ∧
        sampleState.world.book = following.book ∧
        sampleState.world.book.lastUpdateId = 105 ∧
        105 = following.newest.lastUpdateId :=
  ⟨sampleState_live,
    (phase_invariant sampleEnv sampleRun (by decide +kernel)).2.2.2 105
      sampleState_live⟩

end CryptoOrderbook.Manager
