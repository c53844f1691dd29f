import CryptoOrderbook.Orderbook.SyncCycle

/-!
# Progress of the last update id

Where the shared id stands in each phase, with no assumption on the ids of
frames, and when the diffs of a run move it strictly forward.

The handshake compares both ends of a frame's range with the snapshot, so a
bridging diff always moves the id forward.  The live check compares the first
id only: a frame that continues the sequence but ends before it starts takes
the book back.  The condition below is exactly the absence of such frames.
-/

namespace CryptoOrderbook.Manager

open CryptoOrderbook.Library
open CryptoOrderbook.Binance
open CryptoOrderbook.Book
open CryptoOrderbook.Breaker

variable {D : Type} [Decimal D]

/-! ## Where the book stands -/

/-- The book's last update id in each phase. -/
def StandsAt (state : State D) : Prop :=
  match state.phase with
  | .fetching _ _ | .requesting _ => state.world.book = OrderBook.new
  | .handshake snapshotLastId =>
      state.world.book.lastUpdateId = snapshotLastId
  | .live prevLastId => state.world.book.lastUpdateId = prevLastId
  | .returned => True

theorem StandsAt.step
    {env : Env} {state next : State D} {label : Label}
    (stands : StandsAt state)
    (transition : Transition env state label next) :
    StandsAt next := by
  cases transition with
  | backOff => exact stands
  | request => exact stands
  | install => rfl
  | fail => exact stands
  | handshakeClosed => rfl
  | handshakeReconnected => rfl
  | handshakeUnparsed => exact stands
  | stale => exact stands
  | syncGap => rfl
  | bridge => rfl
  | liveClosed => trivial
  | liveReconnected => rfl
  | liveUnparsed => exact stands
  | sequenceGap => rfl
  | follow =>
      rw [StandsAt, applyLive_book]
      rfl

theorem standsAt_of_run
    {env : Env} {labels : List Label} {state : State D}
    (run : (manager D env).Run labels state) :
    StandsAt state := by
  have initial : StandsAt (manager D env).init := rfl
  exact
    run.invariant initial
      (fun _ _ _ stands step => stands.step (step_iff.mp step))

/-! ## Diffs that move the id forward -/

/-- A diff applied by the step leaves a strictly larger last update id. -/
def Advances (_before : List Label) (state : State D) (_label : Label)
    (next : State D) : Prop :=
  ∀ update, .diffApplied update ∈ freshEffects state next →
    state.world.book.lastUpdateId < next.world.book.lastUpdateId

/-- A frame that continues the sequence in live mode has a forward range. -/
def RangeForward (D : Type) [Decimal D] (env : Env)
    (_before : List Label) (state : State D) (label : Label)
    (_next : State D) : Prop :=
  match state.phase, label with
  | .live prevLastId, .recv (some (.message raw)) =>
      ∀ update : DepthUpdate D, parsed D env raw = some update →
        update.firstUpdateId = prevLastId + 1 →
          0 < update.firstUpdateId ∧
            update.firstUpdateId ≤ update.lastUpdateId
  | _, _ => True

theorem lt_iff_range_forward {prev first last : UInt64}
    (continues : first = prev + 1) :
    prev < last ↔ 0 < first ∧ first ≤ last := by
  have prevBound := prev.toNat_lt
  have lastBound := last.toNat_lt
  have successor : first.toNat = (prev.toNat + 1) % 2 ^ 64 := by
    rw [continues, UInt64.toNat_add]
    rfl
  rw [UInt64.lt_iff_toNat_lt, UInt64.lt_iff_toNat_lt,
    UInt64.le_iff_toNat_le, UInt64.toNat_zero]
  omega

/-- A step that journals no diff advances vacuously. -/
theorem advances_of_no_diff
    {before : List Label} {state next : State D} {label : Label}
    {fresh : List (Effect D)}
    (extended : next.world.journal = state.world.journal ++ fresh)
    (noDiff : ∀ update, .diffApplied update ∉ fresh) :
    Advances before state label next := by
  intro update member
  exact absurd member (not_mem_freshEffects extended (noDiff update))

/-- A step that journals a diff advances exactly when the id grows. -/
theorem advances_iff_of_diff
    {before : List Label} {state next : State D} {label : Label}
    {update : DepthUpdate D} {rest : List (Effect D)}
    (extended : next.world.journal =
      state.world.journal ++ .diffApplied update :: rest) :
    Advances before state label next ↔
      state.world.book.lastUpdateId < next.world.book.lastUpdateId := by
  constructor
  · intro advances
    apply advances update
    rw [freshEffects_eq extended]
    exact List.mem_cons_self
  · intro less _ _
    exact less

theorem advances_iff_rangeForward
    {env : Env} {before : List Label} {state next : State D} {label : Label}
    (stands : StandsAt state)
    (step : (manager D env).step state label = some next) :
    Advances before state label next ↔
      RangeForward D env before state label next := by
  have silent : next.world.journal = state.world.journal →
      RangeForward D env before state label next →
        (Advances before state label next ↔
          RangeForward D env before state label next) := by
    intro same forward
    have extended : next.world.journal = state.world.journal ++ [] := by
      rw [same, List.append_nil]
    exact iff_of_true (advances_of_no_diff extended (by simp)) forward
  cases step_iff.mp step with
  | backOff => exact silent rfl trivial
  | request => exact silent rfl trivial
  | install =>
      exact iff_of_true (advances_of_no_diff rfl (by simp)) trivial
  | fail => exact silent rfl trivial
  | handshakeClosed => exact silent rfl trivial
  | handshakeReconnected => exact silent rfl trivial
  | handshakeUnparsed => exact silent rfl trivial
  | stale => exact silent rfl trivial
  | syncGap =>
      exact iff_of_true (advances_of_no_diff rfl (by simp)) trivial
  | bridge accepted fresh connects =>
      refine iff_of_true ((advances_iff_of_diff rfl).mpr ?_) trivial
      rw [show _ = _ from stands]
      exact fresh
  | liveClosed => exact silent rfl trivial
  | liveReconnected => exact silent rfl trivial
  | liveUnparsed rejected =>
      exact silent rfl (forall_parsed_of_rejected rejected)
  | sequenceGap accepted broken =>
      exact
        iff_of_true (advances_of_no_diff rfl (by simp))
          (forall_parsed_of_unguarded accepted broken)
  | follow accepted continues =>
      rw [advances_iff_of_diff (applyLive_journal _ _ _), applyLive_book,
        show _ = _ from stands, OrderBook.apply_lastUpdateId,
        lt_iff_range_forward continues]
      apply Iff.symm
      exact forall_parsed_guarded_iff accepted continues

/--
In every run, every diff applied within a sync cycle moves the last update id
strictly forward exactly when every frame that continues the sequence in live
mode has a forward range.
-/
theorem everyStep_advances_iff
    (D : Type) [Decimal D] (env : Env) (labels : List Label) :
    (manager D env).EveryStep Advances labels ↔
      (manager D env).EveryStep (RangeForward D env) labels :=
  GuardedMachine.everyStep_congr
    fun _ _ _ _ _ _ run step =>
      advances_iff_rangeForward (standsAt_of_run run) step

/-! ### A frame that ends before it starts -/

/-- A frame over `[104, 50]`. -/
def reversedText : String :=
  "\x7b\"U\":104,\"u\":50,\"b\":[],\"a\":[]\x7d"

def reversedEnv : Env :=
  .ofFrames
    [(bridgeText, ⟨100, 103, [("29500", "1.5")], []⟩),
      (reversedText, ⟨104, 50, [], []⟩)]

/-- Snapshot 101 and the frame that bridges it. -/
def bridgedLabels : List Label :=
  [.tick 0,
    .response 1 (.ok ⟨101, [("29500", "1")], [("29502", "2")]⟩),
    .recv (some (.message bridgeText))]

theorem bridgedLabels_enabled :
    ((manager ℚ reversedEnv).exec (manager ℚ reversedEnv).init
      bridgedLabels).isSome := by
  decide +kernel

/-- Live at id 103. -/
def bridgedState : State ℚ :=
  ((manager ℚ reversedEnv).exec (manager ℚ reversedEnv).init
    bridgedLabels).get bridgedLabels_enabled

theorem bridgedRun :
    (manager ℚ reversedEnv).Run bridgedLabels bridgedState :=
  .of_enabled bridgedLabels_enabled

theorem reversed_enabled :
    ((manager ℚ reversedEnv).step bridgedState
      (.recv (some (.message reversedText)))).isSome := by
  decide +kernel

/-- Live at id 50. -/
def reversedState : State ℚ :=
  ((manager ℚ reversedEnv).step bridgedState
    (.recv (some (.message reversedText)))).get reversed_enabled

/-- Live mode accepts the reversed frame and takes the id from 103 to 50. -/
theorem not_everyStep_advances :
    ¬ ∀ (env : Env) (labels : List Label) (state : State ℚ),
      (manager ℚ env).Run labels state →
        (manager ℚ env).EveryStep Advances labels := by
  intro always
  have step :
      (manager ℚ reversedEnv).step bridgedState
          (.recv (some (.message reversedText))) =
        some reversedState :=
    (Option.some_get reversed_enabled).symm
  have advances : Advances bridgedLabels bridgedState
      (.recv (some (.message reversedText))) reversedState :=
    (always reversedEnv _ _ (bridgedRun.snoc step)).last bridgedRun step
  have backwards := advances ⟨104, 50, [], []⟩ (by decide +kernel)
  exact absurd backwards (by decide +kernel)

end CryptoOrderbook.Manager
