import CryptoOrderbook.Orderbook.SyncCycle

/-!
# The additions on sequence numbers

The two receive loops compare a frame with an id plus one.  A debug build
checks the addition and a release build wraps, so the loops are given here as
a debug build evaluates them.

In the handshake the stale test runs first and leaves only ids below the
frame's own, so the addition never overflows.  In live mode nothing bounds
the id of the frame applied last: the addition fits at every step of a run
exactly when no parseable frame arrives after one that ended at the largest
64-bit number.
-/

namespace CryptoOrderbook.Manager

open CryptoOrderbook.Library
open CryptoOrderbook.Binance
open CryptoOrderbook.Book
open CryptoOrderbook.Breaker

variable {D : Type} [Decimal D]

/-! ## The loops of a debug build -/

/-- `id + 1`; `none` is the overflow panic. -/
def checkedSucc (id : UInt64) : Option UInt64 :=
  if id.toNat + 1 < 2 ^ 64 then some (id + 1) else none

/-- One iteration of the loop of `find_first_valid_event`. -/
def debugFindFirstValidEventBody
    (env : Env) (snapshotLastId : UInt64) (world : World D) :
    Option WsEvent → Option (Flow (World D) (Option UInt64 × World D))
  | none => some (.leave (none, world))
  | some .reconnected => some (.leave (none, world))
  | some (.message raw) =>
      match parseDepthUpdate env.fromStr raw with
      | .error _ => some (.again world)
      | .ok update =>
          if update.lastUpdateId ≤ snapshotLastId then
            some (.again world)
          else
            (checkedSucc snapshotLastId).map fun following =>
              if update.firstUpdateId > following then
                .leave
                  (none,
                    world.record
                      (.syncGap snapshotLastId update.firstUpdateId))
              else
                .leave (some update.lastUpdateId, world.applyDiff update)

/-- One iteration of the loop of `run_live`. -/
def debugRunLiveBody (env : Env) (carried : UInt64 × World D) :
    Option WsEvent →
      Option (Flow (UInt64 × World D) (LiveResult × World D))
  | none => some (.leave (.channelClosed, carried.2))
  | some .reconnected => some (.leave (.reconnected, carried.2))
  | some (.message raw) =>
      match parseDepthUpdate env.fromStr raw with
      | .error _ => some (.again carried)
      | .ok update =>
          (checkedSucc carried.1).map fun expected =>
            if update.firstUpdateId ≠ expected then
              .leave
                (.sequenceGap expected update.firstUpdateId, carried.2)
            else
              .again (update.lastUpdateId, carried.2.applyLive env update)

theorem checkedSucc_of_lt {id larger : UInt64} (less : id < larger) :
    checkedSucc id = some (id + 1) := by
  have bound := larger.toNat_lt
  rw [UInt64.lt_iff_toNat_lt] at less
  exact if_pos (by omega)

/-- The stale test protects the addition of the handshake. -/
theorem debugFindFirstValidEventBody_eq
    (env : Env) (snapshotLastId : UInt64) (world : World D)
    (event : Option WsEvent) :
    debugFindFirstValidEventBody env snapshotLastId world event =
      some (findFirstValidEventBody env snapshotLastId world event) := by
  rcases event with _ | raw | _
  · rfl
  · rw [debugFindFirstValidEventBody, findFirstValidEventBody]
    cases (parseDepthUpdate env.fromStr raw :
        Except AppError (DepthUpdate D)) with
    | error error => rfl
    | ok update =>
        rcases UInt64.le_or_lt update.lastUpdateId snapshotLastId with
          old | fresh
        · simp only [if_pos old]
        · have notOld := UInt64.not_le.mpr fresh
          simp only [if_neg notOld, checkedSucc_of_lt fresh, Option.map_some]
  · rfl

/-- Without an overflow the live loop of both builds is the same. -/
theorem debugRunLiveBody_eq
    {env : Env} {carried : UInt64 × World D} {event : Option WsEvent}
    (fits : carried.1.toNat < 2 ^ 64 - 1) :
    debugRunLiveBody env carried event =
      some (runLiveBody env carried event) := by
  have checked : checkedSucc carried.1 = some (carried.1 + 1) :=
    if_pos (by omega)
  rcases event with _ | raw | _
  · rfl
  · rw [debugRunLiveBody, runLiveBody]
    cases (parseDepthUpdate env.fromStr raw :
        Except AppError (DepthUpdate D)) with
    | error error => rfl
    | ok update => simp only [checked, Option.map_some]
  · rfl

/-- In live mode every parseable frame needs the addition. -/
theorem debugRunLiveBody_isSome_iff
    {env : Env} {prevLastId : UInt64} {world : World D} {raw : String} :
    (debugRunLiveBody env (prevLastId, world)
        (some (.message raw))).isSome = true ↔
      ∀ update : DepthUpdate D, parsed D env raw = some update →
        prevLastId.toNat < 2 ^ 64 - 1 := by
  by_cases fits : prevLastId.toNat < 2 ^ 64 - 1
  · rw [debugRunLiveBody_eq fits]
    exact iff_of_true rfl fun _ _ => fits
  · have overflows : checkedSucc prevLastId = none := if_neg (by omega)
    rw [debugRunLiveBody, parsed]
    cases (parseDepthUpdate env.fromStr raw :
        Except AppError (DepthUpdate D)) with
    | error error => simp
    | ok update =>
        refine iff_of_false ?_ fun needed => fits (needed update rfl)
        simp [overflows]

/-! ## The id of the frame received last -/

/-- The last id of the newest parseable frame since the snapshot. -/
def newestLastId (D : Type) [Decimal D] (env : Env) (labels : List Label) :
    Option UInt64 :=
  (receivedSince (D := D) env labels).updates.getLast?.map
    DepthUpdate.lastUpdateId

theorem newestLastId_snoc_of_accepted
    {env : Env} {labels : List Label} {raw : String} {update : DepthUpdate D}
    (accepted : parsed D env raw = some update) :
    newestLastId D env (labels ++ [.recv (some (.message raw))]) =
      some update.lastUpdateId := by
  rw [newestLastId, receivedSince_snoc, Cycle.receive, accepted]
  simp

theorem newestLastId_snoc_of_rejected
    {env : Env} {labels : List Label} {raw : String}
    (rejected : parsed D env raw = none) :
    newestLastId D env (labels ++ [.recv (some (.message raw))]) =
      newestLastId D env labels := by
  rw [newestLastId, receivedSince_snoc, Cycle.receive, rejected]
  rfl

/-- In live mode the frame received last is the frame applied last. -/
def ComparesNewest (env : Env) (labels : List Label) (state : State D) :
    Prop :=
  ∀ prevLastId, state.phase = .live prevLastId →
    newestLastId D env labels = some prevLastId

theorem comparesNewest_of_run
    {env : Env} {labels : List Label} {state : State D}
    (run : (manager D env).Run labels state) :
    ComparesNewest env labels state := by
  induction run with
  | start => exact nofun
  | snoc run step induction =>
      cases step_iff.mp step with
      | backOff => exact nofun
      | request => exact nofun
      | install => exact nofun
      | fail => exact nofun
      | handshakeClosed => exact nofun
      | handshakeReconnected => exact nofun
      | handshakeUnparsed => exact nofun
      | stale => exact nofun
      | syncGap => exact nofun
      | bridge accepted =>
          rintro _ ⟨⟩
          exact newestLastId_snoc_of_accepted accepted
      | liveClosed => exact nofun
      | liveReconnected => exact nofun
      | liveUnparsed rejected =>
          rintro _ ⟨⟩
          rw [newestLastId_snoc_of_rejected rejected]
          exact induction _ rfl
      | sequenceGap => exact nofun
      | follow accepted =>
          rintro _ ⟨⟩
          exact newestLastId_snoc_of_accepted accepted

/-! ## Throughout a run -/

/-- The step evaluates no addition that overflows. -/
def AdditionsFit (env : Env) (_before : List Label) (state : State D)
    (label : Label) (_next : State D) : Prop :=
  match state.phase, label with
  | .handshake snapshotLastId, .recv event =>
      (debugFindFirstValidEventBody env snapshotLastId state.world
        event).isSome = true
  | .live prevLastId, .recv event =>
      (debugRunLiveBody env (prevLastId, state.world) event).isSome = true
  | _, _ => True

/--
No parseable frame arrives in live mode after one that ended at the largest
64-bit number.
-/
def FollowsSmallerId (D : Type) [Decimal D] (env : Env)
    (before : List Label) (state : State D) (label : Label)
    (_next : State D) : Prop :=
  match state.phase, label with
  | .live _, .recv (some (.message raw)) =>
      ∀ update : DepthUpdate D, parsed D env raw = some update →
        ∀ newest ∈ newestLastId D env before, newest.toNat < 2 ^ 64 - 1
  | _, _ => True

theorem additionsFit_iff_followsSmallerId
    {env : Env} {before : List Label} {state next : State D} {label : Label}
    (compares : ComparesNewest env before state)
    (step : (manager D env).step state label = some next) :
    AdditionsFit env before state label next ↔
      FollowsSmallerId D env before state label next := by
  have handshake : ∀ {snapshotLastId : UInt64} {world : World D}
      {event : Option WsEvent},
      (debugFindFirstValidEventBody env snapshotLastId world event).isSome =
        true := by
    intro snapshotLastId world event
    rw [debugFindFirstValidEventBody_eq]
    rfl
  have live : ∀ {prevLastId : UInt64} {world : World D} {raw : String},
      newestLastId D env before = some prevLastId →
        ((debugRunLiveBody env (prevLastId, world)
            (some (.message raw))).isSome = true ↔
          ∀ update : DepthUpdate D, parsed D env raw = some update →
            ∀ newest ∈ newestLastId D env before,
              newest.toNat < 2 ^ 64 - 1) := by
    intro prevLastId world raw isNewest
    rw [debugRunLiveBody_isSome_iff, isNewest]
    simp
  cases step_iff.mp step with
  | backOff => exact Iff.rfl
  | request => exact Iff.rfl
  | install => exact Iff.rfl
  | fail => exact Iff.rfl
  | handshakeClosed => exact iff_of_true handshake trivial
  | handshakeReconnected => exact iff_of_true handshake trivial
  | handshakeUnparsed => exact iff_of_true handshake trivial
  | stale => exact iff_of_true handshake trivial
  | syncGap => exact iff_of_true handshake trivial
  | bridge => exact iff_of_true handshake trivial
  | liveClosed => exact iff_of_true rfl trivial
  | liveReconnected => exact iff_of_true rfl trivial
  | liveUnparsed => exact live (compares _ rfl)
  | sequenceGap => exact live (compares _ rfl)
  | follow => exact live (compares _ rfl)

/--
In every run the additions fit at every step exactly when no parseable frame
arrives in live mode after one that ended at the largest 64-bit number.
-/
theorem everyStep_additionsFit_iff
    (D : Type) [Decimal D] (env : Env) (labels : List Label) :
    (manager D env).EveryStep (AdditionsFit env) labels ↔
      (manager D env).EveryStep (FollowsSmallerId D env) labels :=
  GuardedMachine.everyStep_congr
    fun _ _ _ _ _ _ run step =>
      additionsFit_iff_followsSmallerId (comparesNewest_of_run run) step

/-! ## A frame that ends at the largest number -/

/-- A frame over `[100, 2^64 - 1]`. -/
def largestText : String :=
  "\x7b\"U\":100,\"u\":18446744073709551615,\"b\":[],\"a\":[]\x7d"

/-- A frame that starts at zero. -/
def wrappedText : String :=
  "\x7b\"U\":0,\"u\":5,\"b\":[],\"a\":[]\x7d"

def largestEnv : Env :=
  .ofFrames
    [(largestText, ⟨100, 18446744073709551615, [], []⟩),
      (wrappedText, ⟨0, 5, [], []⟩)]

/-- Snapshot 101 and the frame that bridges it. -/
def largestLabels : List Label :=
  [.tick 0, .response 1 (.ok ⟨101, [], []⟩),
    .recv (some (.message largestText))]

theorem largestLabels_enabled :
    ((manager ℚ largestEnv).exec (manager ℚ largestEnv).init
      largestLabels).isSome := by
  decide +kernel

/-- Live at the largest id. -/
def largestState : State ℚ :=
  ((manager ℚ largestEnv).exec (manager ℚ largestEnv).init
    largestLabels).get largestLabels_enabled

theorem largestRun :
    (manager ℚ largestEnv).Run largestLabels largestState :=
  .of_enabled largestLabels_enabled

theorem wrapped_enabled :
    ((manager ℚ largestEnv).step largestState
      (.recv (some (.message wrappedText)))).isSome := by
  decide +kernel

/-- The release build follows the frame that starts at zero. -/
example :
    ((manager ℚ largestEnv).step largestState
        (.recv (some (.message wrappedText)))).map State.phase =
      some (.live 5) := by
  decide +kernel

/-- The next frame needs the largest id plus one. -/
theorem not_everyStep_additionsFit :
    ¬ ∀ (env : Env) (labels : List Label) (state : State ℚ),
      (manager ℚ env).Run labels state →
        (manager ℚ env).EveryStep (AdditionsFit env) labels := by
  intro always
  have step :
      (manager ℚ largestEnv).step largestState
          (.recv (some (.message wrappedText))) =
        some (((manager ℚ largestEnv).step largestState
          (.recv (some (.message wrappedText)))).get wrapped_enabled) :=
    (Option.some_get wrapped_enabled).symm
  have fits :=
    (always largestEnv _ _ (largestRun.snoc step)).last largestRun step
  have atLargest : largestState.phase = .live 18446744073709551615 := by
    decide +kernel
  simp only [AdditionsFit, atLargest] at fits
  have overflows :
      (debugRunLiveBody largestEnv (18446744073709551615, largestState.world)
        (some (.message wrappedText))).isSome = false := by
    decide +kernel
  exact absurd (overflows.symm.trans fits) Bool.false_ne_true

end CryptoOrderbook.Manager
