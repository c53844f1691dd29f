import CryptoOrderbook.Orderbook.SyncCycle

/-!
# Payloads and diffs

The journal records what the manager sends on `push_tx` and the diffs it
applies.  Replaying the journal recovers the book after each diff, so the two
traces can be compared.

`run_live` publishes the book after each of its diffs, and nothing else is
published.  The diff that connects the handshake is applied without a
payload, so the traces correspond one to one exactly when no handshake ever
connects.
-/

namespace CryptoOrderbook.Manager

open CryptoOrderbook.Library
open CryptoOrderbook.Binance
open CryptoOrderbook.Book
open CryptoOrderbook.Breaker
open CryptoOrderbook.Push

variable {D : Type} [Decimal D]

/-! ## Replaying the journal -/

/-- Where a diff was applied. -/
inductive DiffPlace where
  | inHandshake
  | inLive
deriving DecidableEq, Repr

/-- The replayed book, where the next diff belongs, and the books after diffs. -/
structure Replay (D : Type) [Decimal D] where
  book : OrderBook D
  place : DiffPlace
  afterDiffs : List (DiffPlace × OrderBook D)

namespace Replay

def start : Replay D :=
  ⟨OrderBook.new, .inHandshake, []⟩

/-- How one journal entry changes the replay. -/
def write (replay : Replay D) : Effect D → Replay D
  | .snapshotApplied snapshot =>
      ⟨applySnapshotToBook OrderBook.new snapshot, .inHandshake,
        replay.afterDiffs⟩
  | .diffApplied update =>
      ⟨replay.book.apply update, .inLive,
        replay.afterDiffs ++ [(replay.place, replay.book.apply update)]⟩
  | _ => replay

end Replay

def replay (journal : List (Effect D)) : Replay D :=
  journal.foldl Replay.write Replay.start

/-- The book immediately after each applied diff, in order. -/
def booksAfterDiffs (journal : List (Effect D)) : List (OrderBook D) :=
  (replay journal).afterDiffs.map Prod.snd

/-- The book immediately after each diff applied in live mode. -/
def booksAfterLiveDiffs (journal : List (Effect D)) : List (OrderBook D) :=
  ((replay journal).afterDiffs.filter (·.1 = .inLive)).map Prod.snd

/-- The payload an effect sends, if it sends one. -/
def Effect.payload : Effect D → Option String
  | .published payload => some payload
  | _ => none

/-- The payloads sent on the push channel, in order. -/
def payloads (journal : List (Effect D)) : List String :=
  journal.filterMap Effect.payload

/-- Every push message has a JSON text. -/
def Serializes (env : Env) : Prop :=
  ∀ push, (env.toJson push).isSome

/--
The payloads are those of the books after the applied diffs, one for each and
in order.
-/
def OnePushPerDiff (env : Env) (journal : List (Effect D)) : Prop :=
  (payloads journal).map some =
    (booksAfterDiffs journal).map (World.pushPayload env)

/-- The payloads are those of the books after the diffs of live mode. -/
def OnePushPerLiveDiff (env : Env) (journal : List (Effect D)) : Prop :=
  (payloads journal).map some =
    (booksAfterLiveDiffs journal).map (World.pushPayload env)

/-! ## Journal entries -/

theorem replay_append (journal fresh : List (Effect D)) :
    replay (journal ++ fresh) = fresh.foldl Replay.write (replay journal) := by
  rw [replay, List.foldl_append]
  rfl

omit [Decimal D] in
theorem payloads_append (journal fresh : List (Effect D)) :
    payloads (journal ++ fresh) = payloads journal ++ payloads fresh :=
  List.filterMap_append

/-- The effect is neither a diff nor a payload. -/
def Effect.Quiet : Effect D → Prop
  | .diffApplied _ | .published _ => False
  | .snapshotApplied _ | .syncGap _ _ | .sequenceGap _ _ => True

/-- A quiet effect adds neither a diff nor a payload. -/
theorem snoc_quiet
    (journal : List (Effect D)) {effect : Effect D} (quiet : effect.Quiet) :
    (replay (journal ++ [effect])).afterDiffs = (replay journal).afterDiffs ∧
      payloads (journal ++ [effect]) = payloads journal := by
  rw [replay_append, payloads_append]
  cases effect with
  | snapshotApplied snapshot => exact ⟨rfl, List.append_nil _⟩
  | diffApplied update => cases quiet
  | published payload => cases quiet
  | syncGap snapshotLastId eventFirst => exact ⟨rfl, List.append_nil _⟩
  | sequenceGap expected got => exact ⟨rfl, List.append_nil _⟩

theorem onePushPerDiff_snoc_quiet
    (env : Env) (journal : List (Effect D)) {effect : Effect D}
    (quiet : effect.Quiet) :
    OnePushPerDiff env (journal ++ [effect]) ↔
      OnePushPerDiff env journal := by
  rcases snoc_quiet journal quiet with ⟨diffs, sent⟩
  rw [OnePushPerDiff, OnePushPerDiff, booksAfterDiffs, booksAfterDiffs,
    diffs, sent]

theorem onePushPerLiveDiff_snoc_quiet
    (env : Env) (journal : List (Effect D)) {effect : Effect D}
    (quiet : effect.Quiet) :
    OnePushPerLiveDiff env (journal ++ [effect]) ↔
      OnePushPerLiveDiff env journal := by
  rcases snoc_quiet journal quiet with ⟨diffs, sent⟩
  rw [OnePushPerLiveDiff, OnePushPerLiveDiff, booksAfterLiveDiffs,
    booksAfterLiveDiffs, diffs, sent]

/-- A diff adds the book after it and no payload. -/
theorem snoc_diff
    (journal : List (Effect D)) (update : DepthUpdate D) :
    (replay (journal ++ [.diffApplied update])).afterDiffs =
        (replay journal).afterDiffs ++
          [((replay journal).place, (replay journal).book.apply update)] ∧
      payloads (journal ++ [.diffApplied update]) = payloads journal := by
  rw [replay_append, payloads_append]
  exact ⟨rfl, List.append_nil _⟩

/-- A payload does not change the replayed books. -/
theorem replay_snoc_published
    (journal : List (Effect D)) (payload : Option String) :
    replay (journal ++ (payload.map .published).toList) = replay journal := by
  rw [replay_append]
  cases payload <;> rfl

/-- A live diff journals the diff and its payload. -/
theorem replay_applyLive
    (env : Env) (world : World D) (update : DepthUpdate D) :
    replay (world.applyLive env update).journal =
      (replay world.journal).write (.diffApplied update) := by
  rw [applyLive_journal, List.append_cons, replay_snoc_published,
    replay_append]
  rfl

theorem booksAfterDiffs_applyLive
    (env : Env) {world : World D} (update : DepthUpdate D)
    (book : (replay world.journal).book = world.book) :
    booksAfterDiffs (world.applyLive env update).journal =
      booksAfterDiffs world.journal ++ [world.book.apply update] := by
  rw [booksAfterDiffs, replay_applyLive, Replay.write, book]
  simp [booksAfterDiffs]

theorem booksAfterLiveDiffs_applyLive
    (env : Env) {world : World D} (update : DepthUpdate D)
    (book : (replay world.journal).book = world.book)
    (place : (replay world.journal).place = .inLive) :
    booksAfterLiveDiffs (world.applyLive env update).journal =
      booksAfterLiveDiffs world.journal ++ [world.book.apply update] := by
  rw [booksAfterLiveDiffs, replay_applyLive, Replay.write, book, place]
  simp [booksAfterLiveDiffs]

theorem payloads_applyLive
    {env : Env} (serializes : Serializes env)
    (world : World D) (update : DepthUpdate D) :
    (payloads (world.applyLive env update).journal).map some =
      (payloads world.journal).map some ++
        [World.pushPayload env (world.book.apply update)] := by
  have sent :
      (World.pushPayload env (world.book.apply update)).isSome :=
    serializes _
  rw [applyLive_journal, payloads_append, List.map_append]
  cases payload : World.pushPayload env (world.book.apply update) with
  | none =>
      rw [payload] at sent
      cases sent
  | some text => rfl

/-! ## The replay follows the manager -/

/-- In the handshake and in live mode the replay shows the shared book. -/
def Replays (state : State D) : Prop :=
  match state.phase with
  | .handshake _ =>
      (replay state.world.journal).book = state.world.book ∧
        (replay state.world.journal).place = .inHandshake
  | .live _ =>
      (replay state.world.journal).book = state.world.book ∧
        (replay state.world.journal).place = .inLive
  | .fetching _ _ | .requesting _ | .returned => True

theorem Replays.step
    {env : Env} {state next : State D} {label : Label}
    (replays : Replays state)
    (transition : Transition env state label next) :
    Replays next := by
  cases transition with
  | backOff => trivial
  | request => trivial
  | install =>
      show (replay (_ ++ _)).book = applySnapshotToBook _ _ ∧
        (replay (_ ++ _)).place = _
      rw [replay_append, OrderBook.clear_eq_new]
      exact ⟨rfl, rfl⟩
  | fail => trivial
  | handshakeClosed => trivial
  | handshakeReconnected => trivial
  | handshakeUnparsed => exact replays
  | stale => exact replays
  | syncGap => trivial
  | bridge =>
      show (replay (_ ++ _)).book = OrderBook.apply _ _ ∧
        (replay (_ ++ _)).place = _
      rw [replay_append, ← show _ = _ from replays.1]
      exact ⟨rfl, rfl⟩
  | liveClosed => trivial
  | liveReconnected => trivial
  | liveUnparsed => exact replays
  | sequenceGap => trivial
  | follow =>
      rw [Replays, replay_applyLive, applyLive_book,
        ← show _ = _ from replays.1]
      exact ⟨rfl, rfl⟩

theorem replays_of_run
    {env : Env} {labels : List Label} {state : State D}
    (run : (manager D env).Run labels state) :
    Replays state := by
  have initial : Replays (manager D env).init := trivial
  exact
    run.invariant initial
      (fun _ _ _ replays step => replays.step (step_iff.mp step))

/-- In live mode every diff is published, and nothing else ever is. -/
theorem onePushPerLiveDiff_of_run
    {env : Env} (serializes : Serializes env)
    {labels : List Label} {state : State D}
    (run : (manager D env).Run labels state) :
    OnePushPerLiveDiff env state.world.journal := by
  induction run with
  | start => rfl
  | snoc run step earlier =>
      have replays := replays_of_run run
      cases step_iff.mp step with
      | backOff => exact earlier
      | request => exact earlier
      | install =>
          exact (onePushPerLiveDiff_snoc_quiet env _ (by trivial)).mpr earlier
      | fail => exact earlier
      | handshakeClosed => exact earlier
      | handshakeReconnected => exact earlier
      | handshakeUnparsed => exact earlier
      | stale => exact earlier
      | syncGap =>
          exact (onePushPerLiveDiff_snoc_quiet env _ (by trivial)).mpr earlier
      | @bridge world _ _ _ update =>
          rcases snoc_diff world.journal update with ⟨diffs, sent⟩
          show OnePushPerLiveDiff env
            (world.journal ++ [.diffApplied update])
          rw [OnePushPerLiveDiff, sent, booksAfterLiveDiffs, diffs,
            show _ = DiffPlace.inHandshake from replays.2]
          simpa [OnePushPerLiveDiff, booksAfterLiveDiffs] using earlier
      | liveClosed => exact earlier
      | liveReconnected => exact earlier
      | liveUnparsed => exact earlier
      | sequenceGap =>
          exact (onePushPerLiveDiff_snoc_quiet env _ (by trivial)).mpr earlier
      | @follow world _ _ _ update =>
          show (payloads (world.applyLive env update).journal).map some = _
          rw [payloads_applyLive serializes, show _ = _ from earlier,
            booksAfterLiveDiffs_applyLive env update replays.1 replays.2,
            List.map_append]
          rfl

/-! ## One payload for every diff -/

/-- The step does not connect a handshake. -/
def NoBridge (D : Type) [Decimal D] (env : Env)
    (_before : List Label) (state : State D) (label : Label)
    (_next : State D) : Prop :=
  match state.phase, label with
  | .handshake snapshotLastId, .recv (some (.message raw)) =>
      ∀ update : DepthUpdate D, parsed D env raw = some update →
        snapshotLastId < update.lastUpdateId →
          ¬ update.firstUpdateId ≤ snapshotLastId + 1
  | _, _ => True

theorem onePushPerDiff_iff_noBridge
    {env : Env} (serializes : Serializes env)
    {before : List Label} {state next : State D} {label : Label}
    (run : (manager D env).Run before state)
    (pushed : OnePushPerDiff env state.world.journal)
    (step : (manager D env).step state label = some next) :
    OnePushPerDiff env next.world.journal ↔
      NoBridge D env before state label next := by
  have replays := replays_of_run run
  cases step_iff.mp step with
  | backOff => exact iff_of_true pushed trivial
  | request => exact iff_of_true pushed trivial
  | install =>
      exact
        iff_of_true ((onePushPerDiff_snoc_quiet env _ (by trivial)).mpr pushed)
          trivial
  | fail => exact iff_of_true pushed trivial
  | handshakeClosed => exact iff_of_true pushed trivial
  | handshakeReconnected => exact iff_of_true pushed trivial
  | handshakeUnparsed rejected =>
      exact iff_of_true pushed (forall_parsed_of_rejected rejected)
  | stale accepted old =>
      exact
        iff_of_true pushed
          (forall_parsed_of_unguarded accepted (UInt64.not_lt.mpr old))
  | syncGap accepted fresh disconnected =>
      refine
        iff_of_true ((onePushPerDiff_snoc_quiet env _ (by trivial)).mpr pushed)
          ((forall_parsed_guarded_iff accepted fresh).mpr ?_)
      exact UInt64.not_le.mpr disconnected
  | @bridge world _ _ _ update accepted fresh connects =>
      refine iff_of_false ?_ ?_
      · intro pushedAfter
        rcases snoc_diff world.journal update with ⟨diffs, sent⟩
        have lengths := congrArg List.length pushed
        have lengthsAfter :
            ((payloads (world.journal ++ [.diffApplied update])).map
                some).length =
              ((booksAfterDiffs (world.journal ++ [.diffApplied update])).map
                (World.pushPayload env)).length :=
          congrArg List.length pushedAfter
        rw [sent, booksAfterDiffs, diffs] at lengthsAfter
        simp [booksAfterDiffs] at lengths lengthsAfter
        omega
      · intro noBridge
        exact noBridge update accepted fresh connects
  | liveClosed => exact iff_of_true pushed trivial
  | liveReconnected => exact iff_of_true pushed trivial
  | liveUnparsed => exact iff_of_true pushed trivial
  | sequenceGap =>
      exact
        iff_of_true ((onePushPerDiff_snoc_quiet env _ (by trivial)).mpr pushed)
          trivial
  | @follow world _ _ _ update =>
      refine iff_of_true ?_ trivial
      show (payloads (world.applyLive env update).journal).map some = _
      rw [payloads_applyLive serializes, show _ = _ from pushed,
        booksAfterDiffs_applyLive env update replays.1, List.map_append]
      rfl

/--
The payloads sent correspond to the diffs of live mode throughout every run.
They correspond to all applied diffs throughout a run exactly when no event
connects a handshake in it.
-/
theorem everyState_onePushPerDiff_iff
    (D : Type) [Decimal D] {env : Env} (serializes : Serializes env)
    (labels : List Label) :
    (manager D env).EveryState
        (fun state => OnePushPerLiveDiff env state.world.journal) labels ∧
      ((manager D env).EveryState
          (fun state => OnePushPerDiff env state.world.journal) labels ↔
        (manager D env).EveryStep (NoBridge D env) labels) := by
  constructor
  · intro before after state _ run
    exact onePushPerLiveDiff_of_run serializes run
  · have initial : OnePushPerDiff env (manager D env).init.world.journal :=
      rfl
    have exact_step : ∀ before (state : State D) label next,
        (manager D env).Run before state →
          OnePushPerDiff env state.world.journal →
            (manager D env).step state label = some next →
              (OnePushPerDiff env next.world.journal ↔
                NoBridge D env before state label next) :=
      fun _ _ _ _ run pushed step =>
        onePushPerDiff_iff_noBridge serializes run pushed step
    exact GuardedMachine.everyState_iff_everyStep initial exact_step labels

theorem sampleEnv_serializes : Serializes sampleEnv :=
  fun _ => rfl

theorem everyState_onePushPerDiff_iff_sample :
    (manager ℚ sampleEnv).EveryState
        (fun state => OnePushPerLiveDiff sampleEnv state.world.journal)
        sampleLabels ∧
      ((manager ℚ sampleEnv).EveryState
          (fun state => OnePushPerDiff sampleEnv state.world.journal)
          sampleLabels ↔
        (manager ℚ sampleEnv).EveryStep (NoBridge ℚ sampleEnv)
          sampleLabels) :=
  everyState_onePushPerDiff_iff ℚ sampleEnv_serializes sampleLabels

/-- The short cycle applies two diffs and publishes one of them. -/
theorem not_onePushPerDiff :
    ¬ ∀ (env : Env) (labels : List Label) (state : State ℚ),
      Serializes env → (manager ℚ env).Run labels state →
        OnePushPerDiff env state.world.journal := by
  intro always
  have pushed :=
    always sampleEnv _ _ sampleEnv_serializes sampleRun
  have lengths := congrArg List.length pushed
  exact absurd lengths (by decide +kernel)

end CryptoOrderbook.Manager
