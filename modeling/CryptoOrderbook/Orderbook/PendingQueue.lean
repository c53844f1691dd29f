import CryptoOrderbook.Orderbook.SyncCycle

/-!
# The receive loops over a pending queue

The completeness half of the protocol.  When the parseable messages waiting
in the channel form a chain that reaches back to the snapshot, the handshake
skips the ones the snapshot contains and connects at the first one it does
not, and live mode applies all the others without finding a gap.

`exec_findFirstValidEvent` and `exec_runLive` carry facts about the loops as
a whole to the machine, which runs them one event at a time.
-/

namespace CryptoOrderbook.Manager

open CryptoOrderbook.Library
open CryptoOrderbook.Binance
open CryptoOrderbook.Book
open CryptoOrderbook.Breaker

variable {D : Type} [Decimal D]

/-! ## Frames in the channel -/

/-- The results of `recv` for a sequence of text frames. -/
def messages (raws : List String) : List (Option WsEvent) :=
  raws.map fun raw => some (.message raw)

/-- The updates the parseable frames carry. -/
def updatesIn (D : Type) [Decimal D] (env : Env) (raws : List String) :
    List (DepthUpdate D) :=
  raws.filterMap (parsed D env)

theorem updatesIn_cons_rejected
    {env : Env} {raw : String} (rejected : parsed D env raw = none)
    (raws : List String) :
    updatesIn D env (raw :: raws) = updatesIn D env raws :=
  List.filterMap_cons_none rejected

theorem updatesIn_cons_accepted
    {env : Env} {raw : String} {update : DepthUpdate D}
    (accepted : parsed D env raw = some update) (raws : List String) :
    updatesIn D env (raw :: raws) = update :: updatesIn D env raws :=
  List.filterMap_cons_some accepted

/-- The updates around one accepted frame. -/
theorem updatesIn_split
    {env : Env} {raw : String} {update : DepthUpdate D}
    (accepted : parsed D env raw = some update)
    (before after : List String) :
    updatesIn D env (before ++ raw :: after) =
      updatesIn D env before ++ update :: updatesIn D env after := by
  rw [← updatesIn_cons_accepted accepted]
  exact List.filterMap_append

/-- Some frame reaches past an id; take the first one that does. -/
theorem exists_first_fresh
    {env : Env} {snapshotLastId : UInt64} {raws : List String}
    (exists_fresh : ∃ update ∈ updatesIn D env raws,
      snapshotLastId < update.lastUpdateId) :
    ∃ before raw after bridge,
      raws = before ++ raw :: after ∧
        (∀ update ∈ updatesIn D env before,
          update.lastUpdateId ≤ snapshotLastId) ∧
        parsed D env raw = some bridge ∧
        snapshotLastId < bridge.lastUpdateId := by
  induction raws with
  | nil => simp [updatesIn] at exists_fresh
  | cons raw rest induction =>
      cases accepted : parsed D env raw with
      | none =>
          rw [updatesIn_cons_rejected accepted] at exists_fresh
          rcases induction exists_fresh with
            ⟨before, found, after, bridge, rfl, stale, isBridge⟩
          refine ⟨raw :: before, found, after, bridge, rfl, ?_, isBridge⟩
          rw [updatesIn_cons_rejected accepted]
          exact stale
      | some first =>
          rcases UInt64.le_or_lt first.lastUpdateId snapshotLastId with
            old | fresh
          · rw [updatesIn_cons_accepted accepted] at exists_fresh
            have later := by
              simpa [UInt64.not_lt.mpr old] using exists_fresh
            rcases induction later with
              ⟨before, found, after, bridge, rfl, stale, isBridge⟩
            refine ⟨raw :: before, found, after, bridge, rfl, ?_, isBridge⟩
            rw [updatesIn_cons_accepted accepted]
            exact List.forall_mem_cons.mpr ⟨old, stale⟩
          · exact
              ⟨[], raw, rest, first, rfl, by simp [updatesIn], accepted,
                fresh⟩

/-! ## The handshake over a queue -/

/-- Frames the snapshot contains are discarded without a trace. -/
theorem findFirstValidEvent_stale
    {env : Env} {snapshotLastId : UInt64} {raws : List String}
    (stale : ∀ update ∈ updatesIn D env raws,
      update.lastUpdateId ≤ snapshotLastId)
    (world : World D) (rest : List (Option WsEvent)) :
    findFirstValidEvent env snapshotLastId world (messages raws ++ rest) =
      findFirstValidEvent env snapshotLastId world rest := by
  induction raws with
  | nil => rfl
  | cons raw raws induction =>
      cases accepted : parsed D env raw with
      | none =>
          rw [updatesIn_cons_rejected accepted] at stale
          exact
            (consume_cons_again
              (findFirstValidEventBody_unparsed accepted) _).trans
              (induction stale)
      | some update =>
          rw [updatesIn_cons_accepted accepted] at stale
          rcases List.forall_mem_cons.mp stale with ⟨old, later⟩
          exact
            (consume_cons_again
              (findFirstValidEventBody_stale accepted old) _).trans
              (induction later)

/-- The handshake connects at the first frame that is not stale. -/
theorem findFirstValidEvent_connects
    {env : Env} {snapshotLastId : UInt64} {before : List String}
    {raw : String} {bridge : DepthUpdate D}
    (stale : ∀ update ∈ updatesIn D env before,
      update.lastUpdateId ≤ snapshotLastId)
    (accepted : parsed D env raw = some bridge)
    (fresh : snapshotLastId < bridge.lastUpdateId)
    (connects : bridge.firstUpdateId ≤ snapshotLastId + 1)
    (world : World D) (rest : List (Option WsEvent)) :
    findFirstValidEvent env snapshotLastId world
        (messages before ++ some (.message raw) :: rest) =
      (.leave (some bridge.lastUpdateId, world.applyDiff bridge), rest) := by
  rw [findFirstValidEvent_stale stale]
  exact
    consume_cons_leave
      (findFirstValidEventBody_bridge accepted fresh connects) rest

/-! ## Live mode over a queue -/

/-- Apply updates in order, as live mode does. -/
def World.followAll (env : Env) (world : World D)
    (updates : List (DepthUpdate D)) : World D :=
  updates.foldl (World.applyLive env) world

theorem followAll_book
    (env : Env) (world : World D) (updates : List (DepthUpdate D)) :
    (world.followAll env updates).book = world.book.applyAll updates := by
  induction updates generalizing world with
  | nil => rfl
  | cons update rest induction =>
      have later := induction (world.applyLive env update)
      rw [applyLive_book] at later
      exact later

/-- Each update is applied to the book exactly once, in order. -/
theorem writtenSince_followAll
    (env : Env) (world : World D) (updates : List (DepthUpdate D)) :
    writtenSince (world.followAll env updates).journal =
      ⟨(writtenSince world.journal).snapshot,
        (writtenSince world.journal).updates ++ updates⟩ := by
  induction updates generalizing world with
  | nil => simp [World.followAll]
  | cons update rest induction =>
      have later := induction (world.applyLive env update)
      rw [writtenSince_applyLive] at later
      simpa [World.followAll, Cycle.write] using later

/-- A chain of frames is followed to its end. -/
theorem runLive_follows
    {env : Env} {previous : DepthUpdate D} {raws : List String}
    (contiguous :
      List.IsChain Contiguous (previous :: updatesIn D env raws))
    (bounded : ∀ update ∈ previous :: updatesIn D env raws,
      update.lastUpdateId.toNat < 2 ^ 64 - 1)
    (world : World D) (rest : List (Option WsEvent)) :
    runLive env previous.lastUpdateId world (messages raws ++ rest) =
      runLive env
        ((previous :: updatesIn D env raws).getLast
          (List.cons_ne_nil _ _)).lastUpdateId
        (world.followAll env (updatesIn D env raws)) rest := by
  induction raws generalizing previous world with
  | nil => rfl
  | cons raw raws induction =>
      cases accepted : parsed D env raw with
      | none =>
          simp only [updatesIn_cons_rejected accepted] at contiguous bounded ⊢
          exact
            (consume_cons_again (runLiveBody_unparsed accepted) _).trans
              (induction contiguous bounded world)
      | some update =>
          simp only [updatesIn_cons_accepted accepted] at contiguous bounded ⊢
          rcases List.isChain_cons_cons.mp contiguous with ⟨adjacent, later⟩
          rcases List.forall_mem_cons.mp bounded with ⟨below, laterBounded⟩
          have continues :
              update.firstUpdateId = previous.lastUpdateId + 1 := by
            apply UInt64.toNat_inj.mp
            rw [toNat_succ below]
            exact adjacent
          have followed :=
            induction later laterBounded (world.applyLive env update)
          rw [List.getLast_cons (List.cons_ne_nil _ _)]
          exact
            (consume_cons_again
              (runLiveBody_follow accepted continues) _).trans followed

/-- Live mode waits or stops for another reason when no frame is next. -/
theorem runLive_no_sequenceGap
    {env : Env} {prevLastId : UInt64} {world : World D}
    {rest : List (Option WsEvent)}
    (boundary : ∀ raw, rest.head? ≠ some (some (.message raw)))
    (expected got : UInt64) (final : World D) :
    (runLive env prevLastId world rest).1 ≠
      .leave (.sequenceGap expected got, final) := by
  rcases rest with _ | ⟨_ | raw | _, rest⟩
  · intro same
    cases same
  · intro same
    cases same
  · exact absurd rfl (boundary raw)
  · intro same
    cases same

/-! ## The machine runs the loops -/

/-- The machine takes what the handshake loop takes and ends where it ends. -/
theorem exec_findFirstValidEvent
    (env : Env) (world : World D) (breaker : CircuitBreaker)
    (snapshotLastId : UInt64) (events : List (Option WsEvent)) :
    ∃ taken,
      events =
          taken ++ (findFirstValidEvent env snapshotLastId world events).2 ∧
        (manager D env).exec ⟨world, breaker, .handshake snapshotLastId⟩
            (taken.map .recv) =
          some
            (onHandshake ⟨world, breaker, .handshake snapshotLastId⟩
              (findFirstValidEvent env snapshotLastId world events).1
              snapshotLastId) := by
  let ends : Flow (World D) (Option UInt64 × World D) → State D :=
    fun decision =>
      onHandshake ⟨world, breaker, .handshake snapshotLastId⟩ decision
        snapshotLastId
  have iteration : ∀ (carried : World D) (event : Option WsEvent),
      (manager D env).step (ends (.again carried)) (.recv event) =
        some
          ((findFirstValidEventBody env snapshotLastId carried event).elim
            (ends ∘ .again) (ends ∘ .leave)) := by
    intro carried event
    refine (step_recv_handshake env carried breaker _ event).trans ?_
    cases findFirstValidEventBody env snapshotLastId carried event <;> rfl
  rcases exec_consume iteration world events with ⟨taken, split, executes⟩
  refine ⟨taken, split, executes.trans (congrArg some ?_)⟩
  show Flow.elim _ _ _ = ends (findFirstValidEvent _ _ _ _).1
  rw [findFirstValidEvent]
  cases (consume (findFirstValidEventBody env snapshotLastId)
    world events).1 <;> rfl

theorem exec_runLive
    (env : Env) (world : World D) (breaker : CircuitBreaker)
    (prevLastId : UInt64) (events : List (Option WsEvent)) :
    ∃ taken,
      events = taken ++ (runLive env prevLastId world events).2 ∧
        (manager D env).exec ⟨world, breaker, .live prevLastId⟩
            (taken.map .recv) =
          some
            (onLive ⟨world, breaker, .live prevLastId⟩
              (runLive env prevLastId world events).1) := by
  let ends : Flow (UInt64 × World D) (LiveResult × World D) → State D :=
    onLive ⟨world, breaker, .live prevLastId⟩
  have iteration : ∀ (carried : UInt64 × World D) (event : Option WsEvent),
      (manager D env).step (ends (.again carried)) (.recv event) =
        some
          ((runLiveBody env carried event).elim
            (ends ∘ .again) (ends ∘ .leave)) := by
    rintro ⟨carriedId, carried⟩ event
    refine (step_recv_live env carried breaker _ event).trans ?_
    rcases runLiveBody env (carriedId, carried) event with
      _ | ⟨_ | _ | _, _⟩ <;> rfl
  rcases exec_consume iteration (prevLastId, world) events with
    ⟨taken, split, executes⟩
  refine ⟨taken, split, executes.trans (congrArg some ?_)⟩
  show Flow.elim _ _ _ = ends (runLive _ _ _ _).1
  rw [runLive]
  cases (consume (runLiveBody env) (prevLastId, world) events).1 <;> rfl

/-- The machine runs the handshake loop and then the live loop. -/
theorem exec_queue
    {env : Env} {snapshotLastId firstLastId prevLastId : UInt64}
    {world middle final : World D} {first second : List (Option WsEvent)}
    (handshake :
      findFirstValidEvent env snapshotLastId world (first ++ second) =
        (.leave (some firstLastId, middle), second))
    (live : runLive env firstLastId middle second =
      (.again (prevLastId, final), []))
    (breaker : CircuitBreaker) :
    (manager D env).exec ⟨world, breaker, .handshake snapshotLastId⟩
        ((first ++ second).map .recv) =
      some ⟨final, breaker, .live prevLastId⟩ := by
  rcases
      exec_findFirstValidEvent env world breaker snapshotLastId
        (first ++ second) with
    ⟨taken, split, connected⟩
  rcases exec_runLive env middle breaker firstLastId second with
    ⟨later, all, followed⟩
  rw [handshake] at split connected
  rw [live] at all followed
  have whole : later = second := by simpa using all.symm
  have isFirst : taken = first := (List.append_cancel_right split).symm
  rw [isFirst] at connected
  rw [whole] at followed
  rw [List.map_append, GuardedMachine.exec_append, connected]
  exact followed

/-! ## No spurious resync -/

/--
What the two loops make of a queue that splits into discarded frames, the
frame of a bridging update, and later frames.
-/
structure QueueFollowed (env : Env) (snapshot : Snapshot D)
    (world : World D) (rest : List (Option WsEvent))
    (before : List String) (raw : String) (after : List String)
    (bridge : DepthUpdate D) (followed : World D) : Prop where
  discarded : ∀ update ∈ updatesIn D env before,
    update.lastUpdateId ≤ snapshot.lastUpdateId
  accepted : parsed D env raw = some bridge
  fresh : snapshot.lastUpdateId < bridge.lastUpdateId
  handshake :
    findFirstValidEvent env snapshot.lastUpdateId world
        (messages (before ++ raw :: after) ++ rest) =
      (.leave (some bridge.lastUpdateId, world.applyDiff bridge),
        messages after ++ rest)
  live :
    runLive env bridge.lastUpdateId (world.applyDiff bridge)
        (messages after ++ rest) =
      runLive env followed.book.lastUpdateId followed rest
  no_sequenceGap : ∀ expected got final,
    (runLive env bridge.lastUpdateId (world.applyDiff bridge)
        (messages after ++ rest)).1 ≠
      .leave (.sequenceGap expected got, final)
  applied_once :
    writtenSince followed.journal =
      ⟨(writtenSince world.journal).snapshot,
        (writtenSince world.journal).updates ++
          bridge :: updatesIn D env after⟩
  book :
    followed.book =
      (applySnapshotToBook OrderBook.new snapshot).applyAll
        (bridge :: updatesIn D env after)
  newest : ∀ last ∈ (updatesIn D env (before ++ raw :: after)).getLast?,
    followed.book.lastUpdateId = last.lastUpdateId
  machine : ∀ breaker : CircuitBreaker,
    (manager D env).exec
        ⟨world, breaker, .handshake snapshot.lastUpdateId⟩
        ((messages (before ++ raw :: after)).map .recv) =
      some ⟨followed, breaker, .live followed.book.lastUpdateId⟩

/-- In a chain that reaches back to an id, the first newer update connects. -/
theorem firstUpdateId_le_of_chain
    {env : Env} {snapshotLastId : UInt64} {before after : List String}
    {raw : String} {bridge : DepthUpdate D}
    (contiguous :
      List.IsChain Contiguous (updatesIn D env (before ++ raw :: after)))
    (reaches : ∀ first ∈
        (updatesIn D env (before ++ raw :: after)).head?,
      first.firstUpdateId.toNat ≤ snapshotLastId.toNat + 1)
    (stale : ∀ update ∈ updatesIn D env before,
      update.lastUpdateId ≤ snapshotLastId)
    (accepted : parsed D env raw = some bridge) :
    bridge.firstUpdateId.toNat ≤ snapshotLastId.toNat + 1 := by
  rw [updatesIn_split accepted] at contiguous reaches
  cases last : (updatesIn D env before).getLast? with
  | none =>
      rw [List.getLast?_eq_none_iff] at last
      exact reaches bridge (by rw [last]; rfl)
  | some previous =>
      have adjacent : Contiguous previous bridge :=
        (List.isChain_append.mp contiguous).2.2 previous last bridge rfl
      have old : previous.lastUpdateId ≤ snapshotLastId :=
        stale previous (List.mem_of_getLast? last)
      rw [UInt64.le_iff_toNat_le] at old
      rw [Contiguous] at adjacent
      omega

/-- A queue split at its first newer frame, which connects, is followed. -/
theorem queueFollowed_of_split
    {env : Env} {snapshot : Snapshot D} {world : World D}
    (installed : world.book = applySnapshotToBook OrderBook.new snapshot)
    {rest : List (Option WsEvent)}
    (boundary : ∀ raw, rest.head? ≠ some (some (.message raw)))
    {before after : List String} {raw : String} {bridge : DepthUpdate D}
    (discarded : ∀ update ∈ updatesIn D env before,
      update.lastUpdateId ≤ snapshot.lastUpdateId)
    (accepted : parsed D env raw = some bridge)
    (fresh : snapshot.lastUpdateId < bridge.lastUpdateId)
    (reached : bridge.firstUpdateId ≤ snapshot.lastUpdateId + 1)
    (chain : List.IsChain Contiguous (bridge :: updatesIn D env after))
    (bound : ∀ update ∈ bridge :: updatesIn D env after,
      update.lastUpdateId.toNat < 2 ^ 64 - 1) :
    QueueFollowed env snapshot world rest before raw after bridge
      ((world.applyDiff bridge).followAll env (updatesIn D env after)) := by
  have book :
      ((world.applyDiff bridge).followAll env (updatesIn D env after)).book =
        (applySnapshotToBook OrderBook.new snapshot).applyAll
          (bridge :: updatesIn D env after) := by
    rw [followAll_book, World.applyDiff, installed]
    rfl
  have newest :
      ((world.applyDiff bridge).followAll env
          (updatesIn D env after)).book.lastUpdateId =
        ((bridge :: updatesIn D env after).getLast
          (List.cons_ne_nil _ _)).lastUpdateId := by
    rw [book, OrderBook.applyAll_lastUpdateId]
  have handshake : ∀ later : List (Option WsEvent),
      findFirstValidEvent env snapshot.lastUpdateId world
          (messages (before ++ raw :: after) ++ later) =
        (.leave (some bridge.lastUpdateId, world.applyDiff bridge),
          messages after ++ later) := by
    intro later
    rw [messages, List.map_append, List.append_assoc]
    exact
      findFirstValidEvent_connects discarded accepted fresh reached
        world (messages after ++ later)
  have live : ∀ later : List (Option WsEvent),
      runLive env bridge.lastUpdateId (world.applyDiff bridge)
          (messages after ++ later) =
        runLive env
          ((world.applyDiff bridge).followAll env
            (updatesIn D env after)).book.lastUpdateId
          ((world.applyDiff bridge).followAll env (updatesIn D env after))
          later := by
    intro later
    rw [newest]
    exact runLive_follows chain bound (world.applyDiff bridge) later
  exact
    { discarded := discarded
      accepted := accepted
      fresh := fresh
      handshake := handshake rest
      live := live rest
      no_sequenceGap := by
        intro expected got final
        rw [live rest]
        exact runLive_no_sequenceGap boundary expected got final
      applied_once := by
        rw [writtenSince_followAll, World.applyDiff, writtenSince_snoc]
        simp [Cycle.write]
      book := book
      newest := by
        intro last isLast
        rw [updatesIn_split accepted,
          List.getLast?_append_of_ne_nil _ (List.cons_ne_nil _ _),
          List.getLast?_eq_some_getLast (List.cons_ne_nil _ _),
          Option.mem_some_iff] at isLast
        rw [newest, isLast]
      machine := by
        have queue : messages (before ++ raw :: after) =
            messages (before ++ [raw]) ++ messages after := by
          simp [messages]
        have connected := handshake []
        have waits := live []
        simp only [List.append_nil] at connected waits
        rw [queue] at connected ⊢
        exact exec_queue connected waits }

/--
A queue whose parseable frames form a chain reaching back to the snapshot is
followed without a resync: the handshake discards exactly the frames before
the first newer one and connects there, and live mode applies every later
frame once and in order.  If no frame is newer, all are discarded.
-/
theorem queue_followed
    (env : Env) (snapshot : Snapshot D) (world : World D)
    (installed : world.book = applySnapshotToBook OrderBook.new snapshot)
    {raws : List String} {rest : List (Option WsEvent)}
    (boundary : ∀ raw, rest.head? ≠ some (some (.message raw)))
    (contiguous : List.IsChain Contiguous (updatesIn D env raws))
    (bounded : ∀ update ∈ updatesIn D env raws,
      update.lastUpdateId.toNat < 2 ^ 64 - 1)
    (reaches : ∀ first ∈ (updatesIn D env raws).head?,
      first.firstUpdateId.toNat ≤ snapshot.lastUpdateId.toNat + 1) :
    ((∃ update ∈ updatesIn D env raws,
        snapshot.lastUpdateId < update.lastUpdateId) →
      ∃ before raw after bridge followed,
        raws = before ++ raw :: after ∧
        QueueFollowed env snapshot world rest before raw after bridge
          followed) ∧
    ((∀ update ∈ updatesIn D env raws,
        update.lastUpdateId ≤ snapshot.lastUpdateId) →
      findFirstValidEvent env snapshot.lastUpdateId world (messages raws) =
          (.again world, []) ∧
        findFirstValidEvent env snapshot.lastUpdateId world
            (messages raws ++ rest) =
          findFirstValidEvent env snapshot.lastUpdateId world rest) := by
  constructor
  · intro exists_fresh
    rcases exists_first_fresh exists_fresh with
      ⟨before, raw, after, bridge, rfl, discarded, accepted, fresh⟩
    have reached : bridge.firstUpdateId ≤ snapshot.lastUpdateId + 1 := by
      rw [UInt64.le_iff_toNat_le, toNat_succ_of_lt fresh]
      exact
        firstUpdateId_le_of_chain contiguous reaches discarded accepted
    rw [updatesIn_split accepted] at contiguous bounded
    have chain : List.IsChain Contiguous (bridge :: updatesIn D env after) :=
      (List.isChain_append.mp contiguous).2.1
    have bound : ∀ update ∈ bridge :: updatesIn D env after,
        update.lastUpdateId.toNat < 2 ^ 64 - 1 :=
      fun update member => bounded update (List.mem_append_right _ member)
    exact
      ⟨before, raw, after, bridge, _, rfl,
        queueFollowed_of_split installed boundary discarded accepted fresh
          reached chain bound⟩
  · intro stale
    constructor
    · have waits := findFirstValidEvent_stale stale world []
      rw [List.append_nil] at waits
      exact waits
    · exact findFirstValidEvent_stale stale world rest

/-- A garbled frame, then the frame that bridges id 101, then the next one. -/
theorem queue_followed_sample :
    ∃ before raw after bridge followed,
      ["garbled", bridgeText, nextText] = before ++ raw :: after ∧
        QueueFollowed sampleEnv (⟨101, [], []⟩ : Snapshot ℚ)
          (World.new.installSnapshot ⟨101, [], []⟩) [some .reconnected]
          before raw after bridge followed :=
  (queue_followed sampleEnv ⟨101, [], []⟩ _ rfl (by simp)
    (by decide +kernel) (by decide +kernel) (by decide +kernel)).1
    (by decide +kernel)

end CryptoOrderbook.Manager
