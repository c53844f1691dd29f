import CryptoOrderbook.Orderbook.SyncCycle

/-!
# What an abandoned handshake costs

A handshake that ends with a sync gap has already taken the event that did
not connect out of the channel, and nothing puts it back.  A later snapshot
that falls inside that event's range therefore finds the event gone and
reports a gap too, although the stream was lossless.

On a lossless stream the handshake gives up only on snapshots older than the
whole stream, and connects at the event a snapshot falls into, exactly when
no event taken by an earlier cycle ends after the snapshot.
-/

namespace CryptoOrderbook.Manager

open CryptoOrderbook.Library
open CryptoOrderbook.Binance
open CryptoOrderbook.Book
open CryptoOrderbook.Breaker

variable {D : Type} [Decimal D]

/-! ## Streams -/

/-- The update an interaction brings, if it brings a parseable one. -/
def receivedBy (D : Type) [Decimal D] (env : Env) :
    Label → Option (DepthUpdate D)
  | .recv (some (.message raw)) => parsed D env raw
  | _ => none

/-- Every parseable update a run has taken out of the channel, in order. -/
def receivedAll (D : Type) [Decimal D] (env : Env) (labels : List Label) :
    List (DepthUpdate D) :=
  labels.filterMap (receivedBy D env)

/-- One connection that delivers every event of a contiguous stream. -/
structure Lossless (D : Type) [Decimal D] (env : Env) (labels : List Label) :
    Prop where
  one_connection : ∀ event, .recv event ∈ labels →
    ∃ raw, event = some (.message raw)
  forward : ∀ update ∈ receivedAll D env labels,
    update.firstUpdateId.toNat ≤ update.lastUpdateId.toNat
  contiguous : List.IsChain Contiguous (receivedAll D env labels)

/-- The ids of the snapshots a run has obtained, in order. -/
def snapshotIds (D : Type) [Decimal D] (labels : List Label) : List UInt64 :=
  labels.filterMap fun
    | .response _ received =>
        match (fetchSnapshot received : Except AppError (Snapshot D)) with
        | .ok snapshot => some snapshot.lastUpdateId
        | .error _ => none
    | _ => none

theorem receivedAll_append
    (env : Env) (first second : List Label) :
    receivedAll D env (first ++ second) =
      receivedAll D env first ++ receivedAll D env second :=
  List.filterMap_append

theorem Lossless.init
    {env : Env} {first second : List Label}
    (lossless : Lossless D env (first ++ second)) :
    Lossless D env first where
  one_connection event member :=
    lossless.one_connection event (List.mem_append_left _ member)
  forward update member := by
    apply lossless.forward
    rw [receivedAll_append]
    exact List.mem_append_left _ member
  contiguous := by
    have whole := lossless.contiguous
    rw [receivedAll_append] at whole
    exact (List.isChain_append.mp whole).1

omit [Decimal D] in
/-- In a chain of forward ranges, everything before an update ends before it. -/
theorem lastUpdateId_lt_of_chain
    {earlier : List (DepthUpdate D)} {update : DepthUpdate D}
    (contiguous : List.IsChain Contiguous (earlier ++ [update]))
    (forward : ∀ candidate ∈ earlier,
      candidate.firstUpdateId.toNat ≤ candidate.lastUpdateId.toNat) :
    ∀ candidate ∈ earlier,
      candidate.lastUpdateId.toNat < update.firstUpdateId.toNat := by
  induction earlier using List.reverseRecOn generalizing update with
  | nil =>
      intro candidate member
      cases member
  | append_singleton before last induction =>
      rcases List.isChain_append.mp contiguous with ⟨older, -, joins⟩
      have adjacent : Contiguous last update :=
        joins last (by simp) update rfl
      rw [Contiguous] at adjacent
      intro candidate member
      rcases List.mem_append.mp member with isOlder | isLast
      · have beforeLast :=
          induction older
            (fun other isIn => forward other (List.mem_append_left _ isIn))
            candidate isOlder
        have ordered := forward last (by simp)
        omega
      · rw [List.mem_singleton.mp isLast]
        omega

omit [Decimal D] in
/-- The first event of a chain of forward ranges starts it. -/
theorem firstUpdateId_le_of_mem
    {first : DepthUpdate D} {updates : List (DepthUpdate D)}
    (contiguous : List.IsChain Contiguous updates)
    (forward : ∀ candidate ∈ updates,
      candidate.firstUpdateId.toNat ≤ candidate.lastUpdateId.toNat)
    (isFirst : first ∈ updates.head?) :
    ∀ candidate ∈ updates,
      first.firstUpdateId.toNat ≤ candidate.firstUpdateId.toNat := by
  intro candidate member
  rcases List.append_of_mem member with ⟨before, after, rfl⟩
  cases before with
  | nil =>
      rw [List.nil_append, List.head?_cons, Option.mem_some_iff] at isFirst
      rw [isFirst]
  | cons head rest =>
      rw [List.cons_append, List.head?_cons, Option.mem_some_iff] at isFirst
      subst isFirst
      have chain : List.IsChain Contiguous (head :: rest ++ [candidate]) := by
        have split : head :: rest ++ candidate :: after =
            head :: rest ++ [candidate] ++ after := by simp
        rw [split] at contiguous
        exact (List.isChain_append.mp contiguous).1
      have less :=
        lastUpdateId_lt_of_chain chain
          (fun other isIn => forward other (List.mem_append_left _ isIn))
          head List.mem_cons_self
      have ordered := forward head (by simp)
      omega

/-! ## The property and its condition -/

/--
A step that ends a handshake gives up only if the snapshot is older than the
whole stream, and connects at the event whose range the snapshot falls into.
-/
def KeepsBufferedEvents (env : Env) (before : List Label) (state : State D)
    (label : Label) (next : State D) : Prop :=
  ∀ snapshotLastId, state.phase = .handshake snapshotLastId →
    next.phase ≠ .handshake snapshotLastId →
      ((∀ firstLastId, next.phase ≠ .live firstLastId) →
        ∀ first ∈ (receivedAll D env (before ++ [label])).head?,
          snapshotLastId.toNat + 1 < first.firstUpdateId.toNat) ∧
      (∀ event ∈ receivedAll D env (before ++ [label]),
        event.firstUpdateId.toNat ≤ snapshotLastId.toNat + 1 →
          snapshotLastId.toNat + 1 ≤ event.lastUpdateId.toNat →
            next.phase = .live event.lastUpdateId)

/--
When a handshake receives an event, no event taken before it ends after the
snapshot, unless the snapshot is older than the whole stream.
-/
def NoNewerEventTaken (env : Env) (before : List Label) (state : State D)
    (label : Label) (_next : State D) : Prop :=
  ∀ snapshotLastId, state.phase = .handshake snapshotLastId →
    (receivedBy D env label).isSome →
      (∀ earlier ∈ receivedAll D env before,
        earlier.lastUpdateId.toNat ≤ snapshotLastId.toNat) ∨
      (∀ first ∈ (receivedAll D env (before ++ [label])).head?,
        snapshotLastId.toNat + 1 < first.firstUpdateId.toNat)

theorem receivedAll_snoc_accepted
    {env : Env} {before : List Label} {raw : String}
    {update : DepthUpdate D} (accepted : parsed D env raw = some update) :
    receivedAll D env (before ++ [.recv (some (.message raw))]) =
      receivedAll D env before ++ [update] := by
  rw [receivedAll_append]
  exact congrArg (_ ++ ·) (List.filterMap_cons_some accepted)

/-- An event that reaches back to the snapshot follows only older events. -/
theorem noNewerEventTaken_of_reaches
    {env : Env} {before : List Label} {world : World D} {next : State D}
    {breaker : CircuitBreaker} {snapshotLastId : UInt64} {raw : String}
    {update : DepthUpdate D}
    (earlierEnds : ∀ earlier ∈ receivedAll D env before,
      earlier.lastUpdateId.toNat < update.firstUpdateId.toNat)
    (reaches : update.firstUpdateId.toNat ≤ snapshotLastId.toNat + 1) :
    NoNewerEventTaken env before
      ⟨world, breaker, .handshake snapshotLastId⟩
      (.recv (some (.message raw))) next := by
  intro current phase _
  cases phase
  left
  intro earlier member
  have ends := earlierEnds earlier member
  omega

/-- A sync gap keeps the buffered events exactly under the condition. -/
theorem keepsBufferedEvents_syncGap_iff
    {env : Env} {before : List Label} {world : World D} {next : State D}
    {breaker : CircuitBreaker} {snapshotLastId : UInt64} {raw : String}
    {update : DepthUpdate D}
    (lossless :
      Lossless D env (before ++ [.recv (some (.message raw))]))
    (accepted : parsed D env raw = some update)
    (disconnected :
      snapshotLastId.toNat + 1 < update.firstUpdateId.toNat)
    (ended : next.phase = .fetching 0 0) :
    KeepsBufferedEvents env before
        ⟨world, breaker, .handshake snapshotLastId⟩
        (.recv (some (.message raw))) next ↔
      NoNewerEventTaken env before
        ⟨world, breaker, .handshake snapshotLastId⟩
        (.recv (some (.message raw))) next := by
  have all :
      receivedAll D env (before ++ [.recv (some (.message raw))]) =
        receivedAll D env before ++ [update] :=
    receivedAll_snoc_accepted accepted
  have contiguous := lossless.contiguous
  have forward := lossless.forward
  rw [all] at contiguous forward
  constructor
  · intro keeps current phase _
    right
    cases phase
    exact (keeps snapshotLastId rfl (by simp [ended])).1 (by simp [ended])
  · intro condition current phase _
    cases phase
    rw [all]
    rcases condition snapshotLastId rfl (by simp [receivedBy, accepted]) with
      older | beforeStream
    · constructor
      · intro _ first isFirst
        cases last : (receivedAll D env before).getLast? with
        | none =>
            rw [List.getLast?_eq_none_iff] at last
            rw [last] at isFirst
            have same : update = first := by simpa using isFirst
            rw [← same]
            exact disconnected
        | some previous =>
            have adjacent : Contiguous previous update :=
              (List.isChain_append.mp contiguous).2.2 previous last update rfl
            have ends := older previous (List.mem_of_getLast? last)
            rw [Contiguous] at adjacent
            omega
      · intro event member reaches passes
        rcases List.mem_append.mp member with isOlder | isLast
        · have ends := older event isOlder
          omega
        · rw [List.mem_singleton.mp isLast] at reaches
          omega
    · rw [all] at beforeStream
      constructor
      · intro _ first isFirst
        exact beforeStream first isFirst
      · intro event member reaches _
        cases start : (receivedAll D env before ++ [update]).head? with
        | none =>
            rw [List.head?_eq_none_iff] at start
            rw [start] at member
            cases member
        | some first =>
            have less := beforeStream first start
            have least :=
              firstUpdateId_le_of_mem contiguous forward start event member
            omega

/-- A bridging event is the only one the snapshot falls into. -/
theorem keepsBufferedEvents_bridge
    {env : Env} {before : List Label} {world : World D} {next : State D}
    {breaker : CircuitBreaker} {snapshotLastId : UInt64} {raw : String}
    {update : DepthUpdate D}
    (accepted : parsed D env raw = some update)
    (earlierEnds : ∀ earlier ∈ receivedAll D env before,
      earlier.lastUpdateId.toNat < update.firstUpdateId.toNat)
    (reaches : update.firstUpdateId.toNat ≤ snapshotLastId.toNat + 1)
    (live : next.phase = .live update.lastUpdateId) :
    KeepsBufferedEvents env before
      ⟨world, breaker, .handshake snapshotLastId⟩
      (.recv (some (.message raw))) next := by
  intro current phase _
  cases phase
  constructor
  · intro ended
    exact absurd live (ended update.lastUpdateId)
  · intro event member _ passes
    rw [receivedAll_snoc_accepted accepted] at member
    rcases List.mem_append.mp member with isOlder | isLast
    · have ends := earlierEnds event isOlder
      omega
    · rw [List.mem_singleton.mp isLast]
      exact live

theorem keepsBufferedEvents_iff
    {env : Env} {before : List Label} {state next : State D} {label : Label}
    (lossless : Lossless D env (before ++ [label]))
    (step : (manager D env).step state label = some next) :
    KeepsBufferedEvents env before state label next ↔
      NoNewerEventTaken env before state label next := by
  have earlierEnds : ∀ raw (update : DepthUpdate D),
      label = .recv (some (.message raw)) →
        parsed D env raw = some update →
          ∀ earlier ∈ receivedAll D env before,
            earlier.lastUpdateId.toNat < update.firstUpdateId.toNat := by
    rintro raw update rfl accepted
    have contiguous := lossless.contiguous
    rw [receivedAll_snoc_accepted accepted] at contiguous
    exact lastUpdateId_lt_of_chain contiguous lossless.init.forward
  have outside : (∀ snapshotLastId,
      state.phase ≠ .handshake snapshotLastId) →
        (KeepsBufferedEvents env before state label next ↔
          NoNewerEventTaken env before state label next) := by
    intro elsewhere
    constructor
    · intro _ snapshotLastId phase
      exact absurd phase (elsewhere snapshotLastId)
    · intro _ snapshotLastId phase
      exact absurd phase (elsewhere snapshotLastId)
  cases step_iff.mp step with
  | backOff => exact outside (by simp)
  | request => exact outside (by simp)
  | install => exact outside (by simp)
  | fail => exact outside (by simp)
  | handshakeClosed =>
      rcases lossless.one_connection none (by simp) with ⟨raw, isMessage⟩
      cases isMessage
  | handshakeReconnected =>
      rcases lossless.one_connection (some .reconnected) (by simp) with
        ⟨raw, isMessage⟩
      cases isMessage
  | handshakeUnparsed rejected =>
      constructor
      · intro _ snapshotLastId _ received
        rw [receivedBy, rejected] at received
        cases received
      · intro _ snapshotLastId phase exits
        exact absurd phase exits
  | stale accepted old =>
      constructor
      · intro _
        apply noNewerEventTaken_of_reaches (earlierEnds _ _ rfl accepted)
        have ordered := lossless.forward _ (by
          rw [receivedAll_snoc_accepted accepted]
          exact List.mem_append_right _ List.mem_cons_self)
        rw [UInt64.le_iff_toNat_le] at old
        omega
      · intro _ snapshotLastId phase exits
        exact absurd phase exits
  | syncGap accepted fresh disconnected =>
      rw [UInt64.lt_iff_toNat_lt, toNat_succ_of_lt fresh] at disconnected
      exact
        keepsBufferedEvents_syncGap_iff lossless accepted disconnected rfl
  | bridge accepted fresh connects =>
      rw [UInt64.le_iff_toNat_le, toNat_succ_of_lt fresh] at connects
      have ends := earlierEnds _ _ rfl accepted
      exact
        iff_of_true
          (keepsBufferedEvents_bridge accepted ends connects rfl)
          (noNewerEventTaken_of_reaches ends connects)
  | liveClosed => exact outside (by simp)
  | liveReconnected => exact outside (by simp)
  | liveUnparsed => exact outside (by simp)
  | sequenceGap => exact outside (by simp)
  | follow => exact outside (by simp)

/--
On a lossless stream every handshake ends as the buffered events demand
exactly when no handshake receives an event after one that ends past its
snapshot was taken, the snapshots older than the whole stream apart.
-/
theorem everyStep_keepsBufferedEvents_iff
    (env : Env) {labels : List Label} (lossless : Lossless D env labels) :
    (manager D env).EveryStep (KeepsBufferedEvents env) labels ↔
      (manager D env).EveryStep (NoNewerEventTaken env) labels := by
  apply GuardedMachine.everyStep_congr
  intro before label after state next split run step
  apply keepsBufferedEvents_iff _ step
  rw [split, List.append_cons] at lossless
  exact lossless.init

theorem everyStep_keepsBufferedEvents_iff_sample :
    (manager ℚ sampleEnv).EveryStep (KeepsBufferedEvents sampleEnv)
        sampleLabels ↔
      (manager ℚ sampleEnv).EveryStep (NoNewerEventTaken sampleEnv)
        sampleLabels := by
  refine everyStep_keepsBufferedEvents_iff sampleEnv ⟨?_, ?_, ?_⟩
  · intro event member
    have texts : event = some (.message bridgeText) ∨
        event = some (.message nextText) := by
      simpa [sampleLabels] using member
    rcases texts with same | same
    · exact ⟨bridgeText, same⟩
    · exact ⟨nextText, same⟩
  · decide +kernel
  · decide +kernel

/-! ### A snapshot that falls into an event already taken -/

/-- A frame over `[10, 12]`. -/
def takenText : String :=
  "\x7b\"U\":10,\"u\":12,\"b\":[],\"a\":[]\x7d"

/-- A frame over `[13, 14]`. -/
def laterText : String :=
  "\x7b\"U\":13,\"u\":14,\"b\":[],\"a\":[]\x7d"

def takenEnv : Env :=
  .ofFrames [(takenText, ⟨10, 12, [], []⟩), (laterText, ⟨13, 14, [], []⟩)]

/-- Snapshot 5, the first event, then snapshot 11. -/
def abandonedLabels : List Label :=
  [.tick 0, .response 1 (.ok ⟨5, [], []⟩),
    .recv (some (.message takenText)),
    .tick 2, .response 3 (.ok ⟨11, [], []⟩)]

theorem abandonedLabels_enabled :
    ((manager ℚ takenEnv).exec (manager ℚ takenEnv).init
      abandonedLabels).isSome := by
  decide +kernel

/-- In the handshake of snapshot 11, without the event over `[10, 12]`. -/
def abandonedState : State ℚ :=
  ((manager ℚ takenEnv).exec (manager ℚ takenEnv).init
    abandonedLabels).get abandonedLabels_enabled

theorem abandonedRun :
    (manager ℚ takenEnv).Run abandonedLabels abandonedState :=
  .of_enabled abandonedLabels_enabled

theorem regapped_enabled :
    ((manager ℚ takenEnv).step abandonedState
      (.recv (some (.message laterText)))).isSome := by
  decide +kernel

def regappedState : State ℚ :=
  ((manager ℚ takenEnv).step abandonedState
    (.recv (some (.message laterText)))).get regapped_enabled

theorem regapped_lossless :
    Lossless ℚ takenEnv
      (abandonedLabels ++ [.recv (some (.message laterText))]) where
  one_connection := by
    intro event member
    have texts : event = some (.message takenText) ∨
        event = some (.message laterText) := by
      simpa [abandonedLabels] using member
    rcases texts with same | same
    · exact ⟨takenText, same⟩
    · exact ⟨laterText, same⟩
  forward := by decide +kernel
  contiguous := by decide +kernel

/-- Snapshot 11 falls into `[10, 12]`, and its handshake gives up. -/
theorem not_everyStep_keepsBufferedEvents :
    ¬ ∀ (env : Env) (labels : List Label) (state : State ℚ),
      (manager ℚ env).Run labels state →
        Lossless ℚ env labels →
          List.IsChain (· ≤ ·) (snapshotIds ℚ labels) →
            (manager ℚ env).EveryStep (KeepsBufferedEvents env) labels := by
  intro always
  have step :
      (manager ℚ takenEnv).step abandonedState
          (.recv (some (.message laterText))) =
        some regappedState :=
    (Option.some_get regapped_enabled).symm
  have keeps : KeepsBufferedEvents takenEnv abandonedLabels abandonedState
      (.recv (some (.message laterText))) regappedState :=
    (always takenEnv _ _ (abandonedRun.snoc step) regapped_lossless
      (by decide +kernel)).last abandonedRun step
  have handshake : abandonedState.phase = .handshake 11 := by
    decide +kernel
  have gap : regappedState.phase = .fetching 0 0 := by
    decide +kernel
  have connected := (keeps 11 handshake (by simp [gap])).2 ⟨10, 12, [], []⟩
    (by decide +kernel) (by decide) (by decide)
  rw [gap] at connected
  cases connected

end CryptoOrderbook.Manager
