import CryptoOrderbook.Orderbook.Publication

/-!
# Diffs of live mode

Only live mode updates the gauges and publishes.  The diff a step applies in
live mode can be read off the step; the journal's books after live diffs are
the shared books after the steps that apply one.
-/

namespace CryptoOrderbook.Manager

open CryptoOrderbook.Binance
open CryptoOrderbook.Book

variable {D : Type} [Decimal D]

/-- The diff a step applies in live mode, if it applies one. -/
def liveDiff (env : Env) (state : State D) (label : Label) :
    Option (DepthUpdate D) :=
  match state.phase, label with
  | .live prevLastId, .recv (some (.message raw)) =>
      match parsed D env raw with
      | some update =>
          if update.firstUpdateId ≠ prevLastId + 1 then none else some update
      | none => none
  | _, _ => none

theorem booksAfterLiveDiffs_snoc_quiet
    (journal : List (Effect D)) {effect : Effect D} (quiet : effect.Quiet) :
    booksAfterLiveDiffs (journal ++ [effect]) =
      booksAfterLiveDiffs journal := by
  rw [booksAfterLiveDiffs, (snoc_quiet journal quiet).1, booksAfterLiveDiffs]

/-- A step adds the book after the diff it applies in live mode. -/
theorem booksAfterLiveDiffs_step
    {env : Env} {state next : State D} {label : Label}
    (replays : Replays state) (transition : Transition env state label next) :
    booksAfterLiveDiffs next.world.journal =
      booksAfterLiveDiffs state.world.journal ++
        ((liveDiff env state label).map fun _ => next.world.book).toList := by
  cases transition with
  | @bridge world breaker snapshotLastId raw update =>
      show booksAfterLiveDiffs (world.journal ++ [.diffApplied update]) = _
      rw [booksAfterLiveDiffs, (snoc_diff world.journal update).1,
        show _ = DiffPlace.inHandshake from replays.2]
      simp [booksAfterLiveDiffs, liveDiff]
  | @follow world breaker prevLastId raw update accepted continues =>
      rw [booksAfterLiveDiffs_applyLive env _ replays.1 replays.2,
        applyLive_book]
      simp [liveDiff, accepted, continues]
  | liveUnparsed rejected => simp [liveDiff, rejected]
  | sequenceGap accepted broken =>
      rw [show liveDiff env _ _ = none by simp [liveDiff, accepted, broken]]
      exact
        (booksAfterLiveDiffs_snoc_quiet _ (by trivial)).trans
          (List.append_nil _).symm
  | install =>
      exact
        (booksAfterLiveDiffs_snoc_quiet _ (by trivial)).trans
          (List.append_nil _).symm
  | syncGap =>
      exact
        (booksAfterLiveDiffs_snoc_quiet _ (by trivial)).trans
          (List.append_nil _).symm
  | _ => exact (List.append_nil _).symm

/-- The book after a step that applies a diff in live mode. -/
theorem book_of_liveDiff
    {env : Env} {state next : State D} {label : Label}
    {update : DepthUpdate D} (transition : Transition env state label next)
    (applied : liveDiff env state label = some update) :
    next.world.book = state.world.book.apply update := by
  cases transition with
  | @follow world breaker prevLastId raw followed accepted continues =>
      have same : followed = update := by
        simpa [liveDiff, accepted, continues] using applied
      rw [applyLive_book, same]
  | liveUnparsed rejected => simp [liveDiff, rejected] at applied
  | sequenceGap accepted broken =>
      simp [liveDiff, accepted, broken] at applied
  | _ => cases applied

/-- Every book after a live diff was the shared book of an earlier state. -/
theorem run_of_mem_booksAfterLiveDiffs
    {env : Env} {labels : List Label} {state : State D} {book : OrderBook D}
    (run : (manager D env).Run labels state)
    (member : book ∈ booksAfterLiveDiffs state.world.journal) :
    ∃ earlier before, (earlier <+: labels) ∧
      (manager D env).Run earlier before ∧ before.world.book = book := by
  induction run with
  | start => cases member
  | @snoc labels state next label run step induction =>
      rw [booksAfterLiveDiffs_step (replays_of_run run) (step_iff.mp step)]
        at member
      rcases List.mem_append.mp member with among | added
      · rcases induction among with ⟨earlier, before, isPrefix, was⟩
        exact
          ⟨earlier, before, isPrefix.trans (List.prefix_append _ _), was⟩
      · rw [Option.mem_toList, Option.map_eq_some_iff] at added
        rcases added with ⟨update, -, same⟩
        exact ⟨_, _, List.prefix_rfl, run.snoc step, same⟩

end CryptoOrderbook.Manager
