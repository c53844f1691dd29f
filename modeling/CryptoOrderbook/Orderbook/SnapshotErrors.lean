import CryptoOrderbook.Orderbook.Manager
import CryptoOrderbook.Ws.FrameErrors

/-!
# Snapshots are read as frames are

The parser of snapshots differs from the parser of frames in the words of its
reports only: the two accept the same entries, read the same levels and stop
at the same entry.
-/

namespace CryptoOrderbook.Manager

open CryptoOrderbook.Binance

variable {D : Type} [Decimal D]

theorem fetchSnapshot_eq_parseSides (raw : RawSnapshot) :
    (fetchSnapshot (.ok raw) : Except AppError (Snapshot D)) =
      parseSides "bad snapshot price" "bad snapshot qty" raw.bids raw.asks
        (.mk raw.lastUpdateId) :=
  rfl

theorem fetchSnapshot_eq_ok_iff
    {raw : RawSnapshot} {snapshot : Snapshot D} :
    fetchSnapshot (.ok raw) = .ok snapshot ↔
      snapshot.lastUpdateId = raw.lastUpdateId ∧
        List.Forall₂ Reads raw.bids snapshot.bids ∧
        List.Forall₂ Reads raw.asks snapshot.asks := by
  rw [fetchSnapshot_eq_parseSides, parseSides_eq_ok_iff]
  constructor
  · rintro ⟨bids, asks, readBids, readAsks, rfl⟩
    exact ⟨rfl, readBids, readAsks⟩
  · rcases snapshot with ⟨lastUpdateId, bids, asks⟩
    rintro ⟨rfl, readBids, readAsks⟩
    exact ⟨bids, asks, readBids, readAsks, rfl⟩

theorem fetchSnapshot_eq_error_iff {raw : RawSnapshot} {error : AppError} :
    (fetchSnapshot (.ok raw) : Except AppError (Snapshot D)) = .error error ↔
      FirstReported D "bad snapshot price" "bad snapshot qty"
        (raw.bids ++ raw.asks) error := by
  rw [fetchSnapshot_eq_parseSides, parseSides_eq_error_iff]

/--
A frame and a snapshot with the same entries are both accepted, with the same
levels in the order of the entries, or both rejected because of the same
entry: the first one that is not two numbers, bids before asks, reported with
its price if that is not a number and with its quantity otherwise, each in
the words of its parser.
-/
theorem first_bad_entry_decides (D : Type) [Decimal D] (raw : RawDepthUpdate)
    (snapshotId : UInt64) :
    let snapshot : RawSnapshot := ⟨snapshotId, raw.bids, raw.asks⟩
    (∀ bids asks : List (Binance.PriceLevel D),
      (convert raw =
          .ok ⟨raw.firstUpdateId, raw.lastUpdateId, bids, asks⟩ ↔
        List.Forall₂ Reads raw.bids bids ∧
          List.Forall₂ Reads raw.asks asks) ∧
      (fetchSnapshot (.ok snapshot) = .ok ⟨snapshotId, bids, asks⟩ ↔
        List.Forall₂ Reads raw.bids bids ∧
          List.Forall₂ Reads raw.asks asks)) ∧
    ∀ error : AppError,
      ((convert raw : Except AppError (DepthUpdate D)) = .error error ↔
        FirstReported D "invalid price" "invalid quantity"
          (raw.bids ++ raw.asks) error) ∧
      ((fetchSnapshot (.ok snapshot) : Except AppError (Snapshot D)) =
          .error error ↔
        FirstReported D "bad snapshot price" "bad snapshot qty"
          (raw.bids ++ raw.asks) error) := by
  intro snapshot
  constructor
  · intro bids asks
    rw [convert_eq_ok_iff, fetchSnapshot_eq_ok_iff]
    simp [snapshot]
  · intro error
    exact ⟨convert_eq_error_iff, fetchSnapshot_eq_error_iff⟩

/-- The second bid is reported, not the ask, and for its quantity. -/
example :
    (convert ⟨1, 2, [("1", "2"), ("3", "x")], [("y", "4")]⟩ :
        Except AppError (DepthUpdate ℚ)) =
      .error
        (.invalidField
          "invalid quantity 'x': Invalid decimal: unknown character") := by
  decide +kernel

end CryptoOrderbook.Manager
