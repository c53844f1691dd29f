import CryptoOrderbook.Orderbook.Book
import CryptoOrderbook.Trades.Vwap

/-!
# HTTP handlers

The handlers of `src/api/routes.rs` read the book or the VWAP window under
its lock.  A handler is a function of what it reads.
-/

namespace CryptoOrderbook.Routes

open CryptoOrderbook.Book
open CryptoOrderbook.Vwap

variable {D : Type} [Decimal D]

/-- The status codes the health endpoint answers with. -/
inductive StatusCode where
  | ok
  | serviceUnavailable
deriving DecidableEq, Repr

/-- The body of `GET /health`. -/
structure HealthResponse where
  status : String
  synced : Bool
  bidDepth : Nat
  askDepth : Nat
  lastUpdateId : UInt64
deriving DecidableEq, Repr

/-- `GET /health`. -/
def health (book : OrderBook D) : StatusCode × HealthResponse :=
  let synced : Bool := book.lastUpdateId > 0
  let code := if synced then StatusCode.ok else StatusCode.serviceUnavailable
  (code,
    { status := if synced then "ok" else "syncing"
      synced := synced
      bidDepth := book.bidDepth
      askDepth := book.askDepth
      lastUpdateId := book.lastUpdateId })

/-- The book is reported as synced, with status 200. -/
def ReportsSynced (book : OrderBook D) : Prop :=
  (health book).1 = .ok ∧ (health book).2.synced = true

/-- The book is reported as syncing, with status 503. -/
def ReportsSyncing (book : OrderBook D) : Prop :=
  (health book).1 = .serviceUnavailable ∧
    (health book).2.synced = false ∧
    (health book).2.status = "syncing"

theorem reportsSynced_iff (book : OrderBook D) :
    ReportsSynced book ↔ book.lastUpdateId ≠ 0 := by
  constructor
  · intro reported zero
    simp [ReportsSynced, health, zero] at reported
  · intro nonzero
    have positive : book.lastUpdateId > 0 := UInt64.pos_iff_ne_zero.mpr nonzero
    simp [ReportsSynced, health, positive]

theorem reportsSyncing_iff (book : OrderBook D) :
    ReportsSyncing book ↔ book.lastUpdateId = 0 := by
  constructor
  · intro reported
    by_contra nonzero
    have positive : book.lastUpdateId > 0 := UInt64.pos_iff_ne_zero.mpr nonzero
    simp [ReportsSyncing, health, positive] at reported
  · intro zero
    simp [ReportsSyncing, health, zero]

/-- The body of `GET /book/vwap`. -/
structure VwapResponse (D : Type) where
  symbol : String
  vwap1m : Option D
  volume1m : D
deriving DecidableEq, Repr

/-- `GET /book/vwap`. -/
def vwapHandler (symbol : String) (window : VwapWindow D) : VwapResponse D :=
  ⟨symbol, window.vwap, window.volume⟩

end CryptoOrderbook.Routes
