import CryptoOrderbook.Decimal

/-!
# Depth frames

The events that cross the channel from the WebSocket client to the manager,
and the conversion of Binance's wire format into depth updates
(`src/ws/mod.rs`, `src/ws/binance.rs`).

`serde_json::from_str` is a parameter of the parser: it either yields the raw
frame with its string entries or the text of its error.  Everything after
deserialization, in particular the order in which the entries of a frame are
converted and the first error reported, is the repository's own.
-/

namespace CryptoOrderbook.Binance

variable {D : Type} [Decimal D]

/-- The event type between the WebSocket client and the manager. -/
inductive WsEvent where
  | message (raw : String)
  | reconnected
deriving DecidableEq, Repr

/-- The errors of frame and snapshot parsing, with their texts. -/
inductive AppError where
  | parse (error : String)
  | invalidField (text : String)
deriving DecidableEq, Repr

/-- The shape Binance sends over the WebSocket. -/
structure RawDepthUpdate where
  firstUpdateId : UInt64
  lastUpdateId : UInt64
  bids : List (String × String)
  asks : List (String × String)
deriving DecidableEq, Repr

/-- A price and the new total quantity at that price. -/
structure PriceLevel (D : Type) where
  price : D
  quantity : D
deriving DecidableEq, Repr

/-- Binance signals deletion of a level by quantity zero. -/
def PriceLevel.isRemoval (level : PriceLevel D) : Bool :=
  Decimal.isZero level.quantity

/-- A fully parsed depth update event. -/
structure DepthUpdate (D : Type) where
  firstUpdateId : UInt64
  lastUpdateId : UInt64
  bids : List (PriceLevel D)
  asks : List (PriceLevel D)
deriving DecidableEq, Repr

/-- Convert one `[price, quantity]` entry, price first. -/
def parseEntry (badPrice badQuantity : String) (entry : String × String) :
    Except AppError (PriceLevel D) :=
  match Decimal.fromStr entry.1 with
  | .error error =>
      .error (.invalidField (badPrice ++ " '" ++ entry.1 ++ "': " ++ error))
  | .ok price =>
      match Decimal.fromStr entry.2 with
      | .error error =>
          .error (.invalidField (badQuantity ++ " '" ++ entry.2 ++ "': " ++ error))
      | .ok quantity => .ok ⟨price, quantity⟩

/-- Convert the entries in order, stopping at the first bad one. -/
def parseEntries (badPrice badQuantity : String) :
    List (String × String) → Except AppError (List (PriceLevel D))
  | [] => .ok []
  | entry :: rest =>
      match parseEntry badPrice badQuantity entry with
      | .error error => .error error
      | .ok level =>
          match parseEntries badPrice badQuantity rest with
          | .error error => .error error
          | .ok levels => .ok (level :: levels)

/-- The levels of a depth frame. -/
def parseLevels (raw : List (String × String)) :
    Except AppError (List (PriceLevel D)) :=
  parseEntries "invalid price" "invalid quantity" raw

/-- Bids are converted before asks. -/
def convert (raw : RawDepthUpdate) : Except AppError (DepthUpdate D) :=
  match parseLevels raw.bids with
  | .error error => .error error
  | .ok bids =>
      match parseLevels raw.asks with
      | .error error => .error error
      | .ok asks => .ok ⟨raw.firstUpdateId, raw.lastUpdateId, bids, asks⟩

/-- Parse a raw JSON string from the WebSocket into a depth update. -/
def parseDepthUpdate
    (fromStr : String → Except String RawDepthUpdate) (raw : String) :
    Except AppError (DepthUpdate D) :=
  match fromStr raw with
  | .error error => .error (.parse error)
  | .ok frame => convert frame

end CryptoOrderbook.Binance
