import CryptoOrderbook.Orderbook.Book

/-!
# The pushed top-of-book message

`src/api/ws_push.rs`: the record broadcast to `/ws/book` subscribers after an
update.  `serde_json::to_string` is a parameter; `none` stands for its error,
which the code discards.
-/

namespace CryptoOrderbook.Push

open CryptoOrderbook.Book

variable {D : Type} [Decimal D]

/-- A compact top-of-book snapshot. -/
structure BookPush where
  symbol : String
  bestBidPrice : Option String
  bestAskPrice : Option String
  spread : Option String
  microPrice : Option String
  lastUpdateId : UInt64
deriving DecidableEq, Repr

/-- The record `serialize_push` builds from its arguments. -/
def bookPush
    (symbol : String) (bid ask : Option (PriceLevel D))
    (spread microPrice : Option D) (lastUpdateId : UInt64) : BookPush where
  symbol := symbol
  bestBidPrice := bid.map fun level => Decimal.toString level.price
  bestAskPrice := ask.map fun level => Decimal.toString level.price
  spread := spread.map Decimal.toString
  microPrice := microPrice.map Decimal.toString
  lastUpdateId := lastUpdateId

/-- Serialize a push message, `none` if serialization fails. -/
def serializePush
    (toJson : BookPush → Option String) (symbol : String)
    (bid ask : Option (PriceLevel D)) (spread microPrice : Option D)
    (lastUpdateId : UInt64) : Option String :=
  toJson (bookPush symbol bid ask spread microPrice lastUpdateId)

/-- One optional text field of a JSON object. -/
def jsonField (name : String) (value : Option String) : String :=
  "\"" ++ name ++ "\":" ++
    match value with
    | some text => "\"" ++ text ++ "\""
    | none => "null"

/-- The JSON text of a push message whose texts need no escapes. -/
def plainJson (push : BookPush) : String :=
  "\x7b" ++ jsonField "symbol" (some push.symbol) ++ "," ++
    jsonField "best_bid_price" push.bestBidPrice ++ "," ++
    jsonField "best_ask_price" push.bestAskPrice ++ "," ++
    jsonField "spread" push.spread ++ "," ++
    jsonField "micro_price" push.microPrice ++ "," ++
    "\"last_update_id\":" ++ toString push.lastUpdateId.toNat ++ "\x7d"

end CryptoOrderbook.Push
