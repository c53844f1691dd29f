import CryptoOrderbook.Orderbook.LastWriter
import CryptoOrderbook.Orderbook.TopOfBook
import CryptoOrderbook.Orderbook.MicroPrice
import CryptoOrderbook.Orderbook.Imbalance
import CryptoOrderbook.Orderbook.NegativeQuantities
import CryptoOrderbook.Orderbook.Health
import CryptoOrderbook.Orderbook.Shutdown
import CryptoOrderbook.Orderbook.SnapshotRetry
import CryptoOrderbook.Orderbook.RequestRate
import CryptoOrderbook.Orderbook.RunLoop
import CryptoOrderbook.Orderbook.Cycles
import CryptoOrderbook.Orderbook.LockPoints
import CryptoOrderbook.Orderbook.AbandonedHandshake
import CryptoOrderbook.Orderbook.PendingQueue
import CryptoOrderbook.Orderbook.SequenceArithmetic
import CryptoOrderbook.Orderbook.Publication
import CryptoOrderbook.Orderbook.Replica
import CryptoOrderbook.Orderbook.Market
import CryptoOrderbook.Orderbook.RejectedFrames
import CryptoOrderbook.Orderbook.LockedSection
import CryptoOrderbook.Orderbook.DepthGauges
import CryptoOrderbook.Orderbook.SnapshotErrors
import CryptoOrderbook.Ws.ClientEvents
import CryptoOrderbook.Ws.FailedAttempts
import CryptoOrderbook.Ws.Feed
import CryptoOrderbook.Pipeline.Outage
import CryptoOrderbook.Pipeline.Counters
import CryptoOrderbook.Pipeline.DepthFeed
import CryptoOrderbook.Pipeline.Recovery
import CryptoOrderbook.Trades.ServedVwap
import CryptoOrderbook.Trades.LateTrades
import CryptoOrderbook.Trades.MeanPrice
import CryptoOrderbook.Trades.Residue
import CryptoOrderbook.Trades.TradeStream
import CryptoOrderbook.Api.DriveClient
import CryptoOrderbook.Api.Forwarding
import CryptoOrderbook.Api.BookHandlers
import CryptoOrderbook.Api.Pressure
import CryptoOrderbook.Api.Quotes
import CryptoOrderbook.Api.Service
import CryptoOrderbook.Api.Gauges
