import BolterTrader.Adapters.BitgetFunding
import BolterTrader.Adapters.BybitFundingTraversal
import BolterTrader.Adapters.BybitPlace
import BolterTrader.Adapters.BybitTopicHub
import BolterTrader.Adapters.DerivativeFeed
import BolterTrader.Adapters.FundingHistory
import BolterTrader.Adapters.FundingPaymentPages
import BolterTrader.Adapters.FundingRetention
import BolterTrader.Adapters.GatePerpPlace
import BolterTrader.Adapters.GateTickers
import BolterTrader.Adapters.LighterNonce
import BolterTrader.Adapters.LighterTicks
import BolterTrader.Adapters.Nado
import BolterTrader.Adapters.OkxPlace
import BolterTrader.Adapters.PositionSnapshots
import BolterTrader.Edgex.Signer
import BolterTrader.ExactLookup.Agreement
import BolterTrader.Gateway.AccountRetained
import BolterTrader.Gateway.Balances
import BolterTrader.Gateway.BookFeed
import BolterTrader.Gateway.HedgedLegs
import BolterTrader.Gateway.HubLinger
import BolterTrader.Gateway.LocalRefusal
import BolterTrader.Gateway.NativeNames
import BolterTrader.Gateway.PositionMessages
import BolterTrader.Gateway.RateTransport
import BolterTrader.Gateway.SnapshotOrder
import BolterTrader.Gateway.Store
import BolterTrader.Gateway.TransientResponses
import BolterTrader.Hyperliquid.ActionHash
import BolterTrader.Hyperliquid.LimitPrice
import BolterTrader.Hyperliquid.Nonces
import BolterTrader.Hyperliquid.PostRequests
import BolterTrader.Hyperliquid.Subscriptions
import BolterTrader.Streams.BitgetDispatch
import BolterTrader.Streams.BitgetLifecycle
import BolterTrader.Streams.BookResync
import BolterTrader.Streams.BookSequence
import BolterTrader.Streams.CallbackCounts
import BolterTrader.Streams.CallbackClients
import BolterTrader.Streams.DispatchOrder
import BolterTrader.Streams.DispatchOverflow
import BolterTrader.Streams.LighterBook
import BolterTrader.Streams.NativeStream
import BolterTrader.Streams.OkxSockets
import BolterTrader.Trader.Server
import BolterTrader.Web.Realtime
import BolterTrader.Web.SnapStep
import BolterTrader.Web.Submission
