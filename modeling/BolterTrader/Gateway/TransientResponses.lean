import BolterTrader.Adapters.Binance
import BolterTrader.Adapters.BybitBitget
import BolterTrader.Adapters.GateErrors
import BolterTrader.Adapters.Hyperliquid
import BolterTrader.Adapters.Lighter
import BolterTrader.Adapters.Okx

/-! Placements that were answered by a proxy, a failing server or a throttle. -/
namespace BolterTrader.Gateway
open Foundations Exchange Adapters

inductive PlacePath where
 | bybitBitget (client:ClientMeta) (native:String)
 | binance (market:Binance.Market) (nativeSymbol:String)
 | okx (product:Product) (instrument:Instrument)
 | gate (client:ClientMeta) (instrument:Instrument)
 | hyperliquid (product:Product) (instrument:Instrument) (tracker:Option Hyperliquid.RequestTracker)
 | lighter (product:Product) (instrument:Instrument) (hasClient:Bool)
  (tracker:Option Lighter.SendTracker)

def PlacePath.failure (path:PlacePath) (clientOrderId:String) (err:NativeError):
 OrderAcknowledgement×Option NativeError:=
 match path with
 | .bybitBitget client native=>placeFailure client native clientOrderId err
 | .binance market nativeSymbol=>Binance.placeFailure market nativeSymbol clientOrderId err
 | .okx product instrument=>Okx.okxCommandTransportAck product .place instrument "" clientOrderId err
 | .gate client instrument=>Gate.gateCommandErr client .place instrument "" clientOrderId err
 | .hyperliquid product instrument tracker=>
  Hyperliquid.hlMutationErr product .place instrument "" clientOrderId err tracker
 | .lighter product instrument hasClient tracker=>
  let result:=Lighter.lighterCommandErr product .place instrument "" clientOrderId err hasClient tracker
  (result.ack,result.err)

theorem PlacePath.failure_cases (path:PlacePath) (coi:String) (err:NativeError):
 (∃ ack mpp venue prod op,
  path.failure coi err=normalizeHttpCommand ack mpp err venue prod op)∨
 ∃ cl msg,path.failure coi err=({},some (malformed cl "PlaceOrder" msg)):=by
 cases path with
 | bybitBitget cl=>
  simp only[failure,placeFailure,commandAck]
  split_ifs
  all_goals grind
 | binance market=>
  left
  cases market
  · simp only[failure,Binance.placeFailure,Binance.binanceSpotCommandAck]
    split_ifs<;>exact ⟨_,_,_,_,_,rfl⟩
  · simp only[failure,Binance.placeFailure,Binance.binancePerpCommandErrorAck]
    split_ifs<;>exact ⟨_,_,_,_,_,rfl⟩
 | okx | gate | hyperliquid | lighter=>exact .inl ⟨_,_,_,_,_,rfl⟩

/-- A transient response never becomes a rejection, at any venue. -/
theorem transient_never_rejected (path:PlacePath) (clientOrderId:String) (err:SdkError)
 (http:HttpError) (hmem:Fault.http http∈err.error.chain)
 (hstatus:500≤http.statusCode∨http.statusCode=408∨http.statusCode=429∨http.statusCode=418)
 (hlocal:∀ refusal,Fault.localRateLimit refusal∉err.error.chain)
 (id:String) (request:PlaceOrderRequest) (now:Int):
 (classify id request (path.failure clientOrderId err.error).1
  (path.failure clientOrderId err.error).2 now).status≠.rejected:=by
 have hfd:err.error.as? Fault.http?=some http:=as?_http_of_mem err.once hmem
 have ht:transientResponse err.error=true:=by
  have htra:transientStatus http.statusCode=true:=by
   simpa[transientStatus,or_assoc] using hstatus
  simp[transientResponse,hfd,htra]
 have hnone:err.error.as? Fault.localRateLimit?=none:=by
  rw[ErrorTree.as?_eq_none_iff]
  intro fault hfau
  cases fault with
  | localRateLimit refusal=>exact absurd hfau (hlocal refusal)
  | _=>rfl
 rcases path.failure_cases clientOrderId err.error with
  ⟨ack,mapped,venue,product,operation,hpath⟩ | ⟨client,message,hpath⟩
 · have hunk:=commandVerdict_transient id request now ack mapped ht venue product operation
    (by simp[hnone])
   rw[hpath]
   intro hrej
   have hver:(commandVerdict id request now ack mapped err.error venue product operation).status =
    .rejected:=hrej
   rw[hunk] at hver
   cases hver
 · have hopen:rejects .unset {kind:=.malformedResponse}=false:=by decide
   have hunk:(classify id request {} (some (malformed client "PlaceOrder" message)) now).status =
     if rejects .unset {kind:=.malformedResponse} then .rejected else .unknown:=
    classify_leaf_status id request {} _ now
   rw[hpath,hunk,hopen]
   simp

def unavailable:SdkError:=
 { error:=.wrap (.http {statusCode:=503}) (.leaf (.okx {code:="51008",message:="insufficient balance" }))
   once:=by decide}

theorem transient_never_rejected_okx :
 Fault.http {statusCode:=503}∈unavailable.error.chain∧
 (classify "okx:spot:BTC-USDT" {}
  ((PlacePath.okx .spot {}).failure "7" unavailable.error).1
  ((PlacePath.okx .spot {}).failure "7" unavailable.error).2 0).status≠.rejected:=
 ⟨by decide,transient_never_rejected (.okx .spot {}) "7" unavailable {statusCode:=503} (by decide)
  (.inl (by decide)) (by intro refusal h; simp[unavailable,ErrorTree.wrap,ErrorTree.leaf,ErrorTree.chain,ErrorTree.chains] at h) "okx:spot:BTC-USDT" {} 0⟩

end BolterTrader.Gateway
