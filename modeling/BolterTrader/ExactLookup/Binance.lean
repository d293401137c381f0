import BolterTrader.Adapters.Binance
import BolterTrader.ExactLookup.Shared
import BolterTrader.Foundations.DecimalArith

/-! Exact lookups on Binance (`exact_lookup_binance.go`): the symbol a request
stands for, the order of a response, and the two lookups. -/
namespace BolterTrader.ExactLookup.Binance
open Foundations Foundations.Fallible Exchange Adapters Adapters.Binance Option

def fail (market:Market) (kind:ErrorKind) (message:String):NativeError:=
 .leaf (.exchange (failure market operation kind "" message))

/-! ## Requests -/

def binanceSpotContextErr:Context→Option NativeError
 | .missing=>some (fail .spot .invalidRequest "context is required")
 | .canceled=>some (fail .spot .canceled "")
 | .deadlineExceeded=>some (fail .spot .deadlineExceeded "")
 | .active=>none

def binancePerpReady (endpointPrefix:String):Context→Option NativeError
 | .missing=>some (fail .perp .invalidRequest "context must not be nil")
 | .canceled=>some (fail .perp .canceled "context canceled")
 | .deadlineExceeded=>some (fail .perp .deadlineExceeded "context deadline exceeded")
 | .active=>
  if endpointPrefix≠""∧endpointPrefix≠"/fapi" then
   some (fail .perp .invalidRequest "client is not configured for Binance USD-M /fapi")
  else none

def isAlphanumeric (text:String):Bool:=text.toList.all fun c=>('A' ≤ c && c ≤ 'Z') || ('0' ≤ c && c ≤ '9')

def binanceSpotSymbols (lib:Library) (instrument:Instrument):Except NativeError String:=do
 let invalid:=fail .spot .invalidRequest
 let identity:=instrument.identity
 check (instrument.validate.map fun err=>invalid err.text)
 refuse (identity.venue≠.binance∨identity.product≠.spot)
  (invalid "instrument must be a Binance spot instrument")
 refuse (identity.settleAsset≠"") (invalid "spot instrument must not include settlement asset")
 refuse (identity.symbol≠identity.baseAsset ++ "-" ++ identity.quoteAsset)
  (invalid "instrument symbol must be canonical BASE-QUOTE")
 refuse (identity.nativeSymbol≠identity.baseAsset++identity.quoteAsset)
  (invalid "native symbol must match base and quote assets")
 refuse (identity.symbol≠lib.toUpper identity.symbol∨identity.nativeSymbol≠lib.toUpper identity.nativeSymbol)
  (invalid "instrument must use uppercase Binance symbols")
 return identity.nativeSymbol

def binancePerpRequestSymbols (lib:Library) (instrument:Instrument):Except String String:=do
 let identity:=instrument.identity
 check (instrument.validate.map (·.text))
 refuse (identity.venue≠.binance∨identity.product≠.perp) "instrument must be a Binance USD-M perp instrument"
 refuse (identity.settleAsset=""∨identity.settleAsset≠identity.quoteAsset)
  "instrument settlement must match USD-M quote asset"
 refuse (identity.symbol≠identity.baseAsset ++ "-" ++ identity.quoteAsset)
  "instrument symbol must be canonical BASE-QUOTE"
 refuse (identity.nativeSymbol≠identity.baseAsset++identity.quoteAsset)
  "native symbol must match base and quote assets"
 refuse (identity.symbol≠lib.toUpper identity.symbol∨identity.nativeSymbol≠lib.toUpper identity.nativeSymbol)
  "instrument must use uppercase Binance USD-M symbols"
 refuse (!isAlphanumeric identity.nativeSymbol) "instrument must be alphanumeric"
 refuse (identity.quoteAsset∉["USDT","USDC"]) "instrument must be a USD-M quote symbol"
 return identity.nativeSymbol

def binanceExactLookupVenueOrderId (market:Market) (text:String):Except NativeError Int:=
 if text="" then .ok 0
 else required (fail market .invalidRequest "venue order id must be a positive decimal int64")
  ((Decimal.parseInt64? text).filter fun n=>decide (0<n) && GoText.itoa n == text)

/-! ## Responses -/

structure OrderResponse where
 symbol:String:=""
 orderId:Int:=0
 clientOrderId:String:=""
 price:String:=""
 origQty:String:=""
 executedQty:String:=""
 cummulativeQuoteQty:String:=""
 avgPrice:String:=""
 status:String:=""
 timeInForce:String:=""
 type:String:=""
 side:String:=""
 positionSide:String:=""
 reduceOnly:Bool:=false
 closePosition:Bool:=false
 updateTime:Int:=0

def sideWord (side:String):Option Side:=
 if side="BUY" then some .buy else if side="SELL" then some .sell else none

def nonNegative? (text:String):Option Decimal:=(Decimal.ofString? text).filter fun d=>!d.isNegative

def spotType (row:OrderResponse):Option (Exchange.OrderType×LimitPolicy):=
 if row.type="MARKET" then some (.market,.unset)
 else if row.type="LIMIT_MAKER" then some (.limit,.postOnly)
 else if row.type="LIMIT"∨row.type="" then
  some (.limit,if row.timeInForce="IOC" then .ioc else .resting)
 else none

def perpType (row:OrderResponse):Option (Exchange.OrderType×LimitPolicy):=
 if row.type="MARKET" then some (.market,.unset)
 else if row.type="LIMIT"∨row.type="" then
  some (.limit,if row.timeInForce="IOC" then .ioc else if row.timeInForce="GTX" then .postOnly else .resting)
 else none

def binanceSpotOrder (lib:Library) (row:OrderResponse) (nativeSymbol:String):Except String Order:=do
 refuse (nativeSymbol≠""∧row.symbol≠nativeSymbol) "order symbol does not match requested instrument"
 let nativeSymbol:=if nativeSymbol="" then row.symbol else nativeSymbol
 refuse (row.orderId≤0) "order id must be positive"
 let quantity ← required "order quantity must be non-negative decimal" (nonNegative? row.origQty)
 let limitPrice ← required "order price must be non-negative decimal" (nonNegative? row.price)
 let filled ← required "order filled quantity must be non-negative decimal" (nonNegative? row.executedQty)
 let side ← required ("unknown side " ++ lib.quote row.side) (sideWord row.side)
 let (type,limitPolicy) ← required "unsupported order type" (spotType row)
 let quote:=(Decimal.ofString? row.cummulativeQuoteQty).filter fun quote=>filled.isPositive && quote.isPositive
 return { nativeSymbol,orderId:=GoText.itoa row.orderId,clientOrderId:=row.clientOrderId,side,type
          quantity,limitPrice,limitPolicy,filled,status:=row.status
          averageFillPrice:=quote.map (·.div filled)}

def binancePerpNativeSymbols (lib:Library) (symbol:String):Except String String:=do
 refuse (symbol="") "instrument is required"
 refuse (GoText.trimSpace symbol≠symbol∨GoText.contains symbol "/") "instrument must be a Binance USD-M symbol"
 let upper:=lib.toUpper (GoText.removeRune '-' symbol)
 refuse (!isAlphanumeric upper) "instrument must be alphanumeric"
 refuse (!(["USDT","USDC"].any fun quote=>GoText.hasSuffix upper quote && decide (quote.length<upper.length)))
  "instrument must be a USD-M quote symbol"
 return upper

def binancePerpNonNegativeDecimal (lib:Library) (raw:String):Except String Decimal:=do
 let raw:=if raw="" then "0" else raw
 let value ← required (lib.decimalError raw) (Decimal.ofString? raw)
 refuse value.isNegative "decimal must be non-negative"
 return value

def binancePerpOrder (lib:Library) (row:OrderResponse):Except String Order:=do
 refuse (row.orderId≤0) "invalid order id"
 refuse (row.updateTime≤0) "invalid order update time"
 let nativeSymbol ← binancePerpNativeSymbols lib row.symbol
 refuse (row.positionSide≠""∧row.positionSide≠"BOTH") "hedge position side is not supported"
 refuse row.closePosition "close-position order shape is not supported"
 let quantity ← binancePerpNonNegativeDecimal lib row.origQty
 let limitPrice ← binancePerpNonNegativeDecimal lib row.price
 let filled ← binancePerpNonNegativeDecimal lib row.executedQty
 -- an empty average price reads as zero, and zero is no average
 let average ← binancePerpNonNegativeDecimal lib row.avgPrice
 let side ← required "unknown native order side" (sideWord row.side)
 let (type,limitPolicy) ← required "unsupported order type" (perpType row)
 return { nativeSymbol,orderId:=GoText.itoa row.orderId,clientOrderId:=row.clientOrderId,side,type
          quantity,limitPrice,limitPolicy,reduceOnly:=row.reduceOnly,filled
          averageFillPrice:=if average.isZero then none else some average
          status:=GoText.toLower row.status,updatedAt:=some (row.updateTime*1000000)}

/-! ## The lookups -/

def binanceExactLookupEvidence (instrument:Instrument) (request:ExactOrderLookupRequest):ExactOrderEvidence:=
 exactLookupEvidence request .binance instrument.identity.product instrument true true

def binanceExactLookupResult (status:ExactOrderLookupStatus) (order:Order) (evidence:ExactOrderEvidence):
 Answer:=
 let result : ExactOrderLookupResult:={status,order,evidence}
 returned result (result.validate.map fun err=>.leaf (.exchange err))

def binanceExactLookupMatch (order:Order) (request:ExactOrderLookupRequest):Option String:=
 if request.clientOrderId≠""∧order.clientOrderId≠request.clientOrderId then
  some "response client order id does not match requested identity"
 else if request.venueOrderId≠""∧order.orderId≠request.venueOrderId then
  some "response venue order id does not match requested identity"
 else none

def exactLookupNotFound? (market:Market) (err:NativeError):Bool:=
 match err.as? (apiError? market) with
 | some api=>decide (api.code = -2013)
 | none=>false

def acceptOrder (market:Market) (instrument:Instrument) (request:ExactOrderLookupRequest) (order:Order):
  Answer:=do
 let status ← required (fail market .malformedResponse unsupportedStatus) (exactPortableOrderStatus order.status)
 let order:={order with status}
 check ((binanceExactLookupMatch order request).map (fail market .malformedResponse))
 binanceExactLookupResult .found order (binanceExactLookupEvidence instrument request)

def requestInstrument (market:Market) (request:ExactOrderLookupRequest):Except NativeError Instrument:=do
 check (request.validate.map fun err=>withExchangeOperation (.leaf (.exchange err)) operation)
 required (fail market .invalidRequest "instrument is required") request.instrument

def readAnswer (market:Market) (instrument:Instrument) (request:ExactOrderLookupRequest)
  (normalize:NativeError→Option NativeError) (convert:OrderResponse→Except NativeError Order):
  Except NativeError (Option OrderResponse)→Answer
 | .error err=>
  if exactLookupNotFound? market err then
   binanceExactLookupResult .notFound {} (binanceExactLookupEvidence instrument request)
  else returned {} (normalize err)
 | .ok none=>.error (fail market .malformedResponse "missing get order response")
 | .ok (some row)=>do
  let order ← convert row
  acceptOrder market instrument request order

def convertSpot (lib:Library) (nativeSymbol:String) (row:OrderResponse):Except NativeError Order:=
 (binanceSpotOrder lib row nativeSymbol).mapError (fail .spot .malformedResponse)

def convertPerp (lib:Library) (nativeSymbol:String) (row:OrderResponse):Except NativeError Order:=do
 let order ← (binancePerpOrder lib row).mapError (fail .perp .malformedResponse)
 refuse (order.nativeSymbol≠nativeSymbol)
  (fail .perp .malformedResponse "response symbol does not match requested instrument")
 return order

def lookupExactSpotOrder (lib:Library) (sdk:String→Int→String→Except NativeError (Option OrderResponse))
  (ctx:Context) (request:ExactOrderLookupRequest):Answer:=do
 check (binanceSpotContextErr ctx)
 let instrument ← requestInstrument .spot request
 let nativeSymbol ← binanceSpotSymbols lib instrument
 let orderId ← binanceExactLookupVenueOrderId .spot request.venueOrderId
 readAnswer .spot instrument request (binanceSpotNormalizeErr operation) (convertSpot lib nativeSymbol)
  (sdk nativeSymbol orderId request.clientOrderId)

def lookupExactPerpOrder (lib:Library) (endpointPrefix:String)
  (sdk:String→Int→String→Except NativeError (Option OrderResponse)) (ctx:Context)
  (request:ExactOrderLookupRequest):Answer:=do
 check (binancePerpReady endpointPrefix ctx)
 let instrument ← requestInstrument .perp request
 let nativeSymbol ← (binancePerpRequestSymbols lib instrument).mapError (fail .perp .invalidRequest)
 let orderId ← binanceExactLookupVenueOrderId .perp request.venueOrderId
 readAnswer .perp instrument request (binancePerpNormalizeError operation) (convertPerp lib nativeSymbol)
  (sdk nativeSymbol orderId request.clientOrderId)

/-! ## The promise -/

def Answered (market:Market) (sdk:String→Int→String→Except NativeError (Option OrderResponse))
 (request:ExactOrderLookupRequest) (instrument:Instrument)
 (answer:Except NativeError (Option OrderResponse)):Prop:=
 ∃ orderId,binanceExactLookupVenueOrderId market request.venueOrderId=.ok orderId∧
  sdk instrument.identity.nativeSymbol orderId request.clientOrderId=answer

def SaidNotFound (market:Market) (err:NativeError):Prop:=
 ∃ api,err.as? (apiError? market)=some api∧api.code = -2013

variable {market:Market}

theorem saidNotFound_of_error {err:NativeError} (h:exactLookupNotFound? market err=true):
 SaidNotFound market err:=by
 unfold exactLookupNotFound? at h
 cases hapi : err.as? (apiError? market) with
 | none=>simp[hapi] at h
 | some api=>exact ⟨api,hapi,by simpa[hapi] using h⟩

variable {request:ExactOrderLookupRequest} {instrument:Instrument}

theorem requestInstrument_ok (h:requestInstrument market request=.ok instrument):
 request.validate=none∧request.instrument=some instrument:=by
 obtain ⟨_,hval,h⟩:=bind_eq_ok h
 exact ⟨map_eq_none_iff.mp (check_eq_ok hval),required_eq_ok h⟩

variable {lib:Library}

theorem spotSymbols_ok {native:String} (h:binanceSpotSymbols lib instrument=.ok native):
  native=instrument.identity.nativeSymbol∧native≠"" := by
 obtain ⟨_,hval,h⟩:=bind_eq_ok h
 replace h:=past (past (past (past (past h))))
 have hnat:instrument.identity.nativeSymbol=native:=Except.ok.inj h
 grind [Instrument.nativeSymbol_ne_of_validate,check_eq_ok,map_eq_none_iff.mp]

theorem perpSymbols_ok {native:String} (h:binancePerpRequestSymbols lib instrument=.ok native):
 native=instrument.identity.nativeSymbol:=by
 replace h:=past (past (past (past (past (past (past (past h)))))))
 exact (Except.ok.inj h).symm

theorem spotOrder_ok {row:OrderResponse} {native:String} {order:Order} (hne:native≠"")
  (h:binanceSpotOrder lib row native=.ok order):
  row.symbol=native∧order.nativeSymbol=native∧order.nativeId="" := by
 obtain ⟨_,hsym,h⟩:=bind_eq_ok h
 obtain ⟨_,-,h⟩:=bind_eq_ok h
 obtain ⟨_,-,h⟩:=bind_eq_ok h
 obtain ⟨_,-,h⟩:=bind_eq_ok h
 obtain ⟨_,-,h⟩:=bind_eq_ok h
 obtain ⟨_,-,h⟩:=bind_eq_ok h
 obtain ⟨_,-,h⟩:=bind_eq_ok h
 have hrow:row.symbol=native:=by
  have:=refuse_eq_ok hsym
  tauto
 obtain rfl:=Except.ok.inj h
 exact ⟨hrow,if_neg hne,rfl⟩

theorem perpOrder_ok {row:OrderResponse} {order:Order} (h:binancePerpOrder lib row=.ok order):
  binancePerpNativeSymbols lib row.symbol=.ok order.nativeSymbol∧order.nativeId="" := by
 replace h:=past (past h)
 obtain ⟨native,hnat,h⟩:=bind_eq_ok h
 obtain ⟨_,-,h⟩:=bind_eq_ok h
 obtain ⟨_,-,h⟩:=bind_eq_ok h
 obtain ⟨_,-,h⟩:=bind_eq_ok h
 obtain ⟨_,-,h⟩:=bind_eq_ok h
 obtain ⟨_,-,h⟩:=bind_eq_ok h
 obtain ⟨_,-,h⟩:=bind_eq_ok h
 obtain ⟨_,-,h⟩:=bind_eq_ok h
 obtain ⟨_,-,h⟩:=bind_eq_ok h
 obtain rfl:=Except.ok.inj h
 exact ⟨hnat,rfl⟩

variable {result:ExactOrderLookupResult}

theorem result_ok {status:ExactOrderLookupStatus} {order:Order} {evidence:ExactOrderEvidence}
 (h:binanceExactLookupResult status order evidence=.ok result):
 result.validate=none∧result = {status,order,evidence}:=by
 obtain ⟨hval,rfl⟩:=returned_eq_ok h
 exact ⟨map_eq_none_iff.mp hval,rfl⟩

theorem acceptOrder_kept {order:Order} {said:Instrument→Prop} {converted:Instrument→Order→Prop}
 (hreq:request.validate=none) (hins:request.instrument=some instrument)
 (hsym:order.nativeSymbol=instrument.identity.nativeSymbol) (hid:order.nativeId="")
 (hcon:∀ status,converted instrument {order with status})
 (h:acceptOrder market instrument request order=.ok result):Kept request said converted result:=by
 obtain ⟨status,-,h⟩:=bind_eq_ok h
 obtain ⟨_,-,h⟩:=bind_eq_ok h
 obtain ⟨hval,rfl⟩:=result_ok h
 exact .of_evidence hreq hins rfl hval rfl hsym (.inl hid) (hcon status)

theorem readAnswer_kept {normalize:NativeError→Option NativeError}
 {convert:OrderResponse→Except NativeError Order} {answer:Except NativeError (Option OrderResponse)}
 {said:Instrument→Prop} {converted:Instrument→Order→Prop} (hreq:request.validate=none)
 (hins:request.instrument=some instrument) (hnor:∀ err,∃ own,normalize err=some own)
 (hsaid:∀ err,answer=.error err→SaidNotFound market err→ said instrument)
 (hconv:∀ row order,answer=.ok (some row)→ convert row=.ok order →
  order.nativeSymbol=instrument.identity.nativeSymbol∧order.nativeId=""∧
   ∀ status,converted instrument {order with status})
 (h:readAnswer market instrument request normalize convert answer=.ok result):
 Kept request said converted result:=by
 cases answer with
 | error err=>
  simp only[readAnswer] at h
  split at h
  · next hnone=>
    obtain ⟨-,rfl⟩:=result_ok h
    exact .missing hins (hsaid err rfl (saidNotFound_of_error hnone)) rfl
  · obtain ⟨own,hown⟩:=hnor err
    rw[hown] at h
    cases h
 | ok found=>
  cases found with
  | none=>cases h
  | some row=>
   obtain ⟨order,hord,h⟩:=bind_eq_ok h
   obtain ⟨hsym,hid,hcon⟩:=hconv row order rfl hord
   exact acceptOrder_kept hreq hins hsym hid hcon h

def ConvertedSpot (lib:Library) (sdk:String→Int→String→Except NativeError (Option OrderResponse))
 (request:ExactOrderLookupRequest) (instrument:Instrument) (order:Order):Prop:=
 ∃ row base,Answered .spot sdk request instrument (.ok (some row))∧
  row.symbol=instrument.identity.nativeSymbol∧
  binanceSpotOrder lib row instrument.identity.nativeSymbol=.ok base∧
  order = {base with status:=order.status}

def ConvertedPerp (lib:Library) (sdk:String→Int→String→Except NativeError (Option OrderResponse))
 (request:ExactOrderLookupRequest) (instrument:Instrument) (order:Order):Prop:=
 ∃ row base,Answered .perp sdk request instrument (.ok (some row))∧
  binancePerpNativeSymbols lib row.symbol=.ok instrument.identity.nativeSymbol∧
  binancePerpOrder lib row=.ok base∧order = {base with status:=order.status}

theorem lookupExactSpotOrder_kept {sdk:String→Int→String→Except NativeError (Option OrderResponse)}
 {ctx:Context} (h:lookupExactSpotOrder lib sdk ctx request=.ok result):
 Kept request
  (fun instrument=>∃ err,Answered .spot sdk request instrument (.error err)∧SaidNotFound .spot err)
  (ConvertedSpot lib sdk request) result:=by
 obtain ⟨_,-,h⟩:=bind_eq_ok h
 obtain ⟨instrument,hins,h⟩:=bind_eq_ok h
 obtain ⟨hreq,hins⟩:=requestInstrument_ok hins
 obtain ⟨native,hnat,h⟩:=bind_eq_ok h
 obtain ⟨rfl,hne⟩:=spotSymbols_ok hnat
 obtain ⟨orderId,horId,h⟩:=bind_eq_ok h
 refine readAnswer_kept hreq hins (fun _=>normalizeHttpError_some _ _ _ _ _) ?_ ?_ h
 · intro err hans hsaid
   exact ⟨err,⟨orderId,horId,hans⟩,hsaid⟩
 · intro row order hans hord
   have hbase:=mapError_eq_ok hord
   obtain ⟨hrow,hsym,hid⟩:=spotOrder_ok hne hbase
   exact ⟨hsym,hid,fun status=>⟨row,order,⟨orderId,horId,hans⟩,hrow,hbase,rfl⟩⟩

theorem lookupExactPerpOrder_kept {endpointPrefix:String}
 {sdk:String→Int→String→Except NativeError (Option OrderResponse)} {ctx:Context}
 (h:lookupExactPerpOrder lib endpointPrefix sdk ctx request=.ok result):
 Kept request
  (fun instrument=>∃ err,Answered .perp sdk request instrument (.error err)∧SaidNotFound .perp err)
  (ConvertedPerp lib sdk request) result:=by
 obtain ⟨_,-,h⟩:=bind_eq_ok h
 obtain ⟨instrument,hins,h⟩:=bind_eq_ok h
 obtain ⟨hreq,hins⟩:=requestInstrument_ok hins
 obtain ⟨native,hnat,h⟩:=bind_eq_ok h
 obtain rfl:=perpSymbols_ok (mapError_eq_ok hnat)
 obtain ⟨orderId,horId,h⟩:=bind_eq_ok h
 refine readAnswer_kept hreq hins (fun _=>normalizeHttpError_some _ _ _ _ _) ?_ ?_ h
 · intro err hans hsaid
   exact ⟨err,⟨orderId,horId,hans⟩,hsaid⟩
 · intro row order hans hord
   obtain ⟨base,hbase,hord⟩:=bind_eq_ok hord
   obtain ⟨_,hsame,hord⟩:=bind_eq_ok hord
   have hsym:=not_not.mp (refuse_eq_ok hsame)
   obtain rfl:=Except.ok.inj hord
   have hbase:=mapError_eq_ok hbase
   obtain ⟨hrow,hid⟩:=perpOrder_ok hbase
   exact ⟨hsym,hid,fun status=>⟨row,base,⟨orderId,horId,hans⟩,hsym▸hrow,hbase,rfl⟩⟩

end BolterTrader.ExactLookup.Binance
