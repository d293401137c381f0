import BolterTrader.Adapters.Lighter
import BolterTrader.ExactLookup.Shared
import BolterTrader.Foundations.DecimalArith

/-! Exact lookups on Lighter (`exact_lookup_lighter.go`, `lighter_rest.go`). -/
namespace BolterTrader.ExactLookup.Lighter
open Foundations Foundations.Fallible Exchange Adapters Adapters.Lighter List Option

def lighterInvalid (product:Product) (message:String):NativeError:=
 failure product operation .invalidRequest "" message

def lighterUnknownInstrument (product:Product):NativeError:=
 failure product operation .metadataResolution "" "unknown Lighter native instrument identity"

def lighterReady (product:Product):Context→Option NativeError
 | .missing=>some (lighterInvalid product "context is required")
 | .canceled=>some (failure product operation .canceled "" "context canceled")
 | .deadlineExceeded=>some (failure product operation .deadlineExceeded "" "context deadline exceeded")
 | .active=>none

/-! ## Markets -/

structure MarketMeta where
 instrument:Instrument
 marketId:Int
 isNativeId:Decimal.parseInt64? instrument.identity.nativeId=some marketId

def validateLighterInstrument (product:Product) (instrument:Instrument):Except String Unit:=do
 let identity:=instrument.identity
 check (instrument.validate.map (·.text))
 refuse (identity.venue≠.lighter) "instrument venue does not match Lighter"
 refuse (identity.product≠product) "instrument product does not match Lighter client"
 refuse (GoText.trimSpace identity.nativeId="") "instrument native id is required"

def lighterScalesFromInstrument (instrument:Instrument):Except String Unit:=do
 let missing (scale:Option Int):Bool:=(scale.map fun value=>decide (value≤0)).getD true
 refuse (missing instrument.encoding.priceScale) "instrument price scale is required"
 refuse (missing instrument.encoding.quantityScale) "instrument quantity scale is required"
 refuse (missing instrument.encoding.quoteScale) "instrument quote scale is required"

def metaOf (product:Product) (instrument:Instrument):Except String MarketMeta:=do
 validateLighterInstrument product instrument
 match hid : Decimal.parseInt64? instrument.identity.nativeId with
 | none=>.error "invalid Lighter native market id"
 | some marketId=>
  refuse (marketId<0) "invalid Lighter native market id"
  lighterScalesFromInstrument instrument
  return ⟨instrument,marketId,hid⟩

def lighterMetasFromSnapshot (product:Product) (seen:List MarketMeta):
  List Instrument→Except String (List MarketMeta)
 | []=>.ok []
 | instrument::rest=>do
  let market ← metaOf product instrument
  refuse (seen.any fun other=>other.instrument.identity.symbol=instrument.identity.symbol)
   "duplicate Lighter symbol"
  refuse (seen.any fun other=>other.marketId=market.marketId) "duplicate Lighter market id"
  let markets ← lighterMetasFromSnapshot product (market::seen) rest
  return market::markets

/-! ## Rows -/

structure Row where
 orderIndex:Int:=0
 clientOrderIndex:Int:=0
 marketIndex:Int:=0
 initialBaseAmount:String:=""
 filledBaseAmount:String:=""
 price:String:=""
 isAsk:Bool:=false
 orderType:String:=""
 timeInForce:String:=""
 reduceOnly:Bool:=false
 triggerPrice:String:=""
 status:String:=""
 createdAt:Int:=0
 updatedAt:Int:=0

structure OrdersResponse where
 code:Int:=0
 orders:List (Option Row):=[]
 nextCursor:String:=""

def lighterNonNegativeDecimal (lib:Library) (raw:String):Except String Decimal:=do
 let value ←
  if GoText.trimSpace raw="" then .ok .zero else required (lib.decimalError raw) (Decimal.ofString? raw)
 refuse value.isNegative "decimal must be non-negative"
 return value

def lighterIsGtcCompatible (raw:String):Bool:=
 ["gtc","gtt","good-till-time","good-till-cancel","good-til-cancel","good-till-canceled",
  "good-til-canceled"].contains
  (GoText.toLower (GoText.replaceRune ' ' '-' (GoText.replaceRune '_' '-' (GoText.trimSpace raw))))

def lighterOrderOutsideExchangeSubset (row:Row):Bool:=
 let raw:=GoText.trimSpace row.triggerPrice
 if raw="" then false else ((Decimal.ofString? raw).map fun d=>!d.isZero).getD true

def lighterOrderClientId (id:Int):String:=if id≤0 then "" else GoText.itoa id

def lighterUnixMillisStrict (ms:Int):Except String Timestamp:=do
 refuse (ms≤0) "timestamp must be positive"
 return some (if 1000000000000000< ms then ms*1000 else ms*1000000)

def lighterOrderType (row:Row):Except String (Exchange.OrderType×LimitPolicy):=
 if row.orderType="market" then .ok (.market,.unset)
 else if row.orderType="limit"∨row.orderType="" then
  let word:=GoText.toLower row.timeInForce
  if word="immediate-or-cancel"∨word="ioc" then .ok (.limit,.ioc)
  else if word="post-only"∨word="post_only" then .ok (.limit,.postOnly)
  else if row.timeInForce≠""∧!lighterIsGtcCompatible row.timeInForce then
   .error "unsupported time in force"
  else .ok (.limit,.resting)
 else .error "unsupported order type"

def lighterOrder (lib:Library) (row:Row) (market:MarketMeta):Except String Order:=do
 let quantity ← lighterNonNegativeDecimal lib row.initialBaseAmount
 let filled ← lighterNonNegativeDecimal lib row.filledBaseAmount
 refuse (quantity.lessThan filled) "filled amount exceeds quantity"
 let limitPrice ← lighterNonNegativeDecimal lib row.price
 refuse (row.orderIndex≤0) "order id must be positive"
 let (type,limitPolicy) ← lighterOrderType row
 refuse (lighterOrderOutsideExchangeSubset row) "trigger active order is outside exchange subset"
 let createdAt ← lighterUnixMillisStrict row.createdAt
 let updatedAt ← lighterUnixMillisStrict row.updatedAt
 return { nativeSymbol:=market.instrument.identity.nativeSymbol,nativeId:=market.instrument.identity.nativeId
          orderId:=GoText.itoa row.orderIndex,clientOrderId:=lighterOrderClientId row.clientOrderIndex
          side:=if row.isAsk then .sell else .buy,type,quantity,limitPrice,limitPolicy
          reduceOnly:=row.reduceOnly,filled,status:=row.status,createdAt,updatedAt}

/-! ## The scan -/

def lighterExactOrderMatches (row:Row) (request:ExactOrderLookupRequest):Bool:=
 if request.clientOrderId≠"" then lighterOrderClientId row.clientOrderIndex=request.clientOrderId
 else GoText.itoa row.orderIndex=request.venueOrderId

def scanRows (request:ExactOrderLookupRequest) (marketId:Int) (found:Option Row):
  List (Option Row)→Except String (Option Row)
 | []=>.ok found
 | none::_=>.error "invalid syntax"
 | some row::rest=>
  if row.marketIndex≠marketId then .error "value out of range"
  else if lighterOrderOutsideExchangeSubset row || !lighterExactOrderMatches row request then
   scanRows request marketId found rest
  else if found.isSome then .error "value out of range"
  else scanRows request marketId (some row) rest

def lighterExactOrderFromRows (lib:Library) (rows:List (Option Row)) (request:ExactOrderLookupRequest)
  (market:MarketMeta):Except String (Option Order):=do
 match ← scanRows request market.marketId none rows with
 | none=>return none
 | some row=>
  let order ← lighterOrder lib row market
  let status ← required unsupportedStatus (exactPortableOrderStatus order.status)
  return some {order with status}

/-! ## The lookup -/

structure Client where
 product:Product
 catalog:Option (Except NativeError (List Instrument))
 loaded:Except NativeError (List MarketMeta)
 active:Int→Except NativeError (Option OrdersResponse)
 inactive:Int→Except NativeError (Option OrdersResponse)

def lighterLoadMetadata (client:Client) (ctx:Context):Except NativeError (List MarketMeta):=do
 check (lighterReady client.product ctx)
 match client.catalog with
 | none=>client.loaded
 | some snapshot=>
  let instruments ← snapshot.mapError (withExchangeOperation · operation)
  (lighterMetasFromSnapshot client.product [] instruments).mapError (lighterMalformed client.product operation)

def lighterMeta (client:Client) (ctx:Context) (instrument:Instrument):Except NativeError MarketMeta:=do
 (validateLighterInstrument client.product instrument).mapError (lighterInvalid client.product)
 let markets ← lighterLoadMetadata client ctx
 let market ← required (lighterUnknownInstrument client.product)
  (markets.find? fun market=>market.instrument.identity.symbol=instrument.identity.symbol)
 refuse (market.instrument.identity.nativeSymbol≠instrument.identity.nativeSymbol∨
   market.instrument.identity.nativeId≠instrument.identity.nativeId)
  (lighterUnknownInstrument client.product)
 return market

def lighterPage (lib:Library) (product:Product) (request:ExactOrderLookupRequest) (instrument:Instrument)
  (market:MarketMeta) (text:String) (next:OrdersResponse→Answer):
  Except NativeError (Option OrdersResponse)→Answer
 | .error err=>returned {} (lighterNormalizeErr product operation err)
 | .ok response=>do
  let page ← required (lighterMalformed product operation text)
   (response.filter fun page=>decide (page.code=200))
  match ← (lighterExactOrderFromRows lib page.orders request market).mapError
   (lighterMalformed product operation) with
  | some order=>exactLookupFound request .lighter product instrument order
  | none=>next page

def lighterLookupExactOrder (lib:Library) (client:Client) (ctx:Context) (request:ExactOrderLookupRequest):
  Answer:=do
 let instrument ← exactLookupInstrument ctx request .lighter client.product
 let market ← lighterMeta client ctx instrument
 let page:=lighterPage lib client.product request instrument market
 page "active orders response is malformed"
  (fun _=>page "inactive orders response is malformed"
   (fun inactive=>exactLookupUnconfirmed request .lighter client.product instrument inactive.nextCursor)
   (client.inactive market.marketId))
  (client.active market.marketId)

/-! ## The promise -/

theorem scanRows_some {request:ExactOrderLookupRequest} {marketId:Int} {rows:List (Option Row)}
 {found:Option Row} {row:Row} (h:scanRows request marketId found rows=.ok (some row)):
 found=some row∨(some row∈rows∧row.marketIndex=marketId∧lighterExactOrderMatches row request=true):=by
 induction rows generalizing found with
 | nil=>exact .inl (Except.ok.inj h)
 | cons head rest ih=>
  cases head with
  | none=>cases h
  | some=>
   grind [scanRows]

theorem lighterOrder_native {lib:Library} {row:Row} {market:MarketMeta} {order:Order}
 (h:lighterOrder lib row market=.ok order):
 order.nativeSymbol=market.instrument.identity.nativeSymbol∧
  order.nativeId=market.instrument.identity.nativeId:=by
 obtain ⟨_,-,h⟩:=bind_eq_ok h
 obtain ⟨_,-,h⟩:=bind_eq_ok h
 obtain ⟨_,-,h⟩:=bind_eq_ok (past h)
 obtain ⟨_,-,h⟩:=bind_eq_ok (past h)
 obtain ⟨_,-,h⟩:=bind_eq_ok (past h)
 obtain ⟨_,-,h⟩:=bind_eq_ok h
 obtain rfl:=Except.ok.inj h
 exact ⟨rfl,rfl⟩

theorem lighterMeta_ok {client:Client} {ctx:Context} {instrument:Instrument} {market:MarketMeta}
 (h:lighterMeta client ctx instrument=.ok market):
 market.instrument.identity.nativeSymbol=instrument.identity.nativeSymbol∧
  market.instrument.identity.nativeId=instrument.identity.nativeId:=by
 obtain ⟨markets,-,h⟩:=bind_eq_ok (past h)
 obtain ⟨found,-,h⟩:=bind_eq_ok h
 obtain ⟨_,hsame,h⟩:=bind_eq_ok h
 obtain rfl:=Except.ok.inj h
 obtain ⟨hsym,hid⟩:=not_or.mp (refuse_eq_ok hsame)
 grind

section
variable {lib:Library} {product:Product} {request:ExactOrderLookupRequest} {instrument:Instrument}
 {market:MarketMeta} {result:ExactOrderLookupResult} {said:Instrument→Prop}
 {converted:Instrument→Order→Prop}

theorem fromRows_ok {rows:List (Option Row)} {order:Order}
 (h:lighterExactOrderFromRows lib rows request market=.ok (some order)):
 ∃ row base,some row∈rows∧row.marketIndex=market.marketId∧lighterOrder lib row market=.ok base∧
  order = {base with status:=order.status}:=by
 obtain ⟨found,hscan,h⟩:=bind_eq_ok h
 cases found with
 | none=>cases h
 | some row=>
  obtain ⟨base,hbase,h⟩:=bind_eq_ok h
  obtain ⟨status,-,h⟩:=bind_eq_ok h
  obtain rfl:=some.inj (Except.ok.inj h)
  rcases scanRows_some hscan with hnone | ⟨hmem,hmk,-⟩
  all_goals grind

theorem lighterPage_kept {text:String} {next:OrdersResponse→Answer}
 {fetched:Except NativeError (Option OrdersResponse)} (hreq:request.validate=none)
 (hins:request.instrument=some instrument)
 (hsym:market.instrument.identity.nativeSymbol=instrument.identity.nativeSymbol)
 (hid:market.instrument.identity.nativeId=instrument.identity.nativeId)
 (hcon:∀ page row base status,fetched=.ok (some page)→ some row∈page.orders →
  row.marketIndex=market.marketId→ lighterOrder lib row market=.ok base →
  converted instrument {base with status})
 (hnext:∀ page,next page=.ok result→Kept request said converted result)
 (h:lighterPage lib product request instrument market text next fetched=.ok result):
 Kept request said converted result:=by
 cases fetched with
 | error=>exact .failed h
 | ok=>
  obtain ⟨page,hpage,h⟩:=bind_eq_ok h
  obtain ⟨hres,-⟩:=filter_eq_some_iff.mp (required_eq_ok hpage)
  obtain ⟨found,hfd,h⟩:=bind_eq_ok h
  cases found with
  | none=>exact hnext page h
  | some order=>
   obtain ⟨row,base,hmem,hmk,hbase,hord⟩:=fromRows_ok (mapError_eq_ok hfd)
   obtain ⟨hbaSy,hbaId⟩:=lighterOrder_native hbase
   rw[hord] at h
   exact .found hreq hins h (hbaSy.trans hsym) (.inr (hbaId.trans hid))
    (hcon page row base order.status (by rw[hres]) hmem hmk hbase)

end

def Listed (client:Client) (instrument:Instrument) (row:Row):Prop:=
 Decimal.parseInt64? instrument.identity.nativeId=some row.marketIndex∧
  ∃ page,some row∈page.orders∧(client.active row.marketIndex=.ok (some page)∨
   client.inactive row.marketIndex=.ok (some page))

def Converted (lib:Library) (client:Client) (ctx:Context) (instrument:Instrument) (order:Order):Prop:=
 ∃ row market base,Listed client instrument row∧lighterMeta client ctx instrument=.ok market∧
  lighterOrder lib row market=.ok base∧order = {base with status:=order.status}

theorem lighterLookupExactOrder_kept {lib:Library} {client:Client} {ctx:Context}
 {request:ExactOrderLookupRequest} {result:ExactOrderLookupResult}
 (h:lighterLookupExactOrder lib client ctx request=.ok result):
 Kept request (fun _=>False) (Converted lib client ctx) result:=by
 obtain ⟨instrument,hins,h⟩:=bind_eq_ok h
 obtain ⟨hreq,hins⟩:=exactLookupInstrument_ok hins
 obtain ⟨market,hmeta,h⟩:=bind_eq_ok h
 obtain ⟨hsym,hid⟩:=lighterMeta_ok hmeta
 have hn:∀ row:Row,row.marketIndex=market.marketId →
   Decimal.parseInt64? instrument.identity.nativeId=some row.marketIndex:=by
  intro row hrow
  rw[hrow,←hid]
  exact market.isNativeId
 refine lighterPage_kept hreq hins hsym hid ?_ (fun _ h=>?_) h
 · intro page row base status hpage hmem hrow hbase
   exact ⟨row,market,base,⟨hn row hrow,page,hmem,.inl (hrow▸hpage)⟩,hmeta,hbase,rfl⟩
 · refine lighterPage_kept hreq hins hsym hid ?_ (fun _ h=>.unconfirmed h) h
   intro page row base status hpage hmem hrow hbase
   exact ⟨row,market,base,⟨hn row hrow,page,hmem,.inr (hrow▸hpage)⟩,hmeta,hbase,rfl⟩

end BolterTrader.ExactLookup.Lighter
