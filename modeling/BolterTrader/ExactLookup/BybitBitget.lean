import BolterTrader.Adapters.BybitBitgetRows
import BolterTrader.ExactLookup.Shared

/-! Exact lookups on Bybit and Bitget (`exact_lookup_bybit.go`,
`exact_lookup_bitget.go`, `bybit_bitget.go`). -/
namespace BolterTrader.ExactLookup.BybitBitget
open Foundations Foundations.Fallible Exchange Adapters Adapters.BybitBitget

def invalid (client:ClientMeta) (message:String):NativeError:=
 newError .invalidRequest {venue:=client.venue,product:=client.product,operation,safeMessage:=message}

/-! ## Fields of a row -/

section
variable (client:ClientMeta)

def parseOrderType (word:String):Except NativeError Exchange.OrderType:=
 if lowerWord word="market" then .ok .market
 else if lowerWord word="limit" then .ok .limit
 else .error (malformed client operation "unknown order type")

def statusWords:List String:=
 ["new","partiallyfilled","partially_filled","filled","cancelled","canceled","rejected","live","init",
  "fail","success","not_trigger","triggered","deactivated"]

def parseStatus (word:String):Except NativeError String:=
 if lowerWord word∈statusWords then .ok word else .error (malformed client operation "unknown order status")

def limitPolicy (word:String):LimitPolicy:=
 if GoText.toLower word="ioc" then .ioc
 else if GoText.toLower word∈["postonly","post_only","post-only"] then .postOnly
 else .resting

end

def firstNonEmpty:List String→String
 | [] => ""
 | text::rest=>if GoText.trimSpace text≠"" then text else firstNonEmpty rest

/-! ## Rows -/

structure BybitRow where
 orderId:String:=""
 orderLinkId:String:=""
 symbol:String:=""
 side:String:=""
 orderType:String:=""
 orderStatus:String:=""
 price:String:=""
 qty:String:=""
 cumExecQty:String:=""
 avgPrice:String:=""
 timeInForce:String:=""
 reduceOnly:Bool:=false
 createdTime:String:=""
 updatedTime:String:=""

structure BitgetRow where
 orderId:String:=""
 clientOid:String:=""
 symbol:String:=""
 side:String:=""
 orderType:String:=""
 orderStatus:String:=""
 price:String:=""
 qty:String:=""
 amount:String:=""
 filledQty:String:=""
 cumExecQty:String:=""
 baseVolume:String:=""
 avgPrice:String:=""
 timeInForce:String:=""
 reduceOnly:String:=""
 createdTime:String:=""
 cTime:String:=""
 updatedTime:String:=""
 uTime:String:=""

section
variable (client:ClientMeta) (catalog:Option (String→Except NativeError Instrument))

def convertBybitOrder (row:BybitRow):Except NativeError Order:=do
 let nativeId ← resolveEmittedNativeId client operation catalog row.symbol
 let side ← parseSide client operation row.side
 let type ← parseOrderType client row.orderType
 let status ← parseStatus client row.orderStatus
 let quantity ← parseRequiredDecimal client operation "quantity" row.qty
 let limitPrice ← parseOptionalDecimal client operation row.price
 let filled ← parseOptionalDecimal client operation row.cumExecQty
 let averageFillPrice ← optStrict client operation row.avgPrice
 let createdAt ← parseRequiredMilli client operation "created timestamp" row.createdTime
 let updatedAt ← parseRequiredMilli client operation "updated timestamp" row.updatedTime
 return { nativeSymbol:=row.symbol,nativeId,orderId:=row.orderId,clientOrderId:=row.orderLinkId,side
          type,quantity,limitPrice,limitPolicy:=limitPolicy row.timeInForce,reduceOnly:=row.reduceOnly
          filled,averageFillPrice,status,createdAt,updatedAt}

def convertBitgetOrder (row:BitgetRow):Except NativeError Order:=do
 let nativeId ← resolveEmittedNativeId client operation catalog row.symbol
 let side ← parseSide client operation row.side
 let type ← parseOrderType client row.orderType
 let status ← parseStatus client row.orderStatus
 let quantity ← firstPositiveDecimalStrict client operation [row.qty,row.amount]
 let limitPrice ← parseOptionalDecimal client operation row.price
 let filled ← firstPositiveDecimalStrict client operation [row.filledQty,row.cumExecQty,row.baseVolume]
 let averageFillPrice ← optStrict client operation row.avgPrice
 let createdAt ← parseRequiredMilli client operation "created timestamp" (firstNonEmpty [row.createdTime,row.cTime])
 let updatedAt ← parseRequiredMilli client operation "updated timestamp" (firstNonEmpty [row.updatedTime,row.uTime])
 return { nativeSymbol:=row.symbol,nativeId,orderId:=row.orderId,clientOrderId:=row.clientOid,side
          type,quantity,limitPrice,limitPolicy:=limitPolicy row.timeInForce
          reduceOnly:=GoText.equalFold row.reduceOnly "yes" || GoText.equalFold row.reduceOnly "true"
          filled,averageFillPrice,status,createdAt,updatedAt}

def convertBybitOrders (rows:List BybitRow) (nativeFilter:String):Except NativeError (List Order):=
 (rows.filter fun row=>nativeFilter="" || row.symbol=nativeFilter).mapM (convertBybitOrder client catalog)

def convertBitgetOrders (rows:List BitgetRow) (nativeFilter:String):Except NativeError (List Order):=
 (rows.filter fun row=>nativeFilter="" || row.symbol=nativeFilter).mapM (convertBitgetOrder client catalog)

end

/-! ## The lookups -/

def acceptRow (client:ClientMeta) (request:ExactOrderLookupRequest) (instrument:Instrument)
  (native symbol clientId orderId:String) (orders:Except NativeError (List Order)):Answer:=do
 let bad:=malformed client operation
 refuse (symbol≠native) (bad "exact order lookup response instrument mismatch")
 refuse (request.clientOrderId≠""∧clientId≠request.clientOrderId)
  (bad "exact order lookup response client order id mismatch")
 refuse (request.venueOrderId≠""∧orderId≠request.venueOrderId)
  (bad "exact order lookup response order id mismatch")
 match ← orders with
 | [order]=>
  let status ← required (bad "exact order lookup response has unsupported order status")
   (exactPortableOrderStatus order.status)
  refuse (order.nativeSymbol≠instrument.identity.nativeSymbol∨order.nativeId≠instrument.identity.nativeId)
   (bad "exact order lookup response instrument mismatch")
  exactLookupFound request client.venue client.product instrument {order with status}
 | _=>.error (bad "exact order lookup response conversion mismatch")

def positiveDecimalOrderId (text:String):Bool:=
 text≠"" && text.toList.head?≠some '0' && text.toList.all Char.isDigit &&
  ((Decimal.parseInt64? text).map fun n=>decide (0<n)).getD false

def isHexDigit (c:Char):Bool:=('0' ≤ c && c ≤ '9') || ('a' ≤ c && c ≤ 'f') || ('A' ≤ c && c ≤ 'F')

def validUuidOrderId (text:String):Bool:=
 text.utf8ByteSize == 36 &&
  text.toList.zipIdx.all fun (c,index)=>if [8,13,18,23].contains index then c = '-' else isHexDigit c

def bybitNativeOrderId (text:String):Bool:=positiveDecimalOrderId text || validUuidOrderId text

def bybitExactLookupResultFromRows (client:ClientMeta)
  (catalog:Option (String→Except NativeError Instrument)) (request:ExactOrderLookupRequest)
  (instrument:Instrument) (native:String):List BybitRow→Except NativeError (Option ExactOrderLookupResult)
 | []=>.ok none
 | [row]=>
  (acceptRow client request instrument native row.symbol row.orderLinkId row.orderId
   (convertBybitOrders client catalog [row] "")).map some
 | _=>.error (malformed client operation "exact order lookup response must contain exactly one row")

def bybitPage (client:ClientMeta) (catalog:Option (String→Except NativeError Instrument))
  (request:ExactOrderLookupRequest) (instrument:Instrument) (native:String) (next:Answer):
  Except NativeError (List BybitRow)→Answer
 | .error err=>returned {} (normErr client operation err)
 | .ok rows=>do
  match ← bybitExactLookupResultFromRows client catalog request instrument native rows with
  | some result=>return result
  | none=>next

structure BybitClient where
 product:Product
 settleCoin:String
 catalog:Option (String→Except NativeError Instrument)
 realtime:String→String→String→Except NativeError (List BybitRow)
 history:String→String→String→Except NativeError (List BybitRow)

def lookupExactBybitOrder (bybit:BybitClient) (ctx:Context) (request:ExactOrderLookupRequest):Answer:=do
 let client : ClientMeta:=⟨.bybit,bybit.product⟩
 let instrument ← exactLookupInstrument ctx request .bybit bybit.product
 refuse (request.venueOrderId≠""∧!bybitNativeOrderId request.venueOrderId)
  (invalid client "venue order id must be a positive decimal int64 or UUID")
 let native ← symbols client operation bybit.settleCoin instrument
 let page:=bybitPage client bybit.catalog request instrument native
 page (page (exactLookupUnconfirmed request .bybit bybit.product instrument "")
   (bybit.history native request.venueOrderId request.clientOrderId))
  (bybit.realtime native request.venueOrderId request.clientOrderId)

structure BitgetClient where
 product:Product
 marginCoin:String
 catalog:Option (String→Except NativeError Instrument)
 order:String→String→String→Except NativeError (Option BitgetRow)

def lookupExactBitgetOrder (bitget:BitgetClient) (ctx:Context) (request:ExactOrderLookupRequest):
  Answer:=do
 let client : ClientMeta:=⟨.bitget,bitget.product⟩
 let instrument ← exactLookupInstrument ctx request .bitget bitget.product
 let native ← symbols client operation bitget.marginCoin instrument
 match bitget.order native request.venueOrderId request.clientOrderId with
 | .error err=>returned {} (normErr client operation err)
 | .ok none=>.error (malformed client operation "exact order lookup response is missing")
 | .ok (some row)=>
  acceptRow client request instrument native row.symbol row.clientOid row.orderId
   (convertBitgetOrders client bitget.catalog [row] native)

/-! ## The promise -/

section
variable {client:ClientMeta} {catalog:Option (String→Except NativeError Instrument)}
 {request:ExactOrderLookupRequest} {instrument:Instrument} {native:String}
 {result:ExactOrderLookupResult} {said:Instrument→Prop} {converted:Instrument→Order→Prop}

theorem symbols_ok {coin:String} (h:symbols client operation coin instrument=.ok native):
 native=instrument.identity.nativeSymbol:=
 (Except.ok.inj (past (past h))).symm

theorem acceptRow_kept {symbol clientId orderId:String} {orders:Except NativeError (List Order)}
 (hreq:request.validate=none) (hins:request.instrument=some instrument)
 (hcon:∀ order status,symbol=native→ orders=.ok [order] → converted instrument {order with status})
 (h:acceptRow client request instrument native symbol clientId orderId orders=.ok result):
 Kept request said converted result:=by
 obtain ⟨_,hname,h⟩:=bind_eq_ok h
 obtain ⟨list,hord,h⟩:=bind_eq_ok (past (past h))
 split at h
 · next order=>
   obtain ⟨status,-,h⟩:=bind_eq_ok h
   obtain ⟨_,hsame,h⟩:=bind_eq_ok h
   obtain ⟨hsym,hid⟩:=not_or.mp (refuse_eq_ok hsame)
   exact .found hreq hins h (not_not.mp hsym) (.inr (not_not.mp hid))
    (hcon order status (not_not.mp (refuse_eq_ok hname)) hord)
 · cases h

theorem bybitPage_kept {next:Answer} {fetched:Except NativeError (List BybitRow)}
 (hreq:request.validate=none) (hins:request.instrument=some instrument)
 (hcon:∀ row order status,fetched=.ok [row]→ row.symbol=native →
  convertBybitOrders client catalog [row] "" = .ok [order]→ converted instrument {order with status})
 (hnext:next=.ok result→Kept request said converted result)
 (h:bybitPage client catalog request instrument native next fetched=.ok result):
 Kept request said converted result:=by
 unfold bybitPage at h
 cases fetched with
 | error=>exact .failed h
 | ok rows=>
  obtain ⟨found,hfd,h⟩:=bind_eq_ok h
  match rows with
  | []=>
   obtain rfl:=Except.ok.inj hfd
   exact hnext h
  | [row]=>
   obtain ⟨answer,hacc,rfl⟩:=map_eq_ok hfd
   obtain rfl:=Except.ok.inj h
   exact acceptRow_kept hreq hins
    (fun order status hname hord=>hcon row order status rfl hname hord) hacc
  | _::_::_=>cases hfd

end

def ConvertedBybit (bybit:BybitClient) (request:ExactOrderLookupRequest) (instrument:Instrument)
 (order:Order):Prop:=
 ∃ row base,
  (bybit.realtime instrument.identity.nativeSymbol request.venueOrderId request.clientOrderId=.ok [row]∨
   bybit.history instrument.identity.nativeSymbol request.venueOrderId request.clientOrderId=.ok [row])∧
  row.symbol=instrument.identity.nativeSymbol∧
  convertBybitOrders ⟨.bybit,bybit.product⟩ bybit.catalog [row] "" = .ok [base]∧
  order = {base with status:=order.status}

def ConvertedBitget (bitget:BitgetClient) (request:ExactOrderLookupRequest) (instrument:Instrument)
 (order:Order):Prop:=
 ∃ row base,
  bitget.order instrument.identity.nativeSymbol request.venueOrderId request.clientOrderId=.ok (some row)∧
  row.symbol=instrument.identity.nativeSymbol∧
  convertBitgetOrders ⟨.bitget,bitget.product⟩ bitget.catalog [row] instrument.identity.nativeSymbol =
   .ok [base]∧
  order = {base with status:=order.status}

theorem lookupExactBybitOrder_kept {bybit:BybitClient} {ctx:Context} {request:ExactOrderLookupRequest}
 {result:ExactOrderLookupResult} (h:lookupExactBybitOrder bybit ctx request=.ok result):
 Kept request (fun _=>False) (ConvertedBybit bybit request) result:=by
 obtain ⟨instrument,hins,h⟩:=bind_eq_ok h
 obtain ⟨hreq,hins⟩:=exactLookupInstrument_ok hins
 obtain ⟨native,hnat,h⟩:=bind_eq_ok (past h)
 obtain rfl:=symbols_ok hnat
 refine bybitPage_kept hreq hins ?_ ?_ h
 · intro row order status hpage hname hord
   exact ⟨row,order,.inl hpage,hname,hord,rfl⟩
 · intro h
   refine bybitPage_kept hreq hins ?_ (fun h=>.unconfirmed h) h
   intro row order status hpage hname hord
   exact ⟨row,order,.inr hpage,hname,hord,rfl⟩

theorem lookupExactBitgetOrder_kept {bitget:BitgetClient} {ctx:Context} {request:ExactOrderLookupRequest}
 {result:ExactOrderLookupResult} (h:lookupExactBitgetOrder bitget ctx request=.ok result):
 Kept request (fun _=>False) (ConvertedBitget bitget request) result:=by
 obtain ⟨instrument,hins,h⟩:=bind_eq_ok h
 obtain ⟨hreq,hins⟩:=exactLookupInstrument_ok hins
 obtain ⟨native,hnat,h⟩:=bind_eq_ok h
 obtain rfl:=symbols_ok hnat
 split at h
 · exact .failed h
 · cases h
 · next row hrow=>
   refine acceptRow_kept hreq hins ?_ h
   intro order status hname hord
   exact ⟨row,order,hrow,hname,hord,rfl⟩

end BolterTrader.ExactLookup.BybitBitget
