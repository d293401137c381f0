import BolterTrader.Adapters.Okx
import BolterTrader.ExactLookup.Shared
import BolterTrader.Foundations.DecimalArith

/-! Exact lookups on OKX (`exact_lookup_okx.go`, `okx_rest.go`). -/
namespace BolterTrader.ExactLookup.Okx
open Foundations Foundations.Fallible Exchange Adapters Adapters.Okx

def okxInvalid (product:Product) (message:String):NativeError:=
 failure product operation .invalidRequest "" message

def okxMalformed (product:Product) (message:String):NativeError:=
 failure product operation .malformedResponse "" message

def okxReady (product:Product):Context→Option NativeError
 | .missing=>some (okxInvalid product "context is required")
 | .canceled=>some (failure product operation .canceled "" "context canceled")
 | .deadlineExceeded=>some (failure product operation .deadlineExceeded "" "context deadline exceeded")
 | .active=>none

/-! ## Instruments -/

def okxValidateSpotInstrument (lib:Library) (instrument:Instrument):Except String Unit:=do
 let identity:=instrument.identity
 let parts:=GoText.split '-' identity.nativeSymbol
 check (instrument.validate.map (·.text))
 refuse (identity.venue≠.okx∨identity.product≠.spot∨identity.settleAsset≠"")
  "instrument must be OKX SPOT"
 refuse (parts.length≠2∨"" ∈ parts∨lib.toUpper identity.nativeSymbol≠identity.nativeSymbol)
  "instrument must be exact OKX SPOT BASE-QUOTE"
 refuse (identity.symbol≠identity.nativeSymbol∨parts≠[identity.baseAsset,identity.quoteAsset])
  "instrument identity does not match OKX SPOT native symbol"

def okxValidateSwapInstrument (lib:Library) (instrument:Instrument):Except String Unit:=do
 let identity:=instrument.identity
 let parts:=GoText.split '-' identity.nativeSymbol
 check (instrument.validate.map (·.text))
 refuse (identity.venue≠.okx∨identity.product≠.perp∨identity.settleAsset≠"USDT")
  "instrument must be OKX USDT-linear SWAP"
 refuse (parts.length≠3∨parts.head?=some ""∨parts.tail≠["USDT","SWAP"]∨
   lib.toUpper identity.nativeSymbol≠identity.nativeSymbol)
  "instrument must be exact OKX USDT-linear BASE-USDT-SWAP"
 refuse (identity.symbol≠identity.nativeSymbol∨parts.head?≠some identity.baseAsset∨
   identity.quoteAsset≠"USDT")
  "instrument identity does not match OKX SWAP native symbol"

def okxContractValue (lib:Library) (instrument:Instrument):Except String Decimal:=do
 okxValidateSwapInstrument lib instrument
 let value ← required "OKX contract multiplier is missing"
  (instrument.encoding.contractMultiplier.filter Decimal.isPositive)
 refuse (!instrument.rules.quantityIncrement.isPositive) "OKX contract quantity increment is invalid"
 return value

def okxPerpMetas (lib:Library) (ctx:Context) (catalog:Except NativeError (List Instrument)):
  Except NativeError (List (String×Decimal)):=do
 check (okxReady .perp ctx)
 let instruments ← catalog.mapError (withExchangeOperation · operation)
 instruments.mapM fun instrument=>do
  let value ← (okxContractValue lib instrument).mapError (okxMalformed .perp)
  return (instrument.identity.nativeSymbol,value)

def okxPerpMeta (lib:Library) (ctx:Context) (catalog:Except NativeError (List Instrument))
  (instrument:Instrument):Except NativeError Decimal:=do
 (okxValidateSwapInstrument lib instrument).mapError (okxInvalid .perp)
 let metas ← okxPerpMetas lib ctx catalog
 required (okxInvalid .perp "instrument is not present in OKX SWAP metadata")
  (metas.reverse.lookup instrument.identity.nativeSymbol)

/-! ## Responses -/

structure Row where
 instId:String:=""
 ordId:String:=""
 clOrdId:String:=""
 px:String:=""
 sz:String:=""
 ordType:String:=""
 side:String:=""
 accFillSz:String:=""
 avgPx:String:=""
 state:String:=""
 reduceOnly:String:=""
 uTime:String:=""
 cTime:String:=""

def okxNonNegativeDecimal (lib:Library) (raw:String):Except String Decimal:=do
 let raw:=if GoText.trimSpace raw="" then "0" else raw
 let value ← required (lib.decimalError raw) (Decimal.ofString? raw)
 refuse value.isNegative "decimal must be non-negative"
 return value

def okxExchangeSide (raw:String):Option Side:=
 if raw="buy" then some .buy else if raw="sell" then some .sell else none

def okxOptionalMillis (lib:Library) (raw:String):Except String Timestamp:=
 if GoText.trimSpace raw="" then .ok none
 else required (lib.integerError raw) ((Decimal.parseInt64? raw).map fun ms=>some (ms*1000000))

def okxNormalizedOrderPolicy (word:String):Exchange.OrderType×LimitPolicy:=
 match GoText.toLower word with
 | "market" => (.market,.unset)
 | "ioc" => (.limit,.ioc)
 | "post_only" => (.limit,.postOnly)
 | _=>(.limit,.resting)

def okxOrder (lib:Library) (row:Row) (multiplier:Decimal):Except String Order:=do
 let quantity ← okxNonNegativeDecimal lib row.sz
 let filled ← okxNonNegativeDecimal lib row.accFillSz
 let limitPrice ← okxNonNegativeDecimal lib row.px
 -- a blank average price reads as zero, and zero is no average
 let average ← okxNonNegativeDecimal lib row.avgPx
 let side ← required "unknown side" (okxExchangeSide row.side)
 let createdAt ← okxOptionalMillis lib row.cTime
 let updatedAt ← okxOptionalMillis lib row.uTime
 let (type,limitPolicy):=okxNormalizedOrderPolicy row.ordType
 return { nativeSymbol:=row.instId,orderId:=row.ordId,clientOrderId:=row.clOrdId,side,type
          quantity:=quantity.mul multiplier,limitPrice,limitPolicy
          reduceOnly:=GoText.equalFold row.reduceOnly "true",filled:=filled.mul multiplier
          averageFillPrice:=if average.isZero then none else some average
          status:=row.state,createdAt,updatedAt}

/-! ## The lookups -/

def okxIsExactOrderNotFound (err:NativeError):Bool:=
 match err.as? Fault.okx? with
 | some api=>api.code == "51603"
 | none=>false

def acceptRow (lib:Library) (product:Product) (instrument:Instrument) (request:ExactOrderLookupRequest)
  (multiplier:Decimal) (row:Row):Answer:=do
 let malformed:=okxMalformed product
 refuse (row.instId≠instrument.identity.nativeSymbol)
  (malformed "exact order lookup response instrument mismatch")
 refuse (request.clientOrderId≠""∧row.clOrdId≠request.clientOrderId)
  (malformed "exact order lookup response client order id mismatch")
 refuse (request.venueOrderId≠""∧row.ordId≠request.venueOrderId)
  (malformed "exact order lookup response order id mismatch")
 let order ← (okxOrder lib row multiplier).mapError malformed
 let status ← required (malformed "exact order lookup response has unsupported order status")
  (exactPortableOrderStatus order.status)
 let nativeId:=if order.nativeId="" then instrument.identity.nativeId else order.nativeId
 exactLookupFound request .okx product instrument {order with status,nativeId}

def okxLookupExactOrder (lib:Library) (sdk:String→String→String→Except NativeError (List Row))
 (product:Product) (instrument:Instrument) (request:ExactOrderLookupRequest) (multiplier:Decimal):
 Answer:=
 match sdk instrument.identity.nativeSymbol request.venueOrderId request.clientOrderId with
 | .error err=>
  if okxIsExactOrderNotFound err then exactLookupNotFound request .okx product instrument
  else returned {} (okxNormalizeErr product operation err)
 | .ok [row]=>acceptRow lib product instrument request multiplier row
 | .ok _=>.error (okxMalformed product "exact order lookup response must contain exactly one row")

def lookupExactSpotOrder (lib:Library) (sdk:String→String→String→Except NativeError (List Row))
  (ctx:Context) (request:ExactOrderLookupRequest):Answer:=do
 let instrument ← exactLookupInstrument ctx request .okx .spot
 check (okxReady .spot ctx)
 (okxValidateSpotInstrument lib instrument).mapError (okxInvalid .spot)
 okxLookupExactOrder lib sdk .spot instrument request (.ofInt 1)

def lookupExactPerpOrder (lib:Library) (catalog:Except NativeError (List Instrument))
  (sdk:String→String→String→Except NativeError (List Row)) (ctx:Context)
  (request:ExactOrderLookupRequest):Answer:=do
 let instrument ← exactLookupInstrument ctx request .okx .perp
 let multiplier ← okxPerpMeta lib ctx catalog instrument
 okxLookupExactOrder lib sdk .perp instrument request multiplier

/-! ## The promise -/

def SaidNotFound {α:Type} (answer:Except NativeError α):Prop:=
 ∃ err api,answer=.error err∧err.as? Fault.okx?=some api∧api.code="51603"

theorem saidNotFound_of_error {α:Type} {err:NativeError} (h:okxIsExactOrderNotFound err=true):
 SaidNotFound (.error err : Except NativeError α):=by
 unfold okxIsExactOrderNotFound at h
 cases hapi : err.as? Fault.okx? with
 | none=>simp[hapi] at h
 | some api=>exact ⟨err,api,rfl,hapi,by simpa[hapi] using h⟩

theorem okxOrder_ok {lib:Library} {row:Row} {multiplier:Decimal} {ord:Order}
  (h:okxOrder lib row multiplier=.ok ord):ord.nativeSymbol=row.instId∧ord.nativeId="" := by
 obtain ⟨_,-,h⟩:=bind_eq_ok h
 obtain ⟨_,-,h⟩:=bind_eq_ok h
 obtain ⟨_,-,h⟩:=bind_eq_ok h
 obtain ⟨_,-,h⟩:=bind_eq_ok h
 obtain ⟨_,-,h⟩:=bind_eq_ok h
 obtain ⟨_,-,h⟩:=bind_eq_ok h
 obtain ⟨_,-,h⟩:=bind_eq_ok h
 obtain rfl:=Except.ok.inj h
 exact ⟨rfl,rfl⟩

section
variable {lib:Library} {sdk:String→String→String→Except NativeError (List Row)} {product:Product}
 {instrument:Instrument} {request:ExactOrderLookupRequest} {multiplier:Decimal}
 {result:ExactOrderLookupResult}

def Converted (lib:Library) (sdk:String→String→String→Except NativeError (List Row))
 (request:ExactOrderLookupRequest) (instrument:Instrument) (order:Order):Prop:=
 ∃ row multiplier base,
  sdk instrument.identity.nativeSymbol request.venueOrderId request.clientOrderId=.ok [row]∧
   row.instId=instrument.identity.nativeSymbol∧okxOrder lib row multiplier=.ok base∧
   order = {base with status:=order.status,nativeId:=order.nativeId}

theorem okxLookupExactOrder_kept (hreq:request.validate=none)
 (hins:request.instrument=some instrument)
 (h:okxLookupExactOrder lib sdk product instrument request multiplier=.ok result):
 Kept request
  (fun instrument=>
   SaidNotFound (sdk instrument.identity.nativeSymbol request.venueOrderId request.clientOrderId))
  (Converted lib sdk request) result:=by
 unfold okxLookupExactOrder at h
 split at h
 · next err hans=>
   split at h
   · next hnone=>exact .missing hins (hans▸saidNotFound_of_error hnone) (notFound_status h)
   · exact .failed h
 · next row hans=>
   obtain ⟨_,hname,h⟩:=bind_eq_ok h
   have hname:=not_not.mp (refuse_eq_ok hname)
   obtain ⟨base,hbase,h⟩:=bind_eq_ok (past (past h))
   have hbase:=mapError_eq_ok hbase
   obtain ⟨sts,-,h⟩:=bind_eq_ok h
   obtain ⟨hsym,hid⟩:=okxOrder_ok hbase
   exact .found hreq hins h (hsym.trans hname) (.inr (if_pos hid))
    ⟨row,multiplier,base,hans,hname,hbase,rfl⟩
 · cases h

theorem lookupExactSpotOrder_kept {ctx:Context} (h:lookupExactSpotOrder lib sdk ctx request=.ok result):
 Kept request
  (fun instrument=>
   SaidNotFound (sdk instrument.identity.nativeSymbol request.venueOrderId request.clientOrderId))
  (Converted lib sdk request) result:=by
 obtain ⟨instrument,hins,h⟩:=bind_eq_ok h
 obtain ⟨hreq,hins⟩:=exactLookupInstrument_ok hins
 exact okxLookupExactOrder_kept hreq hins (past (past h))

theorem lookupExactPerpOrder_kept {cat1:Except NativeError (List Instrument)} {ctx:Context}
 (h:lookupExactPerpOrder lib cat1 sdk ctx request=.ok result):
 Kept request
  (fun instrument=>
   SaidNotFound (sdk instrument.identity.nativeSymbol request.venueOrderId request.clientOrderId))
  (Converted lib sdk request) result:=by
 obtain ⟨instrument,hins,h⟩:=bind_eq_ok h
 obtain ⟨hreq,hins⟩:=exactLookupInstrument_ok hins
 obtain ⟨multiplier,-,h⟩:=bind_eq_ok h
 exact okxLookupExactOrder_kept hreq hins h

end
end BolterTrader.ExactLookup.Okx
