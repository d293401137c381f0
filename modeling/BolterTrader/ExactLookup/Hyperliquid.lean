import BolterTrader.Adapters.Hyperliquid
import BolterTrader.ExactLookup.Shared
import BolterTrader.Foundations.DecimalArith

/-! Exact lookups on Hyperliquid (`exact_lookup_hyperliquid.go`,
`hyperliquid_rest_extended.go`, `sdk/hyperliquid/{spot,perp}/order.go`). -/
namespace BolterTrader.ExactLookup.Hyperliquid
open Foundations Foundations.Fallible Exchange Adapters Adapters.Hyperliquid Option

def hlInvalid (product:Product) (message:String):NativeError:=
 failure product operation .invalidRequest "" message

/-! ## Client order ids -/

def hexDigit? (c:Char):Option ℕ:=
 if c.isDigit then some (c.toNat - '0'.toNat)
 else if 'a' ≤ c && c ≤ 'f' then some (c.toNat - 'a'.toNat+10)
 else if 'A' ≤ c && c ≤ 'F' then some (c.toNat - 'A'.toNat+10)
 else none

def hexFrom (read:ℕ):List Char→Option ℕ
 | []=>some read
 | c::rest=>(hexDigit? c).bind fun d=>hexFrom (read*16+d) rest

def hexNat?:List Char→Option ℕ
 | []=>none
 | digits=>hexFrom 0 digits

def hexInt?:List Char→Option Int
 | '+' :: digits=>(hexNat? digits).map fun n=>(n:Int)
 | '-' :: digits=>(hexNat? digits).map fun n=>-(n:Int)
 | digits=>(hexNat? digits).map fun n=>(n:Int)

def hlPortableClientOrderId (lib:Library) (text:String):String:=
 let text:=lib.toLower (GoText.trimSpace text)
 if !"0x".toList.isPrefixOf text.toList then text
 else match hexInt? (text.toList.drop 2) with
  | none => ""
  | some n=>if !Decimal.fitsInt64 n || n≤0 then "" else GoText.itoa n

def hexText (n:ℕ):String:=
 let digits:=Nat.toDigits 16 n
 String.ofList ('0' :: 'x' :: (List.replicate (32-digits.length) '0' ++ digits))

def hlNativeClientOrderId (id:String):String:=
 match (Decimal.parseInt64? id).filter fun n=>decide (0<n) with
 | none => ""
 | some n=>hexText n.toNat

/-! ## The catalog -/

def parseInt32? (text:String):Option Int:=(Decimal.int? text.toList).filter Decimal.fitsInt32

def hlMetaFromInstrument (product:Product) (instrument:Instrument):Except NativeError Instrument:=do
 let identity:=instrument.identity
 let bad:=hlInvalid product
 refuse (instrument.validate≠none) (bad "invalid catalog instrument")
 refuse (identity.venue≠.hyperliquid∨identity.product≠product) (bad "instrument venue/product mismatch")
 refuse (product=.spot∧identity.settleAsset≠"") (bad "spot settlement must be empty")
 refuse (product=.perp∧identity.settleAsset≠"USDC") (bad "perp settlement must be USDC")
 let assetId ← required (bad "native_id must be a non-negative decimal asset id")
  ((parseInt32? identity.nativeId).filter fun n=>GoText.itoa n == identity.nativeId && decide (0≤n))
 match product with
 | .spot=>
  if "@".toList.isPrefixOf identity.nativeSymbol.toList then
   let index:=(parseInt32? (GoText.trimPrefix identity.nativeSymbol "@")).filter fun n=>decide (0≤n)
   refuse (index.map (· + 10000)≠some assetId) (bad "spot native id must equal 10000 + universe index")
  else
   refuse (identity.nativeSymbol≠identity.baseAsset ++ "/" ++ identity.quoteAsset∨assetId<10000∨
     100000000≤assetId)
    (bad "canonical spot native symbol or asset id is invalid")
 | .perp=>
  refuse (GoText.trimSpace identity.nativeSymbol=""∨"@".toList.isPrefixOf identity.nativeSymbol.toList)
   (bad "perp native symbol must be the coin name")
 | .unset=>.error (bad "unsupported Hyperliquid product")
 return instrument

def hlCatalogLoop (product:Product) (seen:List String):List Instrument→Except NativeError (List Instrument)
 | []=>.ok []
 | instrument::rest=>do
  let market ← hlMetaFromInstrument product instrument
  refuse (market.identity.nativeSymbol∈seen)
   (hlMalformed product operation "duplicate Hyperliquid native coin in catalog")
  let markets ← hlCatalogLoop product (market.identity.nativeSymbol::seen) rest
  return market::markets

def hlCatalogMetas (product:Product) (catalog:Option (Except NativeError (List Instrument))):
  Except NativeError (List Instrument):=do
 let client : ClientMeta:=⟨.hyperliquid,product⟩
 let snapshot ← required (client.catalogMetadataResolution operation "instrument catalog is not configured") catalog
 let instruments ← snapshot.mapError (withExchangeOperation · operation)
 hlCatalogLoop product [] instruments

def hlSameInstrument (expected got:Instrument):Bool:=
 expected.identity.venue=got.identity.venue && expected.identity.product=got.identity.product &&
  expected.identity.symbol=got.identity.symbol && expected.identity.nativeSymbol=got.identity.nativeSymbol &&
  expected.identity.nativeId=got.identity.nativeId && expected.identity.settleAsset=got.identity.settleAsset

def marketMeta (product:Product) (catalog:Option (Except NativeError (List Instrument)))
  (instrument:Instrument):Except NativeError Instrument:=do
 let markets ← hlCatalogMetas product catalog
 required (hlInvalid product "instrument is not present in Hyperliquid metadata")
  (markets.find? (hlSameInstrument · instrument))

/-! ## The SDK's order status -/

inductive Oid where
 | number (oid:Int)
 | cloid (cloid:String)

structure WireOrder where
 coin:String:=""
 side:String:=""
 limitPx:String:=""
 sz:String:=""
 oid:Int:=0
 cloid:Option String:=none
 timestamp:Int:=0
 origSz:String:=""
 reduceOnly:Option Bool:=none
 orderType:String:=""
 tif:String:=""
 isTrigger:Bool:=false
 status:String:=""
 statusTimestamp:Int:=0

structure WireResponse where
 status:String:=""
 order:Option WireOrder:=none

def sdkError (product:Product) (message:String):NativeError:=
 .leaf (.message ("hyperliquid " ++ product.text ++ ": " ++ message))

def Oid.text:Oid→String
 | .number own=>GoText.itoa own
 | .cloid own=>own

def validateOrderStatusIdentity (lib:Library) (product:Product) (order:WireOrder):Oid→Option NativeError
 | .number oid=>
  if order.oid≠oid then
   some (sdkError product ("orderStatus identity mismatch: requested oid " ++ GoText.itoa oid ++ ", got " ++
    GoText.itoa order.oid))
  else none
 | .cloid cloid=>
  if (order.cloid.map (GoText.equalFold · cloid)).getD false then none
  else some (sdkError product ("orderStatus identity mismatch: requested cloid " ++ lib.quote cloid ++ ", got " ++
   lib.quote (order.cloid.getD "")))

def filledSize (lib:Library) (original remaining:String):Except NativeError Unit:=do
 let whole ← required (.leaf (.message (lib.decimalError original))) (Decimal.ofString? original)
 let left ← required (.leaf (.message (lib.decimalError remaining))) (Decimal.ofString? remaining)
 refuse (whole.sub left).isNegative
  (.leaf (.message ("remaining size " ++ left.toText ++ " exceeds original size " ++ whole.toText)))

def orderStatus (lib:Library) (product:Product) (post:Oid→Except NativeError WireResponse) (oid:Oid):
  Except NativeError WireOrder:=do
 let response ← post oid
 refuse (response.status="unknownOid")
  (.wrap (.message (Sentinel.hyperliquidOrderNotFound.text ++ ": " ++ oid.text))
   (.leaf (.sentinel .hyperliquidOrderNotFound)))
 let order ← required (sdkError product ("unexpected orderStatus response status " ++ lib.quote response.status))
  (if response.status="order" then response.order else none)
 check (validateOrderStatusIdentity lib product order oid)
 (filledSize lib order.origSz order.sz).mapError fun err=>
  .wrap (.message ("hyperliquid " ++ product.text ++ ": decode orderStatus fill: " ++ errorText err)) err
 return order

/-! ## Orders -/

def hlDecimal? (text:String):Option Decimal:=Decimal.ofString? (GoText.trimSpace text)

def hlSide (word:String):Option Side:=
 if word="B"∨word="buy" then some .buy else if word="A"∨word="sell" then some .sell else none


def historicalType (row:WireOrder):Option (Exchange.OrderType×LimitPolicy):=
 match lowerWord row.orderType with
 | "market" => some (.market,.unset)
 | "limit" =>
  match lowerWord row.tif with
  | "" | "gtc" => some (.limit,.resting)
  | "ioc" => some (.limit,.ioc)
  | "alo" => some (.limit,.postOnly)
  | _=>none
 | _=>none

def hlHistoricalOrder (lib:Library) (market:Instrument) (row:WireOrder):Option Order:=do
 let quantity ← (hlDecimal? row.origSz).filter Decimal.isPositive
 let remaining ← (hlDecimal? row.sz).filter fun d=>!d.isNegative
 guard (!quantity.lessThan remaining)
 let price ← (hlDecimal? row.limitPx).filter fun d=>!d.isNegative
 let side ← hlSide row.side
 guard (!row.isTrigger)
 let (type,limitPolicy) ← historicalType row
 return { nativeSymbol:=market.identity.nativeSymbol,nativeId:=market.identity.nativeId
          orderId:=GoText.itoa row.oid
          clientOrderId:=if row.cloid.getD "" = "" then "" else hlPortableClientOrderId lib (row.cloid.getD "")
          side,type,quantity
          limitPrice:=if type=.market then .zero else price,limitPolicy
          reduceOnly:=row.reduceOnly.getD false,filled:=quantity.sub remaining,status:=row.status
          createdAt:=some (row.timestamp*1000000),updatedAt:=some (row.statusTimestamp*1000000)}

def hlExactOrder (lib:Library) (market:Instrument) (row:WireOrder):Option Order:=do
 guard (row.coin=market.identity.nativeSymbol)
 let order ← hlHistoricalOrder lib market row
 let status ← exactPortableOrderStatus order.status
 return {order with status}

/-! ## The lookups -/

structure Client where
 product:Product
 catalog:Option (Except NativeError (List Instrument))
 post:Oid→Except NativeError WireResponse
 tracker:Option RequestTracker

def requestOid (product:Product) (request:ExactOrderLookupRequest):Except NativeError Oid:=
 if request.clientOrderId≠"" then .ok (.cloid (hlNativeClientOrderId request.clientOrderId))
 else (exactLookupPositiveInt64 request.venueOrderId .hyperliquid product "venue order id").map .number

def lookupExactOrder (lib:Library) (client:Client) (ctx:Context) (request:ExactOrderLookupRequest):
  Answer:=do
 let instrument ← exactLookupInstrument ctx request .hyperliquid client.product
 let market ← marketMeta client.product client.catalog instrument
 let oid ← requestOid client.product request
 match orderStatus lib client.product client.post oid with
 | .error err=>
  if isError .hyperliquidOrderNotFound err then
   exactLookupNotFound request .hyperliquid client.product instrument
  else returned {} (hlNormalizeQueryErr client.product operation err client.tracker)
 | .ok row=>
  let order ← required (hlMalformed client.product operation "malformed exact order response")
   (hlExactOrder lib market row)
  exactLookupFound request .hyperliquid client.product instrument order

/-! ## The promise -/

def SaidNotFound (client:Client) (request:ExactOrderLookupRequest):Prop:=
 ∃ oid,requestOid client.product request=.ok oid∧
  ((∃ response,client.post oid=.ok response∧response.status="unknownOid")∨
   ∃ err,client.post oid=.error err∧isError .hyperliquidOrderNotFound err=true)

variable {lib:Library}

theorem filledSize_error {org rmn:String} {err:NativeError}
 (h:filledSize lib org rmn=.error err):∃ text,err=.leaf (.message text):=by
 rcases bind_eq_error h with h | ⟨_,-,h⟩
 all_goals grind [required_eq_error,bind_eq_error,refuse_eq_error]

theorem identity_error {prod:Product} {ord:WireOrder} {oid:Oid} {err:NativeError}
 (h:validateOrderStatusIdentity lib prod ord oid=some err):∃ text,err=.leaf (.message text):=by
 cases oid with
 | number=>
  simp only[validateOrderStatusIdentity] at h
  split at h
  · exact ⟨_,(some.inj h).symm⟩
  · cases h
 | cloid=>
  simp only[validateOrderStatusIdentity] at h
  split at h
  · cases h
  · exact ⟨_,(some.inj h).symm⟩

theorem orderStatus_notFound {prod:Product} {post:Oid→Except NativeError WireResponse} {oid:Oid}
 {err:NativeError} (h:orderStatus lib prod post oid=.error err)
 (hnone:isError .hyperliquidOrderNotFound err=true):
 (∃ rsp,post oid=.ok rsp∧rsp.status="unknownOid")∨post oid=.error err:=by
 have hmsg:∀ text,¬ isError .hyperliquidOrderNotFound (.leaf (.message text))=true:=by
  intro text
  simp[isError,Fault.answers]
 rcases bind_eq_error h with h | ⟨rsp,hpost,h⟩
 · exact .inr h
 rcases bind_eq_error h with h | ⟨_,-,h⟩
 · exact .inl ⟨rsp,hpost,(refuse_eq_error h).1⟩
 -- the remaining errors are texts of the SDK
 exfalso
 rcases bind_eq_error h with h | ⟨ord,-,h⟩
 · exact hmsg _ (required_eq_error h▸hnone)
 rcases bind_eq_error h with h | ⟨_,-,h⟩
 · obtain ⟨text,rfl⟩:=identity_error (check_eq_error h)
   exact hmsg text hnone
 rcases bind_eq_error h with h | ⟨_,-,h⟩
 · obtain ⟨own,hown,rfl⟩:=mapError_eq_error h
   obtain ⟨text,rfl⟩:=filledSize_error hown
   rw[isError,ErrorTree.is_wrap] at hnone
   simp[Fault.answers] at hnone
 · cases h

theorem marketMeta_ok {prod:Product} {cat1:Option (Except NativeError (List Instrument))}
 {ins market:Instrument} (h:marketMeta prod cat1 ins=.ok market):
 market.identity.nativeSymbol=ins.identity.nativeSymbol∧
  market.identity.nativeId=ins.identity.nativeId:=by
 obtain ⟨mrk,-,h⟩:=bind_eq_ok h
 have hsame:=List.find?_some (required_eq_ok h)
 simp only[hlSameInstrument,Bool.and_eq_true,decide_eq_true_eq] at hsame
 grind

theorem hlExactOrder_some {market:Instrument} {row:WireOrder} {ord:Order}
 (h:hlExactOrder lib market row=some ord):
 row.coin=market.identity.nativeSymbol∧∃ base,hlHistoricalOrder lib market row=some base∧
  ord = {base with status:=ord.status}:=by
 simp only[hlExactOrder,bind_eq_bind,bind_eq_some_iff,pure_def,some.injEq] at h
 obtain ⟨_,hcoin,base,hbase,status,-,rfl⟩:=h
 exact ⟨by simpa using hcoin,base,hbase,rfl⟩

theorem hlHistoricalOrder_native {market:Instrument} {row:WireOrder} {ord:Order}
 (h:hlHistoricalOrder lib market row=some ord):
 ord.nativeSymbol=market.identity.nativeSymbol∧ord.nativeId=market.identity.nativeId:=by
 simp only[hlHistoricalOrder,bind_eq_bind,bind_eq_some_iff,pure_def,some.injEq] at h
 grind

def Converted (lib:Library) (client:Client) (request:ExactOrderLookupRequest) (instrument:Instrument)
 (order:Order):Prop:=
 ∃ oid row market base,requestOid client.product request=.ok oid∧
  orderStatus lib client.product client.post oid=.ok row∧
  marketMeta client.product client.catalog instrument=.ok market∧
  row.coin=instrument.identity.nativeSymbol∧hlHistoricalOrder lib market row=some base∧
  order = {base with status:=order.status}

theorem lookupExactOrder_kept {cl:Client} {ctx:Context} {req:ExactOrderLookupRequest}
 {result:ExactOrderLookupResult} (h:lookupExactOrder lib cl ctx req=.ok result):
 Kept req (fun _=>SaidNotFound cl req) (Converted lib cl req) result:=by
 obtain ⟨ins,hins,h⟩:=bind_eq_ok h
 obtain ⟨hreq,hins⟩:=exactLookupInstrument_ok hins
 obtain ⟨market,hmk,h⟩:=bind_eq_ok h
 obtain ⟨oid,hoid,h⟩:=bind_eq_ok h
 split at h
 · next err herr=>
   split at h
   · next hnone=>
     refine .missing hins ⟨oid,hoid,?_⟩ (notFound_status h)
     exact (orderStatus_notFound herr hnone).imp_right fun hpost=>⟨err,hpost,hnone⟩
   · exact .failed h
 · next row hrow=>
   obtain ⟨ord,hord,h⟩:=bind_eq_ok h
   obtain ⟨hcoin,base,hbase,hst⟩:=hlExactOrder_some (required_eq_ok hord)
   obtain ⟨hsym,hid⟩:=marketMeta_ok hmk
   obtain ⟨hsy,hid1⟩:=hlHistoricalOrder_native hbase
   have hnat:ord.nativeSymbol=base.nativeSymbol∧ord.nativeId=base.nativeId:=by
    rw[hst]
    exact ⟨rfl,rfl⟩
   refine .found hreq hins h ?_ (.inr ?_) ?_
   · rw[hnat.1,hsy,hsym]
   · rw[hnat.2,hid1,hid]
   · exact ⟨oid,row,market,base,hoid,hrow,hmk,hcoin.trans hsym,hbase,hst⟩

end BolterTrader.ExactLookup.Hyperliquid
