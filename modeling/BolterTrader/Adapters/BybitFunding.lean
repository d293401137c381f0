import BolterTrader.Adapters.BybitBitgetRows
import BolterTrader.Adapters.FundingPaymentCursor

/-! The funding payments of the Bybit perpetual client (`bybit_bitget.go`,
`factoryclient/clients.go`). -/
namespace BolterTrader.Adapters.BybitFunding
open Foundations Foundations.Fallible Exchange FundingPaymentCursor

/-! ## Instants -/

def milli:Int:=1000000
def week:Int:=604800000*milli
def nativeLimit:ℕ:=50
def portableLimit:Int64:=500
def zeroTime:Int:=-62135596800000000000
def optionalMillis (instant:Int):Int64:=if instant=zeroTime then 0 else Int64.ofInt (instant/milli)

def withinHalfOpen (value start finish:Int):Bool:=
 (start=zeroTime || start≤value) && (finish=zeroTime || value<finish)

def splitWindow (r:Request):Bool:=r.start≠zeroTime && r.finish≠zeroTime && week<r.finish-r.start

/-! ## The venue -/

structure Row where
 id:String
 symbol:String
 category:String:=""
 transactionTime:String
 type:String:="SETTLEMENT"
 currency:String
 funding:String

structure LogQuery where
 accountType:String
 category:String
 currency:String
 baseCoin:String
 type:String
 startTime:Option Int
 endTime:Option Int
 limit:Option ℕ
 cursor:String

structure LogResult where
 list:List Row
 nextPageCursor:String

def sent (millis:Int64):Option Int:=if 0< millis then some millis.toInt else none

/-! ## The client -/

structure Client extends ClientMeta where
 category:String
 settleCoin:String
 restBaseUrl:String
 apiKey:String
 secretKey:String

inductive Refusal where
 | native (err:NativeError)
 | cursor (failure:FundingPaymentCursor.Failure)

def operation:String:="FundingPayments"

structure Settlement where
 paymentId:String
 factId:String
 nativeSymbol:String
 nativeId:String
 settlementAsset:String
 amount:Decimal
 effectiveAt:Int
 revision:ℕ:=1
 version:String:="bybit-v5-transaction-log-v1"
 sourceRef:String
 formulaVersion:String:="actual-funding-payment-v1"

structure FundingPayment extends Settlement where
 observedAt:Int

structure Page where
 items:List FundingPayment
 cursor:String
 limit:Int64
 windowStart:Int
 windowEnd:Int
 hasMore:Bool

section
variable (hashes:Hashes) (client:Client)

def invalid (message:String):NativeError:=
 newError .invalidRequest {venue:=client.venue,product:=client.product,operation,safeMessage:=message}

def refused (message:String):NativeError:=malformed client.toClientMeta operation message

def cursorKey:List UInt8:=
 let parts:=["venue=bybit","product=perp","category=" ++ client.category,"settle=" ++ client.settleCoin,
  "base_url=" ++ client.restBaseUrl,"api_key=" ++ client.apiKey,"secret_key=" ++ client.secretKey]
 hashes.sha256 (Utf8.encode "boltertrader:funding-payment-cursor-key:v1\n".toList ++
  parts.flatMap fun part=>Utf8.encode part.toList++[0])

/-! ## Rows -/

def factId (parts:List String):String:=
 let digest:=Bytes.toHex (hashes.sha256 (parts.flatMap fun part=>Utf8.encode (part ++ "\n").toList))
 "funding-payment:" ++ String.ofList (digest.toList.take 32)

def settlement (instrument:Option Instrument) (row:Row):Except NativeError Settlement:=do
 let paymentId:=GoText.trimSpace row.id
 refuse (paymentId="") (refused client "bybit funding payment id is missing")
 let nativeSymbol:=GoText.trimSpace row.symbol
 refuse (nativeSymbol="") (refused client "bybit funding payment symbol is missing")
 let amount ← BybitBitget.parseRequiredDecimal client.toClientMeta operation "funding payment amount" row.funding
 let effectiveAt ← BybitBitget.parseRequiredMilli client.toClientMeta operation "transaction timestamp" row.transactionTime
 let sourceRef:="bybit:v5:account:transaction-log:SETTLEMENT:" ++ paymentId
 return {
  paymentId
  factId:=factId hashes [sourceRef,nativeSymbol,row.funding,row.transactionTime]
  nativeSymbol
  nativeId:=(instrument.map fun i=>i.identity.nativeId).getD ""
  settlementAsset:=row.currency
  amount
  effectiveAt
  sourceRef}

structure Prepared where
 native:String
 baseCoin:String
 asset:String
 limit:Int64

def readRow (p:Prepared) (instrument:Option Instrument) (row:Row):Except NativeError Settlement:=do
 refuse (row.type≠"SETTLEMENT") (refused client "response transaction type does not match request")
 refuse (row.category≠""∧row.category≠client.category) (refused client "response category does not match request")
 refuse (p.native≠""∧row.symbol≠p.native) (refused client "response instrument does not match request")
 refuse (row.currency≠p.asset) (refused client "response settlement asset does not match request")
 settlement hashes client instrument row

def readRows (p:Prepared) (r:Request) (now:Int):List Row→Except NativeError (List FundingPayment)
 | []=>.ok []
 | row::rest=>do
  let payment ← readRow hashes client p r.instrument row
  let later ← readRows p r now rest
  return if withinHalfOpen payment.effectiveAt r.start r.finish then ⟨payment,now⟩::later else later

/-! ## Requests -/

def instrumentNames:Option Instrument→Except NativeError (String×String)
 | none=>.ok ("","")
 | some instrument=>do
  let native ← BybitBitget.symbols client.toClientMeta operation client.settleCoin instrument
  return (native,GoText.toUpper (GoText.trimSpace instrument.identity.baseAsset))

def prepare (r:Request):Except NativeError Prepared:=do
 refuse (client.category≠"linear"∨client.settleCoin≠"USDT")
  (invalid client "bybit funding payments support only USDT linear settlement")
 let named:=GoText.toUpper (GoText.trimSpace r.settlementAsset)
 let asset:=if named="" then client.settleCoin else named
 refuse (asset≠"USDT") (invalid client "bybit funding payments support only USDT settlement")
 let (native,baseCoin) ← instrumentNames client r.instrument
 refuse (r.limit<0) (invalid client "limit must be non-negative")
 refuse (r.start≠zeroTime∧r.finish≠zeroTime∧¬ r.start<r.finish) (invalid client "start must be before end")
 let limit:=if r.limit≤0 then 50 else r.limit
 refuse (portableLimit<limit) (invalid client "limit must be between 1 and 500")
 return {native,baseCoin,asset,limit}

def Prepared.scope (p:Prepared) (r:Request):Envelope:=
 {r with settlementAsset:=p.asset,limit:=p.limit}.scope hashes

/-! ## Slices -/

structure Slice where
 start:Int
 finish:Int
 queryEnd:Int

def slice (r:Request) (sliceStart:Int):Slice:=
 if splitWindow r then
  let finish:=min (sliceStart+week) r.finish
  {start:=sliceStart,finish,queryEnd:=if finish<r.finish then finish-milli else finish}
 else {start:=r.start,finish:=r.finish,queryEnd:=r.finish}

def Continues (r:Request) (sliceStart:Int):Prop:=splitWindow r=true∧(slice r sliceStart).finish<r.finish

instance (r:Request) (sliceStart:Int):Decidable (Continues r sliceStart):=inferInstanceAs (Decidable (_∧_))

theorem Continues.finish_eq {r:Request} {ss:Int} (h:Continues r ss):
 (slice r ss).finish=ss+week:=by
 obtain ⟨hsp,hfin⟩:=h
 rw[slice,if_pos hsp] at hfin ⊢
 dsimp only at hfin ⊢
 omega

theorem Continues.remaining_lt {r:Request} {ss:Int} (h:Continues r ss):
 (r.finish-(slice r ss).finish).toNat<(r.finish-ss).toNat:=by
 have hfin:=h.finish_eq
 have hbef:=h.2
 have hweek:0<week:=by decide
 omega

def logQuery (p:Prepared) (r:Request) (sliceStart:Int) (venueCursor:String) (limit:ℕ):LogQuery where
 accountType:="UNIFIED"
 category:=client.category
 currency:=p.asset
 baseCoin:=p.baseCoin
 type:="SETTLEMENT"
 startTime:=sent (optionalMillis (slice r sliceStart).start)
 endTime:=sent (optionalMillis (slice r sliceStart).queryEnd)
 limit:=if 0<limit then some limit else none
 cursor:=venueCursor

inductive Outcome where
 | stop (next:Option Envelope)
 | more

def nextEnvelope (p:Prepared) (r:Request) (seen:Int64) (items:List FundingPayment) (venueCursor:String)
 (sliceStart:Option Int):Envelope:=
 {p.scope hashes r with
   venueCursor
   itemsSeen:=seen+Int64.ofNat items.length
   sliceStartMillis:=(sliceStart.map optionalMillis).getD 0}

variable (venue:LogQuery→Except NativeError LogResult) (p:Prepared) (r:Request) (seen:Int64) (now:Int)

def outcome (sliceStart:Int) (nextPageCursor:String) (items:List FundingPayment):Outcome:=
 if nextPageCursor≠"" then
  .stop (some (nextEnvelope hashes p r seen items nextPageCursor
   (if splitWindow r then some (slice r sliceStart).start else none)))
 else if p.limit.toInt≤ items.length then
  .stop (if Continues r sliceStart then some (nextEnvelope hashes p r seen items "" (some (slice r sliceStart).finish))
   else none)
 else .more

def visit (sliceStart:Int) (venueCursor:String) (items:List FundingPayment):
  Except Refusal (List FundingPayment×Outcome):=do
 refuse (splitWindow r=true∧(sliceStart<r.start∨¬ sliceStart<r.finish))
  (.native (invalid client "cursor slice is outside funding payment window"))
 let remaining:=p.limit.toInt-items.length
 if remaining≤0 then
  return (items,.stop (if splitWindow r=true∧(slice r sliceStart).start<r.finish then
   some (nextEnvelope hashes p r seen items "" (some (slice r sliceStart).start)) else none))
 else
  let result ← (venue (logQuery client p r sliceStart venueCursor (min remaining.toNat nativeLimit))).mapError .native
  let found ← (readRows hashes client p r now result.list).mapError .native
  return (items++found,outcome hashes p r seen sliceStart result.nextPageCursor (items++found))

def loop (sliceStart:Int) (venueCursor:String) (items:List FundingPayment):
 Except Refusal (List FundingPayment×Option Envelope):=
 match visit hashes client venue p r seen now sliceStart venueCursor items with
 | .error err=>.error err
 | .ok (items,.stop next)=>.ok (items,next)
 | .ok (items,.more)=>
  if _h : Continues r sliceStart then loop (slice r sliceStart).finish "" items else .ok (items,none)
 termination_by (r.finish-sliceStart).toNat
 decreasing_by exact _h.remaining_lt

def resumeAt (e:Envelope):Int:=if 0<e.sliceStartMillis then e.sliceStartMillis.toInt*milli else r.start

def fundingPayments (cursor:String):Except Refusal Page:=do
 let p ← (prepare client r).mapError .native
 let key:=cursorKey hashes client
 let envelope ← (decode hashes cursor key (p.scope hashes r)).mapError .cursor
 let (items,next) ← loop hashes client venue p r envelope.itemsSeen now (resumeAt r envelope) envelope.venueCursor []
 return {
  items
  cursor:=(next.map (encode hashes key)).getD ""
  limit:=p.limit
  windowStart:=r.start
  windowEnd:=r.finish
  hasMore:=next.isSome}

end

end BolterTrader.Adapters.BybitFunding
