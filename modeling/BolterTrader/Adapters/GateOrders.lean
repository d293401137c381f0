import BolterTrader.Adapters.GateErrors
import BolterTrader.Foundations.DecimalArith
import BolterTrader.Foundations.Fallible
import BolterTrader.Gateway.Classify

/-! Gate order rows (`gate.go`, `gate_rest.go`): the checks a row has to pass,
the order it stands for, and the acknowledgement of a placement. -/
namespace BolterTrader.Adapters.Gate
open Foundations Foundations.Fallible Exchange Gateway

structure SpotOrder where
 id:String:=""
 text:String:=""
 createTimeMs:String:=""
 updateTimeMs:String:=""
 status:String:=""
 currencyPair:String:=""
 type:String:=""
 side:String:=""
 amount:String:=""
 price:String:=""
 timeInForce:String:=""
 left:String:=""
 filledAmount:String:=""
 avgDealPrice:String:=""
 finishAs:String:=""

structure FuturesOrder where
 id:Int64:=0
 contract:String:=""
 size:Int64:=0
 price:String:=""
 reduceOnly:Bool:=false
 tif:String:=""
 text:String:=""
 left:Int64:=0
 fillPrice:String:=""
 finishAs:String:=""
 status:String:=""
 isReduceOnly:Bool:=false
 createTimeMs:String:=""
 updateTime:String:=""

/-! ## The checks on a row -/

def gateContractMultiplier (client:ClientMeta) (operation:String) (instrument:Instrument):
  Except NativeError Decimal:=do
 refuse (instrument.identity.venue≠.gate∨instrument.identity.product≠.perp)
  (client.catalogInvalidRequest operation "instrument venue/product does not match Gate perp")
 required (client.catalogMetadataResolution operation
   "gate futures contract multiplier is missing from catalog instrument")
  (instrument.encoding.contractMultiplier.filter (·.isPositive))


def gateParseSide (word:String):Option Side:=
 if lowerWord word="buy" then some .buy
 else if lowerWord word="sell" then some .sell
 else none

def gateParseDecimal (text:String):Option Decimal:=
 if GoText.trimSpace text="" then some .zero else Decimal.ofString? (GoText.trimSpace text)

def statusWords:List String:=["open","closed","cancelled","finished"]

def finishWords:List String:=
 ["_new","_update","open","unknown","filled","cancelled","liquidated","ioc","poc","stp",
  "auto_deleveraging","auto_deleveraged","reduce_only","position_close","position_closed","reduce_out",
  "cb","expired","succeeded","failed","small","depth_not_enough","trader_not_enough"]

section
variable (client:ClientMeta) (operation:String)

def gateValidateDecimal (field text:String):Option NativeError:=
 match gateParseDecimal text with
 | some _=>none
 | none=>some (gateMalformed client operation ("invalid gate " ++ field))

def gateValidateSide (word:String):Option NativeError:=
 match gateParseSide word with
 | some _=>none
 | none=>some (gateMalformed client operation "invalid gate side")

def gateValidateStatus (status finishAs:String):Option NativeError:=
 if lowerWord status≠""∧lowerWord status∉statusWords then
  some (gateMalformed client operation "invalid gate order status")
 else if lowerWord finishAs≠""∧lowerWord finishAs∉finishWords then
  some (gateMalformed client operation "invalid gate order finish status")
 else none

def gateValidateSpotOrder (row:SpotOrder):Option NativeError:=
 (gateValidateSide client operation row.side).or <|
 (gateValidateDecimal client operation "order amount" row.amount).or <|
 (gateValidateDecimal client operation "order price" row.price).or <|
 (gateValidateDecimal client operation "order left" row.left).or <|
 (gateValidateDecimal client operation "order filled amount" row.filledAmount).or <|
 (gateValidateDecimal client operation "order average deal price" row.avgDealPrice).or <|
 gateValidateStatus client operation row.status row.finishAs

def gateValidateFuturesOrder (row:FuturesOrder):Option NativeError:=
 (gateValidateDecimal client operation "order price" row.price).or <|
 (gateValidateDecimal client operation "order fill price" row.fillPrice).or <|
 gateValidateStatus client operation row.status row.finishAs

end

/-! ## The order of a row -/

def gateDecimal (text:String):Decimal:=
 if GoText.trimSpace text="" then .zero else (Decimal.ofString? text).getD .zero

def gateOptionalDecimal (text:String):OptionalDecimal:=
 if GoText.trimSpace text="" then none else some (gateDecimal text)

def gateSide (word:String):Side:=if GoText.equalFold word "sell" then .sell else .buy

def gateOrderType (row:SpotOrder):Exchange.OrderType:=
 if GoText.equalFold row.type "market" then .market else .limit

def gateFuturesOrderType (row:FuturesOrder):Exchange.OrderType:=
 if row.price=""∨row.price="0" then .market else .limit

def gateLimitPolicy (word:String):LimitPolicy:=
 if GoText.toLower word="ioc" then .ioc
 else if GoText.toLower word="poc" then .postOnly
 else .resting

def gateOrderStatus (status finishAs:String):String:=if finishAs≠"" then finishAs else status
def gateClientOrderId (id:String):String:=if GoText.trimSpace id="" then "" else "t-" ++ id
def gatePortableClientOrderId (text:String):String:=GoText.trimPrefix text "t-"

def gateTimeMs (text:String):Timestamp:=
 let text:=GoText.trimSpace text
 if text="" then none
 else if GoText.contains text "." then
  some ((((Decimal.ofString? text).getD {}).mul (.ofInt 1000)).intPart.toInt*1000000)
 else some (Decimal.parseInt64 text*1000000)

def abs64 (n:Int64):Int64:=if n<0 then -n else n
def gateOrderId (id:Int64):String:=if id=0 then "" else GoText.itoa id.toInt

def gateSpotOrder (row:SpotOrder) (instrument:Instrument):Order:=
 let quantity:=gateDecimal row.amount
 let filled:=gateDecimal row.filledAmount
 { nativeSymbol:=row.currencyPair
   nativeId:=instrument.identity.nativeId
   orderId:=row.id
   clientOrderId:=gatePortableClientOrderId row.text
   side:=gateSide row.side
   type:=gateOrderType row
   quantity
   limitPrice:=gateDecimal row.price
   limitPolicy:=gateLimitPolicy row.timeInForce
   filled:=if filled.isZero∧row.left≠"" then quantity.sub (gateDecimal row.left) else filled
   averageFillPrice:=gateOptionalDecimal row.avgDealPrice
   status:=gateOrderStatus row.status row.finishAs
   createdAt:=gateTimeMs row.createTimeMs
   updatedAt:=gateTimeMs row.updateTimeMs}

def gateFuturesOrder (row:FuturesOrder) (instrument:Instrument) (multiplier:Decimal):Order:=
 let quantity:=(Decimal.ofInt (abs64 row.size).toInt).mul multiplier
 { nativeSymbol:=row.contract
   nativeId:=instrument.identity.nativeId
   orderId:=gateOrderId row.id
   clientOrderId:=gatePortableClientOrderId row.text
   side:=if row.size<0 then .sell else .buy
   type:=gateFuturesOrderType row
   quantity
   limitPrice:=gateDecimal row.price
   limitPolicy:=gateLimitPolicy row.tif
   reduceOnly:=row.reduceOnly || row.isReduceOnly
   filled:=quantity.sub ((Decimal.ofInt (abs64 row.left).toInt).mul multiplier)
   averageFillPrice:=gateOptionalDecimal row.fillPrice
   status:=gateOrderStatus row.status row.finishAs
   createdAt:=gateTimeMs row.createTimeMs
   updatedAt:=gateTimeMs row.updateTime}

/-! ## Acknowledgements -/

def gateAckFromOrder (client:ClientMeta) (operation:OrderOperation) (orderType:Exchange.OrderType) (order:Order):
 OrderAcknowledgement:=
 let state : OrderAckState:=
  if operation=.cancel then .canceled
  else if order.filled.isPositive∧order.filled.lessThan order.quantity then .partiallyFilled
  else if order.filled.isPositive∧¬order.filled.lessThan order.quantity then .immediatelyFilled
  else if orderType=.market then .acceptedPending
  else .resting
 { venue:=client.venue,product:=client.product,operation,state
   nativeSymbol:=order.nativeSymbol
   nativeId:=order.nativeId
   orderType
   orderId:=order.orderId
   clientOrderId:=order.clientOrderId
   filledQuantity:=order.filled
   averageFillPrice:=order.averageFillPrice}

def gateAckValidateForInstrument (client:ClientMeta) (operation:String) (instrument:Instrument)
 (ack:OrderAcknowledgement):OrderAcknowledgement×Option NativeError:=
 if ack.nativeSymbol≠instrument.identity.nativeSymbol then
  (ack,some (client.catalogMetadataResolution operation
   "gate acknowledgement native instrument does not match requested instrument"))
 else
  let ack:={ack with nativeId:=instrument.identity.nativeId}
  (ack,ack.validate.map fun err=>.leaf (.exchange err))

/-! ## Placements -/

inductive Row where
 | spot (row:SpotOrder)
 | futures (row:FuturesOrder) (multiplier:Decimal)

namespace Row

def status:Row→String
 | spot row=>row.status
 | futures row _=>row.status

def finishAs:Row→String
 | spot row=>row.finishAs
 | futures row _=>row.finishAs

def validate (client:ClientMeta) (operation:String):Row→Option NativeError
 | spot row=>gateValidateSpotOrder client operation row
 | futures row _=>gateValidateFuturesOrder client operation row

def order (instrument:Instrument):Row→Order
 | spot row=>gateSpotOrder row instrument
 | futures row multiplier=>gateFuturesOrder row instrument multiplier

def ack (client:ClientMeta) (operation:OrderOperation) (orderType:Exchange.OrderType) (instrument:Instrument)
 (row:Row):OrderAcknowledgement:=
 gateAckFromOrder client operation orderType (row.order instrument)

def place (client:ClientMeta) (request:PlaceOrderRequest) (row:Row):
 OrderAcknowledgement×Option NativeError:=
 match row.validate client "PlaceOrder" with
 | some err=>({},some err)
 | none=>
  gateAckValidateForInstrument client "PlaceOrder" request.instrument
   (row.ack client .place request.type request.instrument)

def Finished (row:Row):Prop:=lowerWord row.status∈["closed","cancelled","finished"]

def ExecutedBelow (instrument:Instrument) (row:Row):Prop:=
 (row.order instrument).filled.value<(row.order instrument).quantity.value

end Row

theorem abs64_toInt {n:Int64} (h:n≠Int64.minValue):(abs64 n).toInt = |n.toInt| := by
 have hmin:n.toInt ≠ -2^63:=by
  intro heq
  exact h (Int64.toInt_inj.mp (heq.trans Int64.toInt_minValue.symm))
 have hlo:=Int64.le_toInt n
 have hhi:=Int64.toInt_lt n
 unfold abs64
 split
 · grind [Int64.lt_iff_toInt_lt,Int64.toInt_neg,Int.bmod_eq_of_le,abs_of_neg]
 · grind [Int64.lt_iff_toInt_lt,abs_of_nonneg]

theorem place_refused {client:ClientMeta} {req:PlaceOrderRequest} {row:Row} {err:NativeError}
 (h:row.validate client "PlaceOrder" = some err):row.place client req=({},some err):=by
 simp only[Row.place,h]

theorem place_state {client:ClientMeta} {req:PlaceOrderRequest} (hlimit:req.type=.limit)
 {row:Row} (hval:row.validate client "PlaceOrder" = none) (hbel:row.ExecutedBelow req.instrument):
 (row.place client req).1.state =
  if (row.order req.instrument).filled.isPositive then .partiallyFilled else .resting:=by
 have hless:(row.order req.instrument).filled.lessThan (row.order req.instrument).quantity=true:=
  (Decimal.lessThan_iff _ _).mpr hbel
 have hst:(row.ack client .place req.type req.instrument).state =
   if (row.order req.instrument).filled.isPositive then .partiallyFilled else .resting:=by
  simp[Row.ack,gateAckFromOrder,hless,hlimit]
 grind [Row.place,gateAckValidateForInstrument]

def shownStatus (client:ClientMeta) (id:String) (request:PlaceOrderRequest) (now:Int) (row:Row):
 Option String:=
 let (ack,err):=row.place client request
 (classify id request ack err now).order.map (·.status)

def NotLive (client:ClientMeta) (id:String) (request:PlaceOrderRequest) (now:Int) (row:Row):Prop:=
 (row.place client request).1.state∉[OrderAckState.resting,.partiallyFilled]∧
  shownStatus client id request now row∉[some "open",some "partially_filled"]

/-- When the acknowledgement of a finished Gate order does not call it live. -/
theorem finished_notLive_iff (client:ClientMeta) (id:String) (request:PlaceOrderRequest)
 (hlimit:request.type=.limit) (now:Int) (row:Row) (_hfinished:row.Finished)
 (hbelow:row.ExecutedBelow request.instrument):
 NotLive client id request now row ↔ (row.validate client "PlaceOrder").isSome=true:=by
 cases hv : row.validate client "PlaceOrder" with
 | some=>
  have hsho:shownStatus client id request now row=none:=by
   simp only[shownStatus,place_refused hv,classify]
   split<;>rfl
  simp[NotLive,place_refused hv,hsho]
 | none=>
  grind [place_state,NotLive]

def cancelledIoc:SpotOrder:=
 { id:="77",text:="t-7",status:="closed",finishAs:="ioc",currencyPair:="BTC_USDT",type:="limit"
   side:="buy",amount:="1",left:="0.4",price:="60000",timeInForce:="ioc" }

def iocRequest:PlaceOrderRequest:=
 { instrument:={identity:={venue:=.gate,product:=.spot,nativeSymbol:="BTC_USDT" }}
   clientOrderId:="7",side:=.buy,type:=.limit,quantity:=⟨1,0⟩,limitPrice:=⟨60000,0⟩
   limitPolicy:=.ioc}

theorem cancelledIoc_executedBelow:(Row.spot cancelledIoc).ExecutedBelow iocRequest.instrument:=
 (Decimal.lessThan_iff _ _).mp (by decide)

theorem finished_notLive_cancelledIoc :
 NotLive ⟨.gate,.spot⟩ "gate:spot:BTC-USDT" iocRequest 0 (.spot cancelledIoc) ↔
  ((Row.spot cancelledIoc).validate ⟨.gate,.spot⟩ "PlaceOrder").isSome=true:=
 finished_notLive_iff ⟨.gate,.spot⟩ "gate:spot:BTC-USDT" iocRequest (by decide) 0 (.spot cancelledIoc)
  (by unfold Row.Finished; decide) cancelledIoc_executedBelow

theorem cancelledIoc_shown_live :
 (Row.spot cancelledIoc).Finished∧(Row.spot cancelledIoc).ExecutedBelow iocRequest.instrument∧
  ((Row.spot cancelledIoc).place ⟨.gate,.spot⟩ iocRequest).1.state=.partiallyFilled∧
  shownStatus ⟨.gate,.spot⟩ "gate:spot:BTC-USDT" iocRequest 0 (.spot cancelledIoc) =
   some "partially_filled" :=
 ⟨by unfold Row.Finished; decide,cancelledIoc_executedBelow,by decide,by decide⟩

end BolterTrader.Adapters.Gate
