import BolterTrader.Exchange.Instruments

/-! Orders and acknowledgements as the exchange layer exposes them
(`exchange/ack.go`, `exchange/model.go`). -/
namespace BolterTrader.Exchange
open Foundations

inductive OrderAckState where
 | unset | acceptedPending | resting | partiallyFilled | immediatelyFilled | canceled | rejected | ambiguous
 deriving DecidableEq

inductive OrderOperation where
 | unset | place | cancel
 deriving DecidableEq

def OrderOperation.text:OrderOperation→String
 | .unset => ""
 | .place => "place"
 | .cancel => "cancel"

inductive OrderType where
 | unset | market | limit
 deriving DecidableEq

def OrderType.text:OrderType→String
 | .unset => ""
 | .market => "market"
 | .limit => "limit"

inductive Side where
 | unset | buy | sell
 deriving DecidableEq

def Side.text:Side→String
 | .unset => ""
 | .buy => "buy"
 | .sell => "sell"

inductive LimitPolicy where
 | unset | resting | ioc | postOnly
 deriving DecidableEq

abbrev Timestamp:=Option Int
def Timestamp.unixMilli (time:Timestamp):Int:=(time.map (· / 1000000)).getD 0

structure PlaceOrderRequest where
 instrument:Instrument:={}
 clientOrderId:String:=""
 side:Side:=.unset
 type:OrderType:=.unset
 quantity:Decimal:={}
 limitPrice:Decimal:={}
 limitPolicy:LimitPolicy:=.unset
 reduceOnly:Bool:=false

structure Order where
 nativeSymbol:String:=""
 nativeId:String:=""
 orderId:String:=""
 clientOrderId:String:=""
 side:Side:=.unset
 type:OrderType:=.unset
 quantity:Decimal:={}
 limitPrice:Decimal:={}
 limitPolicy:LimitPolicy:=.unset
 reduceOnly:Bool:=false
 filled:Decimal:={}
 averageFillPrice:OptionalDecimal:=none
 status:String:=""
 createdAt:Timestamp:=none
 updatedAt:Timestamp:=none

structure OrderAcknowledgement where
 venue:Venue:=.unset
 product:Product:=.unset
 operation:OrderOperation:=.unset
 state:OrderAckState:=.unset
 nativeSymbol:String:=""
 nativeId:String:=""
 orderType:OrderType:=.unset
 orderId:String:=""
 clientOrderId:String:=""
 transactionHash:String:=""
 filledQuantity:Decimal:={}
 averageFillPrice:OptionalDecimal:=none
 venueCode:String:=""
 venueMessage:String:=""

def ackMalformed (message:String):Error:=
 { kind:=.malformedResponse
   details:={operation:="OrderAcknowledgement.Validate",safeMessage:=message}}

def OrderAcknowledgement.referenced (ack:OrderAcknowledgement):Bool:=
 ack.orderId≠"" || ack.clientOrderId≠"" || ack.transactionHash≠""

def OrderAcknowledgement.validate (ack:OrderAcknowledgement):Option Error:=
 if ack.venue=.unset∨ack.product=.unset∨ack.operation=.unset∨ack.state=.unset∨
   ack.nativeSymbol="" then
  some (ackMalformed "missing acknowledgement metadata")
 else match ack.state with
  | .acceptedPending=>
   if ack.referenced then none
   else some (ackMalformed "accepted-pending acknowledgement has no order reference")
  | .resting=>
   if ack.orderType=.market then
    some (ackMalformed "market order acknowledgement cannot be resting")
   else if ack.orderId="" then
    some (ackMalformed "final exchange acknowledgement has no order id")
   else none
  | .partiallyFilled=>
   if ack.orderId="" then some (ackMalformed "partial-fill acknowledgement has no order id")
   else if !ack.filledQuantity.isPositive then
    some (ackMalformed "partial-fill acknowledgement has no positive filled quantity")
   else none
  | .immediatelyFilled=>
   if ack.orderId="" then some (ackMalformed "final exchange acknowledgement has no order id")
   else none
  | .canceled=>
   if ack.referenced then none
   else some (ackMalformed "canceled acknowledgement has no order reference")
  | .rejected=>
   if ack.venueCode=""∧ack.venueMessage="" then
    some (ackMalformed "rejected acknowledgement has no venue rejection details")
   else none
  | .ambiguous=>
   if ack.referenced then none
   else some (ackMalformed "ambiguous acknowledgement has no correlation reference")
  | .unset=>some (ackMalformed "unknown acknowledgement state")

theorem OrderAcknowledgement.validate_kind {ack:OrderAcknowledgement} {err:Error}
 (h:ack.validate=some err):∃ message,err=ackMalformed message:=by
 grind [OrderAcknowledgement.validate]

end BolterTrader.Exchange
