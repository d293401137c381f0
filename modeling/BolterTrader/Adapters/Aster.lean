import BolterTrader.Foundations.DecimalArith
import BolterTrader.Gateway.Classify

/-! Aster placements (`aster.go`): binding an order response to its request and
turning it into an acknowledgement. -/
namespace BolterTrader.Adapters.Aster
open Foundations Exchange Gateway

structure OrderResponse where
 symbol:String
 orderId:Int
 clientOrderId:String:=""
 executedQty:String:=""
 cumQuote:String:=""
 status:String
 type:String:=""

def asterErr (product:Product) (operation:String) (kind:ErrorKind) (message:String):NativeError:=
 newError kind {venue:=.aster,product,operation,safeMessage:=message}

def asterMalformed (product:Product) (operation message:String):NativeError:=
 asterErr product operation .malformedResponse message

def asterDefaultZero (text:String):String:=if GoText.trimSpace text="" then "0" else text

def ackState (status type:String):OrderAckState:=
 if status="NEW" then if type="MARKET" then .acceptedPending else .resting
 else if status="PARTIALLY_FILLED" then .partiallyFilled
 else if status="FILLED" then .immediatelyFilled
 else if status="CANCELED" then .canceled
 else if status="REJECTED"∨status="EXPIRED" then .rejected
 else .acceptedPending

section
-- the text of the decimal package's error for a text that does not parse
variable (conversionError:String→String)

def asterAck (product:Product) (op:OrderOperation) (instrument:String) (orderId:Int)
 (clientId status type filledText quoteText:String):OrderAcknowledgement×Option NativeError:=
 let filledText:=asterDefaultZero filledText
 let quoteText:=asterDefaultZero quoteText
 match Decimal.ofString? filledText,Decimal.ofString? quoteText with
 | none,_=>({},some (asterMalformed product op.text (conversionError filledText)))
 | some _,none=>({},some (asterMalformed product op.text (conversionError quoteText)))
 | some filled,some quote=>
  let ack : OrderAcknowledgement:=
   { venue:=.aster,product,operation:=op,state:=ackState status type
     nativeSymbol:=instrument
     orderType:=if type="MARKET" then .market else .limit
     orderId:=GoText.itoa orderId
     clientOrderId:=clientId
     filledQuantity:=filled
     averageFillPrice:=if filled.isPositive && quote.isPositive then some (quote.div filled) else none}
  (ack,ack.validate.map fun err=>.leaf (.exchange err))

def asterBindAckIdentity (product:Product) (operation expectedNative expectedClientId expectedOrderId:String)
 (response:OrderResponse):Option NativeError:=
 let malformed:=asterMalformed product operation
 if GoText.trimSpace response.symbol="" then some (malformed "missing acknowledgement symbol")
 else if response.symbol≠expectedNative then some (malformed "acknowledgement symbol mismatch")
 else if response.orderId≤0 then some (malformed "invalid acknowledgement order id")
 else if expectedOrderId≠""∧GoText.itoa response.orderId≠expectedOrderId then
  some (malformed "acknowledgement order id mismatch")
 else if expectedClientId≠""∧GoText.trimSpace response.clientOrderId="" then
  some (malformed "missing acknowledgement client order id")
 else if expectedClientId≠""∧response.clientOrderId≠expectedClientId then
  some (malformed "acknowledgement client order id mismatch")
 else none

def asterResponseAck (product:Product) (op:OrderOperation)
 (expectedNative expectedClientId expectedOrderId:String) (response:Option OrderResponse):
 OrderAcknowledgement×Option NativeError:=
 match response with
 | none=>({},some (asterMalformed product op.text "missing order response"))
 | some response=>
  match asterBindAckIdentity product op.text expectedNative expectedClientId expectedOrderId response with
  | some err=>({},some err)
  | none=>asterAck conversionError product op response.symbol response.orderId response.clientOrderId
   response.status response.type response.executedQty response.cumQuote

/-! ## Executed orders -/

def ackVerdict (product:Product) (instrument:String) (orderId:Int)
 (clientId status type filledText quoteText:String) (id:String) (request:PlaceOrderRequest) (now:Int):
 PlaceStatus:=
 let (ack,err):=
  asterAck conversionError product .place instrument orderId clientId status type filledText quoteText
 (classify id request ack err now).status

theorem ackState_eq_rejected_iff (sts type:String):
  ackState sts type=.rejected ↔ sts="REJECTED"∨sts="EXPIRED" := by
 unfold ackState
 split_ifs<;>simp_all

/-- When an Aster response that executed something is not reported as rejected. -/
theorem executed_not_rejected_iff (product:Product) (instrument:String) (orderId:Int)
 (clientId status type filledText quoteText:String) (filled:Decimal)
 (hfilled:Decimal.ofString? (asterDefaultZero filledText)=some filled)
 (_hexecuted:filled.isPositive=true) (id:String) (request:PlaceOrderRequest) (now:Int):
 ackVerdict conversionError product instrument orderId clientId status type filledText quoteText id
   request now≠.rejected ↔
  (status≠"REJECTED"∧status≠"EXPIRED")∨Decimal.ofString? (asterDefaultZero quoteText)=none:=by
 cases hquote : Decimal.ofString? (asterDefaultZero quoteText) with
 | none=>
  have hopen:rejects .unset {kind:=.malformedResponse}=false:=by decide
  have hunk:ackVerdict conversionError product instrument orderId clientId status type filledText
    quoteText id request now=if rejects .unset {kind:=.malformedResponse} then .rejected else .unknown:=by
   simp only[ackVerdict,asterAck,hfilled,hquote]
   exact classify_leaf_status id request {} _ now
  rw[hunk,hopen]
  simp
 | some=>
  have hst:ackVerdict conversionError product instrument orderId clientId status type filledText
    quoteText id request now=.rejected ↔ ackState status type=.rejected:=by
   simp only[ackVerdict,asterAck,hfilled,hquote]
   exact classify_validated id request _ now
  rw[ne_eq,hst,ackState_eq_rejected_iff]
  simp

end

def expiredResponse:OrderResponse:=
 { symbol:="BTCUSDT",orderId:=77,clientOrderId:="7",executedQty:="0.5",cumQuote:="30000"
   status:="EXPIRED",type:="LIMIT" }

theorem executed_not_rejected_canceled :
 ackVerdict id .spot "BTCUSDT" 77 "7" "CANCELED" "LIMIT" "0.5" "30000" "aster:spot:BTC-USDT" {} 0≠.rejected ↔
  ("CANCELED" ≠ "REJECTED"∧"CANCELED" ≠ "EXPIRED")∨Decimal.ofString? (asterDefaultZero "30000")=none:=
 executed_not_rejected_iff id .spot "BTCUSDT" 77 "7" "CANCELED" "LIMIT" "0.5" "30000" ⟨5,-1⟩
  (by decide) (by decide) "aster:spot:BTC-USDT" {} 0

theorem expired_fill_rejected :
 (Decimal.ofString? (asterDefaultZero expiredResponse.executedQty)).map Decimal.isPositive=some true∧
  (classify "aster:spot:BTC-USDT" {}
   (asterResponseAck id .spot .place "BTCUSDT" "7" "" (some expiredResponse)).1
   (asterResponseAck id .spot .place "BTCUSDT" "7" "" (some expiredResponse)).2 0).status=.rejected:=by
 decide

end BolterTrader.Adapters.Aster
