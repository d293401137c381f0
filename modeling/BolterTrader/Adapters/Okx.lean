import BolterTrader.Adapters.HttpErrors

/-! OKX errors (`okx_rest.go`): the mapper of queries and the mapper of order
commands, over REST and over the private WebSocket. -/
namespace BolterTrader.Adapters.Okx
open Foundations Exchange

def failure (product:Product) (operation:String) (kind:ErrorKind) (code safeMessage:String):
 NativeError:=
 newError kind {venue:=.okx,product,operation,code,safeMessage}

def okxIsCredentialError (err:NativeError):Bool:=GoText.contains (errorText err) "credentials required"

def okxIsHttpAuthError (err:NativeError):Bool:=
 let message:=GoText.toLower (errorText err)
 GoText.contains message "http error 401" || GoText.contains message "http error 403"

def okxIsAuthCode (code:String):Bool:=
 ["50105","50111","50113","50119","50120","50121","50122","50123"].contains code

/-! ## Queries -/

def okxContextErr (product:Product) (operation:String) (err:NativeError):Option NativeError:=
 if isError .contextCanceled err then some (failure product operation .canceled "" "context canceled")
 else if isError .contextDeadlineExceeded err then
  some (failure product operation .deadlineExceeded "" "context deadline exceeded")
 else none

def mappedErr (product:Product) (operation:String) (err:NativeError):NativeError:=
 match okxContextErr product operation err,rateLimitCode? err,err.as? Fault.okx? with
 | some ended,_,_=>ended
 | none,some code,_=>failure product operation .rateLimit code "OKX rate limit"
 | none,none,some api=>
  if okxIsAuthCode api.code then failure product operation .authentication api.code "OKX authentication failed"
  else failure product operation .venueRejected api.code "OKX rejected request"
 | none,none,none=>
  if okxIsCredentialError err then failure product operation .authentication "" "OKX credentials required"
  else failure product operation .transport "" "okx transport failed"

def okxNormalizeErr (product:Product) (operation:String) (err:NativeError):Option NativeError:=
 normalizeHttpError (some (mappedErr product operation err)) err .okx product operation

/-! ## Order commands -/

def okxCommandOperation:OrderOperation→String
 | .place => "PlaceOrder"
 | .cancel => "CancelOrder"
 | operation=>operation.text

def okxBaseAck (product:Product) (operation:OrderOperation) (instrument:Instrument)
 (orderId clientOrderId:String):OrderAcknowledgement:=
 { venue:=.okx,product,operation
   nativeSymbol:=instrument.identity.nativeSymbol
   nativeId:=instrument.identity.nativeId
   orderId,clientOrderId}

def commandFailure (product:Product) (op:OrderOperation) (instrument:Instrument)
 (orderId clientOrderId:String) (err:NativeError):OrderAcknowledgement×NativeError:=
 let ack:={okxBaseAck product op instrument orderId clientOrderId with state:=.ambiguous}
 let fail:=failure product (okxCommandOperation op)
 if isError .okxPreSend err then ({},fail .transport "" "OKX websocket command was not sent")
 else if isError .okxOutcomeUnknown err then (ack,fail .ambiguousOutcome "" outcomeUnknown)
 else if isError .okxMalformedResponse err then
  ({},fail .malformedResponse "" "OKX websocket command response was malformed")
 else match rateLimitCode? err,err.as? Fault.okx? with
  | some code,_=>({},fail .rateLimit code "OKX rate limit")
  | none,some api=>
   if okxIsAuthCode api.code then ({},fail .authentication api.code "OKX authentication failed")
   else
    ({ack with state:=.rejected,venueCode:=api.code,venueMessage:="OKX rejected order command" },
     fail .venueRejected api.code "OKX rejected order command")
  | none,none=>
   if okxIsCredentialError err then ({},fail .authentication "" "OKX credentials required")
   else if okxIsHttpAuthError err then ({},fail .authentication "" "OKX authentication failed")
   else (ack,fail .ambiguousOutcome "" outcomeUnknown)

def okxCommandTransportAck (product:Product) (op:OrderOperation) (instrument:Instrument)
 (orderId clientOrderId:String) (err:NativeError):OrderAcknowledgement×Option NativeError:=
 let (ack,mapped):=commandFailure product op instrument orderId clientOrderId err
 normalizeHttpCommand ack (some mapped) err .okx product (okxCommandOperation op)

end BolterTrader.Adapters.Okx
