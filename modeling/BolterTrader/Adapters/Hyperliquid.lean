import BolterTrader.Adapters.HttpErrors

/-! Hyperliquid errors (`sdk/hyperliquid/errors.go`, `hyperliquid_rest.go`). -/
namespace BolterTrader.Adapters.Hyperliquid
open Foundations Exchange

structure RequestTracker where
 status:Int:=0

def responseStatus (tracker:Option RequestTracker):Int:=(tracker.map (·.status)).getD 0
def statusCode (status:Int):String:=if 0<status then GoText.itoa status else ""

def failure (product:Product) (operation:String) (kind:ErrorKind) (code safeMessage:String):
 NativeError:=
 newError kind {venue:=.hyperliquid,product,operation,code,safeMessage}

def hlMalformed (product:Product) (operation message:String):NativeError:=
 failure product operation .malformedResponse "" message

def isWalletDoesNotExistError (err:NativeError):Bool:=
 let message:=GoText.toLower (errorText err)
 GoText.contains message "does not exist" && (GoText.contains message "wallet" || GoText.contains message "user")

def hlMalformedSdkError (err:NativeError):Bool:=
 ["malformed","venue returned","missing response","client order id mismatch","unmarshal",
  "invalid character","unexpected end","cannot unmarshal"].any (GoText.contains (errorText err))

/-! ## Queries -/

def hlContextErr (product:Product) (operation:String) (err:NativeError):NativeError:=
 if isError .contextCanceled err then failure product operation .canceled "" "context canceled"
 else if isError .contextDeadlineExceeded err then
  failure product operation .deadlineExceeded "" "context deadline exceeded"
 else failure product operation .transport "" "context error"

def queryStatusErr (product:Product) (operation:String) (err:NativeError) (status:Int):
 Option NativeError:=
 let fail (kind:ErrorKind):=failure product operation kind (statusCode status)
 if status=401∨status=403 then some (fail .authentication "Hyperliquid authentication failed")
 else if status=429 then some (fail .rateLimit "Hyperliquid rate limit")
 else if status=404 then some (fail .notFound "Hyperliquid resource not found")
 else if 500≤ status then some (fail .transport "Hyperliquid API unavailable")
 else if status=400∧(err.as? Fault.hyperliquidPointer?).isSome∧isWalletDoesNotExistError err then
  some (fail .notFound "Hyperliquid account not found")
 else if 400≤ status∧status<500 then some (fail .invalidRequest "Hyperliquid rejected the request")
 else if 0<status∧status<400∧hlMalformedSdkError err then
  some (hlMalformed product operation "malformed Hyperliquid response")
 else if 0<status then some (fail .transport "Hyperliquid response read failed")
 else none

def queryCodeErr (product:Product) (operation:String) (err:NativeError):Option NativeError:=
 match err.as? Fault.hyperliquidPointer? with
 | none=>none
 | some api=>
  let fail (kind:ErrorKind):=failure product operation kind (GoText.itoa api.code)
  if api.code=401∨api.code=403 then some (fail .authentication "Hyperliquid authentication failed")
  else if api.code=429 then some (fail .rateLimit "Hyperliquid rate limit")
  else if api.code=404∨isWalletDoesNotExistError err then
   some (fail .notFound "Hyperliquid resource not found")
  else none

def mappedQueryErr (product:Product) (operation:String) (err:NativeError)
 (tracker:Option RequestTracker):NativeError:=
 if isError .contextCanceled err || isError .contextDeadlineExceeded err then
  hlContextErr product operation err
 else match queryStatusErr product operation err (responseStatus tracker),rateLimitCode? err,
   queryCodeErr product operation err with
  | some answered,_,_=>answered
  | none,some code,_=>failure product operation .rateLimit code "Hyperliquid rate limit"
  | none,none,some coded=>coded
  | none,none,none=>
   if isError .hyperliquidCredentialsRequired err then
    failure product operation .authentication "" "Hyperliquid credentials required"
   else if hlMalformedSdkError err then hlMalformed product operation "malformed Hyperliquid response"
   else failure product operation .transport "" "Hyperliquid transport error"

def hlNormalizeQueryErr (product:Product) (operation:String) (err:NativeError)
 (tracker:Option RequestTracker):Option NativeError:=
 normalizeHttpError (some (mappedQueryErr product operation err tracker)) err .hyperliquid product operation

/-! ## Order commands -/

def hlBaseAck (product:Product) (operation:OrderOperation) (instrument:Instrument)
 (orderId cloid:String) (state:OrderAckState):OrderAcknowledgement:=
 { venue:=.hyperliquid,product,operation,state
   nativeSymbol:=instrument.identity.nativeSymbol
   nativeId:=instrument.identity.nativeId
   orderId,clientOrderId:=cloid}

def refusedKind (code:Int):Option (ErrorKind×String):=
 if code=401∨code=403 then some (.authentication,"Hyperliquid authentication failed")
 else if code=429 then some (.rateLimit,"Hyperliquid rate limit")
 else if code=404 then some (.notFound,"Hyperliquid order command target not found")
 else if 400≤code∧code<500 then
  some (.invalidRequest,"Hyperliquid rejected the order command request")
 else none

def mutationFailure (product:Product) (op:OrderOperation) (instrument:Instrument)
 (orderId cloid:String) (err:NativeError) (tracker:Option RequestTracker):
 OrderAcknowledgement×NativeError:=
 let fail:=failure product (if op=.cancel then "CancelOrder" else "PlaceOrder")
 let ack:=hlBaseAck product op instrument orderId cloid .ambiguous
 let status:=responseStatus tracker
 if (err.as? Fault.hyperliquidRejected?).isSome || isError .hyperliquidOrderRejected err then
  ({ack with
     state:=.rejected
     venueMessage:="Hyperliquid rejected order command"
     venueCode:="order_rejected" },
    fail .venueRejected "order_rejected" "Hyperliquid rejected order command")
 else if isError .hyperliquidCredentialsRequired err then
  ({},fail .authentication "" "Hyperliquid credentials required")
 else match refusedKind status with
  | some (kind,message)=>({},fail kind (statusCode status) message)
  | none=>
   if 500≤ status then (ack,fail .ambiguousOutcome (statusCode status) outcomeUnknown)
   else match rateLimitCode? err,err.as? Fault.hyperliquidPointer? with
    | some code,_=>({},fail .rateLimit code "Hyperliquid rate limit")
    | none,some api=>
     match refusedKind api.code with
     | some (kind,message)=>({},fail kind (GoText.itoa api.code) message)
     | none=>(ack,fail .ambiguousOutcome (GoText.itoa api.code) outcomeUnknown)
    | none,none=>
     if hlMalformedSdkError err then
      ({},fail .malformedResponse "" "malformed Hyperliquid command response")
     else (ack,fail .ambiguousOutcome "" outcomeUnknown)

def hlMutationErr (product:Product) (op:OrderOperation) (instrument:Instrument)
 (orderId cloid:String) (err:NativeError) (tracker:Option RequestTracker):
 OrderAcknowledgement×Option NativeError:=
 let (ack,mapped):=mutationFailure product op instrument orderId cloid err tracker
 normalizeHttpCommand ack (some mapped) err .hyperliquid product op.text

end BolterTrader.Adapters.Hyperliquid
