import BolterTrader.Foundations.ErrorTree
import BolterTrader.Gateway.Failures

/-! The errors that travel through the adapters. -/
namespace BolterTrader.Adapters
open Foundations Exchange

/-! ## Sentinels -/

inductive Sentinel where
 | contextCanceled | contextDeadlineExceeded
 | rateLimited | authFailed
 | httpMalformedResponse
 | kind (kind:ErrorKind)
 | binanceSpotOutcomeUnknown | binancePerpOutcomeUnknown
 | okxPreSend | okxOutcomeUnknown | okxMalformedResponse
 | hyperliquidOrderNotFound | hyperliquidOrderRejected | hyperliquidCredentialsRequired
 | hyperliquidReferenceUnavailable | hyperliquidReferenceMalformed | hyperliquidOutcomeUnknown
 | lighterOutcomeUnknown | lighterMalformedResponse
 | nadoExecutionRejected
 deriving DecidableEq

def Sentinel.text:Sentinel→String
 | .contextCanceled => "context canceled"
 | .contextDeadlineExceeded => "context deadline exceeded"
 | .rateLimited => "rate limited"
 | .authFailed => "authentication failed"
 | .httpMalformedResponse => "malformed venue response"
 | .kind k=>k.text
 | .binanceSpotOutcomeUnknown => "binance spot ws-api outcome unknown after request write"
 | .binancePerpOutcomeUnknown => "binance perp ws-api outcome unknown after request write"
 | .okxPreSend => "okx ws command failed before send"
 | .okxOutcomeUnknown => "okx ws command outcome unknown after send"
 | .okxMalformedResponse => "okx ws malformed command response"
 | .hyperliquidOrderNotFound => "hyperliquid: order not found"
 | .hyperliquidOrderRejected => "hyperliquid: order rejected"
 | .hyperliquidCredentialsRequired => "credentials required"
 | .hyperliquidReferenceUnavailable => "hyperliquid: market reference unavailable"
 | .hyperliquidReferenceMalformed => "hyperliquid: malformed market reference"
 | .hyperliquidOutcomeUnknown => "hyperliquid: mutation outcome unknown"
 | .lighterOutcomeUnknown => "websocket transaction outcome is unknown"
 | .lighterMalformedResponse => "malformed response"
 | .nadoExecutionRejected => "nado: execution rejected"

/-! ## Typed errors -/

structure HttpError where
 statusCode:Int
 method:String:=""
 path:String:=""
 code:String:=""
 retryAfter:Int:=0
 deriving DecidableEq

structure LocalRateLimitError where
 retryAfter:Int:=0
 action:String
 deriving DecidableEq

structure ExchangeError where
 exchange:String:=""
 code:String:=""
 message:String:=""
 deriving DecidableEq

structure BybitResponseError where
 operation:String:=""
 code:Int
 message:String:=""
 deriving DecidableEq

structure BitgetResponseError where
 operation:String:=""
 code:String
 message:String:=""
 deriving DecidableEq

structure BinanceApiError where
 code:Int
 message:String
 httpStatus:Int
 deriving DecidableEq

structure OkxApiError where
 code:String
 message:String:=""
 details:String:=""
 deriving DecidableEq

structure GateApiError where
 statusCode:Int
 method:String:=""
 path:String:=""
 label:String:=""
 message:String:=""
 body:String:=""
 deriving DecidableEq

structure CodedApiError where
 code:Int
 message:String:=""
 deriving DecidableEq

structure NadoApplicationError where
 code:Int
 message:String:=""
 requestType:String:=""
 deriving DecidableEq

structure AsterVenueError where
 statusCode:Int
 method:String:=""
 path:String:=""
 code:Int
 message:String:=""
 deriving DecidableEq

/-! ## The errors of a chain -/

inductive Fault where
 | message (text:String)
 | sentinel (sentinel:Sentinel)
 | exchange (err:Exchange.Error)
 | http (err:HttpError)
 | localRateLimit (err:LocalRateLimitError)
 | httpTransport
 | transportCause
 | network (text:String)
 | jsonSyntax (text:String)
 | jsonUnmarshalType (text:String)
 | exchangeError (err:ExchangeError)
 | bybit (err:BybitResponseError)
 | bitget (err:BitgetResponseError)
 | binanceSpot (err:BinanceApiError)
 | binancePerp (err:BinanceApiError)
 | okx (err:OkxApiError)
 | okxCommand (sentinel:Sentinel) (text:String)
 | gate (err:GateApiError)
 | hyperliquidRejected (reason:String)
 | hyperliquidValue (err:CodedApiError)
 | hyperliquidPointer (err:CodedApiError)
 | hyperliquidReference (kind:Sentinel)
 | hyperliquidMutation
 | lighter (err:CodedApiError)
 | lighterStatus (status:Int)
 | nado (err:NadoApplicationError)
 | aster (err:AsterVenueError)
 | venueFailure (failure:Gateway.VenueFailure)
 deriving DecidableEq

abbrev NativeError:=ErrorTree Fault

namespace Fault

def http?:Fault→Option HttpError
 | .http err=>some err
 | _=>none

def localRateLimit?:Fault→Option LocalRateLimitError
 | .localRateLimit err=>some err
 | _=>none

def exchange?:Fault→Option Exchange.Error
 | .exchange err=>some err
 | _=>none

def exchangeError?:Fault→Option ExchangeError
 | .exchangeError err=>some err
 | _=>none

def bybit?:Fault→Option BybitResponseError
 | .bybit err=>some err
 | _=>none

def bitget?:Fault→Option BitgetResponseError
 | .bitget err=>some err
 | _=>none

def binanceSpot?:Fault→Option BinanceApiError
 | .binanceSpot err=>some err
 | _=>none

def binancePerp?:Fault→Option BinanceApiError
 | .binancePerp err=>some err
 | _=>none

def okx?:Fault→Option OkxApiError
 | .okx err=>some err
 | _=>none

def gate?:Fault→Option GateApiError
 | .gate err=>some err
 | _=>none

def hyperliquidRejected?:Fault→Option String
 | .hyperliquidRejected reason=>some reason
 | _=>none

def hyperliquidValue?:Fault→Option CodedApiError
 | .hyperliquidValue err=>some err
 | _=>none

def hyperliquidPointer?:Fault→Option CodedApiError
 | .hyperliquidPointer err=>some err
 | _=>none

def lighter?:Fault→Option CodedApiError
 | .lighter err=>some err
 | _=>none

def lighterStatus?:Fault→Option Int
 | .lighterStatus status=>some status
 | _=>none

def nado?:Fault→Option NadoApplicationError
 | .nado err=>some err
 | _=>none

def aster?:Fault→Option AsterVenueError
 | .aster err=>some err
 | _=>none

def venueFailure?:Fault→Option Gateway.VenueFailure
 | .venueFailure failure=>some failure
 | _=>none

def isJson:Fault→Bool
 | .jsonSyntax _ | .jsonUnmarshalType _=>true
 | _=>false

def isNetwork:Fault→Bool
 | .network _=>true
 | _=>false

def answers (target:Sentinel):Fault→Bool
 | .sentinel own=>own == target
 | .exchange err=>
  match target with
  | .kind k=>err.kind == k
  | .contextCanceled=>err.kind == .canceled
  | .contextDeadlineExceeded=>err.kind == .deadlineExceeded
  | _=>false
 | .http err=>target == .rateLimited && (err.statusCode == 429 || err.statusCode == 418)
 | .localRateLimit _=>target == .rateLimited
 | .bybit err=>target == .rateLimited && (err.code == 10006 || err.code == 429 || err.code == 10429)
 | .bitget err=>target == .rateLimited && err.code == "42900"
 | .okxCommand own _=>target == own
 | _=>false

def text:Fault→String
 | .message text | .network text | .jsonSyntax text | .jsonUnmarshalType text=>text
 | .sentinel own=>own.text
 | .exchange err=>err.text
 | .http err => "venue HTTP failure (method=" ++ err.method ++ " path=" ++ err.path ++ " status=" ++
  GoText.itoa err.statusCode ++ " code=" ++ err.code ++ ")"
 | .localRateLimit _ => "local request budget exhausted"
 | .httpTransport => "venue HTTP transport failure"
 | .transportCause => "transport failure"
 | .exchangeError err=>
  if err.code≠"" then "[" ++ err.exchange ++ "] " ++ err.code ++ ": " ++ err.message
  else "[" ++ err.exchange ++ "] " ++ err.message
 | .bybit err => "bybit sdk: " ++ err.operation ++ " failed: " ++ GoText.itoa err.code ++ " " ++ err.message
 | .bitget err => "bitget sdk: " ++ err.operation ++ " failed: " ++ err.code ++ " " ++ err.message
 | .binanceSpot err | .binancePerp err=>err.message
 | .okx err=>
  if err.details≠"" then
   "okx api error: code=" ++ err.code ++ ", msg=" ++ err.message ++ ", details=" ++ err.details
  else "okx api error: code=" ++ err.code ++ ", msg=" ++ err.message
 | .okxCommand _ text=>text
 | .gate err=>
  "gate sdk: " ++ err.method ++ " " ++ err.path ++ " returned " ++ GoText.itoa err.statusCode ++ ": " ++
   (if err.label≠""∨err.message≠"" then err.label ++ " " ++ err.message else err.body)
 | .hyperliquidRejected reason=>
  if reason="" then Sentinel.hyperliquidOrderRejected.text
  else Sentinel.hyperliquidOrderRejected.text ++ ": " ++ reason
 | .hyperliquidValue err | .hyperliquidPointer err=>
  "API error " ++ GoText.itoa err.code ++ ": " ++ err.message
 | .hyperliquidReference kind=>kind.text
 | .hyperliquidMutation=>Sentinel.hyperliquidOutcomeUnknown.text
 | .lighter err => "API Error " ++ GoText.itoa err.code ++ ": " ++ err.message
 | .lighterStatus status => "lighter HTTP status " ++ GoText.itoa status
 | .nado err => "nado gateway application error (" ++ GoText.itoa err.code ++ ") for " ++
  err.requestType ++ ": " ++ err.message
 | .aster err => "aster sdk: " ++ err.method ++ " " ++ err.path ++ " returned HTTP " ++
  GoText.itoa err.statusCode ++ ", code " ++ GoText.itoa err.code ++ ": " ++ err.message
 | .venueFailure failure=>failure.text

end Fault

/-! ## Inspecting an error -/

def isError (target:Sentinel) (err:NativeError):Bool:=err.is (Fault.answers target)
def errorText (err:NativeError):String:=err.value.text

def rateLimitCode? (err:NativeError):Option String:=
 if isError .rateLimited err then (err.as? Fault.exchangeError?).map (·.code) else none

def newError (kind:ErrorKind) (details:ErrorDetails):NativeError:=.leaf (.exchange {kind,details})

@[simp] theorem newError_exchange (kind:ErrorKind) (details:ErrorDetails):
 (newError kind details).as? Fault.exchange?=some {kind,details}:=by
 simp[newError,Fault.exchange?]

/-! ## The client an error belongs to -/

structure ClientMeta where
 venue:Venue
 product:Product

def ClientMeta.catalogMetadataResolution (client:ClientMeta) (operation message:String):NativeError:=
 newError .metadataResolution
  {venue:=client.venue,product:=client.product,operation,safeMessage:=message}

def ClientMeta.catalogInvalidRequest (client:ClientMeta) (operation message:String):NativeError:=
 newError .invalidRequest
  {venue:=client.venue,product:=client.product,operation,safeMessage:=message}

def withExchangeOperation (err:NativeError) (operation:String):NativeError:=
 match err.as? Fault.exchange? with
 | none=>err
 | some normalized=>newError normalized.kind {normalized.details with operation}

end BolterTrader.Adapters
