import BolterTrader.Adapters.VenueHttp
import BolterTrader.Gateway.Classify

/-! Binance placements: the SDK clients that turn a response into a native error
(`sdk/binance/spot`, `sdk/binance/perp`, `internal/mbx`) and the two adapters
that map it (`binance_spot_rest.go`, `binance_perp_rest.go`). -/
namespace BolterTrader.Adapters.Binance
open Foundations Exchange Gateway
set_option maxRecDepth 4000

inductive Market where
 | spot | perp
 deriving DecidableEq

def Market.product:Market→Product
 | .spot=>.spot
 | .perp=>.perp

/-! ## The SDK clients -/

def apiFault:Market→BinanceApiError→Fault
 | .spot=>.binanceSpot
 | .perp=>.binancePerp

def apiError?:Market→Fault→Option BinanceApiError
 | .spot=>Fault.binanceSpot?
 | .perp=>Fault.binancePerp?

def definitiveCodes:Market→List Int
 | .spot=>
  [-1013,-1014,-1015,-1020,
   -1100,-1101,-1102,-1103,-1104,-1105,-1106,-1108,
   -1111,-1112,-1114,-1115,-1116,-1117,-1118,-1119,
   -1121,-1128,-1130,-1134,-1135,-1145,
   -2010,-2011,-2013,-2016,-2038,-2039]
 | .perp=>
  [-1013,-1014,-1015,-1020,
   -1100,-1101,-1102,-1103,-1104,-1105,-1106,
   -1111,-1114,-1115,-1116,-1117,-1118,-1119,
   -1121,-1128,-1130,-1136,
   -2010,-2011,-2012,-2013,-2016,-2018,-2019,
   -2020,-2021,-2022,-2023,-2024,-2025,-2026,-2027,-2028,
   -4000,-4001,-4002,-4003,-4004,-4005,-4006,-4007,
   -4013,-4014,-4015,-4016,-4020,-4022,-4023,-4024,
   -4031,-4032,-4045,-4058,-4060,-4061,-4062,
   -4087,-4088,-4104,-4105,-4106,-4107,-4109,
   -4116,-4117,-4118,-4120,-4131,-4135,-4137,-4138,
   -4139,-4140,-4141,-4142,-4144,-4164,-4183,-4184,
   -4189,-4192]

def isDefinitiveOrderRejection (market:Market) (err:NativeError):Bool:=
 match err.as? (apiError? market) with
 | none=>false
 | some api=>
  api.code≠0 && api.message≠"" && api.httpStatus == 400 && (definitiveCodes market).contains api.code

def isAuthenticationError (status code:Int):Bool:=
 status == 401 || status == 403 || [-1002,-1022,-2014,-2015].contains code

def isRateLimitMessage (message:String):Bool:=
 let lower:=GoText.toLower message
 GoText.contains lower "request weight" || GoText.contains lower "too many requests" ||
  GoText.contains lower "banned until"

def isRateLimited (status code:Int) (message:String):Bool:=
 status == 429 || status == 418 || isRateLimitMessage message || code == -1003 || code == -1015

def exchangeFailure (code:Int) (message:String) (sentinel:Sentinel):NativeError:=
 .wrap (.exchangeError {exchange:="BINANCE",code:=GoText.itoa code,message})
  (.leaf (.sentinel sentinel))

def decodedFailure (market:Market) (status code:Int) (message:String):NativeError:=
 if isRateLimited status code message then exchangeFailure code message .rateLimited
 else if isAuthenticationError status code then exchangeFailure code message .authFailed
 else .leaf (apiFault market {code,message,httpStatus:=status})

inductive Reply where
 | rest (response:Response) (failed:400≤response.statusCode) (code:Int) (message:String)
 | socket (status code:Int) (message:String)

namespace Reply

def status:Reply→Int
 | rest response _ _ _=>response.statusCode
 | socket status _ _=>status

def code:Reply→Int
 | rest _ _ code _=>code
 | socket _ code _=>code

def message:Reply→String
 | rest _ _ _ message=>message
 | socket _ _ message=>message

def error (market:Market):Reply→NativeError
 | rest response _ code message=>
  withHttpResponse (decodedFailure market response.statusCode code message) response
 | socket status code message=>.leaf (apiFault market {code,message,httpStatus:=status})

end Reply

/-! ## Errors of the adapters -/

def failure (market:Market) (operation:String) (kind:ErrorKind) (code safeMessage:String):
 Exchange.Error:=
 ⟨kind,{venue:=.binance,product:=market.product,operation,code,safeMessage}⟩

def unmarshalFailed (err:NativeError):Bool:=GoText.contains (errorText err) "failed to unmarshal response"

def authOrRateLimit (market:Market) (operation:String) (err:NativeError):Option Exchange.Error:=
 match err.as? Fault.exchangeError? with
 | none=>none
 | some exchangeErr=>
  if isError .authFailed err then
   some (failure market operation .authentication exchangeErr.code "authentication failed")
  else if isError .rateLimited err then
   some (failure market operation .rateLimit exchangeErr.code "rate limited")
  else none

/-! ## The perpetual adapter -/

def perpApiFailure (operation:String) (api:BinanceApiError):Exchange.Error:=
 let code:=GoText.itoa api.code
 if 500≤api.httpStatus then failure .perp operation .transport code "venue server error"
 else if api.httpStatus=401∨api.httpStatus=403 then
  failure .perp operation .authentication code "authentication failed"
 else if api.httpStatus=404∨api.code = -2013∨api.code = -1121 then
  failure .perp operation .notFound code "not found"
 else failure .perp operation .venueRejected code "binance usd-m perp api error"

def perpMapped (operation:String) (err:NativeError):Exchange.Error:=
 if isError .contextCanceled err then failure .perp operation .canceled "" "context canceled"
 else if isError .contextDeadlineExceeded err then
  failure .perp operation .deadlineExceeded "" "context deadline exceeded"
 else match authOrRateLimit .perp operation err with
  | some mapped=>mapped
  | none=>
   match err.as? Fault.binancePerp? with
   | some api=>perpApiFailure operation api
   | none=>
    if unmarshalFailed err then failure .perp operation .malformedResponse "" "malformed venue response"
    else failure .perp operation .transport "" "binance usd-m perp transport failed"

def binancePerpNormalizeError (operation:String) (err:NativeError):Option NativeError:=
 normalizeHttpError (some (.leaf (.exchange (perpMapped operation err)))) err .binance .perp operation

def binancePerpIsKnownResponseError (err:NativeError):Bool:=
 (err.as? Fault.binancePerp?).isSome || (err.as? Fault.exchangeError?).isSome || unmarshalFailed err

def binancePerpIsPreSendTransport (err:NativeError):Bool:=
 GoText.contains (errorText err) "websocket not connected" ||
  GoText.contains (errorText err) "connection is not established"

def binancePerpCommandErrorAck (operation:String) (ack:OrderAcknowledgement) (err:NativeError):
 OrderAcknowledgement×Option NativeError:=
 let finish (ack:OrderAcknowledgement) (mapped:Option NativeError):=
  normalizeHttpCommand ack mapped err .binance .perp operation
 let api:=err.as? Fault.binancePerp?
 if isDefinitiveOrderRejection .perp err then
  let code:=(api.map fun e=>GoText.itoa e.code).getD ""
  finish {ack with state:=.rejected,venueCode:=code,venueMessage:="venue rejected order command" }
   (some (.leaf (.exchange (failure .perp operation .venueRejected code "venue rejected order command"))))
 else if binancePerpIsKnownResponseError err then finish {} (binancePerpNormalizeError operation err)
 else if binancePerpIsPreSendTransport err then finish {} (binancePerpNormalizeError operation err)
 else finish {ack with state:=.ambiguous}
  (some (.leaf (.exchange (failure .perp operation .ambiguousOutcome "" outcomeUnknown))))

/-! ## The spot adapter -/

def binanceSpotIsTransport (err:NativeError):Bool:=GoText.contains (errorText err) "transport failed"

def spotApiFailure (operation:String) (api:BinanceApiError):Exchange.Error:=
 let code:=GoText.itoa api.code
 if 500≤api.httpStatus then failure .spot operation .transport code "venue server error"
 else if api.code = -1121∨api.code = -2013∨api.httpStatus=404 then
  failure .spot operation .notFound code "not found"
 else failure .spot operation .venueRejected code "venue rejected request"

def spotMapped (operation:String) (err:NativeError):Exchange.Error:=
 if isError .contextCanceled err then failure .spot operation .canceled "" ""
 else if isError .contextDeadlineExceeded err then failure .spot operation .deadlineExceeded "" ""
 else match authOrRateLimit .spot operation err with
  | some mapped=>mapped
  | none=>
   match err.as? Fault.binanceSpot? with
   | some api=>spotApiFailure operation api
   | none=>
    if unmarshalFailed err then failure .spot operation .malformedResponse "" "malformed venue response"
    else if binanceSpotIsTransport err then failure .spot operation .transport "" "transport failed"
    else failure .spot operation .transport "" "request failed"

def binanceSpotNormalizeErr (operation:String) (err:NativeError):Option NativeError:=
 normalizeHttpError (some (.leaf (.exchange (spotMapped operation err)))) err .binance .spot operation

def validated (ack:OrderAcknowledgement) (err:Exchange.Error):
 OrderAcknowledgement×Option NativeError:=
 match ack.validate with
 | some invalid=>({},some (.leaf (.exchange invalid)))
 | none=>(ack,some (.leaf (.exchange err)))

def binanceSpotCommandAck (nativeSymbol:String) (operation:OrderOperation)
 (operationName orderId clientOrderId:String) (err:NativeError):
 OrderAcknowledgement×Option NativeError:=
 let finish (result:OrderAcknowledgement×Option NativeError):=
  normalizeHttpCommand result.1 result.2 err .binance .spot operationName
 let ack : OrderAcknowledgement:={venue:=.binance,product:=.spot,operation,nativeSymbol,orderId,clientOrderId}
 let code:=((err.as? Fault.binanceSpot?).map fun e=>GoText.itoa e.code).getD ""
 if isDefinitiveOrderRejection .spot err then
  finish <| validated
   {ack with state:=.rejected,venueCode:=code,venueMessage:="venue rejected request" }
   (failure .spot operationName .venueRejected code "venue rejected request")
 else if isError .binanceSpotOutcomeUnknown err || binanceSpotIsTransport err then
  finish <| validated {ack with state:=.ambiguous,venueMessage:="transport outcome unknown" }
   (failure .spot operationName .ambiguousOutcome "" "transport outcome unknown")
 else finish ({},binanceSpotNormalizeErr operationName err)

/-! ## The native errors of a reply -/

theorem decodedFailure_http (market:Market) (status code:Int) (message:String):
 (decodedFailure market status code message).as? Fault.http?=none:=by
 unfold decodedFailure exchangeFailure
 split_ifs
 · simp[ErrorTree.as?_wrap,Fault.http?]
 · simp[ErrorTree.as?_wrap,Fault.http?]
 · cases market<;>simp[apiFault,Fault.http?]

theorem rest_error (market:Market) (response:Response) (failed:400≤response.statusCode) (code:Int)
 (message:String):
 (Reply.rest response failed code message).error market =
  .wrap (.http response.error) (decodedFailure market response.statusCode code message):=by
 simp only[Reply.error,withHttpResponse,decodedFailure_http]

theorem rest_transient (market:Market) (response:Response) (failed:400≤response.statusCode) (code:Int)
 (message:String):
 transientResponse ((Reply.rest response failed code message).error market) =
  transientStatus response.statusCode:=by
 simp[rest_error,transientResponse,ErrorTree.as?_wrap,Fault.http?,Response.error]

theorem socket_transient (market:Market) (status code:Int) (message:String):
 transientResponse ((Reply.socket status code message).error market)=false:=by
 cases market<;>simp[Reply.error,transientResponse,apiFault,Fault.http?]

theorem error_localRateLimit (market:Market) (reply:Reply):
 (reply.error market).as? Fault.localRateLimit?=none:=by
 cases reply with
 | rest=>
  rw[rest_error]
  unfold decodedFailure exchangeFailure
  split_ifs
  · simp[ErrorTree.as?_wrap,Fault.localRateLimit?]
  · simp[ErrorTree.as?_wrap,Fault.localRateLimit?]
  · cases market<;>simp[ErrorTree.as?_wrap,apiFault,Fault.localRateLimit?]
 | socket=>cases market<;>simp[Reply.error,apiFault,Fault.localRateLimit?]

theorem error_decodes (market:Market) (reply:Reply):decodingFailed (reply.error market)=false:=by
 cases reply with
 | rest=>
  rw[rest_error]
  unfold decodedFailure exchangeFailure
  split_ifs
  · simp[decodingFailed,isError,ErrorTree.is_wrap,Fault.answers,Fault.isJson]
  · simp[decodingFailed,isError,ErrorTree.is_wrap,Fault.answers,Fault.isJson]
  · cases market<;>simp[decodingFailed,isError,ErrorTree.is_wrap,apiFault,Fault.answers,Fault.isJson]
 | socket=>
  cases market<;>simp[Reply.error,decodingFailed,isError,apiFault,Fault.answers,Fault.isJson]

/-! ## What the gateway reports for a failed placement -/

def placeFailure (market:Market) (nativeSymbol clientOrderId:String) (err:NativeError):
 OrderAcknowledgement×Option NativeError:=
 match market with
 | .spot=>binanceSpotCommandAck nativeSymbol .place "PlaceOrder" "" clientOrderId err
 | .perp=>binancePerpCommandErrorAck "PlaceOrder"
  {venue:=.binance,product:=.perp,operation:=.place,nativeSymbol,clientOrderId} err

def placeVerdict (market:Market) (nativeSymbol clientOrderId:String) (err:NativeError) (id:String)
 (request:PlaceOrderRequest) (now:Int):PlaceStatus:=
 let (ack,mapped):=placeFailure market nativeSymbol clientOrderId err
 (classify id request ack mapped now).status

def mapped:Market→String→NativeError→Exchange.Error
 | .spot=>spotMapped
 | .perp=>perpMapped

def apiFailure:Market→String→BinanceApiError→Exchange.Error
 | .spot=>spotApiFailure
 | .perp=>perpApiFailure

theorem apiFailure_evidence (market:Market) (operation:String) (api:BinanceApiError):
 evidence (apiFailure market operation api) = {kind:=(apiFailure market operation api).kind}:=by
 cases market with
 | spot=>
  simp only[apiFailure,spotApiFailure]
  split_ifs<;>rfl
 | perp=>
  simp only[apiFailure,perpApiFailure]
  split_ifs<;>rfl

theorem placeVerdict_known (market:Market) (nativeSymbol clientOrderId:String) {err:NativeError}
 (id:String) (request:PlaceOrderRequest) (now:Int)
 (hdef:isDefinitiveOrderRejection market err=false)
 (hkno:(err.as? (apiError? market)).isSome∨(err.as? Fault.exchangeError?).isSome)
 (hspot:market=.spot→ isError .binanceSpotOutcomeUnknown err=false∧binanceSpotIsTransport err=false):
 placeVerdict market nativeSymbol clientOrderId err id request now =
  (mappedVerdict id request now {} (mapped market "PlaceOrder" err) err .binance market.product
   "PlaceOrder").status:=by
 cases market with
 | spot=>
  obtain ⟨hunk,htra⟩:=hspot rfl
  simp only[placeVerdict,placeFailure,binanceSpotCommandAck,hdef,hunk,htra,Bool.or_self,
   Bool.false_eq_true,if_false,binanceSpotNormalizeErr,mappedVerdict,commandVerdict,mapped,
   Market.product]
 | perp=>
  have hres:binancePerpIsKnownResponseError err=true:=by
   rcases hkno with h | h
   · have hapi:(err.as? Fault.binancePerp?).isSome=true:=h
     simp[binancePerpIsKnownResponseError,hapi]
   · simp[binancePerpIsKnownResponseError,h]
  simp only[placeVerdict,placeFailure,binancePerpCommandErrorAck,hdef,hres,Bool.false_eq_true,if_false,
   if_true,binancePerpNormalizeError,mappedVerdict,commandVerdict,mapped,Market.product]

theorem mapped_api (market:Market) (operation:String) (api:BinanceApiError) (http:HttpError):
 mapped market operation (.leaf (apiFault market api))=apiFailure market operation api∧
  mapped market operation (.wrap (.http http) (.leaf (apiFault market api))) =
   apiFailure market operation api:=by
 cases market <;>
  simp[mapped,spotMapped,perpMapped,isError,ErrorTree.is_wrap,ErrorTree.as?_wrap,apiFault,apiFailure,
   Fault.answers,authOrRateLimit,Fault.exchangeError?,Fault.binanceSpot?,Fault.binancePerp?]

theorem mapped_limited (market:Market) (operation:String) (http:HttpError) (code:Int) (message:String):
  mapped market operation (.wrap (.http http) (exchangeFailure code message .rateLimited)) =
   failure market operation .rateLimit (GoText.itoa code) "rate limited" := by
 cases market <;>
  simp[mapped,spotMapped,perpMapped,isError,ErrorTree.is_wrap,ErrorTree.as?_wrap,exchangeFailure,
   Fault.answers,authOrRateLimit,Fault.exchangeError?]

def HeldOpen (market:Market) (reply:Reply):Prop:=
 match reply with
 | .rest response _ code message=>
  transientStatus response.statusCode=true∨isRateLimited response.statusCode code message=true∨
   response.statusCode=404∨code = -2013∨code = -1121
 | .socket status code message=>
  500≤ status∨status=404∨code = -2013∨code = -1121∨
   (market=.spot∧GoText.contains message "transport failed" = true)

theorem rejects_apiFailure (market:Market) (operation:String) (api:BinanceApiError) (status:Int)
 (hauth:isAuthenticationError api.httpStatus api.code=false):
 rejects .unset ⟨(apiFailure market operation api).kind,status,false⟩=false ↔
  500≤api.httpStatus∨api.httpStatus=404∨api.code = -2013∨api.code = -1121:=by
 simp only[isAuthenticationError,Bool.or_eq_false_iff,beq_eq_false_iff_ne] at hauth
 obtain ⟨⟨h401,h403⟩,-⟩:=hauth
 by_cases hser:500≤api.httpStatus
 · cases market<;>simp[apiFailure,spotApiFailure,perpApiFailure,hser,failure,rejects]
 by_cases hfd:api.httpStatus=404∨api.code = -2013∨api.code = -1121
 · have hspot:api.code = -1121∨api.code = -2013∨api.httpStatus=404:=by tauto
   cases market
   · simp[apiFailure,spotApiFailure,hser,hspot,hfd,failure,rejects]
   · simp[apiFailure,perpApiFailure,hser,h401,h403,hfd,failure,rejects]
 · have hspot:¬(api.code = -1121∨api.code = -2013∨api.httpStatus=404):=by tauto
   cases market
   · simp[apiFailure,spotApiFailure,hser,hspot,hfd,failure,rejects]
   · simp[apiFailure,perpApiFailure,hser,h401,h403,hfd,failure,rejects]

theorem rest_spot_conditions (market:Market) (response:Response) (failed:400≤response.statusCode)
 (code:Int) (message:String):
 isError .binanceSpotOutcomeUnknown ((Reply.rest response failed code message).error market)=false∧
  binanceSpotIsTransport ((Reply.rest response failed code message).error market)=false:=by
 constructor
 · rw[rest_error]
   unfold decodedFailure exchangeFailure
   split_ifs
   · simp[isError,ErrorTree.is_wrap,Fault.answers]
   · simp[isError,ErrorTree.is_wrap,Fault.answers]
   · cases market<;>simp[isError,ErrorTree.is_wrap,apiFault,Fault.answers]
 · rw[rest_error]
   exact responseText_not_transport response

theorem rest_status (market:Market) (response:Response) (failed:400≤response.statusCode) (code:Int)
 (message:String):
 recordedStatus ((Reply.rest response failed code message).error market) 0=response.statusCode:=by
 simp[rest_error,recordedStatus,ErrorTree.as?_wrap,Fault.http?,Response.error]

theorem rest_limited_unknown (market:Market) (nativeSymbol clientOrderId:String) (response:Response)
 (failed:400≤response.statusCode) (code:Int) (message:String) (id:String)
 (request:PlaceOrderRequest) (now:Int)
 (hdef:isDefinitiveOrderRejection market ((Reply.rest response failed code message).error market)=false)
 (hlimit:isRateLimited response.statusCode code message=true):
 placeVerdict market nativeSymbol clientOrderId ((Reply.rest response failed code message).error market)
  id request now=.unknown:=by
 set err:=(Reply.rest response failed code message).error market with herr
 have hsha:err=.wrap (.http response.error) (exchangeFailure code message .rateLimited):=by
  rw[herr,rest_error,decodedFailure,if_pos hlimit]
 have hkno:(err.as? Fault.exchangeError?).isSome=true:=by
  simp[hsha,ErrorTree.as?_wrap,exchangeFailure,Fault.exchangeError?]
 have hloc:err.as? Fault.localRateLimit?=none:=error_localRateLimit market _
 rw[placeVerdict_known market nativeSymbol clientOrderId id request now hdef (.inr hkno)
  (fun _=>rest_spot_conditions market response failed code message)]
 cases ht : transientResponse err with
 | true=>
  exact commandVerdict_transient id request now {} _ ht .binance market.product "PlaceOrder"
   (fun refusal h=>by rw[hloc] at h; cases h)
 | false=>
  have hansw:isError .rateLimited err=true:=by
   simp[hsha,isError,ErrorTree.is_wrap,exchangeFailure,Fault.answers]
  have hbase:mapped market "PlaceOrder" err =
    failure market "PlaceOrder" .rateLimit (GoText.itoa code) "rate limited" := by
   rw[hsha,mapped_limited]
  have hst:recordedStatus err 0=response.statusCode:=rest_status market response failed code message
  rw[hbase,mappedVerdict_quiet id request now {} rfl hloc ht,verdict_unknown_iff,
   quietKind_limited hansw (by simp[failure]),←Bool.not_eq_true,rejects_rateLimit,hst]
  grind

theorem rest_unknown_iff (market:Market) (nativeSymbol clientOrderId:String) (response:Response)
 (failed:400≤response.statusCode) (code:Int) (message:String) (id:String)
 (request:PlaceOrderRequest) (now:Int)
 (hdef:isDefinitiveOrderRejection market ((Reply.rest response failed code message).error market)=false)
 (hauth:isAuthenticationError response.statusCode code=false):
 placeVerdict market nativeSymbol clientOrderId ((Reply.rest response failed code message).error market)
  id request now=.unknown ↔ HeldOpen market (.rest response failed code message):=by
 cases hlimit : isRateLimited response.statusCode code message with
 | true=>
  simp only[HeldOpen,hlimit,true_or,or_true,iff_true]
  exact rest_limited_unknown market nativeSymbol clientOrderId response failed code message id request now hdef
   hlimit
 | false=>
  set err:=(Reply.rest response failed code message).error market with herr
  set api : BinanceApiError:={code,message,httpStatus:=response.statusCode} with hapi
  have hsha:err=.wrap (.http response.error) (.leaf (apiFault market api)):=by
   rw[herr,rest_error,decodedFailure,if_neg (by simp[hlimit]),if_neg (by simp[hauth])]
  have hkno:(err.as? (apiError? market)).isSome=true:=by
   rw[hsha]
   cases market<;>simp[ErrorTree.as?_wrap,apiError?,apiFault,Fault.binanceSpot?,Fault.binancePerp?]
  have hloc:err.as? Fault.localRateLimit?=none:=error_localRateLimit market _
  have htra:transientResponse err=transientStatus response.statusCode:=
   rest_transient market response failed code message
  rw[placeVerdict_known market nativeSymbol clientOrderId id request now hdef (.inl hkno)
   (fun _=>rest_spot_conditions market response failed code message)]
  cases ht : transientStatus response.statusCode with
  | true=>
   rw[ht] at htra
   simp only[HeldOpen,ht,true_or,iff_true]
   exact commandVerdict_transient id request now {} _ htra .binance market.product "PlaceOrder"
    (fun refusal h=>by rw[hloc] at h; cases h)
  | false=>
   rw[ht] at htra
   simp only[isRateLimited,Bool.or_eq_false_iff,beq_eq_false_iff_ne] at hlimit
   have hansw:isError .rateLimited err=false:=by
    rw[hsha]
    cases market<;>simp[isError,ErrorTree.is_wrap,apiFault,Fault.answers,Response.error,hlimit]
   have hser:¬ 500≤response.statusCode:=by
    grind [transientStatus]
   have hbase:mapped market "PlaceOrder" err=apiFailure market "PlaceOrder" api:=by
    rw[hsha,(mapped_api market "PlaceOrder" api response.error).2]
   rw[hbase,mappedVerdict_quiet id request now {} (apiFailure_evidence market "PlaceOrder" api) hloc htra,
    verdict_unknown_iff,quietKind_self hansw (error_decodes market _),
    rejects_apiFailure market "PlaceOrder" api _ hauth]
   simp[HeldOpen,ht,hser,isRateLimited,hlimit,hapi]

theorem socket_quiet (market:Market) (status code:Int) (message:String):
 isError .rateLimited ((Reply.socket status code message).error market)=false∧
  recordedStatus ((Reply.socket status code message).error market) 0=0:=by
 cases market<;>simp[Reply.error,isError,apiFault,Fault.answers,recordedStatus,Fault.http?]

theorem socket_transport_unknown (nativeSymbol clientOrderId:String) (status code:Int) (message:String)
 (id:String) (request:PlaceOrderRequest) (now:Int)
 (hdef:isDefinitiveOrderRejection .spot ((Reply.socket status code message).error .spot)=false)
 (htext:GoText.contains message "transport failed" = true):
 placeVerdict .spot nativeSymbol clientOrderId ((Reply.socket status code message).error .spot)
  id request now=.unknown:=by
 set err:=(Reply.socket status code message).error .spot with herr
 have htra:binanceSpotIsTransport err=true:=htext
 have hloc:err.as? Fault.localRateLimit?=none:=error_localRateLimit .spot _
 have hqt:transientResponse err=false:=socket_transient .spot status code message
 obtain ⟨hansw,-⟩:=socket_quiet .spot status code message
 set ack : OrderAcknowledgement:=
  { venue:=.binance,product:=.spot,operation:=.place,state:=.ambiguous,nativeSymbol
    clientOrderId,venueMessage:="transport outcome unknown" } with hack
 set unknownErr:=failure .spot "PlaceOrder" .ambiguousOutcome "" "transport outcome unknown" with hunEr
 have hver:placeVerdict .spot nativeSymbol clientOrderId err id request now =
   (commandVerdict id request now (validated ack unknownErr).1 (validated ack unknownErr).2 err .binance .spot
    "PlaceOrder").status:=by
  simp only[placeVerdict,placeFailure,binanceSpotCommandAck,hdef,htra,Bool.or_true,Bool.false_eq_true,if_false,
   if_true,commandVerdict,hack,hunEr]
 have hset:∀ e:Exchange.Error,evidence e = {kind:=e.kind} →
   commandEvidence e err "PlaceOrder" = ⟨e.kind,recordedStatus err 0,false⟩:=by
  intro e he
  rw[commandEvidence,hqt,if_neg (by simp),Evidence.settled_of_quiet hloc hqt "PlaceOrder"
   (by simp[he]),quietKind_self hansw (error_decodes .spot _),he]
 rw[hver]
 unfold validated
 cases hv : ack.validate with
 | none=>
  rw[commandVerdict_status id request now ack (ErrorTree.as?_leaf Fault.exchange? (.exchange unknownErr)),
   hset unknownErr rfl,verdict_unknown_iff]
  simp[commandState,hqt,rejects,hack,hunEr,failure]
 | some=>
  obtain ⟨text,rfl⟩:=OrderAcknowledgement.validate_kind hv
  rw[commandVerdict_status id request now {} (ErrorTree.as?_leaf Fault.exchange? (.exchange (ackMalformed text))),
   hset (ackMalformed text) rfl,verdict_unknown_iff]
  simp[commandState,hqt,rejects,ackMalformed]

theorem socket_unknown_iff (market:Market) (nativeSymbol clientOrderId:String) (status code:Int)
 (message:String) (id:String) (request:PlaceOrderRequest) (now:Int)
 (hdef:isDefinitiveOrderRejection market ((Reply.socket status code message).error market)=false)
 (hauth:isAuthenticationError status code=false):
 placeVerdict market nativeSymbol clientOrderId ((Reply.socket status code message).error market)
  id request now=.unknown ↔ HeldOpen market (.socket status code message):=by
 by_cases htra:market=.spot∧GoText.contains message "transport failed" = true
 · obtain ⟨rfl,htext⟩:=htra
   simp only[HeldOpen,htext,and_self,or_true,iff_true]
   exact socket_transport_unknown nativeSymbol clientOrderId status code message id request now hdef htext
 · set err:=(Reply.socket status code message).error market with herr
   set api : BinanceApiError:={code,message,httpStatus:=status} with hapi
   have hsha:err=.leaf (apiFault market api):=rfl
   have hkno:(err.as? (apiError? market)).isSome=true:=by
    rw[hsha]
    cases market<;>simp[apiError?,apiFault,Fault.binanceSpot?,Fault.binancePerp?]
   have hspot:market=.spot →
     isError .binanceSpotOutcomeUnknown err=false∧binanceSpotIsTransport err=false:=by
    rintro rfl
    refine ⟨by simp[hsha,isError,apiFault,Fault.answers],?_⟩
    rw[←Bool.not_eq_true]
    intro htext
    exact htra ⟨rfl,htext⟩
   obtain ⟨hansw,-⟩:=socket_quiet market status code message
   have hloc:err.as? Fault.localRateLimit?=none:=error_localRateLimit market _
   have hbase:mapped market "PlaceOrder" err=apiFailure market "PlaceOrder" api:=
    (mapped_api market "PlaceOrder" api {statusCode:=0}).1
   rw[placeVerdict_known market nativeSymbol clientOrderId id request now hdef (.inl hkno) hspot,hbase,
    mappedVerdict_quiet id request now {} (apiFailure_evidence market "PlaceOrder" api) hloc
     (socket_transient market status code message),
    verdict_unknown_iff,quietKind_self hansw (error_decodes market _),
    rejects_apiFailure market "PlaceOrder" api _ hauth]
   simp[HeldOpen,htra,hapi]

/-- Which errors of a Binance placement leave its outcome unknown. -/
theorem placeVerdict_unknown_iff (market:Market) (nativeSymbol clientOrderId:String) (reply:Reply)
 (id:String) (request:PlaceOrderRequest) (now:Int)
 (hdef:isDefinitiveOrderRejection market (reply.error market)=false)
 (hauth:isAuthenticationError reply.status reply.code=false):
 placeVerdict market nativeSymbol clientOrderId (reply.error market) id request now=.unknown ↔
  HeldOpen market reply:=by
 cases reply with
 | rest response failed code message=>
  exact rest_unknown_iff market nativeSymbol clientOrderId response failed code message id request now hdef hauth
 | socket status code message=>
  exact socket_unknown_iff market nativeSymbol clientOrderId status code message id request now hdef hauth

def orderResponse (status:Int):Response where
 statusCode:=status
 method:="POST"
 path:="/api/v3/order"
 method_word:=by decide
 path_word:=by decide

theorem placeVerdict_unknown_missing_symbol :
 placeVerdict .spot "BTCUSDT" "7" ((Reply.rest (orderResponse 404) (by decide) (-1000) "unknown").error .spot)
   "binance:spot:BTC-USDT" {} 0=.unknown ↔
  HeldOpen .spot (.rest (orderResponse 404) (by decide) (-1000) "unknown"):=
 placeVerdict_unknown_iff .spot "BTCUSDT" "7" (.rest (orderResponse 404) (by decide) (-1000) "unknown")
  "binance:spot:BTC-USDT" {} 0 (by decide) (by decide)

theorem execution_unknown_rejected :
 isDefinitiveOrderRejection .spot
   ((Reply.rest (orderResponse 400) (by decide) (-1007) "Timeout waiting for backend").error .spot)=false∧
  isDefinitiveOrderRejection .perp
   ((Reply.rest (orderResponse 400) (by decide) (-1007) "Timeout waiting for backend").error .perp)=false∧
  isAuthenticationError 400 (-1007)=false∧
  placeVerdict .spot "BTCUSDT" "7"
   ((Reply.rest (orderResponse 400) (by decide) (-1007) "Timeout waiting for backend").error .spot)
   "binance:spot:BTC-USDT" {} 0=.rejected∧
  placeVerdict .perp "BTCUSDT" "7"
   ((Reply.rest (orderResponse 400) (by decide) (-1007) "Timeout waiting for backend").error .perp)
   "binance:perp:BTC-USDT" {} 0=.rejected:=by
 decide

end BolterTrader.Adapters.Binance
