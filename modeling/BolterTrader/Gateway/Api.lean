import BolterTrader.ExactLookup.Shared
import BolterTrader.Gateway.Classify

/-! The gateway's HTTP answers to a placement and to an exact lookup
(`gateway/api/api.go`, `gateway/account/orders.go`, `gateway/account/model.go`). -/
namespace BolterTrader.Gateway
open Foundations Exchange Adapters

/-! ## Order rows -/

def normalizeWord (value:String):String:=
 String.ofList (value.toList.map fun c=>
  if 'A' ≤ c∧c ≤ 'Z' then c.toLower else if c = '-'∨c = ' ' then '_' else c)

def normalizeStatus (raw:String):String:=
 let status:=normalizeWord raw
 if status∈["new","live","open","resting","untriggered","created"] then "open"
 else if status∈["partially_filled","partiallyfilled","partial","partially_filled_canceled"] then
  if status="partially_filled_canceled" then "canceled" else "partially_filled"
 else if status∈["filled","closed","finished"] then "filled"
 else if status∈["rejected","failed"] then "rejected"
 else if status∈["accepted","accepted_pending","pending","in_progress","pending_new"] then "pending"
 else if GoText.contains status "cancel" || status == "expired" then "canceled"
 else if GoText.contains status "reject" then "rejected"
 else if status="" then "open"
 else status

def projectOrder (id:String) (order:Order):OrderRow:=
 { instrument:=id
   orderId:=order.orderId
   clientOrderId:=order.clientOrderId
   side:=order.side.text
   type:=order.type.text
   price:=positiveText order.limitPrice
   quantity:=order.quantity.toText
   filled:=order.filled.toText
   avgPrice:=(order.averageFillPrice.map positiveText).getD ""
   timeInForce:=tifFromPolicy order.limitPolicy
   reduceOnly:=order.reduceOnly
   status:=normalizeStatus order.status
   createdAt:=order.createdAt.unixMilli
   updatedAt:=order.updatedAt.unixMilli}

/-! ## Exact lookup -/

inductive LookupStatus where
 | found | notFound | unconfirmed

structure LookupResult where
 status:LookupStatus
 order:Option OrderRow:=none

inductive RequestError where
 | accountNotFound
 | unknownInstrument (text:String)
 | invalidRequest (text:String)
 | unsupported (text:String)
 | venue (err:NativeError)

def safeMessage (err:NativeError):String:=
 match err.as? Fault.exchange? with
 | some normalized=>
  if normalized.details.safeMessage≠"" then normalized.details.safeMessage else normalized.kind.text
 | none => "request failed"

def lookup (id:String):ExactLookup.Answer→Except RequestError LookupResult
 | .error err=>
  if isError (.kind .invalidRequest) err then
   .error (.invalidRequest ("invalid request: " ++ safeMessage err))
  else .error (.venue err)
 | .ok result=>
  match result.status with
  | .found=>.ok {status:=.found,order:=some (projectOrder id result.order)}
  | .notFound=>.ok {status:=.notFound}
  | .unconfirmed | .unset=>.ok {status:=.unconfirmed}

theorem lookup_notFound {id:String} {ans:ExactLookup.Answer} {res:LookupResult}
 (h:lookup id ans=.ok res) (hst:res.status=.notFound):
 ∃ exact,ans=.ok exact∧exact.status=.notFound:=by
 cases ans with
 | error=>
  grind [lookup]
 | ok exact=>
  grind [lookup]

/-! ## Responses -/

structure ErrorBody where
 code:String
 message:String
 venueCode:Option String:=none
 venueMessage:Option String:=none
 category:Option Category:=none
 retryable:Bool:=false

inductive Body (α:Type) where
 | value (payload:α)
 | error (err:ErrorBody)
 | unreadable

structure Response (α:Type) where
 status:ℕ
 body:Body α

def writeError {α:Type} (status:ℕ) (code message:String):Response α:={status,body:=.error {code,message}}

def Category.text:Category→String
 | .unset => ""
 | .network => "network"
 | .rejected => "rejected"
 | .credentials => "credentials"
 | .rateLimited => "rate_limited"
 | .invalid => "invalid"
 | .unsupported => "unsupported"
 | .venueError => "venue_error"

def Category.httpStatus:Category→ℕ
 | .unset=>0
 | .network=>502
 | .rejected=>422
 | .credentials=>422
 | .rateLimited=>429
 | .invalid=>400
 | .unsupported=>501
 | .venueError=>502

def fail {α:Type}:RequestError→Response α
 | .accountNotFound=>writeError 404 "NOT_FOUND" "account not found"
 | .unknownInstrument text=>writeError 404 "UNKNOWN_INSTRUMENT" text
 | .invalidRequest text=>writeError 400 "INVALID_REQUEST" text
 | .unsupported _=>writeError 501 "UNSUPPORTED" "operation is not supported for this venue"
 | .venue err=>
  let failure:=classifyFailure err
  { status:=failure.category.httpStatus
    body:=.error
     { code:=GoText.toUpper failure.category.text
       message:=failure.message
       venueCode:=some failure.code
       venueMessage:=some failure.venueMessage
       category:=some failure.category
       retryable:=failure.retryable}}

def placeOrder:Except RequestError PlaceResult→Response PlaceResult
 | .error err=>fail err
 | .ok result=>
  { status:=match result.status with
     | .accepted=>200
     | .rejected=>422
     | .unknown=>202
    body:=.value result}

def respond {α:Type}:Except RequestError α→Response α
 | .error err=>fail err
 | .ok value=>{status:=200,body:=.value value}

theorem fail_body_ne_value {α:Type} (err:RequestError) (payload:α):
 (fail err:Response α).body≠.value payload:=by
 cases err<;>simp[fail,writeError]

end BolterTrader.Gateway
