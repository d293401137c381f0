import BolterTrader.Adapters.HttpErrors

/-! Lighter errors (`lighter_rest.go`). -/
namespace BolterTrader.Adapters.Lighter
open Foundations Exchange

structure SendTracker where
 began:Bool:=false
 status:Int:=0

def failure (product:Product) (operation:String) (kind:ErrorKind) (code safeMessage:String):
 NativeError:=
 newError kind {venue:=.lighter,product,operation,code,safeMessage}

def lighterMalformed (product:Product) (operation message:String):NativeError:=
 failure product operation .malformedResponse "" message

def lighterContextErr (product:Product) (operation:String) (err:NativeError):NativeError:=
 if isError .contextDeadlineExceeded err then
  failure product operation .deadlineExceeded "" "context deadline exceeded"
 else failure product operation .canceled "" "context canceled"

/-! ## Queries -/

def lighterNormalizeStatus (product:Product) (operation:String) (status:Int):NativeError:=
 let fail (kind:ErrorKind):=failure product operation kind (GoText.itoa status)
 if status=401∨status=403 then fail .authentication "Lighter authentication failed"
 else if status=404 then fail .notFound "Lighter resource not found"
 else if status=429 then fail .rateLimit "Lighter rate limit"
 else if 500≤ status then fail .transport "Lighter transport error"
 else if 400≤ status then fail .invalidRequest "Lighter request was rejected"
 else lighterMalformed product operation "Lighter response code is malformed"

def textErr (product:Product) (operation:String) (err:NativeError):NativeError:=
 let message:=GoText.toLower (errorText err)
 if ["http error 429","rate limit"].any (GoText.contains message) then
  failure product operation .rateLimit "" "Lighter rate limit"
 else if ["http error 401","http error 403","credentials required","authentication",
   "authorization"].any (GoText.contains message) then
  failure product operation .authentication "" "Lighter authentication failed"
 else if ["http error 404","not found"].any (GoText.contains message) then
  failure product operation .notFound "" "Lighter resource not found"
 else failure product operation .transport "" "Lighter transport error"

def mappedErr (product:Product) (operation:String) (err:NativeError):NativeError:=
 if isError .contextCanceled err || isError .contextDeadlineExceeded err then
  lighterContextErr product operation err
 else if isError .lighterMalformedResponse err then
  lighterMalformed product operation "Lighter response body is malformed"
 else match err.as? Fault.lighterStatus?,err.as? Fault.lighter? with
  | some status,_=>lighterNormalizeStatus product operation status
  | none,some api=>lighterNormalizeStatus product operation api.code
  | none,none=>
   if err.is Fault.isJson then lighterMalformed product operation "Lighter response body is malformed"
   else match rateLimitCode? err with
    | some code=>failure product operation .rateLimit code "Lighter rate limit"
    | none=>textErr product operation err

def lighterNormalizeErr (product:Product) (operation:String) (err:NativeError):Option NativeError:=
 normalizeHttpError (some (mappedErr product operation err)) err .lighter product operation

/-! ## Order commands -/

def lighterCommandOperation:OrderOperation→String
 | .place => "PlaceOrder"
 | .cancel => "CancelOrder"
 | operation=>operation.text

structure CommandResult where
 ack:OrderAcknowledgement:={}
 err:Option NativeError
 nonceInvalidated:Bool:=false

def refusal (product:Product) (operation:String) (ack:OrderAcknowledgement) (code:String):
 CommandResult:=
 let ack:={ack with state:=.rejected,venueCode:=code,venueMessage:="Lighter rejected order command" }
 match ack.validate with
 | some invalid=>{err:=some (.leaf (.exchange invalid))}
 | none=>{ack,err:=some (failure product operation .venueRejected code "Lighter rejected order command")}

def statusResult (product:Product) (operation:String) (ack:OrderAcknowledgement) (err:NativeError)
 (hasClient:Bool) (tracker:SendTracker):Option CommandResult:=
 let code:=GoText.itoa tracker.status
 let refused (kind:ErrorKind) (message:String):CommandResult:=
  { err:=some (failure product operation kind code message)
    nonceInvalidated:=tracker.began && hasClient}
 if tracker.status=429 then some (refused .rateLimit "Lighter rate limit")
 else if tracker.status=401∨tracker.status=403 then
  some (refused .authentication "Lighter authentication failed")
 else if tracker.status=404 then some (refused .notFound "Lighter resource not found")
 else if 500≤tracker.status then
  if tracker.began then
   some {ack,err:=some (failure product operation .ambiguousOutcome code outcomeUnknown)}
  else some {err:=lighterNormalizeErr product operation err}
 else if 400≤tracker.status then
  if tracker.began then some {refusal product operation ack code with nonceInvalidated:=hasClient}
  else some {err:=lighterNormalizeErr product operation err}
 else none

def apiResult (product:Product) (operation:String) (ack:OrderAcknowledgement) (hasClient:Bool)
 (api:CodedApiError):CommandResult:=
 let code:=GoText.itoa api.code
 if api.code≤0 then {err:=some (lighterMalformed product operation "Lighter API error code is invalid")}
 else if api.code=429 then {err:=some (failure product operation .rateLimit code "Lighter rate limit")}
 else if api.code=401∨api.code=403 then
  {err:=some (failure product operation .authentication code "Lighter authentication failed")}
 else if 500≤api.code then
  {ack,err:=some (failure product operation .ambiguousOutcome code outcomeUnknown)}
 else
  { ack:={ack with
     state:=.rejected,venueCode:=code,venueMessage:="Lighter rejected order command" }
    err:=some (failure product operation .venueRejected code "Lighter rejected order command")
    nonceInvalidated:=hasClient}

def commandFailure (product:Product) (op:OrderOperation) (instrument:Instrument)
 (orderId clientOrderId:String) (err:NativeError) (hasClient:Bool) (tracker:Option SendTracker):
 CommandResult:=
 let operation:=lighterCommandOperation op
 let tracker:=tracker.getD {}
 let ack : OrderAcknowledgement:=
  { venue:=.lighter,product,operation:=op,state:=.ambiguous
    nativeSymbol:=instrument.identity.nativeSymbol
    nativeId:=instrument.identity.nativeId
    orderId,clientOrderId}
 let ambiguous : CommandResult:=
  {ack,err:=some (failure product operation .ambiguousOutcome "" outcomeUnknown)}
 if isError .contextCanceled err || isError .contextDeadlineExceeded err then
  if tracker.began then ambiguous else {err:=some (lighterContextErr product operation err)}
 else match statusResult product operation ack err hasClient tracker,rateLimitCode? err,
   err.as? Fault.lighter? with
  | some answered,_,_=>answered
  | none,some code,_=>{err:=some (failure product operation .rateLimit code "Lighter rate limit")}
  | none,none,some api=>apiResult product operation ack hasClient api
  | none,none,none=>if tracker.began then ambiguous else {err:=lighterNormalizeErr product operation err}

def lighterCommandErr (product:Product) (op:OrderOperation) (instrument:Instrument)
 (orderId clientOrderId:String) (err:NativeError) (hasClient:Bool) (tracker:Option SendTracker):
 CommandResult:=
 let result:=commandFailure product op instrument orderId clientOrderId err hasClient tracker
 let (ack,mapped):=
  normalizeHttpCommand result.ack result.err err .lighter product (lighterCommandOperation op)
 {result with ack,err:=mapped}

def lighterCommandAck (product:Product) (operation:String) (op:OrderOperation) (instrument:Instrument)
 (orderId clientOrderId:String) (code:Int) (txHash:String) (hasClient:Bool):CommandResult:=
 let txHash:=GoText.trimSpace txHash
 let ack : OrderAcknowledgement:=
  { venue:=.lighter,product,operation:=op
    nativeSymbol:=instrument.identity.nativeSymbol
    nativeId:=instrument.identity.nativeId
    orderId,clientOrderId
    venueCode:=GoText.itoa code
    transactionHash:=txHash}
 if code=200∧txHash≠"" then
  let ack:={ack with state:=.acceptedPending}
  {ack,err:=ack.validate.map fun invalid=>.leaf (.exchange invalid)}
 else if 500≤code then
  let ack:={ack with state:=.ambiguous}
  match ack.validate with
  | some invalid=>{err:=some (.leaf (.exchange invalid))}
  | none=>{ack,err:=some (failure product operation .ambiguousOutcome ack.venueCode outcomeUnknown)}
 else if code≤0 then
  {err:=some (lighterMalformed product operation "Lighter command response code is invalid")}
 else if code=200 then
  {err:=some (lighterMalformed product operation "accepted Lighter command response missing transaction hash")}
 else {refusal product operation ack ack.venueCode with nonceInvalidated:=hasClient}

/-! ## When the cached nonce is dropped -/

theorem lighterCommandErr_nonceInvalidated (product:Product) (op:OrderOperation) (instrument:Instrument)
 (orderId clientOrderId:String) (err:NativeError) (hasCl:Bool) (tracker:Option SendTracker):
 (lighterCommandErr product op instrument orderId clientOrderId err hasCl tracker).nonceInvalidated =
  (commandFailure product op instrument orderId clientOrderId err hasCl tracker).nonceInvalidated:=rfl

theorem statusResult_of_refused (product:Product) (operation:String) (ack:OrderAcknowledgement)
 (err:NativeError) {tracker:SendTracker} (hbeg:tracker.began=true) (hlow:400≤tracker.status)
 (hhigh:tracker.status<500):
 ∃ result,statusResult product operation ack err true tracker=some result∧result.nonceInvalidated=true:=by
 unfold statusResult
 dsimp only
 rw[hbeg]
 by_cases h429:tracker.status=429
 · exact ⟨_,if_pos h429,rfl⟩
 · rw[if_neg h429]
   by_cases hauth:tracker.status=401∨tracker.status=403
   · exact ⟨_,if_pos hauth,rfl⟩
   · rw[if_neg hauth]
     by_cases h404:tracker.status=404
     · exact ⟨_,if_pos h404,rfl⟩
     · rw[if_neg h404,if_neg (by omega),if_pos hlow]
       exact ⟨_,rfl,rfl⟩

theorem lighterCommandErr_invalidates (product:Product) (op:OrderOperation) (instrument:Instrument)
 (orderId clientOrderId:String) {err:NativeError} {tracker:SendTracker} (hbeg:tracker.began=true)
 (hlow:400≤tracker.status) (hhigh:tracker.status<500)
 (hcon:(isError .contextCanceled err || isError .contextDeadlineExceeded err)=false):
 (lighterCommandErr product op instrument orderId clientOrderId err true (some tracker)).nonceInvalidated=true:=by
 rw[lighterCommandErr_nonceInvalidated,commandFailure]
 simp only[Option.getD_some,hcon,Bool.false_eq_true,if_false]
 obtain ⟨result,hres,hinv⟩:=statusResult_of_refused product (lighterCommandOperation op)
  { venue:=.lighter,product,operation:=op,state:=.ambiguous
    nativeSymbol:=instrument.identity.nativeSymbol
    nativeId:=instrument.identity.nativeId
    orderId,clientOrderId} err hbeg hlow hhigh
 rw[hres]
 exact hinv

theorem lighterCommandAck_invalidates (product:Product) (operation:String) (op:OrderOperation)
 (instrument:Instrument) (orderId clientOrderId:String) {code:Int} (txHash:String) (hpos:0<code)
 (hhigh:code<500) (href:code≠200):
 (lighterCommandAck product operation op instrument orderId clientOrderId code txHash true).nonceInvalidated=true:=by
 unfold lighterCommandAck
 grind

theorem lighterCommandAck_accepted (product:Product) (operation:String) (op:OrderOperation)
 (instrument:Instrument) (orderId clientOrderId:String) {txHash:String} (hhash:GoText.trimSpace txHash≠""):
 (lighterCommandAck product operation op instrument orderId clientOrderId 200 txHash true).nonceInvalidated=false:=by
 unfold lighterCommandAck
 grind

end BolterTrader.Adapters.Lighter
