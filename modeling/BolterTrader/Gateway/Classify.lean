import BolterTrader.Adapters.HttpErrors

/-! The gateway's verdict on a placement (`gateway/account/orders.go`). -/
namespace BolterTrader.Gateway
open Foundations Exchange Adapters List

def classifyFailure (err:NativeError):VenueFailure:=
 match err.as? Fault.venueFailure? with
 | some existing=>existing
 | none=>
  match err.as? Fault.exchange? with
  | some normalized=>
   let details:=normalized.details
   let failure : VenueFailure:=
    {venue:=venueName details.venue,code:=details.code,venueMessage:=details.venueMessage}
   let failure:=match normalized.kind with
    | .transport | .deadlineExceeded | .canceled | .subscriptionClosed | .subscriptionGap=>
     {failure with category:=.network,retryable:=true}
    | .venueRejected | .notFound=>{failure with category:=.rejected}
    | .authentication | .permission=>{failure with category:=.credentials}
    | .rateLimit=>{failure with category:=.rateLimited,retryable:=true}
    | .invalidRequest | .invalidConfig=>{failure with category:=.invalid}
    | .unsupported=>{failure with category:=.unsupported}
    | .malformedResponse | .metadataResolution | .ambiguousOutcome=>
     {failure with category:=.venueError,retryable:=true}
   if 500≤details.httpStatus∨details.httpStatus=408 then
    {failure with category:=.network,retryable:=true}
   else failure
  | none=>
   if isError .contextDeadlineExceeded err || isError .contextCanceled err || err.is Fault.isNetwork then
    {category:=.network,retryable:=true}
   else {category:=.venueError}

inductive PlaceStatus where
 | accepted | rejected | unknown
 deriving DecidableEq

structure OrderRow where
 instrument:String:=""
 orderId:String:=""
 clientOrderId:String:=""
 side:String:=""
 type:String:=""
 price:String:=""
 quantity:String:=""
 filled:String:=""
 avgPrice:String:=""
 timeInForce:String:=""
 reduceOnly:Bool:=false
 status:String:=""
 createdAt:Int:=0
 updatedAt:Int:=0

structure PlaceResult where
 status:PlaceStatus
 order:Option OrderRow:=none
 category:Category:=.unset
 venueCode:String:=""
 venueMessage:String:=""
 message:String:=""

def tifFromPolicy:LimitPolicy→String
 | .ioc => "ioc"
 | .postOnly => "post_only"
 | .resting => "gtc"
 | .unset => ""

def positiveText (value:Decimal):String:=if value.isPositive then value.toText else ""

def placedRow (id:String) (request:PlaceOrderRequest) (ack:OrderAcknowledgement) (now:Int):
 OrderRow:=
 { instrument:=id
   orderId:=ack.orderId
   clientOrderId:=request.clientOrderId
   side:=request.side.text
   type:=request.type.text
   price:=positiveText request.limitPrice
   quantity:=request.quantity.toText
   filled:=ack.filledQuantity.toText
   avgPrice:=(ack.averageFillPrice.map positiveText).getD ""
   timeInForce:=tifFromPolicy request.limitPolicy
   reduceOnly:=request.reduceOnly
   updatedAt:=now}

def provesRejection (ack:OrderAcknowledgement) (err:NativeError):Bool:=
 let normalized:=err.as? Fault.exchange?
 let unanswered:=(normalized.map fun e=>e.details.httpStatus == 0).getD false
 (normalized.map fun e=>e.details.commandNotSent).getD false ||
 (ack.state == .rejected || isError (.kind .venueRejected) err ||
  isError (.kind .authentication) err || isError (.kind .permission) err) ||
 (unanswered && (isError (.kind .invalidRequest) err || isError (.kind .unsupported) err ||
  isError (.kind .invalidConfig) err)) ||
 (isError (.kind .rateLimit) err && unanswered)

def classify (id:String) (request:PlaceOrderRequest) (ack:OrderAcknowledgement)
 (err:Option NativeError) (now:Int):PlaceResult:=
 match err with
 | some err=>
  let failure:=classifyFailure err
  if provesRejection ack err then
   { status:=.rejected
     category:=failure.category
     venueCode:=if ack.venueCode≠"" then ack.venueCode else failure.code
     venueMessage:=
      if failure.venueMessage=""∧ack.state=.rejected then ack.venueMessage
      else failure.venueMessage
     message:=failure.message}
  else
   { status:=.unknown
     category:=failure.category
     message:="Order outcome unknown — checking with the exchange before anything else." }
 | none=>
  let accepted (status:String):PlaceResult:=
   {status:=.accepted,order:=some {placedRow id request ack now with status}}
  match ack.state with
  | .acceptedPending=>accepted "pending"
  | .resting=>accepted "open"
  | .partiallyFilled=>accepted "partially_filled"
  | .immediatelyFilled=>accepted "filled"
  | .canceled=>accepted "canceled"
  | .rejected=>{status:=.rejected,venueCode:=ack.venueCode,venueMessage:=ack.venueMessage}
  | .ambiguous | .unset=>
   { status:=.unknown
     message:="order outcome unknown; look it up by clientOrderId before retrying" }

/-! ## The verdict on a normalized error -/

def rejects (state:OrderAckState) (ev:Evidence):Bool:=
 ev.commandNotSent || state == .rejected ||
 [ErrorKind.venueRejected,.authentication,.permission].contains ev.kind ||
 (ev.httpStatus == 0 && [ErrorKind.invalidRequest,.unsupported,.invalidConfig,.rateLimit].contains ev.kind)

theorem verdict_unknown_iff (b:Bool):
 (if b then PlaceStatus.rejected else .unknown)=.unknown ↔ b=false:=by
 cases b<;>simp

theorem verdict_rejected_iff (b:Bool):
 (if b then PlaceStatus.rejected else .unknown)=.rejected ↔ b=true:=by
 cases b<;>simp

theorem rejects_rateLimit (s0:OrderAckState) (sts:Int) (nse:Bool):
 rejects s0 ⟨.rateLimit,sts,nse⟩=true ↔ nse=true∨s0=.rejected∨sts=0:=by
 simp[rejects,or_assoc]

theorem provesRejection_leaf (ack:OrderAcknowledgement) (err:Exchange.Error):
 provesRejection ack (.leaf (.exchange err))=rejects ack.state (evidence err):=by
 rw[Bool.eq_iff_iff]
 simp only[provesRejection,rejects,evidence,isError,Fault.answers,Fault.exchange?,ErrorTree.as?_leaf,
  ErrorTree.is_leaf,Option.map_some,Option.getD_some,Bool.or_eq_true,Bool.and_eq_true,beq_iff_eq,
  contains_iff_mem,mem_cons,not_mem_nil,or_false]
 tauto

theorem classify_leaf_status (id:String) (req:PlaceOrderRequest) (ack:OrderAcknowledgement)
 (err:Exchange.Error) (now:Int):
 (classify id req ack (some (.leaf (.exchange err))) now).status =
  if rejects ack.state (evidence err) then .rejected else .unknown:=by
 simp only[classify,provesRejection_leaf]
 split<;>rfl

theorem classify_validated (id:String) (req:PlaceOrderRequest) (ack:OrderAcknowledgement) (now:Int):
 (classify id req ack (ack.validate.map fun err=>.leaf (.exchange err)) now).status=.rejected ↔
  ack.state=.rejected:=by
 cases hv : ack.validate with
 | some=>
  obtain ⟨msg,rfl⟩:=OrderAcknowledgement.validate_kind hv
  rw[Option.map_some,classify_leaf_status,verdict_rejected_iff]
  simp[rejects,evidence,ackMalformed]
 | none=>
  grind [classify]

/-! ## The verdict on a normalized command -/

def commandVerdict (id:String) (request:PlaceOrderRequest) (now:Int) (ack:OrderAcknowledgement)
 (mapped:Option NativeError) (original:NativeError) (venue:Venue) (product:Product)
 (operation:String):PlaceResult:=
 let (ack,err):=normalizeHttpCommand ack mapped original venue product operation
 classify id request ack err now

def commandState (ack:OrderAcknowledgement) (original:NativeError):OrderAckState:=
 if transientResponse original then .ambiguous else ack.state

def commandEvidence (normalized:Exchange.Error) (original:NativeError) (operation:String):Evidence:=
 Evidence.settled original operation <|
  if transientResponse original then {kind:=.ambiguousOutcome} else evidence normalized

theorem commandVerdict_status (id:String) (req:PlaceOrderRequest) (now:Int)
 (ack:OrderAcknowledgement) {mpp:NativeError} {nrm:Exchange.Error}
 (hm:mpp.as? Fault.exchange?=some nrm) (original:NativeError) (venue:Venue)
 (prod:Product) (op:String):
 (commandVerdict id req now ack (some mpp) original venue prod op).status =
  if rejects (commandState ack original) (commandEvidence nrm original op) then .rejected
  else .unknown:=by
 cases ht : transientResponse original with
 | true=>
  obtain ⟨ntd,err,hn,hs,he⟩:=normalizeHttpCommand_transient ack (some mpp) ht venue prod op
  simp only[commandVerdict,hn,classify_leaf_status,commandState,commandEvidence,ht,if_true,hs,he]
 | false=>
  obtain ⟨ntd,err,hn,hs,he⟩:=normalizeHttpCommand_evidence ack hm ht venue prod op
  simp only[commandVerdict,hn,classify_leaf_status,commandState,commandEvidence,ht,hs,he,
   Bool.false_eq_true,if_false]

variable {original:NativeError}

theorem not_rejects_of_transient (ht:transientResponse original=true) (op:String)
 (hl:∀ rfs,original.as? Fault.localRateLimit?=some rfs →
  refusedCommand rfs.action op=false):
 rejects .ambiguous (Evidence.settled original op {kind:=.ambiguousOutcome})=false:=by
 cases hr : original.as? Fault.localRateLimit? with
 | none=>
  obtain ⟨hkind,hsent⟩:=Evidence.settled_of_ambiguous hr op {kind:=.ambiguousOutcome} rfl
  simp[rejects,hkind,hsent]
 | some rfs=>
  grind [recordedStatus_ne_zero,Evidence.settled_of_refusal,rejects_rateLimit]

theorem commandVerdict_transient (id:String) (req:PlaceOrderRequest) (now:Int) (ack:OrderAcknowledgement)
 (mpp:Option NativeError) (ht:transientResponse original=true) (venue:Venue) (prod:Product)
 (op:String) (hl:∀ rfs,original.as? Fault.localRateLimit?=some rfs →
  refusedCommand rfs.action op=false):
 (commandVerdict id req now ack mpp original venue prod op).status=.unknown:=by
 obtain ⟨ntd,err,hn,hs,he⟩:=normalizeHttpCommand_transient ack mpp ht venue prod op
 have hopen:=not_rejects_of_transient ht op hl
 simp[commandVerdict,hn,classify_leaf_status,hs,he,hopen]

/-! ## Errors that are normalized twice

The adapters' error mappers already apply the HTTP evidence, and the command
normalizer applies it again. -/

def mappedVerdict (id:String) (request:PlaceOrderRequest) (now:Int) (ack:OrderAcknowledgement)
 (base:Exchange.Error) (original:NativeError) (venue:Venue) (product:Product)
 (operation:String):PlaceResult:=
 commandVerdict id request now ack
  (normalizeHttpError (some (.leaf (.exchange base))) original venue product operation)
  original venue product operation

theorem mappedVerdict_status (id:String) (req:PlaceOrderRequest) (now:Int)
 (ack:OrderAcknowledgement) (base:Exchange.Error) (original:NativeError) (venue:Venue)
 (prod:Product) (op:String):
 (mappedVerdict id req now ack base original venue prod op).status =
  if rejects (commandState ack original)
   (Evidence.settled original op <|
    if transientResponse original then {kind:=.ambiguousOutcome}
    else (evidence base).settled original op) then .rejected
  else .unknown:=by
 obtain ⟨nrm,hn,he⟩:=normalizeHttpError_evidence
  (ErrorTree.as?_leaf Fault.exchange? (.exchange base)) original venue prod op
 rw[mappedVerdict,hn,commandVerdict_status id req now ack
  (ErrorTree.as?_leaf Fault.exchange? (.exchange nrm)),commandEvidence,he]

theorem mappedVerdict_refused (id:String) (req:PlaceOrderRequest) (now:Int) (ack:OrderAcknowledgement)
 {base:Exchange.Error} (hbase:evidence base = {kind:=base.kind}) {rfs:LocalRateLimitError}
 (hl:original.as? Fault.localRateLimit?=some rfs) (ht:transientResponse original=false) (venue:Venue)
 (prod:Product) (op:String):
 (mappedVerdict id req now ack base original venue prod op).status =
  if rejects ack.state ⟨.rateLimit,recordedStatus original 0,refusedCommand rfs.action op⟩ then
   .rejected
  else .unknown:=by
 have hset:((evidence base).settled original op).settled original op =
   ⟨.rateLimit,recordedStatus original 0,refusedCommand rfs.action op⟩:=by
  rw[Evidence.settled_of_refusal hl,Evidence.settled_of_refusal hl,recordedStatus_recordedStatus,hbase]
 simp[mappedVerdict_status,commandState,ht,hset]

theorem mappedVerdict_quiet (id:String) (req:PlaceOrderRequest) (now:Int) (ack:OrderAcknowledgement)
 {base:Exchange.Error} (hbase:evidence base = {kind:=base.kind})
 (hl:original.as? Fault.localRateLimit?=none) (ht:transientResponse original=false) (venue:Venue)
 (prod:Product) (op:String):
 (mappedVerdict id req now ack base original venue prod op).status =
  if rejects ack.state ⟨quietKind original base.kind,recordedStatus original 0,false⟩ then .rejected
  else .unknown:=by
 have hzero:(evidence base).httpStatus<500:=by simp[hbase]
 have hst:recordedStatus original (evidence base).httpStatus<500:=recordedStatus_lt_of_quiet ht hzero
 have hset:((evidence base).settled original op).settled original op =
   ⟨quietKind original base.kind,recordedStatus original 0,false⟩:=by
  rw[Evidence.settled_of_quiet hl ht op hzero,Evidence.settled_of_quiet hl ht op hst,
   quietKind_quietKind,recordedStatus_recordedStatus,hbase]
 simp[mappedVerdict_status,commandState,ht,hset]

end BolterTrader.Gateway
