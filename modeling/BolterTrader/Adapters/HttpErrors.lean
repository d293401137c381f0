import BolterTrader.Adapters.NativeErrors
import BolterTrader.Exchange.Orders

/-! The shared HTTP normalizer (`http_errors.go`, `venue_message.go`). -/
namespace BolterTrader.Adapters
open Foundations Exchange Option

/-! ## Venue text -/

def maxVenueMessage:ℕ:=240

def cleanVenueMessage (message:String):String:=
 let spaced:=String.ofList (message.toList.map fun c=>if GoText.isControl c then ' ' else c)
 let cleaned:=String.intercalate " " (GoText.fields spaced)
 if maxVenueMessage<cleaned.utf8ByteSize then
  GoText.trimSpace (String.ofList (GoText.takeBytes maxVenueMessage cleaned.toList)) ++ "…"
 else cleaned

def venueCandidates (err:NativeError):List String:=
 ((err.as? Fault.binancePerp?).map (·.message)).toList ++
 ((err.as? Fault.binanceSpot?).map (·.message)).toList ++
 ((err.as? Fault.okx?).map (·.message)).toList ++
 ((err.as? Fault.bybit?).map (·.message)).toList ++
 ((err.as? Fault.bitget?).map (·.message)).toList ++
 ((err.as? Fault.gate?).map fun e=>[e.message,e.label]).getD [] ++
 (err.as? Fault.hyperliquidRejected?).toList ++
 ((err.as? Fault.hyperliquidValue?).map (·.message)).toList ++
 ((err.as? Fault.hyperliquidPointer?).map (·.message)).toList ++
 ((err.as? Fault.lighter?).map (·.message)).toList ++
 ((err.as? Fault.nado?).map (·.message)).toList ++
 ((err.as? Fault.aster?).map (·.message)).toList

def venueMessage (err:NativeError):String:=
 (((venueCandidates err).map cleanVenueMessage).find? (· ≠ "")).getD ""

def transientStatus (status:Int):Bool:=decide (500≤ status) || status == 408 || status == 429 || status == 418

def carriesVenueMessage (err:Exchange.Error):Bool:=
 [ErrorKind.venueRejected,.invalidRequest,.permission,.authentication,.notFound].contains err.kind &&
  !transientStatus err.details.httpStatus

def withVenueMessage (mapped:Option NativeError) (ack:Option OrderAcknowledgement)
 (original:NativeError):Option NativeError×Option OrderAcknowledgement:=
 let message:=venueMessage original
 match mapped.bind fun err=>err.as? Fault.exchange? with
 | none=>(mapped,ack)
 | some normalized=>
  if message="" || !carriesVenueMessage normalized then (mapped,ack)
  else
   (some (newError normalized.kind {normalized.details with venueMessage:=message}),
    ack.map fun a=>if a.state=.rejected then {a with venueMessage:=message} else a)

/-! ## The stages of the normalizer -/

def decodingFailed (original:NativeError):Bool:=
 isError .httpMalformedResponse original || original.is Fault.isJson

def unlessAmbiguous (kind replacement:ErrorKind):ErrorKind:=
 if kind=.ambiguousOutcome then kind else replacement

def withDecoding (original:NativeError) (err:Exchange.Error):Exchange.Error:=
 if decodingFailed original then
  { kind:=unlessAmbiguous err.kind .malformedResponse
    details:={err.details with safeMessage:="malformed venue response" }}
 else err

def withHttpStatus (original:NativeError) (err:Exchange.Error):Exchange.Error:=
 match original.as? Fault.http? with
 | none=>err
 | some http=>
  let details:={err.details with
   httpStatus:=http.statusCode
   retryAfter:=max err.details.retryAfter http.retryAfter
   code:=if err.details.code="" then http.code else err.details.code}
  if 500≤http.statusCode∨http.statusCode=408 then
   { kind:=unlessAmbiguous err.kind .transport
     details:={details with safeMessage:="venue server or timeout response" }}
  else if http.statusCode=429∨http.statusCode=418 then
   { kind:=unlessAmbiguous err.kind .rateLimit
     details:={details with safeMessage:="venue rate limit" }}
  else {err with details}

def withRateLimit (original:NativeError) (err:Exchange.Error):Exchange.Error:=
 if isError .rateLimited original && err.kind≠.ambiguousOutcome && err.details.httpStatus<500 then
  {kind:=.rateLimit,details:={err.details with safeMessage:="request rate limited" }}
 else err

def refusedCommand (action operation:String):Bool:=
 let op:=GoText.toLower (GoText.removeRune '_' operation)
 (action == "place" && (op == "place" || op == "placeorder")) ||
 (action == "cancel" && (op == "cancel" || op == "cancelorder"))

def withLocalRefusal (original:NativeError) (operation:String) (err:Exchange.Error):
 Exchange.Error:=
 match original.as? Fault.localRateLimit? with
 | none=>err
 | some refusal=>
  { kind:=.rateLimit
    details:={err.details with
     code:="LOCAL_RATE_LIMIT"
     safeMessage:="HTTP request was not sent: local budget exhausted"
     retryAfter:=refusal.retryAfter
     commandNotSent:=refusedCommand refusal.action operation}}

def normalizeHttpError (mapped:Option NativeError) (original:NativeError) (venue:Venue)
 (product:Product) (operation:String):Option NativeError:=
 match mapped.bind fun err=>err.as? Fault.exchange? with
 | none=>mapped
 | some normalized=>
  let err:=withLocalRefusal original operation <|
   withRateLimit original <| withHttpStatus original <| withDecoding original normalized
  let details:={err.details with venue,product,operation}
  (withVenueMessage (some (newError err.kind details)) none original).1

def transientResponse (original:NativeError):Bool:=
 ((original.as? Fault.http?).map fun http=>transientStatus http.statusCode).getD false

def outcomeUnknown:String:="order command outcome is unknown after possible send"

def normalizeHttpCommand (ack:OrderAcknowledgement) (mapped:Option NativeError)
 (original:NativeError) (venue:Venue) (product:Product) (operation:String):
 OrderAcknowledgement×Option NativeError:=
 let overridden:=transientResponse original
 let ack:=if overridden then {ack with state:=.ambiguous,venueMessage:=outcomeUnknown} else ack
 let mapped:=
  if overridden then
   some (newError .ambiguousOutcome
    {venue,product,operation,code:=ack.venueCode,safeMessage:=outcomeUnknown})
  else mapped
 let mapped:=normalizeHttpError mapped original venue product operation
 let (mapped,noted):=withVenueMessage mapped (some ack) original
 (noted.getD ack,mapped)

/-! ## Evidence -/

structure Evidence where
 kind:ErrorKind
 httpStatus:Int:=0
 commandNotSent:Bool:=false

def evidence (err:Exchange.Error):Evidence:=⟨err.kind,err.details.httpStatus,err.details.commandNotSent⟩

namespace Evidence

def decoded (original:NativeError) (ev:Evidence):Evidence:=
 if decodingFailed original then {ev with kind:=unlessAmbiguous ev.kind .malformedResponse} else ev

def answered (original:NativeError) (ev:Evidence):Evidence:=
 match original.as? Fault.http? with
 | none=>ev
 | some http=>
  if 500≤http.statusCode∨http.statusCode=408 then
   {ev with kind:=unlessAmbiguous ev.kind .transport,httpStatus:=http.statusCode}
  else if http.statusCode=429∨http.statusCode=418 then
   {ev with kind:=unlessAmbiguous ev.kind .rateLimit,httpStatus:=http.statusCode}
  else {ev with httpStatus:=http.statusCode}

def limited (original:NativeError) (ev:Evidence):Evidence:=
 if isError .rateLimited original && ev.kind≠.ambiguousOutcome && ev.httpStatus<500 then
  {ev with kind:=.rateLimit}
 else ev

def refused (original:NativeError) (operation:String) (ev:Evidence):Evidence:=
 match original.as? Fault.localRateLimit? with
 | none=>ev
 | some refusal=>{ev with kind:=.rateLimit,commandNotSent:=refusedCommand refusal.action operation}

def settled (original:NativeError) (operation:String) (ev:Evidence):Evidence:=
 refused original operation <| limited original <| answered original <| decoded original ev

end Evidence

def recordedStatus (original:NativeError) (status:Int):Int:=
 ((original.as? Fault.http?).map HttpError.statusCode).getD status

namespace Evidence

theorem decoded_httpStatus (original:NativeError) (ev:Evidence):
 (ev.decoded original).httpStatus=ev.httpStatus:=by
 unfold decoded
 split<;>rfl

theorem answered_httpStatus (original:NativeError) (ev:Evidence):
 (ev.answered original).httpStatus=recordedStatus original ev.httpStatus:=by
 grind [answered,recordedStatus,Fault.http?]

theorem limited_httpStatus (original:NativeError) (ev:Evidence):
 (ev.limited original).httpStatus=ev.httpStatus:=by
 unfold limited
 split<;>rfl

theorem settled_of_refusal {original:NativeError} {refusal:LocalRateLimitError}
 (h:original.as? Fault.localRateLimit?=some refusal) (operation:String) (ev:Evidence):
 ev.settled original operation =
  ⟨.rateLimit,recordedStatus original ev.httpStatus,refusedCommand refusal.action operation⟩:=by
 have hst:(((ev.decoded original).answered original).limited original).httpStatus =
   recordedStatus original ev.httpStatus:=by
  rw[limited_httpStatus,answered_httpStatus,decoded_httpStatus]
 grind [settled,refused,Evidence.mk.injEq]

theorem answered_of_quiet {original:NativeError} (ht:transientResponse original=false) (ev:Evidence):
 ev.answered original = {ev with httpStatus:=recordedStatus original ev.httpStatus}:=by
 unfold answered recordedStatus
 cases hh : original.as? Fault.http? with
 | none=>rfl
 | some http=>
  grind [transientStatus,transientResponse]

end Evidence

variable {original:NativeError}

theorem recordedStatus_lt_of_quiet (ht:transientResponse original=false) {status:Int} (hs:status<500):
 recordedStatus original status<500:=by
 unfold recordedStatus
 cases hh : original.as? Fault.http? with
 | none=>exact hs
 | some http=>
  grind [transientStatus,transientResponse]

theorem recordedStatus_recordedStatus (original:NativeError) (status:Int):
 recordedStatus original (recordedStatus original status)=recordedStatus original status:=by
 unfold recordedStatus
 cases original.as? Fault.http?<;>rfl

def quietKind (original:NativeError) (kind:ErrorKind):ErrorKind:=
 if isError .rateLimited original then unlessAmbiguous kind .rateLimit
 else if decodingFailed original then unlessAmbiguous kind .malformedResponse
 else kind

theorem quietKind_self (hlimit:isError .rateLimited original=false) (hdec:decodingFailed original=false)
 (kind:ErrorKind):quietKind original kind=kind:=by
 simp[quietKind,hlimit,hdec]

theorem quietKind_limited (hlimit:isError .rateLimited original=true) {kind:ErrorKind}
 (hkind:kind≠.ambiguousOutcome):quietKind original kind=.rateLimit:=by
 simp[quietKind,hlimit,unlessAmbiguous,hkind]

theorem quietKind_quietKind (original:NativeError) (kind:ErrorKind):
 quietKind original (quietKind original kind)=quietKind original kind:=by
 unfold quietKind unlessAmbiguous
 split_ifs<;>simp_all

theorem Evidence.settled_of_quiet (hl:original.as? Fault.localRateLimit?=none)
 (ht:transientResponse original=false) (operation:String) {ev:Evidence} (hs:ev.httpStatus<500):
 ev.settled original operation =
  ⟨quietKind original ev.kind,recordedStatus original ev.httpStatus,ev.commandNotSent⟩:=by
 have hlt:=recordedStatus_lt_of_quiet ht hs
 unfold settled refused
 rw[hl,Evidence.answered_of_quiet ht,Evidence.decoded_httpStatus]
 unfold limited decoded quietKind unlessAmbiguous
 cases isError .rateLimited original<;>cases decodingFailed original <;>
  by_cases hk:ev.kind=.ambiguousOutcome<;>simp[hk,hlt]

theorem recordedStatus_of_transient (ht:transientResponse original=true) (status other:Int):
 recordedStatus original status=recordedStatus original other:=by
 unfold recordedStatus
 cases hh : original.as? Fault.http? with
 | none=>simp[transientResponse,hh] at ht
 | some=>rfl

theorem recordedStatus_ne_zero (ht:transientResponse original=true) (status:Int):
 recordedStatus original status≠0:=by
 unfold recordedStatus
 cases hh : original.as? Fault.http? with
 | none=>simp[transientResponse,hh] at ht
 | some http=>
  grind [transientStatus,transientResponse]

theorem Evidence.settled_of_ambiguous (hl:original.as? Fault.localRateLimit?=none) (operation:String)
 (ev:Evidence) (hk:ev.kind=.ambiguousOutcome):
 (ev.settled original operation).kind=.ambiguousOutcome∧
  (ev.settled original operation).commandNotSent=ev.commandNotSent:=by
 have hdec:(ev.decoded original).kind=.ambiguousOutcome∧
   (ev.decoded original).commandNotSent=ev.commandNotSent:=by
  unfold decoded
  split<;>simp[unlessAmbiguous,hk]
 have hans:((ev.decoded original).answered original).kind=.ambiguousOutcome∧
   ((ev.decoded original).answered original).commandNotSent=ev.commandNotSent:=by
  unfold answered
  cases original.as? Fault.http? with
  | none=>exact hdec
  | some=>
   grind [unlessAmbiguous]
 grind [limited,settled,refused]

theorem isError_rateLimited_of_refusal {refusal:LocalRateLimitError}
 (h:original.as? Fault.localRateLimit?=some refusal):isError .rateLimited original=true:=by
 obtain ⟨fault,hmem,hfau⟩:=ErrorTree.exists_mem_of_as? h
 refine (ErrorTree.is_iff _ original).mpr ⟨fault,hmem,?_⟩
 cases fault<;>simp_all[Fault.localRateLimit?,Fault.answers]

theorem evidence_withDecoding (original:NativeError) (err:Exchange.Error):
 evidence (withDecoding original err)=(evidence err).decoded original:=by
 unfold withDecoding Evidence.decoded
 split<;>rfl

theorem evidence_withHttpStatus (original:NativeError) (err:Exchange.Error):
 evidence (withHttpStatus original err)=(evidence err).answered original:=by
 unfold withHttpStatus Evidence.answered
 cases original.as? Fault.http? with
 | none=>rfl
 | some=>simp only[]; split_ifs<;>rfl

theorem evidence_withRateLimit (original:NativeError) (err:Exchange.Error):
 evidence (withRateLimit original err)=(evidence err).limited original:=by
 rw[withRateLimit,apply_ite evidence]
 rfl

theorem evidence_withLocalRefusal (original:NativeError) (operation:String)
 (err:Exchange.Error):
 evidence (withLocalRefusal original operation err)=(evidence err).refused original operation:=by
 unfold withLocalRefusal Evidence.refused
 cases original.as? Fault.localRateLimit?<;>rfl

theorem withVenueMessage_leaf (err:Exchange.Error) (ack:Option OrderAcknowledgement)
 (original:NativeError):
 ∃ noted,(withVenueMessage (some (.leaf (.exchange err))) ack original).1=some (.leaf (.exchange noted))∧
  evidence noted=evidence err:=by
 unfold withVenueMessage
 simp only[bind_some,ErrorTree.as?_leaf,Fault.exchange?]
 split
 · exact ⟨err,rfl,rfl⟩
 · exact ⟨_,rfl,by simp only[evidence]⟩

theorem withVenueMessage_state (mapped:Option NativeError) (ack:OrderAcknowledgement)
 (original:NativeError):
 ∃ noted,(withVenueMessage mapped (some ack) original).2=some noted∧noted.state=ack.state:=by
 unfold withVenueMessage
 grind

theorem normalizeHttpError_evidence {m:NativeError} {normalized:Exchange.Error}
 (h:m.as? Fault.exchange?=some normalized) (original:NativeError) (venue:Venue)
 (product:Product) (operation:String):
 ∃ err,normalizeHttpError (some m) original venue product operation=some (.leaf (.exchange err))∧
  evidence err=(evidence normalized).settled original operation:=by
 unfold normalizeHttpError
 simp only[bind_some,h]
 set err:=withLocalRefusal original operation
  (withRateLimit original (withHttpStatus original (withDecoding original normalized))) with herr
 obtain ⟨noted,hn,he⟩:=withVenueMessage_leaf
  ⟨err.kind,{err.details with venue,product,operation}⟩ none original
 refine ⟨noted,hn,?_⟩
 have hsame:evidence noted=evidence err:=he
 rw[hsame,herr,evidence_withLocalRefusal,evidence_withRateLimit,evidence_withHttpStatus,
  evidence_withDecoding]
 rfl

theorem normalizeHttpError_some (mapped original:NativeError) (venue:Venue) (product:Product)
 (operation:String):∃ err,normalizeHttpError (some mapped) original venue product operation=some err:=by
 cases h : mapped.as? Fault.exchange? with
 | none=>exact ⟨mapped,by simp[normalizeHttpError,h]⟩
 | some=>
  obtain ⟨err,herr,-⟩:=normalizeHttpError_evidence h original venue product operation
  exact ⟨_,herr⟩

/-! ## Commands -/

theorem normalizeHttpCommand_evidence (ack:OrderAcknowledgement) {m:NativeError} {normalized:Exchange.Error}
 (h:m.as? Fault.exchange?=some normalized) (ht:transientResponse original=false) (venue:Venue)
 (product:Product) (operation:String):
 ∃ noted err,normalizeHttpCommand ack (some m) original venue product operation =
   (noted,some (.leaf (.exchange err)))∧
  noted.state=ack.state∧evidence err=(evidence normalized).settled original operation:=by
 obtain ⟨err,he,hev⟩:=normalizeHttpError_evidence h original venue product operation
 obtain ⟨final,hf,hfe⟩:=withVenueMessage_leaf err (some ack) original
 obtain ⟨noted,hn,hs⟩:=withVenueMessage_state (some (.leaf (.exchange err))) ack original
 grind [normalizeHttpCommand]

theorem normalizeHttpCommand_transient (ack:OrderAcknowledgement) (mapped:Option NativeError)
 (ht:transientResponse original=true) (venue:Venue) (product:Product) (operation:String):
 ∃ noted err,normalizeHttpCommand ack mapped original venue product operation =
   (noted,some (.leaf (.exchange err)))∧
  noted.state=.ambiguous∧
  evidence err=Evidence.settled original operation {kind:=.ambiguousOutcome}:=by
 set ack' : OrderAcknowledgement:={ack with state:=.ambiguous,venueMessage:=outcomeUnknown}
 set details : ErrorDetails:={venue,product,operation,code:=ack.venueCode,safeMessage:=outcomeUnknown}
 obtain ⟨err,he,hev⟩:=normalizeHttpError_evidence
  (newError_exchange .ambiguousOutcome details) original venue product operation
 obtain ⟨final,hf,hfe⟩:=withVenueMessage_leaf err (some ack') original
 obtain ⟨noted,hn,hs⟩:=withVenueMessage_state (some (.leaf (.exchange err))) ack' original
 refine ⟨noted,final,?_,hs,hfe.trans hev⟩
 simp only[normalizeHttpCommand,ht,if_true,he,hf,hn,getD_some,ack',details]

end BolterTrader.Adapters
