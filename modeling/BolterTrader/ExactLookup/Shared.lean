import BolterTrader.Adapters.HttpErrors
import BolterTrader.Exchange.ExactLookup
import BolterTrader.Foundations.Fallible

/-! What the adapters' exact lookups share (`exact_lookup.go`): the checks on a
request, the three answers with their evidence, and the portable status words. -/
namespace BolterTrader.ExactLookup
open Foundations Foundations.Fallible Exchange Adapters

def operation:String:="LookupExactOrder"

inductive Context where
 | missing | active | canceled | deadlineExceeded
 deriving DecidableEq

structure Library where
 decimalError:String→String
 integerError:String→String
 quote:String→String
 toUpper:String→String
 toLower:String→String

def asciiLibrary:Library where
 decimalError text:="can't convert " ++ text ++ " to decimal"
 integerError text:="strconv.ParseInt: parsing \"" ++ text ++ "\": invalid syntax"
 quote text:="\"" ++ text ++ "\""
 toUpper:=GoText.toUpper
 toLower:=GoText.toLower

abbrev Answer:=Except NativeError ExactOrderLookupResult

def exactLookupError (venue:Venue) (product:Product) (kind:ErrorKind) (message:String):NativeError:=
 newError kind {venue,product,operation,safeMessage:=message}

def exactLookupInstrument (ctx:Context) (request:ExactOrderLookupRequest) (venue:Venue)
  (product:Product):Except NativeError Instrument:=do
 let fail:=exactLookupError venue product
 refuse (ctx=.missing) (fail .invalidRequest "context is required")
 refuse (ctx=.canceled) (fail .canceled "context is not active")
 refuse (ctx=.deadlineExceeded) (fail .deadlineExceeded "context is not active")
 refuse (request.validate≠none) (fail .invalidRequest "invalid exact order lookup request")
 let instrument ← required (fail .invalidRequest "instrument is required for exact order lookup")
  request.instrument
 refuse (instrument.identity.venue≠venue∨instrument.identity.product≠product)
  (fail .invalidRequest "instrument does not match exact lookup client")
 return instrument

def exactLookupPositiveInt64 (text:String) (venue:Venue) (product:Product) (name:String):
 Except NativeError Int:=
 required (exactLookupError venue product .invalidRequest (name ++ " must be a positive decimal int64"))
  ((Decimal.parseInt64? text).filter fun n=>decide (0<n))

def exactLookupEvidence (request:ExactOrderLookupRequest) (venue:Venue) (product:Product)
 (instrument:Instrument) (authoritative complete:Bool):ExactOrderEvidence:=
 let evidence : ExactOrderEvidence:=
  {scope:={venue,product,instrument:=some instrument},authoritative,complete}
 if request.clientOrderId≠"" then
  {evidence with method:=.clientOrderId,observedClientOrderId:=request.clientOrderId}
 else {evidence with method:=.venueOrderId,observedVenueOrderId:=request.venueOrderId}

def validated (result:ExactOrderLookupResult) (err:NativeError):Answer:=
 if result.validate=none then .ok result else .error err

def exactLookupFound (request:ExactOrderLookupRequest) (venue:Venue) (product:Product)
 (instrument:Instrument) (order:Order):Answer:=
 validated
  {status:=.found,order,evidence:=exactLookupEvidence request venue product instrument true true}
  (exactLookupError venue product .malformedResponse "exact order response identity is inconsistent")

def exactLookupNotFound (request:ExactOrderLookupRequest) (venue:Venue) (product:Product)
 (instrument:Instrument):Answer:=
 validated
  {status:=.notFound,evidence:=exactLookupEvidence request venue product instrument true true}
  (exactLookupError venue product .malformedResponse "exact not-found evidence is inconsistent")

def exactLookupUnconfirmed (request:ExactOrderLookupRequest) (venue:Venue) (product:Product)
 (instrument:Instrument) (cursor:String):Answer:=
 validated
  { status:=.unconfirmed
    evidence:={exactLookupEvidence request venue product instrument false false with
     method:=.openOrders,nativeCursor:=cursor}}
  (exactLookupError venue product .malformedResponse "unconfirmed exact order evidence is inconsistent")

/-! ## Status words -/

def unsupportedStatus:String:="unsupported exact order status"

def portableWord (word:String):Option String:=
 let status:=GoText.replaceRune ' ' '_' (GoText.replaceRune '-' '_' word)
 if status∈["accepted","accepted_pending","pending","in_progress"] then some "pending"
 else if status∈["new","live","open","resting"] then some "open"
 else if status∈["partially_filled","partiallyfilled","partial"] then some "partially_filled"
 else if status="filled" then some "filled"
 else if status∈["canceled","cancelled","expired","mmp_canceled"] then some "canceled"
 else if status="rejected" then some "rejected"
 else if GoText.contains status "cancel" then some "canceled"
 else if GoText.hasSuffix status "rejected" then some "rejected"
 else none

def exactPortableOrderStatus (raw:String):Option String:=portableWord (GoText.toLower (GoText.trimSpace raw))

/-! ## What an answer promises -/

structure Kept (request:ExactOrderLookupRequest) (said:Instrument→Prop)
  (converted:Instrument→Order→Prop) (result:ExactOrderLookupResult):Prop where
 clientId:result.status=.found→ request.clientOrderId≠"" → result.order.clientOrderId=request.clientOrderId
 venueId:result.status=.found→ request.venueOrderId≠"" → result.order.orderId=request.venueOrderId
 instrument:result.status=.found → ∃ instrument,request.instrument=some instrument∧
  result.order.nativeSymbol=instrument.identity.nativeSymbol∧
  (result.order.nativeId=""∨result.order.nativeId=instrument.identity.nativeId)∧
  converted instrument result.order
 notFound:result.status=.notFound → ∃ instrument,request.instrument=some instrument∧said instrument
 decided:result.status≠.unset

section
variable {request:ExactOrderLookupRequest} {said:Instrument→Prop} {converted:Instrument→Order→Prop}
 {result answer:ExactOrderLookupResult} {venue:Venue} {product:Product} {instrument:Instrument}
 {order:Order} {err:NativeError}

theorem validated_eq_ok (h:validated result err=.ok answer):result.validate=none∧answer=result:=by
 grind [validated]

theorem Kept.of_evidence (hreq:request.validate=none) (hins:request.instrument=some instrument)
 (hst:result.status=.found) (hval:result.validate=none)
 (hevi:result.evidence=exactLookupEvidence request venue product instrument true true)
 (hsym:result.order.nativeSymbol=instrument.identity.nativeSymbol)
 (hid:result.order.nativeId=""∨result.order.nativeId=instrument.identity.nativeId)
 (hrow:converted instrument result.order):Kept request said converted result:=by
 obtain ⟨hcl,hven⟩:=ExactOrderLookupResult.identity_of_validate hval hst
 rw[hevi] at hcl hven
 refine ⟨?_,?_,fun _=>⟨instrument,hins,hsym,hid,hrow⟩,?_,?_⟩
 all_goals grind [exactLookupEvidence,ExactOrderLookupRequest.one_identity]

theorem Kept.found (hreq:request.validate=none) (hins:request.instrument=some instrument)
 (h:exactLookupFound request venue product instrument order=.ok result)
 (hsym:order.nativeSymbol=instrument.identity.nativeSymbol)
 (hid:order.nativeId=""∨order.nativeId=instrument.identity.nativeId) (hrow:converted instrument order):
 Kept request said converted result:=by
 obtain ⟨hval,rfl⟩:=validated_eq_ok h
 grind [Kept.of_evidence]

theorem Kept.missing (hins:request.instrument=some instrument) (hsaid:said instrument)
 (hst:result.status=.notFound):Kept request said converted result:=by
 constructor<;>simp[hst,hins,hsaid]

theorem Kept.unconfirmed {cur:String}
 (h:exactLookupUnconfirmed request venue product instrument cur=.ok result):
 Kept request said converted result:=by
 obtain ⟨-,rfl⟩:=validated_eq_ok h
 constructor<;>simp

theorem Kept.failed {mpp org:NativeError} {op:String}
 (h:returned {} (normalizeHttpError (some mpp) org venue product op)=.ok result):
 Kept request said converted result:=by
 obtain ⟨err,herr⟩:=normalizeHttpError_some mpp org venue product op
 rw[herr] at h
 cases h

theorem notFound_status (h:exactLookupNotFound request venue product instrument=.ok result):
 result.status=.notFound:=by
 obtain ⟨-,rfl⟩:=validated_eq_ok h
 rfl

end

theorem exactLookupInstrument_ok {ctx:Context} {request:ExactOrderLookupRequest} {venue:Venue}
 {product:Product} {instrument:Instrument}
 (h:exactLookupInstrument ctx request venue product=.ok instrument):
 request.validate=none∧request.instrument=some instrument:=by
 replace h:=past (past (past h))
 obtain ⟨_,hval,h⟩:=bind_eq_ok h
 obtain ⟨fnd,hfd,h⟩:=bind_eq_ok h
 obtain ⟨_,-,h⟩:=bind_eq_ok h
 have hsame:fnd=instrument:=Except.ok.inj h
 exact ⟨not_not.mp (refuse_eq_ok hval),hsame▸required_eq_ok hfd⟩

end BolterTrader.ExactLookup
